import HeaderBindings.Json.Printer
import HeaderBindings.Proofs.Json.Literal
import HeaderBindings.Proofs.Json.Numeral

/-!
# Pretty text reads back

The pretty text of a value is a reading of that value, complete and without a fault
(`ofText_pretty`). This holds for plain values, whose numerals are integers and whose
literals are texts; only such values are ever written.

The scanner and the machine that builds values are followed together: `readFrom` is what
a state of the machine makes of the characters that are left. A separator leaves it as it
is, a token moves the state by one step, and so the text of a value takes the machine from
a place where a value may start to the place behind that value, whatever containers are
open and whatever text follows.
-/

namespace HeaderBindings.Json

/-- A value without faults whose numerals are integers and whose literals are texts. -/
inductive Value.Plain : Value → Prop
  | null : Plain .null
  | bool (b : Bool) : Plain (.bool b)
  | ofInt (i : Int) : Plain (.ofInt i)
  | ofString (s : String) : Plain (.ofString s)
  | array (items : List Value) (each : ∀ v ∈ items, Plain v) : Plain (.array items)
  | object (entries : List (String × Value)) (each : ∀ e ∈ entries, Plain e.2) :
      Plain (.object (entries.map fun e => member e.1 e.2))

/-- A member with a text for its key and a plain value. -/
def Member.Plain (m : Member) : Prop :=
  ∃ key value, m = member key value ∧ value.Plain

theorem plain_member {key : String} {value : Value} (plain : value.Plain) :
    (member key value).Plain :=
  ⟨key, value, rfl, plain⟩

theorem Value.Plain.ofMembers {members : List Member} (each : ∀ m ∈ members, m.Plain) :
    (Value.object members).Plain := by
  have listed : ∃ entries : List (String × Value),
      members = entries.map (fun e => member e.1 e.2) ∧ ∀ e ∈ entries, e.2.Plain := by
    induction members with
    | nil => exact ⟨[], rfl, by simp⟩
    | cons m rest ih =>
      obtain ⟨key, value, rfl, plain⟩ := each m List.mem_cons_self
      obtain ⟨entries, rfl, plains⟩ := ih fun m later => each m (List.mem_cons_of_mem _ later)
      exact ⟨(key, value) :: entries, rfl, List.forall_mem_cons.2 ⟨plain, plains⟩⟩
  obtain ⟨entries, rfl, plains⟩ := listed
  exact .object entries plains

section Lexing

theorem lexedFrom_separator {c : Char} (separator : isSeparator c = true) (done : List Token)
    (cs : List Char) : lexedFrom done (c :: cs) = lexedFrom done cs := by
  rw [lexedFrom, if_pos separator]

theorem lexedFrom_token {t : Token} {c : Char} {cs after : List Char}
    (noSeparator : isSeparator c = false) (scanned : scanToken (c :: cs) = .ok (t, after))
    (done : List Token) : lexedFrom done (c :: cs) = lexedFrom (t :: done) after := by
  rw [lexedFrom, if_neg (by simp [noSeparator])]
  split
  · rename_i refused
    rw [scanned] at refused
    cases refused
  · rename_i read
    rw [scanned] at read
    cases read
    rfl

theorem lexedFrom_fault {fault : LexicalFault} {c : Char} {cs : List Char}
    (noSeparator : isSeparator c = false) (scanned : scanToken (c :: cs) = .error fault)
    (done : List Token) : lexedFrom done (c :: cs) = ⟨done.reverse, some fault⟩ := by
  rw [lexedFrom, if_neg (by simp [noSeparator])]
  split
  · rename_i refused
    rw [scanned] at refused
    cases refused
    rfl
  · rename_i read
    rw [scanned] at read
    cases read

/-- The tokens read before only stand in front of those read next. -/
theorem lexedFrom_eq (done : List Token) (cs : List Char) :
    lexedFrom done cs = ⟨done.reverse ++ (lexedFrom [] cs).tokens, (lexedFrom [] cs).fault⟩ := by
  -- The token case reads on behind one token from two lists, so the induction is on the length.
  induction length : cs.length using Nat.strongRecOn generalizing done cs with
  | ind n ih =>
    cases cs with
    | nil => simp [lexedFrom]
    | cons c rest =>
      cases separator : isSeparator c with
      | true =>
        rw [lexedFrom_separator separator, lexedFrom_separator separator]
        exact ih rest.length (by simp [← length]) done rest rfl
      | false =>
        cases scanned : scanToken (c :: rest) with
        | error fault =>
          rw [lexedFrom_fault separator scanned, lexedFrom_fault separator scanned]
          simp
        | ok read =>
          obtain ⟨t, after⟩ := read
          have shorter : after.length < n := length ▸ length_of_scanToken scanned
          rw [lexedFrom_token separator scanned, lexedFrom_token separator scanned,
            ih _ shorter (t :: done) after rfl, ih _ shorter [t] after rfl]
          simp

/-- No token starts with a separator. -/
theorem scanToken_separator {c : Char} (separator : isSeparator c = true) (cs : List Char) :
    scanToken (c :: cs) = .error .noToken := by
  simp only [isSeparator, Bool.or_eq_true, beq_iff_eq] at separator
  rcases separator with ((rfl | rfl) | rfl) | rfl <;> rfl

end Lexing

/-- What a state makes of the characters that are left. -/
def Build.readFrom (b : Build) (cs : List Char) : Reading :=
  b.run (((lexedFrom [] cs).fault.map Standing.unreadable).getD .textEnd) (lexedFrom [] cs).tokens

theorem ofText_eq_readFrom (s : String) :
    Reading.ofText s = Build.readFrom ⟨.value, []⟩ s.toList :=
  rfl

section Steps

variable {b next : Build}

theorem readFrom_separator (b : Build) {c : Char} (separator : isSeparator c = true)
    (cs : List Char) : b.readFrom (c :: cs) = b.readFrom cs := by
  simp only [Build.readFrom, lexedFrom_separator separator]

/-- A token moves the machine by one step. -/
theorem readFrom_token {t : Token} {cs after : List Char} (scanned : scanToken cs = .ok (t, after))
    (step : b.step t = some next) : b.readFrom cs = next.readFrom after := by
  cases cs with
  | nil => simp [scanToken] at scanned
  | cons c rest =>
    have noSeparator : isSeparator c = false := by
      rw [Bool.eq_false_iff]
      intro separator
      rw [scanToken_separator separator] at scanned
      cases scanned
    have lexed := lexedFrom_token noSeparator scanned []
    rw [lexedFrom_eq [t] after] at lexed
    simp only [Build.readFrom, lexed, List.reverse_singleton, List.singleton_append, Build.run,
      step]

theorem readFrom_after_nil (v : Value) : Build.readFrom ⟨.after v, []⟩ [] = ⟨v, .complete⟩ := by
  simp [Build.readFrom, lexedFrom, Build.run, Build.finish]

theorem readFrom_lineBreak (b : Build) (depth : Nat) (cs : List Char) :
    b.readFrom (lineBreak depth ++ cs) = b.readFrom cs := by
  have spaces : ∀ n, b.readFrom (List.replicate n ' ' ++ cs) = b.readFrom cs := by
    intro n
    induction n with
    | zero => rfl
    | succ n ih => rw [List.replicate_succ, List.cons_append, readFrom_separator b rfl, ih]
  rw [lineBreak, List.cons_append, readFrom_separator b rfl, spaces]

/-- A literal is one token, whatever follows its closing quote. -/
theorem scanToken_literal (s : String) (rest : List Char) :
    scanToken ((Literal.encode s).text ++ rest) = .ok (.literal (.encode s), rest) := by
  have scanned := scanLiteral_encode [] s.toList rest
  simp only [List.reverse_nil, List.nil_append] at scanned
  simp [Literal.text, Literal.encode, scanToken, scanned, Scanned.token]

/-- A numeral is one token if nothing behind it extends it. -/
theorem scanToken_ofInt (i : Int) {rest : List Char} (closes : ClosesNumeral rest) :
    scanToken ((Numeral.ofInt i).text ++ rest) = .ok (.numeral (.ofInt i), rest) := by
  have scanned := scanNumeral_ofInt closes i
  obtain ⟨c, digits, split, first⟩ := text_ofInt_eq_cons i
  rw [split, List.cons_append] at scanned ⊢
  have start : (c == '-' || c.isDigit) = true := by simpa using first
  rw [scanToken, if_pos start, scanned]
  · rfl
  all_goals
    rintro rfl
    exact absurd start (by decide)

end Steps

/-- Whether a value may start where the machine is. -/
def Expected.StartsValue (e : Expected) : Prop :=
  e = .value ∨ e = .itemOrEnd

theorem step_of_startsValue {e : Expected} (starts : e.StartsValue) (stack : List Frame)
    {t : Token} (goesOn : t ≠ .closeBracket) :
    Build.step ⟨e, stack⟩ t = Build.start stack t := by
  rcases starts with rfl | rfl
  · rfl
  · cases t <;> first | rfl | exact absurd rfl goesOn

/-- Whether a key may start where the machine is, behind the given members. -/
def Expected.StartsKey (e : Expected) (members : List Member) : Prop :=
  e = .key members ∨ (e = .keyOrEnd ∧ members = [])

theorem step_of_startsKey {e : Expected} {members : List Member} (starts : e.StartsKey members)
    (stack : List Frame) (l : Literal) :
    Build.step ⟨e, stack⟩ (.literal l) = some ⟨.colon members l, stack⟩ := by
  rcases starts with rfl | ⟨rfl, rfl⟩ <;> rfl

/-- The text of a value takes the machine from where a value may start to behind that value. -/
def Value.ReadsBack (v : Value) : Prop :=
  ∀ (depth : Nat) (e : Expected) (stack : List Frame) (rest : List Char), e.StartsValue →
    ClosesNumeral rest →
    Build.readFrom ⟨e, stack⟩ (prettyValue depth v ++ rest) =
      Build.readFrom ⟨.after v, stack⟩ rest

section Containers

variable {depth : Nat} {stack : List Frame} {rest : List Char}

theorem closesNumeral_lineBreak (depth : Nat) (rest : List Char) :
    ClosesNumeral (lineBreak depth ++ rest) := by
  simp [lineBreak]

theorem closesNumeral_prettyItems (items : List Value) (outer : Nat) :
    ClosesNumeral (prettyItems depth items ++ (lineBreak outer ++ rest)) := by
  cases items with
  | nil => exact closesNumeral_lineBreak outer rest
  | cons => simp [prettyItems]

theorem closesNumeral_prettyMembers (members : List Member) (outer : Nat) :
    ClosesNumeral (prettyMembers depth members ++ (lineBreak outer ++ rest)) := by
  cases members with
  | nil => exact closesNumeral_lineBreak outer rest
  | cons => simp [prettyMembers]

/-- The items behind the first one, and the end of their array. -/
theorem readFrom_prettyItems {items : List Value} (each : ∀ v ∈ items, v.ReadsBack)
    (outer : Nat) (done : List Value) (first : Value) :
    Build.readFrom ⟨.after first, .array done :: stack⟩
        (prettyItems depth items ++ (lineBreak outer ++ ']' :: rest)) =
      Build.readFrom ⟨.after (.array (done.reverse ++ first :: items)), stack⟩ rest := by
  induction items generalizing done first with
  | nil =>
    rw [prettyItems, List.nil_append, readFrom_lineBreak,
      readFrom_token (t := .closeBracket) rfl rfl, List.reverse_cons]
  | cons item items ih =>
    simp only [prettyItems, List.cons_append, List.append_assoc]
    rw [readFrom_token (t := .comma) rfl rfl, readFrom_lineBreak,
      each item List.mem_cons_self _ _ _ _ (.inl rfl) (closesNumeral_prettyItems items outer),
      ih fun v later => each v (List.mem_cons_of_mem item later)]
    simp

/-- A member, from where its key may start to behind its value. -/
theorem readFrom_prettyMember {e : Expected} {members : List Member} (starts : e.StartsKey members)
    {value : Value} (reads : value.ReadsBack) (closes : ClosesNumeral rest) (key : String) :
    Build.readFrom ⟨e, stack⟩ (prettyMember depth (member key value) ++ rest) =
      Build.readFrom ⟨.after value, .object members (.encode key) :: stack⟩ rest := by
  simp only [member, prettyMember, List.cons_append, List.append_assoc]
  rw [readFrom_token (scanToken_literal key _) (step_of_startsKey starts stack _),
    readFrom_token (t := .colon) rfl rfl, readFrom_separator _ rfl,
    reads _ _ _ _ (.inl rfl) closes]

/-- The members behind the first one, and the end of their object. -/
theorem readFrom_prettyMembers {entries : List (String × Value)}
    (each : ∀ e ∈ entries, e.2.ReadsBack) (outer : Nat) (done : List Member) (key : Literal)
    (first : Value) :
    Build.readFrom ⟨.after first, .object done key :: stack⟩
        (prettyMembers depth (entries.map fun e => member e.1 e.2) ++
          (lineBreak outer ++ '\x7d' :: rest)) =
      Build.readFrom
        ⟨.after (.object (done.reverse ++ .mk key first :: entries.map fun e => member e.1 e.2)),
          stack⟩ rest := by
  induction entries generalizing done key first with
  | nil =>
    rw [List.map_nil, prettyMembers, List.nil_append, readFrom_lineBreak,
      readFrom_token (t := .closeBrace) rfl rfl, List.reverse_cons]
  | cons entry entries ih =>
    simp only [List.map_cons, prettyMembers, List.cons_append, List.append_assoc]
    rw [readFrom_token (t := .comma) rfl rfl, readFrom_lineBreak,
      readFrom_prettyMember (.inl rfl) (each entry List.mem_cons_self)
        (closesNumeral_prettyMembers _ outer),
      ih fun e later => each e (List.mem_cons_of_mem entry later)]
    simp [member]

end Containers

theorem Value.ReadsBack.array {items : List Value} (each : ∀ v ∈ items, v.ReadsBack) :
    (Value.array items).ReadsBack := by
  intro depth e stack rest starts closes
  cases items with
  | nil =>
    rw [prettyValue, List.cons_append,
      readFrom_token (t := .openBracket) rfl (step_of_startsValue starts stack (by decide)),
      List.singleton_append, readFrom_token (t := .closeBracket) rfl rfl]
    rfl
  | cons item items =>
    simp only [prettyValue, List.cons_append, List.append_assoc, List.nil_append]
    rw [readFrom_token (t := .openBracket) rfl (step_of_startsValue starts stack (by decide)),
      readFrom_lineBreak, each item List.mem_cons_self _ _ _ _ (.inr rfl)
        (closesNumeral_prettyItems items depth),
      readFrom_prettyItems fun v later => each v (List.mem_cons_of_mem item later)]
    rfl

theorem Value.ReadsBack.object {entries : List (String × Value)}
    (each : ∀ e ∈ entries, e.2.ReadsBack) :
    (Value.object (entries.map fun e => member e.1 e.2)).ReadsBack := by
  intro depth e stack rest starts closes
  cases entries with
  | nil =>
    rw [List.map_nil, prettyValue, List.cons_append,
      readFrom_token (t := .openBrace) rfl (step_of_startsValue starts stack (by decide)),
      List.singleton_append, readFrom_token (t := .closeBrace) rfl rfl]
  | cons entry entries =>
    simp only [List.map_cons, prettyValue, List.cons_append, List.append_assoc, List.nil_append]
    rw [readFrom_token (t := .openBrace) rfl (step_of_startsValue starts stack (by decide)),
      readFrom_lineBreak,
      readFrom_prettyMember (.inr ⟨rfl, rfl⟩) (each entry List.mem_cons_self)
        (closesNumeral_prettyMembers _ depth),
      readFrom_prettyMembers fun e later => each e (List.mem_cons_of_mem entry later)]
    rfl

theorem Value.Plain.readsBack {v : Value} (plain : v.Plain) : v.ReadsBack := by
  induction plain with
  | null =>
    intro depth e stack rest starts closes
    exact readFrom_token (t := .null) rfl (step_of_startsValue starts stack (by decide))
  | bool b =>
    intro depth e stack rest starts closes
    cases b <;>
      exact readFrom_token (t := .bool _) rfl (step_of_startsValue starts stack (by decide))
  | ofInt i =>
    intro depth e stack rest starts closes
    exact readFrom_token (scanToken_ofInt i closes)
      (step_of_startsValue starts stack (by simp))
  | ofString s =>
    intro depth e stack rest starts closes
    exact readFrom_token (scanToken_literal s rest)
      (step_of_startsValue starts stack (by simp))
  | array items each ih => exact .array ih
  | object entries each ih => exact .object ih

/-- The pretty text of a plain value reads back as that value. -/
theorem ofText_pretty {v : Value} (plain : v.Plain) : Reading.ofText v.pretty = ⟨v, .complete⟩ := by
  have read := plain.readsBack 0 .value [] [] (.inl rfl) closesNumeral_nil
  rw [List.append_nil, readFrom_after_nil] at read
  rw [ofText_eq_readFrom, Value.pretty, String.toList_ofList, read]

end HeaderBindings.Json
