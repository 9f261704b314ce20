import HeaderBindings.Layout
import Mathlib.Algebra.BigOperators.Group.List.Basic
import Mathlib.Algebra.Group.Int.Defs
import Mathlib.Data.Int.ModEq
import Mathlib.Data.List.Basic

/-!
# Layouts and the sums of their fields

The fields are summed one after another and every partial sum wraps. The wraps of the partial sums
leave no trace: the total is the one 32-bit integer that is congruent to the exact sum
(`Layout.congruent_iff_eq_sum`), so the order of the fields does not matter either.

Which fields a platform has is written down four times: in the count, in the layouts, in the fields
that a layout is built from, and in the native records. The four agree. Fields make a layout if they
are as many as the platform counts (`Layout.exists_ofFields_iff`), and a layout and the native
record of its platform are built from each other (`Native.ofLayout_eq_ok_iff`).
-/

namespace HeaderBindings

namespace Layout

/-- Whether an integer differs from the exact sum of fields by a multiple of 2 to the 32. -/
def CongruentToSum (fields : List Int32) (total : Int) : Prop :=
  total ≡ (fields.map Int32.toInt).sum [ZMOD 0x100000000]

instance (fields : List Int32) (total : Int) : Decidable (CongruentToSum fields total) :=
  inferInstanceAs (Decidable (total ≡ (fields.map Int32.toInt).sum [ZMOD 0x100000000]))

theorem toInt_add_modEq (a b : Int32) : (a + b).toInt ≡ a.toInt + b.toInt [ZMOD 0x100000000] := by
  rw [Int32.toInt_add]
  exact Int.bmod_emod

theorem eq_of_toInt_modEq {a b : Int32} (same : a.toInt ≡ b.toInt [ZMOD 0x100000000]) : a = b := by
  have lowA := Int32.le_toInt a
  have highA := Int32.toInt_lt a
  have lowB := Int32.le_toInt b
  have highB := Int32.toInt_lt b
  apply Int32.toInt_inj.1
  unfold Int.ModEq at same
  omega

/-- One field after another: what the sum so far lost by wrapping is a multiple of the modulus, and
adding a field keeps it so. -/
theorem toInt_foldl_add_modEq (fields : List Int32) (start : Int32) :
    (fields.foldl (· + ·) start).toInt ≡
      start.toInt + (fields.map Int32.toInt).sum [ZMOD 0x100000000] := by
  induction fields generalizing start with
  | nil => simp [Int.ModEq]
  | cons field rest ih =>
    calc
      ((field :: rest).foldl (· + ·) start).toInt
          ≡ (start + field).toInt + (rest.map Int32.toInt).sum [ZMOD 0x100000000] := ih _
      _ ≡ start.toInt + field.toInt + (rest.map Int32.toInt).sum [ZMOD 0x100000000] :=
        (toInt_add_modEq start field).add_right _
      _ = start.toInt + ((field :: rest).map Int32.toInt).sum := by
        rw [List.map_cons, List.sum_cons, Int.add_assoc]

theorem congruentToSum_sum (fields : List Int32) : CongruentToSum fields (sum fields).toInt := by
  have wrapped := toInt_foldl_add_modEq fields 0
  rw [show Int32.toInt 0 = 0 from rfl, Int.zero_add] at wrapped
  exact wrapped

/-- The total is the only 32-bit integer that is congruent to the exact sum. -/
theorem congruent_iff_eq_sum (fields : List Int32) (t : Int32) :
    CongruentToSum fields t.toInt ↔ t = sum fields := by
  constructor
  · intro congruent
    apply eq_of_toInt_modEq
    exact Int.ModEq.trans congruent (congruentToSum_sum fields).symm
  · intro same
    rw [same]
    exact congruentToSum_sum fields

theorem sum_perm {fields others : List Int32} (reordered : others.Perm fields) :
    sum others = sum fields := by
  apply (congruent_iff_eq_sum fields _).1
  have same : (others.map Int32.toInt).sum = (fields.map Int32.toInt).sum :=
    (reordered.map _).sum_eq
  unfold CongruentToSum
  rw [← same]
  exact congruentToSum_sum others

/-- Every layout has as many fields as its platform counts. -/
theorem length_fields (l : Layout) : l.fields.length = l.platform.fieldCount := by
  cases l <;> rfl

theorem ofFields_fields (l : Layout) : ofFields l.platform l.fields = .ok l := by
  cases l <;> rfl

/-- The layout of given fields is the one of the platform that has these fields. -/
theorem ofFields_eq_ok_iff (p : Platform) (fields : List Int32) (l : Layout) :
    ofFields p fields = .ok l ↔ l.platform = p ∧ l.fields = fields := by
  constructor
  · intro built
    unfold ofFields at built
    split at built
    all_goals cases built
    all_goals exact ⟨rfl, rfl⟩
  · rintro ⟨rfl, rfl⟩
    exact l.ofFields_fields

/-- As many fields as a platform counts match the fields that it declares. -/
theorem exists_ofFields {p : Platform} {fields : List Int32}
    (count : fields.length = p.fieldCount) : ∃ l, ofFields p fields = .ok l := by
  cases p with
  | linux =>
    obtain ⟨a, rfl⟩ := List.length_eq_one_iff.1 count
    exact ⟨linux a, rfl⟩
  | macos =>
    obtain ⟨a, b, rfl⟩ := List.length_eq_two.1 count
    exact ⟨macos a b, rfl⟩
  | ios =>
    obtain ⟨a, b, c, rfl⟩ := List.length_eq_three.1 count
    exact ⟨ios a b c, rfl⟩
  | windows =>
    obtain ⟨a, b, c, d, rfl⟩ := List.length_eq_four.1 count
    exact ⟨windows a b c d, rfl⟩

theorem exists_ofFields_iff (p : Platform) (fields : List Int32) :
    (∃ l, ofFields p fields = .ok l) ↔ fields.length = p.fieldCount := by
  constructor
  · intro ⟨l, built⟩
    obtain ⟨rfl, rfl⟩ := (ofFields_eq_ok_iff p fields l).1 built
    exact l.length_fields
  · exact exists_ofFields

theorem ofFields_of_length_ne {p : Platform} {fields : List Int32}
    (mismatch : fields.length ≠ p.fieldCount) :
    ofFields p fields = .error (.layoutMismatch p.name p.fieldCount fields.length) := by
  unfold ofFields
  split
  case h_5 => rfl
  all_goals exact absurd rfl mismatch

/-- What a layout built from fields has to do with them. -/
structure Holds (l : Layout) (p : Platform) (given : List Int32) : Prop where
  platform : l.platform = p
  fields : l.fields = given
  total : ∀ t : Int32, CongruentToSum given t.toInt ↔ t = l.total
  reordered : ∀ others : List Int32, others.Perm given →
    ∃ m, ofFields p others = .ok m ∧ m.total = l.total

theorem holds_of_ofFields {p : Platform} {fields : List Int32} {l : Layout}
    (built : ofFields p fields = .ok l) : l.Holds p fields := by
  obtain ⟨rfl, rfl⟩ := (ofFields_eq_ok_iff p fields l).1 built
  refine ⟨rfl, rfl, congruent_iff_eq_sum l.fields, fun others reordered => ?_⟩
  obtain ⟨m, other⟩ := exists_ofFields (reordered.length_eq.trans l.length_fields)
  have held := ((ofFields_eq_ok_iff _ others m).1 other).2
  refine ⟨m, other, ?_⟩
  rw [total, total, held, sum_perm reordered]

end Layout

namespace Native

theorem platform_layout {c : Platform} (n : Native c) : n.layout.platform = c := by
  obtain ⟨record⟩ := n
  cases record <;> rfl

theorem ofLayout_layout {c : Platform} (n : Native c) : ofLayout c n.layout = .ok n := by
  obtain ⟨record⟩ := n
  cases record <;> rfl

/-- The native aggregate and the layout are built from each other. -/
theorem ofLayout_eq_ok_iff (c : Platform) (l : Layout) (n : Native c) :
    ofLayout c l = .ok n ↔ n.layout = l := by
  constructor
  · intro built
    unfold ofLayout at built
    split at built
    all_goals cases built
    all_goals rfl
  · rintro rfl
    exact n.ofLayout_layout

theorem exists_ofLayout_iff (c : Platform) (l : Layout) :
    (∃ n, ofLayout c l = .ok n) ↔ l.platform = c := by
  constructor
  · intro ⟨n, built⟩
    rw [← (ofLayout_eq_ok_iff c l n).1 built]
    exact n.platform_layout
  · rintro rfl
    cases l <;> exact ⟨_, rfl⟩

end Native

/-- Fields make a layout exactly if they are as many as the platform has; its total is the 32-bit
integer that is congruent to their exact sum, in whatever order they stand. A layout makes a native
aggregate exactly on its own platform; the aggregate shows the same layout and has the same total,
also through the exported function, and no two aggregates show one layout. -/
theorem aggregate_total_is_wrapped_sum (p : Platform) (fields : List Int32) :
    ((∃ l, Layout.ofFields p fields = .ok l) ↔ fields.length = p.fieldCount) ∧
    (∀ l, Layout.ofFields p fields = .ok l → l.Holds p fields) ∧
    (fields.length ≠ p.fieldCount → Layout.ofFields p fields =
      .error (.layoutMismatch p.name p.fieldCount fields.length)) ∧
    ∀ (c : Platform) (l : Layout),
      ((∃ n, Native.ofLayout c l = .ok n) ↔ l.platform = c) ∧
      ∀ n, Native.ofLayout c l = .ok n ↔
        n.layout = l ∧ n.total = l.total ∧ exportedTotal n = l.total := by
  refine ⟨Layout.exists_ofFields_iff p fields, fun l built => Layout.holds_of_ofFields built,
    Layout.ofFields_of_length_ne, fun c l => ⟨Native.exists_ofLayout_iff c l, fun n => ?_⟩⟩
  rw [Native.ofLayout_eq_ok_iff]
  constructor
  · intro same
    subst same
    exact ⟨rfl, rfl, rfl⟩
  · intro shown
    exact shown.1

/-- Two fields whose sum wraps, in both orders; a field too many; and the native aggregate on its
own platform and on another one. -/
theorem aggregate_total_is_wrapped_sum_samples :
    ∃ l, Layout.ofFields .macos [2147483647, 1] = .ok l ∧
      l.platform = .macos ∧ l.fields = [2147483647, 1] ∧ l.total = -2147483648 ∧
      (∃ m, Layout.ofFields .macos [1, 2147483647] = .ok m ∧ m.total = l.total) ∧
      Layout.ofFields .linux [2147483647, 1] = .error (.layoutMismatch "linux" 1 2) ∧
      (∃ n, Native.ofLayout .macos l = .ok n ∧ exportedTotal n = -2147483648) ∧
      ¬ ∃ n, Native.ofLayout .ios l = .ok n := by
  obtain ⟨accepted, held, -, native⟩ := aggregate_total_is_wrapped_sum .macos [2147483647, 1]
  obtain ⟨l, built⟩ := accepted.2 rfl
  have facts := held l built
  have total : l.total = -2147483648 := ((facts.total _).1 (by decide)).symm
  obtain ⟨n, mirrored⟩ := (native .macos l).1.2 facts.platform
  refine ⟨l, built, facts.platform, facts.fields, total, facts.reordered _ (.swap _ _ _), ?_,
    ⟨n, mirrored, ?_⟩, ?_⟩
  · exact (aggregate_total_is_wrapped_sum .linux [2147483647, 1]).2.2.1 (by decide)
  · rw [(((native .macos l).2 n).1 mirrored).2.2, total]
  · intro foreign
    have other := (native .ios l).1.1 foreign
    rw [facts.platform] at other
    cases other

end HeaderBindings
