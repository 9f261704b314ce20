import HeaderBindings.Platform
import Mathlib.Data.List.Basic

/-!
# Names of platforms

A name is looked up in normal form: as a short name first, then by the components of a triple.
Short names have no dash, so a name with a dash is decided by the set of its components alone
(`ofNormalized?_congr`), and a name that is refused is reported as it was given.

The precedence among the components decides which of several platforms a triple stands for. The
last of its tests keeps Android apart from Linux, but by the component `android` alone: a triple
with a longer one, such as `androideabi`, passes for Linux (`android_triple_is_linux_iff`).
-/

namespace HeaderBindings

open HeaderBindings.Text

namespace Text

theorem length_splitAtChar (separator : Char) (cs : List Char) :
    (splitAtChar separator cs).length = cs.count separator + 1 := by
  induction cs with
  | nil => rfl
  | cons c rest ih =>
    unfold splitAtChar
    by_cases same : c = separator
    · rw [if_pos same, List.length_cons, ih, same, List.count_cons_self]
    · rw [if_neg same, List.count_cons_of_ne same]
      cases split : splitAtChar separator rest with
      | nil => simp [split] at ih
      | cons piece pieces => simpa [split] using ih

theorem splitAtChar_of_not_mem {separator : Char} {cs : List Char} (absent : separator ∉ cs) :
    splitAtChar separator cs = [cs] := by
  induction cs with
  | nil => rfl
  | cons c rest ih =>
    simp only [List.mem_cons, not_or] at absent
    rw [splitAtChar, if_neg (Ne.symm absent.1), ih absent.2]

end Text

namespace Platform

theorem length_components (triple : String) :
    (components triple).length = triple.toList.count '-' + 1 := by
  rw [components, List.length_map, length_splitAtChar]

theorem components_of_no_dash {name : String} (single : '-' ∉ name.toList) :
    components name = [name] := by
  rw [components, splitAtChar_of_not_mem single, List.map_singleton, String.ofList_toList]

/-- A short name is a single component, and no component of an Android triple. -/
theorem plain_of_shortName {name : String} {p : Platform} (known : ofShortName? name = some p) :
    '-' ∉ name.toList ∧ ¬ "android".toList <+: name.toList := by
  obtain ⟨before, behind, table, -⟩ := List.lookup_eq_some_iff.1 known
  have listed : (name, p) ∈ before ++ (name, p) :: behind := by simp
  rw [← table] at listed
  refine (?_ : ∀ e ∈ _, '-' ∉ e.1.toList ∧ ¬ "android".toList <+: e.1.toList) (name, p) listed
  decide

theorem ofShortName?_of_dash {name : String} (dash : '-' ∈ name.toList) :
    ofShortName? name = none := by
  cases known : ofShortName? name with
  | none => rfl
  | some p => exact absurd dash (plain_of_shortName known).1

/-- What the components of a triple stand for does not depend on their order or number. -/
theorem ofComponents?_congr {cs ds : List String} (several : 2 ≤ cs.length) (others : 2 ≤ ds.length)
    (same : ∀ c, c ∈ cs ↔ c ∈ ds) : ofComponents? cs = ofComponents? ds := by
  have contains : ∀ c, cs.contains c = ds.contains c := by
    intro c
    rw [Bool.eq_iff_iff, List.contains_iff_mem, List.contains_iff_mem]
    exact same c
  unfold ofComponents?
  rw [if_neg (Nat.not_lt.2 several), if_neg (Nat.not_lt.2 others)]
  simp only [contains]

theorem ofNormalized?_of_dash {name : String} (dash : '-' ∈ name.toList) :
    ofNormalized? name = ofComponents? (components name) := by
  rw [ofNormalized?, ofShortName?_of_dash dash]

theorem two_le_length_components {name : String} (dash : '-' ∈ name.toList) :
    2 ≤ (components name).length := by
  rw [length_components]
  have counted := List.count_pos_iff.2 dash
  omega

/-- Two triples with the same components stand for the same platform. -/
theorem ofNormalized?_congr {name other : String} (dash : '-' ∈ name.toList)
    (otherDash : '-' ∈ other.toList) (same : ∀ c, c ∈ components name ↔ c ∈ components other) :
    ofNormalized? name = ofNormalized? other := by
  rw [ofNormalized?_of_dash dash, ofNormalized?_of_dash otherDash]
  exact ofComponents?_congr (two_le_length_components dash) (two_le_length_components otherDash) same

theorem parse_eq_ok_iff (s : String) (p : Platform) :
    parse s = .ok p ↔ ofNormalized? (asciiLower (trim s)) = some p := by
  unfold parse
  cases ofNormalized? (asciiLower (trim s)) with
  | none => simp
  | some q => simp

theorem parse_eq_error_iff (s : String) (e : Error) :
    parse s = .error e ↔ ofNormalized? (asciiLower (trim s)) = none ∧ e = .unknownPlatform s := by
  unfold parse
  cases ofNormalized? (asciiLower (trim s)) with
  | none => simp [eq_comm]
  | some q => simp

/-- A triple stands for Linux if it says so and nothing that takes precedence stands beside it. -/
theorem ofComponents?_eq_linux_iff (cs : List String) : ofComponents? cs = some linux ↔
    2 ≤ cs.length ∧ "linux" ∈ cs ∧
      ∀ other ∈ ["ios", "darwin", "macos", "windows", "android"], other ∉ cs := by
  unfold ofComponents?
  simp only [List.forall_mem_cons, Bool.or_eq_true, Bool.and_eq_true, Bool.not_eq_true',
    List.contains_eq_mem, decide_eq_true_eq, decide_eq_false_iff_not]
  by_cases short : cs.length < 2
  · simp [short, Nat.not_le.2 short]
  · by_cases isIos : "ios" ∈ cs
    · simp [short, isIos]
    · by_cases isMacos : "darwin" ∈ cs ∨ "macos" ∈ cs
      · simp only [short, isIos, isMacos, if_false, if_true]
        rcases isMacos with named | named <;> simp [named]
      · obtain ⟨noDarwin, noMacos⟩ := not_or.1 isMacos
        by_cases isWindows : "windows" ∈ cs
        · simp [short, isIos, isMacos, isWindows]
        · simp [short, isIos, noDarwin, noMacos, isWindows, Nat.not_lt.1 short]

theorem two_le_length_of_mem {cs : List String} {c d : String} (first : c ∈ cs) (second : d ∈ cs)
    (different : c ≠ d) : 2 ≤ cs.length := by
  cases cs with
  | nil => cases first
  | cons head rest =>
    cases rest with
    | nil =>
      rw [List.mem_singleton] at first second
      exact absurd (first.trans second.symm) different
    | cons next others => simp

/-- A name with a component that starts with `android` is no short name. -/
theorem ofNormalized?_of_android {name : String}
    (android : ∃ c ∈ components name, "android".toList <+: c.toList) :
    ofNormalized? name = ofComponents? (components name) := by
  unfold ofNormalized?
  cases known : ofShortName? name with
  | none => rfl
  | some p =>
    obtain ⟨single, plain⟩ := plain_of_shortName known
    obtain ⟨c, listed, starts⟩ := android
    rw [components_of_no_dash single, List.mem_singleton] at listed
    subst listed
    exact absurd starts plain

end Platform

/-- Which names with an Android component are taken for Linux: those with the component `linux` in
which no component is `android` itself and none names another platform. -/
theorem android_triple_is_linux_iff {s : String}
    (android : ∃ c ∈ Platform.components (asciiLower (trim s)), "android".toList <+: c.toList) :
    Platform.parse s = .ok .linux ↔
      "linux" ∈ Platform.components (asciiLower (trim s)) ∧
        ∀ other ∈ ["ios", "darwin", "macos", "windows", "android"],
          other ∉ Platform.components (asciiLower (trim s)) := by
  rw [Platform.parse_eq_ok_iff, Platform.ofNormalized?_of_android android,
    Platform.ofComponents?_eq_linux_iff]
  apply and_iff_right_of_imp
  intro taken
  obtain ⟨c, listed, starts⟩ := android
  -- The Android component and `linux` are two different ones.
  have different : c ≠ "linux" := by
    intro same
    subst same
    exact absurd starts (by decide)
  exact Platform.two_le_length_of_mem listed taken.1 different

/-- The component `android` keeps a triple from being taken for Linux. -/
theorem android_triple_is_linux_samples :
    (∃ c ∈ Platform.components (asciiLower (trim " AARCH64-Linux-Android\n")),
      "android".toList <+: c.toList) ∧
    Platform.parse " AARCH64-Linux-Android\n" ≠ .ok .linux := by
  have android : ∃ c ∈ Platform.components (asciiLower (trim " AARCH64-Linux-Android\n")),
      "android".toList <+: c.toList := by decide
  refine ⟨android, fun linux => ?_⟩
  obtain ⟨-, others⟩ := (android_triple_is_linux_iff android).1 linux
  exact others "android" (by decide) (by decide)

/-- The longer component `androideabi` does not. -/
theorem androideabi_triple_is_linux :
    (∃ c ∈ Platform.components (asciiLower (trim "armv7-linux-androideabi")),
      "android".toList <+: c.toList) ∧
    Platform.parse "armv7-linux-androideabi" = .ok .linux := by
  decide

end HeaderBindings
