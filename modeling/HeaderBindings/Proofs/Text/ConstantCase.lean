import HeaderBindings.Proofs.Text.UpperCase

/-!
# Where constant case departs from a name

Constant case can be written from left to right (`constantFrom`): underscores are kept, every
other cluster is put in upper case, and an underscore is inserted only after a lower-case
cluster. Such a cluster has changed already. So the constant case of a name is the name
itself, or the two part at some character, and then neither starts with the other
(`constantCase_eq_or_apart`). Only a name that starts with an underscore has a constant case
that does (`constantCase_starts_with_underscore_iff`).
-/

namespace HeaderBindings.Text

/-- The constant case of the remaining clusters; `afterLower` tells whether a lower-case cluster of
the same word stands before them. -/
def constantFrom (afterLower : Bool) : List (List Char) → List Char
  | [] => []
  | cluster :: rest =>
    if cluster == ['_'] then '_' :: constantFrom false rest
    else if afterLower && isUpper cluster then '_' :: (upper cluster ++ constantFrom false rest)
    else upper cluster ++ constantFrom (isLower cluster) rest

section Writing

theorem joinWords_cons (word : List Char) {words : List (List Char)} (nonempty : words ≠ []) :
    joinWords (word :: words) = word ++ '_' :: joinWords words := by
  cases words with
  | nil => exact absurd rfl nonempty
  | cons next rest => rfl

theorem wordsFrom_ne_nil (word : List Char) (afterLower : Bool) (clusters : List (List Char)) :
    wordsFrom word afterLower clusters ≠ [] := by
  fun_induction wordsFrom word afterLower clusters with
  | case1 => exact List.cons_ne_nil _ _
  | case2 => exact List.cons_ne_nil _ _
  | case3 => exact List.cons_ne_nil _ _
  | case4 _ _ _ _ _ _ ih => exact ih

/-- Cutting a name into words and joining them again writes it from left to right. -/
theorem joinWords_wordsFrom (word : List Char) (afterLower : Bool) (clusters : List (List Char)) :
    joinWords ((wordsFrom word afterLower clusters).map upper) =
      upper word ++ constantFrom afterLower clusters := by
  have joined : ∀ first next flag rest,
      joinWords ((first :: wordsFrom next flag rest).map upper) =
        upper first ++ '_' :: joinWords ((wordsFrom next flag rest).map upper) := by
    intro first next flag rest
    exact joinWords_cons _ (by simpa using wordsFrom_ne_nil next flag rest)
  fun_induction wordsFrom word afterLower clusters with
  | case1 word => simp [joinWords, constantFrom]
  | case2 word afterLower cluster rest underscore ih =>
    rw [joined, ih, constantFrom, if_pos underscore]
    rfl
  | case3 word afterLower cluster rest other boundary ih =>
    rw [joined, ih, constantFrom, if_neg other, if_pos boundary]
  | case4 word afterLower cluster rest other inside ih =>
    rw [ih, constantFrom, if_neg other, if_neg inside, upper, List.flatMap_append,
      List.append_assoc]
    rfl

theorem flatten_clustersFrom (current cs : List Char) :
    (clustersFrom current cs).flatten = current.reverse ++ cs := by
  fun_induction clustersFrom current cs with
  | case1 current empty => simpa using empty
  | case2 current filled => simp
  | case3 current c rest joins ih => simp [ih]
  | case4 current c rest parts ih => simp [ih]

/-- Clusters lose no character. -/
theorem flatten_clusters (cs : List Char) : (clusters cs).flatten = cs :=
  flatten_clustersFrom [] cs

theorem toList_constantCase (name : String) :
    (constantCase name).toList = constantFrom false (clusters name.toList) := by
  rw [constantCase, String.toList_ofList, joinWords_wordsFrom]
  rfl

end Writing

section Start

theorem head?_constantFrom (clusters : List (List Char)) :
    (constantFrom false clusters).head? =
      clusters.flatten.head?.bind fun c => (upperChar c).head? := by
  induction clusters with
  | nil => rfl
  | cons cluster rest ih =>
    by_cases underscore : cluster = ['_']
    · subst underscore
      rfl
    · have written : constantFrom false (cluster :: rest) =
          upper cluster ++ constantFrom (isLower cluster) rest := by
        simp [constantFrom, underscore]
      rw [written]
      cases cluster with
      | nil => exact ih
      | cons c others =>
        rcases upperChar_eq c with own | ⟨u, more, start, -⟩
        · simp [upper, own]
        · simp [upper, start]

theorem head?_constantCase (name : String) :
    (constantCase name).toList.head? = name.toList.head?.bind fun c => (upperChar c).head? := by
  rw [toList_constantCase, head?_constantFrom, flatten_clusters]

theorem exists_head_constantCase {name : String} (named : name ≠ "") :
    ∃ c, (constantCase name).toList.head? = some c := by
  rw [head?_constantCase]
  cases spelled : name.toList with
  | nil => exact absurd (String.toList_eq_nil_iff.1 spelled) named
  | cons first rest =>
    rcases upperChar_eq first with own | ⟨u, more, start, -⟩
    · exact ⟨first, by simp [own]⟩
    · exact ⟨u, by simp [start]⟩

/-- A constant case starts with an underscore if and only if its name does. -/
theorem constantCase_starts_with_underscore_iff (name : String) :
    (constantCase name).toList.head? = some '_' ↔ name.toList.head? = some '_' := by
  rw [head?_constantCase]
  constructor
  · intro start
    obtain ⟨c, first, upperFirst⟩ := Option.bind_eq_some_iff.1 start
    rw [first, (underscore_mem_upperChar_iff c).1 (List.mem_of_head? upperFirst)]
  · intro start
    rw [start]
    rfl

end Start

/-- Neither of two sequences starts with the other. -/
def Apart (a b : List Char) : Prop :=
  ¬ a <+: b ∧ ¬ b <+: a

namespace Apart

variable {a b : List Char}

theorem append (apart : Apart a b) (c d : List Char) : Apart (a ++ c) (b ++ d) := by
  constructor
  · intro starts
    rcases List.prefix_or_prefix_of_prefix ((List.prefix_append a c).trans starts)
      (List.prefix_append b d) with left | right
    · exact apart.1 left
    · exact apart.2 right
  · intro starts
    rcases List.prefix_or_prefix_of_prefix ((List.prefix_append b d).trans starts)
      (List.prefix_append a c) with right | left
    · exact apart.2 right
    · exact apart.1 left

theorem append_left (apart : Apart a b) (common : List Char) :
    Apart (common ++ a) (common ++ b) := by
  unfold Apart
  rw [List.prefix_append_right_inj, List.prefix_append_right_inj]
  exact apart

theorem of_head_ne {c d : Char} (different : c ≠ d) (a b : List Char) :
    Apart (c :: a) (d :: b) := by
  constructor
  · intro starts
    exact different (List.cons_prefix_cons.1 starts).1
  · intro starts
    exact different (List.cons_prefix_cons.1 starts).1.symm

end Apart

section Departure

theorem upper_eq_or_apart (cs : List Char) : upper cs = cs ∨ Apart cs (upper cs) := by
  induction cs with
  | nil => exact .inl rfl
  | cons c rest ih =>
    have written : upper (c :: rest) = upperChar c ++ upper rest := rfl
    rw [written]
    rcases upperChar_eq c with own | ⟨u, more, start, different⟩
    · rw [own]
      rcases ih with same | apart
      · exact .inl (by rw [same]; rfl)
      · exact .inr (apart.append_left [c])
    · rw [start]
      exact .inr (.of_head_ne different.symm _ _)

/-- A cluster that is its own upper-case form is not in lower case. -/
theorem isLower_of_upper_eq {cluster : List Char} (same : upper cluster = cluster) :
    isLower cluster = false := by
  unfold isLower hasCase
  rw [same]
  cases equal : cluster == lower cluster with
  | false => simp
  | true => simp [← beq_iff_eq.1 equal]

/-- Up to the first character that changes, nothing is inserted. -/
theorem constantFrom_eq_or_apart (clusters : List (List Char)) :
    constantFrom false clusters = clusters.flatten ∨
      Apart clusters.flatten (constantFrom false clusters) := by
  induction clusters with
  | nil => exact .inl rfl
  | cons cluster rest ih =>
    by_cases underscore : cluster = ['_']
    · subst underscore
      have written : constantFrom false (['_'] :: rest) = ['_'] ++ constantFrom false rest := rfl
      rw [written, List.flatten_cons]
      rcases ih with same | apart
      · exact .inl (by rw [same])
      · exact .inr (apart.append_left ['_'])
    · have written : constantFrom false (cluster :: rest) =
          upper cluster ++ constantFrom (isLower cluster) rest := by
        simp [constantFrom, underscore]
      rw [written, List.flatten_cons]
      rcases upper_eq_or_apart cluster with same | apart
      · -- A cluster that stays as it is opens no word boundary behind it.
        rw [isLower_of_upper_eq same, same]
        rcases ih with later | apart
        · exact .inl (by rw [later])
        · exact .inr (apart.append_left cluster)
      · exact .inr (apart.append _ _)

/-- The constant case of a name is the name itself or parts from it at some character. -/
theorem constantCase_eq_or_apart (name : String) :
    constantCase name = name ∨ Apart name.toList (constantCase name).toList := by
  have departs := constantFrom_eq_or_apart (clusters name.toList)
  rwa [flatten_clusters, ← toList_constantCase, String.toList_inj] at departs

end Departure

end HeaderBindings.Text
