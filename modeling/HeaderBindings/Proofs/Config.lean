import HeaderBindings.Config
import HeaderBindings.Proofs.Document.RoundTrip
import Mathlib.Tactic.Choose

/-!
# Settings read back from their text

Settings are written with all their keys, and read from an object that may have any of them, in any
order. What is read has the written values for the keys that are present and the default ones for
the keys that are absent (`settings_read_back`).

Every member is read by the field of its key, which copies one setting and leaves the others as they
are (`Key.exists_field`). Reading an object is thus a run of such copies, and the run ends with the
settings patched on the keys of the object (`foldl_copy`).
-/

namespace HeaderBindings.Config

open HeaderBindings.Json

/-- The keys of settings in JSON. -/
inductive Key where
  | platform
  | excludedDeclarations
  | coverDerived
  | requireCoverage
  | includeExcluded
deriving DecidableEq, Repr

namespace Key

/-- The keys in the order in which they are written. -/
def all : List Key :=
  [platform, excludedDeclarations, coverDerived, requireCoverage, includeExcluded]

/-- How a key is spelt. -/
def name : Key → String
  | platform => "platform"
  | excludedDeclarations => "excluded_declarations"
  | coverDerived => "symbol_prefix_matching"
  | requireCoverage => "require_coverage"
  | includeExcluded => "include_excluded_oracles"

/-- What is written for a key. -/
def value (c : Config) : Key → Json.Value
  | platform => (c.platform.map Value.ofString).getD .null
  | excludedDeclarations => .array (c.excludedDeclarations.map Value.ofString)
  | coverDerived => .bool c.coverDerived
  | requireCoverage => .bool c.requireCoverage
  | includeExcluded => .bool c.includeExcluded

/-- The settings `base` with the one of a key taken from `c`. -/
def copy (c base : Config) : Key → Config
  | platform => { base with platform := c.platform }
  | excludedDeclarations => { base with excludedDeclarations := c.excludedDeclarations }
  | coverDerived => { base with coverDerived := c.coverDerived }
  | requireCoverage => { base with requireCoverage := c.requireCoverage }
  | includeExcluded => { base with includeExcluded := c.includeExcluded }

end Key

/-- The object with a member for each of the given keys, in their order. -/
def select (c : Config) (keys : List Key) : Json.Value :=
  .object (keys.map fun k => member k.name (k.value c))

/-- The settings of `c` for the given keys, and those of `base` for all others. -/
def patched (base c : Config) (keys : List Key) : Config where
  platform := if .platform ∈ keys then c.platform else base.platform
  excludedDeclarations :=
    if .excludedDeclarations ∈ keys then c.excludedDeclarations else base.excludedDeclarations
  coverDerived := if .coverDerived ∈ keys then c.coverDerived else base.coverDerived
  requireCoverage := if .requireCoverage ∈ keys then c.requireCoverage else base.requireCoverage
  includeExcluded := if .includeExcluded ∈ keys then c.includeExcluded else base.includeExcluded

theorem patched_cons (base c : Config) (k : Key) (keys : List Key) :
    base.patched c (k :: keys) = (k.copy c base).patched c keys := by
  cases k <;> simp [patched, Key.copy]

/-- Copying settings key by key patches them on all the keys. -/
theorem foldl_copy (c base : Config) (keys : List Key) :
    keys.foldl (fun record k => k.copy c record) base = base.patched c keys := by
  induction keys generalizing base with
  | nil => simp [patched]
  | cons k keys ih => rw [List.foldl_cons, ih, patched_cons]

theorem patched_all (base c : Config) : base.patched c Key.all = c := by
  simp [patched, Key.all]

theorem Key.name_inj {k l : Key} (same : k.name = l.name) : k = l := by
  cases k <;> cases l <;> simp_all [name]

/-- The field of a key reads what is written for the key, and copies the setting. -/
theorem Key.exists_field (c : Config) (k : Key) :
    ∃ f, shape.fields.find? (·.name == k.name) = some f ∧
      ∀ record, f.read (k.value c) record = .ok (k.copy c record) := by
  have named := optional_inverts string_inverts (fun s => nofun) c.platform
  have listed := list_inverts string_inverts c.excludedDeclarations
  cases k with
  | platform =>
    refine ⟨_, rfl, fun record => ?_⟩
    simp only [Field.defaulted, Field.of, Key.value, named]
    rfl
  | excludedDeclarations =>
    refine ⟨_, rfl, fun record => ?_⟩
    simp only [Field.defaulted, Field.of, Key.value, listed]
    rfl
  | coverDerived => exact ⟨_, rfl, fun record => rfl⟩
  | requireCoverage => exact ⟨_, rfl, fun record => rfl⟩
  | includeExcluded => exact ⟨_, rfl, fun record => rfl⟩

/-- An object with some of the keys, each at most once, patches the default. -/
theorem decode_select (c : Config) {keys : List Key} (distinct : keys.Nodup) :
    shape.decode (c.select keys) = .ok (default.patched c keys) := by
  choose field found reads using Key.exists_field c
  have spelt : ∀ k, (field k).name = k.name := by
    intro k
    simpa using List.find?_some (found k)
  have members : (keys.map fun k => member k.name (k.value c)) =
      (keys.map fun k => (field k, k.value c)).map fun e => member e.1.name e.2 := by
    simp [spelt]
  have names : (keys.map fun k => (field k, k.value c)).map (·.1.name) = keys.map Key.name := by
    simp [spelt]
  have run : (keys.map fun k => (field k, k.value c)).foldlM
      (fun record e => e.1.read e.2 record) default = .ok (default.patched c keys) := by
    simp only [List.foldlM_map, reads, ← foldl_copy]
    exact List.foldlM_pure
  rw [select, members]
  refine (shape.readMembers_eq_foldlM [] shape.blank ?_ ?_ ?_ ?_).trans run
  · intro e present
    obtain ⟨k, -, rfl⟩ := List.mem_map.1 present
    simpa only [spelt k] using found k
  · simp
  · rw [names]
    exact List.pairwise_map.2 (distinct.imp fun different same => different (Key.name_inj same))
  · have optionalFields : ∀ f ∈ shape.fields, f.mayBeAbsent = true := by decide
    intro f listed required
    simp [optionalFields f listed] at required

theorem plain_value (c : Config) (k : Key) : (k.value c).Plain := by
  cases k with
  | platform =>
    unfold Key.value
    cases c.platform with
    | none => exact .null
    | some name => exact .ofString name
  | excludedDeclarations => exact plain_array .ofString c.excludedDeclarations
  | coverDerived => exact .bool c.coverDerived
  | requireCoverage => exact .bool c.requireCoverage
  | includeExcluded => exact .bool c.includeExcluded

theorem plain_select (c : Config) (keys : List Key) : (c.select keys).Plain := by
  refine .ofMembers fun m listed => ?_
  obtain ⟨k, -, rfl⟩ := List.mem_map.1 listed
  exact plain_member (c.plain_value k)

/-- Settings are read back from any text of an object that has some of their members, in any order:
they have the written values for the keys of these members, and the default values for the other
keys. Settings are written with all their members, and their text is read as these settings. -/
theorem settings_read_back (c : Config) {keys : List Key} (distinct : keys.Nodup) :
    (∀ text, Value.parse? text = some (c.select keys) →
      Config.decode text = .ok (default.patched c keys)) ∧
    Config.decode (c.select keys).pretty = .ok (default.patched c keys) ∧
    c.json = c.select Key.all ∧ Config.decode c.render = .ok c := by
  have selected : ∀ keys : List Key, keys.Nodup →
      Config.decode (c.select keys).pretty = .ok (default.patched c keys) := by
    intro keys distinct
    rw [Config.decode, decodeText_pretty _ (c.plain_select keys), c.decode_select distinct]
  refine ⟨fun text parsed => ?_, selected keys distinct, rfl, ?_⟩
  · rw [Config.decode, decodeText_of_parse? _ parsed, c.decode_select distinct]
  · have whole := selected Key.all (by decide)
    rwa [patched_all] at whole

/-- Two keys in reverse order, with a text that has to be escaped, in two layouts. -/
theorem settings_read_back_samples :
    let c : Config := ⟨some "windows", ["a \"quoted\"\nname"], false, false, true⟩
    let keys : List Key := [.requireCoverage, .excludedDeclarations]
    keys.Nodup ∧
      Config.decode (c.select keys).pretty =
        .ok ⟨none, ["a \"quoted\"\nname"], true, false, true⟩ ∧
      Config.decode "\x7b\"symbol_prefix_matching\" :false\x7d" = .ok ⟨none, [], false, true, true⟩ ∧
      Config.decode c.render = .ok c := by
  intro c keys
  have distinct : keys.Nodup := by decide
  obtain ⟨-, selected, -, whole⟩ := settings_read_back c distinct
  have single : [Key.coverDerived].Nodup := by decide
  exact ⟨distinct, selected, (settings_read_back c single).1 _ (by cbv), whole⟩

end HeaderBindings.Config
