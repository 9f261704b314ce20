import HeaderBindings.Document.Codec
import HeaderBindings.File.Tree
import HeaderBindings.Verification

/-!
# Configuration

Settings for generating and verifying, read from a JSON file. What the file does
not say, and all of it if the file cannot be used, is as in the default.
-/

namespace HeaderBindings

open HeaderBindings.File HeaderBindings.Json HeaderBindings.Text

structure Config where
  /-- The platform to describe instead of the compiled one. -/
  platform : Option String
  /-- Declarations that are excluded beside the built-in ones. -/
  excludedDeclarations : List String
  /-- Whether exclusions cover derived symbols. -/
  coverDerived : Bool
  /-- Whether every declaration has to be mentioned. -/
  requireCoverage : Bool
  /-- Whether the exports of excluded enums are checked as well. -/
  includeExcluded : Bool
deriving DecidableEq, Repr

namespace Config

/-- The settings that hold if nothing else is said. -/
def default : Config :=
  ⟨none, [], true, true, true⟩

instance : Inhabited Config := ⟨default⟩

def json (c : Config) : Json.Value :=
  .object [member "platform" ((c.platform.map Value.ofString).getD .null),
    member "excluded_declarations" (.array (c.excludedDeclarations.map Value.ofString)),
    member "symbol_prefix_matching" (.bool c.coverDerived),
    member "require_coverage" (.bool c.requireCoverage),
    member "include_excluded_oracles" (.bool c.includeExcluded)]

def shape : Shape Config where
  name := "FixtureConfig"
  blank := default
  fields :=
    [.defaulted "platform" (optional Json.string) fun r v => { r with platform := v },
      .defaulted "excluded_declarations" (list Json.string)
        fun r v => { r with excludedDeclarations := v },
      .defaulted "symbol_prefix_matching" boolean fun r v => { r with coverDerived := v },
      .defaulted "require_coverage" boolean fun r v => { r with requireCoverage := v },
      .defaulted "include_excluded_oracles" boolean fun r v => { r with includeExcluded := v }]

def decode (s : String) : Except DecodeError Config :=
  decodeText shape.decode s

def render (c : Config) : String :=
  c.json.pretty

def targetPlatform (compiled : Platform) (c : Config) : Except Error Platform :=
  match c.platform with
  | some name => Platform.parse name
  | none => .ok compiled

/-- The exclusions in force. -/
def exclusions (c : Config) : ExclusionList :=
  .withExtra c.excludedDeclarations

def verifyOptions (c : Config) : VerifyOptions :=
  ⟨c.exclusions, c.coverDerived, c.requireCoverage⟩

def boolWord (b : Bool) : String :=
  if b then "true" else "false"

/-- The full text of settings in one line. -/
def report (c : Config) : String :=
  "FixtureConfig \x7b platform: " ++
    (match c.platform with
      | some name => "Some(" ++ quoted name ++ ")"
      | none => "None") ++
    ", excluded_declarations: [" ++ ", ".intercalate (c.excludedDeclarations.map quoted) ++
    "], symbol_prefix_matching: " ++ boolWord c.coverDerived ++ ", require_coverage: " ++
    boolWord c.requireCoverage ++ ", include_excluded_oracles: " ++ boolWord c.includeExcluded ++
    " \x7d"

/-- The file that is read if no other is named. -/
def defaultPath : String := "ffi_fixtures.json"

/-- What is logged about a file whose text cannot be decoded. -/
def undecodable (path : String) (e : DecodeError) : Log.Record :=
  .plain .warning ("[Config] Failed to parse JSON from " ++ quoted path ++ ": " ++ e.message ++
    ". Using defaults.")

/-- The settings of a file, as far as it can be used, and what is logged about it. -/
def ofFile (path : String) : Except FileFault String → Config × Log.Record
  | .error fault =>
    (default, .plain .warning ("[Config] Failed to read config file " ++ quoted path ++ ": " ++
      fault.message ++ ". Using defaults."))
  | .ok text =>
    match decode text with
    | .error e => (default, undecodable path e)
    | .ok c => (c, .plain .info ("[Config] Loaded configuration from " ++ quoted path))

/-- The settings of the default file, which may be absent. -/
def ofDefaultFile : Except FileFault String → Config × List Log.Record
  | .error .notFound => (default, [])
  | contents => ((ofFile defaultPath contents).1, [(ofFile defaultPath contents).2])

end Config

end HeaderBindings
