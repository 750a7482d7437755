import GlobalImports.Json.Typed
import GlobalImports.Settings

/-! Settings in JSON: on their own, or as the member `replaceImports` of a package manifest. -/

namespace GlobalImports

/-- Why a document holds no settings. -/
structure ConfigError where
  document : String
  fault : Json.Fault

/-- The fault with its position, as for any JSON document. -/
def ConfigError.detail (e : ConfigError) : String := e.fault.message e.document

def ConfigError.message (e : ConfigError) : String :=
  "Error parsing replaceImports config: " ++ e.detail

namespace Settings

open Json

/-! ### Keywords -/

/-- The keyword of a name that has been read. -/
def keywordOf (name : String) : Reader Keyword :=
  match Keyword.ofText? name with
  | some k => return k
  | none => failHere (.unknownVariant name (Keyword.all.map Keyword.text))

/-- The keyword in a string, from its opening quote on. -/
def keywordName : Reader Keyword := do
  bump
  keywordOf (← stringRest)

/-- The keyword that is the only key of an object, from behind the opening brace on. -/
def keywordKey : Reader Keyword := do
  match ← peekToken with
  | some '"' => keywordName
  | some '}' => failNext .expectedValue
  | some _ => failNext .keyNotString
  | none => failNext .endOfObject

/-- Passes the closing brace of an object that may have no further members. -/
def closeKeyword : Reader Unit := do
  match ← peekToken with
  | some '}' => bump
  | some _ => failHere .expectedValue
  | none => failHere .endOfObject

/-- What there has to be behind a keyword that is the key of an object. -/
def keywordTail (k : Keyword) : Reader Keyword := do
  memberValue (null "unit")
  closeKeyword
  return k

/-- A keyword: a string, or an object whose only key it is and whose value is null. -/
def keywordValue : Reader Keyword := do
  match ← peekValue with
  | '"' => keywordName
  | '{' =>
    bump
    keywordTail (← keywordKey)
  | _ => failNext .expectedValue

/-! ### Exact sources -/

/-- Takes the source of a specifier, in place of any it had. -/
def exactMember (sources : ExactSources) (key : String) : Reader ExactSources := do
  return sources.insert key (← memberValue (string "a string"))

/-- An object of strings. The last of equal keys counts. -/
def exactValue : Reader ExactSources := do
  if (← peekValue) == '{' then
    bump
    let sources ← members exactMember ∅
    closeObject
    return sources
  else mismatch "a map"

/-! ### Patterns -/

/-- The members of a pattern setting met so far. -/
structure PatternFields where
  pattern : Option String := none
  source : Option String := none

def patternMember (f : PatternFields) (key : String) : Reader PatternFields := do
  match key with
  | "pattern" => return { f with pattern := ← once key f.pattern (string "a string") }
  | "source" => return { f with source := ← once key f.source (string "a string") }
  | _ =>
    memberValue skipValue
    return f

/-- The setting that the fields make, or the first of them that is missing. -/
def PatternFields.result (f : PatternFields) : Except Cause PatternSetting :=
  match f.pattern, f.source with
  | some pattern, some source => .ok ⟨pattern, source⟩
  | none, _ => .error (.missingField "pattern")
  | _, none => .error (.missingField "source")

/-- A pattern and its source in a list, from behind the opening bracket on. -/
def patternList : Reader PatternSetting := do
  let pattern ← fixedElement 0 wanted (string "a string")
  let source ← fixedElement 1 wanted (string "a string")
  closeList
  return ⟨pattern, source⟩
where
  /-- What the list has to be. -/
  wanted : String := "struct ReplacementRegExp with 2 elements"

/-- A pattern and its source: an object with both, or a list of the two. -/
def patternValue : Reader PatternSetting := do
  match ← peekValue with
  | '[' =>
    bump
    patternList
  | '{' =>
    bump
    let f ← members patternMember {}
    match f.result with
    | .ok setting =>
      closeObject
      return setting
    | .error cause => failObject cause
  | _ => mismatch "struct ReplacementRegExp"

def patternsValue : Reader (List PatternSetting) := do
  if (← peekValue) == '[' then
    bump
    let patterns ← elements patternValue
    closeList
    return patterns
  else mismatch "a sequence"

/-! ### Settings -/

/-- The members of settings met so far. -/
structure Fields where
  keyword : Option Keyword := none
  exact : Option ExactSources := none
  patterns : Option (List PatternSetting) := none

def member (f : Fields) (key : String) : Reader Fields := do
  match key with
  | "varType" => return { f with keyword := ← once key f.keyword keywordValue }
  | "replacementLookup" => return { f with exact := ← once key f.exact exactValue }
  | "replacementRegExps" => return { f with patterns := ← once key f.patterns patternsValue }
  | _ =>
    memberValue skipValue
    return f

/-- The settings, with defaults for what is missing. -/
def Fields.settings (f : Fields) : Settings where
  keyword := f.keyword.getD .const
  exact := f.exact.getD ∅
  patterns := f.patterns.getD []

/-- Up to three values in the order keyword, exact sources, patterns, from behind the opening
bracket on. -/
def settingsList : Reader Settings := do
  let keyword ← element? true keywordValue
  let exact ← elementBehind? keyword exactValue
  let patterns ← elementBehind? exact patternsValue
  closeList
  return Fields.settings ⟨keyword, exact, patterns⟩

/-- Settings: an object, or a list without the keys. What is missing has its default. -/
def value : Reader Settings := do
  match ← peekValue with
  | '{' =>
    bump
    let f ← members member {}
    closeObject
    return f.settings
  | '[' =>
    bump
    settingsList
  | _ => mismatch "struct ReplaceImportsConfig"

/-! ### Package manifests -/

/-- Settings, or null for none. -/
def optionalValue : Reader (Option Settings) := do
  if (← peekValue) == 'n' then
    bump
    letters ['u', 'l', 'l']
    return none
  else return some (← value)

def manifestMember (found : Option (Option Settings)) (key : String) :
    Reader (Option (Option Settings)) := do
  match key with
  | "replaceImports" => once key found optionalValue
  | _ =>
    memberValue skipValue
    return found

/-- The settings of a package manifest, if it has any: an object with an optional member for them,
or a list of nothing but them. -/
def manifestValue : Reader (Option Settings) := do
  match ← peekValue with
  | '{' =>
    bump
    let found ← members manifestMember none
    closeObject
    return found.join
  | '[' =>
    bump
    let settings ← fixedElement 0 "struct PackageJson with 1 element" optionalValue
    closeList
    return settings
  | _ => mismatch "struct PackageJson"

/-! ### Whole documents -/

def read {α : Type} (value : Reader α) (text : String) : Except ConfigError α :=
  (document value text).mapError fun fault => ⟨text, fault⟩

/-- Settings from a document of their own. -/
def ofJson (text : String) : Except ConfigError Settings := read value text

/-- Settings from a package manifest. -/
def ofManifest (text : String) : Except ConfigError (Option Settings) := read manifestValue text

end Settings

/-- The builder of a package manifest. Without settings it replaces nothing. -/
def Builder.ofManifest (text : String) : Except ConfigError Builder :=
  (Settings.ofManifest text).map fun settings => (settings.getD {}).builder

end GlobalImports
