import GlobalImports.Pattern.Bracket
import GlobalImports.Pattern.Extent
import GlobalImports.Unicode.Latest

/-! Whole patterns: alternatives, sequences, groups and repetitions. -/

namespace GlobalImports.Pattern

open Unicode (Ranges)

/-- A form that has been read, how deep its notation is nested, and whether a repetition may follow
it. -/
structure Item where
  form : Form
  depth : Nat := 0
  repeatable : Bool := true

/-- What stands side by side, latest first, as one form. -/
def sequenceOf : List Item → Item
  | [] => ⟨.empty, 0, false⟩
  | [i] => i
  | items => ⟨.concat (items.reverse.map (·.form)), (items.map (·.depth)).foldl max 0 + 1, true⟩

/-- Alternatives, latest first, as one form. -/
def alternativeOf : List Item → Item
  | [] => ⟨.empty, 0, false⟩
  | [i] => i
  | items => ⟨.oneOf (items.reverse.map (·.form)), (items.map (·.depth)).foldl max 0 + 1, true⟩

/-! ### Single characters -/

/-- A set, as the flags have it. -/
def setForm (r : Ranges) : Reader Form := return .ofSet r (← get).flags.unicode

/-- A character that stands for itself. -/
def charForm (c : Char) : Reader Form := do setForm ((← get).flags.foldCase (.single c))

/-- What a dot stands for: any character but a line break, or any at all. -/
def dotSet (flags : Flags) : Ranges :=
  if flags.dotAll then .all
  else if flags.crlf then .compl (.union (.single '\n') (.single '\r'))
  else .compl (.single '\n')

/-- Anything but groups, classes and repetitions. -/
def primitive (c : Char) : Reader Form := do
  let flags := (← get).flags
  match c with
  | '\\' =>
    match ← escape with
    | .char c => charForm c
    | .set r => setForm r
    | .look l => return .look l
  | '.' =>
    bump
    setForm (← allowed (dotSet flags))
  | '^' =>
    bump
    return .look (if flags.multiLine then .lineStart flags.crlf else .textStart)
  | '$' =>
    bump
    return .look (if flags.multiLine then .lineEnd flags.crlf else .textEnd)
  | c =>
    bump
    charForm c

/-! ### Repetitions -/

/-- A repetition of the latest item. -/
def repeated (items : List Item) (min : Nat) (max : Option Nat) (greedy : Bool) :
    Reader (List Item) := do
  match items with
  | [] => throw .nothingToRepeat
  | i :: items =>
    if !i.repeatable then throw .nothingToRepeat
    let greedy := greedy != (← get).flags.swapGreed
    return ⟨i.form.times min max greedy, i.depth + 1, true⟩ :: items

/-- Whether the repetition read is greedy: it is unless a question mark follows. -/
def readGreedy : Reader Bool := return !(← pass "?")

/-- No count may be larger. -/
def maxCount : Nat := 4294967295

/-- A count, with white space around it. -/
def count : Reader (Option Nat) := do
  modify fun s => { s with rest := s.rest.dropWhile Text.isBlank }
  let digits ← takeWhile Char.isDigit
  modify fun s => { s with rest := s.rest.dropWhile Text.isBlank }
  skipBlanks
  if digits.isEmpty then return none
  let n := Text.ofDecimal digits
  if n ≤ maxCount then return some n else throw .badCount

/-- A count that may not be left out. -/
def someCount : Reader Nat := do
  let some n ← count | throw .badCount
  return n

/-- The upper bound of a repetition, behind the lower one. There is none if the comma comes last,
and without a comma it is the lower one. -/
def upperBound (min : Nat) : Reader (Option Nat) := do
  if (← peekOr .badCount) == ',' then
    advance
    if (← peekOr .badCount) == '}' then return none else return some (← someCount)
  else return some min

/-- The bounds of a counted repetition, from its opening brace on. -/
def bounds : Reader (Nat × Option Nat) := do
  advance
  discard (peekOr .badCount)
  let min ← someCount
  let max ← upperBound min
  if (← peekOr .badCount) != '}' then throw .badCount
  advance
  if max.any (· < min) then throw .badCount
  return (min, max)

/-! ### Groups -/

def flagLetters : List Char := ['i', 'm', 's', 'U', 'u', 'R', 'x']

def Flags.put (f : Flags) (letter : Char) (value : Bool) : Flags :=
  match letter with
  | 'i' => { f with caseless := value }
  | 'm' => { f with multiLine := value }
  | 's' => { f with dotAll := value }
  | 'U' => { f with swapGreed := value }
  | 'u' => { f with unicode := value }
  | 'R' => { f with crlf := value }
  | 'x' => { f with extended := value }
  | _ => f

/-- Flags that have been read: a hyphen turns off all that follow it. No letter and no hyphen may
come twice, and a hyphen may not come last. -/
def applyFlags (flags : Flags) (letters : List Char) : Except Fault Flags :=
  if letters.getLast? == some '-' || !letters.Nodup ||
      !letters.all (fun c => c == '-' || flagLetters.contains c) then
    throw .badFlags
  else
    let (on, off) := letters.span (· != '-')
    return off.foldl (fun f c => f.put c false) (on.foldl (fun f c => f.put c true) flags)

def isNameChar (c : Char) : Bool :=
  c == '_' || c == '.' || c == '[' || c == ']' || Unicode.Latest.isAlphabetic c ||
    Unicode.Latest.isNumeric c

/-- A group name up to its closing angle bracket. -/
def groupName : Reader String := do
  let s ← get
  let (name, rest) := s.rest.span (· != '>')
  match name, rest with
  | c :: cs, _ :: rest =>
    let name := String.ofList (c :: cs)
    if !(c == '_' || Unicode.Latest.isAlphabetic c) || !cs.all isNameChar then
      throw .badGroupName
    if s.names.any (·.2 == name) then throw .badGroupName
    set { s with rest := rest }
    return name
  | _, _ => throw .badGroupName

/-- The head of a group: a capturing group with its number, a plain one, or flags that hold from
here on. -/
inductive GroupHead where
  | capture (index : Nat)
  | plain
  | flags

def openCapture : Reader Nat :=
  modifyGet fun s => (s.groupCount + 1, { s with groupCount := s.groupCount + 1 })

/-- Reads a name for the group with the index. -/
def nameGroup (index : Nat) : Reader Unit := do
  let name ← groupName
  modify fun s => { s with names := (index, name) :: s.names }

/-- Reads from an opening parenthesis to the start of the group's content. -/
def groupHead : Reader GroupHead := do
  advance
  for text in ["?=", "?!", "?<=", "?<!"] do
    if ← startsWith text then throw .unsupported
  if (← pass "?P<") || (← pass "?<") then
    let index ← openCapture
    nameGroup index
    return .capture index
  else if ← pass "?" then
    let s ← get
    let (letters, rest) := s.rest.span fun c => c != ':' && c != ')'
    let flags ← applyFlags s.flags letters
    match rest with
    | ':' :: rest =>
      set { s with flags := flags, rest := rest }
      return .plain
    | _ :: rest =>
      if letters.isEmpty then throw .nothingToRepeat
      set { s with flags := flags, rest := rest }
      return .flags
    | [] => throw .unclosedGroup
  else return .capture (← openCapture)

/-- Passes the closing parenthesis of a group and puts its outer flags in force again. -/
def closeGroup (outer : Flags) : Reader Unit := do
  discard (peekOr .unclosedGroup)
  bump
  modify fun s => { s with flags := outer }

/-! ### Sequences and alternatives -/

/-- Reads up to the end of the group. `branches` holds the alternatives before the current one and
`items` the current one, each latest first. -/
def alternatives : Nat → List Item → List Item → Reader Item
  | 0, _, _ => throw .tooDeep
  | fuel + 1, branches, items => do
    skipBlanks
    match ← peek with
    | none | some ')' => return alternativeOf (sequenceOf items :: branches)
    | some '|' =>
      bump
      alternatives fuel (sequenceOf items :: branches) []
    | some '(' =>
      let outer := (← get).flags
      match ← groupHead with
      | .flags => alternatives fuel branches (⟨.empty, 0, false⟩ :: items)
      | .plain =>
        let inner ← alternatives fuel [] []
        closeGroup outer
        alternatives fuel branches (⟨inner.form, inner.depth + 1, true⟩ :: items)
      | .capture index =>
        let inner ← alternatives fuel [] []
        closeGroup outer
        alternatives fuel branches (⟨.group index inner.form, inner.depth + 1, true⟩ :: items)
    | some '[' =>
      let item ← bracket (fuel + 1)
      alternatives fuel branches (⟨← setForm item.set, item.depth, true⟩ :: items)
    | some '?' =>
      bump
      alternatives fuel branches (← repeated items 0 (some 1) (← readGreedy))
    | some '*' =>
      bump
      alternatives fuel branches (← repeated items 0 none (← readGreedy))
    | some '+' =>
      bump
      alternatives fuel branches (← repeated items 1 none (← readGreedy))
    | some '{' =>
      let (min, max) ← bounds
      alternatives fuel branches (← repeated items min max (← readGreedy))
    | some c => alternatives fuel branches (⟨← primitive c, 0, true⟩ :: items)

/-- Nesting beyond this is refused. -/
def maxDepth : Nat := 250

/-- Reads a whole pattern. -/
def whole : Reader Form := do
  let item ← alternatives ((← get).rest.length + 1) [] []
  if (← peek).isSome then throw .unopenedGroup
  if maxDepth < item.depth then throw .tooDeep
  if !item.form.fits then throw .tooLarge
  return item.form

end GlobalImports.Pattern
