import GlobalImports.Pattern.Escape

/-! Bracketed classes in patterns: ranges, nested classes, and the operators on classes, which all
bind equally tight and to the left. -/

namespace GlobalImports.Pattern

open Unicode (Ranges)

/-- A set that has been read, and how deep its notation is nested. -/
structure SetItem where
  set : Ranges
  depth : Nat := 0

inductive SetOp where
  | inter
  | diff
  | symmDiff
  deriving DecidableEq, Repr

def SetOp.apply : SetOp → Ranges → Ranges → Ranges
  | inter, s, t => .inter s t
  | diff, s, t => .diff s t
  | symmDiff, s, t => .symmDiff s t

def SetOp.text : SetOp → String
  | inter => "&&"
  | diff => "--"
  | symmDiff => "~~"

/-- The operator that the rest of the pattern begins with. -/
def setOp? : Reader (Option SetOp) := do
  for op in [SetOp.inter, .diff, .symmDiff] do
    if ← pass op.text then return some op
  return none

/-- The union of what stands side by side, latest first. -/
def unionOf : List SetItem → SetItem
  | [] => ⟨.empty, 0⟩
  | [i] => i
  | items => ⟨.unions (items.reverse.map (·.set)), (items.map (·.depth)).foldl max 0 + 1⟩

/-- Applies an operator whose left side is complete. -/
def combine (flags : Flags) (left : Option (SetItem × SetOp)) (right : SetItem) : SetItem :=
  match left with
  | none => right
  | some (l, op) =>
    ⟨op.apply (flags.foldCase l.set) (flags.foldCase right.set), max l.depth right.depth + 1⟩

/-! ### Single members and ranges -/

/-- A class such as `[:alpha:]`, or nothing if the text left does not begin with one. -/
def asciiClass : Reader (Option Ranges) := do
  let flags := (← get).flags
  match (← get).rest with
  | '[' :: ':' :: r =>
    let (negated, r) := match r with
      | '^' :: r => (true, r)
      | r => (false, r)
    match r.span (· != ':') with
    | (name, ':' :: ']' :: r) =>
      match asciiClass? name with
      | some s =>
        modify fun c => { c with rest := r }
        return some (← allowed (.negatedIf negated (flags.foldCase s)))
      | none => return none
    | _ => return none
  | _ => return none

/-- One member, plain or escaped. -/
def setMember : Reader Escape := do
  let c ← peekOr .unclosedClass
  if c == '\\' then escape
  else
    bump
    return .char c

def Escape.toChar : Escape → Reader Char
  | char c => do
    if c.toNat < 128 || (← get).flags.unicode then return c else throw .beyondAscii
  | _ => throw .badRange

def Escape.toSet : Escape → Reader Ranges
  | set s => return s
  | char c => return .single (← (char c).toChar)
  | look _ => throw .badEscape

/-- The character behind the next one. In extended notation white space is passed, and one `#`. -/
def peekBehind : Reader (Option Char) := do
  let s ← get
  let behind := s.rest.drop 1
  if s.flags.extended then
    match behind.dropWhile Text.isBlank with
    | '#' :: r => return (r.dropWhile Text.isBlank).head?
    | r => return r.head?
  else return behind.head?

/-- A member, or a range of members if a hyphen follows that is not the last character of the class
nor part of an operator. -/
def setRange : Reader Ranges := do
  let first ← setMember
  skipBlanks
  let c ← peekOr .unclosedClass
  let behind ← peekBehind
  if c != '-' || behind == some ']' || behind == some '-' then first.toSet
  else
    advance
    discard (peekOr .unclosedClass)
    let last ← setMember
    let lo ← first.toChar
    let hi ← last.toChar
    if lo ≤ hi then return .range lo hi else throw .badRange

/-- Hyphens at the start of a class, and a closing bracket right at its start, are members. -/
def leadingMembers : Reader (List SetItem) := do
  let mut items := []
  for _ in (← get).rest do
    if (← peekOr .unclosedClass) == '-' then
      advance
      items := ⟨.single '-', 0⟩ :: items
    else break
  if items.isEmpty && (← peekOr .unclosedClass) == ']' then
    advance
    items := [⟨.single ']', 0⟩]
  discard (peekOr .unclosedClass)
  return items

/-! ### Whole classes -/

/-- Passes the caret that negates a class, if one follows. -/
def negation : Reader Bool := do
  if (← peekOr .unclosedClass) == '^' then
    advance
    return true
  else return false

mutual

/-- Reads a class from its opening bracket to its closing one. -/
def bracket : Nat → Reader SetItem
  | 0 => throw .tooDeep
  | fuel + 1 => do
    advance
    let negated ← negation
    let item ← bracketItems fuel none (← leadingMembers)
    let flags := (← get).flags
    return ⟨← allowed (.negatedIf negated (flags.foldCase item.set)), item.depth + 1⟩

/-- Reads the rest of a class. `left` is the left side of the last operator met, `items` is what
stands behind it, latest first. -/
def bracketItems : Nat → Option (SetItem × SetOp) → List SetItem → Reader SetItem
  | 0, _, _ => throw .tooDeep
  | fuel + 1, left, items => do
    skipBlanks
    match ← peekOr .unclosedClass with
    | ']' =>
      bump
      return combine (← get).flags left (unionOf items)
    | '[' =>
      match ← asciiClass with
      | some s => bracketItems fuel left (⟨s, 0⟩ :: items)
      | none =>
        let inner ← bracket fuel
        bracketItems fuel left (inner :: items)
    | _ =>
      match ← setOp? with
      | some op =>
        let l := combine (← get).flags left (unionOf items)
        bracketItems fuel (some (l, op)) []
      | none =>
        let s ← setRange
        bracketItems fuel left (⟨s, 0⟩ :: items)

end

end GlobalImports.Pattern
