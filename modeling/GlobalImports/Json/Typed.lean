import GlobalImports.Json.Skip

/-! Reading values of a wanted type. A value of another type is a fault behind a word, string or
number, and before a list or object. -/

namespace GlobalImports.Json

/-- Reads a word, string or number, or looks at a bracket, and reports it as unwanted. -/
def mismatch {α : Type} (expected : String) : Reader α := do
  let fail (kind : Kind) : Reader α := failHere (.invalidType kind expected)
  match (← get).head? with
  | some 'n' =>
    bump
    letters ['u', 'l', 'l']
    fail .null
  | some 't' =>
    bump
    letters ['r', 'u', 'e']
    fail (.boolean true)
  | some 'f' =>
    bump
    letters ['a', 'l', 's', 'e']
    fail (.boolean false)
  | some '"' =>
    bump
    fail (.string (← stringRest))
  | some '[' => fail .list
  | some '{' => fail .object
  | some '-' =>
    bump
    fail (← number true).kind
  | some c => if c.isDigit then fail (← number false).kind else failNext .expectedValue
  | none => failNext .expectedValue

def string (expected : String) : Reader String := do
  if (← peekValue) == '"' then
    bump
    stringRest
  else mismatch expected

def null (expected : String) : Reader Unit := do
  if (← peekValue) == 'n' then
    bump
    letters ['u', 'l', 'l']
  else mismatch expected

/-! ### Members of objects -/

/-- Reads the key of the next member, or finds the closing brace and leaves it. -/
def nextKey? (first : Bool) : Reader (Option String) := do
  let key : Reader (Option String) := do
    bump
    return some (← stringRest)
  match ← peekToken with
  | none => failNext .endOfObject
  | some '}' => return none
  | some c =>
    if first then
      if c == '"' then key else failNext .keyNotString
    else if c == ',' then
      bump
      match ← peekToken with
      | some '"' => key
      | some '}' => failNext .trailingComma
      | some _ => failNext .keyNotString
      | none => failNext .endOfValue
    else failNext .expectedObjectEnd

/-- Reads all members, from behind the opening brace up to the closing one. Each changes what has
been gathered, given its key and with its colon still to come. -/
def members {σ : Type} (member : σ → String → Reader σ) (start : σ) : Reader σ := do
  go ((← get).length + 1) true start
where
  /-- At most the given number of members. -/
  go : Nat → Bool → σ → Reader σ
  | 0, _, s => return s
  | fuel + 1, first, s => do
    match ← nextKey? first with
    | none => return s
    | some key => go fuel false (← member s key)

/-- A fault in an object as a whole. White space is passed, and the closing brace if it follows. -/
def failObject {α : Type} (cause : Cause) : Reader α := do
  if (← peekToken) == some '}' then bump
  failHere cause

/-- Passes the closing brace. -/
def closeObject : Reader Unit := bump

/-- The value of a member behind its key. -/
def memberValue {α : Type} (value : Reader α) : Reader α := do
  colon
  value

/-- The value of a member that may come once. -/
def once {α : Type} (name : String) (old : Option α) (value : Reader α) : Reader (Option α) := do
  if old.isSome then failObject (.duplicateField name)
  return some (← memberValue value)

/-! ### Elements of lists -/

/-- Whether another element follows. The closing bracket is left. -/
def hasElement (first : Bool) : Reader Bool := do
  match ← peekToken with
  | none => failNext .endOfList
  | some ']' => return false
  | some c =>
    if first then return true
    else if c == ',' then
      bump
      match ← peekToken with
      | some ']' => failNext .trailingComma
      | some _ => return true
      | none => failNext .endOfValue
    else failNext .expectedListEnd

/-- Reads the next element, if there is one. -/
def element? {α : Type} (first : Bool) (value : Reader α) : Reader (Option α) := do
  if ← hasElement first then return some (← value) else return none

/-- The element behind one that may have been left out. Then there is none. -/
def elementBehind? {α β : Type} (before : Option α) (value : Reader β) : Reader (Option β) :=
  if before.isSome then element? false value else return none

/-- Reads all elements, from behind the opening bracket up to the closing one. -/
def elements {α : Type} (value : Reader α) : Reader (List α) := do
  go ((← get).length + 1) true
where
  /-- At most the given number of elements. -/
  go : Nat → Bool → Reader (List α)
  | 0, _ => return []
  | fuel + 1, first => do
    match ← element? first value with
    | none => return []
    | some a => return a :: (← go fuel false)

/-- Passes the closing bracket of a list that may have no further elements. -/
def closeList : Reader Unit := do
  match ← peekToken with
  | some ']' => bump
  | some ',' =>
    bump
    if (← peekToken) == some ']' then failNext .trailingComma else failNext .trailingCharacters
  | some _ => failNext .trailingCharacters
  | none => failNext .endOfList

/-- The fault of a list that ends too early; its closing bracket is passed. -/
def failLength {α : Type} (length : Nat) (expected : String) : Reader α := do
  closeList
  failHere (.invalidLength length expected)

/-- The element at a place of a list of fixed length. -/
def fixedElement {α : Type} (index : Nat) (expected : String) (value : Reader α) : Reader α := do
  match ← element? (index == 0) value with
  | some a => return a
  | none => failLength index expected

/-! ### Documents -/

/-- A value with nothing but white space behind it. -/
def alone {α : Type} (value : Reader α) : Reader α := do
  let a ← value
  if (← peekToken).isSome then failNext .trailingCharacters
  return a

/-- Reads a value that is the whole document, apart from white space around it. -/
def document {α : Type} (value : Reader α) (text : String) : Except Fault α := do
  let (a, _) ← alone value text.toList
  return a

end GlobalImports.Json
