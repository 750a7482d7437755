import GlobalImports.Json.Number

/-! Values that are read only to get past them. Their grammar is checked, but not the range of
numbers nor the pairing of surrogates, and they may be nested to any depth. -/

namespace GlobalImports.Json

/-- What an unfinished value stands in. -/
inductive Enclosing where
  | list
  | object
  deriving DecidableEq, Repr

namespace Enclosing

def opening : Enclosing → Char
  | list => '['
  | object => '{'

def closing : Enclosing → Char
  | list => ']'
  | object => '}'

/-- What the character opens. -/
def ofOpening? (c : Char) : Option Enclosing := [list, object].find? (·.opening == c)

/-- The fault at the end of the text. -/
def unclosed : Enclosing → Cause
  | list => .endOfList
  | object => .endOfObject

/-- The fault where there is neither a comma nor the closing bracket. -/
def unended : Enclosing → Cause
  | list => .expectedListEnd
  | object => .expectedObjectEnd

end Enclosing

def skipEscape (rest : List Char) : Except Fault (List Char) :=
  match rest with
  | [] => .error (faultHere rest .endOfString)
  | 'u' :: rest => (hex4 rest).map (·.2)
  | c :: cs => if (shortEscape? c).isSome then .ok cs else .error (faultNext rest .invalidEscape)

theorem skipEscape_length {rest r : List Char} (h : skipEscape rest = .ok r) :
    r.length < rest.length := by
  unfold skipEscape at h
  split at h
  · simp at h
  · rename_i rest'
    cases hx : hex4 rest' with
    | error e => simp [hx, Except.map] at h
    | ok v =>
      have := hex4_length (n := v.1) (r := v.2) hx
      obtain rfl := by simpa [hx, Except.map] using h
      simp only [List.length_cons]
      omega
  · split at h
    · obtain rfl := by simpa using h
      simp
    · simp at h

/-- Passes a string up to its closing quote. -/
def skipStringBody (rest : List Char) : Except Fault (List Char) :=
  match rest with
  | [] => .error (faultHere rest .endOfString)
  | '"' :: cs => .ok cs
  | '\\' :: cs =>
    match _h : skipEscape cs with
    | .error e => .error e
    | .ok cs' => skipStringBody cs'
  | c :: cs => if c < ' ' then .error (faultHere rest .controlCharacter) else skipStringBody cs
termination_by rest.length
decreasing_by
  · have := skipEscape_length _h
    simp only [List.length_cons]
    omega
  · simp

def skipString : Reader Unit := fun rest => (skipStringBody rest).map ((), ·)

def skipNumber : Reader Unit := do
  discard (wholeDigits .invalidNumber)
  discard (fractionDigits .invalidNumber)
  discard (exponentDigits .invalidNumber)

/-- Passes the key of a member and its colon. -/
def skipKey : Reader Unit := do
  match ← peekToken with
  | some '"' =>
    bump
    skipString
    colon
  | some _ => failNext .keyNotString
  | none => failNext .endOfObject

/-- Passes what is in front of the value of an element. -/
def Enclosing.skipFront : Enclosing → Reader Unit
  | list => return ()
  | object => skipKey

/-- Passes a word, a string or a number. -/
def skipScalar : Char → Reader Unit
  | 'n' => do
    bump
    letters ['u', 'l', 'l']
  | 't' => do
    bump
    letters ['r', 'u', 'e']
  | 'f' => do
    bump
    letters ['a', 'l', 's', 'e']
  | '"' => do
    bump
    skipString
  | '-' => do
    bump
    skipNumber
  | c => if c.isDigit then skipNumber else failNext .expectedValue

mutual

/-- Passes a value and what then remains of the lists and objects it stands in, innermost first. -/
def skipFrom : Nat → List Enclosing → Reader Unit
  | 0, _ => failHere .endOfValue
  | fuel + 1, around => do
    let c ← peekValue
    match Enclosing.ofOpening? c with
    | some k =>
      bump
      match ← peekToken with
      | some d =>
        if d == k.closing then
          bump
          skipAfter fuel around
        else
          k.skipFront
          skipFrom fuel (k :: around)
      | none => failNext k.unclosed
    | none =>
      skipScalar c
      skipAfter fuel around

/-- Passes what remains behind a complete value. -/
def skipAfter : Nat → List Enclosing → Reader Unit
  | _, [] => return ()
  | 0, _ => failHere .endOfValue
  | fuel + 1, k :: around => do
    match ← peekToken with
    | some c =>
      if c == ',' then
        bump
        k.skipFront
        skipFrom fuel (k :: around)
      else if c == k.closing then
        bump
        skipAfter fuel around
      else failNext k.unended
    | none => failNext k.unclosed

end

/-- Passes a value. Every step passes a character, so their number bounds the steps. -/
def skipValue : Reader Unit := do skipFrom ((← get).length + 1) []

end GlobalImports.Json
