import GlobalImports.Json.Fault
import GlobalImports.Text.Digit

/-! Reading a JSON document from left to right: white space, single characters, words and strings.
The first problem met is the one reported, either at the place reached or one byte further, where
the offending byte has been looked at. -/

namespace GlobalImports.Json

/-- Reads from the text left. -/
abbrev Reader := StateT (List Char) (Except Fault)

/-! ### Faults -/

/-- A fault at the place reached. -/
def faultHere (rest : List Char) (cause : Cause) : Fault := ⟨cause, Text.byteLength rest⟩

/-- A fault one byte beyond the place reached, if the document goes that far. -/
def faultNext (rest : List Char) (cause : Cause) : Fault := ⟨cause, Text.byteLength rest - 1⟩

def failHere {α : Type} (cause : Cause) : Reader α := fun rest => .error (faultHere rest cause)

def failNext {α : Type} (cause : Cause) : Reader α := fun rest => .error (faultNext rest cause)

/-! ### White space and single characters -/

def isSpace (c : Char) : Bool := c == ' ' || c == '\n' || c == '\t' || c == '\r'

/-- Passes white space and shows the character behind it. -/
def peekToken : Reader (Option Char) := fun rest =>
  let rest := rest.dropWhile isSpace
  .ok (rest.head?, rest)

/-- Passes white space before a value. -/
def peekValue : Reader Char := do
  match ← peekToken with
  | some c => return c
  | none => failNext .endOfValue

def bump : Reader Unit := fun rest => .ok ((), rest.tail)

/-- Passes the letters of a word. -/
def letters : List Char → Reader Unit
  | [] => return ()
  | l :: ls => do
    match (← get).head? with
    | none => failHere .endOfValue
    | some c =>
      if c == l then
        bump
        letters ls
      else failNext .expectedIdent

/-- Passes the colon behind a key. -/
def colon : Reader Unit := do
  match ← peekToken with
  | some ':' => bump
  | some _ => failNext .expectedColon
  | none => failNext .endOfObject

/-! ### Strings -/

/-- The number in four hexadecimal digits. Four bytes are read whatever they are. -/
def hex4 (rest : List Char) : Except Fault (Nat × List Char) :=
  match Text.ofHex? (rest.take 4) with
  | some n => if 4 ≤ rest.length then .ok (n, rest.drop 4) else .error ⟨.endOfString, 0⟩
  | none =>
    let bytes := Text.byteLength rest
    .error (if bytes < 4 then ⟨.endOfString, 0⟩ else ⟨.invalidEscape, bytes - 4⟩)

def isHighSurrogate (n : Nat) : Bool := 0xD800 ≤ n && n ≤ 0xDBFF

def isLowSurrogate (n : Nat) : Bool := 0xDC00 ≤ n && n ≤ 0xDFFF

/-- Reads the second half of a character whose first half was `high`. -/
def lowSurrogate (high : Nat) : List Char → Except Fault (Char × List Char)
  | '\\' :: 'u' :: rest => do
    let (low, rest) ← hex4 rest
    if isLowSurrogate low then
      return (Char.ofNat ((high - 0xD800) * 0x400 + (low - 0xDC00) + 0x10000), rest)
    else throw (faultHere rest .loneSurrogate)
  | '\\' :: rest =>
    .error (if rest.isEmpty then faultHere rest .endOfString else faultNext rest .missingSurrogate)
  | rest =>
    .error (if rest.isEmpty then faultHere rest .endOfString else faultNext rest .missingSurrogate)

/-- The character of an escape with a single letter. -/
def shortEscape? : Char → Option Char
  | '"' => some '"'
  | '\\' => some '\\'
  | '/' => some '/'
  | 'b' => some '\x08'
  | 'f' => some '\x0c'
  | 'n' => some '\n'
  | 'r' => some '\r'
  | 't' => some '\t'
  | _ => none

/-- Reads an escape from behind its backslash on. -/
def escape (rest : List Char) : Except Fault (Char × List Char) :=
  match rest with
  | [] => .error (faultHere rest .endOfString)
  | 'u' :: rest => do
    let (n, rest) ← hex4 rest
    if isLowSurrogate n then throw (faultHere rest .loneSurrogate)
    else if isHighSurrogate n then lowSurrogate n rest
    else return (Char.ofNat n, rest)
  | c :: cs =>
    match shortEscape? c with
    | some d => .ok (d, cs)
    | none => .error (faultNext rest .invalidEscape)

/-- Every escape is read from the text behind the backslash, so the string gets shorter. -/
theorem hex4_length {rest r : List Char} {n : Nat} (h : hex4 rest = .ok (n, r)) :
    r.length + 4 = rest.length := by
  unfold hex4 at h
  split at h
  · split at h
    · obtain ⟨-, rfl⟩ := by simpa using h
      simp only [List.length_drop]
      omega
    · simp at h
  · simp at h

theorem lowSurrogate_length {high : Nat} {rest r : List Char} {c : Char}
    (h : lowSurrogate high rest = .ok (c, r)) : r.length < rest.length := by
  unfold lowSurrogate at h
  split at h
  · rename_i rest'
    cases hx : hex4 rest' with
    | error e => simp [hx, bind, Except.bind] at h
    | ok v =>
      have := hex4_length (n := v.1) (r := v.2) hx
      simp only [hx, bind, Except.bind] at h
      split at h
      · obtain ⟨-, rfl⟩ := by simpa [pure, Except.pure] using h
        simp only [List.length_cons]
        omega
      · simp [throw, throwThe, MonadExceptOf.throw] at h
  · simp at h
  · simp at h

theorem escape_length {rest r : List Char} {c : Char} (h : escape rest = .ok (c, r)) :
    r.length < rest.length := by
  unfold escape at h
  split at h
  · simp at h
  · rename_i rest'
    cases hx : hex4 rest' with
    | error e => simp [hx, bind, Except.bind] at h
    | ok v =>
      have h4 := hex4_length (n := v.1) (r := v.2) hx
      simp only [hx, bind, Except.bind] at h
      split at h
      · simp [throw, throwThe, MonadExceptOf.throw] at h
      · split at h
        · have := lowSurrogate_length h
          simp only [List.length_cons]
          omega
        · obtain ⟨-, rfl⟩ := by simpa [pure, Except.pure] using h
          simp only [List.length_cons]
          omega
  · split at h
    · obtain ⟨-, rfl⟩ := by simpa using h
      simp
    · simp at h

/-- Reads the characters of a string up to its closing quote. -/
def stringBody (rest : List Char) : Except Fault (List Char × List Char) :=
  match rest with
  | [] => .error (faultHere rest .endOfString)
  | '"' :: cs => .ok ([], cs)
  | '\\' :: cs =>
    match _h : escape cs with
    | .error e => .error e
    | .ok (c, cs') => (stringBody cs').map fun (s, r) => (c :: s, r)
  | c :: cs =>
    if c < ' ' then .error (faultNext rest .controlCharacter)
    else (stringBody cs).map fun (s, r) => (c :: s, r)
termination_by rest.length
decreasing_by
  · have := escape_length _h
    simp only [List.length_cons]
    omega
  · simp

/-- Reads a string from behind its opening quote on. -/
def stringRest : Reader String := fun rest =>
  (stringBody rest).map fun (s, r) => (String.ofList s, r)

end GlobalImports.Json
