import GlobalImports.Pattern.Property
import GlobalImports.Pattern.Reader
import GlobalImports.Text.Digit

/-! Escapes in patterns: a backslash and what follows it. -/

namespace GlobalImports.Pattern

open Regex (CharSet Look)
open Unicode (Ranges)

/-- What an escape stands for. -/
inductive Escape where
  | char (c : Char)
  | set (s : Ranges)
  | look (l : Look)

/-! ### Characters by code point -/

/-- The character with the code point that the digits spell. -/
def charOfHex (digits : List Char) : Reader Char := do
  let some n := Text.ofHex? digits | throw .badCodePoint
  if h : n.isValidChar then return Char.ofNatAux n h else throw .badCodePoint

/-- Exactly so many hexadecimal digits. -/
def hexDigits : Nat → Reader (List Char)
  | 0 => return []
  | n + 1 => do
    let c ← peekOr .badEscape
    if Text.isHex c then
      advance
      return c :: (← hexDigits n)
    else throw .badCodePoint

/-- A code point in braces or in the number of digits that goes with the letter. -/
def codePoint (width : Nat) : Reader Char := do
  advance
  if (← peekOr .badEscape) == '{' then
    advance
    let digits ← takeWhile Text.isHex
    if (← peekOr .badEscape) != '}' || digits.isEmpty then throw .badCodePoint
    advance
    charOfHex digits
  else
    let digits ← hexDigits width
    let c ← charOfHex digits
    if width == 2 && 127 < c.toNat && !(← get).flags.unicode then throw .beyondAscii
    return c

/-! ### Properties -/

/-- The name of a property in braces, cut at the first sign between property and value. All three
signs mean the same. -/
def bracedSet? (name : List Char) : Option Ranges :=
  match splitAt? ['!', '='] name with
  | some (p, v) => valuedSet? p v
  | none =>
    match splitAt? [':'] name with
    | some (p, v) => valuedSet? p v
    | none =>
      match splitAt? ['='] name with
      | some (p, v) => valuedSet? p v
      | none => namedSet? name
where
  /-- The parts before and after the first occurrence of `sep`. -/
  splitAt? (sep : List Char) : List Char → Option (List Char × List Char)
  | [] => none
  | c :: cs =>
    if sep.isPrefixOf (c :: cs) then some ([], (c :: cs).drop sep.length)
    else (splitAt? sep cs).map fun (a, b) => (c :: a, b)

/-- What stands for a property whose name has been read, with the set that the name means. -/
def propertyOf (negated : Bool) (set : Option Ranges) : Reader Ranges := do
  if !(← get).flags.unicode then throw .beyondAscii
  match set with
  | some s => return .negatedIf negated ((← get).flags.foldCase s)
  | none => throw .unknownProperty

def property (negated : Bool) : Reader Ranges := do
  advance
  let c ← peekOr .badEscape
  let set ←
    if c == '{' then do
      advance
      let name ← takeWhile (· != '}')
      discard (peekOr .badEscape)
      bump
      pure (bracedSet? name)
    else if c == '\\' then throw .unknownProperty
    else do
      advance
      pure (namedSet? [c])
  propertyOf negated set

/-! ### Conditions on places -/

/-- The name of a special word boundary, if one follows in braces. Braces that do not begin with a
letter or a hyphen are left for a repetition. -/
def specialBoundary (word : CharSet) : Reader (Option Look) := do
  let isNameChar (c : Char) : Bool := c.isAlpha || c == '-'
  if (← peek) != some '{' then return none
  let before ← get
  advance
  if !isNameChar (← peekOr .badEscape) then
    set before
    return none
  let name ← takeWhile isNameChar
  if (← peekOr .badEscape) != '}' then throw .badEscape
  bump
  match String.ofList name with
  | "start" => return some (.wordStart word)
  | "end" => return some (.wordEnd word)
  | "start-half" => return some (.wordStartHalf word)
  | "end-half" => return some (.wordEndHalf word)
  | _ => throw .badEscape

/-! ### All escapes -/

/-- Stands for itself behind a backslash: any ASCII character but letters, digits, `<` and `>`. -/
def isPlainEscape (c : Char) : Bool :=
  c.toNat < 128 && !c.isAlphanum && c != '<' && c != '>'

/-- Reads an escape from its backslash on. -/
def escape : Reader Escape := do
  bump
  let c ← peekOr .badEscape
  let flags := (← get).flags
  let perl (negated : Bool) (unicode ascii : Ranges) : Reader Escape := do
    bump
    return .set (← allowed (.negatedIf negated (if flags.unicode then unicode else ascii)))
  let simple (c : Char) : Reader Escape := do bump; return .char c
  let look (l : Look) : Reader Escape := do bump; return .look l
  match c with
  | 'x' => return .char (← codePoint 2)
  | 'u' => return .char (← codePoint 4)
  | 'U' => return .char (← codePoint 8)
  | 'p' => return .set (← property false)
  | 'P' => return .set (← property true)
  | 'd' => perl false Unicode.digit (.range '0' '9')
  | 'D' => perl true Unicode.digit (.range '0' '9')
  | 's' => perl false Unicode.blank asciiBlank
  | 'S' => perl true Unicode.blank asciiBlank
  | 'w' => perl false Unicode.word asciiWord
  | 'W' => perl true Unicode.word asciiWord
  | 'a' => simple '\x07'
  | 'f' => simple '\x0c'
  | 't' => simple '\t'
  | 'n' => simple '\n'
  | 'r' => simple '\r'
  | 'v' => simple '\x0b'
  | 'A' => look .textStart
  | 'z' => look .textEnd
  | 'b' =>
    bump
    return .look ((← specialBoundary flags.word).getD (.boundary flags.word))
  | 'B' => look (.noBoundary flags.word)
  | '<' => look (.wordStart flags.word)
  | '>' => look (.wordEnd flags.word)
  | _ =>
    if c.isDigit then throw .unsupported
    else if isPlainEscape c then simple c
    else throw .badEscape
where
  /-- White space within ASCII. -/
  asciiBlank : Ranges := .union (.range '\t' '\r') (.single ' ')
  /-- Letters, digits and `_` within ASCII. -/
  asciiWord : Ranges := .unions [.range '0' '9', .range 'A' 'Z', .single '_', .range 'a' 'z']

end GlobalImports.Pattern
