import GlobalImports.Decimal.Shortest
import GlobalImports.Text.Quoted
import GlobalImports.Text.Span

/-! What can be wrong with a JSON document, and where. -/

namespace GlobalImports.Json

/-- A value met where another kind was wanted. -/
inductive Kind where
  | null
  | boolean (b : Bool)
  | integer (n : Int)
  | float (x : Decimal.Signed)
  | string (s : String)
  | list
  | object
  deriving DecidableEq, Repr

def Kind.text : Kind → String
  | null => "null"
  | boolean b => "boolean `" ++ (if b then "true" else "false") ++ "`"
  | integer n => "integer `" ++ toString n ++ "`"
  | float x => "floating point `" ++ x.text ++ "`"
  | string s => "string " ++ Text.quoted s
  | list => "sequence"
  | object => "map"

inductive Cause where
  | endOfValue
  | endOfObject
  | endOfList
  | endOfString
  | expectedValue
  | expectedIdent
  | expectedColon
  | expectedObjectEnd
  | expectedListEnd
  | keyNotString
  | trailingComma
  | trailingCharacters
  | invalidNumber
  | numberOutOfRange
  | invalidEscape
  | controlCharacter
  | loneSurrogate
  | missingSurrogate
  | duplicateField (name : String)
  | missingField (name : String)
  | invalidLength (length : Nat) (expected : String)
  | unknownVariant (name : String) (variants : List String)
  | invalidType (kind : Kind) (expected : String)
  deriving DecidableEq, Repr

def Cause.text : Cause → String
  | endOfValue => "EOF while parsing a value"
  | endOfObject => "EOF while parsing an object"
  | endOfList => "EOF while parsing a list"
  | endOfString => "EOF while parsing a string"
  | expectedValue => "expected value"
  | expectedIdent => "expected ident"
  | expectedColon => "expected `:`"
  | expectedObjectEnd => "expected `,` or `\x7d`"
  | expectedListEnd => "expected `,` or `]`"
  | keyNotString => "key must be a string"
  | trailingComma => "trailing comma"
  | trailingCharacters => "trailing characters"
  | invalidNumber => "invalid number"
  | numberOutOfRange => "number out of range"
  | invalidEscape => "invalid escape"
  | controlCharacter => "control character (\\u0000-\\u001F) found while parsing a string"
  | loneSurrogate => "lone leading surrogate in hex escape"
  | missingSurrogate => "unexpected end of hex escape"
  | duplicateField name => "duplicate field `" ++ name ++ "`"
  | missingField name => "missing field `" ++ name ++ "`"
  | invalidLength n expected => "invalid length " ++ toString n ++ ", expected " ++ expected
  | unknownVariant name variants =>
    "unknown variant `" ++ name ++ "`, expected one of " ++
      ", ".intercalate (variants.map fun v => "`" ++ v ++ "`")
  | invalidType kind expected => "invalid type: " ++ kind.text ++ ", expected " ++ expected

/-- A cause, and how many bytes of the document lie behind the place where it was met. -/
structure Fault where
  cause : Cause
  left : Nat
  deriving DecidableEq, Repr

/-- Line and column of the place `index` bytes into a document: the column counts the bytes behind
the last line break. -/
def position (document : List Char) (index : Nat) : Nat × Nat :=
  go 1 0 0 document
where
  /-- `offset` bytes have been passed, the current line beginning at `lineStart`. -/
  go (line lineStart offset : Nat) : List Char → Nat × Nat
  | [] => (line, index - lineStart)
  | c :: cs =>
    if index ≤ offset then (line, index - lineStart)
    else if c == '\n' then go (line + 1) (offset + 1) (offset + 1) cs
    else go line lineStart (offset + c.utf8Size) cs

/-- The cause with its position in the document. -/
def Fault.message (document : String) (f : Fault) : String :=
  let cs := document.toList
  let (line, column) := position cs (Text.byteLength cs - f.left)
  f.cause.text ++ " at line " ++ toString line ++ " column " ++ toString column

end GlobalImports.Json
