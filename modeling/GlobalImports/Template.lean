import GlobalImports.Pattern
import GlobalImports.Regex.Sweep

/-! Templates: text in which `$name` and `${name}` stand for captures and `$$` for a dollar sign. A
template is expanded by one pass over its text. The check for references that no group answers to
finds them by a sweep instead. -/

namespace GlobalImports.Template

/-- A character that stands for itself, or a reference to a group. -/
inductive Part where
  | literal (c : Char)
  | reference (name : List Char)
  deriving DecidableEq, Repr

/-- An ASCII letter, an ASCII digit or `_`. -/
def isNameChar (c : Char) : Bool := c.isAlphanum || c == '_'

theorem length_dropWhile_le (p : Char → Bool) (cs : List Char) :
    (cs.dropWhile p).length ≤ cs.length := (List.dropWhile_suffix p).length_le

/-- The parts of a template. A dollar sign that begins neither an escape nor a reference stands for
itself. -/
def parts : List Char → List Part
  | [] => []
  | '$' :: '$' :: r => .literal '$' :: parts r
  | '$' :: '{' :: r =>
    if r.contains '}' then
      .reference (r.takeWhile (· != '}')) :: parts ((r.dropWhile (· != '}')).drop 1)
    else .literal '$' :: .literal '{' :: parts r
  | '$' :: r =>
    let name := r.takeWhile isNameChar
    if name.isEmpty then .literal '$' :: parts r
    else .reference name :: parts (r.dropWhile isNameChar)
  | c :: r => .literal c :: parts r
termination_by cs => cs.length
decreasing_by
  all_goals grind [length_dropWhile_le]

/-! ### References -/

/-- Longer numbers are names. -/
def maxIndex : Nat := 18446744073709551615

/-- The number that a reference spells: digits with an optional plus sign, up to `maxIndex`. -/
def index? (name : List Char) : Option Nat :=
  let digits := match name with
    | '+' :: r => r
    | r => r
  if digits.isEmpty || !digits.all Char.isDigit then none
  else
    let n := Text.ofDecimal digits
    if n ≤ maxIndex then some n else none

/-- The text that a reference stands for: by number if it spells one, by name otherwise. -/
def lookup? (captures : Captures) (name : List Char) : Option String :=
  match index? name with
  | some i => captures.get? i
  | none => captures.named? (String.ofList name)

/-- A group of the pattern answers to the reference. -/
def isKnown (p : Pattern) (name : List Char) : Bool :=
  match index? name with
  | some i => i < p.groupCount
  | none => p.names.contains (some (String.ofList name))

/-! ### Expansion -/

def Part.expand (captures : Captures) : Part → List Char
  | literal c => [c]
  | reference name => ((lookup? captures name).map String.toList).getD []

/-- The template with every reference replaced; one that stands for nothing vanishes. -/
def expand (template : String) (captures : Captures) : String :=
  String.ofList ((parts template.toList).flatMap (Part.expand captures))

/-! ### References by sweep -/

section Sweep

open Regex

/-- An escaped dollar sign. -/
def escape : Regex := cat [char '$', char '$']

/-- A reference in braces, as group 1. -/
def braced : Regex :=
  cat [char '$', char '{', group 1 (star (one (.compl (.only '}')))), char '}']

/-- A reference without braces, as group 2. -/
def bare : Regex := cat [char '$', group 2 (plus (one .asciiWord))]

def referenceRegex : Regex := oneOf [escape, braced, bare]

/-- What a match refers to. -/
def referenceOf? (f : Found) : Option (List Char) := (f.group? 1).or (f.group? 2)

/-- All references in a template, in order. -/
def references (template : String) : List (List Char) :=
  (referenceRegex.hits template.toList).filterMap referenceOf?

end Sweep

/-- The references that no group of the pattern answers to, in order and with repetitions. -/
def unknownReferences (p : Pattern) (template : String) : List String :=
  ((references template).filter fun name => !isKnown p name).map String.ofList

end GlobalImports.Template
