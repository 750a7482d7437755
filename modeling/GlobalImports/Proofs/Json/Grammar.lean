import GlobalImports.Json.Reader
import Mathlib.Data.List.Basic

/-! The texts of JSON documents, said without any reader. White space may stand wherever the grammar
has it, a string may be spelled in many ways, and lists and objects hold texts of values in turn. -/

namespace GlobalImports.Json

/-- White space, or none. -/
structure Gap where
  chars : List Char
  space : ∀ c ∈ chars, isSpace c = true

def Gap.tight : Gap := ⟨[], by simp⟩

@[simp] theorem Gap.chars_tight : Gap.tight.chars = [] := rfl

/-! ### Strings -/

/-- A hexadecimal digit in either case. -/
structure HexDigit where
  value : Fin 16
  upper : Bool

def HexDigit.char (d : HexDigit) : Char :=
  if d.upper then d.value.val.digitChar.toUpper else d.value.val.digitChar

/-- A UTF-16 code unit in four digits. -/
structure CodeUnit where
  first : HexDigit
  second : HexDigit
  third : HexDigit
  fourth : HexDigit

namespace CodeUnit

variable (u : CodeUnit)

def chars : List Char := [u.first.char, u.second.char, u.third.char, u.fourth.char]

def value : Nat :=
  ((u.first.value.val * 16 + u.second.value.val) * 16 + u.third.value.val) * 16 +
    u.fourth.value.val

def ofNat (n : Nat) : CodeUnit :=
  let digit (n : Nat) : HexDigit := ⟨Fin.ofNat 16 n, false⟩
  ⟨digit (n / 4096), digit (n / 256), digit (n / 16), digit n⟩

theorem value_ofNat {n : Nat} (h : n < 65536) : (ofNat n).value = n := by
  simp only [value, ofNat, Fin.val_ofNat]
  omega

end CodeUnit

/-- The letters that stand for a character behind a backslash. -/
def shortEscapes : List (Char × Char) :=
  [('"', '"'), ('\\', '\\'), ('/', '/'), ('b', '\x08'), ('f', '\x0c'), ('n', '\n'), ('r', '\r'),
    ('t', '\t')]

/-- A character that may stand for itself. -/
def isRaw (c : Char) : Bool := ' ' ≤ c && c != '"' && c != '\\'

/-- A part of a string's spelling. -/
inductive Piece where
  | raw (c : Char) (h : isRaw c = true)
  | short (letter c : Char) (h : (letter, c) ∈ shortEscapes)
  | unit (u : CodeUnit)

def Piece.text : Piece → List Char
  | raw c _ => [c]
  | short letter _ _ => ['\\', letter]
  | unit u => '\\' :: 'u' :: u.chars

/-- A string with its quotes. Its code units may be any, paired or not. -/
structure Literal where
  pieces : List Piece

/-- The text up to the closing quote, without the opening one. -/
def Literal.body (l : Literal) : List Char := l.pieces.flatMap Piece.text

def Literal.text (l : Literal) : List Char := '"' :: (l.body ++ ['"'])

/-- The characters that pieces spell. A character beyond the first 65536 takes two code units. -/
inductive Spelled : List Piece → List Char → Prop where
  | nil : Spelled [] []
  | raw {c : Char} (h) {ps : List Piece} {cs : List Char} :
      Spelled ps cs → Spelled (.raw c h :: ps) (c :: cs)
  | short {letter c : Char} (h) {ps : List Piece} {cs : List Char} :
      Spelled ps cs → Spelled (.short letter c h :: ps) (c :: cs)
  | unit {u : CodeUnit} {c : Char} {ps : List Piece} {cs : List Char} (h : u.value = c.toNat) :
      Spelled ps cs → Spelled (.unit u :: ps) (c :: cs)
  | pair {u v : CodeUnit} {c : Char} {ps : List Piece} {cs : List Char} (h : 0x10000 ≤ c.toNat)
      (hu : u.value = 0xD800 + (c.toNat - 0x10000) / 0x400)
      (hv : v.value = 0xDC00 + (c.toNat - 0x10000) % 0x400) :
      Spelled ps cs → Spelled (.unit u :: .unit v :: ps) (c :: cs)

def Literal.Spells (l : Literal) (s : String) : Prop := Spelled l.pieces s.toList

/-- The character itself if it may stand, and its code unit otherwise. -/
def Piece.ofChar (c : Char) : Piece :=
  if h : isRaw c = true then .raw c h else .unit (.ofNat c.toNat)

def Literal.ofString (s : String) : Literal := ⟨s.toList.map Piece.ofChar⟩

/-- Only characters of ASCII have to be escaped. -/
theorem toNat_lt_of_not_isRaw {c : Char} (h : ¬isRaw c = true) : c.toNat < 128 := by
  simp only [isRaw, Bool.and_eq_true, decide_eq_true_eq, bne_iff_ne, not_and, not_not] at h
  by_cases low : ' ' ≤ c
  · by_cases quote : c = '"'
    · rw [quote]
      decide
    · rw [h ⟨low, quote⟩]
      decide
  · have below : c.toNat < ' '.toNat := Char.not_le.1 low
    exact Nat.lt_trans below (by decide)

/-- Every string has a spelling. -/
theorem Literal.ofString_spells (s : String) : (Literal.ofString s).Spells s := by
  rw [Spells, ofString]
  induction s.toList with
  | nil => exact .nil
  | cons c cs ih =>
    rw [List.map_cons, Piece.ofChar]
    split
    case isTrue h => exact .raw h ih
    case isFalse h =>
      have small := toNat_lt_of_not_isRaw h
      exact .unit (CodeUnit.value_ofNat (by omega)) ih

/-! ### Numbers -/

structure Digits where
  chars : List Char
  ne_nil : chars ≠ []
  digits : ∀ c ∈ chars, c.isDigit = true

/-- A whole part has no zero at its head unless it is zero. -/
inductive Whole where
  | zero
  | positive (ds : Digits) (h : ds.chars.head? ≠ some '0')

def Whole.text : Whole → List Char
  | zero => ['0']
  | positive ds _ => ds.chars

structure Exponent where
  mark : Char
  mark_eq : mark = 'e' ∨ mark = 'E'
  sign : Option Char
  sign_eq : ∀ c ∈ sign, c = '+' ∨ c = '-'
  digits : Digits

def Exponent.text (e : Exponent) : List Char := e.mark :: (e.sign.toList ++ e.digits.chars)

structure Numeral where
  negative : Bool
  whole : Whole
  fraction : Option Digits
  exponent : Option Exponent

namespace Numeral

variable (n : Numeral)

def fractionText : List Char := n.fraction.elim [] fun ds => '.' :: ds.chars

def exponentText : List Char := n.exponent.elim [] Exponent.text

/-- The numeral without its sign. -/
def unsigned : List Char := n.whole.text ++ n.fractionText ++ n.exponentText

def text : List Char := if n.negative then '-' :: n.unsigned else n.unsigned

end Numeral

/-! ### Values -/

/-- An element of a list, with its white space. -/
structure Item where
  before : Gap
  value : List Char
  after : Gap

def Item.tight (value : List Char) : Item := ⟨.tight, value, .tight⟩

def Item.text (e : Item) : List Char := e.before.chars ++ e.value ++ e.after.chars

/-- A member of an object, with its white space. -/
structure Member where
  before : Gap
  key : Literal
  middle : Gap
  item : Item

def Member.tight (key : Literal) (value : List Char) : Member := ⟨.tight, key, .tight, .tight value⟩

def Member.ofStrings (key value : String) : Member :=
  .tight (.ofString key) (Literal.ofString value).text

/-- What is behind the key. -/
def Member.rest (m : Member) : List Char := m.middle.chars ++ ':' :: m.item.text

def Member.text (m : Member) : List Char := m.before.chars ++ m.key.text ++ m.rest

/-- Texts that each have a comma in front. -/
def behindComma (ts : List (List Char)) : List Char := ts.flatMap fun t => ',' :: t

/-- Texts with commas between them, or a gap if there is none. -/
def inner (g : Gap) : List (List Char) → List Char
  | [] => g.chars
  | t :: ts => t ++ behindComma ts

def listText (g : Gap) (es : List Item) : List Char := '[' :: (inner g (es.map Item.text) ++ [']'])

def objectText (g : Gap) (ms : List Member) : List Char :=
  '{' :: (inner g (ms.map Member.text) ++ ['}'])

section Append

variable (g : Gap) (t : List Char)

theorem Literal.text_append (l : Literal) : l.text ++ t = '"' :: (l.body ++ '"' :: t) := by
  simp [Literal.text]

theorem Item.text_append (e : Item) :
    e.text ++ t = e.before.chars ++ (e.value ++ (e.after.chars ++ t)) := by
  rw [Item.text, List.append_assoc, List.append_assoc]

theorem Member.text_append (m : Member) :
    m.text ++ t = m.before.chars ++ '"' :: (m.key.body ++ '"' ::
      (m.middle.chars ++ ':' :: (m.item.text ++ t))) := by
  simp [Member.text, Member.rest, Literal.text_append]

theorem listText_append (es : List Item) :
    listText g es ++ t = '[' :: (inner g (es.map Item.text) ++ ']' :: t) := by
  simp [listText]

theorem objectText_append (ms : List Member) :
    objectText g ms ++ t = '{' :: (inner g (ms.map Member.text) ++ '}' :: t) := by
  simp [objectText]

end Append

theorem behindComma_cons (t : List Char) (ts : List (List Char)) :
    behindComma (t :: ts) = ',' :: (t ++ behindComma ts) := rfl

theorem inner_nil (g : Gap) : inner g [] = g.chars := rfl

theorem inner_cons (g : Gap) (t : List Char) (ts : List (List Char)) :
    inner g (t :: ts) = t ++ behindComma ts := rfl

/-- Texts of values, nested to any depth. -/
inductive IsValue : List Char → Prop where
  | word {w : String} (h : w ∈ ["null", "true", "false"]) : IsValue w.toList
  | number (n : Numeral) : IsValue n.text
  | string (l : Literal) : IsValue l.text
  | list (g : Gap) {es : List Item} (h : ∀ e ∈ es, IsValue e.value) : IsValue (listText g es)
  | object (g : Gap) {ms : List Member} (h : ∀ m ∈ ms, IsValue m.item.value) :
      IsValue (objectText g ms)

end GlobalImports.Json
