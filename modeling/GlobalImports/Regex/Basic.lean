import GlobalImports.Regex.CharSet

/-! Regular expressions with numbered groups, and the conditions they can put on a place between
two characters. -/

namespace GlobalImports

namespace Regex

/-- A condition on a place in a text. -/
inductive Look where
  | textStart
  | textEnd
  /-- With `crlf`, a carriage return ends a line too, and the pair of both ends one line. -/
  | lineStart (crlf : Bool)
  | lineEnd (crlf : Bool)
  /-- The conditions on the two sides of a place ask whether a member of `word` stands there. -/
  | boundary (word : CharSet)
  | noBoundary (word : CharSet)
  | wordStart (word : CharSet)
  | wordEnd (word : CharSet)
  | wordStartHalf (word : CharSet)
  | wordEndHalf (word : CharSet)
  deriving DecidableEq, Repr

/-- Whether the condition holds between the two given neighbours. -/
def Look.holds (before after : Option Char) : Look → Bool
  | textStart => before.isNone
  | textEnd => after.isNone
  | lineStart crlf =>
    before.isNone || before == some '\n' || (crlf && before == some '\r' && after != some '\n')
  | lineEnd crlf =>
    after.isNone || (if crlf then after == some '\r' || (after == some '\n' && before != some '\r')
      else after == some '\n')
  | boundary w => before.any w.contains != after.any w.contains
  | noBoundary w => before.any w.contains == after.any w.contains
  | wordStart w => !before.any w.contains && after.any w.contains
  | wordEnd w => before.any w.contains && !after.any w.contains
  | wordStartHalf w => !before.any w.contains
  | wordEndHalf w => !after.any w.contains

end Regex

/-- A regular expression. Of several ways to match, an earlier alternative comes first, and a
repetition tries more rounds first if it is greedy and fewer first if it is not. -/
inductive Regex where
  | empty
  | one (s : Regex.CharSet)
  | look (l : Regex.Look)
  | group (index : Nat) (r : Regex)
  | seq (r s : Regex)
  | alt (r s : Regex)
  /-- At least `min` and at most `max` rounds. -/
  | many (r : Regex) (min : Nat) (max : Option Nat) (greedy : Bool)
  deriving DecidableEq, Repr

namespace Regex

/-- Looks no further if both are one expression in memory. -/
instance (priority := high) : DecidableEq Regex := fun r s =>
  withPtrEqDecEq r s fun _ => instDecidableEqRegex r s

/-! ### Building expressions -/

def cat (rs : List Regex) : Regex :=
  match rs with
  | [] => empty
  | [r] => r
  | r :: rs => seq r (cat rs)

def oneOf (rs : List Regex) : Regex :=
  match rs with
  | [] => empty
  | [r] => r
  | r :: rs => alt r (oneOf rs)

def char (c : Char) : Regex := one (.only c)

/-- The characters of `s`, one after the other. -/
def literal (s : String) : Regex := cat (s.toList.map char)

def star (r : Regex) : Regex := many r 0 none true

def plus (r : Regex) : Regex := many r 1 none true

/-- Any number of rounds, fewer first. -/
def lazyStar (r : Regex) : Regex := many r 0 none false

/-! ### Measures -/

/-- The largest group number, or zero. -/
def groupCount : Regex → Nat
  | empty | one _ | look _ => 0
  | group i r => max i r.groupCount
  | seq r s | alt r s => max r.groupCount s.groupCount
  | many r _ _ _ => r.groupCount

/-- Number of expressions in it, itself included. -/
def nodes : Regex → Nat
  | empty | one _ | look _ => 1
  | group _ r | many r _ _ _ => r.nodes + 1
  | seq r s | alt r s => r.nodes + s.nodes + 1

/-- Can match without reading a character. -/
def nullable : Regex → Bool
  | empty | look _ => true
  | one _ => false
  | group _ r => r.nullable
  | seq r s => r.nullable && s.nullable
  | alt r s => r.nullable || s.nullable
  | many r n _ _ => n == 0 || r.nullable

end Regex

end GlobalImports
