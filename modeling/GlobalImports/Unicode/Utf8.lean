import GlobalImports.Unicode.Ranges

/-! Ranges of code points as UTF-8 spells them: each is cut into parts whose spellings are all the
sequences of bytes that run through one range of bytes per place. -/

namespace GlobalImports.Unicode

/-- First and last byte at one place of a spelling. -/
abbrev ByteRange := UInt8 × UInt8

namespace Ranges

/-- Where to cut a range so that the block of `size` code points around its start, or else around
its end, is not entered half-way. -/
def blockCut? (first last size : Nat) : Option Nat :=
  if first / size = last / size then none
  else if first % size ≠ 0 then some (first / size * size + size - 1)
  else if last % size ≠ size - 1 then some (last / size * size - 1)
  else none

/-- The last code point of the first part of a range that has to be cut: in front of the surrogates,
where the spellings get longer, and where a later byte would not run through all of its values. -/
def cut? (first last : Nat) : Option Nat :=
  if first ≤ 0xd7ff && 0xd7ff < last then some 0xd7ff
  else match [0x7f, 0x7ff, 0xffff].find? fun b => first ≤ b && b < last with
    | some b => some b
    | none =>
      if last ≤ 0x7f then none
      else [64, 64 * 64, 64 * 64 * 64].findSome? (blockCut? first last)

/-- The parts of a range, after at most so many cuts in a row. -/
def parts : Nat → Nat → Nat → List (Nat × Nat)
  | 0, first, last => [(first, last)]
  | cuts + 1, first, last =>
    match cut? first last with
    | some m => parts cuts first m ++ parts cuts (next m) last
    | none => [(first, last)]

def utf8 (n : Nat) : List UInt8 := String.utf8EncodeChar (Char.ofNat n)

/-- The spellings of all members, in order. No range needs more than 16 cuts in a row. -/
def spellings (r : Ranges) : List (List ByteRange) :=
  r.runs.toList.flatMap fun (a, b) => (parts 16 a b).map fun (c, d) => (utf8 c).zip (utf8 d)

example : (range '\u0080' '\u0800').spellings =
    [[(0xc2, 0xdf), (0x80, 0xbf)], [(0xe0, 0xe0), (0xa0, 0xa0), (0x80, 0x80)]] := by decide +kernel

end Ranges

end GlobalImports.Unicode
