import GlobalImports.Text.Digit

/-! Sets of code points as the ranges they consist of, in order and with a gap between one and the
next, so that equal sets have equal ranges. -/

namespace GlobalImports.Unicode

/-- First and last code point of every range. -/
structure Ranges where
  runs : Array (Nat × Nat)
  deriving DecidableEq, Repr

namespace Ranges

def lastCodePoint : Nat := 0x10ffff

/-- The next code point that is a character. Surrogates are none. -/
def next (n : Nat) : Nat := if n = 0xd7ff then 0xe000 else n + 1

/-- The last code point before that is a character. -/
def prev (n : Nat) : Nat := if n = 0xe000 then 0xd7ff else n - 1

/-! ### Building sets -/

def empty : Ranges := ⟨#[]⟩

def all : Ranges := ⟨#[(0, lastCodePoint)]⟩

/-- Adds a range that begins no earlier than the last one. -/
def push (runs : Array (Nat × Nat)) (r : Nat × Nat) : Array (Nat × Nat) :=
  match runs.back? with
  | some last =>
    if r.1 ≤ last.2 + 1 then runs.pop.push (last.1, Nat.max last.2 r.2) else runs.push r
  | none => runs.push r

/-- The set of what lies in any of the ranges. -/
def ofList (ranges : List (Nat × Nat)) : Ranges :=
  ⟨(ranges.mergeSort fun a b => a.1 ≤ b.1).foldl push #[]⟩

def single (c : Char) : Ranges := ⟨#[(c.toNat, c.toNat)]⟩

def range (lo hi : Char) : Ranges := ofList [(lo.toNat, hi.toNat)]

/-- The tokens of a table, which stand between single spaces. -/
def tokens (rows : List String) : List (List Char) :=
  rows.flatMap fun row => (row.splitOn " ").map String.toList

/-- A range such as `363-36f`, or a single code point. -/
def readRange (cs : List Char) : Nat × Nat :=
  match cs.span (· != '-') with
  | (a, []) => (hex a, hex a)
  | (a, _ :: b) => (hex a, hex b)
where
  hex (digits : List Char) : Nat := (Text.ofHex? digits).getD 0

/-- The set that a table of ranges spells. -/
def ofTable (rows : List String) : Ranges := ofList ((tokens rows).map readRange)

/-! ### Operations -/

def union (r s : Ranges) : Ranges := ofList (r.runs.toList ++ s.runs.toList)

def unions (rs : List Ranges) : Ranges := ofList (rs.flatMap fun r => r.runs.toList)

/-- The characters outside. -/
def compl (r : Ranges) : Ranges :=
  let (start, gaps) := r.runs.foldl
    (fun (start, gaps) (a, b) => (next b, if start < a then gaps.push (start, prev a) else gaps))
    (0, #[])
  ⟨if start ≤ lastCodePoint then gaps.push (start, lastCodePoint) else gaps⟩

/-- What two lists of ranges have in common. -/
def common : List (Nat × Nat) → List (Nat × Nat) → List (Nat × Nat)
  | [], _ => []
  | _, [] => []
  | (a, b) :: xs, (c, d) :: ys =>
    let rest := if b < d then common xs ((c, d) :: ys) else common ((a, b) :: xs) ys
    if Nat.max a c ≤ Nat.min b d then (Nat.max a c, Nat.min b d) :: rest else rest
termination_by xs ys => xs.length + ys.length

def inter (r s : Ranges) : Ranges := ⟨(common r.runs.toList s.runs.toList).toArray⟩

def diff (r s : Ranges) : Ranges := inter r (compl s)

def symmDiff (r s : Ranges) : Ranges := diff (union r s) (inter r s)

/-- Complemented if asked for. -/
def negatedIf (negated : Bool) (r : Ranges) : Ranges := if negated then compl r else r

/-! ### Questions -/

/-- Whether the last range that begins at or before `n` reaches it, looked for between `lo` and
`hi`. -/
def search (runs : Array (Nat × Nat)) (n lo hi : Nat) : Bool :=
  if _h : lo + 1 < hi then
    let mid := (lo + hi) / 2
    if (runs.getD mid (0, 0)).1 ≤ n then search runs n mid hi else search runs n lo mid
  else
    match runs[lo]? with
    | some (a, b) => a ≤ n && n ≤ b
    | none => false
termination_by hi - lo

def contains (r : Ranges) (c : Char) : Bool := search r.runs c.toNat 0 r.runs.size

def isEmpty (r : Ranges) : Bool := r.runs.isEmpty

/-- Holds nothing beyond ASCII. -/
def isAscii (r : Ranges) : Bool := r.runs.all fun run => run.2 < 128

/-- The only member of a set that has one member. -/
def single? (r : Ranges) : Option Char :=
  match r.runs with
  | #[(a, b)] => if a = b then some (Char.ofNat a) else none
  | _ => none

example : readRange ['3', '6', '-', '4', '0'] = (0x36, 0x40) := by decide

example : (compl (range 'a' 'z')).runs = #[(0, 0x60), (0x7b, 0x10ffff)] := by decide +kernel

end Ranges

end GlobalImports.Unicode
