import GlobalImports.Pattern.Automaton.Layout
import GlobalImports.Unicode.Utf8
import Std.Data.TreeMap

/-! A set of characters in an automaton that reads bytes. States with equal ways on are laid out
once as long as they are remembered: what is remembered has a slot by its hash, and a newcomer takes
the slot of whatever was there. -/

namespace GlobalImports.Pattern.Automaton

open Unicode (Ranges ByteRange)

/-- A way on: the bytes it takes and the state it leads to. -/
structure Way where
  bytes : ByteRange
  target : Nat
  deriving DecidableEq, Repr

/-- States remembered by slot, with what they were laid out for. -/
abbrev Memory := Std.TreeMap Nat (List Way × Nat)

/-- 64-bit FNV-1a, a whole number taken as one digit. -/
def hashStart : UInt64 := 14695981039346656037

def hashStep (h n : UInt64) : UInt64 := (h ^^^ n) * 1099511628211

/-- The state remembered for the ways, or else a new one. -/
def remembered (slots : UInt64) (hash : UInt64) (ways : List Way) (extra : Nat) :
    StateT Memory Layout Nat := do
  let slot := (hash % slots).toNat
  match (← get).get? slot with
  | some (known, number) => if known = ways then return number
  | none => pure ()
  let number ← state extra
  modify fun m => m.insert slot (ways, number)
  return number

/-! ### Reading forward -/

/-- Groups neighbouring spellings that begin with the same range of bytes, without that range. -/
def grouped : List (List ByteRange) → List (ByteRange × List (List ByteRange))
  | [] => []
  | [] :: spellings => grouped spellings
  | (b :: bs) :: spellings =>
    match grouped spellings with
    | (c, tails) :: groups =>
      if b = c then (c, bs :: tails) :: groups else (b, [bs]) :: (c, tails) :: groups
    | [] => [(b, [bs])]

/-- The state that reads any of the spellings, of at most so many ranges, and goes on to `target`.
What shares its start shares the states for it, what shares its end may share the states for
that. -/
def forwardState (target : Nat) : Nat → List (List ByteRange) → StateT Memory Layout Nat
  | 0, _ => return target
  | length + 1, spellings => do
    let ways ← (grouped spellings).mapM fun (bytes, tails) => do
      if tails.all List.isEmpty then return ⟨bytes, target⟩
      else return ⟨bytes, ← forwardState target length tails⟩
    let hash := ways.foldl (fun h w =>
      hashStep (hashStep (hashStep h w.bytes.1.toUInt64) w.bytes.2.toUInt64) w.target.toUInt64)
      hashStart
    remembered 10000 hash ways (Extent.transitionSize * ways.length)

def forward (r : Ranges) : Layout Exit := do
  let target ← state 0
  discard ((forwardState target 4 r.spellings).run ∅)
  return .plain

/-! ### Reading backward -/

/-- The states that read the spelling from its end, one behind the other, each known by where it
leads. -/
def backwardStates (target : Nat) (spelling : List ByteRange) : StateT Memory Layout Unit := do
  let mut target := target
  for bytes in spelling do
    let hash := hashStep (hashStep (hashStep hashStart target.toUInt64) bytes.1.toUInt64)
      bytes.2.toUInt64
    target ← remembered 1000 hash [⟨bytes, target⟩] 0

def backward (r : Ranges) : Layout Exit := do
  discard (state 0)
  let target ← state 0
  let each (spelling : List ByteRange) : StateT Memory Layout Unit := do
    backwardStates target spelling
    branch 1
  discard ((r.spellings.forM each).run ∅)
  return .plain

/-! ### Either way -/

/-- Lays out a set for an automaton of the given direction. Characters within ASCII are single
bytes, for which one reading state is enough. -/
def members (back : Bool) (r : Ranges) : Layout Exit := do
  if r.isAscii then
    grow 1 0
    discard (reading r.runs.size)
    return .plain
  else if back then backward r
  else forward r

end GlobalImports.Pattern.Automaton
