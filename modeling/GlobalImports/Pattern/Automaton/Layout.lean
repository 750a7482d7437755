/-! The room that the automaton of a pattern takes. It is laid out state by state, each with a
number, and the room is counted in bytes; nothing else of the automaton is kept. -/

namespace GlobalImports.Pattern.Automaton

/-- What has been laid out: the number of states, and the bytes that go with them beyond their
fixed size. -/
structure Extent where
  states : Nat
  extra : Nat
  deriving DecidableEq, Repr

namespace Extent

instance : Add Extent := ⟨fun d e => ⟨d.states + e.states, d.extra + e.extra⟩⟩

def stateSize : Nat := 32

/-- Bytes of a way on that depends on the byte read. -/
def transitionSize : Nat := 8

/-- Bytes of a way on from a fork. -/
def branchSize : Nat := 4

def bytes (e : Extent) : Nat := stateSize * e.states + e.extra

/-- Ten mebibytes. -/
def maxBytes : Nat := 10 * 1024 * 1024

end Extent

/-- Fails once the room runs out. -/
abbrev Layout := StateT Extent Option

def grow (states extra : Nat) : Layout Unit := fun e =>
  let e := e + ⟨states, extra⟩
  if e.bytes ≤ Extent.maxBytes then some ((), e) else none

/-- Adds a state and tells its number. -/
def state (extra : Nat) : Layout Nat := do
  let number := (← get).states
  grow 1 extra
  return number

/-- A state with a way on for each of so many ranges of bytes. -/
def reading (ranges : Nat) : Layout Nat := state (Extent.transitionSize * ranges)

/-- How a part is left: from a plain state, or from a fork, where a way on takes room. -/
inductive Exit where
  | plain
  | fork
  deriving DecidableEq, Repr

/-- Connects what follows a part. -/
def Exit.link : Exit → Layout Unit
  | plain => pure ()
  | fork => grow 0 Extent.branchSize

/-- So many ways on from forks. -/
def branch (n : Nat) : Layout Unit := grow 0 (Extent.branchSize * n)

/-! ### Combining parts -/

/-- A single plain state. -/
def plain : Layout Exit := do
  discard (state 0)
  return .plain

/-- Parts one after the other. -/
def chain : List (Layout Exit) → Layout Exit
  | [] => plain
  | [part] => part
  | part :: parts => do
    (← part).link
    chain parts

def copies (part : Layout Exit) : Nat → Layout Exit
  | 0 => plain
  | 1 => part
  | n + 2 => do
    (← part).link
    copies part (n + 1)

/-- A part between two states that record where it starts and ends. -/
def marked (part : Layout Exit) : Layout Exit := do
  discard (state 0)
  (← part).link
  plain

/-- A fork into the parts, after which they meet again. -/
def alternatives : List (Layout Exit) → Layout Exit
  | [] => plain
  | [part] => part
  | first :: second :: parts => do
    (← first).link
    (← second).link
    grow 2 0
    branch 2
    for part in parts do
      (← part).link
      branch 1
    return .plain

/-- So many further copies, each behind a fork that leads past all that follow. -/
def optionals (part : Layout Exit) : Nat → Exit → Layout Exit
  | 0, exit => do
    exit.link
    return .plain
  | n + 1, exit => do
    exit.link
    discard (state 0)
    branch 2
    optionals part n (← part)

/-- A part that may be repeated without end. If it can match nothing, the way in and the way back
are apart. -/
def loop (part : Layout Exit) (reads : Bool) : Layout Exit := do
  if reads then
    discard (state 0)
    (← part).link
    branch 1
    return .fork
  else
    (← part).link
    grow 3 0
    branch 4
    return .plain

/-- A loop that is entered at the part itself. -/
def loopOnce (part : Layout Exit) : Layout Exit := do
  (← part).link
  discard (state 0)
  branch 1
  return .fork

/-- At least `min` and at most `max` rounds. `reads` tells whether every round reads something. -/
def repeated (part : Layout Exit) (reads : Bool) (min : Nat) (max : Option Nat) : Layout Exit :=
  match min, max with
  | 0, none => loop part reads
  | 1, none => loopOnce part
  | n + 2, none => do
    (← copies part (n + 1)).link
    loopOnce part
  | min, some max => do
    if min = max then copies part min
    else if min = 0 && max = 1 then
      discard (state 0)
      (← part).link
      branch 2
      plain
    else
      let exit ← copies part min
      discard (state 0)
      optionals part (max - min) exit

/-- A whole automaton around its body. Unless the body only matches at the edge of the text, a loop
in front of it passes over what is not matched. -/
def whole (anchored : Bool) (body : Layout Exit) : Layout Unit := do
  if anchored then discard (state 0)
  else
    grow 2 0
    discard (reading 1)
    branch 2
  (← body).link
  discard (state 0)

end GlobalImports.Pattern.Automaton
