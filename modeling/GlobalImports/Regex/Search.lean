import GlobalImports.Regex.Thread

/-! The search for a match. All threads advance through the text together, one character at a
time and in order of preference, and a thread for each further starting place is added behind the
others until a match is found. So the match found starts as early as any does and is the most
preferred of those that start there, and no text takes more than one pass. -/

namespace GlobalImports.Regex

/-- A match: where it starts and stops, and the groups it passed, latest first. -/
structure Match where
  start : Nat
  stop : Nat
  marks : List Mark
  deriving DecidableEq, Repr

namespace Match

/-- Where a group was last passed from end to end. Group zero is the whole match. -/
def span? (m : Match) (group : Nat) : Option (Nat × Nat) :=
  if group = 0 then some (m.start, m.stop)
  else do
    let stop ← m.marks.find? fun k => k.group == group && k.closing
    let start ← m.marks.find? fun k => k.group == group && !k.closing
    return (start.index, stop.index)

end Match

/-- The match of the first leaf that is one, if any. -/
def Leaf.firstMatch (index : Nat) : List Leaf → Option Match
  | [] => none
  | .finish t :: _ => some ⟨t.start, index, t.marks⟩
  | .read _ _ :: leaves => firstMatch index leaves

/-- The thread that goes on behind `c`, if there is one. -/
def Leaf.next? (c : Char) : Leaf → Option Thread
  | .read s t => if s.contains c then some t else none
  | .finish _ => none

def Leaf.isFinish : Leaf → Bool
  | .read _ _ => false
  | .finish _ => true

/-- The threads preferred to any match here that can read `c`. -/
def Leaf.advance (c : Char) (leaves : List Leaf) : List Thread :=
  (leaves.takeWhile fun leaf => !leaf.isFinish).filterMap (Leaf.next? c)

/-- Carries threads through the rest of a text. `found` is the best match so far; only threads
preferred to it are still alive. -/
def searchFrom (r : Regex) (index : Nat) (before : Option Char) (threads : List Thread)
    (found : Option Match) (rest : List Char) : Option Match :=
  let threads := if found.isNone then threads ++ [Thread.begin r index] else threads
  if threads.isEmpty then found
  else
    let leaves := leavesAt ⟨index, before, rest.head?⟩ threads
    let found := (Leaf.firstMatch index leaves).or found
    match rest with
    | [] => found
    | c :: cs => searchFrom r (index + 1) (some c) (Leaf.advance c leaves) found cs

/-- The leftmost match in a text that has `before` in front of it. -/
def search (r : Regex) (before : Option Char) (text : List Char) : Option Match :=
  searchFrom r 0 before [] none text

/-- A match as the parts of the text: what it passes over, what it covers, what is left, and the
text of each group, group zero first. -/
structure Found where
  skipped : List Char
  text : List Char
  rest : List Char
  groups : List (Option (List Char))
  deriving DecidableEq, Repr

def Match.cut (m : Match) (groupCount : Nat) (text : List Char) : Found where
  skipped := text.take m.start
  text := (text.drop m.start).take (m.stop - m.start)
  rest := text.drop m.stop
  groups := (List.range (groupCount + 1)).map fun g =>
    (m.span? g).map fun (start, stop) => (text.drop start).take (stop - start)

/-- The parts around the leftmost match in a text that has `before` in front of it. -/
def find? (r : Regex) (before : Option Char) (text : List Char) : Option Found :=
  (r.search before text).map (·.cut r.groupCount text)

def isMatch (r : Regex) (text : List Char) : Bool := (r.search none text).isSome

/-- The text of a group, if the group exists and took part. -/
def Found.group? (f : Found) (i : Nat) : Option (List Char) := (f.groups[i]?).join

end GlobalImports.Regex
