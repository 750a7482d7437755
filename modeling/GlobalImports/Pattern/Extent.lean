import GlobalImports.Pattern.Automaton.LiteralTree
import GlobalImports.Pattern.Automaton.Members
import GlobalImports.Pattern.Form
import GlobalImports.Text.Span

/-! How much room a pattern takes. It is measured on the automata that read a text forward and
backward, in which every counted repetition is written out. Patterns for which one of the two would
be too large are refused, so that no short pattern makes matching expensive. -/

namespace GlobalImports.Pattern.Form

open Automaton

/-! ### What the layout depends on -/

mutual

/-- The number of characters that every match has at least, if there can be a match. -/
def minLength? : Form → Option Nat
  | empty | look _ => some 0
  | literal s => some s.length
  | set r _ => if r.isEmpty then none else some 1
  | group _ f => f.minLength?
  | many f n _ _ => f.minLength?.map (· * n)
  | seq fs => (minLengths? fs).map List.sum
  | alt fs => (minLengths? fs).bind List.min?

def minLengths? : List Form → Option (List Nat)
  | [] => some []
  | f :: fs => do return (← f.minLength?) :: (← minLengths? fs)

end

/-- Of forms that stand side by side, whether they have a condition and match no character, finds
whether the condition comes before the first character. -/
def edgeOf : List (Bool × Bool) → Bool
  | [] => false
  | (found, hollow) :: rest => found || (hollow && edgeOf rest)

mutual

/-- Whether every match has the condition at its start, or at its end, as the form is written. -/
def hasEdge (l : Regex.Look) (atEnd : Bool) : Form → Bool
  | look m => l == m
  | group _ f => f.hasEdge l atEnd
  | many f n _ _ => 0 < n && f.hasEdge l atEnd
  | seq fs => edgeOf (if atEnd then (edges l atEnd fs).reverse else edges l atEnd fs)
  | alt fs => (edges l atEnd fs).all (·.1)
  | empty | literal _ | set _ _ => false

/-- For every form, whether it has the condition, and whether it matches no character. -/
def edges (l : Regex.Look) (atEnd : Bool) : List Form → List (Bool × Bool)
  | [] => []
  | f :: fs => (f.hasEdge l atEnd, f.isHollow) :: edges l atEnd fs

end

/-- The bytes of a literal, last one first if it is read backward. -/
def spelling? (back : Bool) : Form → Option (List UInt8)
  | literal s =>
    let bytes := s.flatMap String.utf8EncodeChar
    some (if back then bytes.reverse else bytes)
  | _ => none

/-! ### The layout -/

mutual

/-- Lays out the form for an automaton of the given direction. Only one that reads forward records
groups. -/
def layout (back : Bool) : Form → Layout Exit
  | empty | look _ => plain
  | literal s => do
    grow (Text.byteLength s) 0
    return .plain
  | set r _ => members back r
  | group _ f => if back then f.layout back else marked (f.layout back)
  | many f n m _ => repeated (f.layout back) (f.minLength?.any (0 < ·)) n m
  | seq fs => chain (if back then (layouts back fs).reverse else layouts back fs)
  | alt fs =>
    match fs.mapM (spelling? back) with
    | some spellings => literals spellings
    | none => alternatives (layouts back fs)

def layouts (back : Bool) : List Form → List (Layout Exit)
  | [] => []
  | f :: fs => f.layout back :: layouts back fs

end

def forward (f : Form) : Layout Unit := whole (f.hasEdge .textStart false) (marked (f.layout false))

def backward (f : Form) : Layout Unit := whole (f.hasEdge .textEnd true) (f.layout true)

/-- Thousands of literals are looked for without an automaton. -/
def isWordList : Form → Bool
  | alt fs => 3000 ≤ fs.length && fs.all fun f => (f.spelling? false).isSome
  | _ => false

/-- Whether the pattern takes no more room than allowed. -/
def fits (f : Form) : Bool :=
  f.isWordList || ((f.forward.run ⟨0, 0⟩).isSome && (f.backward.run ⟨0, 0⟩).isSome)

example : ((char 'a').backward.run ⟨0, 0⟩).map (·.2.bytes) = some (5 * 32 + 8 + 2 * 4) := by decide

end GlobalImports.Pattern.Form
