import GlobalImports.Pattern.Automaton.Layout

/-! Alternatives that are all literals share what they begin with. They are laid out as a tree: a
node forks into sections, one after each place where an earlier literal ends, and a section has a
way on for every byte that a later literal goes on with. -/

namespace GlobalImports.Pattern.Automaton

/-- A node of the tree, latest section first. -/
inductive LiteralTree where
  | nil
  /-- A literal ends here, and a new section begins. -/
  | stop (rest : LiteralTree)
  | next (byte : UInt8) (child rest : LiteralTree)
  deriving DecidableEq, Repr

namespace LiteralTree

/-- Changes the child of a byte in the latest section, if it has one. -/
def update? (byte : UInt8) (f : LiteralTree → LiteralTree) : LiteralTree → Option LiteralTree
  | next b child rest =>
    if b = byte then some (next b (f child) rest) else (update? byte f rest).map (next b child)
  | nil | stop _ => none

/-- Adds a literal that is less preferred than all in the tree. -/
def insert : List UInt8 → LiteralTree → LiteralTree
  | [], t => if t = stop nil then t else stop t
  | b :: bs, t => (update? b (insert bs) t).getD (next b (insert bs nil) t)

/-- Only ends a literal. -/
def isLeaf : LiteralTree → Bool
  | nil | stop nil => true
  | _ => false

/-- Room for a section with so many ways on. -/
def sectionExtent (ways : Nat) : Extent :=
  if ways = 0 then ⟨0, 0⟩
  else ⟨1, Extent.branchSize + if ways = 1 then 0 else Extent.transitionSize * ways⟩

/-- Room for what is left of a node below its first state, so many ways of the section being
behind. -/
def extent (ways : Nat) : LiteralTree → Extent
  | nil => sectionExtent ways
  | stop rest => sectionExtent ways + ⟨0, Extent.branchSize⟩ + rest.extent 0
  | next _ child rest =>
    (if child.isLeaf then ⟨0, 0⟩ else ⟨1, 0⟩ + child.extent 0) + rest.extent (ways + 1)

end LiteralTree

/-- Lays out alternatives between literals. -/
def literals (spellings : List (List UInt8)) : Layout Exit := do
  let e := (spellings.foldl (fun t s => t.insert s) LiteralTree.nil).extent 0
  grow (e.states + 2) e.extra
  return .plain

end GlobalImports.Pattern.Automaton
