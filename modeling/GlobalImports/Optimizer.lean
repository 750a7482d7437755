import GlobalImports.Builder

/-! Optimizers replace the import statements of bundles, one after the other, and say what they
do. -/

namespace GlobalImports

structure Bundle where
  name : String
  contents : String
  deriving DecidableEq, Repr

/-- What an optimizer says while it works on a bundle. -/
inductive Event where
  | started (bundle : String)
  | replaced (specifier source : String)
  | finished (count : Nat)
  deriving DecidableEq, Repr

/-- The wording of an event. The start of a bundle has none. -/
def Event.message? : Event → Option String
  | started _ => none
  | replaced _ _ => some "Replacing import with global"
  | finished _ => some "Replaced imports with globals"

/-- What is said of a stretch when it is written. -/
def Stretch.event? : Stretch → Option Event
  | kept _ => none
  | replaced specifier source _ _ => some (.replaced specifier source)

namespace Optimizer

/-- The name under which the optimizer speaks. -/
def name : String := "ReplaceImportsOptimizerPlugin"

/-- The bundle with its import statements replaced. -/
def optimize (r : Replacer) (b : Bundle) : Bundle := { b with contents := r.replaceIn b.contents }

/-- The bundle is announced, then every statement as it is replaced, and in the end their number if
the report has any. -/
def events (r : Replacer) (b : Bundle) : List Event :=
  let replaced := (r.report b.contents).replaced
  .started b.name :: (r.stretches b.contents).filterMap Stretch.event? ++
    if replaced.isEmpty then [] else [.finished replaced.length]

/-- The bundle after each of the optimizers in turn, with what each of them said. -/
def series : List Replacer → Bundle → List (Bundle × List Event)
  | [], _ => []
  | r :: rs, b => (optimize r b, events r b) :: series rs (optimize r b)

end Optimizer

end GlobalImports
