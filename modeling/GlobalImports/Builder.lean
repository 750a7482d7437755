import GlobalImports.Replacer

/-! Builders collect what a replacer is to do; building one reads its patterns. -/

namespace GlobalImports

/-- What is worth telling about a pattern when a replacer is built. -/
inductive Warning where
  | invalidPattern (pattern : String)
  | unknownReference (pattern reference template : String)
  deriving DecidableEq, Repr

def Warning.message : Warning → String
  | invalidPattern _ => "Dropping invalid replacement pattern"
  | unknownReference _ _ _ =>
    "Unknown capture group reference in replacement template, use $$ for a literal $"

structure Builder where
  keyword : Keyword := .const
  exact : ExactSources := ∅
  /-- Patterns as written, in the order in which they are tried. -/
  patterns : List (String × Resolver) := []

namespace Builder

/-- A change to a builder. -/
inductive Step where
  | keyword (k : Keyword)
  /-- Gives a specifier a source, in place of any it had. -/
  | exact (specifier source : String)
  | exacts (entries : List (String × String))
  | template (pattern template : String)
  | custom (pattern : String) (resolve : Captures → String)

def apply (b : Builder) : Step → Builder
  | .keyword k => { b with keyword := k }
  | .exact specifier source => { b with exact := b.exact.insert specifier source }
  | .exacts entries => { b with exact := b.exact.insertMany entries }
  | .template pattern template =>
    { b with patterns := b.patterns ++ [(pattern, .template template)] }
  | .custom pattern resolve => { b with patterns := b.patterns ++ [(pattern, .custom resolve)] }

/-- The builder that all steps, in order, make of an empty one. -/
def ofSteps (steps : List Step) : Builder := steps.foldl apply {}

/-- The pattern with its resolver, unless the pattern cannot be read. -/
def compile (entry : String × Resolver) : Option PatternSource :=
  match Pattern.read entry.1 with
  | .ok pattern => some ⟨pattern, entry.2⟩
  | .error _ => none

/-- A pattern that cannot be read is dropped with a warning; one that can is warned about once for
every reference of its template that means nothing. -/
def warningsFor (entry : String × Resolver) : List Warning :=
  match Pattern.read entry.1, entry.2 with
  | .error _, _ => [.invalidPattern entry.1]
  | .ok _, .custom _ => []
  | .ok pattern, .template text =>
    (Template.unknownReferences pattern text).map fun r => .unknownReference entry.1 r text

def warnings (b : Builder) : List Warning := b.patterns.flatMap warningsFor

/-- The replacer that does what was collected. -/
def build (b : Builder) : Replacer where
  keyword := b.keyword
  exact := b.exact
  patterns := b.patterns.filterMap compile

end Builder

end GlobalImports
