import GlobalImports.Builder

/-! Settings: what a configuration document says about a replacer. -/

namespace GlobalImports

/-- A pattern with the template of its source. -/
structure PatternSetting where
  pattern : String
  source : String
  deriving DecidableEq, Repr

structure Settings where
  keyword : Keyword := .const
  exact : ExactSources := ∅
  /-- Tried in order. -/
  patterns : List PatternSetting := []
  deriving DecidableEq

namespace Settings

/-- The steps that put the settings into a builder. -/
def steps (s : Settings) : List Builder.Step :=
  .keyword s.keyword :: .exacts s.exact.toList ::
    s.patterns.map fun p => .template p.pattern p.source

def builder (s : Settings) : Builder := Builder.ofSteps s.steps

end Settings

end GlobalImports
