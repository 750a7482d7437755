import GlobalImports.Template
import GlobalImports.Text.Quoted

/-! What turns the captures of a pattern into a source. -/

namespace GlobalImports

inductive Resolver where
  | template (text : String)
  | custom (resolve : Captures → String)

namespace Resolver

def resolve : Resolver → Captures → String
  | template text, captures => Template.expand text captures
  | custom f, captures => f captures

/-- A template in full, and no more than a mention of a custom resolver. -/
def describe : Resolver → String
  | template text => "Template(" ++ Text.quoted text ++ ")"
  | custom _ => "Custom(..)"

end Resolver

end GlobalImports
