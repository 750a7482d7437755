import GlobalImports.Resolver
import GlobalImports.Statement
import GlobalImports.Text.Span
import Std.Data.ExtTreeMap

/-! Replacers: which specifiers have a source, and the replacement of their import statements in a
text. The text is cut into stretches, each of them either kept or replaced; the new text and the
report are two views of the stretches. -/

namespace GlobalImports

/-- Specifiers with their sources. -/
abbrev ExactSources := Std.ExtTreeMap String String

/-- A pattern for specifiers and what makes a source of its captures. -/
structure PatternSource where
  pattern : Pattern
  resolver : Resolver

/-- Replaces the import statements of specifiers that have a source. -/
structure Replacer where
  keyword : Keyword := .const
  exact : ExactSources := ∅
  patterns : List PatternSource := []

/-- A replaced statement: its specifier, its source, and its bytes in the text. -/
structure Replaced where
  specifier : String
  source : String
  span : Text.Span
  deriving DecidableEq, Repr

structure Report where
  code : String
  replaced : List Replaced
  deriving DecidableEq, Repr

/-- A stretch of a text that is kept, or a statement and what takes its place. -/
inductive Stretch where
  | kept (text : List Char)
  | replaced (specifier source : String) (text declarations : List Char)
  deriving DecidableEq, Repr

namespace Stretch

/-- The text before the replacement. -/
def old : Stretch → List Char
  | kept text => text
  | replaced _ _ text _ => text

/-- The text after it. -/
def new : Stretch → List Char
  | kept text => text
  | replaced _ _ _ declarations => declarations

/-- The statements replaced, the first stretch beginning at byte `start`. -/
def report (start : Nat) : List Stretch → List Replaced
  | [] => []
  | kept text :: rest => report (start + Text.byteLength text) rest
  | replaced specifier source text _ :: rest =>
    let stop := start + Text.byteLength text
    ⟨specifier, source, ⟨start, stop⟩⟩ :: report stop rest

end Stretch

namespace Replacer

/-- The source that the first pattern to match makes, even if it is empty. -/
def patternSource? (r : Replacer) (specifier : String) : Option String :=
  r.patterns.findSome? fun m => (m.pattern.captures? specifier).map m.resolver.resolve

/-- The source of a specifier. An exact source comes before patterns, and an empty source is none:
an empty exact one leaves the choice to the patterns. -/
def source? (r : Replacer) (specifier : String) : Option String :=
  match r.exact[specifier]?.filter (· ≠ "") with
  | some source => some source
  | none => (r.patternSource? specifier).filter (· ≠ "")

/-- Replaces a statement if its specifier has a source and its clause can be read. -/
def replace (r : Replacer) (s : Statement) : Stretch :=
  match r.source? s.specifier, Clause.parse? s.clause with
  | some source, some clause =>
    .replaced s.specifier source s.text (clause.declarations r.keyword source).toList
  | _, _ => .kept s.text

def stretch (r : Replacer) : Regex.Piece → Stretch
  | .kept text => .kept text
  | .hit f => r.replace (Statement.ofFound f)

/-- The stretches of a text. -/
def stretches (r : Replacer) (code : String) : List Stretch :=
  (Statement.regex.sweep none code.toList).map r.stretch

/-- The new text and the statements replaced in the old one. -/
def report (r : Replacer) (code : String) : Report :=
  let stretches := r.stretches code
  ⟨String.ofList (stretches.flatMap Stretch.new), Stretch.report 0 stretches⟩

/-- The new text alone. -/
def replaceIn (r : Replacer) (code : String) : String := (r.report code).code

end Replacer

end GlobalImports
