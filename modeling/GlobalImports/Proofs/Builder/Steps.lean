import GlobalImports.Settings
import Mathlib.Data.List.Basic

/-! What a sequence of steps says. Of the exact sources of a specifier the last counts, patterns are
tried in the order of their steps, and one that cannot be read counts for nothing but a warning. A
builder keeps nothing else of its steps, so sequences that say the same make the same replacer. -/

namespace GlobalImports.Builder

namespace Step

/-- The exact sources that a step gives. -/
def entries : Step → List (String × String)
  | keyword _ => []
  | exact specifier source => [(specifier, source)]
  | exacts entries => entries
  | template _ _ => []
  | custom _ _ => []

/-- The pattern that a step adds, with what makes a source of its captures. -/
def pattern? : Step → Option (String × Resolver)
  | keyword _ => none
  | exact _ _ => none
  | exacts _ => none
  | template pattern text => some (pattern, .template text)
  | custom pattern resolve => some (pattern, .custom resolve)

def keyword? : Step → Option Keyword
  | keyword k => some k
  | exact _ _ => none
  | exacts _ => none
  | template _ _ => none
  | custom _ _ => none

end Step

/-! ### What is said in a sequence of steps -/

variable (steps : List Step)

def entriesOf : List (String × String) := steps.flatMap Step.entries

def patternsOf : List (String × Resolver) := steps.filterMap Step.pattern?

def keywordOf : Keyword := (steps.filterMap Step.keyword?).getLast?.getD .const

/-- The source is the last that is given for the specifier. -/
def IsLast (specifier source : String) : Prop :=
  ∃ earlier later, entriesOf steps = earlier ++ (specifier, source) :: later ∧
    ∀ e ∈ later, e.1 ≠ specifier

/-- The first pattern to match a specifier among those that can be read. -/
structure IsFirst (specifier : String) (entry : String × Resolver) (captures : Captures) :
    Prop where
  split : ∃ earlier later, patternsOf steps = earlier ++ entry :: later ∧
    ∀ e ∈ earlier, ∀ pattern, Pattern.read e.1 = .ok pattern → pattern.captures? specifier = none
  matched : ∃ pattern, Pattern.read entry.1 = .ok pattern ∧
    pattern.captures? specifier = some captures

/-- Two sequences with the same patterns in the same order, the same last sources and the same last
keyword. -/
structure SameSaying (steps steps' : List Step) : Prop where
  patterns : patternsOf steps = patternsOf steps'
  last : ∀ specifier source, IsLast steps specifier source ↔ IsLast steps' specifier source
  keyword : keywordOf steps = keywordOf steps'

/-! ### What a builder keeps of its steps -/

theorem apply_eq (b : Builder) (s : Step) :
    b.apply s =
      ⟨s.keyword?.getD b.keyword, b.exact.insertMany s.entries,
        b.patterns ++ s.pattern?.toList⟩ := by
  cases s <;> simp [apply, Step.keyword?, Step.entries, Step.pattern?]

section Cons

variable (s : Step)

theorem entriesOf_cons : entriesOf (s :: steps) = s.entries ++ entriesOf steps :=
  List.flatMap_cons

theorem patternsOf_cons : patternsOf (s :: steps) = s.pattern?.toList ++ patternsOf steps := by
  cases h : s.pattern? <;> simp [patternsOf, h]

theorem getLast?_keywords_cons (k : Keyword) :
    ((s :: steps).filterMap Step.keyword?).getLast?.getD k =
      (steps.filterMap Step.keyword?).getLast?.getD (s.keyword?.getD k) := by
  cases h : s.keyword? <;> simp [h, List.getLast?_cons]

end Cons

theorem foldl_apply (b : Builder) :
    steps.foldl apply b =
      ⟨(steps.filterMap Step.keyword?).getLast?.getD b.keyword,
        b.exact.insertMany (entriesOf steps), b.patterns ++ patternsOf steps⟩ := by
  induction steps generalizing b with
  | nil => simp [entriesOf, patternsOf]
  | cons s steps ih =>
    rw [List.foldl_cons, ih, apply_eq, getLast?_keywords_cons, entriesOf_cons, patternsOf_cons,
      Std.ExtTreeMap.insertMany_append, List.append_assoc]

theorem ofSteps_eq :
    ofSteps steps =
      ⟨keywordOf steps, (∅ : ExactSources).insertMany (entriesOf steps), patternsOf steps⟩ := by
  rw [ofSteps, foldl_apply, keywordOf, List.nil_append]

theorem getElem?_insertMany_eq_some_iff {entries : List (String × String)} {k v : String} :
    ((∅ : ExactSources).insertMany entries)[k]? = some v ↔
      ∃ earlier later, entries = earlier ++ (k, v) :: later ∧ ∀ e ∈ later, e.1 ≠ k := by
  rw [Std.ExtTreeMap.getElem?_insertMany_list, Std.ExtTreeMap.getElem?_empty, Option.or_none,
    List.findSomeRev?_eq_findSome?_reverse, List.findSome?_eq_some_iff]
  constructor
  · rintro ⟨later, ⟨k', v'⟩, earlier, split, value, others⟩
    obtain ⟨same, value⟩ := Option.ite_none_right_eq_some.1 value
    obtain rfl := Option.some.inj value
    obtain rfl := Std.LawfulEqCmp.eq_of_compare same
    refine ⟨earlier.reverse, later.reverse, ?_, ?_⟩
    · simpa using congrArg List.reverse split
    · intro e he same
      have := others e (List.mem_reverse.1 he)
      simp [same] at this
  · rintro ⟨earlier, later, rfl, others⟩
    refine ⟨later.reverse, (k, v), earlier.reverse, by simp, by simp, ?_⟩
    intro e he
    have := others e (List.mem_reverse.1 he)
    simpa using this

theorem exact_eq_some_iff {specifier source : String} :
    (ofSteps steps).exact[specifier]? = some source ↔ IsLast steps specifier source := by
  rw [ofSteps_eq]
  exact getElem?_insertMany_eq_some_iff

/-! ### Sources -/

theorem findSome?_filterMap {α β γ : Type} (f : α → Option β) (g : β → Option γ) (l : List α) :
    (l.filterMap f).findSome? g = l.findSome? fun a => (f a).bind g := by
  induction l with
  | nil => rfl
  | cons a l ih =>
    rw [List.findSome?_cons, ← ih, List.filterMap_cons]
    cases f a with
    | none => rfl
    | some b => exact List.findSome?_cons

/-- What a pattern makes of a specifier that it matches. -/
def result? (specifier : String) (entry : String × Resolver) : Option String :=
  (compile entry).bind fun m => (m.pattern.captures? specifier).map m.resolver.resolve

theorem result?_eq_some_iff {specifier source : String} {entry : String × Resolver} :
    result? specifier entry = some source ↔ ∃ pattern captures, Pattern.read entry.1 = .ok pattern ∧
      pattern.captures? specifier = some captures ∧ entry.2.resolve captures = source := by
  rw [result?, compile]
  cases Pattern.read entry.1 with
  | error e => simp
  | ok pattern => simp

theorem result?_eq_none_iff {specifier : String} {entry : String × Resolver} :
    result? specifier entry = none ↔
      ∀ pattern, Pattern.read entry.1 = .ok pattern → pattern.captures? specifier = none := by
  rw [result?, compile]
  cases Pattern.read entry.1 with
  | error e => simp
  | ok pattern => simp

theorem patternSource?_eq_some_iff {specifier source : String} :
    (ofSteps steps).build.patternSource? specifier = some source ↔
      ∃ entry captures, IsFirst steps specifier entry captures ∧
        entry.2.resolve captures = source := by
  rw [ofSteps_eq, build, Replacer.patternSource?, findSome?_filterMap]
  show (patternsOf steps).findSome? (result? specifier) = _ ↔ _
  rw [List.findSome?_eq_some_iff]
  constructor
  · rintro ⟨earlier, entry, later, split, value, others⟩
    obtain ⟨pattern, captures, read, matched, rfl⟩ := result?_eq_some_iff.1 value
    have free (e) (he : e ∈ earlier) := result?_eq_none_iff.1 (others e he)
    exact ⟨entry, captures, ⟨⟨earlier, later, split, free⟩, pattern, read, matched⟩, rfl⟩
  · rintro ⟨entry, captures, ⟨⟨earlier, later, split, others⟩, pattern, read, matched⟩, rfl⟩
    have value := result?_eq_some_iff.2 ⟨pattern, captures, read, matched, rfl⟩
    exact ⟨earlier, entry, later, split, value, fun e he => result?_eq_none_iff.2 (others e he)⟩

theorem source?_of_no_last {steps : List Step} {specifier : String}
    (h : ∀ source, IsLast steps specifier source → source = "") :
    (ofSteps steps).build.source? specifier =
      ((ofSteps steps).build.patternSource? specifier).filter (· ≠ "") := by
  have none : (ofSteps steps).build.exact[specifier]?.filter (· ≠ "") = none := by
    rw [Option.filter_eq_none_iff]
    intro source hs
    simp [h source ((exact_eq_some_iff steps).1 hs)]
  rw [Replacer.source?, none]

theorem SameSaying.ofSteps_eq {steps steps' : List Step} (h : SameSaying steps steps') :
    ofSteps steps = ofSteps steps' := by
  have exact : (ofSteps steps).exact = (ofSteps steps').exact := by
    refine Std.ExtTreeMap.ext_getElem? fun specifier => Option.ext fun source => ?_
    rw [exact_eq_some_iff, exact_eq_some_iff, h.last]
  simp only [Builder.ofSteps_eq] at exact ⊢
  rw [h.keyword, h.patterns, exact]

/-- An empty exact source leaves the choice to the patterns, of which the first to match counts. -/
example : (ofSteps [.exact "a" "A", .template "(" "X", .template "^a" "", .template "a" "Y",
    .exact "a" ""]).build.source? "a" = none := by
  decide +kernel

end GlobalImports.Builder
