import GlobalImports.Optimizer
import GlobalImports.Proofs.Replacer.Parts
import GlobalImports.Proofs.Statement.Inert
import GlobalImports.Proofs.Text.Bytes

/-! Two replacers one after the other. The second finds in the new text exactly the statements that
the first has kept: no statement begins in a declaration, and none that begins in front of one goes
on into it. So the two passes do what a single one does that asks both. -/

namespace GlobalImports

/-- The text behind the last line break. -/
def Text.lastLine (cs : List Char) : List Char := (cs.reverse.takeWhile (· != '\n')).reverse

theorem Text.mem_lastLine {u m : List Char} {c : Char} (hc : c ≠ '\n') (hm : '\n' ∉ m) :
    c ∈ lastLine (u ++ c :: m) := by
  have line : ∀ d ∈ m.reverse, (d != '\n') = true := by
    intro d hd
    have : d ≠ '\n' := fun h => hm (h ▸ List.mem_reverse.1 hd)
    simpa using this
  rw [lastLine, List.mem_reverse, List.reverse_append, List.reverse_cons, List.append_assoc,
    List.takeWhile_append_of_pos line]
  simp [hc]

namespace Replacer

open Statement

/-- A statement is set apart in the old text, and its source does not import anything itself. -/
structure Isolated (code : List Char) (e : Replaced) : Prop where
  source : ¬"import".toList <:+: e.source.toList
  next : ∀ c ∈ (Text.dropBytes e.span.stop code).head?, Text.isBlank c = true ∨ c = ';'
  line : ∀ c ∈ Text.lastLine (Text.takeBytes e.span.start code), c ≠ '\'' ∧ c ≠ '"'

/-- Declarations of `A` if it has a source, else of `B` if that has one, else the statement. -/
def combine (A B : Replacer) (s : Statement) : List Char :=
  match Clause.parse? s.clause, A.source? s.specifier, B.source? s.specifier with
  | some clause, some source, _ => (clause.declarations A.keyword source).toList
  | some clause, none, some source => (clause.declarations B.keyword source).toList
  | _, _, _ => s.text

/-- The text with both replacers at work in one pass. -/
def combined (A B : Replacer) (code : String) : String :=
  String.ofList (regex.replaceAll (fun f => combine A B (ofFound f)) code.toList)

variable (A B : Replacer)

/-! ### The text between the passes -/

/-- The text that `A` makes of the parts. -/
def rewritten (ps : List Part) : List Char := (ps.map A.part).flatMap Stretch.new

theorem rewritten_cons (p : Part) (ps : List Part) :
    A.rewritten (p :: ps) = (A.part p).new ++ A.rewritten ps := rfl

/-- What is to be read where `p` was. -/
def after (p : Part) : List Part :=
  match A.part p with
  | .kept _ => [p]
  | .replaced _ _ _ declarations => declarations.map .char

/-- Whatever is replaced is set apart, where `u` is in front of the parts. -/
def Isolates (u : List Char) : List Part → Prop
  | [] => True
  | p :: ps =>
    (∀ specifier source text declarations,
      A.part p = .replaced specifier source text declarations →
        ¬"import".toList <:+: source.toList ∧
          (∀ c ∈ (ps.flatMap Part.text).head?, Text.isBlank c = true ∨ c = ';') ∧
          ∀ c ∈ Text.lastLine u, c ≠ '\'' ∧ c ≠ '"') ∧
      Isolates (u ++ p.text) ps

theorem isolates_of_report {u : List Char} {ps : List Part}
    (h : ∀ e ∈ Stretch.report (Text.byteLength u) (ps.map A.part),
      Isolated (u ++ ps.flatMap Part.text) e) : Isolates A u ps := by
  induction ps generalizing u with
  | nil => trivial
  | cons p ps ih =>
    have old := A.old_part p
    rw [List.map_cons] at h
    refine ⟨?_, ih ?_⟩
    · intro specifier source text declarations hp
      rw [hp] at h old
      obtain rfl : text = p.text := old
      have e := h _ (by rw [Stretch.report_replaced]; exact List.mem_cons_self)
      have behind := Text.dropBytes_append (u ++ p.text) (ps.flatMap Part.text)
      rw [Text.byteLength_append, List.append_assoc] at behind
      refine ⟨e.source, ?_, ?_⟩
      · intro c hc
        refine e.next c ?_
        rwa [List.flatMap_cons, behind]
      · intro c hc
        refine e.line c ?_
        rwa [List.flatMap_cons, Text.takeBytes_append]
    · intro e he
      rw [List.append_assoc, ← List.flatMap_cons (f := Part.text)]
      apply h
      rw [Text.byteLength_append] at he
      cases hp : A.part p with
      | kept text =>
        rw [hp] at old
        obtain rfl : text = p.text := old
        exact he
      | replaced specifier source text declarations =>
        rw [hp] at old
        obtain rfl : text = p.text := old
        exact List.mem_cons_of_mem _ he

variable {A}

/-- The declarations of a replaced part are those of a clause without quotes. -/
theorem exists_clause_of_part {p : Part} {specifier source : String}
    {text declarations : List Char} (h : A.part p = .replaced specifier source text declarations) :
    ∃ s : Shape, ∃ clause, p = .statement s ∧
      Clause.parse? (String.ofList s.binding) = some clause ∧
      declarations = (clause.declarations A.keyword source).toList := by
  cases p with
  | char c => cases h
  | statement s =>
    rw [part, replace] at h
    split at h
    case h_1 source' clause _ hc =>
      obtain ⟨-, rfl, -, rfl⟩ := Stretch.replaced.inj h
      exact ⟨s, clause, rfl, hc, rfl⟩
    case h_2 => cases h

/-- The declarations that replace a part come to a space and then to an equals sign before any
quote. -/
theorem exists_target_of_part {p : Part} {specifier source : String}
    {text declarations : List Char} (h : A.part p = .replaced specifier source text declarations) :
    ∃ xs rest, declarations = xs ++ '=' :: rest ∧ ' ' ∈ xs ∧ ∀ c ∈ xs, c ≠ '\'' ∧ c ≠ '"' := by
  obtain ⟨s, clause, -, hc, rfl⟩ := exists_clause_of_part h
  exact exists_declarations_eq_targetOf hc (by simpa using s.binding_chars)

/-- A statement does not go on into declarations whose line has no quote before them. -/
theorem begins_of_begins_append {w x xs tail : List Char}
    (line : ∀ c ∈ Text.lastLine (w ++ x), c ≠ '\'' ∧ c ≠ '"')
    (free : ∀ c ∈ xs, c ≠ '\'' ∧ c ≠ '"') (hb : Begins (x ++ (xs ++ '=' :: tail))) : Begins x := by
  obtain ⟨s, rest, hs⟩ := hb
  rcases List.append_eq_append_iff.1 hs with ⟨y, hy, -⟩ | ⟨y, rfl, -⟩
  · by_cases hn : y = []
    · exact ⟨s, [], by rw [hy, hn, List.append_nil, List.append_nil]⟩
    · exfalso
      rcases s.cut hy hn with chars | ⟨m, rfl, hm⟩
      · -- up to the equals sign there is no quote
        have unquoted : ∀ c ∈ x ++ xs, c ≠ '\'' ∧ c ≠ '"' := by
          intro c hc
          rcases List.mem_append.1 hc with hc | hc
          · exact not_quote_of_clauseChar (chars c hc)
          · exact free c hc
        have none : ¬Begins ((x ++ xs) ++ '=' :: tail) :=
          not_begins_of_no_quote unquoted (by decide) (by decide)
        exact none ⟨s, rest, by rw [← hs, List.append_assoc]⟩
      · -- the opening quote is on the line of the declarations
        have quote : s.quote ∈ Text.lastLine (w ++ (s.lead ++ s.quote :: m)) := by
          rw [← List.append_assoc]
          exact Text.mem_lastLine s.quote_ne_newline hm
        rcases s.quote_eq with h | h
        · exact (line _ quote).1 h
        · exact (line _ quote).2 h
  · exact ⟨s, y, rfl⟩

theorem begins_append {x : List Char} (h : Begins x) (v : List Char) : Begins (x ++ v) := by
  obtain ⟨s, rest, rfl⟩ := h
  exact ⟨s, rest ++ v, List.append_assoc _ _ _⟩

/-- A statement that begins in front of rewritten parts was there before. -/
theorem begins_of_begins_rewritten {w x : List Char} {ps : List Part}
    (h : Isolates A (w ++ x) ps) (hb : Begins (x ++ A.rewritten ps)) :
    Begins (x ++ ps.flatMap Part.text) := by
  induction ps generalizing x with
  | nil => exact hb
  | cons p ps ih =>
    obtain ⟨hp, hps⟩ := h
    have old := A.old_part p
    rw [rewritten_cons] at hb
    cases part : A.part p with
    | kept text =>
      rw [part] at old hb
      obtain rfl : text = p.text := old
      rw [List.append_assoc] at hps
      rw [Stretch.new, ← List.append_assoc] at hb
      have on := ih hps hb
      rwa [List.append_assoc] at on
    | replaced specifier source text declarations =>
      obtain ⟨-, -, line⟩ := hp _ _ _ _ part
      obtain ⟨xs, rest, rfl, -, free⟩ := exists_target_of_part part
      rw [part, Stretch.new, List.append_assoc, List.cons_append] at hb
      exact begins_append (begins_of_begins_append line free hb) _

/-! ### Reading between the passes -/

theorem breaks_rewritten {text : List Char} {ps : List Part} (h : Reading text ps)
    (next : ∀ c ∈ text.head?, Text.isBlank c = true ∨ c = ';') : Breaks (A.rewritten ps) := by
  cases h with
  | nil => exact fun _ h => by cases h
  | @char c cs ps _ _ =>
    refine breaks_cons ?_
    rcases next c rfl with h | rfl
    · intro hm
      have hm : c ∈ ['m', 'p', 'o', 'r', 't'] := hm
      simp only [List.mem_cons, List.not_mem_nil, or_false] at hm
      rcases hm with rfl | rfl | rfl | rfl | rfl <;> exact absurd h (by decide)
    · decide
  | statement s _ =>
    rcases next 'i' rfl with h | h
    · exact absurd h (by decide)
    · exact absurd h (by decide)

/-- The new text reads as the kept parts, with characters in place of the others. -/
theorem reading_rewritten {u text : List Char} {ps : List Part} (h : Reading text ps)
    (hi : Isolates A u ps) : Reading (A.rewritten ps) (ps.flatMap A.after) := by
  induction h generalizing u with
  | nil => exact .nil
  | @char c cs ps none hr ih =>
    refine .char ?_ (ih hi.2)
    intro hb
    have := begins_of_begins_rewritten (x := [c]) hi.2 hb
    rw [hr.flatMap_text] at this
    exact none this
  | @statement s rest ps hr ih =>
    obtain ⟨hp, hps⟩ := hi
    rw [hr.flatMap_text] at hp
    have old := A.old_part (.statement s)
    rw [rewritten_cons, List.flatMap_cons, after]
    cases part : A.part (.statement s) with
    | kept text =>
      rw [part] at old
      obtain rfl : text = s.text := old
      exact .statement s (ih hps)
    | replaced specifier source text declarations =>
      obtain ⟨free, next, -⟩ := hp _ _ _ _ part
      obtain ⟨s', clause, -, hc, rfl⟩ := exists_clause_of_part part
      refine Reading.of_inert (inert_declarations hc ?_ free (breaks_rewritten hr next)) (ih hps)
      simpa using s'.binding_chars

/-! ### The combined pass -/

section Combined

variable (A B : Replacer)

/-- What the combined pass makes of a part. -/
def either (p : Part) : List Char :=
  match A.part p with
  | .kept _ => (B.part p).new
  | .replaced _ _ _ declarations => declarations

theorem new_after (p : Part) :
    ((A.after p).map B.part).flatMap Stretch.new = either A B p := by
  rw [after, either]
  cases A.part p with
  | kept text => exact List.append_nil _
  | replaced specifier source text declarations =>
    rw [List.map_map]
    exact Stretch.flatMap_new_map_kept declarations

theorem combine_eq (s : Statement) :
    combine A B s = match A.replace s with
      | .kept _ => (B.replace s).new
      | .replaced _ _ _ declarations => declarations := by
  rw [combine, replace, replace]
  cases Clause.parse? s.clause with
  | none => cases A.source? s.specifier <;> cases B.source? s.specifier <;> rfl
  | some clause => cases A.source? s.specifier <;> cases B.source? s.specifier <;> rfl

theorem replace_eq_either {t : Regex.Token} {p : Part} (h : Finds t p) :
    t.replace (fun f => combine A B (ofFound f)) = either A B p := by
  rw [either, ← A.token_eq_part h, ← B.token_eq_part h]
  cases t with
  | char c => rfl
  | hit f => exact combine_eq A B (ofFound f)

theorem flatMap_replace {ts : List Regex.Token} {ps : List Part} (h : List.Forall₂ Finds ts ps) :
    ts.flatMap (Regex.Token.replace fun f => combine A B (ofFound f)) =
      ps.flatMap (either A B) := by
  induction h with
  | nil => rfl
  | cons h _ ih => rw [List.flatMap_cons, List.flatMap_cons, replace_eq_either A B h, ih]

theorem combined_eq {code : String} {ps : List Part} (h : Reading code.toList ps) :
    combined A B code = String.ofList (ps.flatMap (either A B)) := by
  rw [combined, Regex.replaceAll_eq _ regex_productive _ _ fun _ => rfl,
    flatMap_replace A B (h.finds none)]

/-- Of a part that `A` keeps, the combined pass makes what `B` makes of it. -/
theorem either_self (p : Part) : either A A p = (A.part p).new := by
  rw [either]
  cases A.part p <;> rfl

theorem combined_self (code : String) : combined A A code = A.replaceIn code := by
  obtain ⟨ps, h⟩ := exists_reading code.toList
  rw [combined_eq A A h, replaceIn, A.report_eq h, List.flatMap_map]
  congr 2
  funext p
  exact either_self A p

variable {A B}

theorem combine_comm {s : Statement}
    (h : A.source? s.specifier = none ∨ B.source? s.specifier = none) :
    combine A B s = combine B A s := by
  rw [combine, combine]
  rcases h with h | h
  · rw [h]
    cases Clause.parse? s.clause with
    | none => cases B.source? s.specifier <;> rfl
    | some clause => cases B.source? s.specifier <;> rfl
  · rw [h]
    cases Clause.parse? s.clause with
    | none => cases A.source? s.specifier <;> rfl
    | some clause => cases A.source? s.specifier <;> rfl

theorem combined_comm (h : ∀ specifier, A.source? specifier = none ∨ B.source? specifier = none)
    (code : String) : combined A B code = combined B A code := by
  rw [combined, combined]
  congr 2
  funext f
  exact combine_comm (h _)

theorem optimize_optimize {b : Bundle}
    (h : ∀ e ∈ (A.report b.contents).replaced, Isolated b.contents.toList e) :
    Optimizer.optimize B (Optimizer.optimize A b) =
      { b with contents := combined A B b.contents } := by
  obtain ⟨ps, hr⟩ := exists_reading b.contents.toList
  rw [A.report_eq hr] at h
  have isolates : Isolates A [] ps := isolates_of_report A (u := []) (by
    rw [List.nil_append, hr.flatMap_text]
    exact h)
  have between : Reading (A.replaceIn b.contents).toList (ps.flatMap A.after) := by
    rw [replaceIn, A.report_eq hr, String.toList_ofList]
    exact reading_rewritten hr isolates
  have parts : ((ps.flatMap A.after).map B.part).flatMap Stretch.new = ps.flatMap (either A B) := by
    rw [List.map_flatMap, List.flatMap_assoc]
    congr 1
    funext p
    exact new_after A B p
  show ({ b with contents := (B.report (A.replaceIn b.contents)).code } : Bundle) = _
  rw [combined_eq A B hr, ← parts, B.report_eq between]

end Combined

/-- Two optimizers one after the other do what one pass does that asks both replacers. A second run
of the same changes nothing more, and the order of two that share no specifier does not matter. -/
theorem series_eq_combined {A B : Replacer} {b : Bundle}
    (h : ∀ e ∈ (A.report b.contents).replaced, Isolated b.contents.toList e) :
    Optimizer.optimize B (Optimizer.optimize A b) = { b with contents := combined A B b.contents } ∧
      Optimizer.optimize A (Optimizer.optimize A b) = Optimizer.optimize A b ∧
      ((∀ specifier, A.source? specifier = none ∨ B.source? specifier = none) →
        (∀ e ∈ (B.report b.contents).replaced, Isolated b.contents.toList e) →
          Optimizer.optimize B (Optimizer.optimize A b) =
            Optimizer.optimize A (Optimizer.optimize B b)) := by
  refine ⟨optimize_optimize h, ?_, ?_⟩
  · rw [optimize_optimize h, combined_self]
    rfl
  · intro disjoint h'
    rw [optimize_optimize h, optimize_optimize h', combined_comm disjoint]

/-- Two statements, one for each of two replacers. -/
theorem series_of_two_globals :
    let A : Replacer := { exact := (∅ : ExactSources).insert "m" "M" }
    let B : Replacer := { keyword := .var, exact := (∅ : ExactSources).insert "n" "N" }
    let b : Bundle := ⟨"main", "import * as a from 'm';\nimport { b as c } from 'n';"⟩
    (∀ e ∈ (A.report b.contents).replaced, Isolated b.contents.toList e) ∧
      Optimizer.optimize B (Optimizer.optimize A b) =
        ⟨"main", "const a = M;\nvar { b: c } = N;"⟩ := by
  intro A B b
  have entries : (A.report b.contents).replaced = [⟨"m", "M", ⟨0, 22⟩⟩] := by decide +kernel
  have isolated : ∀ e ∈ (A.report b.contents).replaced, Isolated b.contents.toList e := by
    rw [entries]
    intro e he
    rw [List.mem_singleton.1 he]
    refine ⟨by decide +kernel, ?_, ?_⟩
    · intro c hc
      have next : (Text.dropBytes 22 b.contents.toList).head? = some ';' := by decide +kernel
      rw [next] at hc
      exact .inr (Option.some.inj hc).symm
    · intro c hc
      have line : Text.lastLine (Text.takeBytes 0 b.contents.toList) = [] := by decide +kernel
      rw [line] at hc
      cases hc
  refine ⟨isolated, (series_eq_combined isolated).1.trans ?_⟩
  decide +kernel

end Replacer

end GlobalImports
