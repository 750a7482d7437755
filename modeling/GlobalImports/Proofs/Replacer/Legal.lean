import GlobalImports.Proofs.Clause.Parse
import GlobalImports.Proofs.Replacer.Boundary

/-! Legal import statements. Whatever its layout, and whatever stands around it, a legal statement
is replaced by the declarations of exactly its bindings, and what is around it is rewritten as if
the statement were not there. -/

namespace GlobalImports

namespace Statement

open Clause (Space Gap Layout)

/-- A statement with a legal clause, white space between its parts, and a specifier without quotes
on one line. -/
structure Legal where
  before : Space
  layout : Layout
  after : Space
  gap : Space
  quote : Char
  content : List Char
  quote_eq : quote = '\'' ∨ quote = '"'
  content_chars : ∀ c ∈ content, c ≠ '\'' ∧ c ≠ '"' ∧ c ≠ '\n'

namespace Legal

variable (st : Legal)

def text : List Char :=
  "import".toList ++ st.before.chars ++ st.layout.text ++ st.after.chars ++ "from".toList ++
    st.gap.chars ++ st.quote :: st.content ++ [st.quote]

theorem clauseChar_of_plainChar {c : Char} (h : Clause.plainChar.contains c = true) :
    clauseChar.contains c = true := by
  simp only [Clause.plainChar, clauseChar, Regex.CharSet.contains_union, Bool.or_eq_true] at h ⊢
  rcases h with h | h | h
  · exact .inl h
  · rw [Regex.CharSet.contains_only, decide_eq_true_eq] at h
    rw [h]
    decide
  · exact .inr (.inr h)

theorem binding_chars (b : Clause.Binding) : ∀ c ∈ b.text, clauseChar.contains c = true := by
  intro c hc
  cases b with
  | namespace_ s₁ s₂ x =>
    simp only [Clause.Binding.text, Clause.asterisk, List.mem_append, List.mem_cons] at hc
    rcases hc with ((((rfl | hc) | hc) | hc) | hc)
    · decide
    · exact clauseChar_of_isBlank (s₁.blank c hc)
    · exact clauseChar_of_plainChar (Clause.plainChar_of_mem_as hc)
    · exact clauseChar_of_isBlank (s₂.blank c hc)
    · exact clauseChar_of_plainChar (Clause.plainChar_of_nameChar (x.name c hc))
  | named b =>
    simp only [Clause.Binding.text, Clause.braces, List.mem_append, List.mem_cons,
      List.not_mem_nil, or_false] at hc
    rcases hc with (rfl | hc) | rfl
    · decide
    · exact clauseChar_of_plainChar (b.inner_chars c hc)
    · decide

theorem layout_chars (l : Layout) : ∀ c ∈ l.text, clauseChar.contains c = true := by
  have lead (c : Char) (hc : c ∈ l.lead) := clauseChar_of_plainChar (l.lead_chars c hc)
  cases l with
  | default x => exact lead
  | other b => exact binding_chars b
  | both x g₁ g₂ b =>
    intro c hc
    rcases List.mem_append.1 hc with hc | hc
    · exact lead c hc
    · exact binding_chars b c hc

/-- The statement as a shape. -/
def shape : Shape where
  binding := st.before.chars ++ st.layout.text ++ st.after.chars
  gap := st.gap.chars
  quote := st.quote
  content := st.content
  binding_chars := by
    intro c hc
    simp only [List.mem_append] at hc
    rcases hc with (hc | hc) | hc
    · exact clauseChar_of_isBlank (st.before.blank c hc)
    · exact layout_chars st.layout c hc
    · exact clauseChar_of_isBlank (st.after.blank c hc)
  binding_length := by
    have := List.length_pos_iff.2 st.before.ne_nil
    have := List.length_pos_iff.2 st.after.ne_nil
    simp only [List.length_append]
    omega
  binding_head := by
    intro c hc
    rw [List.append_assoc, List.head?_append_of_ne_nil _ st.before.ne_nil] at hc
    exact st.before.blank c (List.mem_of_mem_head? hc)
  binding_last := by
    intro c hc
    rw [List.getLast?_append_of_ne_nil _ st.after.ne_nil] at hc
    exact st.after.blank c (List.mem_of_getLast? hc)
  gap_ne_nil := st.gap.ne_nil
  gap_blank := st.gap.blank
  quote_eq := st.quote_eq
  content_chars := by
    intro c hc
    obtain ⟨h₁, h₂, h₃⟩ := st.content_chars c hc
    rcases st.quote_eq with h | h
    · exact ⟨h ▸ h₁, h₃⟩
    · exact ⟨h ▸ h₂, h₃⟩

theorem text_shape : st.shape.text = st.text := by
  show "import".toList ++ (st.before.chars ++ st.layout.text ++ st.after.chars ++ "from".toList ++
    st.gap.chars) ++ (st.quote :: st.content ++ [st.quote]) =
    "import".toList ++ st.before.chars ++ st.layout.text ++ st.after.chars ++ "from".toList ++
      st.gap.chars ++ st.quote :: st.content ++ [st.quote]
  simp only [List.append_assoc]

theorem unquote_quoted : unquote st.shape.quoted = st.content := by
  have free : unquote st.content = st.content := by
    rw [unquote, List.filter_eq_self]
    intro c hc
    obtain ⟨h₁, h₂, -⟩ := st.content_chars c hc
    simp [h₁, h₂]
  have quote : unquote [st.quote] = [] := by
    rcases st.quote_eq with h | h <;> rw [h] <;> decide
  have append (u v : List Char) : unquote (u ++ v) = unquote u ++ unquote v :=
    List.filter_append u v
  show unquote ([st.quote] ++ st.content ++ [st.quote]) = st.content
  rw [append, append, quote, free, List.nil_append, List.append_nil]

end Legal

end Statement

namespace Replacer

open Statement

variable (r : Replacer)

theorem replace_legal (st : Legal) {source : String}
    (h : r.source? (String.ofList st.content) = some source) :
    r.replace st.shape.statement =
      .replaced (String.ofList st.content) source st.text
        (st.layout.declarations r.keyword source).toList := by
  have specifier : st.shape.statement.specifier = String.ofList st.content :=
    congrArg String.ofList st.unquote_quoted
  have clause : Clause.parse? st.shape.statement.clause = some st.layout.clause :=
    Clause.parse?_layout st.before.blank st.after.blank st.layout
  have text : st.shape.statement.text = st.text := st.text_shape
  simp only [replace, specifier, h, clause, text, Clause.Layout.declarations_clause]

/-- A legal statement that begins a text or follows a boundary is replaced by the declarations of
its bindings, and the texts on its two sides are rewritten by themselves. -/
theorem report_legal (pre : String) (st : Legal) (post : String) {source : String}
    (hs : r.source? (String.ofList st.content) = some source)
    (hpre : pre = "" ∨ Closed pre.toList) :
    r.report (pre ++ String.ofList st.text ++ post) =
      let start := pre.utf8ByteSize
      let stop := start + Text.byteLength st.text
      ⟨(r.report pre).code ++ st.layout.declarations r.keyword source ++ (r.report post).code,
        (r.report pre).replaced ++ ⟨String.ofList st.content, source, ⟨start, stop⟩⟩ ::
          (r.report post).replaced.map (Replaced.shift stop)⟩ := by
  obtain ⟨ps, hp⟩ := exists_reading pre.toList
  obtain ⟨qs, hq⟩ := exists_reading post.toList
  have statement : Reading (st.text ++ post.toList) (.statement st.shape :: qs) := by
    rw [← st.text_shape]
    exact .statement st.shape hq
  have whole : Reading (pre ++ String.ofList st.text ++ post).toList
      (ps ++ .statement st.shape :: qs) := by
    rw [String.toList_append, String.toList_append, String.toList_ofList, List.append_assoc]
    rcases hpre with rfl | closed
    · obtain rfl := hp.unique .nil
      exact statement
    · exact hp.append closed statement
  have length : Text.byteLength ((ps.map r.part).flatMap Stretch.old) = pre.utf8ByteSize := by
    rw [flatMap_old_part, hp.flatMap_text, Text.byteLength_toList]
  rw [r.report_eq whole, r.report_eq hp, r.report_eq hq, List.map_append, List.map_cons, part,
    r.replace_legal st hs, List.flatMap_append, List.flatMap_cons, Stretch.report_append, length,
    Stretch.report_replaced, Nat.zero_add, Stretch.new, String.ofList_append, String.ofList_append,
    String.ofList_toList, ← String.append_assoc]
  have shift := Stretch.report_shift 0 (pre.utf8ByteSize + Text.byteLength st.text) (qs.map r.part)
  rw [Nat.zero_add] at shift
  rw [shift]

/-- A statement whose names are spelled like keywords: `import from, { as as import, } from 'm'`. -/
def keywordNames : Legal :=
  let space : Clause.Space := ⟨[' '], by simp, List.forall_mem_singleton.2 (by decide)⟩
  let gap : Clause.Gap := ⟨[' '], List.forall_mem_singleton.2 (by decide)⟩
  let none : Clause.Gap := ⟨[], by simp⟩
  let name (c : Char) (cs : List Char) (hc : Regex.CharSet.nameStart.contains c = true)
      (hcs : (c :: cs).all Regex.CharSet.nameChar.contains = true) : Clause.Name :=
    ⟨⟨c :: cs, by simp, List.all_eq_true.1 hcs⟩, fun _ h => Option.some.inj h ▸ hc⟩
  let from_ := name 'f' ['r', 'o', 'm'] (by decide) (by decide)
  let as_ := name 'a' ['s'] (by decide) (by decide)
  let import_ := name 'i' ['m', 'p', 'o', 'r', 't'] (by decide) (by decide)
  { before := space
    layout := .both from_ none gap
      (.named ⟨gap, [⟨.renamed as_ space space import_, none, gap⟩], Option.none⟩)
    after := space
    gap := space
    quote := '\''
    content := ['m']
    quote_eq := .inl rfl
    content_chars := List.forall_mem_singleton.2 (by decide) }

theorem report_keywordNames :
    let r : Replacer := { exact := (∅ : ExactSources).insert "m" "M" }
    r.source? (String.ofList keywordNames.content) = some "M" ∧
      Closed "f();\n".toList ∧
      (r.report ("f();\n" ++ String.ofList keywordNames.text ++ ";")).code =
        "f();\nconst { as: import, } = M;\nconst from = M && " ++
          "Object.prototype.hasOwnProperty.call(M, 'default') ? M['default'] : M;" := by
  intro r
  have source : r.source? (String.ofList keywordNames.content) = some "M" := by decide +kernel
  have closed : Closed "f();\n".toList :=
    ⟨['f', '(', ')'], ';', ['\n'], rfl, by decide, List.forall_mem_singleton.2 (by decide),
      by decide⟩
  refine ⟨source, closed, ?_⟩
  rw [report_legal r "f();\n" keywordNames ";" source (.inr closed)]
  decide +kernel

end Replacer

end GlobalImports
