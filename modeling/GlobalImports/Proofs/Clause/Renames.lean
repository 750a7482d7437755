import GlobalImports.Proofs.Clause.Parse
import GlobalImports.Proofs.Template.Escaped
import Mathlib.Data.List.SplitBy

/-! Renames in a block, read word by word. A text is cut into its words, which are maximal runs of
name characters, and the text between them. From left to right, a word, the word `as` and a word
with nothing but white space between them are one rename, whatever the first and the last of them
are, and the next rename begins behind it. The sweep for renames finds the same ones, so it never
takes a part of a word and never goes across a comma or a brace. -/

namespace GlobalImports.Clause

open Regex

/-! ### Runs -/

/-- The words of a text and what is between them, in order: the longest stretches in which either
every character is one of names or none is. -/
def runs (text : List Char) : List (List Char) :=
  text.splitBy fun c d => CharSet.nameChar.contains c == CharSet.nameChar.contains d

/-- `u` is the first run of `u ++ v`; `word` tells whether it is a word. -/
structure Leads (word : Bool) (u v : List Char) : Prop where
  ne_nil : u ≠ []
  same : ∀ c ∈ u, CharSet.nameChar.contains c = word
  stop : ∀ c ∈ v.head?, CharSet.nameChar.contains c = !word

section Runs

variable {word : Bool} {text u v : List Char} {rs : List (List Char)}

theorem Leads.runs_append (h : Leads word u v) : runs (u ++ v) = u :: runs v := by
  have chain : u.IsChain fun c d =>
      (CharSet.nameChar.contains c == CharSet.nameChar.contains d) = true := by
    refine (List.pairwise_of_forall_mem_list fun c hc d hd => ?_).isChain
    rw [h.same c hc, h.same d hd, beq_self_eq_true]
  rw [runs, List.splitBy_append, List.splitBy_of_isChain h.ne_nil chain]
  · rfl
  · intro c hc d hd
    rw [h.same c (List.mem_of_getLast? hc), h.stop d hd]
    cases word <;> rfl

theorem exists_leads (h : runs text = u :: rs) :
    ∃ word v, text = u ++ v ∧ rs = runs v ∧ Leads word u v := by
  cases text with
  | nil => cases h
  | cons c cs =>
    obtain ⟨u', v, split, same, stop⟩ := Text.exists_run
      (fun d => CharSet.nameChar.contains d == CharSet.nameChar.contains c) (c :: cs)
    have leads : Leads (CharSet.nameChar.contains c) u' v := by
      refine ⟨?_, fun d hd => by simpa using same d hd, fun d hd => ?_⟩
      · rintro rfl
        have := stop c (by rw [← List.nil_append v, ← split]; rfl)
        simp at this
      · exact Bool.eq_not.2 (by simpa using stop d hd)
    rw [split, leads.runs_append] at h
    obtain ⟨rfl, rfl⟩ := List.cons.inj h
    exact ⟨_, v, split, rfl, leads⟩

theorem Leads.of_word (w : Word) (hv : ∀ c ∈ v.head?, CharSet.nameChar.contains c = false) :
    Leads true w.chars v :=
  ⟨w.ne_nil, w.name, hv⟩

theorem Leads.of_space (s : Space) (hv : ∀ c ∈ v.head?, CharSet.nameChar.contains c = true) :
    Leads false s.chars v :=
  ⟨s.ne_nil, fun c hc => not_nameChar_of_isBlank (s.blank c hc), hv⟩

/-- The runs of a rename behind its first word. -/
theorem runs_between (s s' : Space) (y : Word)
    (hv : ∀ c ∈ v.head?, CharSet.nameChar.contains c = false) :
    runs (s.chars ++ ("as".toList ++ (s'.chars ++ (y.chars ++ v)))) =
      s.chars :: "as".toList :: s'.chars :: y.chars :: runs v := by
  let k : Word := ⟨"as".toList, by decide, List.all_eq_true.1 (by decide)⟩
  have word : Leads true "as".toList (s'.chars ++ (y.chars ++ v)) :=
    .of_word k (s'.not_nameChar_head _)
  rw [(Leads.of_space s (k.nameChar_head _)).runs_append, word.runs_append,
    (Leads.of_space s' (y.nameChar_head v)).runs_append, (Leads.of_word y hv).runs_append]

end Runs

/-! ### Renaming run by run -/

def isWord (run : List Char) : Bool := !run.isEmpty && run.all CharSet.nameChar.contains

def isSpace (run : List Char) : Bool := !run.isEmpty && run.all Text.isBlank

theorem isWord_iff {run : List Char} : isWord run = true ↔ ∃ w : Word, run = w.chars := by
  simp only [isWord, Bool.and_eq_true, Bool.not_eq_true', List.isEmpty_eq_false_iff,
    List.all_eq_true]
  constructor
  · rintro ⟨ne, name⟩
    exact ⟨⟨run, ne, name⟩, rfl⟩
  · rintro ⟨w, rfl⟩
    exact ⟨w.ne_nil, w.name⟩

theorem isSpace_iff {run : List Char} : isSpace run = true ↔ ∃ s : Space, run = s.chars := by
  simp only [isSpace, Bool.and_eq_true, Bool.not_eq_true', List.isEmpty_eq_false_iff,
    List.all_eq_true]
  constructor
  · rintro ⟨ne, blank⟩
    exact ⟨⟨run, ne, blank⟩, rfl⟩
  · rintro ⟨s, rfl⟩
    exact ⟨s.ne_nil, s.blank⟩

/-- The text of some runs, where a name, white space, the word `as`, white space and a local name
become the name, a colon and the local name, and all else is as it was. -/
def renameRuns : List (List Char) → List Char
  | x :: s :: k :: s' :: y :: rs =>
    if isWord x ∧ isSpace s ∧ k = "as".toList ∧ isSpace s' ∧ isWord y then
      x ++ [':', ' '] ++ y ++ renameRuns rs
    else x ++ renameRuns (s :: k :: s' :: y :: rs)
  | x :: rs => x ++ renameRuns rs
  | [] => []

/-- A match in a text that takes two words, with nothing but white space and the word `as` between
them, and takes each of them to its ends. -/
structure TakesWords (text : List Char) (f : Found) : Prop where
  words : ∃ (x : Word) (s s' : Space) (y : Word),
    f.text = x.chars ++ between s s' ++ y.chars ∧
      f.groups = [some f.text, some x.chars, some y.chars]
  before : ∃ u, text = u ++ f.text ++ f.rest ∧
    ∀ c ∈ u.getLast?, CharSet.nameChar.contains c = false
  behind : ∀ c ∈ f.rest.head?, CharSet.nameChar.contains c = false

section Renaming

variable {u v d text : List Char} {word : Bool} {f : Found}

/-- Behind a run that is a word, something else comes. -/
theorem Leads.stop_of_word {w : Word} (leads : Leads word w.chars v) :
    ∀ c ∈ v.head?, CharSet.nameChar.contains c = false := by
  obtain ⟨c, hc⟩ := List.exists_mem_of_ne_nil _ w.ne_nil
  obtain rfl : true = word := (w.name c hc).symm.trans (leads.same c hc)
  exact leads.stop

theorem TakesWords.exists_head (h : TakesWords text f) :
    ∃ c, (f.text ++ f.rest).head? = some c ∧ CharSet.nameChar.contains c = true := by
  obtain ⟨x, s, s', y, text, -⟩ := h.words
  obtain ⟨c, hc⟩ := Option.isSome_iff_exists.1 (List.isSome_head?.2 x.ne_nil)
  refine ⟨c, ?_, x.name c (List.mem_of_mem_head? hc)⟩
  rw [text, List.append_assoc, List.append_assoc, List.head?_append_of_ne_nil _ x.ne_nil, hc]

/-- The matches in a text take words also in a longer text, if no word goes across the place where
that is cut. -/
theorem TakesWords.append (h : TakesWords v f)
    (cut : ∀ c ∈ u.getLast?, ∀ d ∈ v.head?, CharSet.nameChar.contains d = true →
      CharSet.nameChar.contains c = false) : TakesWords (u ++ v) f := by
  obtain ⟨d, hv, before⟩ := h.before
  refine ⟨h.words, ⟨u ++ d, by rw [hv]; simp only [List.append_assoc], fun c hc => ?_⟩, h.behind⟩
  by_cases hd : d = []
  · -- the match begins at the cut, and with a word
    obtain ⟨e, he, name⟩ := h.exists_head
    rw [hd, List.append_nil] at hc
    rw [hd, List.nil_append] at hv
    exact cut c hc e (hv ▸ he) name
  · rw [List.getLast?_append_of_ne_nil _ hd] at hc
    exact before c hc

/-- A match that begins in a word has the rest of a rename in the runs behind that word. -/
theorem exists_runs_of_begins (leads : Leads true u v) (hd : d <:+ u)
    (h : renamedBinding.Begins (d ++ v)) :
    ∃ (s s' : Space) (y : Word) (rs : List (List Char)),
      runs v = s.chars :: "as".toList :: s'.chars :: y.chars :: rs := by
  obtain ⟨x, s, s', y, tail, split⟩ := exists_of_renamedBinding_begins h
  obtain ⟨-, rfl⟩ := Text.run_inj split (fun c hc => leads.same c (hd.subset hc)) x.name leads.stop
    (s.not_nameChar_head _)
  -- the match may stop short of the end of its last word
  obtain ⟨y, tail, longest, stop⟩ := y.exists_longest tail
  exact ⟨s, s', y, runs tail, by rw [longest, runs_between s s' y stop]⟩

/-- No match begins in a run that begins no rename. -/
theorem Leads.inert (leads : Leads word u v)
    (none : isWord u → ∀ s s' y rs, runs v = s :: "as".toList :: s' :: y :: rs →
      isSpace s → isSpace s' → ¬isWord y) : Text.Inert renamedBinding.Begins u v := by
  cases word with
  | false =>
    refine Text.inert_of_head fun c hc cs h => ?_
    have other := leads.same c hc
    rw [nameChar_of_renamedBinding_begins h] at other
    cases other
  | true =>
    intro d _ hd h
    obtain ⟨s, s', y, rs, hr⟩ := exists_runs_of_begins leads hd h
    exact none (isWord_iff.2 ⟨⟨u, leads.ne_nil, leads.same⟩, rfl⟩) _ _ _ _ hr
      (isSpace_iff.2 ⟨s, rfl⟩) (isSpace_iff.2 ⟨s', rfl⟩) (isWord_iff.2 ⟨y, rfl⟩)

/-- The tokens that a sweep makes of a text, against the runs of the text. -/
structure Sweeps (text : List Char) (ts : List Token) : Prop where
  reads : renamedBinding.Reads text ts
  renamed : ts.flatMap (Token.replace renameFound) = renameRuns (runs text)
  whole : ∀ f, .hit f ∈ ts → TakesWords text f

section Sweeps

variable {ts : List Token}

theorem sweeps_nil : Sweeps [] [] := ⟨reads_nil _, rfl, fun _ h => nomatch h⟩

/-- Where a run is kept. -/
theorem Sweeps.append (h : Sweeps v ts) (leads : Leads word u v)
    (inert : Text.Inert renamedBinding.Begins u v)
    (kept : renameRuns (u :: runs v) = u ++ renameRuns (runs v)) :
    Sweeps (u ++ v) (u.map .char ++ ts) := by
  refine ⟨h.reads.append_of_inert inert, ?_, fun f hf => ?_⟩
  · rw [List.flatMap_append, flatMap_replace_map_char, h.renamed, leads.runs_append, kept]
  · have hf : .hit f ∈ ts := by simpa using hf
    refine (h.whole f hf).append fun c hc d hd name => ?_
    have other : (!word) = true := (leads.stop d hd).symm.trans name
    rw [leads.same c (List.mem_of_getLast? hc)]
    simpa using other

/-- Where five runs are a rename. -/
theorem Sweeps.rename (h : Sweeps v ts) (x y : Word) (s s' : Space)
    (stop : ∀ c ∈ v.head?, CharSet.nameChar.contains c = false) :
    ∃ t, Sweeps (x.chars ++ (s.chars ++ ("as".toList ++ (s'.chars ++ (y.chars ++ v)))))
      (t :: ts) := by
  let f : Found := ⟨[], x.chars ++ between s s' ++ y.chars, v,
    [some (x.chars ++ between s s' ++ y.chars), some x.chars, some y.chars]⟩
  have text : x.chars ++ (s.chars ++ ("as".toList ++ (s'.chars ++ (y.chars ++ v)))) =
      f.text ++ v := by simp [f, between]
  have cut : runs (f.text ++ v) =
      x.chars :: s.chars :: "as".toList :: s'.chars :: y.chars :: runs v := by
    rw [← text, (Leads.of_word x (s.not_nameChar_head _)).runs_append, runs_between s s' y stop]
  rw [text]
  refine ⟨.hit f, h.reads.hit (by simp [f, x.ne_nil]) fun before => ?_, ?_, fun g hg => ?_⟩
  · exact here?_renamedBinding x y s s' before stop
  · rw [cut, renameRuns, if_pos ⟨isWord_iff.2 ⟨x, rfl⟩, isSpace_iff.2 ⟨s, rfl⟩, rfl,
      isSpace_iff.2 ⟨s', rfl⟩, isWord_iff.2 ⟨y, rfl⟩⟩, ← h.renamed]
    rfl
  · rcases List.mem_cons.1 hg with hg | hg
    · rw [Token.hit.inj hg]
      exact ⟨⟨x, s, s', y, rfl, rfl⟩, ⟨[], rfl, by simp⟩, stop⟩
    · refine (h.whole g hg).append fun c hc d hd name => ?_
      rw [stop d hd] at name
      cases name

theorem exists_sweeps {rs : List (List Char)} (h : runs text = rs) : ∃ ts, Sweeps text ts := by
  fun_induction renameRuns rs generalizing text with
  | case1 x s k s' y rs hit ih =>
    obtain ⟨hx, hs, rfl, hs', hy⟩ := hit
    obtain ⟨x, rfl⟩ := isWord_iff.1 hx
    obtain ⟨s, rfl⟩ := isSpace_iff.1 hs
    obtain ⟨s', rfl⟩ := isSpace_iff.1 hs'
    obtain ⟨y, rfl⟩ := isWord_iff.1 hy
    obtain ⟨_, v₁, rfl, h₁, -⟩ := exists_leads h
    obtain ⟨_, v₂, rfl, h₂, -⟩ := exists_leads h₁.symm
    obtain ⟨_, v₃, rfl, h₃, -⟩ := exists_leads h₂.symm
    obtain ⟨_, v₄, rfl, h₄, -⟩ := exists_leads h₃.symm
    obtain ⟨_, v, rfl, rfl, leads⟩ := exists_leads h₄.symm
    obtain ⟨ts, sweeps⟩ := ih rfl
    obtain ⟨t, sweeps⟩ := sweeps.rename x y s s' leads.stop_of_word
    exact ⟨t :: ts, sweeps⟩
  | case2 x s k s' y rs hit ih =>
    obtain ⟨_, v, rfl, hv, leads⟩ := exists_leads h
    obtain ⟨ts, sweeps⟩ := ih hv.symm
    refine ⟨_, sweeps.append leads (leads.inert ?_) ?_⟩
    · intro hx _ _ _ _ hr hs hs' hy
      rw [← hv] at hr
      simp only [List.cons.injEq] at hr
      obtain ⟨rfl, rfl, rfl, rfl, -⟩ := hr
      exact hit ⟨hx, hs, rfl, hs', hy⟩
    · rw [← hv, renameRuns, if_neg hit]
  | case3 x rs none ih =>
    obtain ⟨_, v, rfl, rfl, leads⟩ := exists_leads h
    obtain ⟨ts, sweeps⟩ := ih rfl
    refine ⟨_, sweeps.append leads (leads.inert ?_) ?_⟩
    · exact fun _ s s' y rs hr _ _ _ => none _ _ _ _ _ hr
    · rw [renameRuns]
      exact none
  | case4 =>
    rw [runs, List.splitBy_eq_nil] at h
    exact ⟨[], h ▸ sweeps_nil⟩

end Sweeps

end Renaming

/-! ### Renaming a block -/

/-- The captures of a match in which no group has a name. -/
def captures (f : Found) : Captures :=
  ⟨f.groups.map fun _ => none, f.groups.map (·.map String.ofList)⟩

/-- Two groups with a colon between them. -/
def renameTemplate : String := "$\x7b1\x7d: $\x7b2\x7d"

theorem parts_renameTemplate : Template.parts renameTemplate.toList =
    [.reference ['1'], .literal ':', .literal ' ', .reference ['2']] := by
  decide +kernel

theorem get?_captures (f : Found) (i : Nat) :
    (captures f).get? i = (f.group? i).map String.ofList := by
  rw [Captures.get?, captures, List.getElem?_map, Found.group?]
  cases f.groups[i]? <;> rfl

/-- What becomes of a rename is what its template says. -/
theorem expand_renameTemplate (f : Found) :
    (Template.expand renameTemplate (captures f)).toList = renameFound f := by
  have one : Template.index? ['1'] = some 1 := by decide
  have two : Template.index? ['2'] = some 2 := by decide
  have group (i : Nat) :
      (((f.group? i).map String.ofList).map String.toList).getD [] = (f.group? i).getD [] := by
    cases f.group? i <;> simp
  simp only [Template.expand, parts_renameTemplate, List.flatMap_cons, List.flatMap_nil,
    Template.Part.expand, Template.lookup?, one, two, get?_captures, group, String.toList_ofList]
  simp [renameFound]

/-- Renaming a block, said of its words. -/
structure RenamesWords (block : List Char) : Prop where
  /-- Every match of the sweep is replaced by the template with its groups put in. -/
  expanded : rename block = renamedBinding.replaceAll
    (fun f => (Template.expand renameTemplate (captures f)).toList) block
  /-- That is what one pass over the runs of the block makes of them. -/
  spelled : rename block = renameRuns (runs block)
  /-- No match takes a part of a word or anything but white space between words. -/
  whole : ∀ f ∈ renamedBinding.hits block, TakesWords block f

theorem renamesWords (block : List Char) : RenamesWords block := by
  obtain ⟨ts, sweeps⟩ := exists_sweeps (rfl : runs block = _)
  refine ⟨?_, ?_, fun f hf => ?_⟩
  · simp only [expand_renameTemplate]
    rfl
  · rw [rename, replaceAll_eq _ renamedBinding_productive _ _ fun _ => rfl, sweeps.reads none,
      sweeps.renamed]
  · have hit := mem_tokens_of_mem_hits renamedBinding_productive hf
    rw [sweeps.reads none] at hit
    obtain ⟨words, before, behind⟩ := sweeps.whole _ hit
    exact ⟨words, before, behind⟩

example : rename "\x7bas as as, a as\n b as c as d, e, as f\x7d".toList =
    "\x7bas: as, a: b as c: d, e, as f\x7d".toList := by
  decide +kernel

end GlobalImports.Clause
