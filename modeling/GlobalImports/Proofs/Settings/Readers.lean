import GlobalImports.Proofs.Settings.Rendering

/-! What the readers of settings make of any value. Each value is read as one thing or refused for
one cause, well typed or not, so it makes no difference in which document it stands. -/

namespace GlobalImports.Settings

open Json

section Outcomes

variable {v : List Char} {m : Member}

/-- What is unknown is passed over, whatever its value. -/
theorem yieldsBehind_skipped {σ : Type} (h : IsValue m.item.value) (s : σ) :
    YieldsBehind (do memberValue skipValue; return s) m (.ok s) :=
  yieldsBehind_ok_iff.2 ((reads_skipValue h).memberValue.map fun _ => s)

/-! ### Keywords -/

/-- A string names a keyword or is refused. -/
theorem exists_outcome_keywordName (l : Literal) :
    ∃ o : Except Cause Keyword, (∀ k, o = .ok k → l.Spells k.text) ∧
      ∀ t, outcome (keywordName ('"' :: (l.body ++ '"' :: t))) = o.map fun k => (k, t) := by
  obtain ⟨name, spells, hn⟩ := l.exists_outcome
  have step (t : List Char) : outcome (keywordName ('"' :: (l.body ++ '"' :: t))) =
      name.bind fun name => outcome (keywordOf name t) :=
    outcome_bind (hn t) keywordOf
  cases name with
  | error cause => exact ⟨.error cause, by simp, step⟩
  | ok name =>
    cases named : Keyword.ofText? name with
    | none =>
      refine ⟨.error (.unknownVariant name (Keyword.all.map Keyword.text)), by simp, fun t => ?_⟩
      refine (step t).trans ?_
      simp only [Except.bind, keywordOf, named]
      rfl
    | some k =>
      refine ⟨.ok k, ?_, fun t => (step t).trans ?_⟩
      · rintro _ ⟨⟩
        rw [← Keyword.ofText?_eq_some_iff.1 named]
        exact spells name rfl
      · simp only [Except.bind, keywordOf, named]
        rfl

theorem keywordValue_brace (g : Gap) (t : List Char) :
    keywordValue (g.chars ++ '{' :: t) = (keywordKey >>= keywordTail) t := by
  rw [keywordValue, bind_apply, peekValue_gap, peekValue_cons _ (by decide)]
  rfl

theorem keywordKey_quote (g : Gap) (t : List Char) :
    keywordKey (g.chars ++ '"' :: t) = keywordName ('"' :: t) := by
  rw [keywordKey, bind_apply, peekToken_gap, peekToken_cons _ (by decide)]
  rfl

/-- A keyword is the only key of its object. -/
theorem exists_outcome_closeKeyword (g : Gap) (ms : List Member) :
    ∃ o : Except Cause Unit, ∀ rest,
      outcome (closeKeyword (left false g (ms.map Member.text) ++ '}' :: rest)) =
        o.map fun u => (u, rest) := by
  cases ms with
  | nil =>
    refine ⟨.ok (), fun rest => ?_⟩
    rw [List.map_nil, left_nil, closeKeyword, bind_apply, peekToken_gap,
      peekToken_cons _ (by decide)]
    rfl
  | cons m ms =>
    refine ⟨.error .expectedValue, fun rest => ?_⟩
    rw [left, if_neg Bool.false_ne_true, List.map_cons, behindComma_cons, List.append_assoc,
      List.cons_append, closeKeyword, bind_apply, peekToken_gap, peekToken_cons _ (by decide)]
    rfl

theorem exists_outcome_keywordTail (h : IsValue m.item.value) (ms : List Member) (k : Keyword) :
    ∃ o : Except Cause Keyword, ∀ rest,
      outcome (keywordTail k
        (m.behind (left false m.item.after (ms.map Member.text) ++ '}' :: rest))) =
          o.map fun k => (k, rest) := by
  obtain ⟨u, hu⟩ := exists_yields_null h "unit"
  have closing (rest : List Char) : Follows ('}' :: rest) := follows_cons (by decide)
  have null (rest : List Char) := outcome_bind
    (hu.memberValue _ (follows_left m.item.after (ms.map Member.text) (closing rest)))
    fun _ => (closeKeyword >>= fun _ => pure k : Reader Keyword)
  cases u with
  | error cause => exact ⟨.error cause, null⟩
  | ok u =>
    obtain ⟨o, ho⟩ := exists_outcome_closeKeyword m.item.after ms
    exact ⟨o.map fun _ => k, fun rest => (null rest).trans (outcome_pure_bind (ho rest) fun _ => k)⟩

theorem exists_yields_keywordObject (g : Gap) {ms : List Member}
    (h : ∀ m ∈ ms, IsValue m.item.value) : ∃ o, Yields keywordValue (objectText g ms) o := by
  cases ms with
  | nil =>
    refine ⟨.error .expectedValue, fun g' rest _ => ?_⟩
    rw [objectText_append, keywordValue_brace, bind_apply, keywordKey, bind_apply, List.map_nil,
      inner_nil, peekToken_gap, peekToken_cons _ (by decide)]
    rfl
  | cons m ms =>
    obtain ⟨k, -, hk⟩ := exists_outcome_keywordName m.key
    have key (g' : Gap) (rest : List Char) :
        outcome (keywordValue (g'.chars ++ (objectText g (m :: ms) ++ rest))) =
          k.bind fun k => outcome (keywordTail k
            (m.behind (left false m.item.after (ms.map Member.text) ++ '}' :: rest))) := by
      rw [objectText_append, keywordValue_brace, inner_member]
      refine outcome_bind ?_ _
      rw [keywordKey_quote]
      exact hk _
    cases k with
    | error cause => exact ⟨.error cause, fun g' rest _ => key g' rest⟩
    | ok k =>
      obtain ⟨o, ho⟩ := exists_outcome_keywordTail (h m List.mem_cons_self) ms k
      exact ⟨o, fun g' rest _ => (key g' rest).trans (ho rest)⟩

/-- Nothing but a string or an object is a keyword. -/
theorem yields_keywordValue_error (h : IsValue v) (string : ∀ l : Literal, v ≠ l.text)
    (object : ∀ g ms, v ≠ objectText g ms) : Yields keywordValue v (.error .expectedValue) := by
  obtain ⟨c, cs, head⟩ := h.exists_head
  have quote : c ≠ '"' := head.ne_quote string
  have brace : c ≠ '{' := head.ne_brace object
  rw [head.text]
  refine yields_peekValue head.space fun rest _ => ?_
  split
  · contradiction
  · contradiction
  · rfl

theorem yields_keywordValue_string (l : Literal) :
    ∃ o : Except Cause Keyword, (∀ k, o = .ok k → l.Spells k.text) ∧
      Yields keywordValue l.text o := by
  obtain ⟨o, spells, ho⟩ := exists_outcome_keywordName l
  refine ⟨o, spells, yields_peekValue (by decide) fun rest _ => ?_⟩
  rw [← ho rest, List.append_assoc]
  rfl

theorem exists_yields_keywordValue (h : IsValue v) : ∃ o, Yields keywordValue v o := by
  obtain ⟨c, cs, head⟩ := h.exists_head
  by_cases quote : c = '"'
  · obtain ⟨l, rfl⟩ := head.string quote
    obtain ⟨o, -, ho⟩ := yields_keywordValue_string l
    exact ⟨o, ho⟩
  by_cases brace : c = '{'
  · obtain ⟨g, ms, rfl, values⟩ := head.object brace
    exact exists_yields_keywordObject g values
  · exact ⟨_, yields_keywordValue_error h (head.ne_string quote) (head.ne_object brace)⟩

/-! ### Exact sources -/

theorem yields_exactValue {ms : List Member} {o : Except Cause ExactSources}
    (h : Runs exactMember ∅ ms o) (g : Gap) : Yields exactValue (objectText g ms) o := by
  have object : Yields exactValue (objectText g ms) (o.bind .ok) :=
    h.yields g rfl fun _ _ => rfl
  cases o <;> exact object

theorem exists_runs_exactMember {ms : List Member} (h : ∀ m ∈ ms, IsValue m.item.value) :
    ∃ o, Runs exactMember ∅ ms o := by
  refine exists_runs (fun m hm sources key => ?_) ∅
  obtain ⟨o, ho⟩ := exists_yields_string (h m hm) "a string"
  exact ⟨_, ho.memberValue.map fun s => sources.insert key s⟩

/-- Nothing but an object holds exact sources. -/
theorem exists_yields_exactValue_error (h : IsValue v) (other : ∀ g ms, v ≠ objectText g ms) :
    ∃ cause, Yields exactValue v (.error cause) := by
  obtain ⟨c, cs, head⟩ := h.exists_head
  have unbraced : ¬(c == '{') = true := by simpa using head.ne_brace other
  exact exists_yields_mismatch h head (if_neg unbraced)

theorem exists_yields_exactValue (h : IsValue v) : ∃ o, Yields exactValue v o := by
  obtain ⟨c, cs, head⟩ := h.exists_head
  by_cases brace : c = '{'
  · obtain ⟨g, ms, rfl, values⟩ := head.object brace
    obtain ⟨o, ho⟩ := exists_runs_exactMember values
    exact ⟨o, yields_exactValue ho g⟩
  · obtain ⟨cause, refused⟩ := exists_yields_exactValue_error h (head.ne_object brace)
    exact ⟨_, refused⟩

/-! ### Patterns -/

theorem exists_yieldsBehind_patternMember (h : IsValue m.item.value) (f : PatternFields)
    (key : String) : ∃ o, YieldsBehind (patternMember f key) m o := by
  have string (name : String) (old : Option String) :
      ∃ o, YieldsBehind (once name old (string "a string")) m o :=
    exists_yieldsBehind_once name old (exists_yields_string h "a string")
  unfold patternMember
  split
  · obtain ⟨o, ho⟩ := string "pattern" f.pattern
    exact ⟨_, ho.map fun a => { f with pattern := a }⟩
  · obtain ⟨o, ho⟩ := string "source" f.source
    exact ⟨_, ho.map fun a => { f with source := a }⟩
  · exact ⟨_, yieldsBehind_skipped h f⟩

theorem exists_runs_patternMember {ms : List Member} (h : ∀ m ∈ ms, IsValue m.item.value) :
    ∃ o, Runs patternMember {} ms o :=
  exists_runs (fun m hm => exists_yieldsBehind_patternMember (h m hm)) {}

theorem yields_patternValue {ms : List Member} {o : Except Cause PatternFields}
    (h : Runs patternMember {} ms o) (g : Gap) :
    Yields patternValue (objectText g ms) (o.bind PatternFields.result) := by
  refine h.yields g rfl fun f rest => ?_
  obtain ⟨pattern, source⟩ := f
  cases pattern with
  | none => rfl
  | some pattern =>
    cases source with
    | none => rfl
    | some source => rfl

theorem exists_yields_patternList (g : Gap) {es : List Item} (h : ∀ e ∈ es, IsValue e.value) :
    ∃ o, Yields patternValue (listText g es) o := by
  have each (v : List Char) (hv : IsValue v) : ∃ o, Yields (string "a string") v o :=
    exists_yields_string hv "a string"
  have list : Closes patternList true ⟨g, es, h⟩ :=
    (advances_fixedElement each 0 _).closes fun pattern _ =>
      (advances_fixedElement each 1 _).closes fun source _ => closes_closeList.map _
  exact list.exists_yields rfl

theorem exists_yields_patternValue (h : IsValue v) : ∃ o, Yields patternValue v o := by
  obtain ⟨c, cs, head⟩ := h.exists_head
  by_cases bracket : c = '['
  · obtain ⟨g, es, rfl, values⟩ := head.list bracket
    exact exists_yields_patternList g values
  by_cases brace : c = '{'
  · obtain ⟨g, ms, rfl, values⟩ := head.object brace
    obtain ⟨o, ho⟩ := exists_runs_patternMember values
    exact ⟨_, yields_patternValue ho g⟩
  · have refused : ∃ cause, Yields patternValue v (.error cause) := by
      apply exists_yields_mismatch h head
      split
      · contradiction
      · contradiction
      · rfl
    obtain ⟨cause, refused⟩ := refused
    exact ⟨_, refused⟩

theorem yields_patternsValue {es : List Item} {os : List (Except Cause PatternSetting)}
    (h : List.Forall₂ (YieldsItem patternValue) es os) (g : Gap) :
    Yields patternsValue (listText g es) (os.mapM id) :=
  yields_list h g rfl

/-- Nothing but a list holds patterns. -/
theorem exists_yields_patternsValue_error (h : IsValue v) (other : ∀ g es, v ≠ listText g es) :
    ∃ cause, Yields patternsValue v (.error cause) := by
  obtain ⟨c, cs, head⟩ := h.exists_head
  have unbracketed : ¬(c == '[') = true := by simpa using head.ne_bracket other
  exact exists_yields_mismatch h head (if_neg unbracketed)

theorem exists_items_patternValue {es : List Item} (h : ∀ e ∈ es, IsValue e.value) :
    ∃ os, List.Forall₂ (YieldsItem patternValue) es os := by
  refine exists_forall₂_yieldsItem fun e he => ?_
  obtain ⟨o, ho⟩ := exists_yields_patternValue (h e he)
  exact ⟨o, (h e he).exists_cons, ho⟩

theorem exists_yields_patternsValue (h : IsValue v) : ∃ o, Yields patternsValue v o := by
  obtain ⟨c, cs, head⟩ := h.exists_head
  by_cases bracket : c = '['
  · obtain ⟨g, es, rfl, values⟩ := head.list bracket
    obtain ⟨os, hos⟩ := exists_items_patternValue values
    exact ⟨_, yields_patternsValue hos g⟩
  · obtain ⟨cause, refused⟩ := exists_yields_patternsValue_error h (head.ne_list bracket)
    exact ⟨_, refused⟩

/-! ### Settings -/

theorem exists_yieldsBehind_member (h : IsValue m.item.value) (f : Fields) (key : String) :
    ∃ o, YieldsBehind (member f key) m o := by
  unfold member
  split
  · obtain ⟨o, ho⟩ := exists_yieldsBehind_once "varType" f.keyword
      (exists_yields_keywordValue h)
    exact ⟨_, ho.map fun a => { f with keyword := a }⟩
  · obtain ⟨o, ho⟩ := exists_yieldsBehind_once "replacementLookup" f.exact
      (exists_yields_exactValue h)
    exact ⟨_, ho.map fun a => { f with exact := a }⟩
  · obtain ⟨o, ho⟩ := exists_yieldsBehind_once "replacementRegExps" f.patterns
      (exists_yields_patternsValue h)
    exact ⟨_, ho.map fun a => { f with patterns := a }⟩
  · exact ⟨_, yieldsBehind_skipped h f⟩

theorem yields_value {ms : List Member} {o : Except Cause Fields} (h : Runs member {} ms o)
    (g : Gap) : Yields value (objectText g ms) (o.map Fields.settings) := by
  have object : Yields value (objectText g ms) (o.bind fun f => .ok f.settings) :=
    h.yields g rfl fun _ _ => rfl
  cases o <;> exact object

theorem exists_yields_list (g : Gap) {es : List Item} (h : ∀ e ∈ es, IsValue e.value) :
    ∃ o, Yields value (listText g es) o := by
  have list : Closes settingsList true ⟨g, es, h⟩ :=
    (advances_element? fun _ => exists_yields_keywordValue).closes fun keyword _ =>
      (advances_elementBehind? (fun _ => exists_yields_exactValue) keyword).closes fun exact _ =>
        (advances_elementBehind? (fun _ => exists_yields_patternsValue) exact).closes fun _ _ =>
          closes_closeList.map _
  exact list.exists_yields rfl

theorem exists_runs_member {ms : List Member} (h : ∀ m ∈ ms, IsValue m.item.value) :
    ∃ o, Runs member {} ms o :=
  exists_runs (fun m hm => exists_yieldsBehind_member (h m hm)) {}

theorem exists_yields_value (h : IsValue v) : ∃ o, Yields value v o := by
  obtain ⟨c, cs, head⟩ := h.exists_head
  by_cases bracket : c = '['
  · obtain ⟨g, es, rfl, values⟩ := head.list bracket
    exact exists_yields_list g values
  by_cases brace : c = '{'
  · obtain ⟨g, ms, rfl, values⟩ := head.object brace
    obtain ⟨o, ho⟩ := exists_runs_member values
    exact ⟨_, yields_value ho g⟩
  · have refused : ∃ cause, Yields value v (.error cause) := by
      apply exists_yields_mismatch h head
      split
      · contradiction
      · contradiction
      · rfl
    obtain ⟨cause, refused⟩ := refused
    exact ⟨_, refused⟩

/-! ### Manifests -/

theorem yields_optionalValue_null : Yields optionalValue "null".toList (.ok none) :=
  yields_peekValue (by decide) fun _ _ => rfl

/-- Where settings may be left out, they are read as they are where they may not. -/
theorem yields_optionalValue (h : IsValue v) (filled : v ≠ "null".toList)
    {o : Except Cause Settings} (ho : Yields value v o) : Yields optionalValue v (o.map some) := by
  obtain ⟨c, cs, head⟩ := h.exists_head
  have other : ¬(c == 'n') = true := by
    rw [beq_iff_eq]
    exact fun n => filled (head.null n)
  rw [head.text] at ho ⊢
  refine yields_peekValue head.space fun rest hr => ?_
  rw [if_neg other]
  exact outcome_pure_bind (ho .tight rest hr) some

theorem exists_yields_optionalValue (h : IsValue v) : ∃ o, Yields optionalValue v o := by
  by_cases filled : v = "null".toList
  · rw [filled]
    exact ⟨_, yields_optionalValue_null⟩
  · obtain ⟨o, ho⟩ := exists_yields_value h
    exact ⟨_, yields_optionalValue h filled ho⟩

theorem exists_yieldsBehind_manifestMember (h : IsValue m.item.value)
    (found : Option (Option Settings)) (key : String) :
    ∃ o, YieldsBehind (manifestMember found key) m o := by
  unfold manifestMember
  split
  · exact exists_yieldsBehind_once "replaceImports" found (exists_yields_optionalValue h)
  · exact ⟨_, yieldsBehind_skipped h found⟩

theorem yields_manifestValue {ms : List Member} {o : Except Cause (Option (Option Settings))}
    (h : Runs manifestMember none ms o) (g : Gap) :
    Yields manifestValue (objectText g ms) (o.map Option.join) := by
  have object : Yields manifestValue (objectText g ms) (o.bind fun found => .ok found.join) :=
    h.yields g rfl fun _ _ => rfl
  cases o <;> exact object

theorem exists_runs_manifestMember {ms : List Member} (h : ∀ m ∈ ms, IsValue m.item.value) :
    ∃ o, Runs manifestMember none ms o :=
  exists_runs (fun m hm => exists_yieldsBehind_manifestMember (h m hm)) none

end Outcomes

end GlobalImports.Settings
