import GlobalImports.Proofs.Json.Refusals
import GlobalImports.Proofs.Settings.Manifest

/-! One bad part spoils the whole. Wherever it stands in a document of settings, and wherever that
document stands in a manifest, nothing is read: no default takes the place of a bad part, and no
entry is dropped. -/

namespace GlobalImports.Settings

open Json

/-! ### Bad parts -/

section Defects

/-- A string that is no keyword, or neither a string nor an object. -/
inductive BadKeyword : List Char → Prop where
  | string (l : Literal) (h : ∀ k : Keyword, ¬l.Spells k.text) : BadKeyword l.text
  | kind {v : List Char} (h : IsValue v) (string : ∀ l : Literal, v ≠ l.text)
      (object : ∀ g ms, v ≠ objectText g ms) : BadKeyword v

/-- No object, or one with a value that is no string. -/
inductive BadExact : List Char → Prop where
  | kind {v : List Char} (h : IsValue v) (other : ∀ g ms, v ≠ objectText g ms) : BadExact v
  | value (g : Gap) {ms : List Member} {m : Member} (h : ∀ m ∈ ms, IsValue m.item.value)
      (hm : m ∈ ms) (other : ∀ l : Literal, m.item.value ≠ l.text) : BadExact (objectText g ms)

/-- The keys that a pattern has to have, each once. -/
def patternKeys : List String := ["pattern", "source"]

/-- An object that lacks a pattern or a source, repeats one, or has one that is no string. -/
inductive BadPattern : List Char → Prop where
  | lacking (g : Gap) {ms : List Member} {key : String} (h : ∀ m ∈ ms, IsValue m.item.value)
      (known : key ∈ patternKeys) (lacking : ∀ m ∈ ms, ¬m.key.Spells key) :
      BadPattern (objectText g ms)
  | repeated (g : Gap) {ms : List Member} {key : String} (h : ∀ m ∈ ms, IsValue m.item.value)
      (known : key ∈ patternKeys) (twice : Twice key ms) : BadPattern (objectText g ms)
  | value (g : Gap) {ms : List Member} {m : Member} {key : String}
      (h : ∀ m ∈ ms, IsValue m.item.value) (known : key ∈ patternKeys) (hm : m ∈ ms)
      (hk : m.key.Spells key) (other : ∀ l : Literal, m.item.value ≠ l.text) :
      BadPattern (objectText g ms)

/-- No list, or one with a bad pattern. -/
inductive BadPatterns : List Char → Prop where
  | kind {v : List Char} (h : IsValue v) (other : ∀ g es, v ≠ listText g es) : BadPatterns v
  | element (g : Gap) {es : List Item} {e : Item} (h : ∀ e ∈ es, IsValue e.value) (he : e ∈ es)
      (bad : BadPattern e.value) : BadPatterns (listText g es)

/-- The keys of settings, each of which may come once. -/
def knownKeys : List String := ["varType", "replacementLookup", "replacementRegExps"]

/-- One of the members is bad, or one with a known key comes again. -/
inductive Defect (ms : List Member) : Prop where
  | repeated {key : String} (known : key ∈ knownKeys) (twice : Twice key ms)
  | keyword {m : Member} (hm : m ∈ ms) (hk : m.key.Spells "varType")
      (bad : BadKeyword m.item.value)
  | exact {m : Member} (hm : m ∈ ms) (hk : m.key.Spells "replacementLookup")
      (bad : BadExact m.item.value)
  | patterns {m : Member} (hm : m ∈ ms) (hk : m.key.Spells "replacementRegExps")
      (bad : BadPatterns m.item.value)

/-! ### Bad values are refused -/

variable {v : List Char} {ms : List Member}

theorem BadKeyword.refused (h : BadKeyword v) :
    ∃ cause, Yields keywordValue v (.error cause) := by
  cases h with
  | kind h string object => exact ⟨_, yields_keywordValue_error h string object⟩
  | string l h =>
    obtain ⟨o, spells, ho⟩ := yields_keywordValue_string l
    cases o with
    | error cause => exact ⟨cause, ho⟩
    | ok k => exact absurd (spells k rfl) (h k)

theorem BadExact.refused (h : BadExact v) : ∃ cause, Yields exactValue v (.error cause) := by
  cases h with
  | kind h other => exact exists_yields_exactValue_error h other
  | value g h hm other =>
    obtain ⟨o, ho⟩ := exists_runs_exactMember h
    cases o with
    | error cause => exact ⟨cause, yields_exactValue ho g⟩
    | ok sources =>
      refine absurd ho (not_runs_of_refused hm fun key _ t => ?_)
      obtain ⟨cause, refused⟩ := exists_yields_string_error (h _ hm) "a string" other
      exact ⟨cause, refused.memberValue.map fun s => t.insert key s⟩

/-! ### Patterns -/

/-- The field with the key has been met. -/
def PatternFields.Met (f : PatternFields) : String → Prop
  | "pattern" => f.pattern.isSome = true
  | "source" => f.source.isSome = true
  | _ => False

theorem tracks_patternMember : Tracks patternMember patternKeys PatternFields.Met where
  step f key cs f' cs' h := by
    unfold patternMember at h
    split at h
    case h_1 | h_2 =>
      obtain ⟨new, t, read, h⟩ := exists_of_bind h
      obtain ⟨old, given⟩ := of_once read
      cases h
      simp [patternKeys, PatternFields.Met, old, given]
    case h_3 pattern source =>
      obtain ⟨_, t, -, h⟩ := exists_of_bind h
      cases h
      exact tracked_of_unknown (by simpa [patternKeys] using ⟨pattern, source⟩)

/-- A pattern's object is refused unless all of its members are gathered and make a setting. -/
theorem exists_yields_patternValue_error (g : Gap) (h : ∀ m ∈ ms, IsValue m.item.value)
    (bad : ∀ f, Runs patternMember {} ms (.ok f) → ∃ cause, f.result = .error cause) :
    ∃ cause, Yields patternValue (objectText g ms) (.error cause) := by
  obtain ⟨o, ho⟩ := exists_runs_patternMember h
  have value := yields_patternValue ho g
  cases o with
  | error cause => exact ⟨cause, value⟩
  | ok f =>
    obtain ⟨cause, result⟩ := bad f ho
    rw [Except.bind, result] at value
    exact ⟨cause, value⟩

theorem BadPattern.refused (h : BadPattern v) :
    ∃ cause, Yields patternValue v (.error cause) := by
  cases h with
  | @lacking g ms key h known lacking =>
    refine exists_yields_patternValue_error g h fun f runs => ?_
    have unmet : ¬f.Met key := by
      rw [tracks_patternMember.met_iff known runs]
      rintro (met | ⟨m, hm, hk⟩)
      · simp only [patternKeys, List.mem_cons, List.not_mem_nil, or_false] at known
        rcases known with rfl | rfl <;> cases met
      · exact lacking m hm hk
    obtain ⟨pattern, source⟩ := f
    simp only [patternKeys, List.mem_cons, List.not_mem_nil, or_false] at known
    rcases known with rfl | rfl
    · obtain rfl : pattern = none := by simpa [PatternFields.Met] using unmet
      exact ⟨_, rfl⟩
    · obtain rfl : source = none := by simpa [PatternFields.Met] using unmet
      cases pattern <;> exact ⟨_, rfl⟩
  | @repeated g ms key h known twice =>
    exact exists_yields_patternValue_error g h fun f runs =>
      absurd runs (tracks_patternMember.not_twice known twice)
  | @value g ms m key h known hm hk other =>
    have refused := exists_yields_string_error (h m hm) "a string" other
    refine exists_yields_patternValue_error g h fun f => Not.elim ?_
    simp only [patternKeys, List.mem_cons, List.not_mem_nil, or_false] at known
    rcases known with rfl | rfl
    · exact not_runs_of_once hm hk refused PatternFields.pattern
        (fun t a => { t with pattern := a }) fun _ => rfl
    · exact not_runs_of_once hm hk refused PatternFields.source
        (fun t a => { t with source := a }) fun _ => rfl

theorem BadPatterns.refused (h : BadPatterns v) :
    ∃ cause, Yields patternsValue v (.error cause) := by
  cases h with
  | kind h other => exact exists_yields_patternsValue_error h other
  | element g h he bad =>
    obtain ⟨os, hos⟩ := exists_items_patternValue h
    obtain ⟨cause, error⟩ := exists_mapM_error hos he bad.refused
    have value := yields_patternsValue hos g
    rw [error] at value
    exact ⟨cause, value⟩

/-! ### Settings -/

/-- The field with the key has been met. -/
def Fields.Met (f : Fields) : String → Prop
  | "varType" => f.keyword.isSome = true
  | "replacementLookup" => f.exact.isSome = true
  | "replacementRegExps" => f.patterns.isSome = true
  | _ => False

theorem tracks_member : Tracks member knownKeys Fields.Met where
  step f key cs f' cs' h := by
    unfold member at h
    split at h
    case h_1 | h_2 | h_3 =>
      obtain ⟨new, t, read, h⟩ := exists_of_bind h
      obtain ⟨old, given⟩ := of_once read
      cases h
      simp [knownKeys, Fields.Met, old, given]
    case h_4 keyword exact patterns =>
      obtain ⟨_, t, -, h⟩ := exists_of_bind h
      cases h
      exact tracked_of_unknown (by simpa [knownKeys] using ⟨keyword, exact, patterns⟩)

/-- With a bad part, the members are not gathered. -/
theorem Defect.not_runs (bad : Defect ms) (f : Fields) : ¬Runs member {} ms (.ok f) := by
  cases bad with
  | repeated known twice => exact tracks_member.not_twice known twice
  | keyword hm hk bad =>
    exact not_runs_of_once hm hk bad.refused Fields.keyword (fun t a => { t with keyword := a })
      fun _ => rfl
  | exact hm hk bad =>
    exact not_runs_of_once hm hk bad.refused Fields.exact (fun t a => { t with exact := a })
      fun _ => rfl
  | patterns hm hk bad =>
    exact not_runs_of_once hm hk bad.refused Fields.patterns (fun t a => { t with patterns := a })
      fun _ => rfl

theorem Defect.refused (bad : Defect ms) (h : ∀ m ∈ ms, IsValue m.item.value) (g : Gap) :
    ∃ cause, Yields value (objectText g ms) (.error cause) := by
  obtain ⟨o, ho⟩ := exists_runs_member h
  cases o with
  | error cause => exact ⟨cause, yields_value ho g⟩
  | ok f => exact absurd ho (bad.not_runs f)

end Defects

/-! ### Documents -/

/-- No document with the object holds settings, be it of its own or in a manifest. -/
structure Rejected (g : Gap) (ms : List Member) : Prop where
  plain : ∀ document,
    (∃ before after : Gap, document.toList = before.chars ++ (objectText g ms ++ after.chars)) →
      ∃ e, ofJson document = .error e
  /-- Other members of the manifest may be any, and the settings may be at any place. -/
  manifest : ∀ document ms' m,
    (∃ before g' after : Gap,
      document.toList = before.chars ++ (objectText g' ms' ++ after.chars)) →
    (∀ m' ∈ ms', IsValue m'.item.value) → m ∈ ms' → m.key.Spells manifestKey →
    m.item.value = objectText g ms →
      (∃ e, ofManifest document = .error e) ∧ ∃ e, Builder.ofManifest document = .error e

/-- Settings with one bad part are rejected whole. -/
theorem rejected_of_defect {ms : List Member} (bad : Defect ms)
    (h : ∀ m ∈ ms, IsValue m.item.value) (g : Gap) : Rejected g ms where
  plain document text := by
    obtain ⟨cause, refused⟩ := bad.refused h g
    obtain ⟨left, same⟩ := exists_read refused text
    exact ⟨_, same⟩
  manifest document ms' m text values hm hk carried := by
    obtain ⟨cause, refused⟩ := bad.refused h g
    have filled : objectText g ms ≠ "null".toList := by
      intro e
      exact absurd (List.cons.inj e).1 (by decide)
    have optional := yields_optionalValue (.object g h) filled refused
    rw [← carried] at optional
    have error : ∃ e, ofManifest document = .error e := by
      obtain ⟨o, ho⟩ := exists_runs_manifestMember values
      cases o with
      | error cause =>
        obtain ⟨before, g', after, text⟩ := text
        obtain ⟨left, same⟩ := exists_read (yields_manifestValue ho g') ⟨before, after, text⟩
        exact ⟨_, same⟩
      | ok found =>
        refine absurd ho (not_runs_of_refused hm fun key hk' t => ?_)
        obtain rfl := hk.unique hk'
        exact exists_yieldsBehind_once_error manifestKey t ⟨cause, optional⟩
    obtain ⟨e, he⟩ := error
    refine ⟨⟨e, he⟩, e, ?_⟩
    rw [Builder.ofManifest, he]
    rfl

/-- Of two sources one is null. -/
theorem rejected_null_source :
    ∃ g ms, objectText g ms = ("\x7b\"varType\":\"let\"," ++
        "\"replacementLookup\":\x7b\"a\":\"A\",\"b\":null\x7d\x7d").toList ∧
      Defect ms ∧ (∀ m ∈ ms, IsValue m.item.value) ∧ Rejected g ms := by
  let keyword : Member := .ofStrings "varType" "let"
  let a : Member := .ofStrings "a" "A"
  let b : Member := .tight (.ofString "b") "null".toList
  let exact : Member := .tight (.ofString "replacementLookup") (objectText .tight [a, b])
  have sources : ∀ m ∈ [a, b], IsValue m.item.value :=
    List.forall_mem_cons.2 ⟨.string _, List.forall_mem_singleton.2 (.word (by decide))⟩
  have values : ∀ m ∈ [keyword, exact], IsValue m.item.value :=
    List.forall_mem_cons.2 ⟨.string _, List.forall_mem_singleton.2 (.object .tight sources)⟩
  have null : BadExact (objectText .tight [a, b]) := by
    refine .value .tight sources (m := b) (by simp) fun l e => ?_
    exact absurd (List.cons.inj e).1 (by decide)
  have bad : Defect [keyword, exact] :=
    .exact (m := exact) (by simp) (Literal.ofString_spells _) null
  exact ⟨.tight, _, by decide +kernel, bad, values, rejected_of_defect bad values .tight⟩

end GlobalImports.Settings
