import GlobalImports.Proofs.Json.Members
import GlobalImports.Settings.Document
import Mathlib.Data.List.Forall2

/-! Settings as documents. Whatever the order of the members, the white space and the spelling of
the strings, and whatever other members stand between, reading a document that renders settings
gives these settings back. -/

namespace GlobalImports.Settings

open Json

/-! ### Renderings -/

/-- The text of a string in some spelling. -/
def StringText (s : String) (v : List Char) : Prop := ∃ l : Literal, l.Spells s ∧ v = l.text

theorem stringText_ofString (s : String) : StringText s (Literal.ofString s).text :=
  ⟨_, Literal.ofString_spells s, rfl⟩

/-- What a member of a pattern's object is there for. -/
inductive PatternPart where
  | pattern (s : String)
  | source (s : String)
  | other

namespace PatternPart

def pattern? : PatternPart → Option String
  | pattern s => some s
  | _ => none

def source? : PatternPart → Option String
  | source s => some s
  | _ => none

inductive Says : PatternPart → Member → Prop where
  | pattern {s : String} {m : Member} (key : m.key.Spells "pattern")
      (value : StringText s m.item.value) : Says (.pattern s) m
  | source {s : String} {m : Member} (key : m.key.Spells "source")
      (value : StringText s m.item.value) : Says (.source s) m
  | other {key : String} {m : Member} (spelled : m.key.Spells key)
      (unknown : key ∉ ["pattern", "source"]) (value : IsValue m.item.value) : Says .other m

end PatternPart

/-- The text of an object with one pattern and one source. -/
def PatternText (p : PatternSetting) (v : List Char) : Prop :=
  ∃ (g : Gap) (ms : List Member) (parts : List PatternPart),
    v = objectText g ms ∧ List.Forall₂ PatternPart.Says parts ms ∧
      parts.filterMap PatternPart.pattern? = [p.pattern] ∧
      parts.filterMap PatternPart.source? = [p.source]

/-- The text of an object with the entries in their order, keys repeated as they are. -/
def EntriesText (entries : List (String × String)) (v : List Char) : Prop :=
  ∃ (g : Gap) (ms : List Member), v = objectText g ms ∧
    List.Forall₂ (fun e m => m.key.Spells e.1 ∧ StringText e.2 m.item.value) entries ms

/-- The text of a list with the patterns in their order. -/
def PatternsText (ps : List PatternSetting) (v : List Char) : Prop :=
  ∃ (g : Gap) (es : List Item),
    v = listText g es ∧ List.Forall₂ (fun e p => PatternText p e.value) es ps

/-- What a member of the settings' object is there for. -/
inductive Part where
  | keyword (k : Keyword)
  | exact (entries : List (String × String))
  | patterns (ps : List PatternSetting)
  | other

namespace Part

def keyword? : Part → Option Keyword
  | keyword k => some k
  | _ => none

/-- The sources that the entries leave: of equal keys, the last one counts. -/
def sources? : Part → Option ExactSources
  | exact entries => some ((∅ : ExactSources).insertMany entries)
  | _ => none

def patterns? : Part → Option (List PatternSetting)
  | patterns ps => some ps
  | _ => none

inductive Says : Part → Member → Prop where
  | keyword {k : Keyword} {m : Member} (key : m.key.Spells "varType")
      (value : StringText k.text m.item.value) : Says (.keyword k) m
  | exact {entries : List (String × String)} {m : Member} (key : m.key.Spells "replacementLookup")
      (value : EntriesText entries m.item.value) : Says (.exact entries) m
  | patterns {ps : List PatternSetting} {m : Member} (key : m.key.Spells "replacementRegExps")
      (value : PatternsText ps m.item.value) : Says (.patterns ps) m
  | other {key : String} {m : Member} (spelled : m.key.Spells key)
      (unknown : key ∉ ["varType", "replacementLookup", "replacementRegExps"])
      (value : IsValue m.item.value) : Says .other m

end Part

/-- Given once, or not at all and then the default. -/
def Given {α : Type} (found : List α) (default a : α) : Prop :=
  found = [a] ∨ found = [] ∧ a = default

/-- The document is an object whose members say what the settings are. -/
def Renders (s : Settings) (document : String) : Prop :=
  ∃ (before g after : Gap) (ms : List Member) (parts : List Part),
    document.toList = before.chars ++ (objectText g ms ++ after.chars) ∧
      List.Forall₂ Part.Says parts ms ∧
      Given (parts.filterMap Part.keyword?) .const s.keyword ∧
      Given (parts.filterMap Part.sources?) ∅ s.exact ∧
      Given (parts.filterMap Part.patterns?) [] s.patterns

/-! ### Values -/

section Values

variable {v : List Char}

theorem reads_string {s : String} (h : StringText s v) (expected : String) :
    Reads (string expected) v s := by
  obtain ⟨l, hl, rfl⟩ := h
  intro g rest _
  rw [string, bind_apply, peekValue_gap, Literal.text_append, peekValue_cons _ (by decide)]
  simp [stringRest_body hl]

theorem reads_keywordValue {k : Keyword} (h : StringText k.text v) : Reads keywordValue v k := by
  obtain ⟨l, hl, rfl⟩ := h
  intro g rest _
  rw [keywordValue, bind_apply, peekValue_gap, Literal.text_append, peekValue_cons _ (by decide)]
  simp [keywordName, keywordOf, stringRest_body hl, Keyword.ofText?_eq_some_iff.2 rfl]

theorem closeObject_cons (c : Char) (rest : List Char) :
    closeObject (c :: rest) = .ok ((), rest) := rfl

theorem gathers_entries {entries : List (String × String)} {ms : List Member}
    (h : List.Forall₂ (fun e m => m.key.Spells e.1 ∧ StringText e.2 m.item.value) entries ms)
    (sources : ExactSources) :
    Gathers exactMember sources ms (sources.insertMany entries) := by
  induction h generalizing sources with
  | nil => exact .nil sources
  | @cons e m entries ms he _ ih =>
    rw [Std.ExtTreeMap.insertMany_cons]
    have value := (reads_string he.2 "a string").memberValue
    exact .cons he.1 (value.map fun v => sources.insert e.1 v) (ih (sources.insert e.1 e.2))

theorem reads_exactValue {entries : List (String × String)} (h : EntriesText entries v) :
    Reads exactValue v ((∅ : ExactSources).insertMany entries) := by
  obtain ⟨g', ms, rfl, h⟩ := h
  intro g rest _
  rw [exactValue, bind_apply, peekValue_gap, objectText_append, peekValue_cons _ (by decide)]
  simp only [bind_ok, beq_self_eq_true, if_true, bind_apply, bump_apply, List.tail_cons,
    members_inner (gathers_entries h ∅), closeObject_cons, pure_apply]

theorem eq_none_of_append {α : Type} {o : Option α} {x : α} {xs : List α}
    (h : (o.toList ++ x :: xs).length ≤ 1) : o = none := by
  cases o with
  | none => rfl
  | some y => simp at h

/-! ### Patterns -/

/-- What is unknown is passed over. -/
theorem patternMember_other (f : PatternFields) {key : String}
    (h : key ∉ ["pattern", "source"]) :
    patternMember f key = (do memberValue skipValue; return f) := by
  simp only [List.mem_cons, List.not_mem_nil, or_false, not_or] at h
  rw [patternMember]
  · exact h.1
  · exact h.2

theorem gathers_patternMember {parts : List PatternPart} {ms : List Member} {f : PatternFields}
    {p : PatternSetting} (h : List.Forall₂ PatternPart.Says parts ms)
    (hp : f.pattern.toList ++ parts.filterMap PatternPart.pattern? = [p.pattern])
    (hs : f.source.toList ++ parts.filterMap PatternPart.source? = [p.source]) :
    Gathers patternMember f ms ⟨some p.pattern, some p.source⟩ := by
  induction h generalizing f with
  | nil =>
    rw [List.filterMap_nil, List.append_nil, Option.toList_eq_singleton_iff] at hp hs
    rw [← hp, ← hs]
    exact .nil f
  | @cons part m parts ms hm _ ih =>
    cases hm with
    | @pattern s _ key value =>
      have first : f.pattern = none := eq_none_of_append (Nat.le_of_eq (congrArg List.length hp))
      rw [first] at hp
      have read := ((reads_string value "a string").once "pattern" first).map
        fun a => { f with pattern := a }
      exact .cons key read (ih hp hs)
    | @source s _ key value =>
      have first : f.source = none := eq_none_of_append (Nat.le_of_eq (congrArg List.length hs))
      rw [first] at hs
      have read := ((reads_string value "a string").once "source" first).map
        fun a => { f with source := a }
      exact .cons key read (ih hp hs)
    | @other key m spelled unknown value =>
      have read := (reads_skipValue value).memberValue.map fun _ => f
      rw [← patternMember_other f unknown] at read
      exact .cons spelled read (ih hp hs)

theorem readsItem_pattern {p : PatternSetting} {e : Item} (h : PatternText p e.value) :
    ReadsItem patternValue e p := by
  obtain ⟨g', ms, parts, hv, hm, hp, hs⟩ := h
  refine ⟨⟨'{', _, by rw [hv, objectText], by decide, by decide⟩, ?_⟩
  intro g rest _
  have fields : Gathers patternMember {} ms ⟨some p.pattern, some p.source⟩ :=
    gathers_patternMember hm hp hs
  have complete : PatternFields.result ⟨some p.pattern, some p.source⟩ = .ok p := rfl
  rw [hv, patternValue, bind_apply, peekValue_gap, objectText_append,
    peekValue_cons _ (by decide)]
  simp only [bind_ok, bind_apply, bump_apply, List.tail_cons, members_inner fields, complete,
    closeObject_cons, pure_apply]

theorem reads_patternsValue {ps : List PatternSetting} (h : PatternsText ps v) :
    Reads patternsValue v ps := by
  obtain ⟨g', es, rfl, h⟩ := h
  intro g rest _
  have each : List.Forall₂ (ReadsItem patternValue) es ps :=
    h.imp fun e p hp => readsItem_pattern hp
  rw [patternsValue, bind_apply, peekValue_gap, listText_append, peekValue_cons _ (by decide)]
  simp only [bind_ok, beq_self_eq_true, if_true, bind_apply, bump_apply, List.tail_cons,
    elements_inner each, closeList_cons, pure_apply]

/-! ### Settings -/

/-- What is unknown is passed over. -/
theorem member_other (f : Fields) {key : String}
    (h : key ∉ ["varType", "replacementLookup", "replacementRegExps"]) :
    member f key = (do memberValue skipValue; return f) := by
  simp only [List.mem_cons, List.not_mem_nil, or_false, not_or] at h
  rw [member]
  · exact h.1
  · exact h.2.1
  · exact h.2.2

/-- The fields hold what the parts say, each at most once. -/
theorem exists_gathers_member {parts : List Part} {ms : List Member} {f : Fields}
    (h : List.Forall₂ Part.Says parts ms)
    (hk : (f.keyword.toList ++ parts.filterMap Part.keyword?).length ≤ 1)
    (he : (f.exact.toList ++ parts.filterMap Part.sources?).length ≤ 1)
    (hp : (f.patterns.toList ++ parts.filterMap Part.patterns?).length ≤ 1) :
    ∃ f', Gathers member f ms f' ∧
      f'.keyword.toList = f.keyword.toList ++ parts.filterMap Part.keyword? ∧
      f'.exact.toList = f.exact.toList ++ parts.filterMap Part.sources? ∧
      f'.patterns.toList = f.patterns.toList ++ parts.filterMap Part.patterns? := by
  induction h generalizing f with
  | nil => exact ⟨f, .nil f, by simp⟩
  | @cons part m parts ms hm _ ih =>
    cases hm with
    | @keyword k _ key value =>
      have first : f.keyword = none := eq_none_of_append hk
      rw [first] at hk ⊢
      have read := ((reads_keywordValue value).once "varType" first).map
        fun a => { f with keyword := a }
      obtain ⟨f', gathers, found⟩ := ih (f := { f with keyword := some k }) hk he hp
      exact ⟨f', .cons key read gathers, found⟩
    | @exact entries _ key value =>
      have first : f.exact = none := eq_none_of_append he
      rw [first] at he ⊢
      have read := ((reads_exactValue value).once "replacementLookup" first).map
        fun a => { f with exact := a }
      obtain ⟨f', gathers, found⟩ := ih (f := { f with exact := some _ }) hk he hp
      exact ⟨f', .cons key read gathers, found⟩
    | @patterns ps _ key value =>
      have first : f.patterns = none := eq_none_of_append hp
      rw [first] at hp ⊢
      have read := ((reads_patternsValue value).once "replacementRegExps" first).map
        fun a => { f with patterns := a }
      obtain ⟨f', gathers, found⟩ := ih (f := { f with patterns := some ps }) hk he hp
      exact ⟨f', .cons key read gathers, found⟩
    | @other key m spelled unknown value =>
      have read := (reads_skipValue value).memberValue.map fun _ => f
      rw [← member_other f unknown] at read
      obtain ⟨f', gathers, found⟩ := ih hk he hp
      exact ⟨f', .cons spelled read gathers, found⟩

theorem Given.length_le {α : Type} {found : List α} {default a : α} (h : Given found default a) :
    found.length ≤ 1 := by
  rcases h with rfl | ⟨rfl, -⟩
  · exact Nat.le_refl 1
  · exact Nat.zero_le 1

theorem Given.getD_eq {α : Type} {found : List α} {default a : α} (h : Given found default a)
    {o : Option α} (ho : o.toList = found) : o.getD default = a := by
  rcases h with rfl | ⟨rfl, rfl⟩
  · rw [Option.toList_eq_singleton_iff.1 ho]
    rfl
  · rw [Option.toList_eq_nil_iff.1 ho]
    rfl

theorem reads_value {f : Fields} {ms : List Member} (h : Gathers member {} ms f) (g : Gap) :
    Reads value (objectText g ms) f.settings := by
  intro g' rest _
  rw [value, bind_apply, peekValue_gap, objectText_append, peekValue_cons _ (by decide)]
  simp only [bind_ok, bind_apply, bump_apply, List.tail_cons, members_inner h, closeObject_cons,
    pure_apply]

end Values

/-- A document that renders settings is read as these settings. -/
theorem ofJson_of_renders {s : Settings} {document : String} (h : Renders s document) :
    ofJson document = .ok s := by
  obtain ⟨before, g, after, ms, parts, text, hm, hk, he, hp⟩ := h
  obtain ⟨f, gathers, keyword, exact, patterns⟩ :=
    exists_gathers_member (f := {}) hm hk.length_le he.length_le hp.length_le
  have settings : f.settings = s := by
    rw [Fields.settings, hk.getD_eq keyword, he.getD_eq exact, hp.getD_eq patterns]
  rw [ofJson, read, (reads_value gathers g).document before after text, settings]
  rfl

/-- Unknown members, an escape, a repeated key, and patterns whose members come in either order. -/
theorem ofJson_repeated_key :
    let s : Settings :=
      { keyword := .let_
        exact := (∅ : ExactSources).insert "m" "B"
        patterns := [⟨"^a", "X"⟩, ⟨"(", "$1"⟩] }
    let document := "\x7b\"x\": [\x7b\x7d], \"varType\":\"l\\u0065t\"," ++
      "\"replacementRegExps\":[\x7b\"source\":\"X\",\"pattern\":\"^a\"\x7d," ++
      "\x7b\"pattern\":\"(\",\"y\":null,\"source\":\"$1\"\x7d]," ++
      "\"replacementLookup\":\x7b\"m\":\"A\",\"m\":\"B\"\x7d\x7d"
    Renders s document ∧ ofJson document = .ok s := by
  intro s document
  let space : Gap := ⟨[' '], List.forall_mem_singleton.2 (by decide)⟩
  let e : CodeUnit := .ofNat 0x65
  let keyword : Literal := ⟨[.ofChar 'l', .unit e, .ofChar 't']⟩
  let nested := listText .tight [.tight (objectText .tight [])]
  let first : List Member := [.ofStrings "source" "X", .ofStrings "pattern" "^a"]
  let second : List Member :=
    [.ofStrings "pattern" "(", .tight (.ofString "y") "null".toList, .ofStrings "source" "$1"]
  let patterns := listText .tight ([first, second].map fun ms => .tight (objectText .tight ms))
  let entries : List Member := [.ofStrings "m" "A", .ofStrings "m" "B"]
  let ms : List Member :=
    [⟨.tight, .ofString "x", .tight, ⟨space, nested, .tight⟩⟩,
      ⟨space, .ofString "varType", .tight, .tight keyword.text⟩,
      .tight (.ofString "replacementRegExps") patterns,
      .tight (.ofString "replacementLookup") (objectText .tight entries)]
  have key := Literal.ofString_spells
  have unknown : IsValue nested :=
    .list .tight (List.forall_mem_singleton.2 (.object .tight (by simp)))
  have spelled : keyword.Spells Keyword.let_.text :=
    .raw _ (.unit (by decide) (.raw _ .nil))
  have sourceFirst : PatternText ⟨"^a", "X"⟩ (objectText .tight first) :=
    ⟨.tight, first, [.source "X", .pattern "^a"], rfl,
      .cons (.source (key _) (stringText_ofString _))
        (.cons (.pattern (key _) (stringText_ofString _)) .nil), rfl, rfl⟩
  have patternFirst : PatternText ⟨"(", "$1"⟩ (objectText .tight second) :=
    ⟨.tight, second, [.pattern "(", .other, .source "$1"], rfl,
      .cons (.pattern (key _) (stringText_ofString _))
        (.cons (.other (key _) (by decide) (.word (by decide)))
          (.cons (.source (key _) (stringText_ofString _)) .nil)), rfl, rfl⟩
  have listed : PatternsText s.patterns patterns :=
    ⟨.tight, _, rfl, .cons sourceFirst (.cons patternFirst .nil)⟩
  have given : EntriesText [("m", "A"), ("m", "B")] (objectText .tight entries) :=
    ⟨.tight, entries, rfl,
      .cons ⟨key _, stringText_ofString _⟩ (.cons ⟨key _, stringText_ofString _⟩ .nil)⟩
  have last : (∅ : ExactSources).insertMany [("m", "A"), ("m", "B")] = s.exact := by
    decide +kernel
  have renders : Renders s document := by
    refine ⟨.tight, .tight, .tight, ms,
      [.other, .keyword .let_, .patterns s.patterns, .exact [("m", "A"), ("m", "B")]],
      by decide +kernel, ?_, .inl rfl, .inl (by rw [← last]; rfl), .inl rfl⟩
    exact .cons (.other (key _) (by decide) unknown)
      (.cons (.keyword (key _) ⟨keyword, spelled, rfl⟩)
        (.cons (.patterns (key _) listed) (.cons (.exact (key _) given) .nil)))
  exact ⟨renders, ofJson_of_renders renders⟩

end GlobalImports.Settings
