import GlobalImports.Proofs.Pattern.Names
import GlobalImports.Proofs.Template.References

/-! Templates written by rule: every dollar sign of a text is doubled and every reference stands in
braces. Expansion gives back the texts and puts the captures between them. A doubled dollar sign and
a closed brace are read in full before anything behind them is looked at, so no text runs into a
reference, and what has been captured is not read again. -/

namespace GlobalImports.Template

/-- The text with every dollar sign doubled. -/
def escaped (text : String) : List Char :=
  text.toList.flatMap fun c => if c = '$' then ['$', '$'] else [c]

/-- A reference to a group of a pattern, by its number or by its name. -/
inductive GroupRef (p : Pattern) where
  | number (i : UInt64) (h : i.toNat ≤ p.regex.groupCount)
  | name (i : Nat) (name : String) (h : p.names[i]? = some (some name))

namespace GroupRef

variable {p : Pattern}

/-- The number of the group. -/
def index : GroupRef p → Nat
  | .number i _ => i.toNat
  | .name i _ _ => i

/-- A number in decimal, or the name. -/
def spelling : GroupRef p → List Char
  | .number i _ => Nat.toDigits 10 i.toNat
  | .name _ s _ => s.toList

def braced (g : GroupRef p) : List Char := ['$', '{'] ++ g.spelling ++ ['}']

end GroupRef

variable {p : Pattern}

/-- The template for a text and then references, with a text behind each. -/
def written (first : String) (rest : List (GroupRef p × String)) : String :=
  String.ofList (escaped first ++ rest.flatMap fun e => e.1.braced ++ escaped e.2)

/-- What such a template is meant to say: the texts, and the captures where the references are. -/
def meant (captures : Captures) (first : String) (rest : List (GroupRef p × String)) : String :=
  first ++ String.join (rest.map fun e => (captures.get? e.1.index).getD "" ++ e.2)

/-! ### Parts -/

section Parts

variable {r : List Char}

theorem parts_escaped_append (text : String) :
    parts (escaped text ++ r) = text.toList.map .literal ++ parts r := by
  unfold escaped
  induction text.toList with
  | nil => rfl
  | cons c cs ih =>
    rw [List.flatMap_cons, List.append_assoc, List.map_cons, List.cons_append, ← ih]
    by_cases h : c = '$'
    · subst h
      exact parts.eq_2 _
    · rw [if_neg h]
      exact parts.eq_5 c _ (fun _ h' => absurd h' h) (fun _ h' => absurd h' h) h

theorem parts_braced_append {name : List Char} (h : '}' ∉ name) :
    parts (['$', '{'] ++ name ++ ['}'] ++ r) = .reference name :: parts r := by
  have text : ['$', '{'] ++ name ++ ['}'] ++ r = '$' :: '{' :: (name ++ '}' :: r) := by simp
  rw [text, parts.eq_3, if_pos (by simp), Text.takeWhile_bne h, Text.dropWhile_bne h]
  rfl

end Parts

/-! ### References -/

theorem index?_toDigits {n : Nat} (h : n ≤ maxIndex) : index? (Nat.toDigits 10 n) = some n := by
  have digits : ∀ c ∈ Nat.toDigits 10 n, c.isDigit = true :=
    fun c hc => Nat.isDigit_of_mem_toDigits (by decide) (by decide) hc
  have value : Text.ofDecimal (Nat.toDigits 10 n) = n := by
    have step : (fun n c => n * 10 + Text.digitValue c) =
        fun n c => 10 * n + (c.toNat - '0'.toNat) := by
      funext n c
      rw [Nat.mul_comm]
      rfl
    rw [Text.ofDecimal, step]
    exact Nat.ofDigitChars_toDigits (by decide) (by decide)
  obtain ⟨d, ds, spelling⟩ := List.exists_cons_of_ne_nil (Nat.toDigits_ne_nil (n := n) (b := 10))
  rw [spelling] at digits value ⊢
  have unsigned : d ≠ '+' := by
    rintro rfl
    exact absurd (digits '+' List.mem_cons_self) (by decide)
  have all : (d :: ds).all Char.isDigit = true := List.all_eq_true.2 digits
  simp [index?, unsigned, all, value, h]

theorem not_isDigit_of_isAlphabetic {c : Char} (h : Unicode.Latest.isAlphabetic c = true) :
    c.isDigit = false := by
  rw [Bool.eq_false_iff]
  intro digit
  unfold Char.isDigit at digit
  unfold Unicode.Latest.isAlphabetic Char.isAlpha Char.isUpper Char.isLower at h
  simp only [Bool.and_eq_true, decide_eq_true_eq, ge_iff_le, UInt32.le_iff_toNat_le] at digit
  have value : c.toNat = c.val.toNat := rfl
  change 48 ≤ c.val.toNat ∧ c.val.toNat ≤ 57 at digit
  rw [if_pos (by omega)] at h
  simp [UInt32.le_iff_toNat_le] at h
  omega

/-- Names begin with no digit and hold no brace. -/
theorem index?_of_isGroupName {name : String} (h : Pattern.IsGroupName name) :
    index? name.toList = none ∧ '}' ∉ name.toList := by
  obtain ⟨c, cs, spelling, first, others⟩ := h
  rw [Bool.or_eq_true, beq_iff_eq] at first
  have digit : c.isDigit = false := by
    rcases first with rfl | letter
    · decide
    · exact not_isDigit_of_isAlphabetic letter
  have unsigned : c ≠ '+' := by
    rintro rfl
    exact absurd first (by decide)
  have unbraced : '}' ≠ c := by
    rintro rfl
    exact absurd first (by decide)
  rw [spelling]
  constructor
  · simp [index?, unsigned, digit]
  · intro brace
    rcases List.mem_cons.1 brace with same | later
    · exact unbraced same
    · exact absurd (List.all_eq_true.1 others _ later) (by decide)

namespace GroupRef

variable {pattern : String} {captures : Captures}

theorem brace_notMem_spelling (h : Pattern.read pattern = .ok p) (g : GroupRef p) :
    '}' ∉ g.spelling := by
  cases g with
  | number i _ =>
    intro brace
    exact absurd (Nat.isDigit_of_mem_toDigits (by decide) (by decide) brace) (by decide)
  | name i name hi => exact (index?_of_isGroupName (Pattern.isGroupName_of_read h hi)).2

/-- The name or the number is that of one group alone. -/
theorem denotes_spelling (h : Pattern.read pattern = .ok p) (g : GroupRef p) :
    Denotes p g.spelling g.index := by
  cases g with
  | number i hi => exact ⟨hi, .inl (index?_toDigits (Nat.le_of_lt_succ i.toNat_lt))⟩
  | name i name hi =>
    have unnumbered := (index?_of_isGroupName (Pattern.isGroupName_of_read h hi)).1
    have count := groupCount_of_read h
    have less := (List.getElem?_eq_some_iff.1 hi).1
    rw [Pattern.groupCount] at count
    rw [count] at less
    refine ⟨Nat.le_of_lt_succ less, .inr ⟨unnumbered, ?_⟩⟩
    rw [index, spelling, String.ofList_toList]
    exact hi

theorem lookup?_spelling (h : Pattern.read pattern = .ok p) {specifier : String}
    (hc : p.captures? specifier = some captures) (g : GroupRef p) :
    lookup? captures g.spelling = captures.get? g.index := by
  unfold lookup?
  cases g with
  | number i _ =>
    rw [spelling, index?_toDigits (Nat.le_of_lt_succ i.toNat_lt)]
    rfl
  | name i name hi =>
    obtain ⟨less, named⟩ := List.getElem?_eq_some_iff.1 hi
    have first : p.names.idxOf? (some name) = some i := by
      refine List.idxOf?_eq_some_iff.2 ⟨less, named, fun j before same => ?_⟩
      have again : p.names[j]? = some (some name) :=
        List.getElem?_eq_some_iff.2 ⟨Nat.lt_trans before less, same⟩
      exact absurd (Pattern.eq_of_names h again hi) (Nat.ne_of_lt before)
    rw [spelling, (index?_of_isGroupName (Pattern.isGroupName_of_read h hi)).1,
      String.ofList_toList]
    show captures.named? name = _
    rw [Captures.named?, (captures?_eq_some hc).1, first]
    rfl

end GroupRef

/-! ### Templates -/

/-- What becomes of the templates of a pattern that are written by rule. -/
structure Faithful (pattern : String) (p : Pattern) : Prop where
  /-- With no other mapping, the source of a specifier is what the template is meant to say, -/
  source : ∀ first rest steps specifier captures,
    Builder.entriesOf steps = [] →
    Builder.patternsOf steps = [(pattern, .template (written (p := p) first rest))] →
    p.captures? specifier = some captures →
      (Builder.ofSteps steps).build.source? specifier =
        (some (meant captures first rest)).filter (· ≠ "")
  /-- and there is nothing to warn about. -/
  unwarned : ∀ first rest steps,
    Builder.patternsOf steps = [(pattern, .template (written (p := p) first rest))] →
      (Builder.ofSteps steps).warnings = []
  /-- A text on its own stands for itself. -/
  literal : ∀ text steps specifier captures, text ≠ "" →
    Builder.entriesOf steps = [] →
    Builder.patternsOf steps = [(pattern, .template (String.ofList (escaped text)))] →
    p.captures? specifier = some captures →
      (Builder.ofSteps steps).build.source? specifier = some text

section Faithful

variable {pattern : String} {first : String} {rest : List (GroupRef p × String)}

theorem parts_written (h : Pattern.read pattern = .ok p) :
    parts (written first rest).toList = first.toList.map .literal ++
      rest.flatMap fun e => .reference e.1.spelling :: e.2.toList.map .literal := by
  rw [written, String.toList_ofList, parts_escaped_append]
  congr 1
  induction rest with
  | nil => exact parts.eq_1
  | cons e rest ih =>
    rw [List.flatMap_cons, List.append_assoc, GroupRef.braced,
      parts_braced_append (e.1.brace_notMem_spelling h), parts_escaped_append, ih]
    rfl

theorem expand_literals (captures : Captures) (text : List Char) :
    (text.map Part.literal).flatMap (Part.expand captures) = text := by
  rw [List.flatMap_map]
  exact List.flatMap_singleton' text

theorem expand_written (h : Pattern.read pattern = .ok p) {specifier : String}
    {captures : Captures} (hc : p.captures? specifier = some captures) :
    expand (written first rest) captures = meant captures first rest := by
  rw [expand, parts_written h, List.flatMap_append, expand_literals, ← String.toList_inj,
    String.toList_ofList, meant, String.toList_append]
  congr 1
  induction rest with
  | nil => rfl
  | cons e rest ih =>
    rw [List.flatMap_cons, List.flatMap_append, ih, List.flatMap_cons, expand_literals,
      List.map_cons, String.join_cons, String.toList_append, String.toList_append, Part.expand,
      e.1.lookup?_spelling h hc]
    cases captures.get? e.1.index <;> rfl

theorem expanded_written (h : Pattern.read pattern = .ok p) :
    expanded (written first rest) = rest.map fun e => e.1.spelling := by
  have none (text : List Char) : (text.map Part.literal).filterMap Part.reference? = [] := by
    simp [Part.reference?]
  rw [expanded, parts_written h, List.filterMap_append, none, List.nil_append]
  induction rest with
  | nil => rfl
  | cons e rest ih =>
    rw [List.flatMap_cons, List.filterMap_append, ih, List.filterMap_cons, none]
    rfl

theorem warningsFor_written (h : Pattern.read pattern = .ok p) :
    Builder.warningsFor (pattern, .template (written first rest)) = [] := by
  have known : dangling p (written first rest) = [] := by
    rw [dangling, expanded_written h, List.filter_eq_nil_iff]
    intro name hn
    obtain ⟨e, -, rfl⟩ := List.mem_map.1 hn
    simpa using ⟨_, e.1.denotes_spelling h⟩
  rw [warningsFor_eq _ h, known]
  rfl

theorem source?_written (h : Pattern.read pattern = .ok p) {steps : List Builder.Step}
    {specifier : String} {captures : Captures} (exact : Builder.entriesOf steps = [])
    (only : Builder.patternsOf steps = [(pattern, .template (written first rest))])
    (hc : p.captures? specifier = some captures) :
    (Builder.ofSteps steps).build.source? specifier =
      (some (meant captures first rest)).filter (· ≠ "") := by
  have unsaid : ∀ source, Builder.IsLast steps specifier source → source = "" := by
    rintro source ⟨earlier, later, split, -⟩
    simp [exact] at split
  have applies : Builder.IsFirst steps specifier
      (pattern, .template (written first rest)) captures :=
    ⟨⟨[], [], only, by simp⟩, p, h, hc⟩
  rw [Builder.source?_of_no_last unsaid,
    (Builder.patternSource?_eq_some_iff steps).2 ⟨_, _, applies, rfl⟩, Resolver.resolve,
    expand_written h hc]

/-- Templates that are written by rule say what they are meant to. -/
theorem faithful_of_read (h : Pattern.read pattern = .ok p) : Faithful pattern p where
  source _ _ _ _ _ exact only hc := source?_written h exact only hc
  unwarned first rest steps only := by
    rw [Builder.ofSteps_eq, Builder.warnings, only, List.flatMap_singleton,
      warningsFor_written h]
  literal text steps specifier captures filled exact only hc := by
    have alone : String.ofList (escaped text) = written (p := p) text [] := by
      rw [written, List.flatMap_nil, List.append_nil]
    rw [alone] at only
    rw [source?_written h exact only hc]
    simp [meant, filled]

end Faithful

theorem faithful_captured_dollar :
    ∃ p, Pattern.read "/(?<rest>[^/]+)|(b)" = .ok p ∧ Faithful "/(?<rest>[^/]+)|(b)" p ∧
      (Builder.ofSteps [.template "/(?<rest>[^/]+)|(b)" "$$${rest}$$${2}1"]).build.source? "/$1" =
        some "$$1$1" := by
  have read : Pattern.read "/(?<rest>[^/]+)|(b)" =
      .ok ⟨.alt (.seq (.one (.range '/' '/'))
          (.group 1 (.many (.one (.table ⟨#[(0, 46), (48, 1114111)]⟩)) 1 none true)))
        (.group 2 (.one (.range 'b' 'b'))), [none, some "rest", none]⟩ := by
    decide +kernel
  exact ⟨_, read, faithful_of_read read, by decide +kernel⟩

end GlobalImports.Template
