import GlobalImports.Pattern
import Mathlib.Data.List.Nodup

/-! Names of groups. A name begins with a letter or an underscore, so none is a number, and no two
groups of a pattern have the same one. Every part of the reader keeps what is known of the names but
for the one that opens a group with a new name. -/

namespace GlobalImports.Pattern

variable {α β : Type} {Q : List (Nat × String) → Prop}

/-! ### What reading keeps -/

/-- Reading keeps what is known of the group names. -/
def Keeps (Q : List (Nat × String) → Prop) (r : Reader α) : Prop :=
  ∀ s a s', Q s.names → r s = .ok (a, s') → Q s'.names

theorem keeps_pure (a : α) : Keeps Q (pure a : Reader α) := by
  intro s b s' hs h
  cases h
  exact hs

theorem keeps_throw (fault : Fault) : Keeps Q (throw fault : Reader α) := by
  intro s a s' _ h
  cases h

theorem keeps_set {s : Cursor} (h : Q s.names) : Keeps Q (set s : Reader PUnit) := by
  intro t a s' _ hs
  cases hs
  exact h

theorem keeps_modify {f : Cursor → Cursor} (h : ∀ s, (f s).names = s.names) :
    Keeps Q (modify f : Reader PUnit) := by
  intro s a s' hs hr
  cases hr
  rw [h]
  exact hs

theorem Keeps.bind {x : Reader α} {f : α → Reader β} (hx : Keeps Q x) (hf : ∀ a, Keeps Q (f a)) :
    Keeps Q (x >>= f) := by
  intro s b s' hs h
  change (x s >>= fun p => f p.1 p.2) = _ at h
  cases hr : x s with
  | error fault => rw [hr] at h; cases h
  | ok p =>
    rw [hr] at h
    exact hf p.1 p.2 b s' (hx s p.1 p.2 hs hr) h

/-- The cursor shown has names of which the same is known. -/
theorem keeps_get {f : Cursor → Reader β} (h : ∀ s, Q s.names → Keeps Q (f s)) :
    Keeps Q (get >>= f) := by
  intro s b s' hs hr
  exact h s hs s b s' hs hr

theorem keeps_dite {c : Prop} [Decidable c] {f : c → Reader α} {g : ¬c → Reader α}
    (hf : ∀ h, Keeps Q (f h)) (hg : ∀ h, Keeps Q (g h)) : Keeps Q (dite c f g) := by
  split
  · exact hf _
  · exact hg _

theorem keeps_forIn {γ : Type} (xs : List γ) {f : γ → β → Reader (ForInStep β)}
    (h : ∀ x b, Keeps Q (f x b)) (b : β) : Keeps Q (forIn xs b f) := by
  induction xs generalizing b with
  | nil => exact keeps_pure b
  | cons x xs ih =>
    rw [List.forIn_cons]
    refine (h x b).bind fun step => ?_
    cases step with
    | done b => exact keeps_pure b
    | yield b => exact ih b

/-! ### Characters -/

theorem keeps_peek : Keeps Q peek := keeps_get fun _ _ => keeps_pure _

theorem keeps_startsWith (text : String) : Keeps Q (startsWith text) :=
  keeps_get fun _ _ => keeps_pure _

theorem keeps_bump : Keeps Q bump := keeps_modify fun _ => rfl

theorem keeps_pass (text : String) : Keeps Q (pass text) := by
  unfold pass
  refine (keeps_startsWith text).bind fun found => ?_
  split
  · exact Keeps.bind (keeps_modify fun _ => rfl) fun _ => keeps_pure _
  · exact keeps_pure _

theorem keeps_skipBlanks : Keeps Q skipBlanks := by
  refine keeps_modify fun s => ?_
  split <;> rfl

theorem keeps_advance : Keeps Q advance := keeps_bump.bind fun _ => keeps_skipBlanks

theorem keeps_peekOr (fault : Fault) : Keeps Q (peekOr fault) := by
  unfold peekOr
  refine keeps_peek.bind fun c => ?_
  split
  · exact keeps_pure _
  · exact keeps_throw _

theorem keeps_takeWhile (p : Char → Bool) : Keeps Q (takeWhile p) := by
  have each (n : Nat) : Keeps Q (takeWhile.go p n) := by
    induction n with
    | zero => exact keeps_pure _
    | succ n ih =>
      unfold takeWhile.go
      refine keeps_peek.bind fun c => ?_
      split
      · split
        · exact keeps_advance.bind fun _ => ih.bind fun _ => keeps_pure _
        · exact keeps_pure _
      · exact keeps_pure _
  exact keeps_get fun s _ => each s.rest.length

theorem keeps_allowed (r : Unicode.Ranges) : Keeps Q (allowed r) := by
  unfold allowed
  refine keeps_get fun s _ => ?_
  split
  · exact keeps_pure _
  · exact keeps_throw _

/-! ### Escapes -/

theorem keeps_charOfHex (digits : List Char) : Keeps Q (charOfHex digits) := by
  unfold charOfHex
  cases Text.ofHex? digits with
  | none => exact keeps_throw _
  | some n => exact keeps_dite (fun _ => keeps_pure _) fun _ => keeps_throw _

theorem keeps_hexDigits (n : Nat) : Keeps Q (hexDigits n) := by
  induction n with
  | zero => exact keeps_pure _
  | succ n ih =>
    unfold hexDigits
    refine (keeps_peekOr _).bind fun c => ?_
    split
    · exact keeps_advance.bind fun _ => ih.bind fun _ => keeps_pure _
    · exact keeps_throw _

theorem keeps_codePoint (width : Nat) : Keeps Q (codePoint width) := by
  unfold codePoint
  refine keeps_advance.bind fun _ => (keeps_peekOr _).bind fun c => ?_
  split
  · refine keeps_advance.bind fun _ => (keeps_takeWhile _).bind fun digits =>
      (keeps_peekOr _).bind fun c => ?_
    split
    · exact keeps_throw _
    · exact keeps_advance.bind fun _ => keeps_charOfHex digits
  · refine (keeps_hexDigits width).bind fun digits => (keeps_charOfHex digits).bind fun c =>
      keeps_get fun s _ => ?_
    split
    · exact keeps_throw _
    · exact keeps_pure _

/-- A check that fails or goes on. -/
theorem keeps_check {c : Prop} [Decidable c] (fault : Fault) {rest : PUnit → Reader β}
    (h : Keeps Q (rest ())) : Keeps Q (if c then throw fault >>= rest else rest ()) := by
  split
  · exact (keeps_throw fault).bind fun _ => h
  · exact h

theorem keeps_propertyOf (negated : Bool) (set : Option Unicode.Ranges) :
    Keeps Q (propertyOf negated set) := by
  refine keeps_get fun s _ => keeps_check _ ?_
  cases set with
  | some r => exact keeps_get fun _ _ => keeps_pure _
  | none => exact keeps_throw _

theorem keeps_property (negated : Bool) : Keeps Q (property negated) := by
  have found := keeps_propertyOf (Q := Q) negated
  unfold property
  refine keeps_advance.bind fun _ => (keeps_peekOr _).bind fun c => ?_
  split
  · exact keeps_advance.bind fun _ => (keeps_takeWhile _).bind fun name =>
      ((keeps_peekOr _).bind fun _ => keeps_pure _).bind fun _ => keeps_bump.bind fun _ =>
        (keeps_pure _).bind found
  · split
    · exact (keeps_throw _).bind found
    · exact keeps_advance.bind fun _ => (keeps_pure _).bind found

theorem keeps_specialBoundary (word : Regex.CharSet) : Keeps Q (specialBoundary word) := by
  unfold specialBoundary
  refine keeps_peek.bind fun c => ?_
  split
  · exact keeps_pure _
  · refine keeps_get fun before hb => keeps_advance.bind fun _ => (keeps_peekOr _).bind fun c => ?_
    split
    · exact (keeps_set hb).bind fun _ => keeps_pure _
    · refine (keeps_takeWhile _).bind fun name => (keeps_peekOr _).bind fun c =>
        keeps_check _ (keeps_bump.bind fun _ => ?_)
      split
      · exact keeps_pure _
      · exact keeps_pure _
      · exact keeps_pure _
      · exact keeps_pure _
      · exact keeps_throw _

theorem keeps_escape : Keeps Q escape := by
  unfold escape
  refine keeps_bump.bind fun _ => (keeps_peekOr _).bind fun c => keeps_get fun s _ => ?_
  dsimp only
  split
  case h_1 | h_2 | h_3 => exact (keeps_codePoint _).bind fun _ => keeps_pure _
  case h_4 | h_5 => exact (keeps_property _).bind fun _ => keeps_pure _
  case h_6 | h_7 | h_8 | h_9 | h_10 | h_11 =>
    exact keeps_bump.bind fun _ => (keeps_allowed _).bind fun _ => keeps_pure _
  case h_20 => exact keeps_bump.bind fun _ => (keeps_specialBoundary _).bind fun _ => keeps_pure _
  case h_24 =>
    split
    · exact keeps_throw _
    · split
      · exact keeps_bump.bind fun _ => keeps_pure _
      · exact keeps_throw _
  all_goals exact keeps_bump.bind fun _ => keeps_pure _

/-! ### Classes -/

theorem keeps_setOp? : Keeps Q setOp? := by
  unfold setOp?
  refine (keeps_forIn _ (fun op _ => (keeps_pass _).bind fun found => ?_) _).bind fun step => ?_
  · split
    · exact keeps_pure _
    · exact keeps_pure _
  · dsimp only
    split
    · exact keeps_pure _
    · exact keeps_pure _

theorem keeps_asciiClass : Keeps Q asciiClass := by
  unfold asciiClass
  refine keeps_get fun s _ => keeps_get fun t _ => ?_
  dsimp only
  split
  · split
    · split
      · exact Keeps.bind (keeps_modify fun _ => rfl) fun _ =>
          (keeps_allowed _).bind fun _ => keeps_pure _
      · exact keeps_pure _
    · exact keeps_pure _
  · exact keeps_pure _

theorem keeps_setMember : Keeps Q setMember := by
  unfold setMember
  refine (keeps_peekOr _).bind fun c => ?_
  split
  · exact keeps_escape
  · exact keeps_bump.bind fun _ => keeps_pure _

theorem keeps_toChar (e : Escape) : Keeps Q e.toChar := by
  cases e with
  | char c =>
    refine keeps_get fun s _ => ?_
    split
    · exact keeps_pure _
    · exact keeps_throw _
  | set s => exact keeps_throw _
  | look l => exact keeps_throw _

theorem keeps_toSet (e : Escape) : Keeps Q e.toSet := by
  cases e with
  | char c => exact (keeps_toChar _).bind fun _ => keeps_pure _
  | set s => exact keeps_pure _
  | look l => exact keeps_throw _

theorem keeps_peekBehind : Keeps Q peekBehind := by
  unfold peekBehind
  refine keeps_get fun s _ => ?_
  dsimp only
  split
  · split
    · exact keeps_pure _
    · exact keeps_pure _
  · exact keeps_pure _

theorem keeps_setRange : Keeps Q setRange := by
  unfold setRange
  refine keeps_setMember.bind fun first => keeps_skipBlanks.bind fun _ =>
    (keeps_peekOr _).bind fun c => keeps_peekBehind.bind fun behind => ?_
  split
  · exact keeps_toSet first
  · refine keeps_advance.bind fun _ => ((keeps_peekOr _).bind fun _ => keeps_pure _).bind fun _ =>
      keeps_setMember.bind fun last => (keeps_toChar first).bind fun lo =>
        (keeps_toChar last).bind fun hi => ?_
    split
    · exact keeps_pure _
    · exact keeps_throw _

theorem keeps_discard {r : Reader α} (h : Keeps Q r) : Keeps Q (discard r) :=
  h.bind fun _ => keeps_pure _

theorem keeps_leadingMembers : Keeps Q leadingMembers := by
  unfold leadingMembers
  refine keeps_get fun s _ => (keeps_forIn _ (fun _ items => ?_) _).bind fun items =>
    (keeps_peekOr _).bind fun c => ?_
  · refine (keeps_peekOr _).bind fun c => ?_
    split
    · exact keeps_advance.bind fun _ => keeps_pure _
    · exact keeps_pure _
  · dsimp only
    split
    · exact keeps_advance.bind fun _ => (keeps_discard (keeps_peekOr _)).bind fun _ => keeps_pure _
    · exact (keeps_discard (keeps_peekOr _)).bind fun _ => keeps_pure _

theorem keeps_negation : Keeps Q negation := by
  unfold negation
  refine (keeps_peekOr _).bind fun c => ?_
  split
  · exact keeps_advance.bind fun _ => keeps_pure _
  · exact keeps_pure _

/-- Classes nest, so what is known of one goes with what is known of its members. -/
theorem keeps_bracket_items (fuel : Nat) :
    Keeps Q (bracket fuel) ∧ ∀ left items, Keeps Q (bracketItems fuel left items) := by
  induction fuel with
  | zero => exact ⟨keeps_throw _, fun _ _ => keeps_throw _⟩
  | succ fuel ih =>
    obtain ⟨whole, items⟩ := ih
    constructor
    · unfold bracket
      exact keeps_advance.bind fun _ => keeps_negation.bind fun _ =>
        keeps_leadingMembers.bind fun _ => (items _ _).bind fun _ => keeps_get fun _ _ =>
          (keeps_allowed _).bind fun _ => keeps_pure _
    · intro left members
      unfold bracketItems
      refine keeps_skipBlanks.bind fun _ => (keeps_peekOr _).bind fun c => ?_
      split
      · exact keeps_bump.bind fun _ => keeps_get fun _ _ => keeps_pure _
      · refine keeps_asciiClass.bind fun set => ?_
        split
        · exact items _ _
        · exact whole.bind fun _ => items _ _
      · refine keeps_setOp?.bind fun op => ?_
        split
        · exact keeps_get fun _ _ => items _ _
        · exact keeps_setRange.bind fun _ => items _ _

/-! ### Forms -/

theorem keeps_setForm (r : Unicode.Ranges) : Keeps Q (setForm r) :=
  keeps_get fun _ _ => keeps_pure _

theorem keeps_charForm (c : Char) : Keeps Q (charForm c) :=
  keeps_get fun _ _ => keeps_setForm _

theorem keeps_primitive (c : Char) : Keeps Q (primitive c) := by
  unfold primitive
  refine keeps_get fun s _ => ?_
  dsimp only
  split
  · refine keeps_escape.bind fun e => ?_
    split
    · exact keeps_charForm _
    · exact keeps_setForm _
    · exact keeps_pure _
  · exact keeps_bump.bind fun _ => (keeps_allowed _).bind fun _ => keeps_setForm _
  · exact keeps_bump.bind fun _ => keeps_pure _
  · exact keeps_bump.bind fun _ => keeps_pure _
  · exact keeps_bump.bind fun _ => keeps_charForm _

theorem keeps_repeated (items : List Item) (min : Nat) (max : Option Nat) (greedy : Bool) :
    Keeps Q (repeated items min max greedy) := by
  unfold repeated
  split
  · exact keeps_throw _
  · exact keeps_check _ (keeps_get fun _ _ => keeps_pure _)

theorem keeps_readGreedy : Keeps Q readGreedy := (keeps_pass _).bind fun _ => keeps_pure _

theorem keeps_count : Keeps Q count := by
  unfold count
  refine Keeps.bind (keeps_modify fun _ => rfl) fun _ => (keeps_takeWhile _).bind fun digits =>
    Keeps.bind (keeps_modify fun _ => rfl) fun _ => keeps_skipBlanks.bind fun _ => ?_
  split
  · exact keeps_pure _
  · dsimp only
    split
    · exact keeps_pure _
    · exact keeps_throw _

theorem keeps_someCount : Keeps Q someCount := by
  unfold someCount
  refine keeps_count.bind fun n => ?_
  split
  · exact keeps_pure _
  · exact keeps_throw _

theorem keeps_upperBound (min : Nat) : Keeps Q (upperBound min) := by
  unfold upperBound
  refine (keeps_peekOr _).bind fun c => ?_
  split
  · refine keeps_advance.bind fun _ => (keeps_peekOr _).bind fun c => ?_
    split
    · exact keeps_pure _
    · exact keeps_someCount.bind fun _ => keeps_pure _
  · exact keeps_pure _

theorem keeps_bounds : Keeps Q bounds := by
  unfold bounds
  exact keeps_advance.bind fun _ => (keeps_discard (keeps_peekOr _)).bind fun _ =>
    keeps_someCount.bind fun min => (keeps_upperBound min).bind fun _ =>
      (keeps_peekOr _).bind fun _ => keeps_check _ (keeps_advance.bind fun _ =>
        keeps_check _ (keeps_pure _))

/-! ### Group names -/

/-- A letter or an underscore, and then any characters that names may have. -/
def IsGroupName (name : String) : Prop :=
  ∃ c cs, name.toList = c :: cs ∧ (c == '_' || Unicode.Latest.isAlphabetic c) = true ∧
    cs.all isNameChar = true

/-- No name is given twice. -/
structure WellNamed (names : List (Nat × String)) : Prop where
  distinct : (names.map Prod.snd).Nodup
  spelled : ∀ e ∈ names, IsGroupName e.2

theorem get_bind (f : Cursor → Reader β) (s : Cursor) : (get >>= f) s = f s s := rfl

/-- A check has been passed by whatever comes behind it. -/
theorem of_check {c : Prop} [Decidable c] {fault : Fault} {rest : PUnit → Reader β} {s s' : Cursor}
    {b : β} (h : (if c then throw fault >>= rest else rest ()) s = .ok (b, s')) :
    ¬c ∧ rest () s = .ok (b, s') := by
  split at h
  case isTrue => cases h
  case isFalse hc => exact ⟨hc, h⟩

/-- The name that has been read is a new one. -/
theorem groupName_eq_ok {s s' : Cursor} {name : String} (h : groupName s = .ok (name, s')) :
    s'.names = s.names ∧ IsGroupName name ∧ ∀ e ∈ s.names, e.2 ≠ name := by
  rw [groupName, get_bind] at h
  generalize s.rest.span (· != '>') = parts at h
  obtain ⟨_ | ⟨c, cs⟩, _ | ⟨d, rest⟩⟩ := parts
  case cons.cons =>
    obtain ⟨valid, h⟩ := of_check h
    obtain ⟨new, h⟩ := of_check h
    cases h
    simp only [Bool.or_eq_true, Bool.not_eq_true', not_or, Bool.not_eq_false] at valid
    refine ⟨rfl, ⟨c, cs, String.toList_ofList, by simpa using valid.1, valid.2⟩, ?_⟩
    intro e he same
    exact new (List.any_eq_true.2 ⟨e, he, beq_iff_eq.2 same⟩)
  all_goals cases h

theorem WellNamed.cons {names : List (Nat × String)} (h : WellNamed names) {name : String}
    (spelled : IsGroupName name) (new : ∀ e ∈ names, e.2 ≠ name) (index : Nat) :
    WellNamed ((index, name) :: names) where
  distinct := by
    rw [List.map_cons, List.nodup_cons]
    refine ⟨fun hm => ?_, h.distinct⟩
    obtain ⟨e, he, same⟩ := List.mem_map.1 hm
    exact new e he same
  spelled := List.forall_mem_cons.2 ⟨spelled, h.spelled⟩

theorem keeps_openCapture : Keeps Q openCapture := by
  intro s a s' hs h
  cases h
  exact hs

/-- A group that is named has a new name. -/
theorem keeps_nameGroup (index : Nat) : Keeps WellNamed (nameGroup index) := by
  intro s a s' hs h
  change (groupName s >>= fun p => _) = _ at h
  cases hn : groupName s with
  | error fault => rw [hn] at h; cases h
  | ok p =>
    obtain ⟨names, spelled, new⟩ := groupName_eq_ok hn
    rw [hn] at h
    cases h
    rw [← names] at hs new
    exact hs.cons spelled new index

theorem keeps_applyFlags (flags : Flags) (letters : List Char) :
    Keeps Q (applyFlags flags letters : Reader Flags) := by
  intro s a s' hs h
  change (applyFlags flags letters >>= fun f => pure (f, s)) = _ at h
  cases hf : applyFlags flags letters with
  | error fault => rw [hf] at h; cases h
  | ok f => rw [hf] at h; cases h; exact hs

theorem keeps_groupHead : Keeps WellNamed groupHead := by
  unfold groupHead
  refine keeps_advance.bind fun _ =>
    (keeps_forIn _ (fun text _ => (keeps_startsWith text).bind fun _ => ?_) _).bind fun _ =>
      (keeps_pass _).bind fun _ => (keeps_pass _).bind fun _ => ?_
  · exact keeps_check _ (keeps_pure _)
  · split
    · exact keeps_openCapture.bind fun index => (keeps_nameGroup index).bind fun _ => keeps_pure _
    · refine (keeps_pass _).bind fun _ => ?_
      split
      · refine keeps_get fun s hs => (keeps_applyFlags _ _).bind fun flags => ?_
        split
        · exact Keeps.bind (keeps_set hs) fun _ => keeps_pure _
        · exact keeps_check _ (Keeps.bind (keeps_set hs) fun _ => keeps_pure _)
        · exact keeps_throw _
      · exact keeps_openCapture.bind fun _ => keeps_pure _

theorem keeps_closeGroup (outer : Flags) : Keeps Q (closeGroup outer) :=
  (keeps_discard (keeps_peekOr _)).bind fun _ => keeps_bump.bind fun _ => keeps_modify fun _ => rfl

theorem keeps_alternatives (fuel : Nat) (branches items : List Item) :
    Keeps WellNamed (alternatives fuel branches items) := by
  induction fuel generalizing branches items with
  | zero => exact keeps_throw _
  | succ fuel ih =>
    unfold alternatives
    refine keeps_skipBlanks.bind fun _ => keeps_peek.bind fun c => ?_
    split
    case h_1 | h_2 => exact keeps_pure _
    case h_3 => exact keeps_bump.bind fun _ => ih _ _
    case h_4 =>
      refine keeps_get fun s _ => keeps_groupHead.bind fun head => ?_
      split
      · exact ih _ _
      · exact (ih _ _).bind fun _ => (keeps_closeGroup _).bind fun _ => ih _ _
      · exact (ih _ _).bind fun _ => (keeps_closeGroup _).bind fun _ => ih _ _
    case h_5 =>
      exact (keeps_bracket_items _).1.bind fun _ => (keeps_setForm _).bind fun _ => ih _ _
    case h_6 | h_7 | h_8 =>
      exact keeps_bump.bind fun _ => keeps_readGreedy.bind fun _ =>
        (keeps_repeated _ _ _ _).bind fun _ => ih _ _
    case h_9 =>
      exact keeps_bounds.bind fun _ => keeps_readGreedy.bind fun _ =>
        (keeps_repeated _ _ _ _).bind fun _ => ih _ _
    case h_10 => exact (keeps_primitive _).bind fun _ => ih _ _

theorem keeps_whole : Keeps WellNamed whole := by
  unfold whole
  refine keeps_get fun s _ => (keeps_alternatives _ _ _).bind fun item => keeps_peek.bind fun c => ?_
  exact keeps_check _ (keeps_check _ (keeps_check _ (keeps_pure _)))

/-! ### Patterns -/

section Read

variable {text name : String} {p : Pattern} {i j : Nat}

/-- The named groups of a pattern are among those that were opened with a name. -/
theorem exists_wellNamed (h : read text = .ok p) :
    ∃ names, WellNamed names ∧
      ∀ i name, p.names[i]? = some (some name) → (i, name) ∈ names := by
  rw [read] at h
  cases hr : (whole.run { rest := text.toList } : Except _ _) with
  | error fault =>
    rw [hr] at h
    cases h
  | ok result =>
    rw [hr] at h
    obtain rfl := Except.ok.inj h
    have start : WellNamed ({ rest := text.toList } : Cursor).names := ⟨.nil, by simp⟩
    refine ⟨_, keeps_whole _ _ _ start hr, fun i name hn => ?_⟩
    simp only [List.getElem?_map, Option.map_eq_some_iff] at hn
    obtain ⟨k, hk, named⟩ := hn
    obtain rfl : k = i := by simpa using (List.getElem?_eq_some_iff.1 hk).2.symm
    split at named
    case isFalse => cases named
    case isTrue =>
      obtain ⟨l₁, l₂, split, -⟩ := List.lookup_eq_some_iff.1 named
      rw [split]
      simp

theorem isGroupName_of_read (h : read text = .ok p) (hi : p.names[i]? = some (some name)) :
    IsGroupName name := by
  obtain ⟨names, wellNamed, given⟩ := exists_wellNamed h
  exact wellNamed.spelled _ (given i name hi)

/-- No two groups of a pattern have the same name. -/
theorem eq_of_names (h : read text = .ok p) (hi : p.names[i]? = some (some name))
    (hj : p.names[j]? = some (some name)) : i = j := by
  obtain ⟨names, wellNamed, given⟩ := exists_wellNamed h
  have same := List.inj_on_of_nodup_map wellNamed.distinct (given i name hi) (given j name hj) rfl
  exact congrArg Prod.fst same

end Read

end GlobalImports.Pattern
