import GlobalImports.Proofs.Clause.Layout

/-! Reading a legal clause. The three sweeps find its namespace, its block with the renames spelled
anew, and its default binding, however it is laid out. -/

namespace GlobalImports.Clause

open Regex

/-! ### Renames in a block -/

section Rename

variable {v out : List Char}

theorem rewrites_char {c : Char} (hc : CharSet.nameChar.contains c = false)
    (h : renamedBinding.Rewrites renameFound v out) :
    renamedBinding.Rewrites renameFound (c :: v) (c :: out) := by
  show renamedBinding.Rewrites renameFound ([c] ++ v) ([c] ++ out)
  refine h.append_of_inert (Text.inert_of_head ?_)
  intro d hd cs hb
  rw [List.mem_singleton.1 hd] at hb
  rw [nameChar_of_renamedBinding_begins hb] at hc
  cases hc

theorem rewrites_gap (g : Gap) (h : renamedBinding.Rewrites renameFound v out) :
    renamedBinding.Rewrites renameFound (g.chars ++ v) (g.chars ++ out) := by
  refine h.append_of_inert (Text.inert_of_head ?_)
  intro c hc cs hb
  have := not_nameChar_of_isBlank (g.blank c hc)
  rw [nameChar_of_renamedBinding_begins hb] at this
  cases this

/-- An element is spelled anew if a comma or a brace comes next. -/
theorem rewrites_element (e : Element) (g : Gap) {c : Char} (hc : c = ',' ∨ c = '}')
    (h : renamedBinding.Rewrites renameFound (g.chars ++ c :: v) out) :
    renamedBinding.Rewrites renameFound (e.text ++ (g.chars ++ c :: v)) (e.target ++ out) := by
  have hn : CharSet.nameChar.contains c = false := by
    rcases hc with rfl | rfl <;> decide
  cases e with
  | plain x =>
    refine h.append_of_inert (renamedBinding_inert g.blank hn ?_ ?_)
    · rcases hc with rfl | rfl <;> decide
    · rcases hc with rfl | rfl <;> decide
  | renamed x s₁ s₂ y =>
    exact h.hit (f := ⟨[], _, _, _⟩) (by simp [x.ne_nil]) fun before =>
      here?_renamedBinding x.toWord y.toWord s₁ s₂ before (not_nameChar_head g.blank hn)

theorem rewrites_items (is : List Item)
    (h : renamedBinding.Rewrites renameFound v out) :
    renamedBinding.Rewrites renameFound (is.flatMap (Item.spelled Element.text) ++ v)
      (is.flatMap (Item.spelled Element.target) ++ out) := by
  induction is with
  | nil => exact h
  | cons i is ih =>
    have after := rewrites_char (c := ',') (by decide) (rewrites_gap i.after ih)
    have all := rewrites_element i.element i.before (.inl rfl) (rewrites_gap i.before after)
    simpa only [List.flatMap_cons, Item.spelled, List.append_assoc, List.cons_append] using all

theorem rewrites_last (i : Option (Element × Gap))
    (h : renamedBinding.Rewrites renameFound ('}' :: v) ('}' :: out)) :
    renamedBinding.Rewrites renameFound (lastSpelled Element.text i ++ '}' :: v)
      (lastSpelled Element.target i ++ '}' :: out) := by
  cases i with
  | none => exact h
  | some i =>
    have all := rewrites_element i.1 i.2 (.inr rfl) (rewrites_gap i.2 h)
    simpa only [lastSpelled, List.append_assoc] using all

/-- Renames in a block become properties with a local name, and all else is kept. -/
theorem rename_block (b : Block) :
    rename (braces (b.inner Element.text)) = braces (b.inner Element.target) := by
  have stop := rewrites_char (c := '}') (by decide) (rewrites_nil renamedBinding renameFound)
  have all := rewrites_char (c := '{') (by decide)
    (rewrites_gap b.lead (rewrites_items b.items (rewrites_last b.last stop)))
  have whole := all.replaceAll_eq renamedBinding_productive fun _ => rfl
  rw [← rename] at whole
  simpa only [braces, Block.inner, List.append_assoc, List.cons_append,
    List.nil_append] using whole

end Rename

/-! ### Reading a clause -/

section Reading

variable {xs : List Char}

theorem namespacesIn_eq {text : List Char} {ts : List Token}
    (h : namespaceBinding.Reads text ts) :
    namespacesIn text = (ts.filterMap Token.hit?).filterMap (·.group? 1) := by
  rw [← h none, ← hits_eq _ namespaceBinding_productive, List.filterMap_map]
  rfl

theorem namedIn_eq {text : List Char} {ts : List Token} (h : namedBlock.Reads text ts) :
    namedIn text = (ts.filterMap Token.hit?).map fun f => rename f.text := by
  rw [← h none, ← hits_eq _ namedBlock_productive, List.map_map]
  rfl

theorem filterMap_hit?_map_char (cs : List Char) (ts : List Token) :
    (cs.map Token.char ++ ts).filterMap Token.hit? = ts.filterMap Token.hit? := by
  induction cs with
  | nil => rfl
  | cons c cs ih => exact ih

theorem namespaceBinding_inert {tail : List Char} (h : '*' ∉ xs) :
    Text.Inert namespaceBinding.Begins xs tail :=
  Text.inert_of_head fun _ hc _ hb => h (namespaceBinding_begins hb ▸ hc)

theorem namedBlock_inert {tail : List Char} (h : '{' ∉ xs) :
    Text.Inert namedBlock.Begins xs tail :=
  Text.inert_of_head fun _ hc _ hb => h (namedBlock_begins hb ▸ hc)

theorem namespacesIn_eq_nil (h : '*' ∉ xs) : namespacesIn xs = [] := by
  have reads := (reads_nil namespaceBinding).append_of_inert (namespaceBinding_inert h)
  rw [List.append_nil] at reads
  rw [namespacesIn_eq reads, filterMap_hit?_map_char]
  rfl

theorem namedIn_eq_nil (h : '{' ∉ xs) : namedIn xs = [] := by
  have reads := (reads_nil namedBlock).append_of_inert (namedBlock_inert h)
  rw [List.append_nil] at reads
  rw [namedIn_eq reads, filterMap_hit?_map_char]
  rfl

theorem not_mem_braces {inner : List Char} {c : Char} (h : c ∉ inner) (h₁ : c ≠ '{')
    (h₂ : c ≠ '}') : c ∉ braces inner := by
  simp [braces, h, h₁, h₂]

theorem namespacesIn_append (h : '*' ∉ xs) (b : Binding) :
    namespacesIn (xs ++ b.text) = b.namespaces := by
  cases b with
  | namespace_ s₁ s₂ x =>
    have hit := (reads_nil namespaceBinding).hit (f := ⟨[], asterisk s₁ s₂ ++ x.chars, [], _⟩)
      (by simp [asterisk]) fun before =>
        here?_namespaceBinding s₁ s₂ x.toWord before (by simp)
    rw [List.append_nil] at hit
    rw [Binding.text, namespacesIn_eq (hit.append_of_inert (namespaceBinding_inert h)),
      filterMap_hit?_map_char]
    rfl
  | named b =>
    apply namespacesIn_eq_nil
    rw [List.mem_append, not_or]
    exact ⟨h, not_mem_braces (b.not_mem_inner (by decide)) (by decide) (by decide)⟩

theorem namedIn_append (h : '{' ∉ xs) (b : Binding) : namedIn (xs ++ b.text) = b.blocks := by
  cases b with
  | namespace_ s₁ s₂ x =>
    apply namedIn_eq_nil
    rw [List.mem_append, not_or]
    exact ⟨h, not_mem_namespace (w := x.toWord) (by decide) (by decide)⟩
  | named b =>
    have hit := (reads_nil namedBlock).hit (f := ⟨[], braces (b.inner Element.text), [], _⟩)
      (by simp [braces]) fun before => here?_namedBlock before (b.not_mem_inner (by decide))
    rw [List.append_nil] at hit
    rw [Binding.text, namedIn_eq (hit.append_of_inert (namedBlock_inert h)),
      filterMap_hit?_map_char]
    exact congrArg (fun d => [d]) (rename_block b)

/-! ### What is left over -/

variable {v out : List Char}

theorem leaves_one {c : Char} (hc : c = ',' ∨ Text.isBlank c = true)
    (h : nonDefault.Rewrites (fun _ => []) v out) :
    nonDefault.Rewrites (fun _ => []) (c :: v) out :=
  h.hit (f := ⟨[], [c], v, _⟩) (by simp) fun before => here?_nonDefault_one before hc

theorem leaves_gap (g : Gap) (h : nonDefault.Rewrites (fun _ => []) v out) :
    nonDefault.Rewrites (fun _ => []) (g.chars ++ v) out := by
  obtain ⟨chars, blank⟩ := g
  induction chars with
  | nil => exact h
  | cons c cs ih =>
    exact leaves_one (.inr (blank c List.mem_cons_self))
      (ih fun d hd => blank d (List.mem_cons_of_mem c hd))

theorem leaves_name (x : Name) (h : nonDefault.Rewrites (fun _ => []) v out) :
    nonDefault.Rewrites (fun _ => []) (x.chars ++ v) (x.chars ++ out) := by
  refine h.append_of_inert (Text.inert_of_head ?_)
  intro c hc cs hb
  have name := x.name c hc
  rw [nonDefault_begins hb] at name
  cases name

theorem leaves_binding (b : Binding) : nonDefault.Rewrites (fun _ => []) b.text [] := by
  have none := rewrites_nil nonDefault fun _ => []
  have all : nonDefault.Rewrites (fun _ => []) (b.text ++ []) [] := by
    cases b with
    | namespace_ s₁ s₂ x =>
      exact none.hit (f := ⟨[], asterisk s₁ s₂ ++ x.chars, [], _⟩) (by simp [asterisk])
        fun before => here?_nonDefault_namespace s₁ s₂ x.toWord before (by simp)
    | named b =>
      exact none.hit (f := ⟨[], braces (b.inner Element.text), [], _⟩) (by simp [braces])
        fun before => here?_nonDefault_block before (b.not_mem_inner (by decide))
  rwa [List.append_nil] at all

end Reading

/-- The default binding, as text. -/
def Layout.defaultName : Layout → List Char
  | default x => x.chars
  | other _ => []
  | both x _ _ _ => x.chars

theorem leftover_layout (l : Layout) : leftover l.text = l.defaultName := by
  have all : nonDefault.Rewrites (fun _ => []) l.text l.defaultName := by
    cases l with
    | default x =>
      have name := leaves_name x (rewrites_nil nonDefault fun _ => [])
      rwa [List.append_nil] at name
    | other b => exact leaves_binding b
    | both x g₁ g₂ b =>
      have name := leaves_name x
        (leaves_gap g₁ (leaves_one (.inl rfl) (leaves_gap g₂ (leaves_binding b))))
      rw [List.append_nil] at name
      simpa [Layout.text, Layout.defaultName] using name
  exact all.replaceAll_eq nonDefault_productive fun _ => rfl

/-! ### The clause -/

theorem Binding.head_text (b : Binding) : b.text.head? = some '*' ∨ b.text.head? = some '{' := by
  cases b with
  | namespace_ s₁ s₂ x => exact .inl rfl
  | named b => exact .inr rfl

theorem Binding.text_ne_nil (b : Binding) : b.text ≠ [] := by
  intro h
  have head := b.head_text
  rw [h] at head
  simp at head

theorem Binding.not_isBlank_last (b : Binding) :
    ∀ c ∈ b.text.getLast?, Text.isBlank c = false := by
  intro c hc
  cases b with
  | namespace_ s₁ s₂ x =>
    rw [text, List.getLast?_append_of_ne_nil _ x.ne_nil] at hc
    exact x.not_isBlank c (List.mem_of_getLast? hc)
  | named b =>
    rw [text, braces, List.getLast?_concat] at hc
    rw [← Option.some.inj hc]
    decide

/-- A clause without the white space around it. -/
theorem trim_layout (l : Layout) : Text.trim l.text = l.text := by
  have name (x : Name) (v : List Char) := x.not_isBlank_head v
  refine Text.trim_eq_self ?_ ?_
  · cases l with
    | default x => simpa [Layout.text] using name x []
    | other b =>
      intro c hc
      rcases b.head_text with h | h
      · rw [Layout.text, h] at hc
        rw [← Option.some.inj hc]
        decide
      · rw [Layout.text, h] at hc
        rw [← Option.some.inj hc]
        decide
    | both x g₁ g₂ b =>
      rw [Layout.text, List.append_assoc, List.append_assoc]
      exact name x _
  · cases l with
    | default x => exact fun c hc => x.not_isBlank c (List.mem_of_getLast? hc)
    | other b => exact b.not_isBlank_last
    | both x g₁ g₂ b =>
      rw [Layout.text, List.getLast?_append_of_ne_nil _ b.text_ne_nil]
      exact b.not_isBlank_last

theorem Layout.not_mem_lead (l : Layout) {c : Char} (h : plainChar.contains c = false) :
    c ∉ l.lead := by
  intro hc
  rw [l.lead_chars c hc] at h
  cases h

theorem namespacesIn_layout (l : Layout) :
    (namespacesIn l.text).map String.ofList = l.clause.namespaces := by
  have star : '*' ∉ l.lead := l.not_mem_lead (by decide)
  cases l with
  | default x => exact congrArg _ (namespacesIn_eq_nil star)
  | other b => exact congrArg _ (namespacesIn_append star b)
  | both x g₁ g₂ b => exact congrArg _ (namespacesIn_append star b)

theorem namedIn_layout (l : Layout) : (namedIn l.text).map String.ofList = l.clause.named := by
  have brace : '{' ∉ l.lead := l.not_mem_lead (by decide)
  cases l with
  | default x => exact congrArg _ (namedIn_eq_nil brace)
  | other b => exact congrArg _ (namedIn_append brace b)
  | both x g₁ g₂ b => exact congrArg _ (namedIn_append brace b)

theorem ofInner_layout (l : Layout) : ofInner l.text = l.clause := by
  have default : (if l.defaultName.isEmpty then none else some (String.ofList l.defaultName)) =
      l.clause.default := by
    cases l with
    | default x => exact if_neg (by simpa [Layout.defaultName] using x.ne_nil)
    | other b => rfl
    | both x g₁ g₂ b => exact if_neg (by simpa [Layout.defaultName] using x.ne_nil)
  rw [ofInner, namespacesIn_layout, namedIn_layout, leftover_layout, default]

/-- A legal clause reads as its bindings. -/
theorem parse?_layout {w w' : List Char} (hw : ∀ c ∈ w, Text.isBlank c = true)
    (hw' : ∀ c ∈ w', Text.isBlank c = true) (l : Layout) :
    parse? (String.ofList (w ++ l.text ++ w')) = some l.clause := by
  have inner : Text.trim (String.ofList (w ++ l.text ++ w')).toList = l.text := by
    rw [String.toList_ofList, Text.trim_append_right hw', Text.trim_append_left hw, trim_layout]
  rw [parse?_eq_some_iff, inner, leftover_layout, ofInner_layout]
  refine ⟨?_, ?_, rfl⟩
  · cases l with
    | default x => simp [Layout.defaultName, identifier_isMatch x]
    | other b => rfl
    | both x g₁ g₂ b => simp [Layout.defaultName, identifier_isMatch x]
  · cases l with
    | default x => rfl
    | other b => cases b <;> rfl
    | both x g₁ g₂ b => cases b <;> rfl

end GlobalImports.Clause
