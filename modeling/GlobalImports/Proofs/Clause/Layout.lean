import GlobalImports.Proofs.Clause.Match

/-! Legal clauses with their layout. A clause binds a default, or a namespace or a block of names,
or first the one and then the other. White space may stand between all tokens, and names may be
spelled like keywords. Reading a clause gives back exactly its bindings. -/

namespace GlobalImports.Clause

open Regex

/-! ### Clauses as they are laid out -/

/-- White space, or nothing. -/
structure Gap where
  chars : List Char
  blank : ∀ c ∈ chars, Text.isBlank c = true

/-- A name in a block, under a local name or its own. -/
inductive Element where
  | plain (name : Name)
  | renamed (name : Name) (before after : Space) (local_ : Name)

/-- An element and the comma behind it. -/
structure Item where
  element : Element
  before : Gap
  after : Gap

/-- Names in braces, each with a comma behind it but the last, which need not have one. -/
structure Block where
  lead : Gap
  items : List Item
  last : Option (Element × Gap)

/-- Bindings other than a default. -/
inductive Binding where
  | namespace_ (before after : Space) (name : Name)
  | named (block : Block)

inductive Layout where
  | default (name : Name)
  | other (binding : Binding)
  | both (name : Name) (before after : Gap) (binding : Binding)

/-! ### Text and bindings -/

def Element.text : Element → List Char
  | plain x => x.chars
  | renamed x s₁ s₂ y => x.chars ++ between s₁ s₂ ++ y.chars

/-- The element as a property of a pattern. -/
def Element.target : Element → List Char
  | plain x => x.chars
  | renamed x _ _ y => x.chars ++ [':', ' '] ++ y.chars

section Spelling

variable (spell : Element → List Char)

def Item.spelled (i : Item) : List Char :=
  spell i.element ++ (i.before.chars ++ ',' :: i.after.chars)

/-- What is behind the last comma of a block. -/
def lastSpelled : Option (Element × Gap) → List Char
  | none => []
  | some (e, g) => spell e ++ g.chars

/-- What is between the braces, the elements spelled in either way. -/
def Block.inner (b : Block) : List Char :=
  b.lead.chars ++ (b.items.flatMap (Item.spelled spell) ++ lastSpelled spell b.last)

end Spelling

def Binding.text : Binding → List Char
  | namespace_ s₁ s₂ x => asterisk s₁ s₂ ++ x.chars
  | named b => braces (b.inner Element.text)

/-- What is declared for the binding. -/
def Binding.target : Binding → List Char
  | namespace_ _ _ x => x.chars
  | named b => braces (b.inner Element.target)

def Layout.text : Layout → List Char
  | default x => x.chars
  | other b => b.text
  | both x g₁ g₂ b => x.chars ++ g₁.chars ++ ',' :: g₂.chars ++ b.text

/-- A default is the source's own property of that name if there is one, else the source. -/
def defaultDeclaration (k : Keyword) (source : String) (x : Name) : String :=
  k.text ++ " " ++ String.ofList x.chars ++ " = " ++ source ++
    " && Object.prototype.hasOwnProperty.call(" ++ source ++ ", 'default') ? " ++
    source ++ "['default'] : " ++ source

/-- The declarations of exactly the bindings of the clause. -/
def Layout.declarations (k : Keyword) (source : String) : Layout → String
  | default x => defaultDeclaration k source x
  | other b => k.text ++ " " ++ String.ofList b.target ++ " = " ++ source
  | both x _ _ b =>
    k.text ++ " " ++ String.ofList b.target ++ " = " ++ source ++ ";\n" ++
      defaultDeclaration k source x

def Binding.namespaces : Binding → List (List Char)
  | namespace_ _ _ x => [x.chars]
  | named _ => []

def Binding.blocks : Binding → List (List Char)
  | namespace_ _ _ _ => []
  | b@(named _) => [b.target]

def Binding.clause (b : Binding) : Clause :=
  ⟨b.namespaces.map String.ofList, b.blocks.map String.ofList, none⟩

/-- The bindings of the clause. -/
def Layout.clause : Layout → Clause
  | default x => ⟨[], [], some (String.ofList x.chars)⟩
  | other b => b.clause
  | both x _ _ b => { b.clause with default := some (String.ofList x.chars) }

theorem Layout.declarations_clause (l : Layout) (k : Keyword) (source : String) :
    l.clause.declarations k source = l.declarations k source := by
  have value (x : Name) : k.text ++ " " ++ String.ofList x.chars ++ " = " ++ defaultOf source =
      defaultDeclaration k source x := by
    simp only [defaultOf, defaultDeclaration, String.append_assoc]
  cases l with
  | default x => exact value x
  | other b => cases b <;> rfl
  | both x g₁ g₂ b =>
    rw [Layout.declarations, ← value x]
    cases b <;> exact String.intercalate_cons_cons

/-! ### Characters of layouts -/

/-- What stands in braces, or before another binding. -/
def plainChar : CharSet := .union .nameChar (.union (.only ',') .blank)

theorem plainChar_of_nameChar {c : Char} (h : CharSet.nameChar.contains c = true) :
    plainChar.contains c = true := by
  simp [plainChar, h]

theorem plainChar_of_isBlank {c : Char} (h : Text.isBlank c = true) :
    plainChar.contains c = true := by
  simp [plainChar, CharSet.contains, h]

theorem plainChar_of_mem_as {c : Char} (h : c ∈ "as".toList) : plainChar.contains c = true := by
  have h : c ∈ ['a', 's'] := h
  simp only [List.mem_cons, List.not_mem_nil, or_false] at h
  rcases h with rfl | rfl <;> decide

/-- Behind its asterisk, a namespace binding is plain. -/
theorem not_mem_between {s₁ s₂ : Space} {w : Word} {c : Char} (hc : plainChar.contains c = false) :
    c ∉ between s₁ s₂ ++ w.chars := by
  intro h
  have plain : plainChar.contains c = true := by
    simp only [between, List.append_assoc, List.mem_append] at h
    rcases h with h | h | h | h
    · exact plainChar_of_isBlank (s₁.blank c h)
    · exact plainChar_of_mem_as h
    · exact plainChar_of_isBlank (s₂.blank c h)
    · exact plainChar_of_nameChar (w.name c h)
  rw [plain] at hc
  cases hc

theorem not_mem_namespace {s₁ s₂ : Space} {w : Word} {c : Char} (hs : c ≠ '*')
    (hc : plainChar.contains c = false) : c ∉ asterisk s₁ s₂ ++ w.chars :=
  List.not_mem_cons_of_ne_of_not_mem hs (not_mem_between hc)

theorem Element.text_chars (e : Element) : ∀ c ∈ e.text, plainChar.contains c = true := by
  intro c hc
  cases e with
  | plain x => exact plainChar_of_nameChar (x.name c hc)
  | renamed x s₁ s₂ y =>
    simp only [text, between, List.mem_append] at hc
    rcases hc with (hc | (hc | hc) | hc) | hc
    · exact plainChar_of_nameChar (x.name c hc)
    · exact plainChar_of_isBlank (s₁.blank c hc)
    · exact plainChar_of_mem_as hc
    · exact plainChar_of_isBlank (s₂.blank c hc)
    · exact plainChar_of_nameChar (y.name c hc)

theorem Item.spelled_chars (i : Item) :
    ∀ c ∈ i.spelled Element.text, plainChar.contains c = true := by
  intro c hc
  simp only [spelled, List.mem_append, List.mem_cons] at hc
  rcases hc with hc | hc | hc | hc
  · exact i.element.text_chars c hc
  · exact plainChar_of_isBlank (i.before.blank c hc)
  · rw [hc]
    decide
  · exact plainChar_of_isBlank (i.after.blank c hc)

theorem Block.inner_chars (b : Block) :
    ∀ c ∈ b.inner Element.text, plainChar.contains c = true := by
  intro c hc
  rcases List.mem_append.1 hc with hc | hc
  · exact plainChar_of_isBlank (b.lead.blank c hc)
  · rcases List.mem_append.1 hc with hc | hc
    · obtain ⟨i, -, hc⟩ := List.mem_flatMap.1 hc
      exact i.spelled_chars c hc
    · cases hl : b.last with
      | none => rw [hl] at hc; cases hc
      | some i =>
        rw [hl] at hc
        rcases List.mem_append.1 hc with hc | hc
        · exact i.1.text_chars c hc
        · exact plainChar_of_isBlank (i.2.blank c hc)

theorem Block.not_mem_inner (b : Block) {c : Char} (h : plainChar.contains c = false) :
    c ∉ b.inner Element.text := by
  intro hc
  rw [b.inner_chars c hc] at h
  cases h

/-- What comes before the second binding of a clause. -/
def Layout.lead : Layout → List Char
  | default x => x.chars
  | other _ => []
  | both x g₁ g₂ _ => x.chars ++ g₁.chars ++ ',' :: g₂.chars

theorem Layout.lead_chars (l : Layout) : ∀ c ∈ l.lead, plainChar.contains c = true := by
  intro c hc
  cases l with
  | default x => exact plainChar_of_nameChar (x.name c hc)
  | other b => cases hc
  | both x g₁ g₂ b =>
    simp only [lead, List.mem_append, List.mem_cons] at hc
    rcases hc with (hc | hc) | hc | hc
    · exact plainChar_of_nameChar (x.name c hc)
    · exact plainChar_of_isBlank (g₁.blank c hc)
    · rw [hc]
      decide
    · exact plainChar_of_isBlank (g₂.blank c hc)

end GlobalImports.Clause
