import GlobalImports.Regex.Search
import Mathlib.Data.List.Basic

/-! What an expression can match at a place: all ways through it, most preferred first. Rounds of a
repetition are followed one inside the other and nothing is remembered, so this is what a matcher
that backtracks would find. An expression is productive if every repetition without end reads
something in each round; of such an expression there are no more rounds than characters left. -/

namespace GlobalImports.Regex

/-- How far a match has come: its place, the text still ahead, the groups passed, latest first. -/
structure State where
  index : Nat
  before : Option Char
  rest : List Char
  marks : List Mark

namespace State

def place (σ : State) : Place := ⟨σ.index, σ.before, σ.rest.head?⟩

/-- The state behind the character `c`, which `cs` follows. -/
def read (σ : State) (c : Char) (cs : List Char) : State :=
  { σ with index := σ.index + 1, before := some c, rest := cs }

def mark (σ : State) (group : Nat) (closing : Bool) : State :=
  { σ with marks := ⟨group, closing, σ.index⟩ :: σ.marks }

/-- The state behind the next character, if that is in the set. -/
def readOne (s : CharSet) (σ : State) : List State :=
  match σ.rest with
  | [] => []
  | c :: cs => if s.contains c then [σ.read c cs] else []

end State

/-- Going on comes before stopping if the repetition is greedy. -/
def inOrder {α : Type} (greedy : Bool) (more stop : List α) : List α :=
  if greedy then more ++ stop else stop ++ more

/-- At most so many rounds of `f`. -/
def atMost (f : State → List State) (greedy : Bool) : Nat → State → List State
  | 0, σ => [σ]
  | m + 1, σ => inOrder greedy ((f σ).flatMap (atMost f greedy m)) [σ]

/-- At least `min` and at most `max` rounds of `f`. -/
def roundsOf (f : State → List State) (greedy : Bool) : Nat → Option Nat → State → List State
  | n + 1, max, σ => (f σ).flatMap (roundsOf f greedy n (max.map (· - 1)))
  | 0, some m, σ => atMost f greedy m σ
  | 0, none, σ => atMost f greedy σ.rest.length σ

/-- The states that a match of the expression can end in, most preferred first. -/
def outcomes : Regex → State → List State
  | empty, σ => [σ]
  | one s, σ => σ.readOne s
  | look l, σ => if l.holds σ.before σ.rest.head? then [σ] else []
  | group g r, σ => (r.outcomes (σ.mark g false)).map (·.mark g true)
  | seq r s, σ => (r.outcomes σ).flatMap s.outcomes
  | alt r s, σ => r.outcomes σ ++ s.outcomes σ
  | many r n m g, σ => roundsOf r.outcomes g n m σ

/-- Every repetition without end reads something in each round. -/
def productive : Regex → Bool
  | empty | one _ | look _ => true
  | group _ r => r.productive
  | seq r s | alt r s => r.productive && s.productive
  | many r _ m _ => r.productive && (m.isSome || !r.nullable)

/-! ### Indices and marks do not steer a match -/

/-- A change of indices and earlier marks that keeps the text. -/
structure Relabels (φ : State → State) : Prop where
  before : ∀ σ, (φ σ).before = σ.before
  rest : ∀ σ, (φ σ).rest = σ.rest
  read : ∀ σ c cs, φ (σ.read c cs) = (φ σ).read c cs
  mark : ∀ σ g b, φ (σ.mark g b) = (φ σ).mark g b

section Relabels

variable {φ : State → State} {f : State → List State}

theorem inOrder_map {α β : Type} (h : α → β) (g : Bool) (more stop : List α) :
    inOrder g (more.map h) (stop.map h) = (inOrder g more stop).map h := by
  cases g <;> simp [inOrder]

theorem atMost_relabel (hf : ∀ σ, f (φ σ) = (f σ).map φ) (g : Bool) (m : Nat) (σ : State) :
    atMost f g m (φ σ) = (atMost f g m σ).map φ := by
  induction m generalizing σ with
  | zero => rfl
  | succ m ih =>
    have more : (f (φ σ)).flatMap (atMost f g m) = ((f σ).flatMap (atMost f g m)).map φ := by
      rw [hf, List.flatMap_map, List.map_flatMap]
      congr 1
      funext τ
      exact ih τ
    rw [atMost, more, atMost, ← inOrder_map, List.map_singleton]

theorem roundsOf_relabel (hφ : Relabels φ) (hf : ∀ σ, f (φ σ) = (f σ).map φ) (g : Bool) (n : Nat)
    (m : Option Nat) (σ : State) : roundsOf f g n m (φ σ) = (roundsOf f g n m σ).map φ := by
  induction n generalizing m σ with
  | zero =>
    cases m with
    | none => rw [roundsOf, roundsOf, hφ.rest, atMost_relabel hf]
    | some m => rw [roundsOf, roundsOf, atMost_relabel hf]
  | succ n ih =>
    rw [roundsOf, roundsOf, hf, List.flatMap_map, List.map_flatMap]
    congr 1
    funext τ
    exact ih _ τ

theorem outcomes_relabel (hφ : Relabels φ) (r : Regex) (σ : State) :
    r.outcomes (φ σ) = (r.outcomes σ).map φ := by
  induction r generalizing σ with
  | empty => rfl
  | one s =>
    simp only [outcomes, State.readOne, hφ.rest]
    cases σ.rest with
    | nil => rfl
    | cons c cs =>
      by_cases hc : s.contains c = true
      · simp [hc, hφ.read]
      · simp [hc]
  | look l =>
    simp only [outcomes, hφ.rest, hφ.before]
    split <;> rfl
  | group i r ih =>
    simp only [outcomes]
    rw [← hφ.mark, ih, List.map_map, List.map_map]
    congr 1
    funext τ
    exact (hφ.mark τ i true).symm
  | seq r s ihr ihs =>
    simp only [outcomes]
    rw [ihr, List.flatMap_map, List.map_flatMap]
    congr 1
    funext τ
    exact ihs τ
  | alt r s ihr ihs => simp only [outcomes, ihr, ihs, List.map_append]
  | many r n m g ih => exact roundsOf_relabel hφ (fun τ => ih τ) g n m σ

end Relabels

/-! ### A match goes on -/

/-- `τ` is `σ` some way on in the text. -/
structure Ahead (σ τ : State) : Prop where
  rest : ∃ u, σ.rest = u ++ τ.rest
  index : τ.index + τ.rest.length = σ.index + σ.rest.length

namespace Ahead

theorem refl (σ : State) : Ahead σ σ := ⟨⟨[], rfl⟩, rfl⟩

theorem trans {ρ σ τ : State} (h : Ahead ρ σ) (h' : Ahead σ τ) : Ahead ρ τ := by
  obtain ⟨u, hu⟩ := h.rest
  obtain ⟨v, hv⟩ := h'.rest
  refine ⟨⟨u ++ v, by rw [hu, hv, List.append_assoc]⟩, ?_⟩
  rw [h'.index, h.index]

theorem length_le {σ τ : State} (h : Ahead σ τ) : τ.rest.length ≤ σ.rest.length := by
  obtain ⟨u, hu⟩ := h.rest
  rw [hu, List.length_append]
  omega

theorem read {σ : State} {c : Char} {cs : List Char} (h : σ.rest = c :: cs) :
    Ahead σ (σ.read c cs) :=
  ⟨⟨[c], h⟩, by simp only [State.read, h, List.length_cons]; omega⟩

end Ahead

theorem mem_inOrder {α : Type} {g : Bool} {more stop : List α} {a : α} :
    a ∈ inOrder g more stop ↔ a ∈ more ∨ a ∈ stop := by
  cases g <;> simp [inOrder, or_comm]

section Ahead

variable {f : State → List State} {σ τ : State}

theorem mem_readOne {s : CharSet} :
    τ ∈ σ.readOne s ↔ ∃ c cs, σ.rest = c :: cs ∧ s.contains c = true ∧ τ = σ.read c cs := by
  unfold State.readOne
  cases σ.rest with
  | nil => simp
  | cons c cs =>
    dsimp only
    by_cases hc : s.contains c = true
    · rw [if_pos hc, List.mem_singleton]
      constructor
      · intro h
        exact ⟨c, cs, rfl, hc, h⟩
      · rintro ⟨_, _, h, -, hτ⟩
        obtain ⟨rfl, rfl⟩ := List.cons.inj h
        exact hτ
    · rw [if_neg hc]
      refine iff_of_false List.not_mem_nil ?_
      rintro ⟨_, _, h, hc', -⟩
      exact hc ((List.cons.inj h).1 ▸ hc')

theorem ahead_of_mem_atMost (hf : ∀ σ, ∀ τ ∈ f σ, Ahead σ τ) {g : Bool} {m : Nat}
    (h : τ ∈ atMost f g m σ) : Ahead σ τ := by
  induction m generalizing σ with
  | zero =>
    rw [List.mem_singleton.1 h]
    exact .refl σ
  | succ m ih =>
    rw [atMost, mem_inOrder] at h
    rcases h with h | h
    · obtain ⟨ρ, hρ, hτ⟩ := List.mem_flatMap.1 h
      exact (hf σ ρ hρ).trans (ih hτ)
    · rw [List.mem_singleton.1 h]
      exact .refl σ

theorem ahead_of_mem_roundsOf (hf : ∀ σ, ∀ τ ∈ f σ, Ahead σ τ) {g : Bool} {n : Nat}
    {m : Option Nat} (h : τ ∈ roundsOf f g n m σ) : Ahead σ τ := by
  induction n generalizing σ m with
  | zero =>
    cases m with
    | none => exact ahead_of_mem_atMost hf h
    | some m => exact ahead_of_mem_atMost hf h
  | succ n ih =>
    obtain ⟨ρ, hρ, hτ⟩ := List.mem_flatMap.1 h
    exact (hf σ ρ hρ).trans (ih hτ)

theorem ahead_of_mem_outcomes {r : Regex} (h : τ ∈ r.outcomes σ) : Ahead σ τ := by
  induction r generalizing σ τ with
  | empty =>
    rw [List.mem_singleton.1 h]
    exact .refl σ
  | one s =>
    obtain ⟨c, cs, hr, -, rfl⟩ := mem_readOne.1 h
    exact .read hr
  | look l =>
    simp only [outcomes] at h
    split at h
    · rw [List.mem_singleton.1 h]
      exact .refl σ
    · simp at h
  | group i r ih =>
    obtain ⟨ρ, hρ, rfl⟩ := List.mem_map.1 h
    have := ih hρ
    exact ⟨this.rest, this.index⟩
  | seq r s ihr ihs =>
    obtain ⟨ρ, hρ, hτ⟩ := List.mem_flatMap.1 h
    exact (ihr hρ).trans (ihs hτ)
  | alt r s ihr ihs =>
    rcases List.mem_append.1 h with h | h
    · exact ihr h
    · exact ihs h
  | many r n m g ih => exact ahead_of_mem_roundsOf (fun _ _ => ih) h

/-- An expression that cannot match without reading leaves less of the text. -/
theorem length_lt_of_mem_outcomes {r : Regex} (hr : r.nullable = false) (h : τ ∈ r.outcomes σ) :
    τ.rest.length < σ.rest.length := by
  induction r generalizing σ τ with
  | empty | look => simp [nullable] at hr
  | one s =>
    obtain ⟨c, cs, hr, -, rfl⟩ := mem_readOne.1 h
    simp [State.read, hr]
  | group i r ih =>
    obtain ⟨ρ, hρ, rfl⟩ := List.mem_map.1 h
    have := ih hr hρ
    exact this
  | seq r s ihr ihs =>
    obtain ⟨ρ, hρ, hτ⟩ := List.mem_flatMap.1 h
    have le := (ahead_of_mem_outcomes hρ).length_le
    have le' := (ahead_of_mem_outcomes hτ).length_le
    rw [nullable, Bool.and_eq_false_iff] at hr
    rcases hr with hr | hr
    · have := ihr hr hρ
      omega
    · have := ihs hr hτ
      omega
  | alt r s ihr ihs =>
    rw [nullable, Bool.or_eq_false_iff] at hr
    rcases List.mem_append.1 h with h | h
    · exact ihr hr.1 h
    · exact ihs hr.2 h
  | many r n m g ih =>
    rw [nullable, Bool.or_eq_false_iff] at hr
    cases n with
    | zero => simp at hr
    | succ n =>
      obtain ⟨ρ, hρ, hτ⟩ := List.mem_flatMap.1 h
      have := ih hr.2 hρ
      have := (ahead_of_mem_roundsOf (fun _ _ => ahead_of_mem_outcomes) hτ).length_le
      omega

/-- Rounds that read something are at most as many as the characters left. -/
theorem atMost_eq_of_le (hf : ∀ σ, ∀ τ ∈ f σ, τ.rest.length < σ.rest.length) (g : Bool) {m m' : Nat}
    (h : σ.rest.length ≤ m) (h' : σ.rest.length ≤ m') : atMost f g m σ = atMost f g m' σ := by
  induction m generalizing m' σ with
  | zero =>
    have none : f σ = [] := List.eq_nil_iff_forall_not_mem.2 fun τ hτ => by
      have := hf σ τ hτ
      omega
    cases m' with
    | zero => rfl
    | succ m' => cases g <;> simp [atMost, inOrder, none]
  | succ m ih =>
    cases m' with
    | zero =>
      have none : f σ = [] := List.eq_nil_iff_forall_not_mem.2 fun τ hτ => by
        have := hf σ τ hτ
        omega
      cases g <;> simp [atMost, inOrder, none]
    | succ m' =>
      have more : (f σ).flatMap (atMost f g m) = (f σ).flatMap (atMost f g m') := by
        refine List.flatMap_congr fun τ hτ => ?_
        have := hf σ τ hτ
        exact ih (by omega) (by omega)
      rw [atMost, atMost, more]

/-- A repetition without end goes into one more round or stops. -/
theorem roundsOf_endless (hf : ∀ σ, ∀ τ ∈ f σ, τ.rest.length < σ.rest.length) (g : Bool)
    (σ : State) :
    roundsOf f g 0 none σ = inOrder g ((f σ).flatMap (roundsOf f g 0 none)) [σ] := by
  rw [roundsOf, atMost_eq_of_le hf g (Nat.le_refl _) (Nat.le_succ _), atMost]
  congr 1
  refine List.flatMap_congr fun τ hτ => ?_
  exact atMost_eq_of_le hf g (Nat.le_of_lt (hf σ τ hτ)) (Nat.le_refl _)

end Ahead

end GlobalImports.Regex
