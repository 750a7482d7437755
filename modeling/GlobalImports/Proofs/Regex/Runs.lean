import GlobalImports.Proofs.Regex.Outcomes

/-! Outcomes of the expressions that patterns for text are mostly made of: sequences, literals, runs
of characters from a set, and text up to the nearest closing character. -/

namespace GlobalImports.Regex

namespace State

/-- The state behind the text `u`, which `v` follows. -/
def advance (σ : State) (u v : List Char) : State :=
  ⟨σ.index + u.length, u.getLast?.or σ.before, v, σ.marks⟩

variable (σ : State) (u v : List Char)

@[simp] theorem advance_index : (σ.advance u v).index = σ.index + u.length := rfl

@[simp] theorem advance_rest : (σ.advance u v).rest = v := rfl

@[simp] theorem advance_marks : (σ.advance u v).marks = σ.marks := rfl

@[simp] theorem mark_rest (g : Nat) (b : Bool) : (σ.mark g b).rest = σ.rest := rfl

@[simp] theorem advance_nil : σ.advance [] σ.rest = σ := rfl

@[simp] theorem advance_advance (u' v' : List Char) :
    (σ.advance u v).advance u' v' = σ.advance (u ++ u') v' := by
  simp [advance, Nat.add_assoc, Option.or_assoc]

/-- The state behind group `g`, which takes the text `u`. -/
def pass (σ : State) (g : Nat) (u v : List Char) : State :=
  ((σ.mark g false).advance u v).mark g true

@[simp] theorem pass_index (g : Nat) : (σ.pass g u v).index = σ.index + u.length := rfl

@[simp] theorem pass_rest (g : Nat) : (σ.pass g u v).rest = v := rfl

@[simp] theorem pass_marks (g : Nat) :
    (σ.pass g u v).marks = ⟨g, true, σ.index + u.length⟩ :: ⟨g, false, σ.index⟩ :: σ.marks := rfl

theorem read_eq_advance (c : Char) (cs : List Char) : σ.read c cs = σ.advance [c] cs := rfl

end State

variable {σ τ : State} {s : CharSet} {g : Bool}

/-! ### Sequences and alternatives -/

@[simp] theorem outcomes_cat_nil : (cat []).outcomes σ = [σ] := rfl

theorem outcomes_cat_cons (r : Regex) (rs : List Regex) (σ : State) :
    (cat (r :: rs)).outcomes σ = (r.outcomes σ).flatMap (cat rs).outcomes := by
  cases rs with
  | nil => exact (List.flatMap_singleton' _).symm
  | cons s rs => rfl

theorem outcomes_cat_append (rs ss : List Regex) (σ : State) :
    (cat (rs ++ ss)).outcomes σ = ((cat rs).outcomes σ).flatMap (cat ss).outcomes := by
  induction rs generalizing σ with
  | nil => simp
  | cons r rs ih =>
    rw [List.cons_append, outcomes_cat_cons, outcomes_cat_cons, List.flatMap_assoc]
    congr 1
    funext ρ
    exact ih ρ

@[simp] theorem mem_cat_cons {r : Regex} {rs : List Regex} :
    τ ∈ (cat (r :: rs)).outcomes σ ↔ ∃ ρ ∈ r.outcomes σ, τ ∈ (cat rs).outcomes ρ := by
  rw [outcomes_cat_cons, List.mem_flatMap]

@[simp] theorem mem_group {r : Regex} {i : Nat} :
    τ ∈ (group i r).outcomes σ ↔ ∃ ρ ∈ r.outcomes (σ.mark i false), ρ.mark i true = τ :=
  List.mem_map

/-! ### Literals -/

theorem outcomes_char (c : Char) (σ : State) :
    (char c).outcomes σ = if σ.rest.head? = some c then [σ.advance [c] σ.rest.tail] else [] := by
  simp only [char, outcomes, State.readOne]
  cases σ.rest with
  | nil => rfl
  | cons d ds =>
    by_cases hd : d = c
    · simp [hd, State.read_eq_advance]
    · simp [hd]

@[simp] theorem mem_char {c : Char} :
    τ ∈ (char c).outcomes σ ↔ ∃ v, σ.rest = c :: v ∧ τ = σ.advance [c] v := by
  rw [outcomes_char]
  cases σ.rest with
  | nil => simp
  | cons d ds =>
    by_cases hd : d = c
    · simp [hd]
    · simp [hd]

theorem mem_cat_map_char {cs : List Char} :
    τ ∈ (cat (cs.map char)).outcomes σ ↔ ∃ v, σ.rest = cs ++ v ∧ τ = σ.advance cs v := by
  induction cs generalizing σ with
  | nil => simp
  | cons c cs ih =>
    rw [List.map_cons, mem_cat_cons]
    constructor
    · rintro ⟨ρ, hρ, hτ⟩
      obtain ⟨v, hv, rfl⟩ := mem_char.1 hρ
      obtain ⟨w, hw, rfl⟩ := ih.1 hτ
      exact ⟨w, by rw [hv, show v = cs ++ w from hw, List.cons_append], by simp⟩
    · rintro ⟨v, hv, rfl⟩
      exact ⟨σ.advance [c] (cs ++ v), mem_char.2 ⟨cs ++ v, hv, rfl⟩, ih.2 ⟨v, rfl, by simp⟩⟩

@[simp] theorem mem_literal {t : String} :
    τ ∈ (literal t).outcomes σ ↔ ∃ v, σ.rest = t.toList ++ v ∧ τ = σ.advance t.toList v :=
  mem_cat_map_char

/-! ### Runs of characters -/

@[simp] theorem mem_one :
    τ ∈ (one s).outcomes σ ↔
      ∃ c v, σ.rest = c :: v ∧ s.contains c = true ∧ τ = σ.advance [c] v :=
  mem_readOne

theorem length_lt_of_mem_one (s : CharSet) :
    ∀ σ, ∀ τ ∈ (one s).outcomes σ, τ.rest.length < σ.rest.length :=
  fun _ _ => length_lt_of_mem_outcomes rfl

theorem outcomes_star (s : CharSet) (g : Bool) (σ : State) :
    (many (one s) 0 none g).outcomes σ =
      inOrder g (((one s).outcomes σ).flatMap (many (one s) 0 none g).outcomes) [σ] :=
  roundsOf_endless (length_lt_of_mem_one s) g σ

theorem outcomes_plus (s : CharSet) (g : Bool) (σ : State) :
    (many (one s) 1 none g).outcomes σ =
      ((one s).outcomes σ).flatMap (many (one s) 0 none g).outcomes := rfl

/-- A run of characters from a set may stop anywhere. -/
@[simp] theorem mem_star :
    τ ∈ (many (one s) 0 none g).outcomes σ ↔
      ∃ u v, σ.rest = u ++ v ∧ (∀ c ∈ u, s.contains c = true) ∧ τ = σ.advance u v := by
  induction h : σ.rest generalizing σ with
  | nil =>
    have same : σ.advance [] [] = σ := by
      have := σ.advance_nil
      rwa [h] at this
    rw [outcomes_star, outcomes, State.readOne, h]
    constructor
    · intro hτ
      refine ⟨[], [], rfl, by simp, ?_⟩
      rw [same]
      simpa [mem_inOrder] using hτ
    · rintro ⟨u, v, huv, -, rfl⟩
      obtain ⟨rfl, rfl⟩ := List.append_eq_nil_iff.1 huv.symm
      simp [same, mem_inOrder]
  | cons c cs ih =>
    rw [outcomes_star, mem_inOrder, List.mem_flatMap, List.mem_singleton]
    constructor
    · rintro (⟨ρ, hρ, hτ⟩ | rfl)
      · obtain ⟨d, v, hv, hd, rfl⟩ := mem_one.1 hρ
        obtain ⟨rfl, rfl⟩ := List.cons.inj (h.symm.trans hv)
        obtain ⟨u, w, hw, hu, rfl⟩ := (ih rfl).1 hτ
        refine ⟨c :: u, w, by rw [hw, List.cons_append], ?_, by simp⟩
        intro e he
        rcases List.mem_cons.1 he with rfl | he
        · exact hd
        · exact hu e he
      · exact ⟨[], c :: cs, rfl, by simp, by rw [← h, State.advance_nil]⟩
    · rintro ⟨u, v, huv, hu, rfl⟩
      cases u with
      | nil =>
        rw [List.nil_append] at huv
        exact .inr (by rw [← huv, ← h, State.advance_nil])
      | cons d u =>
        obtain ⟨rfl, rfl⟩ := List.cons.inj huv
        refine .inl ⟨σ.advance [c] (u ++ v), ?_, ?_⟩
        · exact mem_one.2 ⟨c, u ++ v, h, hu c List.mem_cons_self, rfl⟩
        · refine (ih rfl).2 ⟨u, v, rfl, fun d hd => hu d (List.mem_cons_of_mem c hd), by simp⟩

@[simp] theorem mem_plus :
    τ ∈ (many (one s) 1 none g).outcomes σ ↔
      ∃ u v, σ.rest = u ++ v ∧ u ≠ [] ∧ (∀ c ∈ u, s.contains c = true) ∧ τ = σ.advance u v := by
  rw [outcomes_plus, List.mem_flatMap]
  constructor
  · rintro ⟨ρ, hρ, hτ⟩
    obtain ⟨c, cs, hc, hs, rfl⟩ := mem_one.1 hρ
    obtain ⟨u, v, huv, hu, rfl⟩ := mem_star.1 hτ
    refine ⟨c :: u, v, ?_, by simp, ?_, by simp⟩
    · rw [hc, show cs = u ++ v from huv, List.cons_append]
    · intro d hd
      rcases List.mem_cons.1 hd with rfl | hd
      · exact hs
      · exact hu d hd
  · rintro ⟨u, v, huv, hne, hu, rfl⟩
    cases u with
    | nil => exact absurd rfl hne
    | cons c u =>
      refine ⟨σ.advance [c] (u ++ v), ?_, ?_⟩
      · exact mem_one.2 ⟨c, u ++ v, huv, hu c List.mem_cons_self, rfl⟩
      · exact mem_star.2 ⟨u, v, rfl, fun d hd => hu d (List.mem_cons_of_mem c hd), by simp⟩

/-! ### What is preferred -/

section Preferred

variable {r : Regex} {rs : List Regex} {ρ : State}

theorem head?_cat_cons (h : (r.outcomes σ).head? = some ρ)
    (hs : ((cat rs).outcomes ρ).head? = some τ) :
    ((cat (r :: rs)).outcomes σ).head? = some τ := by
  obtain ⟨ρs, hρ⟩ := List.head?_eq_some_iff.1 h
  rw [outcomes_cat_cons, hρ, List.flatMap_cons, List.head?_append, hs, Option.some_or]

theorem head?_cat_append {ss : List Regex} (h : ((cat rs).outcomes σ).head? = some ρ)
    (hs : ((cat ss).outcomes ρ).head? = some τ) :
    ((cat (rs ++ ss)).outcomes σ).head? = some τ := by
  obtain ⟨ρs, hρ⟩ := List.head?_eq_some_iff.1 h
  rw [outcomes_cat_append, hρ, List.flatMap_cons, List.head?_append, hs, Option.some_or]

theorem head?_cat_singleton (h : (r.outcomes σ).head? = some τ) :
    ((cat [r]).outcomes σ).head? = some τ := h

theorem head?_char {c : Char} {v : List Char} (h : σ.rest = c :: v) :
    ((char c).outcomes σ).head? = some (σ.advance [c] v) := by
  simp [outcomes_char, h]

theorem head?_literal {t : String} {v : List Char} (h : σ.rest = t.toList ++ v) :
    ((literal t).outcomes σ).head? = some (σ.advance t.toList v) := by
  rw [literal]
  generalize t.toList = cs at h ⊢
  induction cs generalizing σ with
  | nil =>
    rw [← show σ.rest = v from h]
    rfl
  | cons c cs ih =>
    have on := ih (σ := σ.advance [c] (cs ++ v)) rfl
    rw [State.advance_advance] at on
    exact head?_cat_cons (head?_char h) on

theorem head?_group {g : Nat} {u v : List Char}
    (h : (r.outcomes (σ.mark g false)).head? = some ((σ.mark g false).advance u v)) :
    ((group g r).outcomes σ).head? = some (σ.pass g u v) := by
  rw [outcomes, List.head?_map, h]
  rfl

theorem head?_alt_left {r' : Regex} (h : (r.outcomes σ).head? = some τ) :
    ((alt r r').outcomes σ).head? = some τ := by
  rw [outcomes, List.head?_append, h, Option.some_or]

theorem head?_alt_right {r' : Regex} (hr : r.outcomes σ = [])
    (h : (r'.outcomes σ).head? = some τ) : ((alt r r').outcomes σ).head? = some τ := by
  rw [outcomes, hr, List.nil_append, h]

end Preferred

/-- A greedy run goes as far as it can. -/
theorem head?_star {u v : List Char} (h : σ.rest = u ++ v) (hu : ∀ c ∈ u, s.contains c = true)
    (hv : ∀ c ∈ v.head?, s.contains c = false) :
    ((star (one s)).outcomes σ).head? = some (σ.advance u v) := by
  induction u generalizing σ with
  | nil =>
    have stop : (one s).outcomes σ = [] := by
      rw [List.eq_nil_iff_forall_not_mem]
      intro τ hτ
      obtain ⟨c, w, hw, hc, -⟩ := mem_one.1 hτ
      rw [h, List.nil_append] at hw
      rw [hv c (by simp [hw])] at hc
      cases hc
    rw [star, outcomes_star, stop, ← show σ.rest = v from h, State.advance_nil]
    rfl
  | cons c u ih =>
    have first : (one s).outcomes σ = [σ.advance [c] (u ++ v)] := by
      simp [outcomes, State.readOne, h, hu c List.mem_cons_self, State.read_eq_advance]
    have on := ih (σ := σ.advance [c] (u ++ v)) rfl fun d hd => hu d (List.mem_cons_of_mem c hd)
    rw [State.advance_advance] at on
    rw [star, outcomes_star, first, List.flatMap_singleton, inOrder, if_pos rfl, List.head?_append]
    rw [star] at on
    rw [on]
    rfl

/-- Text up to a character. -/
theorem head?_upTo {d : Char} {u v : List Char} (h : σ.rest = u ++ d :: v) (hd : d ∉ u) :
    ((star (one (.compl (.only d)))).outcomes σ).head? = some (σ.advance u (d :: v)) := by
  refine head?_star h (fun c hc => ?_) ?_
  · have : c ≠ d := fun e => hd (e ▸ hc)
    simpa using this
  · rintro c ⟨⟩
    simp

theorem head?_plus {u v : List Char} (h : σ.rest = u ++ v) (hne : u ≠ [])
    (hu : ∀ c ∈ u, s.contains c = true) (hv : ∀ c ∈ v.head?, s.contains c = false) :
    ((plus (one s)).outcomes σ).head? = some (σ.advance u v) := by
  cases u with
  | nil => exact absurd rfl hne
  | cons c u =>
    have first : (one s).outcomes σ = [σ.advance [c] (u ++ v)] := by
      simp [outcomes, State.readOne, h, hu c List.mem_cons_self, State.read_eq_advance]
    have on : ((star (one s)).outcomes (σ.advance [c] (u ++ v))).head? = _ :=
      head?_star rfl (fun d hd => hu d (List.mem_cons_of_mem c hd)) hv
    rw [plus, outcomes_plus, first, List.flatMap_singleton]
    rw [star] at on
    rw [on, State.advance_advance]
    rfl

/-- A lazy run before a closing character goes up to the nearest one. -/
theorem head?_lazyStar_char {q : Char} {u v : List Char} (h : σ.rest = u ++ q :: v)
    (hu : ∀ c ∈ u, s.contains c = true) (hq : q ∉ u) :
    ((cat [lazyStar (one s), char q]).outcomes σ).head? = some (σ.advance (u ++ [q]) v) := by
  induction u generalizing σ with
  | nil =>
    have close : (char q).outcomes σ = [σ.advance [q] v] := by simp [outcomes_char, h]
    rw [outcomes_cat_cons, lazyStar, outcomes_star, inOrder]
    simp [cat, close]
  | cons c u ih =>
    have first : (one s).outcomes σ = [σ.advance [c] (u ++ q :: v)] := by
      simp [outcomes, State.readOne, h, hu c List.mem_cons_self, State.read_eq_advance]
    have open_ : (char q).outcomes σ = [] := by
      have : c ≠ q := fun e => hq (e ▸ List.mem_cons_self)
      simp [outcomes_char, h, this]
    have on := ih (σ := σ.advance [c] (u ++ q :: v)) rfl
      (fun d hd => hu d (List.mem_cons_of_mem c hd)) fun hm => hq (List.mem_cons_of_mem c hm)
    rw [State.advance_advance, outcomes_cat_cons, lazyStar] at on
    rw [outcomes_cat_cons, lazyStar, outcomes_star, first, inOrder, if_neg (by simp),
      List.flatMap_singleton, List.singleton_append, List.flatMap_cons]
    rw [show (cat [char q]).outcomes σ = [] from open_, List.nil_append, on]
    rfl

/-- The first outcome of a sequence comes of an outcome of its first part. -/
theorem exists_of_head?_cat_append {rs ss : List Regex}
    (h : ((cat (rs ++ ss)).outcomes σ).head? = some τ) :
    ∃ ρ ∈ (cat rs).outcomes σ, ((cat ss).outcomes ρ).head? = some τ := by
  rw [outcomes_cat_append, List.head?_flatMap] at h
  exact List.exists_of_findSome?_eq_some h

/-! ### Cutting a match out of a text -/

section Cut

variable {before : Option Char} {a u b w v : List Char}

/-- The match that takes `u` and passes no group. -/
theorem cut_advance_only {n : Nat} :
    let σ : State := ⟨0, before, u ++ v, []⟩
    let τ := σ.advance u v
    Match.cut ⟨0, τ.index, τ.marks⟩ n σ.rest =
      ⟨[], u, v, (List.range (n + 1)).map fun i => if i = 0 then some u else none⟩ := by
  intro σ τ
  have groups (i : Nat) : ((Match.span? ⟨0, τ.index, τ.marks⟩ i).map fun s =>
      (σ.rest.drop s.1).take (s.2 - s.1)) = if i = 0 then some u else none := by
    by_cases h : i = 0
    · simp [h, Match.span?, τ, σ]
    · simp [h, Match.span?, τ, σ]
  rw [Match.cut, Found.mk.injEq]
  refine ⟨rfl, by simp [τ, σ], by simp [τ, σ], ?_⟩
  exact List.map_congr_left fun i _ => groups i

/-- The match that takes `u`. -/
theorem cut_advance :
    let σ : State := ⟨0, before, u ++ v, []⟩
    let τ := σ.advance u v
    Match.cut ⟨0, τ.index, τ.marks⟩ 0 σ.rest = ⟨[], u, v, [some u]⟩ :=
  cut_advance_only

/-- The match with `u` for group `g` and nothing for the others. -/
theorem cut_pass_only {g n : Nat} (hg : g ≠ 0) :
    let σ : State := ⟨0, before, a ++ u ++ b ++ v, []⟩
    let τ := ((σ.advance a (u ++ b ++ v)).pass g u (b ++ v)).advance b v
    Match.cut ⟨0, τ.index, τ.marks⟩ n σ.rest =
      ⟨[], a ++ u ++ b, v, (List.range (n + 1)).map fun i =>
        if i = 0 then some (a ++ u ++ b) else if i = g then some u else none⟩ := by
  intro σ τ
  have stop : τ.index = (a ++ u ++ b).length := by
    simp [τ, σ]
    omega
  have whole : σ.rest.take τ.index = a ++ u ++ b := by rw [stop, List.take_left]
  have left : σ.rest.drop τ.index = v := by rw [stop, List.drop_left]
  have group : (σ.rest.drop a.length).take (a.length + u.length - a.length) = u := by simp [σ]
  have groups (i : Nat) : ((Match.span? ⟨0, τ.index, τ.marks⟩ i).map fun s =>
      (σ.rest.drop s.1).take (s.2 - s.1)) =
        if i = 0 then some (a ++ u ++ b) else if i = g then some u else none := by
    by_cases h₀ : i = 0
    · simp [h₀, Match.span?, whole]
    · by_cases h : i = g
      · have span : Match.span? ⟨0, τ.index, τ.marks⟩ i = some (a.length, a.length + u.length) := by
          simp [Match.span?, τ, σ, h, hg]
        rw [if_neg h₀, if_pos h, span]
        exact congrArg some group
      · have span : Match.span? ⟨0, τ.index, τ.marks⟩ i = none := by
          simp [Match.span?, τ, σ, h₀, Ne.symm h]
        simp [span, h, h₀]
  rw [Match.cut, Found.mk.injEq]
  refine ⟨rfl, whole, left, ?_⟩
  exact List.map_congr_left fun i _ => groups i

/-- The match that ends with group `g`. -/
theorem cut_pass {g n : Nat} (hg : g ≠ 0) :
    let σ : State := ⟨0, before, a ++ u ++ v, []⟩
    let τ := (σ.advance a (u ++ v)).pass g u v
    Match.cut ⟨0, τ.index, τ.marks⟩ n σ.rest =
      ⟨[], a ++ u, v, (List.range (n + 1)).map fun i =>
        if i = 0 then some (a ++ u) else if i = g then some u else none⟩ := by
  have only := @cut_pass_only before a u [] v g n hg
  simp only [List.append_nil, List.nil_append] at only
  exact only

/-- The match with `u` and `w` for its two groups. -/
theorem cut_pass_pass :
    let σ : State := ⟨0, before, a ++ u ++ b ++ w ++ v, []⟩
    let ρ := ((σ.advance a (u ++ b ++ (w ++ v))).pass 1 u (b ++ (w ++ v))).advance b (w ++ v)
    let τ := ρ.pass 2 w v
    Match.cut ⟨0, τ.index, τ.marks⟩ 2 σ.rest =
      ⟨[], a ++ u ++ b ++ w, v, [some (a ++ u ++ b ++ w), some u, some w]⟩ := by
  intro σ ρ τ
  have span₁ : Match.span? ⟨0, τ.index, τ.marks⟩ 1 = some (a.length, a.length + u.length) := by
    simp [Match.span?, τ, ρ, σ]
  have span₂ : Match.span? ⟨0, τ.index, τ.marks⟩ 2 =
      some ((a ++ u ++ b).length, (a ++ u ++ b).length + w.length) := by
    simp [Match.span?, τ, ρ, σ]
    omega
  have stop : τ.index = (a ++ u ++ b ++ w).length := by
    simp [τ, ρ, σ]
    omega
  have groups : List.range (2 + 1) = [0, 1, 2] := rfl
  have group₁ : (σ.rest.drop a.length).take u.length = u := by simp [σ]
  have group₂ : (σ.rest.drop (a ++ u ++ b).length).take w.length = w := by
    simp only [σ, List.append_assoc _ w]
    rw [List.drop_left, List.take_left]
  have whole : σ.rest.take τ.index = a ++ u ++ b ++ w := by rw [stop, List.take_left]
  have left : σ.rest.drop τ.index = v := by rw [stop, List.drop_left]
  simp only [Match.cut, groups, List.map_cons, span₁, span₂, Option.map_some,
    Nat.add_sub_cancel_left, group₁, group₂, List.take_zero, List.drop_zero, Nat.sub_zero, whole,
    left, List.map_nil]
  simp [Match.span?, whole]

end Cut

end GlobalImports.Regex
