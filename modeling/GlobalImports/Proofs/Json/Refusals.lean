import GlobalImports.Proofs.Json.Members

/-! What is in the way of an object or a list. A member that is refused in every state of reading is,
at whatever place it stands, and so is a member with a key that may come once and has come before.
No other member makes up for it. -/

namespace GlobalImports.Json

/-! ### Members -/

/-- Two of the members have the key. -/
def Twice (key : String) (ms : List Member) : Prop :=
  ∃ earlier m between m' later, ms = earlier ++ m :: (between ++ m' :: later) ∧
    m.key.Spells key ∧ m'.key.Spells key

section Runs

variable {σ : Type} {member : σ → String → Reader σ} {s s' : σ} {ms ms' : List Member} {m : Member}

theorem Runs.exists_cons (h : Runs member s (m :: ms) (.ok s')) :
    ∃ key t, m.key.Spells key ∧ YieldsBehind (member s key) m (.ok t) ∧
      Runs member t ms (.ok s') := by
  cases h with
  | cons hk h rest => exact ⟨_, _, hk, h, rest⟩

theorem Runs.exists_append (h : Runs member s (ms ++ ms') (.ok s')) :
    ∃ t, Runs member s ms (.ok t) ∧ Runs member t ms' (.ok s') := by
  induction ms generalizing s with
  | nil => exact ⟨s, .nil s, h⟩
  | cons m ms ih =>
    obtain ⟨key, t, hk, step, rest⟩ := h.exists_cons
    obtain ⟨u, front, back⟩ := ih rest
    exact ⟨u, .cons hk step front, back⟩

/-- A member that is refused in every state. -/
theorem not_runs_of_refused (hm : m ∈ ms)
    (refused : ∀ key, m.key.Spells key → ∀ t, ∃ cause,
      YieldsBehind (member t key) m (.error cause)) : ¬Runs member s ms (.ok s') := by
  intro h
  obtain ⟨earlier, later, rfl⟩ := List.append_of_mem hm
  obtain ⟨t, -, back⟩ := h.exists_append
  obtain ⟨key, t', hk, step, -⟩ := back.exists_cons
  obtain ⟨cause, error⟩ := refused key hk t
  cases step.unique error

/-- The state knows which of the known keys have been met, and none is taken twice. -/
structure Tracks (member : σ → String → Reader σ) (known : List String) (met : σ → String → Prop) :
    Prop where
  step : ∀ s key cs s' cs', member s key cs = .ok (s', cs') →
    (∀ k ∈ known, met s' k ↔ met s k ∨ key = k) ∧ (key ∈ known → ¬met s key)

variable {known : List String} {met : σ → String → Prop}

/-- A key that is not known leaves what has been met as it is. -/
theorem tracked_of_unknown {key : String} (unknown : key ∉ known) :
    (∀ k ∈ known, met s k ↔ met s k ∨ key = k) ∧ (key ∈ known → ¬met s key) := by
  refine ⟨fun k hk => ⟨.inl, fun h => h.elim id ?_⟩, fun h => absurd h unknown⟩
  rintro rfl
  exact absurd hk unknown

theorem Tracks.behind (ht : Tracks member known met) {key : String}
    (h : YieldsBehind (member s key) m (.ok s')) :
    (∀ k ∈ known, met s' k ↔ met s k ∨ key = k) ∧ (key ∈ known → ¬met s key) :=
  ht.step s key _ s' [] (yieldsBehind_ok_iff.1 h [] follows_nil)

/-- What has been met in the end is what had been met before, or is a key of a member. -/
theorem Tracks.met_iff (ht : Tracks member known met) {k : String} (hk : k ∈ known)
    (h : Runs member s ms (.ok s')) : met s' k ↔ met s k ∨ ∃ m ∈ ms, m.key.Spells k := by
  induction ms generalizing s with
  | nil =>
    cases h
    simp
  | cons m ms ih =>
    obtain ⟨key, t, spells, step, rest⟩ := h.exists_cons
    have same : key = k ↔ m.key.Spells k :=
      ⟨fun e => e ▸ spells, fun hs => spells.unique hs⟩
    rw [ih rest, (ht.behind step).1 k hk, same, List.exists_mem_cons_iff, or_assoc]

/-- No known key comes twice. -/
theorem Tracks.not_twice (ht : Tracks member known met) {k : String} (hk : k ∈ known)
    (twice : Twice k ms) : ¬Runs member s ms (.ok s') := by
  intro h
  obtain ⟨earlier, m, between, m', later, rfl, first, second⟩ := twice
  obtain ⟨t, -, back⟩ := h.exists_append
  rw [← List.cons_append] at back
  obtain ⟨u, front, back⟩ := back.exists_append
  obtain ⟨key, _, spells, step, -⟩ := back.exists_cons
  obtain rfl := second.unique spells
  have met : met u k := (ht.met_iff hk front).2 (.inr ⟨m, List.mem_cons_self, first⟩)
  exact (ht.behind step).2 hk met

end Runs

/-! ### Steps of readers -/

section Steps

variable {α β : Type} {r : Reader α} {cs cs' : List Char}

theorem exists_of_bind {f : α → Reader β} {b : β} (h : (r >>= f) cs = .ok (b, cs')) :
    ∃ a t, r cs = .ok (a, t) ∧ f a t = .ok (b, cs') := by
  rw [bind_apply] at h
  cases hr : r cs with
  | error fault =>
    rw [hr] at h
    cases h
  | ok p =>
    rw [hr] at h
    exact ⟨p.1, p.2, rfl, h⟩

theorem failObject_ne_ok (cause : Cause) {a : α} :
    (failObject cause : Reader α) cs ≠ .ok (a, cs') := by
  intro h
  obtain ⟨c, t, -, h⟩ := exists_of_bind h
  split at h
  · obtain ⟨_, u, -, h⟩ := exists_of_bind h
    cases h
  · cases h

/-- What may come once has come once when it has been read. -/
theorem of_once {name : String} {old new : Option α} (h : once name old r cs = .ok (new, cs')) :
    old = none ∧ new.isSome = true := by
  cases old with
  | none =>
    obtain ⟨a, t, -, h⟩ := exists_of_bind h
    cases h
    exact ⟨rfl, rfl⟩
  | some a =>
    obtain ⟨_, t, failed, -⟩ := exists_of_bind (r := failObject (.duplicateField name)) h
    exact absurd failed (failObject_ne_ok _)

theorem exists_yieldsBehind_once_error {m : Member} (name : String) (old : Option α)
    (h : ∃ cause, Yields r m.item.value (.error cause)) :
    ∃ cause, YieldsBehind (once name old r) m (.error cause) := by
  obtain ⟨cause, refused⟩ := h
  cases old with
  | none => exact ⟨cause, refused.once name rfl⟩
  | some a => exact ⟨_, yieldsBehind_once_again name rfl r⟩

/-- A value that is refused is in the way whether its key has come before or not. -/
theorem not_runs_of_once {σ : Type} {member : σ → String → Reader σ} {s s' : σ} {ms : List Member}
    {m : Member} {key : String} (hm : m ∈ ms) (hk : m.key.Spells key)
    (h : ∃ cause, Yields r m.item.value (.error cause)) (old : σ → Option α)
    (put : σ → Option α → σ)
    (hmember : ∀ t, member t key = do return put t (← once key (old t) r)) :
    ¬Runs member s ms (.ok s') := by
  refine not_runs_of_refused hm fun key' hk' t => ?_
  obtain rfl := hk.unique hk'
  obtain ⟨cause, refused⟩ := exists_yieldsBehind_once_error key (old t) h
  rw [hmember]
  exact ⟨cause, refused.map (put t)⟩

end Steps

/-! ### Elements -/

section Elements

variable {α : Type} {r : Reader α} {es : List Item} {os : List (Except Cause α)}

/-- An element that is refused is in the way of its list. -/
theorem exists_mapM_error (h : List.Forall₂ (YieldsItem r) es os) {e : Item} (he : e ∈ es)
    (refused : ∃ cause, Yields r e.value (.error cause)) : ∃ cause, os.mapM id = .error cause := by
  obtain ⟨cause, refused⟩ := refused
  have error : .error cause ∈ os := by
    induction h with
    | nil => cases he
    | cons hd _ ih =>
      rcases List.mem_cons.1 he with rfl | later
      · rw [refused.unique hd.yields]
        exact List.mem_cons_self
      · exact List.mem_cons_of_mem _ (ih later)
  cases all : os.mapM id with
  | error cause => exact ⟨cause, rfl⟩
  | ok as =>
    obtain ⟨a, same⟩ := exists_of_mapM_id all _ error
    cases same

end Elements

end GlobalImports.Json
