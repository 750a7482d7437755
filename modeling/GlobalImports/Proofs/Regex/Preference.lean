import GlobalImports.Proofs.Regex.Remainder

/-! The search finds the most preferred outcome at the leftmost place that has one. A thread whose
remainder has been followed before is dropped on the way. This loses nothing, as what a remainder
can match does not hang on the groups passed, nor on where the current rounds began. -/

namespace GlobalImports.Regex

/-! ### Remainders that have been followed -/

theorem Frame.outcomes_relabel {φ : State → State} (hφ : Relabels φ) (f : Frame) (σ : State) :
    f.outcomes (φ σ) = (f.outcomes σ).map φ := by
  cases f with
  | run i r => exact Regex.outcomes_relabel hφ r σ
  | later i r => exact Regex.outcomes_relabel hφ r σ
  | rounds i n m g r => exact roundsOf_relabel hφ (Regex.outcomes_relabel hφ r) g n m σ
  | again i g r => exact roundsOf_relabel hφ (Regex.outcomes_relabel hφ r) g 0 none σ
  | close g => exact congrArg (fun τ => [τ]) (hφ.mark σ g true).symm

theorem todoOutcomes_relabel {φ : State → State} (hφ : Relabels φ) (todo : List Frame) (σ : State) :
    todoOutcomes todo (φ σ) = (todoOutcomes todo σ).map φ := by
  induction todo generalizing σ with
  | nil => rfl
  | cons f k ih =>
    rw [todoOutcomes, todoOutcomes, f.outcomes_relabel hφ, List.flatMap_map, List.map_flatMap]
    congr 1
    funext τ
    exact ih τ

/-- Groups passed earlier are only carried along. -/
theorem relabels_marks (earlier : List Mark) :
    Relabels fun σ => { σ with marks := σ.marks ++ earlier } :=
  ⟨fun _ => rfl, fun _ => rfl, fun _ _ _ => rfl, fun _ _ _ => rfl⟩

/-- A remainder has matches at the place of `σ`. -/
def Live (σ : State) (todo : List Frame) : Prop := todoOutcomes todo { σ with marks := [] } ≠ []

/-- Whether a thread can become a match hangs on its remainder alone. -/
theorem live_iff {σ : State} {t : Thread} : Live σ t.todo ↔ t.results σ ≠ [] := by
  have same := todoOutcomes_relabel (relabels_marks t.marks) t.todo { σ with marks := [] }
  rw [Live, Thread.results, Thread.outcomes, ne_eq, ne_eq, List.map_eq_nil_iff]
  simp only [List.nil_append] at same
  rw [same, List.map_eq_nil_iff]

/-- The most preferred match that leaves, found latest first, can become. -/
def best (σ : State) (leaves : List Leaf) : Option Match :=
  (leaves.reverse.flatMap (Leaf.results σ)).head?

theorem best_append (σ : State) (later leaves : List Leaf) :
    best σ (later ++ leaves) = (best σ leaves).or (best σ later) := by
  rw [best, List.reverse_append, List.flatMap_append, List.head?_append]
  rfl

/-- Remainders followed before that bear on threads with less than `n` before them: where they have
matches, the leaves found have one already. -/
def Settled (σ : State) (followed : Followed) (leaves : List Leaf) (n : Nat) : Prop :=
  ∀ todo, followed.contains todo = true → reach todo < n → Live σ todo → (best σ leaves).isSome

def LeavesSteady (σ : State) (leaves : List Leaf) : Prop :=
  ∀ s u, Leaf.read s u ∈ leaves → u.Steady (σ.index + 1)

/-- Following some threads leads from one set of remainders and leaves to another. -/
structure Follows (σ : State) (threads : List Thread) (followed : Followed) (leaves : List Leaf)
    (followed' : Followed) (leaves' : List Leaf) : Prop where
  run : ∀ ts, follow σ.place followed leaves (threads ++ ts) = follow σ.place followed' leaves' ts
  best_eq : best σ leaves' = (best σ leaves).or (threads.flatMap (·.results σ)).head?
  settled : ∀ todo, followed'.contains todo = true →
    followed.contains todo = true ∨ (Live σ todo → (best σ leaves').isSome)
  steady : LeavesSteady σ leaves'

theorem mem_leaf? {m : Move} {t u : Thread} {s : CharSet} (h : Leaf.read s u ∈ (m.leaf? t).toList) :
    m = .read s u := by
  cases m with
  | read s' u' =>
    simp only [Move.leaf?, Option.toList_some, List.mem_singleton, Leaf.read.injEq] at h
    rw [h.1, h.2]
  | finish | stuck | go | fork => simp [Move.leaf?] at h

section Follows

variable {σ : State} {t : Thread} {threads threads' : List Thread}
  {followed followed₁ followed₂ : Followed} {leaves leaves₁ leaves₂ : List Leaf} {n : Nat}

theorem Follows.isSome_best (f : Follows σ threads followed leaves followed₁ leaves₁)
    (h : (best σ leaves).isSome) : (best σ leaves₁).isSome := by
  rw [f.best_eq, Option.or_of_isSome h]
  exact h

theorem Follows.settled_lt (f : Follows σ threads followed leaves followed₁ leaves₁)
    (hf : Settled σ followed leaves n) : Settled σ followed₁ leaves₁ n := by
  intro todo h less live
  rcases f.settled todo h with h | h
  · exact f.isSome_best (hf todo h less live)
  · exact h live

theorem Follows.trans (f : Follows σ threads followed leaves followed₁ leaves₁)
    (f' : Follows σ threads' followed₁ leaves₁ followed₂ leaves₂) :
    Follows σ (threads ++ threads') followed leaves followed₂ leaves₂ where
  run ts := by rw [List.append_assoc, f.run, f'.run]
  best_eq := by
    rw [f'.best_eq, f.best_eq, Option.or_assoc, ← List.head?_append, List.flatMap_append]
  settled todo h := by
    rcases f'.settled todo h with h | h
    · rcases f.settled todo h with h | h
      · exact .inl h
      · exact .inr fun live => f'.isSome_best (h live)
    · exact .inr h
  steady := f'.steady

/-- A thread that is passed over could only come to a match behind one that is found already. -/
theorem Follows.passed (again : (t.resumes && followed.contains t.todo) = true)
    (ht : reach t.todo < n) (hf : Settled σ followed leaves n) (hl : LeavesSteady σ leaves) :
    Follows σ [t] followed leaves followed leaves where
  run ts := by rw [List.singleton_append, follow, if_pos again]
  best_eq := by
    rw [List.flatMap_singleton]
    by_cases none : t.results σ = []
    · simp [none]
    · have := hf t.todo (Bool.and_eq_true_iff.1 again).2 ht (live_iff.2 none)
      rw [Option.or_of_isSome this]
  settled _ := .inl
  steady := hl

/-- The remainders followed once `t` is among them, if it is one to be remembered. -/
def Followed.note (followed : Followed) (t : Thread) : Followed :=
  if t.resumes then followed.insert t.todo else followed

theorem Followed.contains_note {todo : List Frame} (h : (followed.note t).contains todo = true) :
    todo = t.todo ∨ followed.contains todo = true := by
  unfold note at h
  split at h
  · simpa using h
  · exact .inr h

theorem best_leaf?_append (m : Move) :
    best σ ((m.leaf? t).toList ++ leaves) =
      (best σ leaves).or ((m.leaf? t).toList.flatMap (Leaf.results σ)).head? := by
  rw [best_append]
  congr 1
  cases m.leaf? t <;> rfl

/-- A thread is followed by following those that its move makes of it. -/
theorem Follows.of_next (again : ¬(t.resumes && followed.contains t.todo) = true)
    (step : Carries σ t (t.move σ.place))
    (f : Follows σ (t.move σ.place).next (followed.note t)
      (((t.move σ.place).leaf? t).toList ++ leaves) followed₁ leaves₁) :
    Follows σ [t] followed leaves followed₁ leaves₁ := by
  have found : best σ leaves₁ = (best σ leaves).or (t.results σ).head? := by
    rw [f.best_eq, best_leaf?_append, Option.or_assoc, ← List.head?_append, ← step.results_eq]
  refine ⟨?_, by simpa using found, ?_, f.steady⟩
  · intro ts
    rw [List.singleton_append, follow, if_neg again]
    exact f.run ts
  · intro todo h
    rcases f.settled todo h with h | h
    · rcases Followed.contains_note h with rfl | h
      · refine .inr fun live => ?_
        have := List.isSome_head?.2 (live_iff.1 live)
        rw [found, Option.isSome_or, this, Bool.or_true]
      · exact .inl h
    · exact .inr h

/-- Threads are followed to leaves that have their most preferred match, behind those of the leaves
found before. The induction is on what the threads have before them at this place; the remainder of
a thread is greater than all that come of it, so it cannot be met among them. -/
theorem exists_follows (ht : ∀ t ∈ threads, t.Steady σ.index ∧ reach t.todo < n)
    (hf : Settled σ followed leaves n) (hl : LeavesSteady σ leaves) :
    ∃ followed₁ leaves₁, Follows σ threads followed leaves followed₁ leaves₁ := by
  induction n using Nat.strongRecOn generalizing threads followed leaves with
  | ind n ih =>
    induction threads generalizing followed leaves with
    | nil => exact ⟨followed, leaves, by simp, by simp, fun _ => .inl, hl⟩
    | cons t threads iht =>
      obtain ⟨hs, hn⟩ := ht t List.mem_cons_self
      have front : ∃ followed₁ leaves₁, Follows σ [t] followed leaves followed₁ leaves₁ := by
        by_cases again : (t.resumes && followed.contains t.todo) = true
        · exact ⟨followed, leaves, .passed again hn hf hl⟩
        have step := carries_move hs
        have settled : Settled σ (followed.note t) (((t.move σ.place).leaf? t).toList ++ leaves)
            (reach t.todo) := by
          intro todo h less live
          rcases Followed.contains_note h with rfl | h
          · exact absurd less (Nat.lt_irrefl _)
          · have := hf todo h (Nat.lt_trans less hn) live
            rw [best_leaf?_append, Option.or_of_isSome this]
            exact this
        have steady : LeavesSteady σ (((t.move σ.place).leaf? t).toList ++ leaves) := by
          intro s u h
          rcases List.mem_append.1 h with h | h
          · exact step.steady_read s u (mem_leaf? h)
          · exact hl s u h
        obtain ⟨followed₁, leaves₁, f⟩ :=
          ih (reach t.todo) hn (fun u hu => ⟨step.steady u hu, step.reach_lt u hu⟩) settled steady
        exact ⟨followed₁, leaves₁, .of_next again step f⟩
      obtain ⟨followed₁, leaves₁, f⟩ := front
      obtain ⟨followed₂, leaves₂, f'⟩ :=
        iht (fun u hu => ht u (List.mem_cons_of_mem t hu)) (f.settled_lt hf) f.steady
      exact ⟨followed₂, leaves₂, f.trans f'⟩

theorem exists_reach_lt (threads : List Thread) : ∃ n, ∀ t ∈ threads, reach t.todo < n := by
  induction threads with
  | nil => exact ⟨0, by simp⟩
  | cons t threads ih =>
    obtain ⟨n, hn⟩ := ih
    refine ⟨n + reach t.todo + 1, fun u hu => ?_⟩
    rcases List.mem_cons.1 hu with rfl | hu
    · omega
    · have := hn u hu
      omega

/-- The leaves at a place have the most preferred match of all threads there. -/
theorem leavesAt_spec (ht : ∀ t ∈ threads, t.Steady σ.index) :
    ((leavesAt σ.place threads).flatMap (Leaf.results σ)).head? =
        (threads.flatMap (·.results σ)).head? ∧
      LeavesSteady σ (leavesAt σ.place threads) := by
  obtain ⟨n, hn⟩ := exists_reach_lt threads
  have settled : Settled σ .empty [] n := by simp [Settled]
  have steady : LeavesSteady σ [] := by simp [LeavesSteady]
  obtain ⟨followed₁, leaves₁, f⟩ := exists_follows (fun t h => ⟨ht t h, hn t h⟩) settled steady
  have run : leavesAt σ.place threads = leaves₁.reverse := by
    rw [leavesAt, ← List.append_nil threads, f.run, follow]
  constructor
  · rw [run]
    exact f.best_eq
  · intro s u h
    exact f.steady s u (by simpa [run] using h)

end Follows

/-! ### The search -/

/-- The most preferred match that starts at a place. -/
def firstAt (r : Regex) (index : Nat) (before : Option Char) (rest : List Char) : Option Match :=
  (r.outcomes ⟨index, before, rest, []⟩).head?.map fun τ => ⟨index, τ.index, τ.marks⟩

/-- The most preferred match at the leftmost place, from `index` on, where one starts. -/
def leftmost (r : Regex) (index : Nat) (before : Option Char) : List Char → Option Match
  | [] => r.firstAt index before []
  | c :: cs => (r.firstAt index before (c :: cs)).or (leftmost r (index + 1) (some c) cs)

theorem head?_results_begin (r : Regex) (σ : State) :
    ((Thread.begin r σ.index).results σ).head? = r.firstAt σ.index σ.before σ.rest := by
  simp [Thread.results, Thread.outcomes, Thread.begin, todoOutcomes, Frame.outcomes, firstAt]

theorem head?_leaves_nil {σ : State} (h : σ.rest = []) (leaves : List Leaf) :
    (leaves.flatMap (Leaf.results σ)).head? = Leaf.firstMatch σ.index leaves := by
  induction leaves with
  | nil => rfl
  | cons leaf leaves ih =>
    cases leaf with
    | finish t => rfl
    | read s t =>
      rw [Leaf.firstMatch, ← ih]
      simp [Leaf.results, State.readOne, h]

/-- Behind `c`, the threads that read it come before any match that ends in front of it. -/
theorem head?_leaves_cons {σ : State} {c : Char} {cs : List Char} (h : σ.rest = c :: cs)
    (leaves : List Leaf) :
    (leaves.flatMap (Leaf.results σ)).head? =
      ((Leaf.advance c leaves).flatMap (·.results (σ.read c cs))).head?.or
        (Leaf.firstMatch σ.index leaves) := by
  induction leaves with
  | nil => rfl
  | cons leaf leaves ih =>
    cases leaf with
    | finish t => simp [Leaf.results, Leaf.advance, Leaf.isFinish, Leaf.firstMatch]
    | read s t =>
      have advance : Leaf.advance c (.read s t :: leaves) =
          (if s.contains c then [t] else []) ++ Leaf.advance c leaves := by
        by_cases hc : s.contains c = true <;>
          simp [Leaf.advance, Leaf.isFinish, Leaf.next?, hc]
      have results : Leaf.results σ (.read s t) =
          (if s.contains c then [t] else []).flatMap (·.results (σ.read c cs)) := by
        by_cases hc : s.contains c = true <;> simp [Leaf.results, State.readOne, h, hc]
      rw [List.flatMap_cons, List.head?_append, ih, results, advance, List.flatMap_append,
        List.head?_append, Option.or_assoc]
      rfl

theorem steady_of_mem_advance {σ : State} {leaves : List Leaf} {c : Char} {u : Thread}
    (hl : LeavesSteady σ leaves) (h : u ∈ Leaf.advance c leaves) : u.Steady (σ.index + 1) := by
  obtain ⟨leaf, hleaf, hu⟩ := List.mem_filterMap.1 h
  have mem := (List.takeWhile_sublist _).subset hleaf
  cases leaf with
  | finish t => simp [Leaf.next?] at hu
  | read s t =>
    simp only [Leaf.next?, Option.ite_none_right_eq_some, Option.some.injEq] at hu
    exact hu.2 ▸ hl s t mem

/-- The threads on the way and, as long as nothing is found, one that starts here. -/
def withStart (r : Regex) (index : Nat) (found : Option Match) (threads : List Thread) :
    List Thread :=
  if found.isNone then threads ++ [Thread.begin r index] else threads

theorem steady_withStart {r : Regex} (hr : r.productive = true) {index : Nat}
    (found : Option Match) {threads : List Thread} (ht : ∀ t ∈ threads, t.Steady index) :
    ∀ t ∈ withStart r index found threads, t.Steady index := by
  intro t h
  unfold withStart at h
  split at h
  · rcases List.mem_append.1 h with h | h
    · exact ht t h
    · rw [List.mem_singleton.1 h]
      exact ⟨hr, trivial⟩
  · exact ht t h

theorem head?_withStart (r : Regex) (σ : State) (found : Option Match) (threads : List Thread)
    (later : Option Match) :
    ((withStart r σ.index found threads).flatMap (·.results σ)).head?.or (found.or later) =
      (threads.flatMap (·.results σ)).head?.or
        (found.or ((r.firstAt σ.index σ.before σ.rest).or later)) := by
  cases found with
  | some m => simp [withStart]
  | none =>
    have start := head?_results_begin r σ
    simp only [withStart, Option.isNone_none, if_true, List.flatMap_append, List.flatMap_singleton,
      List.head?_append, start, Option.none_or, Option.or_assoc]

theorem leavesAt_nil (p : Place) : leavesAt p [] = [] := by
  rw [leavesAt, follow]
  rfl

/-- Threads on the way come first, then the match found, then those that start here or later. -/
theorem searchFrom_eq {r : Regex} (hr : r.productive = true) (rest : List Char) (index : Nat)
    (before : Option Char) (threads : List Thread) (found : Option Match)
    (ht : ∀ t ∈ threads, t.Steady index) :
    searchFrom r index before threads found rest =
      (threads.flatMap (·.results ⟨index, before, rest, []⟩)).head?.or
        (found.or (leftmost r index before rest)) := by
  induction rest generalizing index before threads found with
  | nil =>
    let σ : State := ⟨index, before, [], []⟩
    have best := (leavesAt_spec (σ := σ) (steady_withStart hr found ht)).1
    have start := head?_withStart r σ found threads none
    rw [Option.or_none, Option.or_none, ← best, head?_leaves_nil rfl] at start
    rw [leftmost, ← start, searchFrom]
    show (if (withStart r index found threads).isEmpty then found else _) = _
    split
    case isTrue none =>
      rw [List.isEmpty_iff.1 none, leavesAt_nil]
      rfl
    case isFalse => rfl
  | cons c cs ih =>
    let σ : State := ⟨index, before, c :: cs, []⟩
    have best := leavesAt_spec (σ := σ) (steady_withStart hr found ht)
    have start := head?_withStart r σ found threads (leftmost r (index + 1) (some c) cs)
    rw [leftmost, ← start, searchFrom]
    show (if (withStart r index found threads).isEmpty then found else _) = _
    split
    case isTrue none =>
      cases found with
      | none => simp [withStart] at none
      | some m =>
        rw [List.isEmpty_iff.1 none]
        rfl
    case isFalse =>
      let leaves := leavesAt σ.place (withStart r index found threads)
      have on := ih (index + 1) (some c) (Leaf.advance c leaves)
        ((Leaf.firstMatch index leaves).or found) fun u hu => steady_of_mem_advance best.2 hu
      rw [← best.1, head?_leaves_cons rfl, Option.or_assoc]
      rw [Option.or_assoc] at on
      exact on

/-- The search finds the most preferred match at the leftmost place that has one. -/
theorem search_eq_leftmost {r : Regex} (hr : r.productive = true) (before : Option Char)
    (text : List Char) : r.search before text = leftmost r 0 before text := by
  rw [search, searchFrom_eq hr _ _ _ _ _ (by simp)]
  rfl

end GlobalImports.Regex
