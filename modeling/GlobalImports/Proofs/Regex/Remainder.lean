import GlobalImports.Proofs.Regex.Outcomes

/-! What the remainder of a thread can match, and what one move of the thread does to it: the
matches stay the same, and so does their order. This holds of steady threads, in which every round
of a repetition without end reads something; a move keeps threads steady. -/

namespace GlobalImports.Regex

/-! ### What is left to match -/

namespace Frame

/-- The states that a piece of a remainder can lead to. -/
def outcomes : Frame → State → List State
  | run _ r | later _ r => r.outcomes
  | rounds _ n m g r => roundsOf r.outcomes g n m
  | again _ g r => roundsOf r.outcomes g 0 none
  | close g => fun σ => [σ.mark g true]

def nullable : Frame → Bool
  | run _ r | later _ r => r.nullable
  | rounds _ n _ _ r => n == 0 || r.nullable
  | again _ _ _ | close _ => true

def productive : Frame → Bool
  | run _ r | later _ r => r.productive
  | rounds _ _ m _ r => r.productive && (m.isSome || !r.nullable)
  | again _ _ r => r.productive && !r.nullable
  | close _ => true

/-- Bound on the moves in this piece at one place. -/
def weight : Frame → Nat
  | run _ r => r.weight
  | later _ r => r.weight + 1
  | rounds _ n m _ r => roundsWeight r.weight n m
  | again _ _ r => r.weight + 2
  | close _ => 1

end Frame

/-- The states that a remainder can end in, most preferred first. -/
def todoOutcomes : List Frame → State → List State
  | [], σ => [σ]
  | f :: k, σ => (f.outcomes σ).flatMap (todoOutcomes k)

/-- Bound on the moves that a remainder allows before it reads. -/
def reach : List Frame → Nat
  | [] => 0
  | f :: k => f.weight + if f.nullable then reach k else 0

/-- Whenever the remainder, gone into at `index`, comes to the end of a round, the round has read
something. -/
def Steady (index : Nat) : List Frame → List (Option Nat) → Prop
  | [], _ => True
  | .again _ _ _ :: _, [] => False
  | .again i g r :: k, began :: rounds =>
    (Frame.again i g r).productive = true ∧ began.all (· < index) = true ∧ Steady index k rounds
  | f :: k, rounds =>
    f.productive = true ∧ Steady (if f.nullable then index else index + 1) k rounds

theorem Steady.mono {todo : List Frame} {rounds : List (Option Nat)} {i j : Nat} (hij : i ≤ j)
    (h : Steady i todo rounds) : Steady j todo rounds := by
  induction todo generalizing i j rounds with
  | nil => trivial
  | cons f k ih =>
    cases f with
    | again n g r =>
      cases rounds with
      | nil => exact h
      | cons began rounds =>
        obtain ⟨hp, hb, hk⟩ := h
        refine ⟨hp, ?_, ih hij hk⟩
        cases began with
        | none => rfl
        | some b =>
          simp only [Option.all_some, decide_eq_true_eq] at hb ⊢
          omega
    | run | later | rounds | close =>
      refine ⟨h.1, ih ?_ h.2⟩
      split <;> omega

section RoundsLeft

variable {r : Regex} {k : List Frame} {g : Bool} {node n i : Nat} {m : Option Nat}
  {rounds : List (Option Nat)}

theorem todoOutcomes_roundsLeft (σ : State) :
    todoOutcomes (Thread.roundsLeft node r g k n m) σ =
      (roundsOf r.outcomes g n m σ).flatMap (todoOutcomes k) := by
  unfold Thread.roundsLeft
  split
  · simp [roundsOf, atMost]
  · rfl

theorem steady_roundsLeft (hr : (r.productive && (m.isSome || !r.nullable)) = true)
    (hk : Steady (if n == 0 || r.nullable then i else i + 1) k rounds) :
    Steady i (Thread.roundsLeft node r g k n m) rounds := by
  unfold Thread.roundsLeft
  split
  · simpa using hk
  · exact ⟨hr, hk⟩

theorem reach_roundsLeft_le :
    reach (Thread.roundsLeft node r g k n m) ≤
      roundsWeight r.weight n m + if n == 0 || r.nullable then reach k else 0 := by
  unfold Thread.roundsLeft
  split
  · simp
  · exact Nat.le_refl _

/-- A round, and the rounds left behind it. -/
theorem todoOutcomes_round (σ : State) :
    todoOutcomes (.run node r :: Thread.roundsLeft node r g k n m) σ =
      ((r.outcomes σ).flatMap (roundsOf r.outcomes g n m)).flatMap (todoOutcomes k) := by
  rw [todoOutcomes, List.flatMap_assoc]
  congr 1
  funext τ
  exact todoOutcomes_roundsLeft τ

theorem steady_round (hr : (r.productive && (m.isSome || !r.nullable)) = true)
    (hk : Steady (if r.nullable then i else i + 1) k rounds) :
    Steady i (.run node r :: Thread.roundsLeft node r g k n m) rounds := by
  refine ⟨(Bool.and_eq_true_iff.1 hr).1, steady_roundsLeft hr (hk.mono ?_)⟩
  by_cases hn : r.nullable = true
  · simp [Frame.nullable, hn]
  · simp only [Frame.nullable, hn, Bool.or_false, Bool.false_eq_true, if_false]
    split <;> omega

/-- One counted round less weighs less, with the round itself put in front. -/
theorem reach_round_lt {n' : Nat} {m' : Option Nat} (h : n' + m'.getD 0 < n + m.getD 0) :
    reach (.run node r :: Thread.roundsLeft node r g k n' m') <
      roundsWeight r.weight n m + if n == 0 || r.nullable then reach k else 0 := by
  have less := Nat.mul_le_mul_left (r.weight + 2) (Nat.succ_le_of_lt h)
  rw [Nat.mul_succ] at less
  have left : reach (Thread.roundsLeft node r g k n' m') ≤ _ := reach_roundsLeft_le
  rw [reach]
  simp only [Frame.weight, Frame.nullable, roundsWeight, Nat.mul_succ] at left ⊢
  by_cases hn : r.nullable = true
  · simp only [hn, Bool.or_true, if_true] at left ⊢
    omega
  · simp only [hn, Bool.false_eq_true, if_false]
    omega

end RoundsLeft

/-! ### Threads -/

namespace Thread

/-- The states that a thread can end in when it is at the place of `σ`. -/
def outcomes (t : Thread) (σ : State) : List State :=
  todoOutcomes t.todo { σ with marks := t.marks }

/-- The matches that a thread can become, most preferred first. -/
def results (t : Thread) (σ : State) : List Match :=
  (t.outcomes σ).map fun τ => ⟨t.start, τ.index, τ.marks⟩

def Steady (t : Thread) (index : Nat) : Prop := Regex.Steady index t.todo t.rounds

end Thread

/-- The matches that a leaf can become. -/
def Leaf.results (σ : State) : Leaf → List Match
  | .finish t => [⟨t.start, σ.index, t.marks⟩]
  | .read s t => (σ.readOne s).flatMap t.results

/-- The move of a thread at the place of `σ`: the matches stay the same, and so does their order;
the threads that come of it are steady and have less before them. -/
structure Carries (σ : State) (t : Thread) (m : Move) : Prop where
  results_eq : t.results σ =
    (m.leaf? t).toList.flatMap (Leaf.results σ) ++ m.next.flatMap (·.results σ)
  steady : ∀ u ∈ m.next, u.Steady σ.index
  reach_lt : ∀ u ∈ m.next, reach u.todo < reach t.todo
  steady_read : ∀ s u, m = .read s u → u.Steady (σ.index + 1)

namespace Carries

variable {σ : State} {t u v : Thread}

theorem go (hs : u.start = t.start) (ho : t.outcomes σ = u.outcomes σ) (hu : u.Steady σ.index)
    (hr : reach u.todo < reach t.todo) : Carries σ t (.go u) where
  results_eq := by simp [Move.leaf?, Move.next, Thread.results, ho, hs]
  steady := by simpa [Move.next] using hu
  reach_lt := by simpa [Move.next] using hr
  steady_read := by simp

theorem fork (hu : u.start = t.start) (hv : v.start = t.start)
    (ho : t.outcomes σ = u.outcomes σ ++ v.outcomes σ) (su : u.Steady σ.index)
    (sv : v.Steady σ.index) (ru : reach u.todo < reach t.todo) (rv : reach v.todo < reach t.todo) :
    Carries σ t (.fork u v) where
  results_eq := by simp [Move.leaf?, Move.next, Thread.results, ho, hu, hv]
  steady := by simpa [Move.next] using ⟨su, sv⟩
  reach_lt := by simpa [Move.next] using ⟨ru, rv⟩
  steady_read := by simp

theorem choose {g : Bool} (hu : u.start = t.start) (hv : v.start = t.start)
    (ho : t.outcomes σ = inOrder g (u.outcomes σ) (v.outcomes σ)) (su : u.Steady σ.index)
    (sv : v.Steady σ.index) (ru : reach u.todo < reach t.todo) (rv : reach v.todo < reach t.todo) :
    Carries σ t (Thread.choose g u v) := by
  cases g with
  | true => exact fork hu hv ho su sv ru rv
  | false => exact fork hv hu ho sv su rv ru

theorem stuck (ho : t.outcomes σ = []) : Carries σ t .stuck where
  results_eq := by simp [Move.leaf?, Move.next, Thread.results, ho]
  steady := by simp [Move.next]
  reach_lt := by simp [Move.next]
  steady_read := by simp

end Carries

section Move

variable {σ : State} {t : Thread} {r : Regex} {g : Bool} {k : List Frame}

theorem outcomes_flatMap_inOrder {α β : Type} (f : α → List β) (g : Bool) (xs ys : List α) :
    (inOrder g xs ys).flatMap f = inOrder g (xs.flatMap f) (ys.flatMap f) := by
  cases g <;> simp [inOrder]

/-- A round of `r` and then more of them. -/
theorem outcomes_enter (node : Nat) (σ : State) :
    (t.enter σ.place node r g k).outcomes σ =
      ((r.outcomes { σ with marks := t.marks }).flatMap (roundsOf r.outcomes g 0 none)).flatMap
        (todoOutcomes k) := by
  simp only [Thread.outcomes, Thread.enter, todoOutcomes, Frame.outcomes, List.flatMap_assoc]

theorem steady_enter (node : Nat) (hr : r.productive = true) (hn : r.nullable = false)
    (hk : Steady (σ.index + 1) k t.rounds) :
    (t.enter σ.place node r g k).Steady σ.index := by
  refine ⟨hr, ?_⟩
  simp only [Frame.nullable, hn, Bool.false_eq_true, if_false]
  refine ⟨by simp [Frame.productive, hr, hn], ?_, hk⟩
  simp [State.place]

theorem reach_enter (node : Nat) (hn : r.nullable = false) :
    reach (t.enter σ.place node r g k).todo = r.weight := by
  simp [Thread.enter, reach, Frame.weight, Frame.nullable, hn]

/-- A move of a thread that has the rounds of a repetition before it. -/
theorem carries_moveRounds {node n : Nat} {m : Option Nat}
    (hr : (r.productive && (m.isSome || !r.nullable)) = true)
    (hk : Steady (if n == 0 || r.nullable then σ.index else σ.index + 1) k t.rounds)
    (ho : t.outcomes σ =
      (roundsOf r.outcomes g n m { σ with marks := t.marks }).flatMap (todoOutcomes k))
    (hw : reach t.todo =
      roundsWeight r.weight n m + if n == 0 || r.nullable then reach k else 0) :
    Carries σ t (t.moveRounds σ.place node r g k n m) := by
  have hp : r.productive = true := (Bool.and_eq_true_iff.1 hr).1
  have hm := (Bool.and_eq_true_iff.1 hr).2
  unfold Thread.moveRounds
  split
  case h_1 =>
    have hn : r.nullable = false := by simpa using hm
    rw [if_neg (by simp [hn])]
    refine .go rfl ho ⟨by simp [Frame.productive, hp, hn], rfl, by simpa using hk⟩ ?_
    rw [hw]
    simp [reach, Frame.weight, Frame.nullable, roundsWeight]
  case h_2 =>
    have hn : r.nullable = false := by simpa using hm
    refine .go rfl ?_ (steady_enter node hp hn (by simpa [hn] using hk)) ?_
    · rw [ho, outcomes_enter]
      rfl
    · rw [hw, reach_enter node hn]
      simp only [roundsWeight, hn]
      simp
      omega
  case h_3 n =>
    have hn : r.nullable = false := by simpa using hm
    refine .go rfl ?_ (steady_round hr (by simpa [hn] using hk)) ?_
    · rw [ho]
      exact (todoOutcomes_round _).symm
    · rw [hw]
      exact reach_round_lt (by simp)
  case h_4 =>
    have hk : Steady σ.index k t.rounds := by simpa using hk
    refine .go rfl ?_ hk ?_
    · rw [ho]
      simp [Thread.outcomes, roundsOf, atMost]
    · rw [hw]
      simp [roundsWeight]
  case h_5 m =>
    have hk : Steady σ.index k t.rounds := by simpa using hk
    refine .choose rfl rfl ?_ (steady_round (by simpa using hp) (hk.mono ?_)) hk ?_ ?_
    · rw [ho, roundsOf, atMost, outcomes_flatMap_inOrder, Thread.outcomes, Thread.outcomes,
        todoOutcomes_round, List.flatMap_singleton]
      rfl
    · split <;> omega
    · rw [hw]
      exact reach_round_lt (by simp)
    · rw [hw]
      simp [roundsWeight]
  case h_6 n m =>
    refine .go rfl ?_ (steady_round (by simpa using hp) (by simpa using hk)) ?_
    · rw [ho]
      exact (todoOutcomes_round _).symm
    · rw [hw]
      exact reach_round_lt (by simp only [Option.getD_some]; omega)

/-- A move of a thread that has an expression before it. -/
theorem carries_run {start i : Nat} {rounds : List (Option Nat)} {marks : List Mark}
    (h : Steady σ.index (.run i r :: k) rounds) :
    Carries σ ⟨start, .run i r :: k, rounds, marks⟩
      (Thread.move ⟨start, .run i r :: k, rounds, marks⟩ σ.place) := by
  obtain ⟨hr, hk⟩ := h
  cases r with
  | empty =>
    show Carries σ _ (.go ⟨start, k, rounds, marks⟩)
    refine .go rfl ?_ hk ?_
    · simp [Thread.outcomes, todoOutcomes, Frame.outcomes, outcomes]
    · simp [reach, Frame.weight, Frame.nullable, nullable, Regex.weight]
  | one s =>
    refine ⟨?_, by simp [Thread.move, Move.next], by simp [Thread.move, Move.next], ?_⟩
    · simp only [Thread.move, Move.leaf?, Move.next, Option.toList_some, List.flatMap_cons,
        List.flatMap_nil, List.append_nil, Leaf.results, Thread.results, Thread.outcomes,
        todoOutcomes, Frame.outcomes, outcomes, List.map_flatMap, State.readOne]
      cases σ.rest with
      | nil => rfl
      | cons c cs =>
        by_cases hc : s.contains c = true
        · simp only [hc, if_true, List.flatMap_singleton]
          rfl
        · simp [hc]
    · intro s' u hu
      simp only [Thread.move, Move.read.injEq] at hu
      obtain ⟨-, rfl⟩ := hu
      exact hk
  | look l =>
    show Carries σ _
      (if l.holds σ.before σ.rest.head? then .go ⟨start, k, rounds, marks⟩ else .stuck)
    split
    · refine .go rfl ?_ hk ?_
      · simp [Thread.outcomes, todoOutcomes, Frame.outcomes, outcomes, *]
      · simp [reach, Frame.weight, Frame.nullable, nullable, Regex.weight]
    · exact .stuck (by simp [Thread.outcomes, todoOutcomes, Frame.outcomes, outcomes, *])
  | group g r =>
    show Carries σ _ (.go ⟨start, .run (i + 1) r :: .close g :: k, rounds,
      ⟨g, false, σ.index⟩ :: marks⟩)
    refine .go rfl ?_ ⟨hr, rfl, hk⟩ ?_
    · simp [Thread.outcomes, todoOutcomes, Frame.outcomes, outcomes, List.flatMap_map, State.mark]
    · by_cases h : r.nullable = true <;>
        simp [reach, Frame.weight, Frame.nullable, nullable, Regex.weight, h]
      omega
  | seq r s =>
    simp only [Frame.productive, productive, Bool.and_eq_true] at hr
    show Carries σ _ (.go ⟨start, .run (i + 1) r :: .later (i + 1 + r.nodes) s :: k, rounds, marks⟩)
    refine .go rfl ?_ ⟨hr.1, hr.2, hk.mono ?_⟩ ?_
    · simp [Thread.outcomes, todoOutcomes, Frame.outcomes, outcomes, List.flatMap_assoc]
    · by_cases h : r.nullable = true <;> by_cases h' : s.nullable = true <;>
        simp [Frame.nullable, nullable, h, h']
    · by_cases h : r.nullable = true <;> by_cases h' : s.nullable = true <;>
        simp [reach, Frame.weight, Frame.nullable, nullable, Regex.weight, h, h'] <;> omega
  | alt r s =>
    simp only [Frame.productive, productive, Bool.and_eq_true] at hr
    show Carries σ _ (.fork ⟨start, .run (i + 1) r :: k, rounds, marks⟩
      ⟨start, .run (i + 1 + r.nodes) s :: k, rounds, marks⟩)
    refine .fork rfl rfl ?_ ⟨hr.1, hk.mono ?_⟩ ⟨hr.2, hk.mono ?_⟩ ?_ ?_
    · simp [Thread.outcomes, todoOutcomes, Frame.outcomes, outcomes]
    · by_cases h : r.nullable = true <;> by_cases h' : s.nullable = true <;>
        simp [Frame.nullable, nullable, h, h']
    · by_cases h : r.nullable = true <;> by_cases h' : s.nullable = true <;>
        simp [Frame.nullable, nullable, h, h']
    · by_cases h : r.nullable = true <;>
        simp [reach, Frame.weight, Frame.nullable, nullable, Regex.weight, h] <;> omega
    · by_cases h' : s.nullable = true <;>
        simp [reach, Frame.weight, Frame.nullable, nullable, Regex.weight, h'] <;> omega
  | many r n m g => exact carries_moveRounds hr hk rfl rfl

/-- Every move of a steady thread keeps its matches. -/
theorem carries_move (h : t.Steady σ.index) : Carries σ t (t.move σ.place) := by
  obtain ⟨start, todo, rounds, marks⟩ := t
  cases todo with
  | nil =>
    refine ⟨?_, by simp [Thread.move, Move.next], by simp [Thread.move, Move.next],
      by simp [Thread.move]⟩
    simp [Thread.move, Move.leaf?, Move.next, Thread.results, Thread.outcomes, todoOutcomes,
      Leaf.results]
  | cons f k =>
    cases f with
    | run i r => exact carries_run h
    | later i r =>
      show Carries σ _ (.go ⟨start, .run i r :: k, rounds, marks⟩)
      refine .go rfl rfl h ?_
      by_cases h : r.nullable = true <;> simp [reach, Frame.weight, Frame.nullable, h]
    | rounds i n m g r => exact carries_moveRounds h.1 h.2 rfl rfl
    | close g =>
      show Carries σ _ (.go ⟨start, k, rounds, ⟨g, true, σ.index⟩ :: marks⟩)
      refine .go rfl ?_ h.2 ?_
      · simp [Thread.outcomes, todoOutcomes, Frame.outcomes, State.mark]
      · simp [reach, Frame.weight, Frame.nullable]
    | again i g r =>
      cases rounds with
      | nil => exact h.elim
      | cons began rounds =>
        obtain ⟨hr, hb, hk⟩ := h
        simp only [Frame.productive, Bool.and_eq_true, Bool.not_eq_true'] at hr
        obtain ⟨hp, hn⟩ := hr
        have shorter : ∀ σ, ∀ τ ∈ r.outcomes σ, τ.rest.length < σ.rest.length :=
          fun _ _ => length_lt_of_mem_outcomes hn
        let stop : Thread := ⟨start, k, rounds, marks⟩
        show Carries σ _ (if began.all (· < σ.index) then
          Thread.choose g (stop.enter σ.place i r g k) stop else .go stop)
        rw [if_pos hb]
        have steady := steady_enter (t := stop) (g := g) i hp hn (hk.mono (Nat.le_succ _))
        refine .choose rfl rfl ?_ steady hk ?_ ?_
        · rw [Thread.outcomes, todoOutcomes, Frame.outcomes, roundsOf_endless shorter,
            outcomes_flatMap_inOrder, outcomes_enter, List.flatMap_singleton]
          rfl
        · rw [reach_enter i hn]
          simp only [reach, Frame.weight, Frame.nullable]
          omega
        · simp [reach, Frame.weight, Frame.nullable, stop]

end Move

end GlobalImports.Regex
