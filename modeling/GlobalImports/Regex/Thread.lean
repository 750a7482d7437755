import GlobalImports.Regex.Basic
import Std.Data.TreeMap

/-! Partial matches. A thread says what it still has to match; at a place it either reads the next
character through a set, ends, is stuck, or goes on as one or two other threads. `follow` pursues
threads to the ends of this choice, in order. Where one of them has finished an expression and comes
to what is left behind it, it must be the first that comes to this remainder at the place; the
earlier one is preferred. -/

namespace GlobalImports.Regex

/-- A place between two characters of a text. -/
structure Place where
  index : Nat
  before : Option Char
  after : Option Char

/-- A piece of what a thread still has to match. `node` numbers the expressions of a pattern: an
expression comes right before its parts, which follow one another. -/
inductive Frame where
  /-- An expression that is about to begin. -/
  | run (node : Nat) (r : Regex)
  /-- An expression behind others that come first. -/
  | later (node : Nat) (r : Regex)
  /-- The rounds of a repetition that are left. -/
  | rounds (node min : Nat) (max : Option Nat) (greedy : Bool) (r : Regex)
  /-- Another round of a repetition without end, or its end. -/
  | again (node : Nat) (greedy : Bool) (r : Regex)
  | close (group : Nat)
  deriving DecidableEq, Repr

/-- A group opened or closed at an index. -/
structure Mark where
  group : Nat
  closing : Bool
  index : Nat
  deriving DecidableEq, Repr

/-- A match begun at `start`. `rounds` holds, for every `again` of `todo`, where the current round
began, or nothing before the first round; `marks` holds the groups passed, latest first. -/
structure Thread where
  start : Nat
  todo : List Frame
  rounds : List (Option Nat)
  marks : List Mark
  deriving DecidableEq, Repr

/-- What a thread does at a place. -/
inductive Move where
  | stuck
  | finish
  | read (s : CharSet) (next : Thread)
  | go (next : Thread)
  | fork (first second : Thread)

/-- The threads that a move goes on as. -/
def Move.next : Move → List Thread
  | stuck | finish | read _ _ => []
  | go t => [t]
  | fork t u => [t, u]

namespace Thread

/-- The thread that has all of `r` before it. -/
def begin (r : Regex) (index : Nat) : Thread := ⟨index, [.run 0 r], [], []⟩

/-- A round of `r`, after which `todo` is left. -/
def enter (t : Thread) (p : Place) (node : Nat) (r : Regex) (greedy : Bool) (todo : List Frame) :
    Thread :=
  { t with todo := .run node r :: .again node greedy r :: todo, rounds := some p.index :: t.rounds }

/-- The rounds that are left of a counted repetition, and what is left behind them. -/
def roundsLeft (node : Nat) (r : Regex) (greedy : Bool) (todo : List Frame) :
    Nat → Option Nat → List Frame
  | 0, some 0 => todo
  | n, m => .rounds node n m greedy r :: todo

/-- The two ways on from a repetition that may end. -/
def choose (greedy : Bool) (more stop : Thread) : Move :=
  if greedy then .fork more stop else .fork stop more

/-- A repetition with nothing left to require may go into a round or end. Where every round reads
something, the way in and the way back are one. -/
def moveRounds (t : Thread) (p : Place) (node : Nat) (r : Regex) (g : Bool) (k : List Frame) :
    Nat → Option Nat → Move
  | 0, none =>
    if r.nullable then choose g (t.enter p node r g k) { t with todo := k }
    else .go { t with todo := .again node g r :: k, rounds := none :: t.rounds }
  | 1, none => .go (t.enter p node r g k)
  | n + 2, none => .go { t with todo := .run node r :: roundsLeft node r g k (n + 1) none }
  | 0, some 0 => .go { t with todo := k }
  | 0, some (m + 1) =>
    choose g { t with todo := .run node r :: roundsLeft node r g k 0 (some m) } { t with todo := k }
  | n + 1, some m => .go { t with todo := .run node r :: roundsLeft node r g k n (some (m - 1)) }

/-- A round that has read nothing ends its repetition. -/
def move (t : Thread) (p : Place) : Move :=
  match t.todo with
  | [] => .finish
  | .run _ .empty :: k => .go { t with todo := k }
  | .run _ (.one s) :: k => .read s { t with todo := k }
  | .run _ (.look l) :: k => if l.holds p.before p.after then .go { t with todo := k } else .stuck
  | .run i (.group g r) :: k =>
    .go { t with todo := .run (i + 1) r :: .close g :: k, marks := ⟨g, false, p.index⟩ :: t.marks }
  | .run i (.seq r s) :: k =>
    .go { t with todo := .run (i + 1) r :: .later (i + 1 + r.nodes) s :: k }
  | .run i (.alt r s) :: k =>
    .fork { t with todo := .run (i + 1) r :: k } { t with todo := .run (i + 1 + r.nodes) s :: k }
  | .run i (.many r n m g) :: k => t.moveRounds p (i + 1) r g k n m
  | .later i r :: k => .go { t with todo := .run i r :: k }
  | .rounds i n m g r :: k => t.moveRounds p i r g k n m
  | .again i g r :: k =>
    match t.rounds with
    | [] => .go { t with todo := k }
    | began :: rounds =>
      let stop : Thread := { t with todo := k, rounds := rounds }
      if began.all (· < p.index) then choose g (stop.enter p i r g k) stop else .go stop
  | .close g :: k => .go { t with todo := k, marks := ⟨g, true, p.index⟩ :: t.marks }

/-- Has come to a remainder that other threads may come to from elsewhere. -/
def resumes (t : Thread) : Bool :=
  match t.todo with
  | .run _ _ :: _ => false
  | _ => true

end Thread

/-! ### Every move makes the remainder smaller -/

/-- Bound on the moves in rounds that weigh `weight` each. -/
def roundsWeight (weight min : Nat) (max : Option Nat) : Nat :=
  (weight + 2) * (min + max.getD 0 + 1) + 1

/-- Bound on the moves inside an expression at one place. -/
def weight : Regex → Nat
  | empty | one _ | look _ => 1
  | group _ r => r.weight + 2
  | seq r s | alt r s => r.weight + s.weight + 2
  | many r n m _ => roundsWeight r.weight n m

namespace Thread

/-- Bound on the moves that the remainder allows at one place. A repetition whose round began
earlier may go into a further round, one whose round began here may not. -/
def pending (index : Nat) : List Frame → List (Option Nat) → Nat
  | [], _ => 0
  | .run _ r :: k, rounds => r.weight + pending index k rounds
  | .later _ r :: k, rounds => r.weight + 1 + pending index k rounds
  | .rounds _ n m _ r :: k, rounds => roundsWeight r.weight n m + pending index k rounds
  | .close _ :: k, rounds => 1 + pending index k rounds
  | .again _ _ _ :: k, [] => 1 + pending index k []
  | .again _ _ r :: k, began :: rounds =>
    (if began.all (· < index) then r.weight + 2 else 1) + pending index k rounds

def size (t : Thread) (p : Place) : Nat := pending p.index t.todo t.rounds

theorem size_enter (t : Thread) (p : Place) (i : Nat) (r : Regex) (g : Bool) (k : List Frame) :
    (t.enter p i r g k).size p = r.weight + 1 + pending p.index k t.rounds := by
  simp [size, enter, pending, Nat.add_assoc]

theorem mem_next_choose {g : Bool} {more stop u : Thread} :
    u ∈ (choose g more stop).next ↔ u = more ∨ u = stop := by
  cases g <;> simp [choose, Move.next, or_comm]

/-- One counted round less weighs less, with the round itself put in front. -/
theorem size_round_lt (t : Thread) (p : Place) (i : Nat) (r : Regex) (g : Bool) (k : List Frame)
    {n n' : Nat} {m m' : Option Nat} (h : n' + m'.getD 0 < n + m.getD 0) :
    ({ t with todo := .run i r :: roundsLeft i r g k n' m' } : Thread).size p <
      roundsWeight r.weight n m + pending p.index k t.rounds := by
  have := Nat.mul_le_mul_left (r.weight + 2) (Nat.succ_le_of_lt h)
  rw [Nat.mul_succ] at this
  simp only [size, roundsLeft]
  split <;> simp only [pending, roundsWeight, Nat.mul_succ] <;> omega

theorem size_lt_of_mem_moveRounds {t u : Thread} {p : Place} {i n : Nat} {r : Regex} {g : Bool}
    {k : List Frame} {m : Option Nat} (h : u ∈ (t.moveRounds p i r g k n m).next) :
    u.size p < roundsWeight r.weight n m + pending p.index k t.rounds := by
  unfold moveRounds at h
  split at h
  case h_1 =>
    split at h
    · rcases mem_next_choose.1 h with rfl | rfl
      · rw [size_enter]
        simp only [roundsWeight, Option.getD_none]
        omega
      · simp [size, roundsWeight]
    · simp only [Move.next, List.mem_singleton] at h
      subst h
      simp [size, pending, roundsWeight]
  case h_2 =>
    simp only [Move.next, List.mem_singleton] at h
    subst h
    rw [size_enter]
    simp only [roundsWeight, Option.getD_none]
    omega
  case h_3 n =>
    simp only [Move.next, List.mem_singleton] at h
    subst h
    exact size_round_lt t p i r g k (by simp)
  case h_4 =>
    simp only [Move.next, List.mem_singleton] at h
    subst h
    simp [size, roundsWeight]
  case h_5 m =>
    rcases mem_next_choose.1 h with rfl | rfl
    · exact size_round_lt t p i r g k (by simp)
    · simp [size, roundsWeight]
  case h_6 n m =>
    simp only [Move.next, List.mem_singleton] at h
    subst h
    exact size_round_lt t p i r g k (by simp only [Option.getD_some]; omega)

theorem size_lt_of_mem_next {t u : Thread} {p : Place} (h : u ∈ (t.move p).next) :
    u.size p < t.size p := by
  unfold move at h
  split at h
  case h_1 | h_3 => simp [Move.next] at h
  case h_2 ht | h_5 ht | h_6 ht | h_9 ht | h_12 ht =>
    simp only [Move.next, List.mem_singleton] at h
    subst h
    simp only [size, ht, pending, weight]
    omega
  case h_4 l k ht =>
    split at h <;> simp only [Move.next, List.mem_singleton, List.not_mem_nil] at h
    subst h
    simp [size, ht, pending, weight]
  case h_7 r s k ht =>
    simp only [Move.next, List.mem_cons, List.not_mem_nil, or_false] at h
    rcases h with rfl | rfl <;> simp only [size, ht, pending, weight] <;> omega
  case h_8 ht | h_10 ht =>
    have := size_lt_of_mem_moveRounds h
    simpa only [size, ht, pending, weight] using this
  case h_11 i g r k ht =>
    split at h
    case h_1 hr =>
      simp only [Move.next, List.mem_singleton] at h
      subst h
      simp [size, ht, hr, pending]
    case h_2 began rounds hr =>
      split at h
      case isTrue hb =>
        rcases mem_next_choose.1 h with rfl | rfl
        · rw [size_enter]
          simp only [size, ht, hr, pending, hb, if_true]
          omega
        · simp [size, ht, hr, pending, hb]
      case isFalse hb =>
        simp only [Move.next, List.mem_singleton] at h
        subst h
        simp [size, ht, hr, pending, hb]

end Thread

/-! ### Remainders that have been followed -/

/-- A number for a piece. Different pieces of one pattern hardly ever share one, and the rounds of
one repetition have neighbouring numbers. -/
def Frame.code : Frame → Nat
  | run i _ => 8388593 * i
  | later i _ => 8388593 * i + 1
  | rounds i n m _ _ => 8388593 * i + 2 + n + m.getD 0
  | again i _ _ => 8388593 * i + 4194301
  | close g => 524287 * g + 3

/-- A number for a remainder. -/
def codeOf (todo : List Frame) : Nat :=
  todo.foldl (fun n f => (n * 1048573 + f.code) % 2147483647) 1

/-- A set of remainders, kept by their numbers. -/
structure Followed where
  byCode : Std.TreeMap Nat (List (List Frame))

namespace Followed

def empty : Followed := ⟨∅⟩

def contains (s : Followed) (todo : List Frame) : Bool :=
  (s.byCode.getD (codeOf todo) []).contains todo

def insert (s : Followed) (todo : List Frame) : Followed :=
  ⟨s.byCode.insert (codeOf todo) (todo :: s.byCode.getD (codeOf todo) [])⟩

@[simp] theorem contains_empty (todo : List Frame) : empty.contains todo = false := by
  simp [empty, contains]

@[simp] theorem contains_insert (s : Followed) (a b : List Frame) :
    (s.insert a).contains b = (b == a || s.contains b) := by
  simp only [insert, contains, Std.TreeMap.getD_insert]
  split
  case isTrue h =>
    rw [Nat.compare_eq_eq] at h
    rw [List.contains_cons, h]
  case isFalse h =>
    have : b ≠ a := fun e => h (e ▸ Nat.compare_eq_eq.2 rfl)
    simp [this]

end Followed

/-! ### Following threads to the next character -/

/-- A thread that wants a character, or has nothing left to match. -/
inductive Leaf where
  | read (s : CharSet) (next : Thread)
  | finish (t : Thread)

/-- The leaf that a thread is, if it goes on no further at this place. -/
def Move.leaf? (t : Thread) : Move → Option Leaf
  | .finish => some (.finish t)
  | .read s u => some (.read s u)
  | .stuck | .go _ | .fork _ _ => none

/-- Bound on the threads that some threads become at a place. -/
def sizes (p : Place) : List Thread → Nat
  | [] => 0
  | t :: threads => Nat.pow 3 (t.size p) + sizes p threads

@[simp] theorem sizes_append (p : Place) (as bs : List Thread) :
    sizes p (as ++ bs) = sizes p as + sizes p bs := by
  induction as with
  | nil => simp [sizes]
  | cons a as ih => simp [sizes, ih, Nat.add_assoc]

theorem pow_size_pos (t : Thread) (p : Place) : 0 < Nat.pow 3 (t.size p) :=
  Nat.pow_pos (Nat.succ_pos 2)

/-- At most two threads come of one, each of them smaller. -/
theorem sizes_next_lt (t : Thread) (p : Place) :
    sizes p (t.move p).next < Nat.pow 3 (t.size p) := by
  have smaller {u : Thread} (h : u ∈ (t.move p).next) :
      Nat.pow 3 (u.size p) * 3 ≤ Nat.pow 3 (t.size p) :=
    Nat.pow_le_pow_right (Nat.succ_pos 2) (Thread.size_lt_of_mem_next h)
  cases h : t.move p with
  | stuck | finish | read => exact pow_size_pos t p
  | go u =>
    have := smaller (u := u) (by simp [h, Move.next])
    have := pow_size_pos u p
    simp only [Move.next, sizes]
    omega
  | fork u v =>
    have := smaller (u := u) (by simp [h, Move.next])
    have := smaller (u := v) (by simp [h, Move.next])
    have := pow_size_pos u p
    simp only [Move.next, sizes]
    omega

/-- The leaves of the threads behind those found, most preferred first. A thread is passed over if
it comes to a remainder that has been followed before. -/
def follow (p : Place) (followed : Followed) (leaves : List Leaf) : List Thread → List Leaf
  | [] => leaves.reverse
  | t :: threads =>
    if t.resumes && followed.contains t.todo then follow p followed leaves threads
    else
      let m := t.move p
      follow p (if t.resumes then followed.insert t.todo else followed)
        ((m.leaf? t).toList ++ leaves) (m.next ++ threads)
termination_by threads => sizes p threads
decreasing_by
  · exact Nat.lt_add_of_pos_left (pow_size_pos t p)
  · rw [sizes_append]
    exact Nat.add_lt_add_right (sizes_next_lt t p) _

/-- The leaves of all threads at a place, most preferred first. -/
def leavesAt (p : Place) (threads : List Thread) : List Leaf := follow p .empty [] threads

end GlobalImports.Regex
