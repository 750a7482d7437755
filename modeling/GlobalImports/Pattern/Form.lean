import GlobalImports.Regex.Basic

/-! Patterns in normal form. Sequences and alternatives are flat, neighbouring characters make one
literal, alternatives between single characters make one set, and what all alternatives begin with
stands once in front of them. -/

namespace GlobalImports.Pattern

open Unicode (Ranges)

inductive Form where
  | empty
  | literal (text : List Char)
  /-- Sets read with and without the Unicode flag count as different. -/
  | set (members : Ranges) (unicode : Bool)
  | look (l : Regex.Look)
  | group (index : Nat) (f : Form)
  | many (f : Form) (min : Nat) (max : Option Nat) (greedy : Bool)
  | seq (fs : List Form)
  | alt (fs : List Form)
  deriving Repr

namespace Form

/-! ### Equality -/

mutual

/-- Whether two forms are the same. -/
def same : Form → Form → Bool
  | empty, empty => true
  | literal s, literal t => s == t
  | set r u, set s v => u == v && r == s
  | look l, look m => l == m
  | group i f, group j g => i == j && f.same g
  | many f n m a, many g k l b => n == k && m == l && a == b && f.same g
  | seq fs, seq gs => sameAll fs gs
  | alt fs, alt gs => sameAll fs gs
  | _, _ => false

def sameAll : List Form → List Form → Bool
  | [], [] => true
  | f :: fs, g :: gs => f.same g && sameAll fs gs
  | _, _ => false

end

mutual

theorem eq_of_same {f g : Form} (h : f.same g = true) : f = g := by
  cases f <;> cases g <;> simp only [same, Bool.and_eq_true, beq_iff_eq, Bool.false_eq_true] at h
  case empty.empty => rfl
  case literal.literal => rw [h]
  case set.set => rw [h.1, h.2]
  case look.look => rw [h]
  case group.group => rw [h.1, eq_of_same h.2]
  case many.many => rw [h.1.1.1, h.1.1.2, h.1.2, eq_of_same h.2]
  case seq.seq => rw [eq_of_sameAll h]
  case alt.alt => rw [eq_of_sameAll h]

theorem eq_of_sameAll {fs gs : List Form} (h : sameAll fs gs = true) : fs = gs := by
  cases fs <;> cases gs <;> simp only [sameAll, Bool.and_eq_true, Bool.false_eq_true] at h
  case nil.nil => rfl
  case cons.cons => rw [eq_of_same h.1, eq_of_sameAll h.2]

end

mutual

theorem same_self (f : Form) : f.same f = true := by
  cases f <;> simp [same, same_self, sameAll_self]

theorem sameAll_self (fs : List Form) : sameAll fs fs = true := by
  cases fs <;> simp [sameAll, same_self, sameAll_self]

end

instance : DecidableEq Form := fun f g =>
  if h : f.same g then isTrue (eq_of_same h)
  else isFalse fun e => h (e ▸ same_self f)

/-! ### Measures -/

mutual

/-- Number of expressions, the form itself included. -/
def nodes : Form → Nat
  | empty | literal _ | set _ _ | look _ => 1
  | group _ f | many f _ _ _ => f.nodes + 1
  | seq fs | alt fs => nodesIn fs + 1

def nodesIn : List Form → Nat
  | [] => 0
  | f :: fs => f.nodes + nodesIn fs

end

mutual

/-- Matches no character at all. -/
def isHollow : Form → Bool
  | empty | look _ => true
  | literal _ | set _ _ => false
  | group _ f | many f _ _ _ => f.isHollow
  | seq fs | alt fs => areHollow fs

def areHollow : List Form → Bool
  | [] => true
  | f :: fs => f.isHollow && areHollow fs

end

/-! ### Building forms -/

def char (c : Char) : Form := literal [c]

/-- A set of one member is that character, and all ways to match nothing are the same. -/
def ofSet (r : Ranges) (unicode : Bool) : Form :=
  if r.isEmpty then set .empty false
  else match r.single? with
    | some c => char c
    | none => set r unicode

/-- What stands side by side in the form. -/
def factors : Form → List Form
  | empty => []
  | seq fs => fs
  | f => [f]

/-- Puts a form in front, joined to a literal if it is one itself. -/
def join : Form → List Form → List Form
  | literal s, literal t :: fs => literal (s ++ t) :: fs
  | f, fs => f :: fs

/-- The forms one after the other. -/
def concat (fs : List Form) : Form :=
  match (fs.flatMap factors).foldr join [] with
  | [] => empty
  | [f] => f
  | fs => seq fs

/-- A repetition in its plainest form: none at all is the empty form, exactly one is the form
itself, and what matches no character is matched at most once. -/
def times (f : Form) (min : Nat) (max : Option Nat) (greedy : Bool) : Form :=
  let (min, max) :=
    if f.isHollow then (Nat.min min 1, some ((max.map (Nat.min · 1)).getD 1)) else (min, max)
  match min, max with
  | 0, some 0 => empty
  | 1, some 1 => f
  | min, max => many f min max greedy

/-! ### Alternatives -/

def branches : Form → List Form
  | alt fs => fs
  | f => [f]

def char? : Form → Option Char
  | literal [c] => some c
  | _ => none

def set? : Form → Option Ranges
  | set r _ => some r
  | _ => none

def seq? : Form → Option (List Form)
  | seq fs => some fs
  | _ => none

/-- How many forms the two lists begin with in common. -/
def agreement : List Form → List Form → Nat
  | f :: fs, g :: gs => if f = g then agreement fs gs + 1 else 0
  | _, _ => 0

/-- How many forms all lists begin with in common. -/
def agreementOf : List (List Form) → Nat
  | [] => 0
  | first :: rest => rest.foldl (fun n fs => Nat.min n (agreement first fs)) first.length

/-- Flat alternatives in their plainest form. What sequences begin with in common is put in front
of what is left of them, which are alternatives again. Every round removes nodes, so that their
number bounds the rounds. -/
def choice : Nat → List Form → Form
  | _, [] => set .empty false
  | _, [f] => f
  | 0, fs => alt fs
  | rounds + 1, fs =>
    match fs.mapM char?, fs.mapM set?, fs.mapM seq? with
    | some cs, _, _ => ofSet (.unions (cs.map .single)) true
    | _, some rs, _ => ofSet (.unions rs) true
    | _, _, some sequences =>
      let n := agreementOf sequences
      if n = 0 then alt fs
      else
        let rest := sequences.flatMap fun s => (concat (s.drop n)).branches
        concat ((sequences.headD []).take n ++ [choice rounds rest])
    | _, _, _ => alt fs

/-- Any one of the forms, an earlier one preferred. -/
def oneOf (fs : List Form) : Form := choice (nodesIn fs) (fs.flatMap branches)

/-! ### As regular expressions -/

mutual

def regex : Form → Regex
  | empty => .empty
  | literal s => .cat (s.map .char)
  | set r _ => .one (.table r)
  | look l => .look l
  | group i f => .group i f.regex
  | many f n m greedy => .many f.regex n m greedy
  | seq fs => .cat (regexes fs)
  | alt fs => .oneOf (regexes fs)

def regexes : List Form → List Regex
  | [] => []
  | f :: fs => f.regex :: regexes fs

end

example : concat [char 'a', seq [char 'b', group 1 empty]] =
    seq [literal ['a', 'b'], group 1 empty] := by decide

example : oneOf [seq [many (char 'a') 0 none true, look .textStart],
      seq [many (char 'a') 0 none true, group 1 empty]] =
    seq [many (char 'a') 0 none true, alt [look .textStart, group 1 empty]] := by decide

end Form

end GlobalImports.Pattern
