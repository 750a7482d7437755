import GlobalImports.Proofs.Json.Outcome
import Mathlib.Data.List.Forall2

/-! Members of objects and elements of lists, read one after the other. Once it is known what becomes
of each of them, whatever comes behind it, it is known of all: the first one that is refused is the
cause for which the whole is refused. -/

namespace GlobalImports.Json

/-! ### What is left inside of brackets -/

/-- All texts of what brackets enclose, or those behind one that has been passed. -/
def left (first : Bool) (g : Gap) (ts : List (List Char)) : List Char :=
  if first then inner g ts else g.chars ++ behindComma ts

section Left

variable (g : Gap)

theorem left_nil (first : Bool) (t : List Char) : left first g [] ++ t = g.chars ++ t := by
  cases first with
  | true => rfl
  | false => rw [left, if_neg Bool.false_ne_true, behindComma, List.flatMap_nil, List.append_nil]

theorem length_behindComma (ts : List (List Char)) : ts.length ≤ (behindComma ts).length := by
  induction ts with
  | nil => exact Nat.le_refl 0
  | cons t ts ih =>
    rw [behindComma_cons, List.length_cons, List.length_cons, List.length_append]
    omega

theorem follows_left (ts : List (List Char)) {rest : List Char} (h : Follows rest) :
    Follows (left false g ts ++ rest) := by
  rw [left, if_neg Bool.false_ne_true, List.append_assoc]
  refine Follows.gap_append g ?_
  cases ts with
  | nil => exact h
  | cons t ts => exact follows_cons (by decide)

end Left

/-! ### Members -/

section Members

variable {α β σ : Type}

/-- What is behind the key of a member, up to its value and then `t`. -/
def Member.behind (m : Member) (t : List Char) : List Char :=
  m.middle.chars ++ ':' :: (m.item.before.chars ++ (m.item.value ++ t))

/-- The first member that is left, and the text in front of the next. -/
theorem inner_member (g : Gap) (m : Member) (ms : List Member) (t : List Char) :
    inner g ((m :: ms).map Member.text) ++ t = m.before.chars ++ '"' :: (m.key.body ++ '"' ::
      m.behind (left false m.item.after (ms.map Member.text) ++ t)) := by
  simp [inner_cons, Member.text_append, Item.text_append, Member.behind, left]

/-- What is behind the key of a member is read as one thing or refused for one cause. -/
def YieldsBehind (r : Reader α) (m : Member) (o : Except Cause α) : Prop :=
  ∀ rest, Follows rest → outcome (r (m.behind rest)) = o.map fun a => (a, rest)

/-- The reader takes what is behind the key of a member for `a`. -/
def ReadsBehind (r : Reader α) (m : Member) (a : α) : Prop :=
  ∀ rest, Follows rest →
    r (m.middle.chars ++ ':' :: (m.item.before.chars ++ (m.item.value ++ rest))) = .ok (a, rest)

section Behind

variable {r : Reader α} {m : Member} {o : Except Cause α} {a : α}

theorem yieldsBehind_ok_iff : YieldsBehind r m (.ok a) ↔ ReadsBehind r m a := by
  unfold YieldsBehind ReadsBehind Member.behind
  simp only [Except.map, outcome_eq_ok_iff]

theorem YieldsBehind.unique {o' : Except Cause α} (h : YieldsBehind r m o)
    (h' : YieldsBehind r m o') : o = o' := by
  have both := (h [] follows_nil).symm.trans (h' [] follows_nil)
  cases o <;> cases o' <;> simp_all [Except.map]

theorem Yields.memberValue (h : Yields r m.item.value o) : YieldsBehind (memberValue r) m o := by
  intro rest hr
  rw [Json.memberValue, bind_apply, Member.behind, colon_gap, bind_ok]
  exact h m.item.before rest hr

theorem YieldsBehind.map (h : YieldsBehind r m o) (f : α → β) :
    YieldsBehind (do return f (← r)) m (o.map f) :=
  fun rest hr => outcome_pure_bind (h rest hr) f

theorem Yields.once {old : Option α} (h : Yields r m.item.value o) (name : String)
    (first : old = none) : YieldsBehind (once name old r) m (o.map some) := by
  subst first
  exact h.memberValue.map some

/-- A member that may come once is refused when it comes again. -/
theorem yieldsBehind_once_again {old : Option α} (name : String) (again : old.isSome = true)
    (r : Reader α) : YieldsBehind (once name old r) m (.error (.duplicateField name)) := by
  intro rest _
  rw [Json.once, if_pos again, failObject, bind_apply, bind_apply, Member.behind, peekToken_gap,
    peekToken_cons _ (by decide)]
  rfl

theorem exists_yieldsBehind_once (name : String) (old : Option α)
    (h : ∃ o, Yields r m.item.value o) : ∃ o, YieldsBehind (once name old r) m o := by
  obtain ⟨o, ho⟩ := h
  cases old with
  | none => exact ⟨_, ho.once name rfl⟩
  | some a => exact ⟨_, yieldsBehind_once_again name rfl r⟩

theorem Reads.memberValue (h : Reads r m.item.value a) : ReadsBehind (memberValue r) m a :=
  yieldsBehind_ok_iff.1 (yields_ok_iff.2 h).memberValue

theorem Reads.once {old : Option α} (h : Reads r m.item.value a) (name : String)
    (first : old = none) : ReadsBehind (once name old r) m (some a) :=
  yieldsBehind_ok_iff.1 ((yields_ok_iff.2 h).once name first)

theorem ReadsBehind.map (h : ReadsBehind r m a) (f : α → β) :
    ReadsBehind (do return f (← r)) m (f a) :=
  yieldsBehind_ok_iff.1 ((yieldsBehind_ok_iff.2 h).map f)

end Behind

/-- The members take what has been gathered to what is gathered in the end. -/
inductive Gathers (member : σ → String → Reader σ) : σ → List Member → σ → Prop where
  | nil (s : σ) : Gathers member s [] s
  | cons {s s' s'' : σ} {key : String} {m : Member} {ms : List Member} (hk : m.key.Spells key)
      (h : ReadsBehind (member s key) m s') :
      Gathers member s' ms s'' → Gathers member s (m :: ms) s''

/-- What becomes of the members: all of them are gathered, or one of them is in the way, by its key
or by what is behind it. -/
inductive Runs (member : σ → String → Reader σ) : σ → List Member → Except Cause σ → Prop where
  | nil (s : σ) : Runs member s [] (.ok s)
  | broken {s : σ} {m : Member} {ms : List Member} {cause : Cause}
      (h : ∀ rest, outcome (stringRest (m.key.body ++ '"' :: rest)) = .error cause) :
      Runs member s (m :: ms) (.error cause)
  | refused {s : σ} {key : String} {m : Member} {ms : List Member} {cause : Cause}
      (hk : m.key.Spells key) (h : YieldsBehind (member s key) m (.error cause)) :
      Runs member s (m :: ms) (.error cause)
  | cons {s s' : σ} {key : String} {m : Member} {ms : List Member} {o : Except Cause σ}
      (hk : m.key.Spells key) (h : YieldsBehind (member s key) m (.ok s')) :
      Runs member s' ms o → Runs member s (m :: ms) o

variable {member : σ → String → Reader σ} {s s' : σ} {ms : List Member} {o : Except Cause σ}

theorem Gathers.runs (h : Gathers member s ms s') : Runs member s ms (.ok s') := by
  induction h with
  | nil s => exact .nil s
  | cons hk h _ ih => exact .cons hk (yieldsBehind_ok_iff.2 h) ih

theorem Runs.append {ms' : List Member} (h : Runs member s ms (.ok s')) (h' : Runs member s' ms' o) :
    Runs member s (ms ++ ms') o := by
  generalize ended : Except.ok s' = e at h
  induction h with
  | nil s =>
    obtain rfl := Except.ok.inj ended
    exact h'
  | broken => cases ended
  | refused => cases ended
  | cons hk h _ ih => exact .cons hk h (ih ended)

/-- Once every member has an outcome, all of them together have one. -/
theorem exists_runs (h : ∀ m ∈ ms, ∀ s key, ∃ o, YieldsBehind (member s key) m o) (s : σ) :
    ∃ o, Runs member s ms o := by
  induction ms generalizing s with
  | nil => exact ⟨_, .nil s⟩
  | cons m ms ih =>
    obtain ⟨k, spells, hk⟩ := m.key.exists_outcome
    cases k with
    | error cause => exact ⟨_, .broken hk⟩
    | ok key =>
      obtain ⟨o, ho⟩ := h m List.mem_cons_self s key
      cases o with
      | error cause => exact ⟨_, .refused (spells key rfl) ho⟩
      | ok s' =>
        obtain ⟨o, rest⟩ := ih (fun m hm => h m (List.mem_cons_of_mem _ hm)) s'
        exact ⟨o, .cons (spells key rfl) ho rest⟩

theorem nextKey?_close (first : Bool) (g : Gap) (rest : List Char) :
    nextKey? first (g.chars ++ '}' :: rest) = .ok (none, '}' :: rest) := by
  rw [nextKey?, bind_apply, peekToken_gap, peekToken_cons rest (by decide)]
  rfl

theorem nextKey?_first (g : Gap) (t : List Char) :
    nextKey? true (g.chars ++ '"' :: t) = (do return some (← stringRest) : Reader _) t := by
  rw [nextKey?, bind_apply, peekToken_gap, peekToken_cons _ (by decide)]
  rfl

theorem nextKey?_next (g g' : Gap) (t : List Char) :
    nextKey? false (g.chars ++ ',' :: (g'.chars ++ '"' :: t)) =
      (do return some (← stringRest) : Reader _) t := by
  rw [nextKey?, bind_apply, peekToken_gap, peekToken_cons _ (by decide)]
  simp [peekToken_cons _ (show isSpace '"' = false by decide)]

/-- The next key is read if it spells anything. -/
theorem outcome_nextKey? (m : Member) (ms : List Member) {k : Except Cause String}
    (hk : ∀ rest, outcome (stringRest (m.key.body ++ '"' :: rest)) = k.map fun s => (s, rest))
    (first : Bool) (g : Gap) (t : List Char) :
    outcome (nextKey? first (left first g ((m :: ms).map Member.text) ++ t)) =
      (k.map some).map fun key =>
        (key, m.behind (left false m.item.after (ms.map Member.text) ++ t)) := by
  have text := inner_member g m ms t
  cases first with
  | true =>
    rw [left, if_pos rfl, text, nextKey?_first]
    exact outcome_pure_bind (hk _) some
  | false =>
    rw [List.map_cons, inner_cons] at text
    rw [left, if_neg Bool.false_ne_true, List.map_cons, behindComma_cons, List.append_assoc,
      List.cons_append, text, nextKey?_next]
    exact outcome_pure_bind (hk _) some

/-- All members that are left, up to the closing brace. -/
theorem outcome_go (h : Runs member s ms o) {fuel : Nat} (hf : ms.length < fuel) (first : Bool)
    (g : Gap) (rest : List Char) :
    outcome (members.go member fuel first s (left first g (ms.map Member.text) ++ '}' :: rest)) =
      o.map fun s => (s, '}' :: rest) := by
  have closing : Follows ('}' :: rest) := follows_cons (by decide)
  induction h generalizing fuel first g with
  | nil s =>
    obtain ⟨f, rfl⟩ : ∃ n, fuel = n + 1 := ⟨fuel - 1, by omega⟩
    rw [members.go, bind_apply, List.map_nil, left_nil, nextKey?_close]
    rfl
  | broken h =>
    obtain ⟨f, rfl⟩ : ∃ n, fuel = n + 1 := ⟨fuel - 1, by omega⟩
    rw [members.go]
    exact outcome_bind (outcome_nextKey? _ _ (k := .error _) h first g _) _
  | @refused s key m ms cause hk h =>
    obtain ⟨f, rfl⟩ : ∃ n, fuel = n + 1 := ⟨fuel - 1, by omega⟩
    have next := outcome_nextKey? m ms (k := .ok key)
      (fun rest => by rw [stringRest_body hk]; rfl) first g ('}' :: rest)
    rw [members.go, outcome_bind next]
    exact outcome_bind (h _ (follows_left _ _ closing)) _
  | @cons s s' key m ms o hk h _ ih =>
    rw [List.length_cons] at hf
    obtain ⟨f, rfl⟩ : ∃ n, fuel = n + 1 := ⟨fuel - 1, by omega⟩
    have next := outcome_nextKey? m ms (k := .ok key)
      (fun rest => by rw [stringRest_body hk]; rfl) first g ('}' :: rest)
    rw [members.go, outcome_bind next]
    show outcome ((member s key >>= fun s => members.go member f false s) _) = _
    rw [outcome_bind (h _ (follows_left _ _ closing))]
    exact ih (by omega) false m.item.after

/-- All members up to the closing brace. -/
theorem outcome_members (h : Runs member s ms o) (g : Gap) (rest : List Char) :
    outcome (members member s (inner g (ms.map Member.text) ++ '}' :: rest)) =
      o.map fun s => (s, '}' :: rest) := by
  rw [members, bind_apply, get_apply, bind_ok]
  refine outcome_go h ?_ true g rest
  cases ms with
  | nil => exact Nat.succ_pos _
  | cons m ms =>
    have := length_behindComma (ms.map Member.text)
    simp only [List.map_cons, inner_cons, List.length_append, List.length_cons,
      List.length_map, Member.text, Member.rest] at this ⊢
    omega

/-- An object whose members are read, and then what is made of them in front of the closing brace. -/
theorem Runs.yields (h : Runs member s ms o) (g : Gap) {r : Char → Reader α} {f : σ → Reader α}
    {k : σ → Except Cause α} (hr : r '{' = do bump; let s ← members member s; f s)
    (hf : ∀ s rest, outcome (f s ('}' :: rest)) = (k s).map fun a => (a, rest)) :
    Yields (peekValue >>= r) (objectText g ms) (o.bind k) := by
  refine yields_peekValue (by decide) fun rest _ => ?_
  rw [hr, ← List.cons_append, ← objectText, objectText_append]
  show outcome ((members member s >>= f) (inner g (ms.map Member.text) ++ '}' :: rest)) = _
  rw [outcome_bind (outcome_members h g rest)]
  cases o with
  | error cause => rfl
  | ok s => exact hf s rest

theorem members_inner (h : Gathers member s ms s') (g : Gap) (rest : List Char) :
    members member s (inner g (ms.map Member.text) ++ '}' :: rest) = .ok (s', '}' :: rest) :=
  outcome_eq_ok_iff.1 (outcome_members h.runs g rest)

end Members

/-! ### Elements -/

section Elements

variable {α : Type} {r : Reader α} {es : List Item} {as : List α}

/-- The element is there, and it is read as one thing or refused for one cause. -/
structure YieldsItem (r : Reader α) (e : Item) (o : Except Cause α) : Prop where
  filled : ∃ c cs, e.value = c :: cs ∧ isSpace c = false ∧ c ≠ ']'
  yields : Yields r e.value o

/-- The element is there, and it is read as `a`. -/
structure ReadsItem (r : Reader α) (e : Item) (a : α) : Prop where
  filled : ∃ c cs, e.value = c :: cs ∧ isSpace c = false ∧ c ≠ ']'
  reads : Reads r e.value a

theorem ReadsItem.yields {e : Item} {a : α} (h : ReadsItem r e a) : YieldsItem r e (.ok a) :=
  ⟨h.filled, yields_ok_iff.2 h.reads⟩

theorem element?_close (first : Bool) (g : Gap) (rest : List Char) :
    element? first r (g.chars ++ ']' :: rest) = .ok (none, ']' :: rest) := by
  rw [element?, bind_apply, hasElement, bind_apply, peekToken_gap, peekToken_cons rest (by decide)]
  rfl

theorem hasElement_first (g : Gap) {c : Char} {cs : List Char} (hs : isSpace c = false)
    (hc : c ≠ ']') : hasElement true (g.chars ++ c :: cs) = .ok (true, c :: cs) := by
  rw [hasElement, bind_apply, peekToken_gap, peekToken_cons _ hs]
  simp

theorem hasElement_next (g g' : Gap) {c : Char} {cs : List Char} (hs : isSpace c = false)
    (hc : c ≠ ']') :
    hasElement false (g.chars ++ ',' :: (g'.chars ++ c :: cs)) = .ok (true, c :: cs) := by
  rw [hasElement, bind_apply, peekToken_gap, peekToken_cons _ (by decide)]
  simp [peekToken_cons _ hs]

/-- The next element is read, or it is in the way. -/
theorem outcome_element? {e : Item} {o : Except Cause α} (h : YieldsItem r e o) (first : Bool)
    (g : Gap) {t : List Char} (ht : Follows t) :
    outcome (element? first r (left first g ((e :: es).map Item.text) ++ t)) =
      (o.map some).map fun a => (a, left false e.after (es.map Item.text) ++ t) := by
  obtain ⟨⟨c, cs, hv, hs, hc⟩, yields⟩ := h
  have value := yields .tight _ (follows_left e.after (es.map Item.text) ht)
  have behind : e.text ++ (behindComma (es.map Item.text) ++ t) =
      e.before.chars ++ c :: (cs ++ (left false e.after (es.map Item.text) ++ t)) := by
    simp [left, Item.text, hv]
  rw [hv, Gap.chars_tight, List.nil_append, List.cons_append] at value
  cases first with
  | true =>
    rw [left, if_pos rfl, List.map_cons, inner_cons, List.append_assoc, behind, element?,
      bind_apply, hasElement_first _ hs hc]
    exact outcome_pure_bind value some
  | false =>
    rw [left, if_neg Bool.false_ne_true, List.map_cons, behindComma_cons, List.append_assoc,
      List.cons_append, List.append_assoc, behind, element?, bind_apply, hasElement_next _ _ hs hc]
    exact outcome_pure_bind value some

/-- All elements that are left, up to the closing bracket. -/
theorem outcome_elements_go {os : List (Except Cause α)} (h : List.Forall₂ (YieldsItem r) es os)
    {fuel : Nat} (hf : es.length < fuel) (first : Bool) (g : Gap) (rest : List Char) :
    outcome (elements.go r fuel first (left first g (es.map Item.text) ++ ']' :: rest)) =
      (os.mapM id).map fun as => (as, ']' :: rest) := by
  have closing : Follows (']' :: rest) := follows_cons (by decide)
  induction h generalizing fuel first g with
  | nil =>
    obtain ⟨f, rfl⟩ : ∃ n, fuel = n + 1 := ⟨fuel - 1, by omega⟩
    rw [elements.go, bind_apply, List.map_nil, left_nil, element?_close]
    rfl
  | @cons e o es os he _ ih =>
    rw [List.length_cons] at hf
    obtain ⟨f, rfl⟩ : ∃ n, fuel = n + 1 := ⟨fuel - 1, by omega⟩
    rw [elements.go, outcome_bind (outcome_element? he first g closing), List.mapM_cons]
    cases o with
    | error cause => rfl
    | ok a => exact outcome_pure_bind (ih (by omega) false e.after) _

/-- All elements up to the closing bracket. -/
theorem outcome_elements {os : List (Except Cause α)} (h : List.Forall₂ (YieldsItem r) es os)
    (g : Gap) (rest : List Char) :
    outcome (elements r (inner g (es.map Item.text) ++ ']' :: rest)) =
      (os.mapM id).map fun as => (as, ']' :: rest) := by
  rw [elements, bind_apply, get_apply, bind_ok]
  refine outcome_elements_go h ?_ true g rest
  cases h with
  | nil => exact Nat.succ_pos _
  | @cons e o es os he _ =>
    obtain ⟨c, cs, hv, -⟩ := he.filled
    have := length_behindComma (es.map Item.text)
    simp only [List.map_cons, inner_cons, List.length_append, List.length_cons, List.length_map,
      Item.text, hv] at this ⊢
    omega

theorem mapM_id_map_ok {ε : Type} (as : List α) :
    (as.map (.ok : α → Except ε α)).mapM id = .ok as := by
  induction as with
  | nil => rfl
  | cons a as ih =>
    rw [List.map_cons, List.mapM_cons, ih]
    rfl

/-- Nothing is in the way of a list that is read. -/
theorem exists_of_mapM_id {ε : Type} {os : List (Except ε α)} (h : os.mapM id = .ok as) :
    ∀ o ∈ os, ∃ a, o = .ok a := by
  induction os generalizing as with
  | nil => exact fun o ho => absurd ho List.not_mem_nil
  | cons o os ih =>
    rw [List.mapM_cons] at h
    cases o with
    | error cause => cases h
    | ok a =>
      cases hos : os.mapM id with
      | error cause =>
        rw [hos] at h
        cases h
      | ok bs => exact List.forall_mem_cons.2 ⟨⟨a, rfl⟩, ih hos⟩

theorem elements_inner (h : List.Forall₂ (ReadsItem r) es as) (g : Gap) (rest : List Char) :
    elements r (inner g (es.map Item.text) ++ ']' :: rest) = .ok (as, ']' :: rest) := by
  have all : List.Forall₂ (YieldsItem r) es (as.map .ok) :=
    List.forall₂_map_right_iff.2 (h.imp fun _ _ he => he.yields)
  rw [← outcome_eq_ok_iff, outcome_elements all g rest, mapM_id_map_ok]
  rfl

theorem closeList_cons (rest : List Char) : closeList (']' :: rest) = .ok ((), rest) := by
  rw [closeList, bind_apply, peekToken_cons rest (by decide)]
  rfl

/-- A list whose elements are read, up to its closing bracket. -/
theorem yields_list {os : List (Except Cause α)} (h : List.Forall₂ (YieldsItem r) es os) (g : Gap)
    {f : Char → Reader (List α)}
    (hf : f '[' = do bump; let as ← elements r; closeList; return as) :
    Yields (peekValue >>= f) (listText g es) (os.mapM id) := by
  refine yields_peekValue (by decide) fun rest _ => ?_
  rw [hf, ← List.cons_append, ← listText, listText_append]
  show outcome ((elements r >>= fun as => closeList >>= fun _ => pure as)
    (inner g (es.map Item.text) ++ ']' :: rest)) = _
  rw [outcome_bind (outcome_elements h g rest)]
  cases os.mapM id with
  | error cause => rfl
  | ok as =>
    simp only [Except.bind, bind_apply, closeList_cons]
    rfl

theorem exists_forall₂_yieldsItem (h : ∀ e ∈ es, ∃ o, YieldsItem r e o) :
    ∃ os, List.Forall₂ (YieldsItem r) es os := by
  induction es with
  | nil => exact ⟨[], .nil⟩
  | cons e es ih =>
    obtain ⟨o, ho⟩ := h e List.mem_cons_self
    obtain ⟨os, hos⟩ := ih fun e he => h e (List.mem_cons_of_mem _ he)
    exact ⟨o :: os, .cons ho hos⟩

end Elements

/-! ### Elements one by one -/

/-- A place in a list: what is left of it, in front of its closing bracket. -/
structure Place where
  gap : Gap
  items : List Item
  values : ∀ e ∈ items, IsValue e.value

def Place.text (p : Place) (first : Bool) (rest : List Char) : List Char :=
  left first p.gap (p.items.map Item.text) ++ ']' :: rest

section Places

variable {α β : Type} {first : Bool} {p : Place}

/-- The reader goes on to a later place, or it is refused for one cause. -/
def Advances (x : Reader α) (first : Bool) (p : Place) : Prop :=
  ∃ (o : Except Cause α) (p' : Place), ∀ rest,
    outcome (x (p.text first rest)) = o.map fun a => (a, p'.text false rest)

/-- The reader takes what is left of the list, or it is refused for one cause. -/
def Closes (x : Reader α) (first : Bool) (p : Place) : Prop :=
  ∃ o : Except Cause α, ∀ rest, outcome (x (p.text first rest)) = o.map fun a => (a, rest)

theorem advances_of_error {x : Reader α} {cause : Cause}
    (h : ∀ rest, outcome (x (p.text first rest)) = .error cause) : Advances x first p :=
  ⟨.error cause, p, h⟩

theorem advances_pure (a : α) : Advances (pure a) false p := ⟨.ok a, p, fun _ => rfl⟩

theorem Advances.bind {x : Reader α} {f : α → Reader β} (hx : Advances x first p)
    (hf : ∀ a p', Advances (f a) false p') : Advances (x >>= f) first p := by
  obtain ⟨o, p', ho⟩ := hx
  cases o with
  | error cause => exact advances_of_error fun rest => outcome_bind (ho rest) f
  | ok a =>
    obtain ⟨o, p'', hf⟩ := hf a p'
    exact ⟨o, p'', fun rest => (outcome_bind (ho rest) f).trans (hf rest)⟩

theorem Advances.closes {x : Reader α} {f : α → Reader β} (hx : Advances x first p)
    (hf : ∀ a p', Closes (f a) false p') : Closes (x >>= f) first p := by
  obtain ⟨o, p', ho⟩ := hx
  cases o with
  | error cause => exact ⟨.error cause, fun rest => outcome_bind (ho rest) f⟩
  | ok a =>
    obtain ⟨o, hf⟩ := hf a p'
    exact ⟨o, fun rest => (outcome_bind (ho rest) f).trans (hf rest)⟩

theorem Closes.map {x : Reader α} (h : Closes x first p) (f : α → β) :
    Closes (do return f (← x)) first p := by
  obtain ⟨o, ho⟩ := h
  exact ⟨o.map f, fun rest => outcome_pure_bind (ho rest) f⟩

/-- A list of which not all elements are read in the same way. -/
theorem Closes.exists_yields {x : Reader α} (h : Closes x true p) {r : Char → Reader α}
    (hr : r '[' = do bump; x) : ∃ o, Yields (peekValue >>= r) (listText p.gap p.items) o := by
  obtain ⟨o, ho⟩ := h
  refine ⟨o, yields_peekValue (by decide) fun rest _ => ?_⟩
  rw [hr, ← List.cons_append, ← listText, listText_append]
  exact ho rest

/-- A list that has been read as far as wanted may hold no more. -/
theorem closes_closeList : Closes closeList false p := by
  obtain ⟨g, es, values⟩ := p
  cases es with
  | nil =>
    refine ⟨.ok (), fun rest => ?_⟩
    rw [Place.text, List.map_nil, left_nil, closeList, bind_apply, peekToken_gap,
      peekToken_cons _ (by decide)]
    rfl
  | cons e es =>
    obtain ⟨c, cs, hv, hs, hc⟩ := (values e List.mem_cons_self).exists_cons
    refine ⟨.error .trailingCharacters, fun rest => ?_⟩
    rw [Place.text, left, if_neg Bool.false_ne_true, List.map_cons, behindComma_cons,
      List.append_assoc, List.cons_append, List.append_assoc, e.text_append, hv, closeList,
      bind_apply, peekToken_gap, peekToken_cons _ (by decide)]
    simp [peekToken_cons _ hs, hc, Except.map]

theorem advances_element? {r : Reader α} (h : ∀ v, IsValue v → ∃ o, Yields r v o) :
    Advances (element? first r) first p := by
  obtain ⟨g, es, values⟩ := p
  cases es with
  | nil =>
    refine ⟨.ok none, ⟨.tight, [], by simp⟩, fun rest => ?_⟩
    rw [Place.text, List.map_nil, left_nil, element?_close]
    rfl
  | cons e es =>
    obtain ⟨o, ho⟩ := h e.value (values e List.mem_cons_self)
    have item : YieldsItem r e o := ⟨(values e List.mem_cons_self).exists_cons, ho⟩
    refine ⟨o.map some, ⟨e.after, es, fun e he => values e (List.mem_cons_of_mem _ he)⟩, ?_⟩
    exact fun rest => outcome_element? item first g (follows_cons (by decide))

theorem advances_elementBehind? {r : Reader β} (h : ∀ v, IsValue v → ∃ o, Yields r v o)
    (before : Option α) : Advances (elementBehind? before r) false p := by
  cases before with
  | none => exact advances_pure none
  | some a => exact advances_element? h

theorem advances_fixedElement {r : Reader α} (h : ∀ v, IsValue v → ∃ o, Yields r v o)
    (index : Nat) (expected : String) :
    Advances (fixedElement index expected r) (index == 0) p := by
  refine (advances_element? h).bind fun a p' => ?_
  cases a with
  | some a => exact advances_pure a
  | none =>
    obtain ⟨o, ho⟩ := closes_closeList (p := p')
    obtain ⟨cause, refused⟩ := exists_outcome_refused (β := α) (o := o)
      fun _ => .invalidLength index expected
    exact advances_of_error fun rest => refused _ _ _ (ho rest)

end Places

/-! ### Documents -/

section Documents

variable {α : Type} {r : Reader α} {v : List Char} {text : String}

/-- A whole document is a value with white space around it. -/
theorem Yields.document {o : Except Cause α} (h : Yields r v o) (before after : Gap)
    (split : text.toList = before.chars ++ (v ++ after.chars)) :
    outcome (document r text) = o := by
  have behind : Follows (after.chars ++ []) := follows_nil.gap_append after
  rw [List.append_nil] at behind
  have value := h before after.chars behind
  have whole : outcome (alone r text.toList) = o.map fun a => (a, []) := by
    rw [split, alone, outcome_bind value]
    cases o with
    | error cause => rfl
    | ok a => simp [peekToken_chars, Except.map, Except.bind]
  have first (x : Except Fault (α × List Char)) (hx : outcome x = o.map fun a => (a, [])) :
      outcome (x.bind fun p => .ok p.1) = o := by
    cases x <;> cases o <;> cases hx <;> rfl
  exact first _ whole

theorem Reads.document {a : α} (h : Reads r v a) (before after : Gap)
    (split : text.toList = before.chars ++ (v ++ after.chars)) : document r text = .ok a :=
  outcome_eq_ok_iff.1 ((yields_ok_iff.2 h).document before after split)

end Documents

end GlobalImports.Json
