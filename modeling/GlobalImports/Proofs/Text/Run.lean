import GlobalImports.Text.Blank
import Mathlib.Data.List.Basic

/-! Runs: stretches of characters that pass a test and end where one fails it. A text is cut at the
end of a run in one way only. Trimming takes the runs of white space off both ends. -/

namespace GlobalImports.Text

section Run

variable {α : Type} {p : α → Bool} {u v u' v' : List α}

theorem takeWhile_eq_run (hu : ∀ c ∈ u, p c = true) (hv : ∀ c ∈ v.head?, p c = false) :
    (u ++ v).takeWhile p = u := by
  rw [List.takeWhile_append_of_pos hu]
  cases v with
  | nil => simp
  | cons c v => simp [hv c (by simp)]

theorem dropWhile_eq_rest (hu : ∀ c ∈ u, p c = true) (hv : ∀ c ∈ v.head?, p c = false) :
    (u ++ v).dropWhile p = v := by
  rw [List.dropWhile_append_of_pos hu]
  cases v with
  | nil => rfl
  | cons c v => simp [hv c (by simp)]

theorem of_mem_takeWhile {cs : List α} {c : α} (hc : c ∈ cs.takeWhile p) : p c = true :=
  List.all_eq_true.1 List.all_takeWhile c hc

theorem not_of_mem_head?_dropWhile {cs : List α} {c : α} (hc : c ∈ (cs.dropWhile p).head?) :
    p c = false := by
  have := List.head?_dropWhile_not p cs
  rw [hc] at this
  simpa using this

/-- A run at the head of a text, and what follows it, are determined by the text. -/
theorem run_inj (h : u ++ v = u' ++ v') (hu : ∀ c ∈ u, p c = true) (hu' : ∀ c ∈ u', p c = true)
    (hv : ∀ c ∈ v.head?, p c = false) (hv' : ∀ c ∈ v'.head?, p c = false) : u = u' ∧ v = v' := by
  constructor
  · rw [← takeWhile_eq_run hu hv, h, takeWhile_eq_run hu' hv']
  · rw [← dropWhile_eq_rest hu hv, h, dropWhile_eq_rest hu' hv']

/-- A run at the end of a text, and what comes before it, are determined by the text. -/
theorem run_inj_right (h : v ++ u = v' ++ u') (hu : ∀ c ∈ u, p c = true)
    (hu' : ∀ c ∈ u', p c = true) (hv : ∀ c ∈ v.getLast?, p c = false)
    (hv' : ∀ c ∈ v'.getLast?, p c = false) : v = v' ∧ u = u' := by
  have reversed : u.reverse ++ v.reverse = u'.reverse ++ v'.reverse := by
    rw [← List.reverse_append, h, List.reverse_append]
  obtain ⟨hr, hl⟩ := run_inj reversed (by simpa using hu) (by simpa using hu')
    (by simpa using hv) (by simpa using hv')
  exact ⟨List.reverse_injective hl, List.reverse_injective hr⟩

end Run

/-- Any text is a run followed by something that ends it. -/
theorem exists_run {α : Type} (p : α → Bool) (cs : List α) :
    ∃ u v, cs = u ++ v ∧ (∀ c ∈ u, p c = true) ∧ ∀ c ∈ v.head?, p c = false := by
  refine ⟨cs.takeWhile p, cs.dropWhile p, List.takeWhile_append_dropWhile.symm, ?_, ?_⟩
  · exact fun c hc => of_mem_takeWhile hc
  · exact fun c hc => not_of_mem_head?_dropWhile hc

/-- The run at the head of a text, if there is one, and what is behind it. -/
def run? {α : Type} (p : α → Bool) (cs : List α) : Option (List α × List α) :=
  if (cs.takeWhile p).isEmpty then none else some (cs.takeWhile p, cs.dropWhile p)

theorem run?_eq_some_iff {α : Type} {p : α → Bool} {cs u v : List α} :
    run? p cs = some (u, v) ↔
      cs = u ++ v ∧ u ≠ [] ∧ (∀ c ∈ u, p c = true) ∧ ∀ c ∈ v.head?, p c = false := by
  constructor
  · intro h
    obtain ⟨hne, h⟩ := Option.ite_none_left_eq_some.1 h
    obtain ⟨rfl, rfl⟩ := Prod.mk.inj (Option.some.inj h)
    refine ⟨List.takeWhile_append_dropWhile.symm, by simpa using hne, ?_, ?_⟩
    · exact fun c hc => of_mem_takeWhile hc
    · exact fun c hc => not_of_mem_head?_dropWhile hc
  · rintro ⟨rfl, hne, hu, hv⟩
    rw [run?, takeWhile_eq_run hu hv, dropWhile_eq_rest hu hv]
    exact if_neg (by simpa using hne)

section UpTo

variable {d : Char} {u v : List Char}

/-- The text up to a character, and from there on. -/
theorem takeWhile_bne (h : d ∉ u) : (u ++ d :: v).takeWhile (· != d) = u := by
  refine takeWhile_eq_run (fun c hc => ?_) (by simp)
  have : c ≠ d := fun e => h (e ▸ hc)
  simpa using this

theorem dropWhile_bne (h : d ∉ u) : (u ++ d :: v).dropWhile (· != d) = d :: v := by
  refine dropWhile_eq_rest (fun c hc => ?_) (by simp)
  have : c ≠ d := fun e => h (e ▸ hc)
  simpa using this

end UpTo

/-! ### Trimming -/

section Trim

variable {b cs : List Char}

theorem trim_append_left (hb : ∀ c ∈ b, isBlank c = true) : trim (b ++ cs) = trim cs := by
  rw [trim, trimStart, List.dropWhile_append_of_pos hb]
  rfl

theorem trimEnd_append (hb : ∀ c ∈ b, isBlank c = true) : trimEnd (cs ++ b) = trimEnd cs := by
  rw [trimEnd, List.reverse_append, List.dropWhile_append_of_pos (by simpa using hb)]
  rfl

theorem trim_append_right (hb : ∀ c ∈ b, isBlank c = true) : trim (cs ++ b) = trim cs := by
  obtain ⟨u, v, rfl, hu, hv⟩ := exists_run isBlank cs
  rw [List.append_assoc, trim_append_left hu, trim_append_left hu]
  cases v with
  | nil =>
    have : trim (b ++ []) = trim [] := trim_append_left hb
    rwa [List.append_nil] at this
  | cons c v =>
    have start (w : List Char) : trimStart (c :: w) = c :: w := by
      simp [trimStart, hv c (by simp)]
    rw [trim, List.cons_append, start, trim, start, ← List.cons_append, trimEnd_append hb]

/-- Text with no white space at its ends is not changed by trimming. -/
theorem trim_eq_self (hh : ∀ c ∈ cs.head?, isBlank c = false)
    (hl : ∀ c ∈ cs.getLast?, isBlank c = false) : trim cs = cs := by
  have start : trimStart cs = cs := dropWhile_eq_rest (u := []) (by simp) hh
  have stop : cs.reverse.dropWhile isBlank = cs.reverse :=
    dropWhile_eq_rest (u := []) (by simp) (by simpa using hl)
  rw [trim, start, trimEnd, stop, List.reverse_reverse]

/-- A text is its trimmed text with white space at both ends. -/
theorem exists_eq_trim (cs : List Char) :
    ∃ b b', cs = b ++ trim cs ++ b' ∧ (∀ c ∈ b, isBlank c = true) ∧
      ∀ c ∈ b', isBlank c = true := by
  obtain ⟨b, v, rfl, hb, hv⟩ := exists_run isBlank cs
  obtain ⟨b', v', hv', hb', hl⟩ := exists_run isBlank v.reverse
  obtain rfl : v = v'.reverse ++ b'.reverse := by
    rw [← List.reverse_append, ← hv', List.reverse_reverse]
  have blank : ∀ c ∈ b'.reverse, isBlank c = true := by simpa using hb'
  refine ⟨b, b'.reverse, ?_, hb, blank⟩
  have same : trim v'.reverse = v'.reverse := by
    refine trim_eq_self ?_ (by simpa using hl)
    intro c hc
    cases hn : v'.reverse with
    | nil => rw [hn] at hc; cases hc
    | cons d ds => exact hv c (by rw [hn] at hc ⊢; exact hc)
  rw [trim_append_left hb, trim_append_right blank, same, List.append_assoc]

theorem mem_of_mem_trim {c : Char} (h : c ∈ trim cs) : c ∈ cs := by
  have h : c ∈ (trimStart cs).reverse.dropWhile isBlank := by simpa [trim, trimEnd] using h
  have h := (List.dropWhile_sublist _).subset h
  exact (List.dropWhile_sublist _).subset (List.mem_reverse.1 h)

end Trim

end GlobalImports.Text
