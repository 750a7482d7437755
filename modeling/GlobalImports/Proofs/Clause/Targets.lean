import GlobalImports.Proofs.Clause.Declarations
import GlobalImports.Proofs.Regex.Tokens
import GlobalImports.Proofs.Text.Run

/-! What targets of declarations are made of: characters of the clause, and the colon and space that
a rename puts in. -/

namespace GlobalImports.Clause

open Regex

theorem namespaceBinding_productive : namespaceBinding.productive = true := by decide

theorem namedBlock_productive : namedBlock.productive = true := by decide

theorem renamedBinding_productive : renamedBinding.productive = true := by decide

theorem nonDefault_productive : nonDefault.productive = true := by decide

theorem identifier_productive : identifier.productive = true := by decide

variable {text : List Char} {ch : Char}

theorem mem_of_mem_namespacesIn {name : List Char} (h : name ∈ namespacesIn text) (hc : ch ∈ name) :
    ch ∈ text := by
  obtain ⟨f, hf, hg⟩ := List.mem_filterMap.1 h
  exact mem_of_mem_group_hit namespaceBinding_productive hf hg hc

theorem mem_of_mem_rename (h : ch ∈ rename text) : ch ∈ text ∨ ch = ':' ∨ ch = ' ' := by
  rw [rename, replaceAll_eq _ renamedBinding_productive _ _ fun _ => rfl] at h
  obtain ⟨t, ht, hc⟩ := List.mem_flatMap.1 h
  cases t with
  | char c =>
    rw [List.mem_singleton.1 hc]
    exact .inl (mem_of_char_mem_tokens ht)
  | hit f =>
    obtain ⟨u, before, rfl, here⟩ := exists_of_mem_tokens ht
    have group (g : Nat) (hg : ch ∈ (f.group? g).getD []) : ch ∈ u ++ (f.text ++ f.rest) := by
      cases hw : f.group? g with
      | none => rw [hw] at hg; cases hg
      | some w =>
        rw [hw] at hg
        exact List.mem_append_right u (mem_of_mem_group here hw hg)
    rcases List.mem_append.1 hc with hc | hc
    · rcases List.mem_append.1 hc with hc | hc
      · exact .inl (group 1 hc)
      · exact .inr (by simpa using hc)
    · exact .inl (group 2 hc)

theorem mem_of_mem_namedIn {block : List Char} (h : block ∈ namedIn text) (hc : ch ∈ block) :
    ch ∈ text ∨ ch = ':' ∨ ch = ' ' := by
  obtain ⟨f, hf, rfl⟩ := List.mem_map.1 h
  rcases mem_of_mem_rename hc with hc | hc
  · obtain ⟨u, -, rfl, -⟩ := exists_of_mem_hits namedBlock_productive hf
    exact .inl (List.mem_append_right u (List.mem_append_left _ hc))
  · exact .inr hc

theorem mem_of_mem_leftover (h : ch ∈ leftover text) : ch ∈ text := by
  rw [leftover, replaceAll_eq _ nonDefault_productive _ _ fun _ => rfl] at h
  obtain ⟨t, ht, hc⟩ := List.mem_flatMap.1 h
  cases t with
  | char c =>
    rw [List.mem_singleton.1 hc]
    exact mem_of_char_mem_tokens ht
  | hit f => cases hc

/-- Targets hold nothing but characters of the clause, colons and spaces. -/
theorem mem_of_mem_target {c : Clause} {text source : String} {a : List Char × List Char}
    (h : parse? text = some c) (ha : a ∈ c.assignments source) (hc : ch ∈ a.1) :
    ch ∈ text.toList ∨ ch = ':' ∨ ch = ' ' := by
  obtain ⟨-, -, rfl⟩ := parse?_eq_some_iff.1 h
  have untrimmed (h : ch ∈ Text.trim text.toList ∨ ch = ':' ∨ ch = ' ') :
      ch ∈ text.toList ∨ ch = ':' ∨ ch = ' ' := h.imp_left Text.mem_of_mem_trim
  rcases List.mem_append.1 ha with ha | ha
  · obtain ⟨target, ht, rfl⟩ := List.mem_map.1 ha
    rcases List.mem_append.1 ht with ht | ht
    · obtain ⟨name, hn, rfl⟩ := List.mem_map.1 ht
      rw [String.toList_ofList] at hc
      exact untrimmed (.inl (mem_of_mem_namespacesIn hn hc))
    · obtain ⟨block, hb, rfl⟩ := List.mem_map.1 ht
      rw [String.toList_ofList] at hc
      exact untrimmed (mem_of_mem_namedIn hb hc)
  · obtain ⟨name, hn, rfl⟩ := Option.map_eq_some_iff.1 (Option.mem_toList.1 ha)
    obtain ⟨-, hn⟩ := Option.ite_none_left_eq_some.1 hn
    obtain rfl := Option.some.inj hn
    rw [String.toList_ofList] at hc
    exact untrimmed (.inl (mem_of_mem_leftover hc))

theorem value_of_mem_assignments {c : Clause} {source : String} {a : List Char × List Char}
    (ha : a ∈ c.assignments source) :
    a.2 = source.toList ∨ a.2 = (defaultOf source).toList := by
  rcases List.mem_append.1 ha with ha | ha
  · obtain ⟨target, -, rfl⟩ := List.mem_map.1 ha
    exact .inl rfl
  · obtain ⟨name, -, rfl⟩ := Option.map_eq_some_iff.1 (Option.mem_toList.1 ha)
    exact .inr rfl

end GlobalImports.Clause
