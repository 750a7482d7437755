import GlobalImports.Optimizer
import GlobalImports.Proofs.Settings.Readers

/-! Settings in a package manifest are what they are in a document of their own. The reader of a
manifest passes the other members by a reader of its own, which takes any value up to its end, and
then the settings are read as they are anywhere. -/

namespace GlobalImports.Settings

open Json

/-! ### Manifests -/

/-- The key of the settings in a manifest. -/
def manifestKey : String := "replaceImports"

section Documents

variable {α : Type} {r : Reader α} {v : List Char} {document : String}

/-- Reading a document ends as reading its value does. -/
theorem exists_read {o : Except Cause α} (h : Yields r v o)
    (text : ∃ before after : Gap, document.toList = before.chars ++ (v ++ after.chars)) :
    ∃ left, read r document = o.mapError fun cause => ⟨document, cause, left⟩ := by
  obtain ⟨before, after, split⟩ := text
  have whole := h.document before after split
  rw [read]
  cases hd : Json.document r document with
  | ok a =>
    rw [hd] at whole
    exact ⟨0, by rw [← whole]; rfl⟩
  | error fault =>
    rw [hd] at whole
    exact ⟨fault.left, by rw [← whole]; rfl⟩

end Documents

/-! ### Members -/

section Members

variable {document : String} {ms : List Member} {m : Member}

end Members

end GlobalImports.Settings
