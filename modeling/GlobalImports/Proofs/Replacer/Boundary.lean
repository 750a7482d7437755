import GlobalImports.Proofs.Replacer.Parts
import GlobalImports.Proofs.Statement.Boundary
import GlobalImports.Proofs.Text.Bytes

/-! Reports of texts that are put together at a boundary between statements. The new texts are put
together, and so are the lists of replaced statements, the later ones with their bytes shifted. -/

namespace GlobalImports

def Text.Span.shift (k : Nat) (s : Span) : Span := ⟨s.start + k, s.stop + k⟩

/-- The same statement `k` bytes further on. -/
def Replaced.shift (k : Nat) (e : Replaced) : Replaced := { e with span := e.span.shift k }

theorem Stretch.report_shift (start k : Nat) (ss : List Stretch) :
    report (start + k) ss = (report start ss).map (Replaced.shift k) := by
  induction ss generalizing start with
  | nil => rfl
  | cons s ss ih =>
    cases s with
    | kept text => rw [report_kept, report_kept, ← ih, Nat.add_right_comm]
    | replaced specifier source text declarations =>
      rw [report_replaced, report_replaced, List.map_cons, ← ih, Nat.add_right_comm]
      rfl

namespace Replacer

open Statement

variable (r : Replacer)

/-- Rewriting and its report go separately about the two sides of a boundary. -/
theorem report_append_of_closed {a b : String} (h : Closed a.toList) :
    r.report (a ++ b) =
      ⟨(r.report a).code ++ (r.report b).code,
        (r.report a).replaced ++ (r.report b).replaced.map (Replaced.shift a.utf8ByteSize)⟩ := by
  obtain ⟨ps, hp⟩ := exists_reading a.toList
  obtain ⟨qs, hq⟩ := exists_reading b.toList
  have both : Reading (a ++ b).toList (ps ++ qs) := by
    rw [String.toList_append]
    exact hp.append h hq
  have length : Text.byteLength ((ps.map r.part).flatMap Stretch.old) = a.utf8ByteSize := by
    rw [flatMap_old_part, hp.flatMap_text, Text.byteLength_toList]
  rw [r.report_eq both, r.report_eq hp, r.report_eq hq, List.map_append, List.flatMap_append,
    String.ofList_append, Stretch.report_append, length, Stretch.report_shift]

/-- The boundary is behind the first of two statements. -/
theorem report_two_statements :
    Closed "import * as b from 'é';\n".toList ∧
      ({ exact := ((∅ : ExactSources).insert "é" "E").insert "m" "M" } : Replacer).report
          ("import * as b from 'é';\n" ++ "import * as a from 'm';") =
        ⟨"const b = E;\nconst a = M;", [⟨"é", "E", ⟨0, 23⟩⟩, ⟨"m", "M", ⟨25, 47⟩⟩]⟩ := by
  have closed : Closed "import * as b from 'é';\n".toList :=
    ⟨"import * as b from 'é'".toList, ';', ['\n'], rfl, by decide,
      List.forall_mem_singleton.2 (by decide), by decide⟩
  refine ⟨closed, (report_append_of_closed _ closed).trans ?_⟩
  decide +kernel

end Replacer

end GlobalImports
