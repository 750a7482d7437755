import GlobalImports.Unicode.AgeRuns
import GlobalImports.Unicode.Ranges

/-! The versions of Unicode up to 16, and the characters that each of them has. -/

namespace GlobalImports.Unicode.Age

/-- The letter of every version in the table of runs, and its two names, from first to last. -/
def versions : List (Char × String × String) :=
  [('a', "1.1", "v11"), ('b', "2.0", "v20"), ('c', "2.1", "v21"), ('d', "3.0", "v30"),
   ('e', "3.1", "v31"), ('f', "3.2", "v32"), ('g', "4.0", "v40"), ('h', "4.1", "v41"),
   ('i', "5.0", "v50"), ('j', "5.1", "v51"), ('k', "5.2", "v52"), ('l', "6.0", "v60"),
   ('m', "6.1", "v61"), ('n', "6.2", "v62"), ('o', "6.3", "v63"), ('p', "7.0", "v70"),
   ('q', "8.0", "v80"), ('r', "9.0", "v90"), ('s', "10.0", "v100"), ('t', "11.0", "v110"),
   ('u', "12.0", "v120"), ('v', "12.1", "v121"), ('w', "13.0", "v130"), ('x', "14.0", "v140"),
   ('y', "15.0", "v150"), ('z', "15.1", "v151"), ('A', "16.0", "v160")]

/-- A run such as `a502`: the letter of a version and how many code points it assigned. -/
def readRun : List Char → Char × Nat
  | letter :: digits => (letter, if digits.isEmpty then 1 else Text.ofDecimal digits)
  | [] => ('-', 0)

/-- Ranges of code points that were assigned by one version, in order. -/
def ageRanges : List (Char × Nat × Nat) :=
  (((Ranges.tokens ageRuns).map readRun).foldl
    (fun (n, acc) (letter, len) => (n + len, acc.push (letter, n, n + len - 1))) (0, #[])).2.toList

/-- What the version of that name had assigned, by itself or by taking over earlier versions. -/
def ofName? (name : String) : Option Ranges :=
  match versions.findIdx? fun v => v.2.1 == name || v.2.2 == name with
  | none => none
  | some i =>
    let letters := (versions.take (i + 1)).map (·.1)
    some (.ofList (ageRanges.filterMap fun (c, r) => if letters.contains c then some r else none))

end GlobalImports.Unicode.Age
