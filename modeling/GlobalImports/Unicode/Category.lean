/-! The general categories of Unicode and their names. -/

namespace GlobalImports.Unicode

/-- A general category, named by its two-letter abbreviation. -/
inductive Category where
  | lu | ll | lt | lm | lo | mn | mc | me | nd | nl | no | pc | pd | ps | pe | pi | pf | po
  | sm | sc | sk | so | zs | zl | zp | cc | cf | cs | co | cn
  deriving DecidableEq, Repr

namespace Category

/-- Abbreviation and long name of each category, in lower case and without separators. -/
def names : List (Category × String × String) :=
  [(lu, "lu", "uppercaseletter"), (ll, "ll", "lowercaseletter"), (lt, "lt", "titlecaseletter"),
   (lm, "lm", "modifierletter"), (lo, "lo", "otherletter"), (mn, "mn", "nonspacingmark"),
   (mc, "mc", "spacingmark"), (me, "me", "enclosingmark"), (nd, "nd", "decimalnumber"),
   (nl, "nl", "letternumber"), (no, "no", "othernumber"), (pc, "pc", "connectorpunctuation"),
   (pd, "pd", "dashpunctuation"), (ps, "ps", "openpunctuation"), (pe, "pe", "closepunctuation"),
   (pi, "pi", "initialpunctuation"), (pf, "pf", "finalpunctuation"), (po, "po", "otherpunctuation"),
   (sm, "sm", "mathsymbol"), (sc, "sc", "currencysymbol"), (sk, "sk", "modifiersymbol"),
   (so, "so", "othersymbol"), (zs, "zs", "spaceseparator"), (zl, "zl", "lineseparator"),
   (zp, "zp", "paragraphseparator"), (cc, "cc", "control"), (cf, "cf", "format"),
   (cs, "cs", "surrogate"), (co, "co", "privateuse"), (cn, "cn", "unassigned")]

/-! ### Groups of categories -/

def letters : List Category := [lu, ll, lt, lm, lo]

def marks : List Category := [mn, mc, me]

def numbers : List Category := [nd, nl, no]

def punctuation : List Category := [pc, pd, ps, pe, pi, pf, po]

def symbols : List Category := [sm, sc, sk, so]

def separators : List Category := [zs, zl, zp]

def others : List Category := [cc, cf, cs, co, cn]

/-- The names that stand for several categories, and second names of single ones. -/
def groups : List (String × List Category) :=
  [("l", letters), ("letter", letters), ("lc", [lu, ll, lt]), ("casedletter", [lu, ll, lt]),
   ("m", marks), ("mark", marks), ("combiningmark", marks), ("n", numbers), ("number", numbers),
   ("digit", [nd]), ("p", punctuation), ("punctuation", punctuation), ("punct", punctuation),
   ("s", symbols), ("symbol", symbols), ("z", separators), ("separator", separators),
   ("c", others), ("other", others), ("cntrl", [cc])]

/-- The categories that a normalised name stands for. Surrogates are no characters, so that their
category has no name. -/
def ofName? (name : String) : Option (List Category) :=
  match names.find? (fun n => n.1 != cs && (n.2.1 == name || n.2.2 == name)) with
  | some n => some [n.1]
  | none => groups.lookup name

example : ofName? "lu" = some [lu] := by decide

example : ofName? "nope" = none := by decide

end Category

end GlobalImports.Unicode
