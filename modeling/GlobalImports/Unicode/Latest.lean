import GlobalImports.Unicode.Property

/-! What Unicode 17 adds, as far as the names of groups and quoted texts depend on it. Patterns
themselves go by Unicode 16. -/

namespace GlobalImports.Unicode.Latest

/-! ### Additions -/

/-- All code points that were not assigned before. -/
def added : Ranges := .ofTable
  ["88f c5c cdc 1acf-1add 1ae0-1aeb 20c1 2b96 a7ce-a7cf a7d2 a7d4 a7f1 fbc3-fbd2 fd90-fd91",
   "fdc8-fdce 10940-10959 10ec5-10ec7 10ed0-10ed8 10efa-10efb 11b60-11b67 11db0-11ddb",
   "11de0-11de9 16ea0-16eb8 16ebb-16ed3 16ff2-16ff6 187f8-187ff 18d09-18d1e 18d80-18df2",
   "1ccfa-1ccfc 1ceba-1ced0 1cee0-1cef0 1e6c0-1e6de 1e6e0-1e6f5 1e6fe-1e6ff 1f6d8 1f777-1f77a",
   "1f8d0-1f8d8 1fa54-1fa57 1fa8a 1fa8e 1fac8 1facd 1faea 1faef 1fbfa 2b73a-2b73f 2cea2-2cead",
   "323b0-33479"]

def addedAlphabetic : Ranges := .ofTable
  ["88f c5c cdc a7ce-a7cf a7d2 a7d4 a7f1 10940-10959 10ec5-10ec7 10efa-10efb 11b60-11b67",
   "11db0-11ddb 16ea0-16eb8 16ebb-16ed3 16ff2-16ff6 187f8-187ff 18d09-18d1e 18d80-18df2",
   "1e6c0-1e6de 1e6e0-1e6f5 1e6fe-1e6ff 2b73a-2b73f 2cea2-2cead 323b0-33479"]

def addedNumeric : Ranges := .ofTable
  ["11de0-11de9 16ff4-16ff6"]

def addedMarks : Ranges := .ofTable
  ["1acf-1add 1ae0-1aeb 10efa-10efb 11b60 11b62-11b64 11b66 1e6e3 1e6e6 1e6ee-1e6ef 1e6f5"]

/-! ### Properties -/

def alphabetic : Ranges := .union Unicode.alphabetic addedAlphabetic

def numeric : Ranges := .union (ofCategories Category.numbers) addedNumeric

/-- A letter, or what counts as one. Within ASCII no table is asked. -/
def isAlphabetic (c : Char) : Bool := if c.toNat < 128 then c.isAlpha else alphabetic.contains c

/-- A digit or another number. Within ASCII no table is asked. -/
def isNumeric (c : Char) : Bool := if c.toNat < 128 then c.isDigit else numeric.contains c

/-- Marks that attach to the character before them. The sound marks of halfwidth Katakana stand by
themselves. -/
def attaching : Ranges :=
  .diff (.union extending addedMarks) (.ofList [(0xff9e, 0xff9f)])

/-- Code points that show nothing: controls, format characters, separators other than the space,
what is not assigned, and what is ignored by default. -/
def hidden : Ranges :=
  .union defaultIgnorable
    (.diff (ofCategories (Category.separators ++ Category.others)) (.union added (.single ' ')))

end GlobalImports.Unicode.Latest
