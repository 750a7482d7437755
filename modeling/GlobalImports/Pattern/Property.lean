import GlobalImports.Unicode.Age
import GlobalImports.Unicode.BinaryProperty
import GlobalImports.Unicode.Script
import GlobalImports.Unicode.Segmentation

/-! The names of character properties in patterns: binary properties, general categories, scripts,
ages and the classes of segmentation, and the classes of ASCII characters. -/

namespace GlobalImports.Pattern

open Unicode (Ranges)

/-- Case, separators and a leading `is` do not matter in a name, except that `isc` is not `c`. -/
def normalizeName (name : List Char) : String :=
  let lower := name.map Char.toLower
  let letters := lower.filter fun c => c.toNat < 128 && c != ' ' && c != '_' && c != '-'
  let bare := if ['i', 's'].isPrefixOf lower then letters.drop 2 else letters
  String.ofList (if bare == ['c'] then letters else bare)

/-- The set of a general category, or of one of three names that stand beside the categories. -/
def categorySet? (name : String) : Option Ranges :=
  match name with
  | "any" => some .all
  | "ascii" => some (.range '\x00' '\x7f')
  | "assigned" => some (.compl (Unicode.ofCategories [.cn]))
  | n => (Unicode.Category.ofName? n).map Unicode.ofCategories

/-- The set that a property name stands for. -/
def namedSet? (name : List Char) : Option Ranges :=
  let n := normalizeName name
  (Unicode.binaryProperty? n).or ((categorySet? n).or (Unicode.Script.ofName? n))

/-- The set that a value of a property stands for in a name such as `gc=Lu`. -/
def valuedSet? (property value : List Char) : Option Ranges :=
  let v := normalizeName value
  match normalizeName property with
  | "generalcategory" | "gc" => categorySet? v
  | "script" | "sc" => Unicode.Script.ofName? v
  | "scriptextensions" | "scx" => Unicode.Script.usedByName? v
  | "age" => Unicode.Age.ofName? v
  | "graphemeclusterbreak" | "gcb" => Unicode.Segmentation.grapheme? v
  | "wordbreak" | "wb" => Unicode.Segmentation.word? v
  | "sentencebreak" | "sb" => Unicode.Segmentation.sentence? v
  | _ => none

/-- The classes of ASCII characters that are written `[:name:]`. -/
def asciiClass? (name : List Char) : Option Ranges :=
  (classes.lookup (String.ofList name)).map fun ranges =>
    .ofList (ranges.map fun (lo, hi) => (lo.toNat, hi.toNat))
where
  /-- Names and ranges. -/
  classes : List (String × List (Char × Char)) :=
    [("alnum", [('0', '9'), ('A', 'Z'), ('a', 'z')]),
     ("alpha", [('A', 'Z'), ('a', 'z')]),
     ("ascii", [('\x00', '\x7f')]),
     ("blank", [('\t', '\t'), (' ', ' ')]),
     ("cntrl", [('\x00', '\x1f'), ('\x7f', '\x7f')]),
     ("digit", [('0', '9')]),
     ("graph", [('!', '~')]),
     ("lower", [('a', 'z')]),
     ("print", [(' ', '~')]),
     ("punct", [('!', '/'), (':', '@'), ('[', '\x60'), ('\x7b', '~')]),
     ("space", [('\t', '\r'), (' ', ' ')]),
     ("upper", [('A', 'Z')]),
     ("word", [('0', '9'), ('A', 'Z'), ('_', '_'), ('a', 'z')]),
     ("xdigit", [('0', '9'), ('A', 'F'), ('a', 'f')])]

end GlobalImports.Pattern
