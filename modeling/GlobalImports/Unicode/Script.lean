import GlobalImports.Unicode.Ranges
import GlobalImports.Unicode.ScriptRuns
import GlobalImports.Unicode.ScriptSharing

/-! The scripts of Unicode 16: which characters belong to one, and which others its texts use. -/

namespace GlobalImports.Unicode.Script

/-- The names of every script, in lower case and without separators: first its four-letter code. -/
def names : List (List String) :=
  [["adlm", "adlam"], ["ahom"], ["hluw", "anatolianhieroglyphs"], ["arab", "arabic"],
   ["armn", "armenian"], ["avst", "avestan"], ["bali", "balinese"], ["bamu", "bamum"],
   ["bass", "bassavah"], ["batk", "batak"], ["beng", "bengali"], ["bhks", "bhaiksuki"],
   ["bopo", "bopomofo"], ["brah", "brahmi"], ["brai", "braille"], ["bugi", "buginese"],
   ["buhd", "buhid"], ["cans", "canadianaboriginal"], ["cari", "carian"],
   ["aghb", "caucasianalbanian"], ["cakm", "chakma"], ["cham"], ["cher", "cherokee"],
   ["chrs", "chorasmian"], ["zyyy", "common"], ["copt", "coptic", "qaac"], ["xsux", "cuneiform"],
   ["cprt", "cypriot"], ["cpmn", "cyprominoan"], ["cyrl", "cyrillic"], ["dsrt", "deseret"],
   ["deva", "devanagari"], ["diak", "divesakuru"], ["dogr", "dogra"], ["dupl", "duployan"],
   ["egyp", "egyptianhieroglyphs"], ["elba", "elbasan"], ["elym", "elymaic"],
   ["ethi", "ethiopic"], ["gara", "garay"], ["geor", "georgian"], ["glag", "glagolitic"],
   ["goth", "gothic"], ["gran", "grantha"], ["grek", "greek"], ["gujr", "gujarati"],
   ["gong", "gunjalagondi"], ["guru", "gurmukhi"], ["gukh", "gurungkhema"], ["hani", "han"],
   ["hang", "hangul"], ["rohg", "hanifirohingya"], ["hano", "hanunoo"], ["hatr", "hatran"],
   ["hebr", "hebrew"], ["hira", "hiragana"], ["armi", "imperialaramaic"],
   ["zinh", "inherited", "qaai"], ["phli", "inscriptionalpahlavi"],
   ["prti", "inscriptionalparthian"], ["java", "javanese"], ["kthi", "kaithi"],
   ["knda", "kannada"], ["kana", "katakana"], ["kawi"], ["kali", "kayahli"],
   ["khar", "kharoshthi"], ["kits", "khitansmallscript"], ["khmr", "khmer"], ["khoj", "khojki"],
   ["sind", "khudawadi"], ["krai", "kiratrai"], ["laoo", "lao"], ["latn", "latin"],
   ["lepc", "lepcha"], ["limb", "limbu"], ["lina", "lineara"], ["linb", "linearb"], ["lisu"],
   ["lyci", "lycian"], ["lydi", "lydian"], ["mahj", "mahajani"], ["maka", "makasar"],
   ["mlym", "malayalam"], ["mand", "mandaic"], ["mani", "manichaean"], ["marc", "marchen"],
   ["gonm", "masaramgondi"], ["medf", "medefaidrin"], ["mtei", "meeteimayek"],
   ["mend", "mendekikakui"], ["merc", "meroiticcursive"], ["mero", "meroitichieroglyphs"],
   ["plrd", "miao"], ["modi"], ["mong", "mongolian"], ["mroo", "mro"], ["mult", "multani"],
   ["mymr", "myanmar"], ["nbat", "nabataean"], ["nagm", "nagmundari"], ["nand", "nandinagari"],
   ["talu", "newtailue"], ["newa"], ["nkoo", "nko"], ["nshu", "nushu"],
   ["hmnp", "nyiakengpuachuehmong"], ["ogam", "ogham"], ["olck", "olchiki"], ["onao", "olonal"],
   ["hung", "oldhungarian"], ["ital", "olditalic"], ["narb", "oldnortharabian"],
   ["perm", "oldpermic"], ["xpeo", "oldpersian"], ["sogo", "oldsogdian"],
   ["sarb", "oldsoutharabian"], ["orkh", "oldturkic"], ["ougr", "olduyghur"], ["orya", "oriya"],
   ["osge", "osage"], ["osma", "osmanya"], ["hmng", "pahawhhmong"], ["palm", "palmyrene"],
   ["pauc", "paucinhau"], ["phag", "phagspa"], ["phnx", "phoenician"],
   ["phlp", "psalterpahlavi"], ["rjng", "rejang"], ["runr", "runic"], ["samr", "samaritan"],
   ["saur", "saurashtra"], ["shrd", "sharada"], ["shaw", "shavian"], ["sidd", "siddham"],
   ["sgnw", "signwriting"], ["sinh", "sinhala"], ["sogd", "sogdian"], ["sora", "sorasompeng"],
   ["soyo", "soyombo"], ["sund", "sundanese"], ["sunu", "sunuwar"], ["sylo", "sylotinagri"],
   ["syrc", "syriac"], ["tglg", "tagalog"], ["tagb", "tagbanwa"], ["tale", "taile"],
   ["lana", "taitham"], ["tavt", "taiviet"], ["takr", "takri"], ["taml", "tamil"],
   ["tnsa", "tangsa"], ["tang", "tangut"], ["telu", "telugu"], ["thaa", "thaana"], ["thai"],
   ["tibt", "tibetan"], ["tfng", "tifinagh"], ["tirh", "tirhuta"], ["todr", "todhri"], ["toto"],
   ["tutg", "tulutigalari"], ["ugar", "ugaritic"], ["vaii", "vai"], ["vith", "vithkuqi"],
   ["wcho", "wancho"], ["wara", "warangciti"], ["yezi", "yezidi"], ["yiii", "yi"],
   ["zanb", "zanabazarsquare"]]

/-- The code of the script of that name. -/
def codeOf? (name : String) : Option String := (names.find? (·.contains name)).bind (·.head?)

/-- A run such as `latn26`: the code of a script and how many code points belong to it. -/
def readRun (token : List Char) : List Char × Nat :=
  (token.take 4, if (token.drop 4).isEmpty then 1 else Text.ofDecimal (token.drop 4))

/-- Ranges of code points that belong to one script, in order. -/
def scriptRanges : List (List Char × Nat × Nat) :=
  (((Ranges.tokens scriptRuns).map readRun).foldl
    (fun (n, acc) (code, len) => (n + len, acc.push (code, n, n + len - 1))) (0, #[])).2.toList

/-- The characters of the script with that code. -/
def ofCode (code : String) : Ranges :=
  .ofList (scriptRanges.filterMap fun (c, r) => if c == code.toList then some r else none)

/-- All characters listed with the scripts that share them. -/
def shared : Ranges := .unions (sharedScripts.map fun s => .ofTable [s.1])

/-- The characters that texts in the script use: a shared character counts for the scripts that
share it, not for its own. -/
def usedBy (code : String) : Ranges :=
  .union (.diff (ofCode code) shared)
    (.unions (sharedScripts.filterMap fun s =>
      if (s.2.splitOn " ").contains code then some (.ofTable [s.1]) else none))

/-- The set of characters of the script of that name. -/
def ofName? (name : String) : Option Ranges := (codeOf? name).map ofCode

/-- The set of characters used by the script of that name. -/
def usedByName? (name : String) : Option Ranges := (codeOf? name).map usedBy

end GlobalImports.Unicode.Script
