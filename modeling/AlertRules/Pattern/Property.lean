/-
AlertRules/Pattern/Property.lean

The names of character properties that a pattern may use in `\p{...}`: general
categories, scripts and the common binary properties, compared without regard to
case, spaces, underscores and hyphens.
-/

namespace AlertRules.Pattern

/-- General categories, short and long, and the three universal classes. -/
def categoryNames : List String :=
  ["any", "ascii", "assigned", "l", "letter", "lu", "uppercaseletter", "ll", "lowercaseletter",
    "lt", "titlecaseletter", "lc", "casedletter", "lm", "modifierletter", "lo", "otherletter",
    "m", "mark", "combiningmark", "mn", "nonspacingmark", "mc", "spacingmark", "me",
    "enclosingmark", "n", "number", "nd", "decimalnumber", "digit", "nl", "letternumber", "no",
    "othernumber", "p", "punctuation", "punct", "pc", "connectorpunctuation", "pd",
    "dashpunctuation", "ps", "openpunctuation", "pe", "closepunctuation", "pi",
    "initialpunctuation", "pf", "finalpunctuation", "po", "otherpunctuation", "s", "symbol",
    "sm", "mathsymbol", "sc", "currencysymbol", "sk", "modifiersymbol", "so", "othersymbol",
    "z", "separator", "zs", "spaceseparator", "zl", "lineseparator", "zp",
    "paragraphseparator", "c", "other", "cc", "control", "cntrl", "cf", "format", "co",
    "privateuse", "cn", "unassigned"]

/-- Binary properties. -/
def binaryNames : List String :=
  ["alphabetic", "alpha", "asciihexdigit", "ahex", "bidicontrol", "bidic", "bidimirrored",
    "bidim", "cased", "caseignorable", "ci", "changeswhencasefolded", "cwcf",
    "changeswhencasemapped", "cwcm", "changeswhenlowercased", "cwl", "changeswhentitlecased",
    "cwt", "changeswhenuppercased", "cwu", "dash", "defaultignorablecodepoint", "di",
    "deprecated", "dep", "diacritic", "dia", "emoji", "emojicomponent", "ecomp",
    "emojimodifier", "emod", "emojimodifierbase", "ebase", "emojipresentation", "epres",
    "extendedpictographic", "extpict", "extender", "ext", "graphemebase", "grbase",
    "graphemeextend", "grext", "hexdigit", "hex", "idcontinue", "idc", "idstart", "ids",
    "ideographic", "ideo", "joincontrol", "joinc", "logicalorderexception", "loe", "lowercase",
    "lower", "math", "noncharactercodepoint", "nchar", "patternsyntax", "patsyn",
    "patternwhitespace", "patws", "quotationmark", "qmark", "radical", "regionalindicator",
    "ri", "sentenceterminal", "sterm", "softdotted", "sd", "terminalpunctuation", "term",
    "unifiedideograph", "uideo", "uppercase", "upper", "variationselector", "vs",
    "whitespace", "wspace", "space", "xidcontinue", "xidc", "xidstart", "xids"]

/-- Scripts by their long and short names. -/
def scriptNames : List String :=
  ["adlam", "adlm", "ahom", "anatolianhieroglyphs", "hluw", "arabic", "arab", "armenian",
    "armn", "avestan", "avst", "balinese", "bali", "bamum", "bamu", "bassavah", "bass",
    "batak", "batk", "bengali", "beng", "bhaiksuki", "bhks", "bopomofo", "bopo", "brahmi",
    "brah", "braille", "brai", "buginese", "bugi", "buhid", "buhd", "canadianaboriginal",
    "cans", "carian", "cari", "caucasianalbanian", "aghb", "chakma", "cakm", "cham",
    "cherokee", "cher", "chorasmian", "chrs", "common", "zyyy", "coptic", "copt", "qaac",
    "cuneiform", "xsux", "cypriot", "cprt", "cyprominoan", "cpmn", "cyrillic", "cyrl",
    "deseret", "dsrt", "devanagari", "deva", "divesakuru", "diak", "dogra", "dogr",
    "duployan", "dupl", "egyptianhieroglyphs", "egyp", "elbasan", "elba", "elymaic", "elym",
    "ethiopic", "ethi", "georgian", "geor", "glagolitic", "glag", "gothic", "goth",
    "grantha", "gran", "greek", "grek", "gujarati", "gujr", "gunjalagondi", "gong",
    "gurmukhi", "guru", "han", "hani", "hangul", "hang", "hanifirohingya", "rohg",
    "hanunoo", "hano", "hatran", "hatr", "hebrew", "hebr", "hiragana", "hira",
    "imperialaramaic", "armi", "inherited", "zinh", "qaai", "inscriptionalpahlavi", "phli",
    "inscriptionalparthian", "prti", "javanese", "java", "kaithi", "kthi", "kannada",
    "knda", "katakana", "kana", "kawi", "kayahli", "kali", "kharoshthi", "khar",
    "khitansmallscript", "kits", "khmer", "khmr", "khojki", "khoj", "khudawadi", "sind",
    "lao", "laoo", "latin", "latn", "lepcha", "lepc", "limbu", "limb", "lineara", "lina",
    "linearb", "linb", "lisu", "lycian", "lyci", "lydian", "lydi", "mahajani", "mahj",
    "makasar", "maka", "malayalam", "mlym", "mandaic", "mand", "manichaean", "mani",
    "marchen", "marc", "masaramgondi", "gonm", "medefaidrin", "medf", "meeteimayek", "mtei",
    "mendekikakui", "mend", "meroiticcursive", "merc", "meroitichieroglyphs", "mero",
    "miao", "plrd", "modi", "mongolian", "mong", "mro", "mroo", "multani", "mult",
    "myanmar", "mymr", "nabataean", "nbat", "nagmundari", "nagm", "nandinagari", "nand",
    "newtailue", "talu", "newa", "nko", "nkoo", "nushu", "nshu", "nyiakengpuachuehmong",
    "hmnp", "ogham", "ogam", "olchiki", "olck", "oldhungarian", "hung", "olditalic", "ital",
    "oldnortharabian", "narb", "oldpermic", "perm", "oldpersian", "xpeo", "oldsogdian",
    "sogo", "oldsoutharabian", "sarb", "oldturkic", "orkh", "olduyghur", "ougr", "oriya",
    "orya", "osage", "osge", "osmanya", "osma", "pahawhhmong", "hmng", "palmyrene", "palm",
    "paucinhau", "pauc", "phagspa", "phag", "phoenician", "phnx", "psalterpahlavi", "phlp",
    "rejang", "rjng", "runic", "runr", "samaritan", "samr", "saurashtra", "saur", "sharada",
    "shrd", "shavian", "shaw", "siddham", "sidd", "signwriting", "sgnw", "sinhala", "sinh",
    "sogdian", "sogd", "sorasompeng", "sora", "soyombo", "soyo", "sundanese", "sund",
    "sylotinagri", "sylo", "syriac", "syrc", "tagalog", "tglg", "tagbanwa", "tagb", "taile",
    "tale", "taitham", "lana", "taiviet", "tavt", "takri", "takr", "tamil", "taml",
    "tangsa", "tnsa", "tangut", "tang", "telugu", "telu", "thaana", "thaa", "thai",
    "tibetan", "tibt", "tifinagh", "tfng", "tirhuta", "tirh", "toto", "ugaritic", "ugar",
    "vai", "vaii", "vithkuqi", "vith", "wancho", "wcho", "warangciti", "wara", "yezidi",
    "yezi", "yi", "yiii", "zanabazarsquare", "zanb"]

/-- A name as it is compared: without `is` in front of it, but `isc` is a name of its
own. -/
def normalName (name : List Char) : List Char :=
  let plain (cs : List Char) : List Char :=
    (cs.filter fun c => c.toNat < 0x80 && !(c == ' ' || c == '_' || c == '-')).map Char.toLower
  match (name.take 2).map Char.toLower with
  | ['i', 's'] => if plain (name.drop 2) = ['c'] then ['i', 's', 'c'] else plain (name.drop 2)
  | _ => plain name

/-- Whether `\p{...}` with this text denotes a class: a name, or a property and a
value with `=`, `:` or `!=` between them. -/
def isProperty (text : List Char) : Bool :=
  let isSeparator (c : Char) : Bool := c == '=' || c == ':' || c == '!'
  let name := String.ofList (normalName (text.takeWhile fun c => !isSeparator c))
  match text.dropWhile fun c => !isSeparator c with
  | [] => categoryNames.contains name || binaryNames.contains name || scriptNames.contains name
  | c :: r =>
    let r := if c = '!' then r.drop 1 else r
    let value := String.ofList (normalName r)
    if name = "gc" ∨ name = "generalcategory" then categoryNames.contains value
    else if name = "sc" ∨ name = "script" ∨ name = "scx" ∨ name = "scriptextensions" then
      scriptNames.contains value
    else false

end AlertRules.Pattern
