import Packrat.Pattern.Expression

/-!
# Classes with names

The classes of characters that an expression can name: general categories, scripts and
properties, and the bracketed ASCII classes.  Case, blanks, hyphens and underscores in
a property's name do not matter, nor does a leading `is`.
-/

namespace Packrat

/-- The letters of a name that matter. -/
def looseName (name : List Char) : String :=
  let kept := (name.filter fun c => !(c == ' ' || c == '_' || c == '-')).map Char.toLower
  match kept with
  | 'i' :: 's' :: rest => if rest = ['c'] then "isc" else String.ofList rest
  | _ => String.ofList kept

/-- The general categories by their names, each with the abbreviations it stands for. -/
def categoryNames : List (List String × List String) :=
  [(["l", "letter"], ["Lu", "Ll", "Lt", "Lm", "Lo"]),
   (["lc", "casedletter"], ["Lu", "Ll", "Lt"]),
   (["lu", "uppercaseletter"], ["Lu"]),
   (["ll", "lowercaseletter"], ["Ll"]),
   (["lt", "titlecaseletter"], ["Lt"]),
   (["lm", "modifierletter"], ["Lm"]),
   (["lo", "otherletter"], ["Lo"]),
   (["m", "mark", "combiningmark"], ["Mn", "Mc", "Me"]),
   (["mn", "nonspacingmark"], ["Mn"]),
   (["mc", "spacingmark"], ["Mc"]),
   (["me", "enclosingmark"], ["Me"]),
   (["n", "number"], ["Nd", "Nl", "No"]),
   (["nd", "decimalnumber", "digit"], ["Nd"]),
   (["nl", "letternumber"], ["Nl"]),
   (["no", "othernumber"], ["No"]),
   (["p", "punctuation", "punct"], ["Pc", "Pd", "Ps", "Pe", "Pi", "Pf", "Po"]),
   (["pc", "connectorpunctuation"], ["Pc"]),
   (["pd", "dashpunctuation"], ["Pd"]),
   (["ps", "openpunctuation"], ["Ps"]),
   (["pe", "closepunctuation"], ["Pe"]),
   (["pi", "initialpunctuation"], ["Pi"]),
   (["pf", "finalpunctuation"], ["Pf"]),
   (["po", "otherpunctuation"], ["Po"]),
   (["s", "symbol"], ["Sm", "Sc", "Sk", "So"]),
   (["sm", "mathsymbol"], ["Sm"]),
   (["sc", "currencysymbol"], ["Sc"]),
   (["sk", "modifiersymbol"], ["Sk"]),
   (["so", "othersymbol"], ["So"]),
   (["z", "separator"], ["Zs", "Zl", "Zp"]),
   (["zs", "spaceseparator"], ["Zs"]),
   (["zl", "lineseparator"], ["Zl"]),
   (["zp", "paragraphseparator"], ["Zp"]),
   (["c", "other"], ["Cc", "Cf", "Cn", "Co"]),
   (["cc", "control", "cntrl"], ["Cc"]),
   (["cf", "format"], ["Cf"]),
   (["cn", "unassigned"], ["Cn"]),
   (["co", "privateuse"], ["Co"])]

/-- The class of a general category, or of one of three names that stand beside them. -/
def categoryClass? (name : String) : Option CharClass :=
  if name = "any" then some .any
  else if name = "ascii" then some (.range 0 0x7F)
  else if name = "assigned" then some (.complement (.categories ["Cn"]))
  else (categoryNames.find? (·.1.contains name)).map fun entry => .categories entry.2

/-- The class of a script, which is named in full or by its abbreviation.  What belongs to
no script is not a class. -/
def scriptClass? (name : String) : Option CharClass :=
  let isNamed (known : String) : Bool := looseName known.toList == name
  match scriptAbbreviations.find? fun entry => isNamed entry.1 with
  | some (_, script) => some (.script script)
  | none =>
    (scripts.values.toList.find? fun script => script != "Unknown" && isNamed script).map
      .script

/-- The properties by their names. -/
def propertyNames : List (List String × CharSet) :=
  [(["alphabetic", "alpha"], alphabetic),
   (["whitespace", "wspace", "space"], whiteSpace),
   (["xidstart", "xids"], identifierStart),
   (["xidcontinue", "xidc"], identifierContinue),
   (["graphemeextend", "grext"], graphemeExtend),
   (["uppercase", "upper"], uppercase),
   (["lowercase", "lower"], lowercase),
   (["defaultignorablecodepoint", "di"], defaultIgnorable),
   (["emoji"], emoji),
   (["emojipresentation", "epres"], emojiPresentation),
   (["emojimodifierbase", "ebase"], emojiModifierBase),
   (["extendedpictographic", "extpict"], extendedPictographic),
   (["cased"], cased),
   (["dash"], dash),
   (["hexdigit", "hex"], hexadecimal),
   (["asciihexdigit", "ahex"], .ofText "30 3A 41 47 61 67"),
   (["joincontrol", "joinc"], .ofText "200C 200E"),
   (["regionalindicator", "ri"], .ofText "1F1E6 1F200"),
   (["emojimodifier", "emod"], .ofText "1F3FB 1F400"),
   (["variationselector", "vs"], .ofText "180B 180E 180F 1810 FE00 FE10 E0100 E01F0"),
   (["patternwhitespace", "patws"], .ofText "9 E 20 21 85 86 200E 2010 2028 202A"),
   (["ideographic", "ideo"], ideographic),
   (["math"], mathematical)]

def propertyClass? (name : String) : Option CharClass :=
  (propertyNames.find? (·.1.contains name)).map fun entry => .set entry.2

/-- The class that a name alone stands for. -/
def classNamed? (name : List Char) : Option CharClass :=
  let name := looseName name
  propertyClass? name <|> categoryClass? name <|> scriptClass? name

/-- The class of the characters that have some value of some property. -/
def classValued? (property value : List Char) : Option CharClass :=
  let property := looseName property
  let value := looseName value
  if property = "gc" ∨ property = "generalcategory" then categoryClass? value
  else if property = "sc" ∨ property = "script" ∨ property = "scx" ∨
      property = "scriptextensions" then
    scriptClass? value
  else none

/-- The ASCII classes that brackets can name. -/
def asciiClass? (name : String) : Option CharClass :=
  match name with
  | "alnum" => some (.ofList [.range 0x30 0x39, .range 0x41 0x5A, .range 0x61 0x7A])
  | "alpha" => some (.ofList [.range 0x41 0x5A, .range 0x61 0x7A])
  | "ascii" => some (.range 0 0x7F)
  | "blank" => some (.ofList [.range 9 9, .range 32 32])
  | "cntrl" => some (.ofList [.range 0 0x1F, .range 0x7F 0x7F])
  | "digit" => some .asciiDigits
  | "graph" => some (.range 0x21 0x7E)
  | "lower" => some (.range 0x61 0x7A)
  | "print" => some (.range 0x20 0x7E)
  | "punct" =>
    some (.ofList [.range 0x21 0x2F, .range 0x3A 0x40, .range 0x5B 0x60, .range 0x7B 0x7E])
  | "space" => some .asciiBlanks
  | "upper" => some (.range 0x41 0x5A)
  | "word" => some .asciiWords
  | "xdigit" => some (.ofList [.range 0x30 0x39, .range 0x41 0x46, .range 0x61 0x66])
  | _ => none

end Packrat
