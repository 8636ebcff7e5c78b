import FirstClaim.Unicode.Age
import FirstClaim.Unicode.Binary
import FirstClaim.Unicode.Category
import FirstClaim.Unicode.Script
import FirstClaim.Unicode.ScriptExtensions
import FirstClaim.Unicode.Segmentation

/-!
# Properties by name

`named` finds the set of characters that a single name stands for: a binary property, a general
category or a script. `valued` finds the set for a property together with one of its values.
The sets behind the shorthand classes for digits, blanks and word characters are here as well.
-/

set_option autoImplicit false

namespace FirstClaim.Unicode

inductive PropertyError where
  | unknownProperty
  | unknownValue
deriving DecidableEq, Repr

/-- The names of general categories and of groups of them. -/
def categoryNames : List (List String × List Category) := [
  (["uppercaseletter", "lu"], [.uppercaseLetter]),
  (["lowercaseletter", "ll"], [.lowercaseLetter]),
  (["titlecaseletter", "lt"], [.titlecaseLetter]),
  (["modifierletter", "lm"], [.modifierLetter]),
  (["otherletter", "lo"], [.otherLetter]),
  (["nonspacingmark", "mn"], [.nonspacingMark]),
  (["spacingmark", "mc"], [.spacingMark]),
  (["enclosingmark", "me"], [.enclosingMark]),
  (["decimalnumber", "nd", "digit"], [.decimalNumber]),
  (["letternumber", "nl"], [.letterNumber]),
  (["othernumber", "no"], [.otherNumber]),
  (["connectorpunctuation", "pc"], [.connectorPunctuation]),
  (["dashpunctuation", "pd"], [.dashPunctuation]),
  (["openpunctuation", "ps"], [.openPunctuation]),
  (["closepunctuation", "pe"], [.closePunctuation]),
  (["initialpunctuation", "pi"], [.initialPunctuation]),
  (["finalpunctuation", "pf"], [.finalPunctuation]),
  (["otherpunctuation", "po"], [.otherPunctuation]),
  (["mathsymbol", "sm"], [.mathSymbol]),
  (["currencysymbol", "sc"], [.currencySymbol]),
  (["modifiersymbol", "sk"], [.modifierSymbol]),
  (["othersymbol", "so"], [.otherSymbol]),
  (["spaceseparator", "zs"], [.spaceSeparator]),
  (["lineseparator", "zl"], [.lineSeparator]),
  (["paragraphseparator", "zp"], [.paragraphSeparator]),
  (["control", "cc", "cntrl"], [.control]),
  (["format", "cf"], [.format]),
  (["privateuse", "co"], [.privateUse]),
  (["unassigned", "cn"], [.unassigned]),
  (["letter", "l"], [.uppercaseLetter, .lowercaseLetter, .titlecaseLetter, .modifierLetter,
    .otherLetter]),
  (["casedletter", "lc"], [.uppercaseLetter, .lowercaseLetter, .titlecaseLetter]),
  (["mark", "m", "combiningmark"], [.nonspacingMark, .spacingMark, .enclosingMark]),
  (["number", "n"], [.decimalNumber, .letterNumber, .otherNumber]),
  (["punctuation", "p", "punct"], [.connectorPunctuation, .dashPunctuation, .openPunctuation,
    .closePunctuation, .initialPunctuation, .finalPunctuation, .otherPunctuation]),
  (["symbol", "s"], [.mathSymbol, .currencySymbol, .modifierSymbol, .otherSymbol]),
  (["separator", "z"], [.spaceSeparator, .lineSeparator, .paragraphSeparator]),
  (["other", "c"], [.control, .format, .privateUse, .unassigned]),
  (["surrogate", "cs"], [])
]

/-- Names of properties that are known but whose values are not. -/
def otherProperties : List String := [
  "bc", "bidiclass", "bidim", "bidimirrored", "bidimirroringglyph", "bidipairedbracket",
  "bidipairedbrackettype", "blk", "block", "bmg", "bpb", "bpt", "canonicalcombiningclass",
  "casefolding", "ccc", "ce", "cf", "changeswhennfkccasefolded", "cjkaccountingnumeric",
  "cjkcompatibilityvariant", "cjkiicore", "cjkirggsource", "cjkirghsource", "cjkirgjsource",
  "cjkirgkpsource", "cjkirgksource", "cjkirgmsource", "cjkirgssource", "cjkirgtsource",
  "cjkirguksource", "cjkirgusource", "cjkirgvsource", "cjkothernumeric", "cjkprimarynumeric",
  "cjkrsunicode", "compex", "compositionexclusion", "cwkcf", "decompositionmapping",
  "decompositiontype", "dm", "dt", "ea", "eastasianwidth", "equideo",
  "equivalentunifiedideograph", "expandsonnfc", "expandsonnfd", "expandsonnfkc", "expandsonnfkd",
  "fcnfkc", "fcnfkcclosure", "fullcompositionexclusion", "hangulsyllabletype", "hst", "incb",
  "indicconjunctbreak", "indicpositionalcategory", "indicsyllabiccategory", "inpc", "insc", "isc",
  "isocomment", "jamoshortname", "jg", "joininggroup", "joiningtype", "jsn", "jt",
  "kaccountingnumeric", "kcompatibilityvariant", "kiicore", "kirggsource", "kirghsource",
  "kirgjsource", "kirgkpsource", "kirgksource", "kirgmsource", "kirgssource", "kirgtsource",
  "kirguksource", "kirgusource", "kirgvsource", "kothernumeric", "kprimarynumeric", "krsunicode",
  "lb", "lc", "linebreak", "lowercasemapping", "na", "na1", "name", "namealias", "nfcqc",
  "nfcquickcheck", "nfdqc", "nfdquickcheck", "nfkccasefold", "nfkccf", "nfkcqc", "nfkcquickcheck",
  "nfkcscf", "nfkcsimplecasefold", "nfkdqc", "nfkdquickcheck", "nt", "numerictype",
  "numericvalue", "nv", "scf", "sfc", "simplecasefolding", "simplelowercasemapping",
  "simpletitlecasemapping", "simpleuppercasemapping", "slc", "stc", "suc", "tc",
  "titlecasemapping", "uc", "unicode1name", "unicoderadicalstroke", "uppercasemapping", "urs",
  "verticalorientation", "vo", "xonfc", "xonfd", "xonfkc", "xonfkd"]

/-- The set of the characters of any of the categories. -/
def ofCategories (cs : List Category) : CharSet :=
  CharSet.unions (cs.map Category.chars)

/-- The characters of a general category, if the loose name is one. -/
def category? (name : String) : Option (Except PropertyError CharSet) :=
  if name = "any" then some (.ok .full)
  else if name = "assigned" then some (.ok (Category.chars .unassigned).compl)
  else if name = "ascii" then some (.ok (.range 0 0x7F))
  else (categoryNames.find? (·.1.contains name)).map fun (_, cs) =>
    if cs.isEmpty then .error .unknownValue else .ok (ofCategories cs)

/-- The characters of an entry of a table, if the loose name is one. -/
def Table.chars? (t : Table) (name : String) : Option (Except PropertyError CharSet) :=
  (t.find? name).map fun entry =>
    match entry.chars? with
    | some set => .ok set
    | none => .error .unknownValue

/-- The characters that a single name stands for. -/
def named (name : String) : Except PropertyError CharSet :=
  let name := looseName name
  let found := (binaryProperties.chars? name) <|> (category? name) <|> (scripts.chars? name)
  found.getD (.error .unknownProperty)

/-- The characters that were assigned in a version of the standard. -/
def assignedBy? (version : String) : Option (Except PropertyError CharSet) :=
  if ages.any (·.names.contains version) then
    let later := (ages.dropWhile (fun a => !a.names.contains version)).drop 1
    let upTo := ages.take (ages.length - later.length)
    some (.ok (CharSet.unions (upTo.map fun a => CharSet.ofCounts a.counts)))
  else none

/-- The characters for which a property has a value. -/
def valued (property value : String) : Except PropertyError CharSet :=
  let property := looseName property
  let value := looseName value
  let among (found : Option (Except PropertyError CharSet)) := found.getD (.error .unknownValue)
  if property = "gc" || property = "generalcategory" then among (category? value)
  else if property = "sc" || property = "script" then among (scripts.chars? value)
  else if property = "scx" || property = "scriptextensions" then
    among (scriptExtensions.chars? value)
  else if property = "age" then among (assignedBy? value)
  else if property = "gcb" || property = "graphemeclusterbreak" then
    among (graphemeBreaks.chars? value)
  else if property = "wb" || property = "wordbreak" then among (wordBreaks.chars? value)
  else if property = "sb" || property = "sentencebreak" then among (sentenceBreaks.chars? value)
  else if (binaryProperties.find? property).isSome || otherProperties.contains property then
    .error .unknownValue
  else .error .unknownProperty

/-! ## Shorthand classes -/

/-- The set of a binary property, which is empty for an unknown name. -/
def binary (name : String) : CharSet :=
  match binaryProperties.find? name with
  | some entry => CharSet.ofCounts entry.counts
  | none => .empty

def digits : CharSet :=
  Category.chars .decimalNumber

def blanks : CharSet :=
  binary "whitespace"

/-- Letters, marks, decimal digits, connecting punctuation and join controls. -/
def wordChars : CharSet :=
  CharSet.unions [binary "alphabetic", ofCategories [.nonspacingMark, .spacingMark,
    .enclosingMark, .decimalNumber, .connectorPunctuation], binary "joincontrol"]

def alphabetic : CharSet :=
  binary "alphabetic"

def numbers : CharSet :=
  ofCategories [.decimalNumber, .letterNumber, .otherNumber]

/-- A blank character, which is `CharSet.contains blanks`. -/
def isBlank (c : Char) : Bool :=
  blanks.contains c

end FirstClaim.Unicode
