import Patrol.Unicode.Class
import Patrol.Unicode.ScriptExtension

/-! Sets of characters by the names that patterns use for them: a general category, a script or a
yes-or-no property, written loosely. -/
namespace Patrol.Unicode

/-- The loose form of a name: a leading `is` and all blanks, dashes and underscores are dropped,
capitals become small, and what is not ASCII is ignored. The one name of which only `c` would
remain keeps its `is`. -/
def looseName (name : String) : String :=
  let cs := name.toList
  let (stripped, rest) :=
    match cs with
    | i :: s :: rest => if (i == 'i' || i == 'I') && (s == 's' || s == 'S') then (true, rest) else (false, cs)
    | _ => (false, cs)
  let loose := (rest.filter fun c => !(c == ' ' || c == '-' || c == '_') && c.toNat < 0x80).map Char.toLower
  if stripped && loose == ['c'] then "isc" else String.ofList loose

/-- General categories and their groups, by loose name. -/
def categories : List (List String × CodeSet) :=
  open Category in
  [ (["any"], .range 0 0x10FFFF), (["ascii"], .range 0 0x7F),
    (["assigned"], unassigned.complement),
    (["c", "other"], other), (["cc", "control", "cntrl"], control), (["cf", "format"], format),
    (["cn", "unassigned"], unassigned), (["co", "privateuse"], privateUse),
    (["l", "letter"], letter), (["lc", "casedletter"], casedLetter),
    (["ll", "lowercaseletter"], lowercaseLetter), (["lm", "modifierletter"], modifierLetter),
    (["lo", "otherletter"], otherLetter), (["lt", "titlecaseletter"], titlecaseLetter),
    (["lu", "uppercaseletter"], uppercaseLetter),
    (["m", "mark", "combiningmark"], mark), (["mc", "spacingmark"], spacingMark),
    (["me", "enclosingmark"], enclosingMark), (["mn", "nonspacingmark"], nonspacingMark),
    (["n", "number"], number), (["nd", "decimalnumber", "digit"], decimalNumber),
    (["nl", "letternumber"], letterNumber), (["no", "othernumber"], otherNumber),
    (["p", "punctuation", "punct"], punctuation),
    (["pc", "connectorpunctuation"], connectorPunctuation),
    (["pd", "dashpunctuation"], dashPunctuation), (["pe", "closepunctuation"], closePunctuation),
    (["pf", "finalpunctuation"], finalPunctuation),
    (["pi", "initialpunctuation"], initialPunctuation),
    (["po", "otherpunctuation"], otherPunctuation), (["ps", "openpunctuation"], openPunctuation),
    (["s", "symbol"], symbol), (["sc", "currencysymbol"], currencySymbol),
    (["sk", "modifiersymbol"], modifierSymbol), (["sm", "mathsymbol"], mathSymbol),
    (["so", "othersymbol"], otherSymbol),
    (["z", "separator"], separator), (["zl", "lineseparator"], lineSeparator),
    (["zp", "paragraphseparator"], paragraphSeparator), (["zs", "spaceseparator"], spaceSeparator) ]

/-- Yes-or-no properties, by loose name. -/
def properties : List (List String × CodeSet) :=
  open Property in
  [ (["ahex", "asciihexdigit"], asciiHexDigit), (["alpha", "alphabetic"], alphabetic),
    (["bidic", "bidicontrol"], bidiControl), (["bidim", "bidimirrored"], bidiMirrored),
    (["ci", "caseignorable"], caseIgnorable), (["cased"], cased),
    (["cwcf", "changeswhencasefolded"], changesWhenCasefolded),
    (["cwcm", "changeswhencasemapped"], changesWhenCasemapped),
    (["cwl", "changeswhenlowercased"], changesWhenLowercased),
    (["cwt", "changeswhentitlecased"], changesWhenTitlecased),
    (["cwu", "changeswhenuppercased"], changesWhenUppercased),
    (["dash"], dash), (["di", "defaultignorablecodepoint"], defaultIgnorable),
    (["dep", "deprecated"], deprecated), (["dia", "diacritic"], diacritic),
    (["emoji"], emoji), (["ecomp", "emojicomponent"], emojiComponent),
    (["emod", "emojimodifier"], emojiModifier), (["ebase", "emojimodifierbase"], emojiModifierBase),
    (["epres", "emojipresentation"], emojiPresentation),
    (["extpict", "extendedpictographic"], extendedPictographic), (["ext", "extender"], extender),
    (["grbase", "graphemebase"], graphemeBase), (["grext", "graphemeextend"], graphemeExtend),
    (["hex", "hexdigit"], hexDigit), (["hyphen"], hyphen),
    (["idc", "idcontinue"], identifierContinue), (["ids", "idstart"], identifierStart),
    (["idsb", "idsbinaryoperator"], idsBinaryOperator),
    (["idst", "idstrinaryoperator"], idsTrinaryOperator),
    (["idsu", "idsunaryoperator"], idsUnaryOperator),
    (["ideo", "ideographic"], ideographic), (["joinc", "joincontrol"], joinControl),
    (["loe", "logicalorderexception"], logicalOrderException), (["lower", "lowercase"], lowercase),
    (["math"], math), (["nchar", "noncharactercodepoint"], noncharacter),
    (["oalpha", "otheralphabetic"], otherAlphabetic),
    (["ogrext", "othergraphemeextend"], otherGraphemeExtend),
    (["olower", "otherlowercase"], otherLowercase), (["omath", "othermath"], otherMath),
    (["oupper", "otheruppercase"], otherUppercase),
    (["patsyn", "patternsyntax"], patternSyntax),
    (["patws", "patternwhitespace"], patternWhiteSpace),
    (["pcm", "prependedconcatenationmark"], prependedConcatenationMark),
    (["qmark", "quotationmark"], quotationMark), (["radical"], radical),
    (["ri", "regionalindicator"], regionalIndicator),
    (["sd", "softdotted"], softDotted), (["sterm", "sentenceterminal"], sentenceTerminal),
    (["term", "terminalpunctuation"], terminalPunctuation),
    (["uideo", "unifiedideograph"], unifiedIdeograph), (["upper", "uppercase"], uppercase),
    (["vs", "variationselector"], variationSelector),
    (["wspace", "whitespace", "space"], whiteSpace),
    (["xidc", "xidcontinue"], identifierContinue.symmDiff identifierContinueNormalized),
    (["xids", "xidstart"], identifierStart.symmDiff identifierStartNormalized) ]

/-- The set listed under a loose name. -/
def find? (table : List (List String × CodeSet)) (name : String) : Option CodeSet :=
  (table.find? (·.1.contains name)).map (·.2)

/-- What a pattern asks for: a set by its name, or by a property and its value. -/
inductive Query where
  | named (name : String)
  | valued (property value : String)
deriving DecidableEq

/-- The set that a query names. A bare name is sought among the properties first, then among the
categories and the scripts. -/
def Query.codes? : Query → Option CodeSet
  | .named name =>
    let n := looseName name
    find? properties n <|> find? categories n <|> Script.codes? n
  | .valued property value =>
    let v := looseName value
    match looseName property with
    | "gc" | "generalcategory" => find? categories v
    | "sc" | "script" => Script.codes? v
    | "scx" | "scriptextensions" => ScriptExtension.codes? v
    | _ => none

end Patrol.Unicode
