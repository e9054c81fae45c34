import CommentTags.Unicode.BinaryTable
import CommentTags.Unicode.CategoryTable
import CommentTags.Unicode.ScriptTable

/-!
Properties by name. Names are compared loosely: case, blanks, hyphens, underscores and a
leading "is" do not count.
-/
namespace CommentTags.Unicode

/-- A set of characters that a property names, or all others. -/
structure CharSet where
  parts : List Ranges
  negated : Bool
deriving DecidableEq, Repr, Inhabited

def CharSet.contains (s : CharSet) (c : Char) : Bool :=
  (s.parts.any fun r => r.contains c) != s.negated

def CharSet.ofRanges (r : Ranges) : CharSet := ⟨[r], false⟩

namespace Property

def lettersOnly (name : List Char) : List Char :=
  (name.filter fun c => c.toNat < 0x80 && c != ' ' && c != '_' && c != '-').map Char.toLower

/-- The loose form of a name; "isc" is no shorter name of "c". -/
def loose (name : List Char) : String :=
  match name with
  | i :: s :: rest =>
    if i.toLower = 'i' ∧ s.toLower = 's' then
      let r := lettersOnly rest
      if r = ['c'] then "isc" else String.ofList r
    else String.ofList (lettersOnly name)
  | _ => String.ofList (lettersOnly name)

def categories : List (List String × List Ranges) :=
  let cased := [uppercaseLetterRanges, lowercaseLetterRanges, titlecaseLetterRanges]
  [ (["lu", "uppercaseletter"], [uppercaseLetterRanges]),
    (["ll", "lowercaseletter"], [lowercaseLetterRanges]),
    (["lt", "titlecaseletter"], [titlecaseLetterRanges]),
    (["lc", "casedletter"], cased),
    (["lm", "modifierletter"], [modifierLetterRanges]),
    (["lo", "otherletter"], [otherLetterRanges]),
    (["l", "letter"], cased ++ [modifierLetterRanges, otherLetterRanges]),
    (["mn", "nonspacingmark"], [nonspacingMarkRanges]),
    (["mc", "spacingmark"], [spacingMarkRanges]),
    (["me", "enclosingmark"], [enclosingMarkRanges]),
    (["m", "mark", "combiningmark"],
      [nonspacingMarkRanges, spacingMarkRanges, enclosingMarkRanges]),
    (["nd", "decimalnumber", "digit"], [decimalNumberRanges]),
    (["nl", "letternumber"], [letterNumberRanges]),
    (["no", "othernumber"], [otherNumberRanges]),
    (["n", "number"], [decimalNumberRanges, letterNumberRanges, otherNumberRanges]),
    (["pc", "connectorpunctuation"], [connectorPunctuationRanges]),
    (["pd", "dashpunctuation"], [dashPunctuationRanges]),
    (["ps", "openpunctuation"], [openPunctuationRanges]),
    (["pe", "closepunctuation"], [closePunctuationRanges]),
    (["pi", "initialpunctuation"], [initialPunctuationRanges]),
    (["pf", "finalpunctuation"], [finalPunctuationRanges]),
    (["po", "otherpunctuation"], [otherPunctuationRanges]),
    (["p", "punctuation", "punct"],
      [connectorPunctuationRanges, dashPunctuationRanges, openPunctuationRanges,
        closePunctuationRanges, initialPunctuationRanges, finalPunctuationRanges,
        otherPunctuationRanges]),
    (["sm", "mathsymbol"], [mathSymbolRanges]),
    (["sc", "currencysymbol"], [currencySymbolRanges]),
    (["sk", "modifiersymbol"], [modifierSymbolRanges]),
    (["so", "othersymbol"], [otherSymbolRanges]),
    (["s", "symbol"],
      [mathSymbolRanges, currencySymbolRanges, modifierSymbolRanges, otherSymbolRanges]),
    (["zs", "spaceseparator"], [spaceSeparatorRanges]),
    (["zl", "lineseparator"], [lineSeparatorRanges]),
    (["zp", "paragraphseparator"], [paragraphSeparatorRanges]),
    (["z", "separator"],
      [spaceSeparatorRanges, lineSeparatorRanges, paragraphSeparatorRanges]),
    (["cc", "control", "cntrl"], [controlRanges]),
    (["cf", "format"], [formatRanges]),
    (["co", "privateuse"], [privateUseRanges]),
    (["cn", "unassigned"], [unassignedRanges]),
    (["c", "other"], [controlRanges, formatRanges, privateUseRanges, unassignedRanges]),
    (["any"], [⟨[(0, 0x10FFFF)]⟩]),
    (["ascii"], [⟨[(0, 0x7F)]⟩]) ]

def whiteSpaceRanges : Ranges :=
  .ofLines ["9-D 20 85 A0 1680 2000-200A 2028-2029 202F 205F 3000"]

def binaries : List (List String × Ranges) :=
  [ (["alpha", "alphabetic"], alphabeticRanges),
    (["lower", "lowercase"], lowercaseRanges),
    (["upper", "uppercase"], uppercaseRanges),
    (["cased"], casedRanges),
    (["ci", "caseignorable"], caseIgnorableRanges),
    (["wspace", "whitespace", "space"], whiteSpaceRanges),
    (["emoji"], emojiRanges),
    (["epres", "emojipresentation"], emojiPresentationRanges),
    (["extpict", "extendedpictographic"], extendedPictographicRanges),
    (["dash"], dashRanges),
    (["hex", "hexdigit"], hexDigitRanges),
    (["ahex", "asciihexdigit"], asciiHexDigitRanges),
    (["ideo", "ideographic"], ideographicRanges),
    (["math"], mathRanges),
    (["ids", "idstart"], idStartRanges),
    (["idc", "idcontinue"], idContinueRanges),
    (["qmark", "quotationmark"], quotationMarkRanges),
    (["joinc", "joincontrol"], joinControlRanges),
    (["grext", "graphemeextend"], graphemeExtendRanges),
    (["dia", "diacritic"], diacriticRanges) ]

def lookup? {α : Type} (table : List (List String × α)) (name : String) : Option α :=
  (table.find? fun e => e.1.contains name).map Prod.snd

def category? (name : String) : Option CharSet :=
  if name = "assigned" then some ⟨[unassignedRanges], true⟩
  else (lookup? categories name).map fun parts => ⟨parts, false⟩

def script? (name : String) : Option Script :=
  scripts.find? fun s => s.names.contains name

/-- The set named by a single name: a binary property, a category or a script, in this order. -/
def named? (name : List Char) : Option CharSet :=
  let n := loose name
  ((lookup? binaries n).map CharSet.ofRanges).or
    ((category? n).or ((script? n).map fun s => .ofRanges s.ranges))

/-- The set of the characters that have a value of a property. -/
def valued? (property value : List Char) : Option CharSet :=
  let v := loose value
  match loose property with
  | "gc" | "generalcategory" => category? v
  | "sc" | "script" => (script? v).map fun s => .ofRanges s.ranges
  | "scx" | "scriptextensions" => (script? v).map fun s => .ofRanges s.extended
  | _ => none

end Property

end CommentTags.Unicode
