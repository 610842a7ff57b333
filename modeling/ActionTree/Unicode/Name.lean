import ActionTree.Text.Split
import ActionTree.Unicode.Age
import ActionTree.Unicode.Boundary
import ActionTree.Unicode.Casing

/-!
# ActionTree.Unicode.Name

Sets of characters by the names of properties and of their values.

1. names are compared without regard to case, blanks, hyphens, underscores and an
   `is` in front;
2. a name alone is a property, a general category or a script, in this order;
3. a name with a value is a property with several values.  Only for some of these the
   sets are known, and a value of any other one is not found.
-/

namespace ActionTree.Unicode

/-! ## Names -/

/-- Whether a character counts when names are compared. -/
def countsInNames (c : Char) : Bool :=
  c.toNat < 128 && c != ' ' && c != '_' && c != '-'

/-- What remains of a name when it is compared. -/
def plainChars (cs : List Char) : List Char := (cs.filter countsInNames).map Char.toLower

/-- A name as it is compared.  An `is` in front goes, but `isc` is a name of its own. -/
def comparedName (name : String) : String :=
  match name.toList with
  | i :: s :: rest =>
    if i.toLower = 'i' && s.toLower = 's' then
      let plain := plainChars rest
      String.ofList (if plain = ['c'] then ['i', 's', 'c'] else plain)
    else String.ofList (plainChars (i :: s :: rest))
  | cs => String.ofList (plainChars cs)

/-- Sets by names. -/
abbrev NameTable := List (List String × CharSet)

/-- The set of a name. -/
def NameTable.get? (t : NameTable) (name : String) : Option CharSet :=
  (t.find? fun e => e.1.contains name).map Prod.snd

/-! ## General categories -/

/-- The general categories. -/
def categories : NameTable :=
  [(["any"], .all), (["assigned"], assigned), (["ascii"], .range 0 127),
   (["l", "letter"], letters), (["lc", "casedletter"], casedLetters),
   (["lu", "uppercaseletter"], uppercaseLetters), (["ll", "lowercaseletter"], lowercaseLetters),
   (["lt", "titlecaseletter"], titlecaseLetters), (["lm", "modifierletter"], modifierLetters),
   (["lo", "otherletter"], otherLetters),
   (["m", "mark", "combiningmark"], marks), (["mn", "nonspacingmark"], nonspacingMarks),
   (["mc", "spacingmark"], spacingMarks), (["me", "enclosingmark"], enclosingMarks),
   (["n", "number"], numbers), (["nd", "decimalnumber", "digit"], decimalDigits),
   (["nl", "letternumber"], letterNumbers), (["no", "othernumber"], otherNumbers),
   (["p", "punctuation", "punct"], punctuation), (["pc", "connectorpunctuation"], connectors),
   (["pd", "dashpunctuation"], dashes), (["ps", "openpunctuation"], openings),
   (["pe", "closepunctuation"], closings), (["pi", "initialpunctuation"], initialQuotes),
   (["pf", "finalpunctuation"], finalQuotes), (["po", "otherpunctuation"], otherPunctuation),
   (["s", "symbol"], symbols), (["sm", "mathsymbol"], mathSymbols),
   (["sc", "currencysymbol"], currencySymbols), (["sk", "modifiersymbol"], modifierSymbols),
   (["so", "othersymbol"], otherSymbols),
   (["z", "separator"], separators), (["zs", "spaceseparator"], spaceSeparators),
   (["zl", "lineseparator"], lineSeparators), (["zp", "paragraphseparator"], paragraphSeparators),
   (["c", "other"], others), (["cc", "control", "cntrl"], controls), (["cf", "format"], formats),
   (["co", "privateuse"], privateUse), (["cn", "unassigned"], unassigned)]

/-- The names of categories and scripts that no character has. -/
def emptyCategories : List String := ["cs", "surrogate"]

/-- The names of scripts that no character has. -/
def emptyScripts : List String := ["unknown", "zzzz", "katakanaorhiragana", "hrkt"]

/-! ## Properties that a character has or has not -/

/-- The properties without values. -/
def plainProperties : NameTable :=
  [(["asciihexdigit", "ahex"], asciiHexDigit), (["alphabetic", "alpha"], alphabetic),
   (["bidicontrol", "bidic"], bidiControl), (["bidimirrored", "bidim"], bidiMirrored),
   (["caseignorable", "ci"], caseIgnorable), (["cased"], cased),
   (["changeswhencasefolded", "cwcf"], changesWhenCasefolded),
   (["changeswhencasemapped", "cwcm"], changesWhenCasemapped),
   (["changeswhenlowercased", "cwl"], changesWhenLowercased),
   (["changeswhentitlecased", "cwt"], changesWhenTitlecased),
   (["changeswhenuppercased", "cwu"], changesWhenUppercased),
   (["dash"], dash), (["defaultignorablecodepoint", "di"], defaultIgnorable),
   (["deprecated", "dep"], deprecated), (["diacritic", "dia"], diacritic), (["emoji"], emoji),
   (["emojicomponent", "ecomp"], emojiComponent), (["emojimodifier", "emod"], emojiModifier),
   (["emojimodifierbase", "ebase"], emojiModifierBase),
   (["emojipresentation", "epres"], emojiPresentation),
   (["extendedpictographic", "extpict"], extendedPictographic), (["extender", "ext"], extender),
   (["graphemebase", "grbase"], graphemeBase), (["graphemeextend", "grext"], graphemeExtend),
   (["graphemelink", "grlink"], graphemeLink), (["hexdigit", "hex"], hexDigit),
   (["hyphen"], hyphen), (["idcompatmathcontinue"], idCompatMathContinue),
   (["idcompatmathstart"], idCompatMathStart), (["idcontinue", "idc"], idContinue),
   (["idstart", "ids"], idStart), (["idsbinaryoperator", "idsb"], idsBinaryOperator),
   (["idstrinaryoperator", "idst"], idsTrinaryOperator),
   (["idsunaryoperator", "idsu"], idsUnaryOperator), (["ideographic", "ideo"], ideographic),
   (["joincontrol", "joinc"], joinControl),
   (["logicalorderexception", "loe"], logicalOrderException),
   (["lowercase", "lower"], lowercase), (["math"], math),
   (["modifiercombiningmark", "mcm"], modifierCombiningMark),
   (["noncharactercodepoint", "nchar"], noncharacter),
   (["otheralphabetic", "oalpha"], otherAlphabetic),
   (["otherdefaultignorablecodepoint", "odi"], otherDefaultIgnorable),
   (["othergraphemeextend", "ogrext"], otherGraphemeExtend),
   (["otheridcontinue", "oidc"], otherIdContinue), (["otheridstart", "oids"], otherIdStart),
   (["otherlowercase", "olower"], otherLowercase), (["othermath", "omath"], otherMath),
   (["otheruppercase", "oupper"], otherUppercase), (["patternsyntax", "patsyn"], patternSyntax),
   (["patternwhitespace", "patws"], patternWhiteSpace),
   (["prependedconcatenationmark", "pcm"], prependedConcatenationMark),
   (["quotationmark", "qmark"], quotationMark), (["radical"], radical),
   (["regionalindicator", "ri"], regionalIndicator),
   (["sentenceterminal", "sterm"], sentenceTerminal), (["softdotted", "sd"], softDotted),
   (["terminalpunctuation", "term"], terminalPunctuation),
   (["unifiedideograph", "uideo"], unifiedIdeograph), (["uppercase", "upper"], uppercase),
   (["variationselector", "vs"], variationSelector), (["whitespace", "wspace", "space"], whiteSpace),
   (["xidcontinue", "xidc"], xidContinue), (["xidstart", "xids"], xidStart)]

/-! ## Properties with values -/

/-- The properties with values whose sets are known. -/
def valuedProperties : List (List String × NameTable) :=
  [(["generalcategory", "gc"], categories), (["script", "sc"], scriptChars),
   (["scriptextensions", "scx"], extendedScriptChars), (["age"], ages),
   (["graphemeclusterbreak", "gcb"], graphemeBreaks), (["wordbreak", "wb"], wordBreaks),
   (["sentencebreak", "sb"], sentenceBreaks)]

/-- The names of all other properties. -/
def furtherProperties : List String :=
  ["bc bidiclass bidimirroringglyph bidipairedbracket bidipairedbrackettype blk block bmg",
   "bpb bpt canonicalcombiningclass casefolding ccc ce cf changeswhennfkccasefolded",
   "cjkaccountingnumeric cjkcompatibilityvariant cjkiicore cjkirggsource cjkirghsource",
   "cjkirgjsource cjkirgkpsource cjkirgksource cjkirgmsource cjkirgssource cjkirgtsource",
   "cjkirguksource cjkirgusource cjkirgvsource cjkmandarin cjkothernumeric cjkprimarynumeric",
   "cjkrsunicode cjktotalstrokes cjkunihancore2020 compex compositionexclusion cwkcf",
   "decompositionmapping decompositiontype dm dt ea eastasianwidth equideo",
   "equivalentunifiedideograph expandsonnfc expandsonnfd expandsonnfkc expandsonnfkd fcnfkc",
   "fcnfkcclosure fullcompositionexclusion hangulsyllabletype hst incb indicconjunctbreak",
   "indicpositionalcategory indicsyllabiccategory inpc insc isc jamoshortname jg",
   "joininggroup joiningtype jsn jt kaccountingnumeric kcompatibilityvariant kehcat kehdesc",
   "kehhg kehifao kehjsesh kehnomirror kehnorotate kiicore kirggsource kirghsource",
   "kirgjsource kirgkpsource kirgksource kirgmsource kirgssource kirgtsource kirguksource",
   "kirgusource kirgvsource kmandarin kothernumeric kprimarynumeric krsunicode ktotalstrokes",
   "kunihancore2020 lb lc linebreak lowercasemapping na na1 name namealias nfcqc",
   "nfcquickcheck nfdqc nfdquickcheck nfkccasefold nfkccf nfkcqc nfkcquickcheck nfkcscf",
   "nfkcsimplecasefold nfkdqc nfkdquickcheck nt numerictype numericvalue nv ocomment scf sfc",
   "simplecasefolding simplelowercasemapping simpletitlecasemapping simpleuppercasemapping",
   "slc stc suc tc titlecasemapping uc unicode1name unicoderadicalstroke uppercasemapping",
   "urs verticalorientation vo xonfc xonfd xonfkc xonfkd"].flatMap
    (Text.pieces ' ')

/-! ## Looking up -/

/-- What may be wrong with names. -/
inductive NameFault where
  | noProperty
  | noValue
deriving DecidableEq, Repr

/-- A set, or the fault that there is none. -/
def orFault (fault : NameFault) (s : Option CharSet) : Except NameFault CharSet :=
  s.elim (.error fault) .ok

/-- The characters that a name alone stands for. -/
def named (name : String) : Except NameFault CharSet :=
  let name := comparedName name
  match plainProperties.get? name with
  | some s => .ok s
  | none =>
    match (categories ++ scriptChars).get? name with
    | some s => .ok s
    | none =>
      .error (if (emptyCategories ++ emptyScripts).contains name then .noValue else .noProperty)

/-- Whether a name is that of a property for whose values no sets are known. -/
def isFurtherProperty (name : String) : Bool :=
  (plainProperties.get? name).isSome || furtherProperties.contains name

/-- The characters that have a value of a property. -/
def withValue (property value : String) : Except NameFault CharSet :=
  let property := comparedName property
  match valuedProperties.find? fun e => e.1.contains property with
  | some (_, values) => orFault .noValue (NameTable.get? values (comparedName value))
  | none => .error (if isFurtherProperty property then .noValue else .noProperty)

end ActionTree.Unicode
