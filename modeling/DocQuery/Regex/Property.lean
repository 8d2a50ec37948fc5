import DocQuery.Regex.CharSet
import DocQuery.Text.Script

/-!
# Sets with Names

The names that patterns have for sets of characters: names of ASCII sets such as `alpha`, and names
of Unicode properties, general categories and scripts, which are in lower case without blanks,
hyphens and underscores.
-/

namespace DocQuery.CharSet

/-! ## Sets of ASCII -/

/-- The named sets of ASCII characters. -/
def ofAsciiName? (name : String) : Option CharSet :=
  match name with
  | "alnum" => some (ranges [('0', '9'), ('A', 'Z'), ('a', 'z')])
  | "alpha" => some (ranges [('A', 'Z'), ('a', 'z')])
  | "ascii" => some ascii
  | "blank" => some (ranges [('\t', '\t'), (' ', ' ')])
  | "cntrl" => some (ranges [('\x00', '\x1f'), ('\x7f', '\x7f')])
  | "digit" => some asciiDecimal
  | "graph" => some (range '!' '~')
  | "lower" => some (range 'a' 'z')
  | "print" => some (range ' ' '~')
  | "punct" => some (ranges [('!', '/'), (':', '@'), ('[', '\x60'), ('\x7b', '~')])
  | "space" => some asciiBlank
  | "upper" => some (range 'A' 'Z')
  | "word" => some asciiWord
  | "xdigit" => some (ranges [('0', '9'), ('A', 'F'), ('a', 'f')])
  | _ => none

/-! ## General categories -/

section

open Text.Category

/-- Numbers. -/
def number : CharSet := unions [decimal, table letterNumber, table otherNumber]

/-- Punctuation. -/
def punctuation : CharSet :=
  unions
    [table otherPunctuation, table dashPunctuation, table openPunctuation, table closePunctuation,
      table connectorPunctuation, table initialPunctuation, table finalPunctuation]

/-- Symbols. -/
def symbol : CharSet :=
  unions [table mathSymbol, table currencySymbol, table modifierSymbol, table otherSymbol]

/-- Separators. -/
def separator : CharSet :=
  unions [table spaceSeparator, table lineSeparator, table paragraphSeparator]

/-- Characters of none of the categories above. -/
def other : CharSet :=
  complement (unions [letter, mark, number, punctuation, symbol, separator])

/-- Characters that no category has. -/
def unassigned : CharSet :=
  difference other (unions [table control, table format, table privateUse])

/-- The general categories and groups of them, by name. -/
def ofCategoryName? (name : String) : Option CharSet :=
  match name with
  | "any" => some (complement empty)
  | "ascii" => some ascii
  | "assigned" => some (complement unassigned)
  | "l" | "letter" => some letter
  | "lu" | "uppercaseletter" => some (table uppercaseLetter)
  | "ll" | "lowercaseletter" => some (table lowercaseLetter)
  | "lt" | "titlecaseletter" => some (table titlecaseLetter)
  | "lc" | "casedletter" =>
    some (unions [table uppercaseLetter, table lowercaseLetter, table titlecaseLetter])
  | "lm" | "modifierletter" => some (table modifierLetter)
  | "lo" | "otherletter" => some (table otherLetter)
  | "m" | "mark" | "combiningmark" => some mark
  | "mn" | "nonspacingmark" => some (table nonspacingMark)
  | "mc" | "spacingmark" => some (table spacingMark)
  | "me" | "enclosingmark" => some (table enclosingMark)
  | "n" | "number" => some number
  | "nd" | "decimalnumber" | "digit" => some decimal
  | "nl" | "letternumber" => some (table letterNumber)
  | "no" | "othernumber" => some (table otherNumber)
  | "p" | "punctuation" | "punct" => some punctuation
  | "pc" | "connectorpunctuation" => some (table connectorPunctuation)
  | "pd" | "dashpunctuation" => some (table dashPunctuation)
  | "ps" | "openpunctuation" => some (table openPunctuation)
  | "pe" | "closepunctuation" => some (table closePunctuation)
  | "pi" | "initialpunctuation" => some (table initialPunctuation)
  | "pf" | "finalpunctuation" => some (table finalPunctuation)
  | "po" | "otherpunctuation" => some (table otherPunctuation)
  | "s" | "symbol" => some symbol
  | "sm" | "mathsymbol" => some (table mathSymbol)
  | "sc" | "currencysymbol" => some (table currencySymbol)
  | "sk" | "modifiersymbol" => some (table modifierSymbol)
  | "so" | "othersymbol" => some (table otherSymbol)
  | "z" | "separator" => some separator
  | "zs" | "spaceseparator" => some (table spaceSeparator)
  | "zl" | "lineseparator" => some (table lineSeparator)
  | "zp" | "paragraphseparator" => some (table paragraphSeparator)
  | "c" | "other" => some other
  | "cc" | "control" | "cntrl" => some (table control)
  | "cf" | "format" => some (table format)
  | "co" | "privateuse" => some (table privateUse)
  | "cn" | "unassigned" => some unassigned
  | _ => none

end

/-! ## Scripts -/

/-- The script of a name. -/
def scriptOfName? (name : String) : Option Text.Script :=
  Text.scripts.find? fun script ↦ script.code = name || script.names.contains name

/-- The characters of a script. -/
def ofScriptName? (name : String) : Option CharSet :=
  (scriptOfName? name).map fun script ↦ table script.spans

/-- The characters that are used in a script. -/
def ofScriptExtensionName? (name : String) : Option CharSet :=
  (scriptOfName? name).map fun script ↦
    let shared := Text.scriptExtensions.filter fun entry ↦ entry.2.contains script.code
    union (table (shared.map (·.1)))
      (difference (table script.spans) (table (Text.scriptExtensions.map (·.1))))

/-! ## Properties -/

section

open Text.Category Text.Property

/-- Characters with a case. -/
def cased : CharSet := unions [lowercase, uppercase, table titlecaseLetter]

/-- Marks and other characters that extend a user-perceived character. -/
def graphemeExtend : CharSet :=
  unions [table nonspacingMark, table enclosingMark, table otherGraphemeExtend]

/-- Beginnings of identifiers. -/
def idStart : CharSet :=
  difference (unions [letter, table letterNumber, table otherIdStart])
    (union (table patternSyntax) (table patternWhiteSpace))

/-- Parts of identifiers. -/
def idContinue : CharSet :=
  unions
    [idStart, table nonspacingMark, table spacingMark, decimal, table connectorPunctuation,
      table otherIdContinue]

/-- Parts of properties that are defined by general categories otherwise. -/
def ofContributoryName? (name : String) : Option CharSet :=
  match name with
  | "otheralphabetic" | "oalpha" =>
    some (difference alphabetic (union letter (table letterNumber)))
  | "otherlowercase" | "olower" => some (table otherLowercase)
  | "otheruppercase" | "oupper" => some (table otherUppercase)
  | "othermath" | "omath" => some (table otherMath)
  | "otheridstart" | "oids" => some (table otherIdStart)
  | "otheridcontinue" | "oidc" => some (table otherIdContinue)
  | "othergraphemeextend" | "ogrext" => some (table otherGraphemeExtend)
  | "otherdefaultignorablecodepoint" | "odi" =>
    some (difference (table defaultIgnorable) (union (table format) (table variationSelector)))
  | _ => none

/-- Properties of characters, by name. -/
def ofPropertyName? (name : String) : Option CharSet :=
  match name with
  | "alphabetic" | "alpha" => some alphabetic
  | "lowercase" | "lower" => some lowercase
  | "uppercase" | "upper" => some uppercase
  | "cased" => some cased
  | "caseignorable" | "ci" =>
    some (unions
      [table nonspacingMark, table enclosingMark, table format, table modifierLetter,
        table modifierSymbol, table otherCaseIgnorable])
  | "changeswhenlowercased" | "cwl" => some (table changesWhenLowercased)
  | "changeswhenuppercased" | "cwu" => some (table changesWhenUppercased)
  | "changeswhentitlecased" | "cwt" => some (table changesWhenTitlecased)
  | "changeswhencasefolded" | "cwcf" => some (table changesWhenCasefolded)
  | "changeswhencasemapped" | "cwcm" =>
    some (unions
      [table changesWhenLowercased, table changesWhenUppercased, table changesWhenTitlecased])
  | "whitespace" | "wspace" | "space" => some blank
  | "idstart" | "ids" => some idStart
  | "idcontinue" | "idc" => some idContinue
  | "xidstart" | "xids" => some (difference idStart (table notXidStart))
  | "xidcontinue" | "xidc" => some (difference idContinue (table notXidContinue))
  | "idcompatmathstart" => some (table mathIdStart)
  | "idcompatmathcontinue" => some (table mathIdContinue)
  | "patternsyntax" | "patsyn" => some (table patternSyntax)
  | "patternwhitespace" | "patws" => some (table patternWhiteSpace)
  | "math" => some (union (table mathSymbol) (table otherMath))
  | "graphemeextend" | "grext" => some graphemeExtend
  | "graphemelink" | "grlink" => some (table graphemeLink)
  | "graphemebase" | "grbase" =>
    some (difference
      (unions [letter, mark, number, punctuation, symbol, table spaceSeparator]) graphemeExtend)
  | "bidicontrol" | "bidic" => some (table bidiControl)
  | "joincontrol" | "joinc" => some (table joinControl)
  | "dash" => some (table dash)
  | "hyphen" => some (table hyphen)
  | "defaultignorablecodepoint" | "di" => some (table defaultIgnorable)
  | "deprecated" | "dep" => some (table deprecated)
  | "diacritic" | "dia" => some (table diacritic)
  | "extender" | "ext" => some (table extender)
  | "emoji" => some (table emoji)
  | "emojicomponent" | "ecomp" => some (table emojiComponent)
  | "emojimodifier" | "emod" => some (table emojiModifier)
  | "emojimodifierbase" | "ebase" => some (table emojiModifierBase)
  | "emojipresentation" | "epres" => some (table emojiPresentation)
  | "extendedpictographic" | "extpict" => some (table extendedPictographic)
  | "asciihexdigit" | "ahex" => some (intersection ascii (table hexDigit))
  | "hexdigit" | "hex" => some (table hexDigit)
  | "ideographic" | "ideo" => some (table ideographic)
  | "unifiedideograph" | "uideo" => some (table unifiedIdeograph)
  | "radical" => some (table radical)
  | "idsunaryoperator" | "idsu" => some (table idsUnaryOperator)
  | "idsbinaryoperator" | "idsb" => some (table idsBinaryOperator)
  | "idstrinaryoperator" | "idst" => some (table idsTrinaryOperator)
  | "logicalorderexception" | "loe" => some (table logicalOrderException)
  | "modifiercombiningmark" | "mcm" => some (table modifierCombiningMark)
  | "noncharactercodepoint" | "nchar" => some (table noncharacter)
  | "prependedconcatenationmark" | "pcm" => some (table prependedConcatenationMark)
  | "quotationmark" | "qmark" => some (table quotationMark)
  | "regionalindicator" | "ri" => some (table regionalIndicator)
  | "sentenceterminal" | "sterm" => some (table sentenceTerminal)
  | "softdotted" | "sd" => some (table softDotted)
  | "terminalpunctuation" | "term" => some (table terminalPunctuation)
  | "variationselector" | "vs" => some (table variationSelector)
  | name => ofContributoryName? name

end

end DocQuery.CharSet
