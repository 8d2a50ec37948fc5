import DocQuery.Regex.Property
import DocQuery.Text.Break

/-!
# Classes of Breaks

Three properties tell where a text can be divided: into user-perceived characters, into words and
into sentences.  Each of them puts a character into one class at most, and the classes are made of
general categories, of properties and of what is particular to breaks.

Characters of no class have no name here, although they have one in Unicode.
-/

namespace DocQuery.CharSet

section

open Text.Category Text.Property Text.Break

/-! ## User-perceived characters -/

/-- Characters that belong to the user-perceived character before them. -/
def characterExtend : CharSet := union graphemeExtend (table emojiModifier)

/-- Marks that take space and belong to the user-perceived character before them. -/
def characterMark : CharSet :=
  difference (unions [table spacingMark, single '\u0e33', single '\u0eb3'])
    (union characterExtend (table separateSpacingMark))

/-- Characters that stand for themselves since they control what is around them. -/
def characterControl : CharSet :=
  difference
    (unions
      [table control, table format, table lineSeparator, table paragraphSeparator,
        intersection (table defaultIgnorable) unassigned])
    (unions
      [single '\r', single '\n', characterExtend, table joinControl,
        table prependedConcatenationMark])

/-- The classes for user-perceived characters. -/
def ofCharacterBreak? (name : String) : Option CharSet :=
  match name with
  | "cr" => some (single '\r')
  | "lf" => some (single '\n')
  | "cn" | "control" => some characterControl
  | "ex" | "extend" => some characterExtend
  | "zwj" => some (single '\u200d')
  | "ri" | "regionalindicator" => some (table regionalIndicator)
  | "pp" | "prepend" => some (union (table prependedLetter) (table prependedConcatenationMark))
  | "sm" | "spacingmark" => some characterMark
  | "l" => some (table initialJamo)
  | "v" => some (table medialJamo)
  | "t" => some (table finalJamo)
  | "lv" => some (table openSyllable)
  | "lvt" => some (difference (range '\uac00' '\ud7a3') (table openSyllable))
  | _ => none

/-! ## Words -/

/-- Characters that belong to the character before them in a word. -/
def wordExtend : CharSet := union characterExtend (table spacingMark)

/-- Format characters in words. -/
def wordFormat : CharSet :=
  difference (table format)
    (unions
      [wordExtend, table prependedConcatenationMark, single '\u200b', single '\u200d'])

/-- Letters of words. -/
def wordLetter : CharSet :=
  union
    (difference alphabetic
      (unions
        [wordExtend, table ideographic, table katakana, table hebrewLetter,
          table unspacedLetter]))
    (table symbolLetter)

/-- Digits and signs of numbers. -/
def wordNumeral : CharSet :=
  unions
    [decimal, difference (table prependedConcatenationMark) (single '\u070f'), single '\u066b',
      single '\u19da']

/-- The classes for words. -/
def ofWordBreak? (name : String) : Option CharSet :=
  match name with
  | "cr" => some (single '\r')
  | "lf" => some (single '\n')
  | "nl" | "newline" => some (table newline)
  | "extend" => some wordExtend
  | "zwj" => some (single '\u200d')
  | "fo" | "format" => some wordFormat
  | "ri" | "regionalindicator" => some (table regionalIndicator)
  | "ka" | "katakana" => some (table katakana)
  | "hl" | "hebrewletter" => some (table hebrewLetter)
  | "le" | "aletter" => some wordLetter
  | "sq" | "singlequote" => some (single '\'')
  | "dq" | "doublequote" => some (single '"')
  | "mb" | "midnumlet" => some (table midLetterOrNumeral)
  | "ml" | "midletter" => some (table midLetter)
  | "mn" | "midnum" => some (table midNumeral)
  | "nu" | "numeric" => some wordNumeral
  | "ex" | "extendnumlet" => some (union (table connectorPunctuation) (single '\u202f'))
  | "wsegspace" => some (difference (table spaceSeparator) (table nonbreakingSpace))
  | _ => none

/-! ## Sentences -/

/-- Characters that belong to the character before them in a sentence. -/
def sentenceExtend : CharSet :=
  unions [graphemeExtend, table spacingMark, single '\u200d']

/-- Lower-case letters of sentences. -/
def sentenceLower : CharSet :=
  difference lowercase (union graphemeExtend (table georgianLower))

/-- Upper-case letters of sentences. -/
def sentenceUpper : CharSet :=
  difference (union uppercase (table titlecaseLetter)) (table georgianUpper)

/-- Other letters of sentences. -/
def sentenceLetter : CharSet :=
  union (difference alphabetic (unions [sentenceExtend, sentenceLower, sentenceUpper]))
    (single '\u05f3')

/-- Closing quotation marks and brackets, and those that open. -/
def sentenceClose : CharSet :=
  unions
    [table openPunctuation, table closePunctuation, table initialPunctuation,
      table finalPunctuation, table otherClose]

/-- The classes for sentences. -/
def ofSentenceBreak? (name : String) : Option CharSet :=
  match name with
  | "cr" => some (single '\r')
  | "lf" => some (single '\n')
  | "ex" | "extend" => some sentenceExtend
  | "se" | "sep" => some (table paragraphEnd)
  | "fo" | "format" => some (unions [wordFormat, single '\u070f', single '\u200b'])
  | "sp" =>
    some (difference blank (unions [single '\n', single '\r', table paragraphEnd]))
  | "lo" | "lower" => some sentenceLower
  | "up" | "upper" => some sentenceUpper
  | "le" | "oletter" => some sentenceLetter
  | "nu" | "numeric" => some (union wordNumeral (single '\u066c'))
  | "at" | "aterm" => some (table fullStop)
  | "sc" | "scontinue" => some (table sentenceContinue)
  | "st" | "sterm" => some (difference (table sentenceTerminal) (table fullStop))
  | "cl" | "close" => some sentenceClose
  | _ => none

end

end DocQuery.CharSet
