import DocQuery.Text.LetterCase
import DocQuery.Text.Letters

/-!
# Names of Collections

The name of a collection comes from the name of a model.  The kebab form is its words in lower
case with hyphens between them.  Words end at characters that are neither letters nor numerals, at
a capital after a small letter, between letters and numerals, and before the last capital of a run
that a small letter follows.  At-signs, apostrophes and combining accents are dropped before, and
accented letters of Latin-1 lose their accents.

The older form only lower-cases the name and makes hyphens of the first underscore and the first
blank.
-/

namespace DocQuery.Naming

/-! ## Words -/

/-- The plain form of an accented Latin-1 letter. -/
def plainLetter? (c : Char) : Option String :=
  if 'À' ≤ c ∧ c ≤ 'Å' then some "A"
  else if 'à' ≤ c ∧ c ≤ 'å' then some "a"
  else if c = 'Ç' then some "C"
  else if c = 'ç' then some "c"
  else if 'È' ≤ c ∧ c ≤ 'Ë' then some "E"
  else if 'è' ≤ c ∧ c ≤ 'ë' then some "e"
  else if 'Ì' ≤ c ∧ c ≤ 'Ï' then some "I"
  else if 'ì' ≤ c ∧ c ≤ 'ï' then some "i"
  else if c = 'Ð' then some "D"
  else if c = 'ð' then some "d"
  else if c = 'Ñ' then some "N"
  else if c = 'ñ' then some "n"
  else if 'Ò' ≤ c ∧ c ≤ 'Ö' ∨ c = 'Ø' then some "O"
  else if 'ò' ≤ c ∧ c ≤ 'ö' ∨ c = 'ø' then some "o"
  else if 'Ù' ≤ c ∧ c ≤ 'Ü' then some "U"
  else if 'ù' ≤ c ∧ c ≤ 'ü' then some "u"
  else if c = 'Ý' then some "Y"
  else if c = 'ý' ∨ c = 'ÿ' then some "y"
  else if c = 'Æ' then some "Ae"
  else if c = 'æ' then some "ae"
  else if c = 'Þ' then some "Th"
  else if c = 'þ' then some "th"
  else if c = 'ß' then some "ss"
  else none

/-- What becomes of a character before the name is cut into words. -/
def cleanChar (c : Char) : List Char :=
  if c = '@' ∨ c = '\'' ∨ c = '\u2019' then []
  else if '\u0300' ≤ c ∧ c ≤ '\u036f' then []
  else if c = '/' then ['-']
  else ((plainLetter? c).map String.toList).getD [c]

/-- The cleaned characters of a name. -/
def clean (name : String) : List Char := name.toList.flatMap cleanChar

/-- Whether a word ends between two characters; `next` is the character after them. -/
def isBoundary (previous c : Char) (next : Option Char) : Bool :=
  Text.isLowercase previous && Text.isUppercase c ||
    Text.isAlphabetic previous && Text.isNumeric c ||
    Text.isNumeric previous && Text.isAlphabetic c ||
    Text.isUppercase previous && Text.isUppercase c && next.any Text.isLowercase

/-- The words of a text; `word` holds the characters of the current word, the last one first. -/
def wordsFrom (word : List Char) : List Char → List (List Char)
  | [] => if word.isEmpty then [] else [word.reverse]
  | c :: rest =>
    if Text.isAlphanumeric c then
      match word with
      | [] => wordsFrom [c] rest
      | previous :: _ =>
        if isBoundary previous c rest.head? then word.reverse :: wordsFrom [c] rest
        else wordsFrom (c :: word) rest
    else if word.isEmpty then wordsFrom [] rest
    else word.reverse :: wordsFrom [] rest

/-- The words of a text. -/
def words (cs : List Char) : List (List Char) := wordsFrom [] cs

/-! ## Names -/

/-- The kebab form of a name. -/
def kebab (name : String) : String :=
  "-".intercalate ((words (clean name)).map fun word ↦ Text.lower (String.ofList word))

/-- Replaces the first occurrence of a character. -/
def replaceFirst (old new : Char) : List Char → List Char
  | [] => []
  | c :: rest => if c = old then new :: rest else c :: replaceFirst old new rest

/-- The older form of a name. -/
def legacy (name : String) : String :=
  String.ofList <| replaceFirst ' ' '-' <| replaceFirst '_' '-' (Text.lower name).toList

end DocQuery.Naming

namespace DocQuery

/-- How names of models become names of collections. -/
inductive NamingRule where
  | kebab
  | legacy
  | custom (rename : String → String)

namespace NamingRule

/-- The name of the collection of a model. -/
def collectionName : NamingRule → String → String
  | kebab, name => Naming.kebab name
  | legacy, name => Naming.legacy name
  | custom rename, name => rename name

/-- The word that shows a rule. -/
def display : NamingRule → String
  | kebab => "Kebab"
  | legacy => "Legacy"
  | custom _ => "Custom(..)"

end NamingRule

end DocQuery
