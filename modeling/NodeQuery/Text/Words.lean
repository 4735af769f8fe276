import NodeQuery.Text.Alphanumeric
import NodeQuery.Text.LetterCase

/-!
The words of a text, as they are indexed and looked up. A run of alphanumeric characters is cut
before every upper-case character that follows a lower-case one, each piece is lower-cased, and
pieces that are too short or too common are dropped.
-/

namespace NodeQuery.Text

def stopwords : List String :=
  ["a", "an", "and", "as", "at", "by", "for", "in", "is", "of", "on", "or", "the", "to", "with"]

def minimumWordLength : Nat := 2

def isWord (letters : List Char) : Bool :=
  minimumWordLength ≤ letters.length && !stopwords.contains (String.ofList letters)

/-- The pending letters as a word, if they make one. -/
def completed (pending : List Char) : List String :=
  if isWord pending then [String.ofList pending] else []

/-- The words still to come, where `pending` holds the lower-cased letters of the piece under way
and `afterLowercase` tells whether the character just read was lower case. -/
def wordsFrom (pending : List Char) (afterLowercase : Bool) : List Char → List String
  | [] => completed pending
  | char :: rest =>
    if !isAlphanumeric char then completed pending ++ wordsFrom [] false rest
    else if isUppercase char && afterLowercase then
      completed pending ++ wordsFrom (toLowercase char) (isLowercase char) rest
    else wordsFrom (pending ++ toLowercase char) (isLowercase char) rest

def words (text : String) : List String := wordsFrom [] false text.toList

end NodeQuery.Text
