import PlanRunner.Order.FirstSeen
import PlanRunner.Text.Alphanumeric
import PlanRunner.Text.Lowercase

/-!
# Failure patterns

The messages of failures are boiled down to patterns: for each message its first few telling words,
and the categories of failure that it mentions.
-/

namespace PlanRunner.Replan

/-- How many words a pattern has at most. -/
def mostWords : Nat := 4

/-- How many characters a word must have. -/
def fewestCharacters : Nat := 3

/-- Words that tell nothing. -/
def stopWords : List String :=
  ["the", "and", "for", "was", "with", "from", "this", "that", "are", "has", "have", "been",
    "into", "while", "could", "would"]

/-- A category of failure, and the texts that give it away. -/
structure Category where
  tag : String
  needles : List String
  deriving DecidableEq, Repr

def categories : List Category :=
  [ ⟨"missing_inputs", ["missing input"]⟩,
    ⟨"timeout", ["timed out", "timeout"]⟩,
    ⟨"not_found", ["not found", "no such", "404"]⟩,
    ⟨"permission_denied", ["permission", "forbidden", "unauthorized", "denied"]⟩,
    ⟨"rate_limited", ["rate limit", "too many requests", "429"]⟩,
    ⟨"invalid_input", ["invalid", "malformed", "validation"]⟩,
    ⟨"network_error", ["connection", "network", "unreachable", "dns"]⟩ ]

/-- The runs of letters and digits of a text, given the run before the text. -/
def wordsAfter : List Char → List Char → List (List Char)
  | word, [] => [word]
  | word, character :: rest =>
      if Text.isAlphanumeric character then wordsAfter (word ++ [character]) rest
      else word :: wordsAfter [] rest

def words (text : String) : List String :=
  (wordsAfter [] text.toList).map String.ofList

def isTelling (word : String) : Bool :=
  fewestCharacters ≤ word.length && !stopWords.contains word

/-- The telling words at the start of a text in lower case. -/
def keywords (text : String) : List String :=
  ((words text).filter isTelling).take mostWords

/-- Whether a text stands somewhere in a list of characters. -/
def occursIn (needle : List Char) : List Char → Bool
  | [] => needle.isEmpty
  | character :: rest => needle.isPrefixOf (character :: rest) || occursIn needle rest

/-- Whether a text in lower case belongs to a category. -/
def Category.covers (category : Category) (text : String) : Bool :=
  category.needles.any fun needle => occursIn needle.toList text.toList

/-- The patterns of one message: its words if it has any, then its categories. -/
def patternsOf (message : String) : List String :=
  let text := Text.lowercase message
  let keywords := keywords text
  (if keywords.isEmpty then [] else [String.intercalate "_" keywords]) ++
    (categories.filter (·.covers text)).map (·.tag)

/-- The patterns of messages, each only once. -/
def patterns (messages : List String) : List String :=
  FirstSeen.ofList (messages.flatMap patternsOf)

end PlanRunner.Replan
