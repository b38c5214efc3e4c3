import ClusterAccess.Text.Blank

/-!
# Splitting and joining

A text is cut at every occurrence of a separator character, so there is always one part more than
separators. A comma list keeps the parts that are not blank, trimmed.
-/
namespace ClusterAccess.Text

/-- `part` holds the characters of the current part, latest first. -/
def splitFrom (sep : Char) (part : List Char) : List Char → List (List Char)
  | [] => [part.reverse]
  | c :: rest => if c == sep then part.reverse :: splitFrom sep [] rest else splitFrom sep (c :: part) rest

def splitChars (sep : Char) (cs : List Char) : List (List Char) := splitFrom sep [] cs

/-- The parts of a text between separators. -/
def split (sep : Char) (s : String) : List String := (splitChars sep s.toList).map String.ofList

/-- The part of a text before its first separator. -/
def before (sep : Char) (s : String) : String := String.ofList (s.toList.takeWhile (· != sep))

/-- Trimmed, non-blank parts between commas. -/
def commaList (s : String) : List String :=
  ((splitChars ',' s.toList).map trimChars).filterMap fun part =>
    if part.isEmpty then none else some (String.ofList part)

/-- The text starts with `word`. -/
def startsWith (word s : String) : Bool := word.toList.isPrefixOf s.toList

example : commaList " a, ,b" = ["a", "b"] := by decide

end ClusterAccess.Text
