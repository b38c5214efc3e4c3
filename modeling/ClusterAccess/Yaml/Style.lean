import ClusterAccess.Text.Surrogate
import ClusterAccess.Yaml.Tag

/-!
# Styles of scalars

How a text is written as a scalar: plain where it would be read back as a text, else between single quotes,
and between double quotes where only escapes can show it. Every character outside of printable ASCII has
to be escaped.
-/
namespace ClusterAccess.Yaml

inductive Style where
  | plain
  | single
  | double
  deriving DecidableEq, Repr

/-- Characters that end a line. -/
def isLineEnd (c : Char) : Bool := c == '\n' || c == '\x85' || c == '\u2028' || c == '\u2029'

/-- Characters that only an escape can show. -/
def needsEscape (c : Char) : Bool := !(c == '\n' || (' ' ≤ c && c ≤ '~'))

/-- The character `a` right before the character `b`. -/
def hasPair (a b : Char) : List Char → Bool
  | c :: d :: rest => (c == a && d == b) || hasPair a b (d :: rest)
  | _ => false

def isGapOrEnd : List Char → Bool
  | [] => true
  | c :: _ => c == ' '

/-- Characters that start something other than a plain scalar. -/
def leadingIndicators : List Char :=
  ['#', ',', '[', ']', '\x7b', '\x7d', '&', '*', '!', '|', '>', '\'', '"', '%', '@', '\x60']

/-- The text starts like something else: by an indicator, or by a document marker. -/
def startsIndicated (cs : List Char) : Bool :=
  "---".toList.isPrefixOf cs || "...".toList.isPrefixOf cs || match cs with
    | [] => false
    | c :: rest => leadingIndicators.contains c || ((c == '?' || c == '-') && isGapOrEnd rest)

/-- The text holds the end of a key or the start of a comment. -/
def holdsIndicator (cs : List Char) : Bool :=
  hasPair ':' ' ' cs || cs.getLast? == some ':' || hasPair ' ' '#' cs

/-- Spaces and line ends at an end of the text would be lost. -/
def hasMargin (cs : List Char) : Bool :=
  let isMargin (c : Option Char) : Bool := c == some ' ' || c == some '\n'
  isMargin cs.head? || isMargin cs.getLast?

/-- The text, written plainly, is read back. -/
def canBePlain (s : String) : Bool :=
  let cs := s.toList
  Spelling.tag s == .text && !cs.any needsEscape && !cs.contains '\n' && !hasMargin cs &&
    !startsIndicated cs && !holdsIndicator cs

/-- The text, written between single quotes, is read back. -/
def canBeSingle (s : String) : Bool :=
  let cs := s.toList
  !cs.any needsEscape && !hasPair '\n' ' ' cs && !hasPair ' ' '\n' cs

/-- The text fits on one line without escapes for line ends. -/
def isOneLine (s : String) : Bool := !s.toList.any isLineEnd

/-- The style of a text; a key on one line cannot hold line ends as they are. -/
def styleOf (asKey : Bool) (s : String) : Style :=
  if canBePlain s then .plain
  else if canBeSingle s && !(asKey && !isOneLine s) then .single
  else .double

example : styleOf false "a b" = .plain ∧ styleOf false "on" = .single ∧ styleOf false "a\tb" = .double := by
  decide +kernel

end ClusterAccess.Yaml
