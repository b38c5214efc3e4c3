import ClusterAccess.Text.Base64
import ClusterAccess.Text.Split

/-!
# PEM

Binary data in text: octets in base64 between two boundary lines that name what they are. Text around the
blocks is passed over. A block that is begun must be well-formed and be ended under the same name.
-/
namespace ClusterAccess.Pem

structure Block where
  label : String
  octets : List UInt8
  deriving DecidableEq, Repr

def boundary (word label : List Char) : List Char := word ++ label ++ "-----".toList

def beginWord : List Char := "-----BEGIN ".toList

def endWord : List Char := "-----END ".toList

/-- The label of a line that begins a block. -/
def beginning? (line : List Char) : Option (List Char) :=
  let label := (line.drop beginWord.length).take (line.length - beginWord.length - 5)
  if line == boundary beginWord label then some label else none

/-- The octets between two boundaries. One blank line may come first; then there are digits only. -/
def body? (lines : List (List Char)) : Option (List UInt8) :=
  let lines := if lines.head? == some [] then lines.drop 1 else lines
  let digits := lines.flatten.filter fun c => c != ' ' && c != '\t' && c != '\r'
  if lines.contains [] || digits.length % 4 != 0 then none else Base64.decode digits

/-- A block that is begun: its label and its lines so far, the latest first. -/
structure Begun where
  label : List Char
  lines : List (List Char)

def blocksFrom : Option Begun → List (List Char) → Option (List Block)
  | none, [] => some []
  | some _, [] => none
  | none, line :: rest => blocksFrom ((beginning? line).map (⟨·, []⟩)) rest
  | some begun, line :: rest =>
    if endWord.isPrefixOf line then
      if line == boundary endWord begun.label then do
        let octets ← body? begun.lines.reverse
        return ⟨String.ofList begun.label, octets⟩ :: (← blocksFrom none rest)
      else none
    else blocksFrom (some { begun with lines := line :: begun.lines }) rest

/-- A line without the white space and control characters at its end. -/
def trimLine (line : List Char) : List Char := (line.reverse.dropWhile (· ≤ ' ')).reverse

/-- The blocks of a text, if all of them are well-formed. -/
def blocks? (s : String) : Option (List Block) :=
  blocksFrom none ((Text.splitChars '\n' s.toList).map trimLine)

example : blocks? "x\n-----BEGIN A-----\nYWI=\n-----END A-----\n" = some [⟨"A", [97, 98]⟩] ∧
    blocks? "-----BEGIN A-----\nYWI=\n-----END B-----\n" = none := by
  constructor <;> decide +kernel

end ClusterAccess.Pem
