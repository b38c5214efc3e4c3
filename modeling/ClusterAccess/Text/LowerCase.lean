import ClusterAccess.Text.LowerCaseTable
import ClusterAccess.Text.UpperCase

/-!
# Lower case

The lower-case mapping of Unicode, character by character but for the Greek sigma, which has a form of
its own at the end of a word. To compare a text with ASCII words, `asciiLower` is enough.
-/
namespace ClusterAccess.Text

def lowerRun? (n : Nat) : Option Int :=
  (lowerRuns.find? fun (first, last, step, _) => first ≤ n && n ≤ last && (n - first) % step == 0).map
    fun (_, _, _, shift) => shift

/-- The lower case of a character on its own. -/
def lowerChar (c : Char) : List Char :=
  if c.toNat < 128 then [c.toLower]
  else if c == '\u0130' then ['i', '\u0307']
  else match lowerRun? c.toNat with
    | some shift => [Char.ofNat (c.toNat + shift).toNat]
    | none => [c]

/-- The character has another case. -/
def isCased (c : Char) : Bool := lowerChar c != [c] || upperChar c != [c]

/-- Accents and marks inside words do not end them. -/
def isWordMark (c : Char) : Bool :=
  ['\'', '.', ':', '^', '\x60', '\xA8', '\xAD', '\xAF', '\xB4', '\xB7', '\xB8', '\u2019'].contains c ||
    ('\u0300' ≤ c && c ≤ '\u036F')

/-- The next character that is no word mark has a case. -/
def leadsToCased (cs : List Char) : Bool := ((cs.dropWhile isWordMark).head?.map isCased).getD false

/-- The rest of a text in lower case, `before` being what precedes it, latest first. -/
def lowerAfter (before : List Char) : List Char → List Char
  | [] => []
  | c :: rest =>
    let here :=
      if c == 'Σ' && leadsToCased before && !leadsToCased rest then ['ς'] else lowerChar c
    here ++ lowerAfter (c :: before) rest

/-- The text in lower case. -/
def lowerCase (s : String) : String := String.ofList (lowerAfter [] s.toList)

example : lowerCase "ÄΣ, ΣO" = "äς, σo" := by decide +kernel

end ClusterAccess.Text
