import ClusterAccess.Text.UpperCaseTable

/-!
# Upper case

The full upper-case mapping of Unicode, character by character: `ß` becomes `SS`. ASCII letters are
mapped without the tables.
-/
namespace ClusterAccess.Text

/-- The code points that stand for the upper case of a code point outside ASCII. -/
def upperCodes (n : Nat) : List Nat :=
  match caseRuns.find? fun (first, last, step, _) =>
      first ≤ n && n ≤ last && (n - first) % step == 0 with
  | some (_, _, _, shift) => [(n + shift).toNat]
  | none => ((caseExpansions.find? (·.1 == n)).map (·.2)).getD [n]

def upperChar (c : Char) : List Char :=
  if c.toNat < 128 then [c.toUpper] else (upperCodes c.toNat).map Char.ofNat

/-- The text in upper case. -/
def upperCase (s : String) : String := String.ofList (s.toList.flatMap upperChar)

/-- The text with its ASCII letters in lower case. No other character has an ASCII letter of the
words compared here as its lower case, so this decides equality with such a word. -/
def asciiLower (s : String) : String := String.ofList (s.toList.map Char.toLower)

end ClusterAccess.Text
