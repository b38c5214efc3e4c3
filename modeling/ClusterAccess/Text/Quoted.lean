import ClusterAccess.Text.Digit
import ClusterAccess.Text.PrintableTable
import ClusterAccess.Text.Surrogate

/-!
# Quoted text

A text as one line between quotes, for messages. The quote is `'` unless the text holds `'` and no
`"`. The quote and the backslash are escaped by a backslash, line feed, carriage return and tab by
their letter, and every other unprintable character by its number in the shortest of the forms
`\xhh`, `\uhhhh` and `\Uhhhhhhhh`.
-/
namespace ClusterAccess.Text

def isPrintable (c : Char) : Bool :=
  if c.toNat < 128 then 32 ≤ c.toNat && c.toNat < 127
  else !unprintableRanges.any fun (first, last) => first ≤ c.toNat && c.toNat ≤ last

/-- The number of an unprintable character in its shortest form. -/
def escapeCode (n : Nat) : List Char :=
  if n < 0x100 then '\\' :: 'x' :: hexDigits 2 n
  else if n < 0x10000 then '\\' :: 'u' :: hexDigits 4 n
  else '\\' :: 'U' :: hexDigits 8 n

def quotedChar (quote c : Char) : List Char :=
  if c == quote || c == '\\' then ['\\', c]
  else if c == '\n' then ['\\', 'n']
  else if c == '\r' then ['\\', 'r']
  else if c == '\t' then ['\\', 't']
  else if isPrintable c then [c]
  else escapeCode (codeOf c)

def quoteFor (cs : List Char) : Char :=
  if cs.contains '\'' && !cs.contains '"' then '"' else '\''

/-- The text between quotes on one line. -/
def quoted (s : String) : String :=
  let quote := quoteFor s.toList
  String.ofList (quote :: s.toList.flatMap (quotedChar quote) ++ [quote])

example : quoted "it's" = "\"it's\"" ∧ quoted "a\n\u200b" = "'a\\n\\u200b'" := by
  constructor <;> decide +kernel

end ClusterAccess.Text
