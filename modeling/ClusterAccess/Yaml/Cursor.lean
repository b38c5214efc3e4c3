/-!
# A place in a document

A cursor holds the characters ahead and counts characters, lines and columns behind it. The end of the
text reads as the character zero, which no document may hold. A line ends at a line feed, a carriage
return alone or before a line feed, a next-line character, or a line or paragraph separator. A byte
order mark takes no column.
-/
namespace ClusterAccess.Yaml

/-- The characters of a document: tab, line ends, and what is printable. -/
def isDocumentChar (c : Char) : Bool :=
  let n := c.toNat
  n == 9 || n == 10 || n == 13 || (0x20 ≤ n && n ≤ 0x7E) || n == 0x85 ||
    (0xA0 ≤ n && n ≤ 0xFFFD) || 0x10000 ≤ n

def isBreak (c : Char) : Bool :=
  c == '\n' || c == '\r' || c == '\x85' || c == '\u2028' || c == '\u2029'

def endOfText : Char := Char.ofNat 0

def byteOrderMark : Char := '\ufeff'

/-- A line ends here. -/
def endsLine (c : Char) : Bool := c == endOfText || isBreak c

/-- A word ends here: at a space or the end of the line. -/
def endsWord (c : Char) : Bool := c == ' ' || endsLine c

/-- A tab ends a token as well. -/
def endsToken (c : Char) : Bool := c == '\t' || endsWord c

structure Cursor where
  rest : List Char
  index : Nat
  line : Nat
  column : Nat

namespace Cursor

def start (cs : List Char) : Cursor := ⟨cs, 0, 0, 0⟩

def peek (c : Cursor) : Char := c.rest.headD endOfText

/-- The character `n` places ahead. -/
def ahead (c : Cursor) (n : Nat) : Char := (c.rest.drop n).headD endOfText

/-- One character on. -/
def next (c : Cursor) : Cursor :=
  match c.rest with
  | [] => c
  | x :: rest =>
    if isBreak x && !(x == '\r' && rest.head? == some '\n') then ⟨rest, c.index + 1, c.line + 1, 0⟩
    else ⟨rest, c.index + 1, c.line, if x == byteOrderMark then c.column else c.column + 1⟩

def skip (c : Cursor) : Nat → Cursor
  | 0 => c
  | n + 1 => c.next.skip n

/-- The characters up to the first one that is not wanted, and the cursor after them. -/
def span (c : Cursor) (wanted : Char → Bool) : List Char × Cursor :=
  let word := c.rest.takeWhile wanted
  (word, c.skip word.length)

def skipWhile (c : Cursor) (unwanted : Char → Bool) : Cursor := (c.span unwanted).2

def skipSpaces (c : Cursor) : Cursor := c.skipWhile (· == ' ')

/-- The rest of a line is a comment, if one starts here. -/
def skipComment (c : Cursor) : Cursor :=
  if c.peek == '#' then c.skipWhile fun x => !endsLine x else c

/-- The line end at the cursor. Every kind reads as a line feed, but the separators, which stand for
themselves. -/
def lineBreak? (c : Cursor) : Option (Char × Cursor) :=
  let x := c.peek
  if x == '\r' && c.ahead 1 == '\n' then some ('\n', c.skip 2)
  else if x == '\r' || x == '\n' || x == '\x85' then some ('\n', c.next)
  else if x == '\u2028' || x == '\u2029' then some (x, c.next)
  else none

/-- Three dashes or three dots stand here as a word of their own. -/
def isMarker (c : Cursor) : Bool :=
  (['-', '-', '-'].isPrefixOf c.rest || ['.', '.', '.'].isPrefixOf c.rest) && endsToken (c.ahead 3)

end Cursor

end ClusterAccess.Yaml
