/-!
# Lines

Text is cut after every line end that Unicode or ASCII knows: line feed, vertical tab, form feed,
carriage return alone or with a line feed, the file, group and record separators, next line, and the
line and paragraph separators. A last line without an end counts when it is not empty.
-/
namespace ClusterAccess.Text

def isLineEnd (c : Char) : Bool :=
  let n := c.toNat
  (10 ≤ n && n ≤ 13) || (28 ≤ n && n ≤ 30) || n == 0x85 || n == 0x2028 || n == 0x2029

/-- `line` holds the characters read since the last line end, latest first. -/
def linesFrom (line : List Char) : List Char → List (List Char)
  | [] => if line.isEmpty then [] else [line.reverse]
  | '\r' :: '\n' :: rest => line.reverse :: linesFrom [] rest
  | c :: rest => if isLineEnd c then line.reverse :: linesFrom [] rest else linesFrom (c :: line) rest

/-- The lines of a text, without their ends. -/
def lines (s : String) : List (List Char) := linesFrom [] s.toList

/-- Line ends of the carriage-return kind become line feeds, as when a text file is read. -/
def unifyLineEnds : List Char → List Char
  | [] => []
  | '\r' :: '\n' :: rest => '\n' :: unifyLineEnds rest
  | c :: rest => (if c == '\r' then '\n' else c) :: unifyLineEnds rest

/-- Some part of the text reads `word`. -/
def containsWord (word : List Char) : List Char → Bool
  | [] => word.isEmpty
  | c :: rest => word.isPrefixOf (c :: rest) || containsWord word rest

example : lines "a\r\nb\u2028\nc" = [['a'], ['b'], [], ['c']] := by decide

end ClusterAccess.Text
