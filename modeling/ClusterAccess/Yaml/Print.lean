import ClusterAccess.Text.Digit
import ClusterAccess.Value.Basic
import ClusterAccess.Yaml.Style

/-!
# Values as YAML

Every entry and item on a line of its own, levels indented by two spaces, items of a list under a key not
indented. A scalar that runs past the eightieth column goes on in the next line after a space, unless it
is a key. A key that is long, empty or has line ends stands after `?` and its value after `:`.
-/
namespace ClusterAccess.Yaml

def width : Nat := 80

/-- A place in the output: the column, and where the next line of a scalar starts. -/
structure Place where
  column : Nat
  indent : Nat
  folds : Bool

def newLine (indent : Nat) : List Char := '\n' :: List.replicate indent ' '

def Place.atIndent (p : Place) : Place := { p with column := p.indent }

def Place.after (p : Place) (n : Nat) : Place := { p with column := p.column + n }

/-- A single space here may become a line end. -/
def Place.mayFold (p : Place) : Bool := p.folds && width < p.column

/-! ## Scalars -/

def plain (p : Place) : List Char → List Char
  | ' ' :: c :: rest =>
    if c != ' ' && p.mayFold then newLine p.indent ++ plain p.atIndent (c :: rest)
    else
      let spaces := (c :: rest).takeWhile (· == ' ')
      ' ' :: spaces ++ plain (p.after (1 + spaces.length)) ((c :: rest).drop spaces.length)
  | c :: rest => c :: plain (p.after 1) rest
  | [] => []
termination_by cs => cs.length
decreasing_by all_goals simp_wf; try omega

/-- A text between single quotes, from its second character on. A line feed is written as two line ends,
and each further one as one. -/
def singleRest (p : Place) : List Char → List Char
  | [] => []
  | c :: rest =>
    if c == ' ' then
      let spaces := rest.takeWhile (· == ' ')
      let more := rest.drop spaces.length
      if spaces.isEmpty && !more.isEmpty && p.mayFold then newLine p.indent ++ singleRest p.atIndent more
      else ' ' :: spaces ++ singleRest (p.after (1 + spaces.length)) more
    else if c == '\n' then
      let ends := rest.takeWhile (· == '\n')
      '\n' :: ends ++ newLine p.indent ++ singleRest p.atIndent (rest.drop ends.length)
    else if c == '\'' then '\'' :: '\'' :: singleRest (p.after 2) rest
    else c :: singleRest (p.after 1) rest
termination_by cs => cs.length
decreasing_by all_goals simp_wf; try omega

/-- Spaces at the start are never folded. -/
def single (p : Place) (cs : List Char) : List Char :=
  let spaces := cs.takeWhile (· == ' ')
  '\'' :: spaces ++ singleRest (p.after (1 + spaces.length)) (cs.drop spaces.length) ++ ['\'']

/-- The letters of short escapes. -/
def shortEscapes : List (Nat × Char) :=
  [(0, '0'), (7, 'a'), (8, 'b'), (9, 't'), (10, 'n'), (11, 'v'), (12, 'f'), (13, 'r'), (27, 'e'),
   (34, '"'), (92, '\\'), (0x85, 'N'), (0xA0, '_'), (0x2028, 'L'), (0x2029, 'P')]

def upperDigits (width n : Nat) : List Char := (Text.hexDigits width n).map Char.toUpper

def escapeOf (n : Nat) : List Char :=
  match shortEscapes.lookup n with
  | some letter => ['\\', letter]
  | none =>
    if n < 0x100 then '\\' :: 'x' :: upperDigits 2 n
    else if n < 0x10000 then '\\' :: 'u' :: upperDigits 4 n
    else '\\' :: 'U' :: upperDigits 8 n

/-- A line end inside double quotes; a space right after it has to be escaped. -/
def doubleFold (p : Place) (next : Option Char) : List Char × Place :=
  let guard := if next == some ' ' then ['\\'] else []
  ('\\' :: newLine p.indent ++ guard, p.atIndent.after guard.length)

/-- A text between double quotes. A line may end before a space, and after an escape or a line end. -/
def doubleFrom (p : Place) (isFirst fresh : Bool) : List Char → List Char
  | [] => []
  | c :: rest =>
    let inside := !isFirst && !rest.isEmpty && p.folds
    if needsEscape c || c == '\n' || c == '"' || c == '\\' then
      let escape := escapeOf (Text.codeOf c)
      let p := p.after escape.length
      if inside && width + 1 < p.column then
        let (fold, p) := doubleFold p rest.head?
        escape ++ fold ++ doubleFrom p false true rest
      else escape ++ doubleFrom p false true rest
    else if inside && (c == ' ' || fresh) && width < p.column then
      let (fold, p) := doubleFold p (some c)
      fold ++ c :: doubleFrom (p.after 1) false false rest
    else c :: doubleFrom (p.after 1) false false rest

def double (p : Place) (cs : List Char) : List Char := '"' :: doubleFrom (p.after 1) true true cs ++ ['"']

def text (p : Place) (asKey : Bool) (s : String) : List Char :=
  match styleOf asKey s with
  | .plain => plain p s.toList
  | .single => single p s.toList
  | .double => double p s.toList

/-- A double; an exponent comes after a fraction. -/
def doubleText (x : Double) : String :=
  if x.isNaN then ".nan"
  else if !x.isFinite then (if x.isNegative then "-.inf" else ".inf")
  else
    let digits := x.text
    if digits.toList.contains '.' then digits
    else String.ofList (digits.toList.flatMap fun c => if c == 'e' then ['.', '0', 'e'] else [c])

/-- A scalar, or a collection that holds nothing. Texts stand for all that is no number or truth value. -/
def scalar (p : Place) (asKey : Bool) : Value → List Char
  | .null => "null".toList
  | .bool b => (if b then "true" else "false").toList
  | .int i => (toString i).toList
  | .float x => (doubleText x).toList
  | .str s => text p asKey s
  | .list _ => "[]".toList
  | .map _ => "\x7b\x7d".toList
  | _ => []

/-! ## Collections -/

/-- How many characters a key takes before its style is known, its type mark included. -/
def keySize : Value → Nat
  | .str s => s.length + 5
  | _ => 0

/-- The key can stand on the line of its value. -/
def isShortKey : Value → Bool
  | .str s => s ≠ "" && isOneLine s && keySize (.str s) < 128
  | _ => true

/-- Parts one below the other. -/
def stacked (indent : Nat) (parts : List (List Char)) : List Char := (newLine indent).intercalate parts

mutual

/-- A value after a `-`, `?` or `:` that stands at the indentation of its collection. -/
def inner (indent : Nat) : Value → List Char
  | .list (v :: rest) => ' ' :: stacked (indent + 2) (items (indent + 2) (v :: rest))
  | .map (e :: rest) => ' ' :: stacked (indent + 2) (entries (indent + 2) (e :: rest))
  | v => ' ' :: scalar ⟨indent + 2, indent + 2, true⟩ false v

/-- A value after a key that ends before the given column. -/
def value (indent column : Nat) : Value → List Char
  | .list (v :: rest) => newLine indent ++ stacked indent (items indent (v :: rest))
  | .map (e :: rest) => newLine (indent + 2) ++ stacked (indent + 2) (entries (indent + 2) (e :: rest))
  | v => ' ' :: scalar ⟨column + 1, indent + 2, true⟩ false v

def items (indent : Nat) : List Value → List (List Char)
  | [] => []
  | v :: rest => ('-' :: inner indent v) :: items indent rest

def entries (indent : Nat) : List (Value × Value) → List (List Char)
  | [] => []
  | (k, v) :: rest =>
    let written :=
      if isShortKey k then
        let key := scalar ⟨indent, indent + 2, false⟩ true k
        key ++ ':' :: value indent (indent + key.length + 1) v
      else
        '?' :: ' ' :: scalar ⟨indent + 2, indent + 2, true⟩ false k ++ newLine indent ++ ':' :: inner indent v
    written :: entries indent rest

end

/-- A mapping as a document. -/
def print (es : List (Value × Value)) : String :=
  if es.isEmpty then "\x7b\x7d" else String.ofList (stacked 0 (entries 0 es))

end ClusterAccess.Yaml
