import ClusterAccess.Text.Surrogate
import ClusterAccess.Yaml.Cursor
import ClusterAccess.Yaml.Token

/-!
# Scalars as written

Reading the text of a plain, quoted or block scalar. Line ends inside a scalar fold: one becomes a space,
and of several the first is dropped; in a literal block they stay. Each reader returns the cursor after
the scalar.
-/
namespace ClusterAccess.Yaml

abbrev Read (α : Type) := Except Fault (α × Cursor)

def malformed {α : Type} : Except Fault α := .error .malformed

/-- What the line ends between two parts of a scalar stand for. -/
def folded (first : Char) (more : List Char) : List Char :=
  if first != '\n' then first :: more else if more.isEmpty then [' '] else more

/-! ## Quoted scalars -/

/-- Line ends and blanks before the next part of a quoted scalar. -/
def quotedBreaks : (fuel : Nat) → Cursor → Read (List Char)
  | 0, _ => malformed
  | fuel + 1, c =>
    if c.isMarker then malformed
    else
      let c := c.skipWhile fun x => x == ' ' || x == '\t'
      match c.lineBreak? with
      | some (x, c) => (quotedBreaks fuel c).map fun (xs, c) => (x :: xs, c)
      | none => .ok ([], c)

/-- Blanks and line ends inside a quoted scalar. -/
def quotedSpaces (c : Cursor) : Read (List Char) :=
  let (blanks, c) := c.span fun x => x == ' ' || x == '\t'
  if c.peek == endOfText then malformed
  else match c.lineBreak? with
    | some (x, c) => (quotedBreaks (c.rest.length + 1) c).map fun (xs, c) => (folded x xs, c)
    | none => .ok (blanks, c)

/-- The characters that a letter after a backslash stands for. -/
def escapes : List (Char × Nat) :=
  [('0', 0), ('a', 7), ('b', 8), ('t', 9), ('\t', 9), ('n', 10), ('v', 11), ('f', 12), ('r', 13),
   ('e', 27), (' ', 32), ('"', 34), ('\\', 92), ('/', 47), ('N', 0x85), ('_', 0xA0), ('L', 0x2028),
   ('P', 0x2029)]

/-- The number of hexadecimal digits after the letters that escape by number. -/
def escapeWidth? (c : Char) : Option Nat :=
  if c == 'x' then some 2 else if c == 'u' then some 4 else if c == 'U' then some 8 else none

/-- A number of exactly so many hexadecimal digits. -/
def hexNumber (width : Nat) (c : Cursor) : Option (Nat × Cursor) := do
  let ds ← (c.rest.take width).mapM Text.hexDigit?
  if ds.length = width then some (ds.foldl (fun n d => n * 16 + d) 0, c.skip width) else none

/-- An escape, the cursor standing after the backslash. -/
def escape (c : Cursor) : Read (List Char) :=
  match escapes.find? (·.1 == c.peek), escapeWidth? c.peek with
  | some (_, n), _ => .ok ([Text.ofCode n], c.next)
  | none, some width =>
    match hexNumber width c.next with
    | none => malformed
    | some (n, c) =>
      if n < 0x110000 then .ok ([Text.ofCode n], c)
      else .error (if n < 0x80000000 then .codePoint else .hugeCodePoint)
  | none, none =>
    match c.lineBreak? with
    | some (_, c) =>
      (quotedBreaks (c.rest.length + 1) c).map fun (xs, c) => (xs, c)
    | none => malformed

/-- The rest of a quoted scalar, the cursor standing after its first quote. -/
def quotedRest (double : Bool) : (fuel : Nat) → Cursor → Read (List Char)
  | 0, _ => malformed
  | fuel + 1, c =>
    let x := c.peek
    let go (part : List Char) (c : Cursor) : Read (List Char) :=
      (quotedRest double fuel c).map fun (rest, c) => (part ++ rest, c)
    if x == endOfText then malformed
    else if x == '\'' && !double then
      if c.ahead 1 == '\'' then go [x] (c.skip 2) else .ok ([], c.next)
    else if x == '"' && double then .ok ([], c.next)
    else if x == '\\' && double then
      match escape c.next with
      | .ok (part, c) => go part c
      | .error e => .error e
    else if x == ' ' || x == '\t' || isBreak x then
      match quotedSpaces c with
      | .ok (part, c) => go part c
      | .error e => .error e
    else go [x] c.next

/-- A quoted scalar, the cursor standing at its first quote. -/
def quotedScalar (c : Cursor) : Read (List Char) :=
  quotedRest (c.peek == '"') (c.rest.length + 1) c.next

/-! ## Plain scalars -/

def flowIndicators : List Char := [',', '[', ']', '\x7b', '\x7d']

/-- The characters of a plain scalar up to a blank, a line end, a `:` that separates, or in a flow
collection an indicator. -/
def plainWord (flow : Bool) : List Char → List Char
  | [] => []
  | x :: rest =>
    let after := rest.headD endOfText
    if endsToken x || (x == ':' && (endsToken after || (flow && flowIndicators.contains after))) ||
        (flow && (x == '?' || flowIndicators.contains x)) then []
    else x :: plainWord flow rest

/-- The line ends after the first between two parts of a plain scalar, none if a document marker
comes. -/
def plainBreaks : (fuel : Nat) → Cursor → Option (List Char) × Cursor
  | 0, c => (none, c)
  | fuel + 1, c =>
    let c := c.skipSpaces
    match c.lineBreak? with
    | none => (some [], c)
    | some (x, c) =>
      if c.isMarker then (none, c)
      else match plainBreaks fuel c with
        | (xs, c) => (xs.map (x :: ·), c)

/-- What lies between two parts of a plain scalar: the text that it stands for, whether it holds a line
end, and the cursor after it. -/
def plainSpaces (c : Cursor) : List Char × Bool × Cursor :=
  let (blanks, c) := c.span (· == ' ')
  match c.lineBreak? with
  | none => (blanks, false, c)
  | some (x, c) =>
    if c.isMarker then ([], true, c)
    else match plainBreaks (c.rest.length + 1) c with
      | (some xs, c) => (folded x xs, true, c)
      | (none, c) => ([], true, c)

/-- A plain scalar in a flow collection or in a block indented by `indent`: its text, and whether a line
end comes after it. -/
def plainRest (flow : Bool) (indent : Int) (spaces : List Char) (broken : Bool) :
    (fuel : Nat) → Cursor → List Char × Bool × Cursor
  | 0, c => ([], broken, c)
  | fuel + 1, c =>
    let word := if c.peek == '#' then [] else plainWord flow c.rest
    if word.isEmpty then ([], broken, c)
    else
      let (between, broken, c) := plainSpaces (c.skip word.length)
      if between.isEmpty || c.peek == '#' || (!flow && (c.column : Int) < indent) then
        (spaces ++ word, broken, c)
      else
        let (more, broken, c) := plainRest flow indent between broken fuel c
        (spaces ++ word ++ more, broken, c)

def plainScalar (flow : Bool) (indent : Int) (c : Cursor) : List Char × Bool × Cursor :=
  plainRest flow indent [] false (c.rest.length + 1) c

/-! ## Block scalars -/

/-- What happens to the line ends that close a block scalar. -/
inductive Chomping where
  | clip
  | strip
  | keep
  deriving DecidableEq, Repr

def chomping? (x : Char) : Option Chomping :=
  if x == '+' then some .keep else if x == '-' then some .strip else none

/-- An explicit indentation, from 1 to 9. -/
def increment? (x : Char) : Option Nat :=
  if '0' ≤ x ∧ x ≤ '9' then some (x.toNat - 48) else none

/-- The indicators after `|` or `>`, in either order. -/
def blockIndicators (c : Cursor) : Except Fault ((Chomping × Option Nat) × Cursor) := do
  let (chomping, increment, c) :=
    match chomping? c.peek, increment? c.peek with
    | some chomping, _ =>
      match increment? c.next.peek with
      | some n => (chomping, some n, c.skip 2)
      | none => (chomping, none, c.next)
    | none, some n =>
      match chomping? c.next.peek with
      | some chomping => (chomping, some n, c.skip 2)
      | none => (.clip, some n, c.next)
    | none, none => (.clip, none, c)
  if increment = some 0 ∨ !endsWord c.peek then malformed
  return ((chomping, increment), c)

/-- Spaces, a comment and a line end. -/
def restOfLine (c : Cursor) : Except Fault Cursor :=
  let c := c.skipSpaces.skipComment
  match c.lineBreak? with
  | some (_, c) => .ok c
  | none => if c.peek == endOfText then .ok c else malformed

/-- The blank lines at the start of a block, and the greatest indentation met in them or before the
first character. -/
def blockStart (deepest : Nat) : (fuel : Nat) → Cursor → List Char × Nat × Cursor
  | 0, c => ([], deepest, c)
  | fuel + 1, c =>
    let c := c.skipSpaces
    let deepest := max deepest c.column
    match c.lineBreak? with
    | none => ([], deepest, c)
    | some (x, c) =>
      match blockStart deepest fuel c with
      | (xs, deepest, c) => (x :: xs, deepest, c)

/-- At most the indentation of the block. -/
def skipIndent (indent : Nat) (c : Cursor) : Cursor :=
  c.skip ((c.rest.take (indent - c.column)).takeWhile (· == ' ')).length

/-- Blank lines inside a block. -/
def blockBreaks (indent : Nat) : (fuel : Nat) → Cursor → List Char × Cursor
  | 0, c => ([], c)
  | fuel + 1, c =>
    let c := skipIndent indent c
    match c.lineBreak? with
    | none => ([], c)
    | some (x, c) =>
      match blockBreaks indent fuel c with
      | (xs, c) => (x :: xs, c)

/-- The line end at the cursor, empty at the end of the text. -/
def lastBreak (c : Cursor) : List Char × Cursor :=
  match c.lineBreak? with
  | some (x, c) => ([x], c)
  | none => ([], c)

/-- The lines of a block, after the blank lines `breaks`. -/
def blockLines (fold : Bool) (chomping : Chomping) (indent : Nat) (lineEnd breaks : List Char) :
    (fuel : Nat) → Cursor → List Char × Cursor
  | 0, c => ([], c)
  | fuel + 1, c =>
    if c.column = indent ∧ c.peek ≠ endOfText then
      let isFlush (c : Cursor) : Bool := c.peek != ' ' && c.peek != '\t'
      let flush := isFlush c
      let (line, c) := c.span fun x => !endsLine x
      let (lineEnd, c) := lastBreak c
      let (blank, c) := blockBreaks indent (c.rest.length + 1) c
      if c.column = indent ∧ c.peek ≠ endOfText then
        let between :=
          if fold && lineEnd == ['\n'] && flush && isFlush c then (if blank.isEmpty then [' '] else [])
          else lineEnd
        let (more, c) := blockLines fold chomping indent lineEnd blank fuel c
        (breaks ++ line ++ between ++ more, c)
      else (breaks ++ line ++ closing lineEnd blank, c)
    else (closing lineEnd breaks, c)
where
  /-- The line ends that close the scalar. -/
  closing (lineEnd blank : List Char) : List Char :=
    match chomping with
    | .strip => []
    | .clip => lineEnd
    | .keep => lineEnd ++ blank

/-- A block scalar in a block indented by `indent`, the cursor standing at its `|` or `>`. -/
def blockScalar (indent : Int) (c : Cursor) : Except Fault (List Char × Cursor) := do
  let fold := c.peek == '>'
  let ((chomping, increment), c) ← blockIndicators c.next
  let c ← restOfLine c
  let least := (max (indent + 1) 1).toNat
  let fuel := c.rest.length + 1
  match increment with
  | none =>
    let (breaks, deepest, c) := blockStart 0 fuel c
    return blockLines fold chomping (max least deepest) [] breaks fuel c
  | some n =>
    let indent := least + n - 1
    let (breaks, c) := blockBreaks indent fuel c
    return blockLines fold chomping indent [] breaks fuel c

end ClusterAccess.Yaml
