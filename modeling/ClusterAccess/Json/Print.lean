import ClusterAccess.Text.Digit
import ClusterAccess.Text.Surrogate
import ClusterAccess.Value.Basic

/-!
# Values as JSON

JSON text in ASCII: every other character is escaped, in two halves when it lies beyond the first plane.
On one line, or with one item a line and two spaces for each level. Only nulls, truth values, numbers,
texts, lists and mappings from texts have a JSON form; other values are left out as null.
-/
namespace ClusterAccess.Json

def unitEscape (n : Nat) : List Char := '\\' :: 'u' :: Text.hexDigits 4 n

/-- A code point outside of ASCII. -/
def codeEscape (n : Nat) : List Char :=
  if n < 0x10000 then unitEscape n
  else
    let m := n - 0x10000
    unitEscape (0xD800 + m / 0x400) ++ unitEscape (0xDC00 + m % 0x400)

def code (n : Nat) : List Char :=
  if n == 34 || n == 92 then ['\\', Char.ofNat n]
  else if 32 ≤ n ∧ n < 127 then [Char.ofNat n]
  else if n == 8 then ['\\', 'b']
  else if n == 9 then ['\\', 't']
  else if n == 10 then ['\\', 'n']
  else if n == 12 then ['\\', 'f']
  else if n == 13 then ['\\', 'r']
  else codeEscape n

def string (s : String) : String :=
  String.ofList ('"' :: s.toList.flatMap (fun c => code (Text.codeOf c)) ++ ['"'])

def number (x : Double) : String :=
  if x.isNaN then "NaN"
  else if !x.isFinite then (if x.isNegative then "-Infinity" else "Infinity")
  else x.text

/-- Where the parts of a collection are placed: on one line, or on lines indented by `level`. -/
inductive Layout where
  | line
  | indented (level : Nat)

def Layout.deeper : Layout → Layout
  | .line => .line
  | .indented level => .indented (level + 1)

def Layout.break : Layout → String
  | .line => ""
  | .indented level => "\n" ++ String.ofList (List.replicate (2 * level) ' ')

def Layout.comma : Layout → String
  | .line => ", "
  | l => "," ++ l.break

/-- Parts between brackets. -/
def enclose (l : Layout) (left right : String) (parts : List String) : String :=
  if parts.isEmpty then left ++ right
  else left ++ l.deeper.break ++ l.deeper.comma.intercalate parts ++ l.break ++ right

def keyText : Value → String
  | .str s => string s
  | _ => string ""

mutual

def render (l : Layout) : Value → String
  | .bool b => if b then "true" else "false"
  | .int i => toString i
  | .float x => number x
  | .str s => string s
  | .list items => enclose l "[" "]" (renderItems l.deeper items)
  | .map entries => enclose l "\x7b" "\x7d" (renderEntries l.deeper entries)
  | _ => "null"

def renderItems (l : Layout) : List Value → List String
  | [] => []
  | v :: rest => render l v :: renderItems l rest

def renderEntries (l : Layout) : List (Value × Value) → List String
  | [] => []
  | (k, v) :: rest => (keyText k ++ ": " ++ render l v) :: renderEntries l rest

end

end ClusterAccess.Json
