import ClusterAccess.Yaml.Token

/-!
# Types of nodes

A node's type is its tag. A plain scalar without a tag has the type that its spelling shows: a truth
word, a number, a null, a date or time, the merge or the value indicator, and else a text. Numbers may
hold underscores, be octal, hexadecimal or binary, or count in sixties.
-/
namespace ClusterAccess.Yaml

inductive Tag where
  | null
  | truth
  | integer
  | double
  | binary
  | timestamp
  | orderedMap
  | pairs
  | set
  | text
  | sequence
  | mapping
  | merge
  | value
  | other (name : String)
  deriving DecidableEq, Repr

def standardTags : List (String × Tag) :=
  [("null", .null), ("bool", .truth), ("int", .integer), ("float", .double), ("binary", .binary),
   ("timestamp", .timestamp), ("omap", .orderedMap), ("pairs", .pairs), ("set", .set),
   ("str", .text), ("seq", .sequence), ("map", .mapping), ("merge", .merge), ("value", .value)]

def standardPrefix : String := "tag:yaml.org,2002:"

def Tag.ofName (name : String) : Tag :=
  ((standardTags.find? fun (short, _) => standardPrefix ++ short == name).map (·.2)).getD (.other name)

/-- The types whose values hold others. -/
def Tag.isCollection : Tag → Bool
  | .orderedMap | .pairs | .set | .sequence | .mapping => true
  | _ => false

namespace Spelling

def truthWords : List (String × Bool) :=
  [("yes", true), ("no", false), ("true", true), ("false", false), ("on", true), ("off", false)]

/-- A word in lower case, in upper case or capitalised. -/
def casings (word : String) : List String := [word, word.capitalize, word.map Char.toUpper]

def isTruth (s : String) : Bool := truthWords.any fun (word, _) => (casings word).contains s

def isNull (s : String) : Bool := s == "" || s == "~" || (casings "null").contains s

def isOneOf (wanted : String) (c : Char) : Bool := wanted.toList.contains c

/-- The text without its sign. -/
def unsigned : List Char → List Char
  | c :: rest => if c == '+' || c == '-' then rest else c :: rest
  | [] => []

def isDigitOrBar (c : Char) : Bool := c.isDigit || c == '_'

/-- A digit and then digits and underscores. -/
def isGrouped : List Char → Bool
  | c :: rest => c.isDigit && rest.all isDigitOrBar
  | [] => false

/-- Two digits below sixty, or one digit. -/
def isSixtieth : List Char → Bool
  | [c] => c.isDigit
  | [c, d] => '0' ≤ c && c ≤ '5' && d.isDigit
  | _ => false

/-- Parts of a text between colons. -/
def colonParts (cs : List Char) : List Char × List (List Char) :=
  match cs.span (· != ':') with
  | (part, []) => (part, [])
  | (part, _ :: rest) => (part, more rest.length rest)
where
  more : Nat → List Char → List (List Char)
    | 0, rest => [rest]
    | fuel + 1, rest =>
      match rest.span (· != ':') with
      | (part, []) => [part]
      | (part, _ :: rest) => part :: more fuel rest

def isInteger (cs : List Char) : Bool :=
  match unsigned cs with
  | ['0'] => true
  | '0' :: 'b' :: ds => !ds.isEmpty && ds.all (isOneOf "01_")
  | '0' :: 'x' :: ds => !ds.isEmpty && ds.all (isOneOf "0123456789abcdefABCDEF_")
  | '0' :: ds => !ds.isEmpty && ds.all (isOneOf "01234567_")
  | ds =>
    let (first, more) := colonParts ds
    isGrouped first && more.all isSixtieth

/-- Nothing, or `e`, a sign and digits. -/
def isExponent : List Char → Bool
  | [] => true
  | e :: sign :: ds => isOneOf "eE" e && isOneOf "+-" sign && !ds.isEmpty && ds.all Char.isDigit
  | _ => false

def isFractionAndExponent (cs : List Char) : Bool := isExponent (cs.dropWhile isDigitOrBar)

def isDouble (cs : List Char) : Bool :=
  let body := unsigned cs
  let isBare := body.length == cs.length
  match body.span (· != '.') with
  | ([], '.' :: rest) =>
    (casings "inf").contains (String.ofList rest) ||
      (isBare && ["nan", "NaN", "NAN"].contains (String.ofList rest)) ||
      (isBare && (rest.head?.map Char.isDigit).getD false && isFractionAndExponent rest)
  | (whole, '.' :: rest) =>
    let (first, more) := colonParts whole
    isGrouped first &&
      (if more.isEmpty then isFractionAndExponent rest else more.all isSixtieth && rest.all isDigitOrBar)
  | _ => false

/-! ## Dates and times -/

/-- The parts of a timestamp as digits. Without an hour it is a date. The zone is a sign with hours and
minutes, or `Z` when it has no sign. -/
structure Timestamp where
  year : Nat
  month : Nat
  day : Nat
  time : Option (Nat × Nat × Nat × List Char)
  zone : Option (Option (Bool × Nat × Nat))

def numberOf (ds : List Char) : Nat := ds.foldl (fun n d => n * 10 + (d.toNat - 48)) 0

/-- Between `least` and `most` digits, as many as there are. -/
def digits? (least most : Nat) (cs : List Char) : Option (Nat × List Char) :=
  let ds := (cs.take most).takeWhile Char.isDigit
  if least ≤ ds.length then some (numberOf ds, cs.drop ds.length) else none

def expect? (c : Char) : List Char → Option (List Char)
  | x :: rest => if x == c then some rest else none
  | [] => none

def dropBlanks (cs : List Char) : List Char := cs.dropWhile fun c => c == ' ' || c == '\t'

/-- The zone at the end of a timestamp. -/
def zone? (cs : List Char) : Option (Option (Option (Bool × Nat × Nat))) := do
  match dropBlanks cs with
  | [] => if cs.isEmpty then some none else none
  | ['Z'] => some (some none)
  | sign :: rest =>
    if sign != '+' && sign != '-' then none
    let (hours, rest) ← digits? 1 2 rest
    match rest with
    | [] => some (some (some (sign == '-', hours, 0)))
    | _ =>
      let (minutes, rest) ← digits? 2 2 (← expect? ':' rest)
      if rest.isEmpty then some (some (some (sign == '-', hours, minutes))) else none

/-- What separates a date from a time: `T`, `t` or blanks. -/
def separator? (cs : List Char) : Option (List Char) :=
  match cs with
  | c :: rest =>
    if c == 'T' || c == 't' then some rest
    else if c == ' ' || c == '\t' then some (dropBlanks rest) else none
  | [] => none

/-- A date with one or two digits of month and day, alone or with a time. -/
def timestamp? (cs : List Char) : Option Timestamp := do
  let (year, rest) ← digits? 4 4 cs
  let (month, rest) ← digits? 1 2 (← expect? '-' rest)
  let (day, rest) ← digits? 1 2 (← expect? '-' rest)
  if rest.isEmpty then return ⟨year, month, day, none, none⟩
  let (hour, rest) ← digits? 1 2 (← separator? rest)
  let (minute, rest) ← digits? 2 2 (← expect? ':' rest)
  let (second, rest) ← digits? 2 2 (← expect? ':' rest)
  let (fraction, rest) := match rest with
    | '.' :: rest => rest.span Char.isDigit
    | _ => ([], rest)
  return ⟨year, month, day, some (hour, minute, second, fraction), ← zone? rest⟩

/-- Spelled as a timestamp; a date alone has two digits of month and day. -/
def isTimestamp (cs : List Char) : Bool :=
  match timestamp? cs with
  | none => false
  | some t => t.time.isSome || cs.length == 10

/-- The text without one line feed at its end. -/
def dropLastBreak (cs : List Char) : List Char :=
  if cs.getLast? = some '\n' ∧ 1 < cs.length then cs.dropLast else cs

/-- The type that the spelling of a scalar shows. -/
def tag (s : String) : Tag :=
  let cs := dropLastBreak s.toList
  let t := String.ofList cs
  if isTruth t then .truth
  else if isDouble cs then .double
  else if isInteger cs then .integer
  else if t == "<<" then .merge
  else if isNull t then .null
  else if isTimestamp cs then .timestamp
  else if t == "=" then .value
  else .text

end Spelling

end ClusterAccess.Yaml
