import ClusterAccess.Number.Double
import ClusterAccess.Text.Blank
import ClusterAccess.Text.Digit

/-!
# Numerals

Reading integers and floating-point numbers. Digits of every script count, a single `_` may stand
between two digits, and white space around a numeral is ignored. A decimal integer has at most
`maxDigits` digits; one that would have more is not written either.
-/
namespace ClusterAccess.Numeral

def maxDigits : Nat := 4300

/-- The integer has too many digits to be written in decimal. -/
def isLong (i : Int) : Bool := decide (Nat.pow 10 maxDigits ≤ i.natAbs)

theorem isLong_eq_false_iff {i : Int} : isLong i = false ↔ i.natAbs < Nat.pow 10 maxDigits := by
  rw [isLong, decide_eq_false_iff_not, Nat.not_le]

-- The power is not to be computed on the way.
attribute [irreducible] isLong

/-- What is said of an integer that is too long to be written. -/
def longMessage : String :=
  "Exceeds the limit (4300 digits) for integer string conversion; " ++
    "use sys.set_int_max_str_digits() to increase the limit"

inductive Fault where
  | malformed
  | tooLong (digits : Nat)
  deriving DecidableEq, Repr

/-- The white space around a numeral. A text of ASCII characters alone has only the six kinds that
ASCII calls white space. -/
def isSpace (ascii : Bool) (c : Char) : Bool :=
  if ascii then c == ' ' || (9 ≤ c.toNat && c.toNat ≤ 13) else Text.isBlank c

def trimSpace (cs : List Char) : List Char :=
  let space := isSpace (cs.all (·.toNat < 128))
  ((cs.dropWhile space).reverse.dropWhile space).reverse

/-- The sign of a numeral, true for minus, and the rest. -/
def sign : List Char → Bool × List Char
  | '-' :: rest => (true, rest)
  | '+' :: rest => (false, rest)
  | cs => (false, cs)

def digitOf (base : Nat) (c : Char) : Option Nat :=
  (Text.baseDigit? c).filter (· < base)

/-- Digits and underscores at the start of a text: the digits, and the rest. No two underscores meet,
and none comes last or, unless `open`, first. -/
def digitRun (base : Nat) (afterDigit : Bool) : List Char → Option (List Nat × List Char)
  | [] => if afterDigit then some ([], []) else none
  | c :: rest =>
    if c == '_' then (if afterDigit then digitRun base false rest else none)
    else match digitOf base c with
      | some d => (digitRun base true rest).map fun (ds, rest) => (d :: ds, rest)
      | none => if afterDigit then some ([], c :: rest) else none

def valueOf (base : Nat) (digits : List Nat) : Nat := digits.foldl (fun n d => n * base + d) 0

/-- `0x`, `0o` and `0b`, in either case, may come before a numeral of base 16, 8 and 2, and an
underscore after them. -/
def dropBasePrefix (base : Nat) (cs : List Char) : List Char :=
  let letter := if base = 16 then 'x' else if base = 8 then 'o' else if base = 2 then 'b' else '0'
  match cs with
  | '0' :: c :: rest =>
    if base ≠ 10 ∧ c.toLower = letter then (if rest.head? = some '_' then rest.drop 1 else rest) else cs
  | _ => cs

/-- The integer that a text is a numeral of. -/
def readInt (base : Nat) (cs : List Char) : Except Fault Int :=
  let (negative, body) := sign (trimSpace cs)
  match digitRun base false (dropBasePrefix base body) with
  | none => .error .malformed
  | some (ds, rest) =>
    if base = 10 ∧ maxDigits < ds.length then .error (.tooLong ds.length)
    else if rest.isEmpty then
      let n : Int := valueOf base ds
      .ok (if negative then -n else n)
    else .error .malformed

/-- The decimal integer that a text holds after trimming. -/
def readDecimal? (s : String) : Option Int := (readInt 10 (Text.trimChars s.toList)).toOption

def digitsBefore (cs : List Char) : Option (List Nat × List Char) :=
  match cs with
  | [] => some ([], [])
  | c :: _ => if (digitOf 10 c).isSome then digitRun 10 false cs else some ([], cs)

/-- A decimal exponent, if the text goes on with one. -/
def exponent (cs : List Char) : Option (Int × List Char) :=
  match cs with
  | c :: rest =>
    if c == 'e' || c == 'E' then
      let (negative, body) := sign rest
      (digitRun 10 false body).map fun (ds, rest) =>
        let n : Int := valueOf 10 ds
        (if negative then -n else n, rest)
    else some (0, cs)
  | [] => some (0, [])

/-- Digits with a point and an exponent, both optional; at least one digit beside the point. -/
def readPlain (negative : Bool) (cs : List Char) : Option Double := do
  let (whole, rest) ← digitsBefore cs
  let (fraction, rest) ← match rest with
    | '.' :: rest => digitsBefore rest
    | _ => some ([], rest)
  if whole.isEmpty && fraction.isEmpty then none
  let (power, rest) ← exponent rest
  if rest.isEmpty then
    some (Double.ofDecimal negative (valueOf 10 (whole ++ fraction)) (power - fraction.length))
  else none

/-- The floating-point number that a text is a numeral of. -/
def readDouble? (cs : List Char) : Option Double :=
  let (negative, body) := sign (trimSpace cs)
  let word := String.ofList (body.map Char.toLower)
  if word = "inf" ∨ word = "infinity" then some (Double.infinity negative)
  else if word = "nan" then some Double.nan
  else readPlain negative body

example : readDecimal? " 1_000\n" = some 1000 ∧ readDecimal? "1__0" = none := by
  decide +kernel

end ClusterAccess.Numeral
