import ClusterAccess.Check.Basic
import ClusterAccess.Number.Numeral
import ClusterAccess.Value.Basic

/-!
# Integers among values

A truth value counts as 0 or 1, a double that has no fraction as the integer it equals, and a text as the
decimal integer that it spells. Integers of any size are taken as they are; doubles only up to
sixty-four bits, and texts up to `Numeral.maxDigits` digits.
-/
namespace ClusterAccess.Shape

/-- The integers that fit into sixty-four bits. -/
def isSmall (i : Int) : Bool := -(Nat.pow 2 63 : Nat) ≤ i && i < (Nat.pow 2 63 : Nat)

/-- White space around the spelling of an integer. -/
def isMargin (c : Char) : Bool := Text.isBlank c && !(28 ≤ c.toNat && c.toNat < 32)

def trimMargin (cs : List Char) : List Char :=
  ((cs.dropWhile isMargin).reverse.dropWhile isMargin).reverse

/-- Digits without the zeros that lead them. Underscores among these zeros go with them. One zero is
left when nothing else is. -/
def dropLeadingZeros : List Char → List Char
  | '0' :: rest =>
    let zeros := rest.takeWhile fun c => c == '0' || c == '_'
    match rest.drop zeros.length with
    | c :: more =>
      if c.isDigit then c :: more
      else if zeros.getLast?.getD '0' == '0' then '0' :: c :: more
      else '_' :: c :: more
    | [] => [zeros.getLast?.getD '0']
  | cs => cs

/-- Digits without a fraction of zeros. -/
def dropZeroFraction (cs : List Char) : List Char :=
  let whole := cs.takeWhile (· != '.')
  match cs.drop whole.length with
  | '.' :: '0' :: zeros => if zeros.all (· == '0') then whole else cs
  | _ => cs

/-- The digits of a number, single underscores between them passed over. -/
def plainDigits? (cs : List Char) : Option (List Nat) :=
  if cs.all fun c => c.isDigit || c == '_' then
    (Numeral.digitRun 10 false cs).map (·.1)
  else none

/-- The spelling goes on for too long before anything else can be wrong with it. -/
def isOverlong (cs : List Char) : Bool :=
  cs.head? != some '0' && Numeral.maxDigits < (cs.takeWhile Char.isDigit).length

/-- The integer of some digits. Zeros may lead it only when no minus sign does. -/
def integerOfDigits (negative : Bool) (cs : List Char) : Checked Int :=
  if isOverlong cs then .fault .integerTooLong
  else match plainDigits? (dropZeroFraction (if negative then cs else dropLeadingZeros cs)) with
    | none => .fault .unclearInteger
    | some digits =>
      if negative && digits.head? == some 0 && 1 < digits.length then .fault .unclearInteger
      else if Numeral.maxDigits < digits.length then .fault .integerTooLong
      else
        let n : Int := Numeral.valueOf 10 digits
        .ok (if negative then -n else n)

/-- The integer that a text spells. -/
def integerOfText (s : String) : Checked Int :=
  let (negative, digits) := Numeral.sign (trimMargin s.toList)
  integerOfDigits negative digits

def integerOfDouble (x : Double) : Checked Int :=
  if !x.isFinite then .fault .notFinite
  else match x.toInt? with
    | none => .fault .fractional
    | some i => if isSmall i then .ok i else .fault .integerTooLong

def integer : Value → Checked Int
  | .bool b => .ok (if b then 1 else 0)
  | .int i => .ok i
  | .float x => integerOfDouble x
  | .str s => integerOfText s
  | _ => .fault .notInteger

example : integerOfText " +007.00\n" = .ok 7 ∧ integerOfText "1_000" = .ok 1000 ∧
    integerOfText "1." = .fault .unclearInteger ∧ integerOfText "-0" = .ok 0 := by
  refine ⟨?_, ?_, ?_, ?_⟩ <;> decide +kernel

end ClusterAccess.Shape
