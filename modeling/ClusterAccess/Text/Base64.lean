/-!
# Base64

Three octets are written as four digits of six bits; `=` fills up a shorter last group. `decode`
takes nothing but digits and padding, and padding only at the end. `decodeLenient` passes over
every other character and stops at the padding that completes a group.
-/
namespace ClusterAccess.Base64

def digit? (c : Char) : Option Nat :=
  if 'A' ≤ c ∧ c ≤ 'Z' then some (c.toNat - 65)
  else if 'a' ≤ c ∧ c ≤ 'z' then some (c.toNat - 71)
  else if '0' ≤ c ∧ c ≤ '9' then some (c.toNat + 4)
  else if c = '+' then some 62
  else if c = '/' then some 63
  else none

def digit (n : Nat) : Char :=
  if n < 26 then Char.ofNat (n + 65)
  else if n < 52 then Char.ofNat (n + 71)
  else if n < 62 then Char.ofNat (n - 4)
  else if n = 62 then '+' else '/'

theorem digit?_digit {n : Nat} (h : n < 64) : digit? (digit n) = some n := by
  revert n; decide

/-- The octets that digits of six bits hold; bits that fill no octet are dropped. -/
def pack : List Nat → List UInt8
  | a :: b :: c :: d :: rest =>
    UInt8.ofNat (a * 4 + b / 16) :: UInt8.ofNat (b % 16 * 16 + c / 4) ::
      UInt8.ofNat (c % 4 * 64 + d) :: pack rest
  | [a, b, c] => [UInt8.ofNat (a * 4 + b / 16), UInt8.ofNat (b % 16 * 16 + c / 4)]
  | [a, b] => [UInt8.ofNat (a * 4 + b / 16)]
  | _ => []

def encode : List UInt8 → List Char
  | a :: b :: c :: rest =>
    digit (a.toNat / 4) :: digit (a.toNat % 4 * 16 + b.toNat / 16) ::
      digit (b.toNat % 16 * 4 + c.toNat / 64) :: digit (c.toNat % 64) :: encode rest
  | [a, b] =>
    [digit (a.toNat / 4), digit (a.toNat % 4 * 16 + b.toNat / 16), digit (b.toNat % 16 * 4), '=']
  | [a] => [digit (a.toNat / 4), digit (a.toNat % 4 * 16), '=', '=']
  | [] => []

/-- Where a reader stands: the number of digits read, modulo four, and the padding since the last of
them. -/
structure Place where
  group : Nat
  pads : Nat

/-- Padding completes a group of two or three digits. -/
def Place.completes (p : Place) : Bool := 2 ≤ p.group && 4 ≤ p.group + p.pads + 1

def Place.afterDigit (p : Place) : Place := ⟨(p.group + 1) % 4, 0⟩

/-- Padding counts once a group holds two digits. -/
def Place.afterPad (p : Place) : Place := if 2 ≤ p.group then { p with pads := p.pads + 1 } else p

def strictDigits (p : Place) (padded : Bool) : List Char → Option (List Nat)
  | [] => if p.group = 0 then some [] else none
  | c :: rest =>
    if c = '=' then
      if p.completes then (if rest.isEmpty then some [] else none)
      else strictDigits p.afterPad true rest
    else match digit? c with
      | none => none
      | some v => if padded then none else (strictDigits p.afterDigit false rest).map (v :: ·)

def lenientDigits (p : Place) : List Char → Option (List Nat)
  | [] => if p.group = 0 then some [] else none
  | c :: rest =>
    if c = '=' then (if p.completes then some [] else lenientDigits p.afterPad rest)
    else match digit? c with
      | none => lenientDigits p rest
      | some v => (lenientDigits p.afterDigit rest).map (v :: ·)

/-- The octets of a text of digits and padding alone. The padding may stand after a full group, but
not first. -/
def decode (cs : List Char) : Option (List UInt8) :=
  if cs.head? = some '=' then none else (strictDigits ⟨0, 0⟩ false cs).map pack

/-- The octets of the digits in a text. -/
def decodeLenient (cs : List Char) : Option (List UInt8) := (lenientDigits ⟨0, 0⟩ cs).map pack

example : decode "YWJj=".toList = some [97, 98, 99] ∧ decode "=YWJj".toList = none := by
  constructor <;> decide

end ClusterAccess.Base64
