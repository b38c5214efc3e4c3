import ClusterAccess.Text.Digit

/-!
# UTF-8

`encode` writes a text as octets and `decode` reads octets back, reporting the first place where
they are not UTF-8: the octets that form the longest start of a character, or the one octet that
starts none.
-/
namespace ClusterAccess.Utf8

/-- Why octets are not UTF-8. -/
inductive Fault where
  | badStart
  | badContinuation
  | truncated
  | unspecified
  deriving DecidableEq, Repr

/-- The first malformed part: where it starts, its octets and what is wrong with it. -/
structure Malformed where
  position : Nat
  octets : List UInt8
  fault : Fault
  deriving DecidableEq, Repr

def Fault.message : Fault → String
  | .badStart => "invalid start byte"
  | .badContinuation => "invalid continuation byte"
  | .truncated => "unexpected end of data"
  | .unspecified => "invalid utf-8"

def Malformed.message (m : Malformed) : String :=
  let place := match m.octets with
    | [b] => s!"byte 0x{String.ofList (Text.hexDigits 2 b.toNat)} in position {m.position}"
    | bs => s!"bytes in position {m.position}-{m.position + bs.length - 1}"
  s!"'utf-8' codec can't decode {place}: {m.fault.message}"

/-- The same place, told by its first octet alone. -/
def Malformed.narrow (m : Malformed) : Malformed := ⟨m.position, m.octets.take 1, .unspecified⟩

def encodeText (s : String) : List UInt8 := s.toList.flatMap String.utf8EncodeChar

/-- A character of which some octets are read: how many are still to come, the value of the bits
so far, the least and greatest next octet, and the octets read, latest first. -/
structure Pending where
  more : Nat
  bits : Nat
  low : UInt8
  high : UInt8
  seen : List UInt8

/-- What the first octet of a character promises. -/
def start? (b : UInt8) : Option Pending :=
  if b < 0x80 then some ⟨0, b.toNat, 0, 0, [b]⟩
  else if b < 0xC2 then none
  else if b < 0xE0 then some ⟨1, b.toNat - 0xC0, 0x80, 0xBF, [b]⟩
  else if b == 0xE0 then some ⟨2, 0, 0xA0, 0xBF, [b]⟩
  else if b == 0xED then some ⟨2, 0xD, 0x80, 0x9F, [b]⟩
  else if b < 0xF0 then some ⟨2, b.toNat - 0xE0, 0x80, 0xBF, [b]⟩
  else if b == 0xF0 then some ⟨3, 0, 0x90, 0xBF, [b]⟩
  else if b < 0xF4 then some ⟨3, b.toNat - 0xF0, 0x80, 0xBF, [b]⟩
  else if b == 0xF4 then some ⟨3, 4, 0x80, 0x8F, [b]⟩
  else none

/-- The next octet of a character that has begun. -/
def Pending.next? (p : Pending) (b : UInt8) : Option Pending :=
  if p.low ≤ b ∧ b ≤ p.high then
    some ⟨p.more - 1, p.bits * 64 + (b.toNat - 0x80), 0x80, 0xBF, b :: p.seen⟩
  else none

/-- Reads octets, the first of which stands at `position` and goes on with `pending` if a character
has begun. -/
def decodeFrom (position : Nat) : Option Pending → List UInt8 → Except Malformed (List Char)
  | none, [] => .ok []
  | some p, [] => .error ⟨position - p.seen.length, p.seen.reverse, .truncated⟩
  | none, b :: rest =>
    match start? b with
    | none => .error ⟨position, [b], .badStart⟩
    | some p =>
      if p.more = 0 then (decodeFrom (position + 1) none rest).map (Char.ofNat p.bits :: ·)
      else decodeFrom (position + 1) (some p) rest
  | some p, b :: rest =>
    match p.next? b with
    | none => .error ⟨position - p.seen.length, p.seen.reverse, .badContinuation⟩
    | some q =>
      if q.more = 0 then (decodeFrom (position + 1) none rest).map (Char.ofNat q.bits :: ·)
      else decodeFrom (position + 1) (some q) rest

/-- The text that octets encode, or the first place where they encode none. -/
def decode (bs : List UInt8) : Except Malformed String := (decodeFrom 0 none bs).map String.ofList

example : decode [0x61, 0xC3, 0xA9] = .ok "aé" ∧
    decode [0x61, 0xE2, 0x82] = .error ⟨1, [0xE2, 0x82], .truncated⟩ := by
  constructor <;> rfl

end ClusterAccess.Utf8
