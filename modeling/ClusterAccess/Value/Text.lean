import ClusterAccess.Number.Numeral
import ClusterAccess.Text.Quoted
import ClusterAccess.Value.Basic

/-!
# Values in messages

`Value.literal` writes a value on one line so that its kind can be seen: texts are quoted, lists stand
in brackets, mappings and sets in braces, and dots for one inside itself. `Value.text` is the same except
that a text, date or date-time standing alone is written bare. Neither can be written of a value with an
integer that is too long.
-/
namespace ClusterAccess

namespace Calendar

def Date.literal (d : Date) : String := s!"datetime.date({d.year}, {d.month}, {d.day})"

def zoneLiteral (minutes : Int) : String :=
  if minutes = 0 then "datetime.timezone.utc"
  else if 0 < minutes then
    s!"datetime.timezone(datetime.timedelta(seconds={minutes * 60}))"
  else s!"datetime.timezone({Fault.duration minutes})"

def DateTime.literal (t : DateTime) : String :=
  let seconds := if t.second = 0 ∧ t.microsecond = 0 then "" else s!", {t.second}"
  let micros := if t.microsecond = 0 then "" else s!", {t.microsecond}"
  let zone := (t.offset.map fun m => s!", tzinfo={zoneLiteral m}").getD ""
  s!"datetime.datetime({t.date.year}, {t.date.month}, {t.date.day}, {t.hour}, {t.minute}{seconds}{micros}{zone})"

end Calendar

namespace Value

/-- One octet of a byte literal. -/
def octetText (quote : Char) (b : UInt8) : List Char :=
  let c := Char.ofNat b.toNat
  if c == quote || c == '\\' then ['\\', c]
  else if c == '\n' then ['\\', 'n']
  else if c == '\r' then ['\\', 'r']
  else if c == '\t' then ['\\', 't']
  else if 32 ≤ b ∧ b < 127 then [c]
  else '\\' :: 'x' :: Text.hexDigits 2 b.toNat

def bytesLiteral (octets : List UInt8) : String :=
  let quote := Text.quoteFor (octets.map fun b => Char.ofNat b.toNat)
  String.ofList ('b' :: quote :: octets.flatMap (octetText quote) ++ [quote])

def boolText (b : Bool) : String := if b then "True" else "False"

def commaSeparated (parts : List String) : String := ", ".intercalate parts

mutual

/-- The value on one line, with texts quoted. -/
def literal : Value → String
  | .null => "None"
  | .bool b => boolText b
  | .int i => toString i
  | .float x => x.text
  | .str s => Text.quoted s
  | .bytes octets => bytesLiteral octets
  | .date d => d.literal
  | .dateTime t => t.literal
  | .list items => "[" ++ commaSeparated (literals items) ++ "]"
  | .pair a b => "(" ++ literal a ++ ", " ++ literal b ++ ")"
  | .set [] => "set()"
  | .set (x :: xs) => "\x7b" ++ commaSeparated (literal x :: literals xs) ++ "\x7d"
  | .map entries => "\x7b" ++ commaSeparated (entryLiterals entries) ++ "\x7d"
  | .again isMap => if isMap then "\x7b...\x7d" else "[...]"

def literals : List Value → List String
  | [] => []
  | v :: rest => literal v :: literals rest

def entryLiterals : List (Value × Value) → List String
  | [] => []
  | (k, v) :: rest => (literal k ++ ": " ++ literal v) :: entryLiterals rest

end

mutual

/-- An integer in the value has too many digits to be written. -/
def hasLongNumber : Value → Bool
  | .int i => Numeral.isLong i
  | .list items | .set items => anyHasLongNumber items
  | .pair a b => hasLongNumber a || hasLongNumber b
  | .map entries => anyEntryHasLongNumber entries
  | .null | .bool _ | .float _ | .str _ | .bytes _ | .date _ | .dateTime _ | .again _ => false

def anyHasLongNumber : List Value → Bool
  | [] => false
  | v :: rest => hasLongNumber v || anyHasLongNumber rest

def anyEntryHasLongNumber : List (Value × Value) → Bool
  | [] => false
  | (k, v) :: rest => hasLongNumber k || hasLongNumber v || anyEntryHasLongNumber rest

end

/-- The value on one line, a text, date or date-time bare. -/
def text : Value → String
  | .str s => s
  | .date d => d.iso
  | .dateTime t => t.format " " Calendar.offsetText
  | v => v.literal

end Value

end ClusterAccess
