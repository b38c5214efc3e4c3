import ClusterAccess.Text.Utf8
import ClusterAccess.Value.Text

/-!
# The JSON form of a value

What stands in a JSON text for a value that JSON has no kind for: dates and date-times in ISO 8601, octets
as the text that they encode, pairs and sets as lists, and keys of every kind as texts. Only octets that
encode no text have no form, lists and mappings inside themselves, and integers as keys if they are too
long to be written.
-/
namespace ClusterAccess.Json

/-- Why a value has no form. -/
inductive Formless where
  | octets (malformed : Utf8.Malformed)
  | again
  | longKey
  deriving DecidableEq, Repr

def Formless.message : Formless → String
  | .octets malformed => malformed.message
  | .again => "Circular reference detected (id repeated)"
  | .longKey => Numeral.longMessage

def Formless.name : Formless → String
  | .octets _ => "UnicodeDecodeError"
  | .again | .longKey => "ValueError"

/-- A form, or why there is none. -/
abbrev Formed (α : Type) := Except Formless α

def octetsText (octets : List UInt8) : Formed String :=
  (Utf8.decode octets).mapError fun malformed => .octets malformed.narrow

def keyForm : Value → Formed String
  | .null => .ok "None"
  | .bool b => .ok (if b then "true" else "false")
  | .int i => if Numeral.isLong i then .error .longKey else .ok (toString i)
  | .str s => .ok s
  | .bytes octets => octetsText octets
  | .date d => .ok d.iso
  | .dateTime t => .ok t.isoZulu
  | .pair a b => do return (← keyForm a) ++ "," ++ (← keyForm b)
  | v => .ok v.literal

mutual

def form : Value → Formed Value
  | .bytes octets => (octetsText octets).map .str
  | .date d => .ok (.str d.iso)
  | .dateTime t => .ok (.str t.isoZulu)
  | .list items => (forms items).map .list
  | .pair a b => do return .list [← form a, ← form b]
  | .set members => (forms members).map .list
  | .map entries => (entryForms entries).map fun es => .map (Value.ofPairs es)
  | .again _ => .error .again
  | .null => .ok .null
  | .bool b => .ok (.bool b)
  | .int i => .ok (.int i)
  | .float x => .ok (.float x)
  | .str s => .ok (.str s)

def forms : List Value → Formed (List Value)
  | [] => .ok []
  | v :: rest => do return (← form v) :: (← forms rest)

def entryForms : List (Value × Value) → Formed (List (Value × Value))
  | [] => .ok []
  | (k, v) :: rest => do return (.str (← keyForm k), ← form v) :: (← entryForms rest)

end

end ClusterAccess.Json
