import ClusterAccess.Value.Basic

/-!
# Entries of a value

The entries that a value can be read as. A mapping has its own; a list has an entry for each item that is
a key and a value one after the other: a list of two, a text of two characters, a mapping of two keys. A
text is a list of its characters.
-/
namespace ClusterAccess

/-- Why a value is no collection of entries. -/
inductive EntriesFault where
  | notIterable (kind : String)
  | notSequence (index : Nat)
  | wrongLength (index length : Nat)
  | notKey (kind : String)
  deriving DecidableEq, Repr

def EntriesFault.message : EntriesFault → String
  | .notIterable kind => s!"'{kind}' object is not iterable"
  | .notSequence index => s!"cannot convert dictionary update sequence element #{index} to a sequence"
  | .wrongLength index length =>
    s!"dictionary update sequence element #{index} has length {length}; 2 is required"
  | .notKey kind => s!"unhashable type: '{kind}'"

namespace Value

def characters (s : String) : List Value := s.toList.map fun c => .str (String.singleton c)

/-- What a value goes through, one after the other. -/
def parts? : Value → Option (List Value)
  | .list items | .set items => some items
  | .pair a b => some [a, b]
  | .map entries => some (entries.map (·.1))
  | .str s => some (characters s)
  | .bytes octets => some (octets.map fun b => .int b.toNat)
  | _ => none

/-- The part of a value that cannot be in a key. -/
def keyFault : Value → EntriesFault
  | .pair a b => if a.isKey then keyFault b else keyFault a
  | v => .notKey v.kind

def entryOf (index : Nat) (v : Value) : Except EntriesFault (Value × Value) :=
  match v.parts? with
  | none => .error (.notSequence index)
  | some [key, value] => if key.isKey then .ok (key, value) else .error key.keyFault
  | some parts => .error (.wrongLength index parts.length)

def entriesFrom (index : Nat) : List Value → Except EntriesFault (List (Value × Value))
  | [] => .ok []
  | v :: rest => do
    let entry ← entryOf index v
    return entry :: (← entriesFrom (index + 1) rest)

/-- The entries of a value, the last one of a key counting. -/
def entries (v : Value) : Except EntriesFault (List (Value × Value)) :=
  match v with
  | .map entries => .ok entries
  | v =>
    match v.parts? with
    | none => .error (.notIterable v.kind)
    | some parts => (entriesFrom 0 parts).map ofPairs

example : entries (.list [.str "ab", .str "c"]) = .error (.wrongLength 1 1) := by cbv

end Value

end ClusterAccess
