import ClusterAccess.Check.Integer
import ClusterAccess.Path
import ClusterAccess.Text.Utf8
import ClusterAccess.Value.Text

/-!
# Shapes

Readings of values as texts, truth values, paths, lists and mappings, and of the fields of a record. A
text may be given as octets of UTF-8. A field may have a second spelling, which counts when the first is
not there; an issue is reported under the spelling that was used.
-/
namespace ClusterAccess

abbrev Entries := List (Value × Value)

namespace Shape

variable {α : Type}

def text : Value → Checked String
  | .str s => .ok s
  | .bytes octets =>
    match Utf8.decode octets with
    | .ok s => .ok s
    | .error _ => .fault .undecodableText
  | _ => .fault .notText

def trueWords : List String := ["1", "on", "t", "true", "y", "yes"]

def falseWords : List String := ["0", "off", "f", "false", "n", "no"]

/-- A truth word in any case of its letters. -/
def truthOfText (s : String) : Checked Bool :=
  let word := s.map Char.toLower
  if trueWords.contains word then .ok true
  else if falseWords.contains word then .ok false
  else .fault .unclearTruth

def truthOfInteger (i : Int) : Checked Bool :=
  if i = 0 then .ok false
  else if i = 1 then .ok true
  else .fault (if isSmall i then .unclearTruth else .notTruth)

def truth : Value → Checked Bool
  | .bool b => .ok b
  | .int i => truthOfInteger i
  | .float x => (x.toInt?.map truthOfInteger).getD (.fault .notTruth)
  | .str s => truthOfText s
  | .bytes octets =>
    match Utf8.decode octets with
    | .ok s => truthOfText s
    | .error _ => .fault .unclearTruth
  | _ => .fault .notTruth

def path : Value → Checked Path
  | .str s => .ok (Path.ofText s)
  | _ => .fault .notPath

/-- Null, or a value of the shape. -/
def optional (shape : Value → Checked α) : Value → Checked (Option α)
  | .null => .ok none
  | v => (shape v).map some

def items (shape : Value → Checked α) (start : Nat) : List Value → List (Checked α)
  | [] => []
  | v :: rest => (shape v).under (.index start) :: items shape (start + 1) rest

def list (shape : Value → Checked α) : Value → Checked (List α)
  | .list vs => .all (items shape 0 vs)
  | _ => .fault .notList

/-- The step to the entry of a key that is written as in messages, or by its kind if it cannot be. -/
def keyStep (k : Value) : Step := .key (if k.hasLongNumber then s!"<unprintable {k.kind} object>" else k.literal)

/-- The step to the entry of a key. -/
def stepTo : Value → Step
  | .str s => .key s
  | .bool b => .index (if b then 1 else 0)
  | .int i => if isSmall i then .index i else keyStep (.int i)
  | k => keyStep k

/-- Entries with a text as key, each key once. -/
def putText (key : String) (a : α) : List (String × α) → List (String × α)
  | [] => [(key, a)]
  | (k, b) :: rest => if k = key then (k, a) :: rest else (k, b) :: putText key a rest

def entry (shape : Value → Checked α) (k v : Value) : Checked (String × α) :=
  .both (((text k).under (.key "[key]")).map Prod.mk |>.under (stepTo k)) ((shape v).under (stepTo k))

/-- A mapping from texts. -/
def mapping (shape : Value → Checked α) : Value → Checked (List (String × α))
  | .map entries =>
    (Checked.all (entries.map fun (k, v) => entry shape k v)).map fun es =>
      es.foldl (fun m (k, a) => putText k a m) []
  | _ => .fault .notMapping

/-! ## Records -/

/-- A field: its spelling, and the spelling that counts when the first is missing. -/
structure Key where
  name : String
  other : String

/-- The value is the text `key`. -/
def isText (key : String) : Value → Bool
  | .str s => s == key
  | _ => false

def lookText (key : String) (entries : Entries) : Option Value :=
  (entries.find? fun (k, _) => isText key k).map (·.2)

/-- The spelling that is used and the value under it. -/
def Key.find? (key : Key) (entries : Entries) : Option (String × Value) :=
  ((lookText key.name entries).map (key.name, ·)).or ((lookText key.other entries).map (key.other, ·))

def plain (name : String) : Key := ⟨name, name⟩

/-- A field that stands for `default` when it is missing. -/
def field (key : Key) (default : α) (shape : Value → Checked α) (entries : Entries) : Checked α :=
  match key.find? entries with
  | none => .ok default
  | some (name, v) => (shape v).under (.key name)

def required (key : Key) (shape : Value → Checked α) (entries : Entries) : Checked α :=
  match key.find? entries with
  | none => .faults ⟨[.key key.name], .missing⟩ []
  | some (name, v) => (shape v).under (.key name)

/-- A field that may be null or missing. -/
def maybe (key : Key) (shape : Value → Checked α) (entries : Entries) : Checked (Option α) :=
  field key none (optional shape) entries

/-- A record of the given name, read from the entries of a mapping. -/
def record (name : String) (fields : Entries → Checked α) : Value → Checked α
  | .map entries => fields entries
  | _ => .fault (.notRecord name)

end Shape

end ClusterAccess
