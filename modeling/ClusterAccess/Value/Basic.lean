import ClusterAccess.Number.Double
import ClusterAccess.Value.Calendar

/-!
# Values

What a document can hold: scalars, lists, pairs of ordered mappings, sets, and mappings in the order
in which their keys first appear. A list or mapping may stand inside itself, where it is only marked. Two
values are the same when they denote the same thing: a truth value counts as the number 0 or 1, an integer
equals a double of the same value, and the order of a set or mapping does not matter.
-/
namespace ClusterAccess

inductive Value where
  | null
  | bool (b : Bool)
  | int (i : Int)
  | float (x : Double)
  | str (s : String)
  | bytes (octets : List UInt8)
  | date (d : Calendar.Date)
  | dateTime (t : Calendar.DateTime)
  | list (items : List Value)
  | pair (first second : Value)
  | set (members : List Value)
  | map (entries : List (Value × Value))
  /-- A list or mapping around this place. -/
  | again (isMap : Bool)
  deriving Repr

instance : Inhabited Value := ⟨.null⟩

namespace Value

/-- The number that a value counts as, if it is an integer. -/
def asInt? : Value → Option Int
  | .bool b => some (if b then 1 else 0)
  | .int i => some i
  | .float x => x.toInt?
  | _ => none

/-- Sameness of scalars. -/
def sameScalar (a b : Value) : Bool :=
  match a, b with
  | .null, .null => true
  | .float x, .float y => x == y || x.sameNumber y || (x.isNaN && y.isNaN)
  | .str s, .str t => s == t
  | .bytes s, .bytes t => s == t
  | .date s, .date t => s == t
  | .dateTime s, .dateTime t => s.same t
  | .again s, .again t => s == t
  | _, _ =>
    match a.asInt?, b.asInt? with
    | some i, some j => i == j
    | _, _ => false

mutual

/-- The two values denote the same thing. -/
def same : Value → Value → Bool
  | .list xs, .list ys => sameLists xs ys
  | .pair a b, .pair c d => same a c && same b d
  | .set xs, .set ys => xs.length == ys.length && xs.all fun x => ys.any (sameScalar x)
  | .map xs, .map ys => xs.length == ys.length && sameEntries xs ys
  | a, b => sameScalar a b

def sameLists : List Value → List Value → Bool
  | [], [] => true
  | x :: xs, y :: ys => same x y && sameLists xs ys
  | _, _ => false

def sameEntries : List (Value × Value) → List (Value × Value) → Bool
  | [], _ => true
  | (k, v) :: rest, ys =>
    (match ys.find? fun (k', _) => sameScalar k k' with
      | some (_, w) => same v w
      | none => false) && sameEntries rest ys

end

/-- Entries with `key` set to `value`: a key that is there keeps its place and its spelling. -/
def put (key value : Value) : List (Value × Value) → List (Value × Value)
  | [] => [(key, value)]
  | (k, v) :: rest => if sameScalar k key then (k, value) :: rest else (k, v) :: put key value rest

/-- Entries in order of first appearance, each with the last value given. -/
def ofPairs (pairs : List (Value × Value)) : List (Value × Value) :=
  pairs.foldl (fun entries (k, v) => put k v entries) []

/-- Members in order of first appearance. -/
def members (xs : List Value) : List Value :=
  xs.foldl (fun seen x => if seen.any (sameScalar x) then seen else seen ++ [x]) []

/-- Only scalars and pairs of them may be keys of a mapping or members of a set. -/
def isKey : Value → Bool
  | .list _ | .set _ | .map _ | .again _ => false
  | .pair a b => a.isKey && b.isKey
  | _ => true

/-- A value counts as empty when it is null, false, zero, or holds nothing. -/
def isEmpty : Value → Bool
  | .null => true
  | .bool b => !b
  | .int i => i == 0
  | .float x => x.isZero
  | .str s => s.isEmpty
  | .bytes octets => octets.isEmpty
  | .list xs | .set xs => xs.isEmpty
  | .map entries => entries.isEmpty
  | .date _ | .dateTime _ | .pair _ _ | .again _ => false

/-- The name of a value's kind, as messages give it. -/
def kind : Value → String
  | .null => "NoneType"
  | .bool _ => "bool"
  | .int _ => "int"
  | .float _ => "float"
  | .str _ => "str"
  | .bytes _ => "bytes"
  | .date _ => "date"
  | .dateTime _ => "datetime"
  | .list _ => "list"
  | .pair _ _ => "tuple"
  | .set _ => "set"
  | .map _ => "dict"
  | .again isMap => if isMap then "dict" else "list"

/-- The name of a value's kind, with the module that a date's kind belongs to. -/
def qualifiedKind : Value → String
  | .date _ => "datetime.date"
  | .dateTime _ => "datetime.datetime"
  | v => v.kind

end Value

end ClusterAccess
