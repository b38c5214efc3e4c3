import ClusterAccess.Number.Numeral
import ClusterAccess.Text.Base64
import ClusterAccess.Text.LowerCase
import ClusterAccess.Value.Basic
import ClusterAccess.Yaml.Node

/-!
# Values of a document

A node denotes a value. Scalars are read as their type says. In a mapping the keys must be scalars, a key
given twice keeps its place and takes its last value, and the entries of merged mappings come first, so
that the mapping's own entries win. Of several faults, the one of least depth is reported, and of those
the first in the text.

A node inside itself denotes an infinite value. It is followed for as many mappings as a reader looks into;
below them the value is marked wherever it comes again, seen from the last mapping that is looked into.
-/
namespace ClusterAccess.Yaml

/-! ## Scalars -/

namespace Scalar

def truth (s : String) : Except Fault Value :=
  let word := Text.lowerCase s
  match Spelling.truthWords.find? (·.1 == word) with
  | some (_, b) => .ok (.bool b)
  | none => .error (.truth word)

def dropBars (cs : List Char) : List Char := cs.filter (· != '_')

/-- The sign, true for minus, and the rest; a text without characters has none. -/
def signed (cs : List Char) : Except Fault (Bool × List Char) :=
  match cs with
  | [] => .error .emptyNumber
  | c :: rest => .ok (if c == '-' then (true, rest) else if c == '+' then (false, rest) else (false, cs))

def inBase (base : Nat) (cs : List Char) : Except Fault Int :=
  match Numeral.readInt base cs with
  | .ok i => .ok i
  | .error .malformed => .error (.integer base (String.ofList cs))
  | .error (.tooLong digits) => .error (.longInteger digits)

/-- Numbers counted in sixties, the highest first. -/
def sixties (parts : List Int) : Int := parts.foldl (fun n d => n * 60 + d) 0

def integer (s : String) : Except Fault Value := do
  let (negative, cs) ← signed (dropBars s.toList)
  let n ← match cs with
    | [] => .error .emptyNumber
    | ['0'] => .ok 0
    | '0' :: 'b' :: ds => inBase 2 ds
    | '0' :: 'x' :: ds => inBase 16 ds
    | '0' :: _ => inBase 8 cs
    | _ =>
      match Spelling.colonParts cs with
      | (_, []) => inBase 10 cs
      | (first, more) => (first :: more).mapM (inBase 10) |>.map sixties
  return .int (if negative then -n else n)

def toDouble (cs : List Char) : Except Fault Double :=
  match Numeral.readDouble? cs with
  | some x => .ok x
  | none => .error (.double (String.ofList cs))

/-- The sum of doubles, each counting sixty times the one after it. -/
def sixtiesDouble (parts : List Double) : Double :=
  (parts.reverse.foldl (fun (sum, base) d => (sum.add (d.mul (.ofInt base)), base * 60))
    (Double.ofInt 0, (1 : Int))).1

def double (s : String) : Except Fault Value := do
  let (negative, cs) ← signed (Text.lowerCase (String.ofList (dropBars s.toList))).toList
  let sign (x : Double) : Value := .float (if negative then x.neg else x)
  if cs == ".inf".toList then return sign (.infinity false)
  else if cs == ".nan".toList then return .float .nan
  else match Spelling.colonParts cs with
    | (_, []) => return sign (← toDouble cs)
    | (first, more) => return sign (sixtiesDouble (← (first :: more).mapM toDouble))

def binary (s : String) : Except Fault Value :=
  if s.toList.all (·.toNat < 128) then
    match Base64.decodeLenient s.toList with
    | some octets => .ok (.bytes octets)
    | none => malformed
  else malformed

/-- Microseconds from the digits of a fraction of a second; digits after the sixth are dropped. -/
def microseconds (ds : List Char) : Nat :=
  let ds := ds.take 6
  Spelling.numberOf (ds ++ List.replicate (6 - ds.length) '0')

def timestamp (s : String) : Except Fault Value :=
  let cs := s.toList
  let cs := if cs.getLast? = some '\n' then cs.dropLast else cs
  match Spelling.timestamp? cs with
  | none => .error .timestamp
  | some t =>
    let date : Calendar.Date := ⟨t.year, t.month, t.day⟩
    match t.time with
    | none => (date.check.map Value.date).mapError .calendar
    | some (hour, minute, second, fraction) =>
      let offset := t.zone.map fun z => match z with
        | none => 0
        | some (negative, h, m) =>
          let minutes : Int := (h * 60 + m : Nat)
          if negative then -minutes else minutes
      let time : Calendar.DateTime := ⟨date, hour, minute, second, microseconds fraction, offset⟩
      (time.check.map Value.dateTime).mapError .calendar

/-- The value of a scalar of a type; none if no scalar has that type. -/
def value? (tag : Tag) (text : String) : Option (Except Fault Value) :=
  match tag with
  | .null => some (.ok .null)
  | .truth => some (truth text)
  | .integer => some (integer text)
  | .double => some (double text)
  | .binary => some (binary text)
  | .timestamp => some (timestamp text)
  | .text => some (.ok (.str text))
  | _ => none

end Scalar

/-! ## Collections -/

/-- A value, or a fault and the depth at which it was met. -/
abbrev Found (α : Type) := Except (Nat × Fault) α

def Found.at {α : Type} (depth : Nat) (x : Except Fault α) : Found α := x.mapError (depth, ·)

/-- Both, or the fault of lesser depth, the first one if the depths agree. -/
def Found.both {α β γ : Type} (f : α → β → γ) (x : Found α) (y : Found β) : Found γ :=
  match x, y with
  | .ok a, .ok b => .ok (f a b)
  | .error e, .ok _ => .error e
  | .ok _, .error e => .error e
  | .error e, .error e' => .error (if e'.1 < e.1 then e' else e)

def Found.all {α : Type} (xs : List (Found α)) : Found (List α) :=
  xs.foldr (Found.both List.cons) (.ok [])

namespace Node

mutual

def height : Node → Nat
  | .scalar _ _ | .alias _ => 1
  | .sequence _ items => heights items + 1
  | .mapping _ entries => entryHeights entries + 1
  | .knot _ n => n.height + 1

def heights : List Node → Nat
  | [] => 0
  | n :: rest => max n.height (heights rest)

def entryHeights : List (Node × Node) → Nat
  | [] => 0
  | (k, v) :: rest => max (max k.height v.height) (entryHeights rest)

end

def tag : Node → Tag
  | .scalar tag _ => tag
  | .sequence tag _ => tag
  | .mapping tag _ => tag
  | .alias _ => .null
  | .knot _ n => n.tag

def withTag (n : Node) (tag : Tag) : Node :=
  match n with
  | .scalar _ text => .scalar tag text
  | .sequence _ items => .sequence tag items
  | .mapping _ entries => .mapping tag entries
  | .alias name => .alias name
  | .knot number n => .knot number (n.withTag tag)

/-- The nodes that anchors name. -/
abbrev Anchors := List (String × Node)

/-- The node itself, where an alias stands for it. -/
def followed (anchors : Anchors) : Node → Node
  | .alias name => (anchors.lookup name).getD (.alias name)
  | n => n

/-- The number of a knot. -/
def number? : Node → Option Nat
  | .knot number _ => some number
  | _ => none

/-- The node in a knot. -/
def untied : Node → Node
  | .knot _ n => n
  | n => n

/-- The node is one of the knots around it. -/
def comesAgain (n : Node) (around : List Nat) : Bool := n.number?.any around.contains

/-- The entries of a mapping that are no merges. A key spelled as the value indicator is a text. -/
def ownEntries (anchors : Anchors) (entries : List (Node × Node)) : List (Node × Node) :=
  (entries.map fun (k, v) => (k.followed anchors, v)).filterMap fun (k, v) =>
    if k.tag = .merge then none else some (if k.tag = .value then k.withTag .text else k, v)

/-- What the entries of a mapping merge, in their order. -/
def merges (anchors : Anchors) (entries : List (Node × Node)) : List Node :=
  (entries.filter fun (k, _) => (k.followed anchors).tag = .merge).map fun (_, v) => v.followed anchors

/-- The entries of a mapping with those of merged mappings in front. Of several mappings the last one comes
first. A mapping that is merged into itself gives its own entries there. -/
def merged (anchors : Anchors) : (fuel : Nat) → (around : List Nat) → Node → Except Fault (List (Node × Node))
  | 0, _, _ => malformed
  | fuel + 1, around, n =>
    match n.untied with
    | .mapping _ entries => do
      let own := ownEntries anchors entries
      if n.comesAgain around then return own
      let around := n.number?.toList ++ around
      let inherited ← (merges anchors entries).mapM fun m =>
        match m.untied with
        | .sequence _ items => do
          let all ← items.mapM fun item => merged anchors fuel around (item.followed anchors)
          return all.reverse.flatten
        | _ => merged anchors fuel around m
      return inherited.flatten ++ own
    | _ => malformed

mutual

/-- The scalar that a node stands for: itself, or the one under the value indicator in a mapping. -/
def scalar? : Node → Option String
  | .scalar _ text => some text
  | .mapping _ entries => scalarUnder entries
  | .knot _ n => n.scalar?
  | .alias _ | .sequence _ _ => none

def scalarUnder : List (Node × Node) → Option String
  | [] => none
  | (k, v) :: rest => if k.tag = .value then scalar? v else scalarUnder rest

end

/-- The value of a node met at some depth, with so many mappings yet to be looked into, and the knots around
it since the last one that is. -/
def valueAt (anchors : Anchors) (depth asked : Nat) (around : List Nat) : (fuel : Nat) → Node → Found Value
  | 0, _ => Found.at depth malformed
  | fuel + 1, n =>
    let n := n.followed anchors
    if n.comesAgain around then .ok (.again (n.tag = .mapping)) else
    let around := n.number?.toList ++ around
    let merged := n.merged anchors fuel []
    let n := n.untied
    let inner := depth + 1
    let wrong {α : Type} : Found α := Found.at inner malformed
    -- one entry alone in each item
    let pairs : Found (List Value) :=
      match n with
      | .sequence _ items => Found.all (items.map fun item =>
          match (item.followed anchors).untied with
          | .mapping _ [(k, v)] =>
            Found.both Value.pair (valueAt anchors inner asked around fuel k)
              (valueAt anchors inner asked around fuel v)
          | _ => wrong)
      | _ => wrong
    let entries : Found (List (Value × Value)) :=
      match Found.at inner merged with
      | .error e => .error e
      | .ok entries => Found.all (entries.map fun (k, v) =>
          let key := if k.tag.isCollection then wrong else valueAt anchors inner asked around fuel k
          let value := valueAt anchors inner (asked - 1) (if asked = 0 then around else []) fuel v
          Found.both Prod.mk key value)
    match n.tag with
    | .sequence =>
      match n with
      | .sequence _ items => (Found.all (items.map (valueAt anchors inner asked around fuel))).map Value.list
      | _ => wrong
    | .mapping => entries.map fun es => .map (Value.ofPairs es)
    | .set => entries.map fun es => .set (Value.members (es.map (·.1)))
    | .orderedMap | .pairs => pairs.map Value.list
    | tag =>
      match n, n.scalar? with
      | .mapping .timestamp _, some _ => Found.at depth (.error .timestampEntries)
      | _, some text => Found.at depth ((Scalar.value? tag text).getD malformed)
      | _, none => Found.at depth malformed

end Node

/-- The height of the highest of the root and the nodes of the anchors. -/
def Document.height (d : Document) : Nat := Node.heights (d.root :: d.anchors.map (·.2))

/-- The value of a tree for a reader that looks into so many mappings, one inside the other. From one of these
mappings to the next, and among mappings that are merged, an alias leads to a knot at most once: so the fuel
is enough. -/
def Document.value (asked : Nat) (d : Document) : Except Fault Value :=
  let fuel := (asked + 2) * (d.anchors.length + 1) * (d.height + 1)
  (d.root.valueAt d.anchors 0 asked [] fuel).mapError (·.2)

/-- The value of a text, null when it holds no document. -/
def load (asked : Nat) (s : String) : Except Fault Value := do
  match ← readDocument (tokens s) with
  | none => return .null
  | some d => d.value asked

end ClusterAccess.Yaml
