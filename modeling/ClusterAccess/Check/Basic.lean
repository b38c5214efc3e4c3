import ClusterAccess.Text.UpperCase

/-!
# Checked readings

Reading a shape out of a value either gives a result, or the list of all issues found, each with the
place where it was found. One thing stops the reading at once: asking a value for entries when it is
of a kind that has none. Combining two readings keeps the issues of both, in order; a stop wins over
any issue, the first stop over the second.
-/
namespace ClusterAccess

/-- One step towards a part of a value. -/
inductive Step where
  | key (name : String)
  | index (i : Int)
  deriving DecidableEq, Repr

/-- What is wrong with a part. -/
inductive IssueKind where
  | missing
  | notText
  | undecodableText
  | notTruth
  | unclearTruth
  | notInteger
  | unclearInteger
  | fractional
  | integerTooLong
  | notFinite
  | notList
  | notMapping
  | notRecord (record : String)
  | notAmong (choices : List String)
  | notInstance (record : String)
  | notPath
  | unknownKey
  | frozen
  deriving DecidableEq, Repr

structure Issue where
  place : List Step
  kind : IssueKind
  deriving DecidableEq, Repr

/-- The identifier of an issue's kind. -/
def IssueKind.code : IssueKind → String
  | .missing => "missing"
  | .notText => "string_type"
  | .undecodableText => "string_unicode"
  | .notTruth => "bool_type"
  | .unclearTruth => "bool_parsing"
  | .notInteger => "int_type"
  | .unclearInteger => "int_parsing"
  | .fractional => "int_from_float"
  | .integerTooLong => "int_parsing_size"
  | .notFinite => "finite_number"
  | .notList => "list_type"
  | .notMapping => "dict_type"
  | .notRecord _ => "model_type"
  | .notAmong _ => "enum"
  | .notInstance _ => "is_instance_of"
  | .notPath => "path_type"
  | .unknownKey => "extra_forbidden"
  | .frozen => "frozen_instance"

/-- Quoted choices, the last two joined by "or". -/
def choiceList : List String → String
  | [] => ""
  | [a] => s!"'{a}'"
  | [a, b] => s!"'{a}' or '{b}'"
  | a :: rest => s!"'{a}', {choiceList rest}"

/-- What was expected instead, in lower case. -/
def IssueKind.expectation : IssueKind → String
  | .missing => "field required"
  | .notText => "input should be a valid string"
  | .undecodableText => "input should be a valid string, unable to parse raw data as a unicode string"
  | .notTruth => "input should be a valid boolean"
  | .unclearTruth => "input should be a valid boolean, unable to interpret input"
  | .notInteger => "input should be a valid integer"
  | .unclearInteger => "input should be a valid integer, unable to parse string as an integer"
  | .fractional => "input should be a valid integer, got a number with a fractional part"
  | .integerTooLong => "unable to parse input string as an integer, exceeded maximum size"
  | .notFinite => "input should be a finite number"
  | .notList => "input should be a valid list"
  | .notMapping => "input should be a valid dictionary"
  | .notRecord record => s!"input should be a valid dictionary or instance of {Text.asciiLower record}"
  | .notAmong choices => s!"input should be {Text.asciiLower (choiceList choices)}"
  | .notInstance record => s!"input should be an instance of {Text.asciiLower record}"
  | .notPath => "input is not a valid path"
  | .unknownKey => "extra inputs are not permitted"
  | .frozen => "instance is frozen"

inductive Checked (α : Type) where
  | ok (a : α)
  | faults (first : Issue) (rest : List Issue)
  /-- A value of this kind was asked for its entries. -/
  | stop (kind : String)
  deriving Repr, DecidableEq

namespace Checked

variable {α β : Type}

def fault (kind : IssueKind) : Checked α := .faults ⟨[], kind⟩ []

def map (f : α → β) : Checked α → Checked β
  | .ok a => .ok (f a)
  | .faults i is => .faults i is
  | .stop kind => .stop kind

/-- Both readings, the issues of both. -/
def both (x : Checked (α → β)) (y : Checked α) : Checked β :=
  match x, y with
  | .stop kind, _ => .stop kind
  | _, .stop kind => .stop kind
  | .ok f, .ok a => .ok (f a)
  | .ok _, .faults i is => .faults i is
  | .faults i is, .ok _ => .faults i is
  | .faults i is, .faults j js => .faults i (is ++ j :: js)

instance : Functor Checked where
  map := map

instance : Applicative Checked where
  pure := .ok
  seq x y := both x (y ())

/-- The same reading, of a part that `step` leads to. -/
def under (step : Step) : Checked α → Checked α
  | .ok a => .ok a
  | .faults i is =>
    .faults { i with place := step :: i.place } (is.map fun i => { i with place := step :: i.place })
  | .stop kind => .stop kind

/-- Readings of parts, one after the other. -/
def all : List (Checked α) → Checked (List α)
  | [] => .ok []
  | x :: rest => both (map List.cons x) (all rest)

/-- The issues found, none when the reading succeeds. -/
def issues : Checked α → List Issue
  | .faults i is => i :: is
  | _ => []

end Checked

end ClusterAccess
