import ClusterAccess.Config.Basic

/-!
# Sameness of configurations

Two configurations are the same when all that they hold is: the fields, the token that discovery found
and the explicit values. The order of entries under names does not count, and suppliers of tokens are told
apart by their identity.
-/
namespace ClusterAccess

/-- The same names, and under each the same. -/
def sameEntries {α : Type} (same : α → α → Bool) (xs ys : List (String × α)) : Bool :=
  xs.length == ys.length && xs.all fun (name, x) =>
    match ys.lookup name with
    | some y => same x y
    | none => false

def sameOption {α : Type} (same : α → α → Bool) : Option α → Option α → Bool
  | none, none => true
  | some x, some y => same x y
  | _, _ => false

def TokenProvider.same (a b : TokenProvider) : Bool := a.identity == b.identity

def FieldKind.same : (k : FieldKind) → k.Value → k.Value → Bool
  | .text, a, b => a == b
  | .maybeText, a, b => a == b
  | .truth, a, b => a == b
  | .integer, a, b => a == b
  | .texts, a, b => a == b
  | .textLists, a, b => sameEntries (· == ·) a b
  | .textMap, a, b => sameEntries (· == ·) a b
  | .keyAlgorithm, a, b => a == b
  | .tlsVersions, a, b => a == b
  | .tokenProvider, a, b => sameOption TokenProvider.same a b
  | .authProvider, a, b => sameOption AuthProvider.same a b
  | .request, a, b => a.same b
  | .contexts, a, b => a == b
  | .currentContext, a, b => a == b
  | .source, a, b => a == b

def Changes.same (c d : Changes) : Bool :=
  Field.all.all fun f => sameOption f.kind.same (c.value? f) (d.value? f)

def Overrides.same (o p : Overrides) : Bool :=
  o.fields.same p.fields && sameOption RequestChanges.same o.request? p.request? &&
    o.autoToken? == p.autoToken?

def Config.same (c d : Config) : Bool :=
  (Field.all.all fun f => f.kind.same (c.value f) (d.value f)) && c.autoToken == d.autoToken &&
    c.explicit.same d.explicit

end ClusterAccess
