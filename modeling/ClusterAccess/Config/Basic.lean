import ClusterAccess.Config.Field

/-!
# Configurations

A configuration gives every field a value. Beside the fields it carries the bearer token that discovery
found, which may be replaced at any time, and the values that the caller set explicitly, so that they can
be set again when the configuration is made anew. Stages describe what they find as `Changes`;
`Config.evolve` lays them over a configuration and leaves all other fields as they are.
-/
namespace ClusterAccess

/-- Values for some of the fields. -/
structure Changes where
  value? : (f : Field) → Option f.Value

/-- Values that the caller sets: of fields, of settings of the request policy, and the token in place of
the one that discovery finds. No settings at all are told apart from settings that are none. -/
structure Overrides where
  fields : Changes
  request? : Option RequestChanges
  autoToken? : Option (Option String)

structure Config where
  value : (f : Field) → f.Value
  autoToken : Option String
  explicit : Overrides

namespace Changes

def none : Changes := ⟨fun _ => .none⟩

def set (c : Changes) (f : Field) (v : f.Value) : Changes :=
  ⟨fun g => if h : f = g then some (h ▸ v) else c.value? g⟩

def isEmpty (c : Changes) : Bool := Field.all.all fun f => (c.value? f).isNone

/-- The fields that get a value. -/
def fields (c : Changes) : List Field := Field.all.filter fun f => (c.value? f).isSome

@[simp] theorem value?_none (f : Field) : none.value? f = .none := rfl

@[simp] theorem value?_set_self (c : Changes) (f : Field) (v : f.Value) :
    (c.set f v).value? f = some v := by simp [set]

@[simp] theorem value?_set_of_ne (c : Changes) {f g : Field} (h : f ≠ g) (v : f.Value) :
    (c.set f v).value? g = c.value? g := by simp [set, h]

end Changes

namespace Overrides

def none : Overrides := ⟨.none, .none, .none⟩

def isEmpty (o : Overrides) : Bool := o.fields.isEmpty && o.request?.isNone && o.autoToken?.isNone

end Overrides

namespace Config

def default : Config := ⟨Field.default, none, .none⟩

def evolve (c : Config) (changes : Changes) : Config :=
  { c with value := fun f => (changes.value? f).getD (c.value f) }

def set (c : Config) (f : Field) (v : f.Value) : Config := c.evolve (Changes.none.set f v)

def withAutoToken (c : Config) (token : Option String) : Config := { c with autoToken := token }

def withExplicit (c : Config) (o : Overrides) : Config := { c with explicit := o }

@[simp] theorem value_evolve (c : Config) (changes : Changes) (f : Field) :
    (c.evolve changes).value f = (changes.value? f).getD (c.value f) := rfl

@[simp] theorem value_set_self (c : Config) (f : Field) (v : f.Value) : (c.set f v).value f = v := by
  simp [set]

@[simp] theorem value_set_of_ne (c : Config) {f g : Field} (h : f ≠ g) (v : f.Value) :
    (c.set f v).value g = c.value g := by simp [set, h]

theorem ext {c d : Config} (values : ∀ f, c.value f = d.value f) (token : c.autoToken = d.autoToken)
    (explicit : c.explicit = d.explicit) : c = d := by
  cases c; cases d
  simp only [Config.mk.injEq]
  exact ⟨funext values, token, explicit⟩

/-! ## Single fields -/

def masterUrl (c : Config) : String := c.value .masterUrl
def trustCerts (c : Config) : Bool := c.value .trustCerts
def caCertFile (c : Config) : Option String := c.value .caCertFile
def caCertData (c : Config) : Option String := c.value .caCertData
def clientCertFile (c : Config) : Option String := c.value .clientCertFile
def clientKeyFile (c : Config) : Option String := c.value .clientKeyFile
def clientKeyData (c : Config) : Option String := c.value .clientKeyData
def oauthToken (c : Config) : Option String := c.value .oauthToken
def tokenProvider (c : Config) : Option TokenProvider := c.value .tokenProvider
def authProvider (c : Config) : Option AuthProvider := c.value .authProvider
def httpProxy (c : Config) : Option String := c.value .httpProxy
def httpsProxy (c : Config) : Option String := c.value .httpsProxy
def request (c : Config) : RequestPolicy := c.value .request
def contexts (c : Config) : List (Named Context) := c.value .contexts
def currentContext (c : Config) : Option (Named Context) := c.value .currentContext
def autoConfigured (c : Config) : Bool := c.value .autoConfigured
def source (c : Config) : Source := c.value .source

def currentContextName (c : Config) : Option String := c.currentContext.map (·.name)

/-- The kubeconfig file that the current context was read from. -/
def file (c : Config) : Option Path := c.currentContext.bind (·.source)

end Config

/-- A text that is there and not empty. -/
def filled (s : Option String) : Option String := s.filter (· ≠ "")

theorem filled_eq_some_iff {s : Option String} {t : String} : filled s = some t ↔ s = some t ∧ t ≠ "" := by
  rw [filled, Option.filter_eq_some_iff, decide_eq_true_iff]

theorem filled_eq_none_iff {s : Option String} : filled s = none ↔ s.getD "" = "" := by
  cases s with
  | none => simp [filled]
  | some s => by_cases h : s = "" <;> simp [filled, h]

theorem filled_of_ne {t : String} (h : t ≠ "") : filled (some t) = some t := filled_eq_some_iff.mpr ⟨rfl, h⟩

namespace Config

/-- The token to send: the explicit one, else what the provider gives, else the one discovered. -/
def bearerToken (c : Config) : Option String :=
  (filled c.oauthToken).or ((filled (c.tokenProvider.bind (·.token))).or c.autoToken)

end Config

end ClusterAccess
