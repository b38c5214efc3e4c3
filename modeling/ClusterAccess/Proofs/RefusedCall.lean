import ClusterAccess.Proofs.Explicit
import Mathlib.Data.List.Forall2

/-!
# What calls of a builder leave behind

Whether an argument is accepted does not depend on what the builder holds already. So a call gives a
list of settings that can be told without a builder: those of its arguments up to the first that is
refused. A builder holds, of every field, the last setting that its calls gave. A call that is refused
leaves behind the settings before the refused argument; it leaves no trace if these say nothing new.
-/
namespace ClusterAccess

/-- An argument that is accepted. -/
inductive Setting where
  | field (f : Field) (v : f.Value)
  | request (g : RequestField) (i : Int)

namespace Setting

/-- What an argument under a name sets, or why it is refused. -/
def ofArgument (name : String) (a : Argument) : Except Error Setting :=
  match RequestField.ofName? name with
  | some g => (Builder.accept name a (FieldKind.integer.ofArgument a)).map (.request g)
  | none =>
    match (Field.ofName? name).filter Field.isSettable with
    | some f => (Builder.accept name a (f.kind.ofArgument a)).map (.field f)
    | none => .error (.unknownField name)

/-- The value for a field, if the setting is one of that field. -/
def value? (f : Field) : Setting → Option f.Value
  | .field g v => if h : g = f then some (h ▸ v) else none
  | .request _ _ => none

def requestValue? (g : RequestField) : Setting → Option Int
  | .field _ _ => none
  | .request h i => if g = h then some i else none

/-- The last value for a field. -/
def last? (f : Field) (settings : List Setting) : Option f.Value := (settings.filterMap (value? f)).getLast?

def lastRequest? (g : RequestField) (settings : List Setting) : Option Int :=
  (settings.filterMap (requestValue? g)).getLast?

theorem last?_append (f : Field) (first second : List Setting) :
    last? f (first ++ second) = (last? f second).or (last? f first) := by
  rw [last?, List.filterMap_append, List.getLast?_append]
  rfl

theorem lastRequest?_append (g : RequestField) (first second : List Setting) :
    lastRequest? g (first ++ second) = (lastRequest? g second).or (lastRequest? g first) := by
  rw [lastRequest?, List.filterMap_append, List.getLast?_append]
  rfl

/-- All fields with the last value that they are set to. -/
def lastOfEach (settings : List Setting) : Overrides :=
  let request : RequestChanges := ⟨fun g => lastRequest? g settings⟩
  ⟨⟨fun f => last? f settings⟩, if request.isEmpty then none else some request, none⟩

/-- The settings of arguments in their order, up to the first that is refused. -/
def accepted : Arguments → List Setting
  | [] => []
  | (name, a) :: rest =>
    match ofArgument name a with
    | .ok s => s :: accepted rest
    | .error _ => []

/-- Why the first argument that is refused is refused. -/
def refusal? : Arguments → Option Error
  | [] => none
  | (name, a) :: rest =>
    match ofArgument name a with
    | .ok _ => refusal? rest
    | .error e => some e

/-- Every argument is accepted, as the setting in its place. -/
def Accepts (args : Arguments) (settings : List Setting) : Prop :=
  List.Forall₂ (fun arg s => ofArgument arg.1 arg.2 = .ok s) args settings

end Setting

namespace Builder

/-! ## One argument after the other -/

/-- The builder with one more setting. -/
def put (b : Builder) : Setting → Builder
  | .field f v => { b with fields := b.fields.set f v }
  | .request g i => { b with request := b.request.set g i }

theorem setOne_eq (b : Builder) (name : String) (a : Argument) :
    b.setOne name a = (Setting.ofArgument name a).map b.put := by
  unfold setOne Setting.ofArgument
  cases RequestField.ofName? name with
  | some g => cases accept name a (FieldKind.integer.ofArgument a) <;> rfl
  | none =>
    cases (Field.ofName? name).filter Field.isSettable with
    | none => rfl
    | some f =>
      dsimp only
      cases accept name a (f.kind.ofArgument a) <;> rfl

theorem set_eq (b : Builder) (args : Arguments) :
    b.set args = ((Setting.accepted args).foldl put b, Setting.refusal? args) := by
  induction args generalizing b with
  | nil => rfl
  | cons arg rest ih =>
    obtain ⟨name, a⟩ := arg
    unfold set Setting.accepted Setting.refusal?
    rw [setOne_eq]
    cases Setting.ofArgument name a with
    | error e => rfl
    | ok s => exact ih (b.put s)

/-- What has been set in a builder is in it, and what is not set stays as it was. -/
structure Gains (b : Builder) (settings : List Setting) (d : Builder) : Prop where
  value : ∀ f, d.fields.value? f = (Setting.last? f settings).or (b.fields.value? f)
  request : ∀ g, d.request.value? g = (Setting.lastRequest? g settings).or (b.request.value? g)

theorem gains_put (b : Builder) (s : Setting) : b.Gains [s] (b.put s) := by
  cases s with
  | field f v =>
    refine ⟨fun h => ?_, fun g => rfl⟩
    by_cases hf : f = h
    · subst hf
      simp [put, Setting.last?, Setting.value?]
    · simp [put, Setting.last?, Setting.value?, hf]
  | request g i =>
    refine ⟨fun f => rfl, fun h => ?_⟩
    by_cases hg : h = g <;> simp [put, RequestChanges.set, Setting.lastRequest?, Setting.requestValue?, hg]

theorem Gains.refl (b : Builder) : b.Gains [] b := ⟨fun _ => rfl, fun _ => rfl⟩

theorem Gains.trans {b d e : Builder} {first second : List Setting} (hbd : b.Gains first d)
    (hde : d.Gains second e) : b.Gains (first ++ second) e where
  value f := by rw [hde.value f, hbd.value f, Setting.last?_append, Option.or_assoc]
  request g := by rw [hde.request g, hbd.request g, Setting.lastRequest?_append, Option.or_assoc]

theorem gains_foldl (b : Builder) (settings : List Setting) :
    b.Gains settings (settings.foldl put b) := by
  induction settings generalizing b with
  | nil => exact .refl b
  | cons s rest ih => exact (gains_put b s).trans (ih (b.put s))

/-! ## Calls -/

namespace Call

/-- The arguments of a call in their order, or why it is refused before it sets any. -/
def arguments : Call → Except Error Arguments
  | .context _ | .autoConfigure _ => .ok []
  | .set args => .ok args
  | .setEntries f v => (v.entries.map fun es => [(f.name, .value (.map es))]).mapError .notEntries
  | .setRequest es =>
    (RequestPolicy.ofArguments es).map fun p => RequestField.all.map fun g => (g.name, .value (.int (p.value g)))

/-- The settings that a call gives. -/
def settings (k : Call) : List Setting := (k.arguments.toOption.map Setting.accepted).getD []

/-- Why a call is refused, if it is. -/
def refusal? (k : Call) : Option Error :=
  match k.arguments with
  | .ok args => Setting.refusal? args
  | .error e => some e

/-- How a call ends: why it is refused, if it is, and what it has set until then. -/
inductive Ends (k : Call) : Option Error → List Setting → Prop
  | done {args : Arguments} {settings : List Setting} (given : k.arguments = .ok args)
    (accepted : Setting.Accepts args settings) : Ends k none settings
  | early {e : Error} (fails : k.arguments = .error e) : Ends k (some e) []
  | midway {before rest : Arguments} {name : String} {a : Argument} {settings : List Setting} {e : Error}
    (given : k.arguments = .ok (before ++ (name, a) :: rest))
    (accepted : Setting.Accepts before settings) (refused : Setting.ofArgument name a = .error e) :
    Ends k (some e) settings

end Call

end Builder

namespace Setting

/-- All arguments are accepted, or those before the first that is refused. -/
theorem accepts_accepted (args : Arguments) :
    (refusal? args = none ∧ Accepts args (accepted args)) ∨
      ∃ before name a rest e, args = before ++ (name, a) :: rest ∧ refusal? args = some e ∧
        Accepts before (accepted args) ∧ ofArgument name a = .error e := by
  induction args with
  | nil => exact .inl ⟨rfl, .nil⟩
  | cons arg args ih =>
    obtain ⟨name, a⟩ := arg
    unfold refusal? accepted
    cases h : ofArgument name a with
    | error e => exact .inr ⟨[], name, a, args, e, rfl, rfl, .nil, h⟩
    | ok s =>
      rcases ih with ⟨none, all⟩ | ⟨before, name', a', rest, e, rfl, refused, some, he⟩
      · exact .inl ⟨none, .cons h all⟩
      · exact .inr ⟨(name, a) :: before, name', a', rest, e, rfl, refused, .cons h some, he⟩

end Setting

namespace Builder

theorem Call.ends (k : Call) : k.Ends k.refusal? k.settings := by
  unfold refusal? settings
  cases h : k.arguments with
  | error e => exact .early h
  | ok args =>
    dsimp only
    rcases Setting.accepts_accepted args with ⟨none, all⟩ | ⟨before, name, a, rest, e, rfl, refused, some, he⟩
    · rw [none]
      exact .done h all
    · rw [refused]
      exact .midway h some he

theorem call_eq (b : Builder) (k : Call) :
    b.Gains k.settings (b.call k).1 ∧ (b.call k).2 = k.refusal? := by
  have given : ∀ args, b.Gains (Setting.accepted args) (b.set args).1 ∧
      (b.set args).2 = Setting.refusal? args := by
    intro args
    rw [set_eq]
    exact ⟨gains_foldl b _, rfl⟩
  cases k with
  | context name => exact ⟨⟨fun _ => rfl, fun _ => rfl⟩, rfl⟩
  | autoConfigure enabled => exact ⟨⟨fun _ => rfl, fun _ => rfl⟩, rfl⟩
  | set args => exact given args
  | setEntries f v =>
    simp only [call, Call.settings, Call.refusal?, Call.arguments]
    cases v.entries with
    | error fault => exact ⟨.refl b, rfl⟩
    | ok es => exact given _
  | setRequest es =>
    simp only [call, Call.settings, Call.refusal?, Call.arguments]
    cases RequestPolicy.ofArguments es with
    | error e => exact ⟨.refl b, rfl⟩
    | ok p => exact given _

/-! ## Runs of calls -/

/-- The builder after some calls, refused ones included. -/
def calls (b : Builder) (ks : List Call) : Builder := ks.foldl (fun b k => (b.call k).1) b

theorem gains_calls (b : Builder) (ks : List Call) : b.Gains (ks.flatMap Call.settings) (b.calls ks) := by
  induction ks generalizing b with
  | nil => exact .refl b
  | cons k rest ih => exact (call_eq b k).1.trans (ih (b.call k).1)

/-- The builder holds what the settings say already. -/
structure Holds (b : Builder) (settings : List Setting) : Prop where
  value : ∀ f v, Setting.last? f settings = some v → b.fields.value? f = some v
  request : ∀ g i, Setting.lastRequest? g settings = some i → b.request.value? g = some i

theorem requestValue?_overrides (b : Builder) (g : RequestField) :
    b.overrides.requestValue? g = b.request.value? g := by
  unfold Overrides.requestValue? overrides
  dsimp only
  by_cases h : b.request.isEmpty = true
  · rw [if_pos h, RequestChanges.value?_of_isEmpty h]
    rfl
  · rw [if_neg h]
    rfl

/-- Of what a builder collects nothing is hidden. -/
theorem overrides_eq_iff {b d : Builder} : d.overrides = b.overrides ↔
    (∀ f, d.fields.value? f = b.fields.value? f) ∧ ∀ g, d.request.value? g = b.request.value? g := by
  constructor
  · intro h
    have fields : d.fields = b.fields := congrArg Overrides.fields h
    refine ⟨fun f => by rw [fields], fun g => ?_⟩
    rw [← requestValue?_overrides, ← requestValue?_overrides, h]
  · rintro ⟨fields, request⟩
    have hf : d.fields = b.fields := congrArg Changes.mk (funext fields)
    have hr : d.request = b.request := congrArg RequestChanges.mk (funext request)
    rw [overrides, overrides, hf, hr]

theorem Gains.overrides_eq_iff {b d : Builder} {settings : List Setting} (h : b.Gains settings d) :
    d.overrides = b.overrides ↔ b.Holds settings := by
  rw [Builder.overrides_eq_iff]
  constructor
  · rintro ⟨fields, request⟩
    refine ⟨fun f v hv => ?_, fun g i hi => ?_⟩
    · rw [← fields f, h.value f, hv, Option.some_or]
    · rw [← request g, h.request g, hi, Option.some_or]
  · intro held
    refine ⟨fun f => ?_, fun g => ?_⟩
    · rw [h.value f]
      cases hv : Setting.last? f settings with
      | none => rw [Option.none_or]
      | some v => rw [held.value f v hv, Option.some_or]
    · rw [h.request g]
      cases hi : Setting.lastRequest? g settings with
      | none => rw [Option.none_or]
      | some i => rw [held.request g i hi, Option.some_or]

/-- A new builder holds nothing but what it gains. -/
theorem Gains.overrides_of_start {auto : Bool} {context : Option String} {settings : List Setting}
    {d : Builder} (h : (start auto context).Gains settings d) :
    d.overrides = Setting.lastOfEach settings := by
  have hf : d.fields = ⟨fun f => Setting.last? f settings⟩ :=
    congrArg Changes.mk (funext fun f => (h.value f).trans (Option.or_none ..))
  have hr : d.request = ⟨fun g => Setting.lastRequest? g settings⟩ :=
    congrArg RequestChanges.mk (funext fun g => (h.request g).trans (Option.or_none ..))
  rw [overrides, hf, hr]
  rfl

/-- Calls that give no settings do not count. -/
theorem flatMap_settings_filter {ks : List Call}
    (traceless : ∀ k ∈ ks, k.refusal?.isSome = true → k.settings = []) :
    ks.flatMap Call.settings = (ks.filter fun k => k.refusal?.isNone).flatMap Call.settings := by
  induction ks with
  | nil => rfl
  | cons k rest ih =>
    have tail := ih fun l hl => traceless l (List.mem_cons_of_mem k hl)
    cases h : k.refusal? with
    | none => rw [List.filter_cons_of_pos (by rw [h]; rfl), List.flatMap_cons, List.flatMap_cons, tail]
    | some e =>
      rw [List.filter_cons_of_neg (by simp [h]), List.flatMap_cons,
        traceless k List.mem_cons_self (by rw [h]; rfl), List.nil_append, tail]

/-- A call answers and sets the same whatever the builder holds. It sets all its arguments, or those before
the first that is refused; so a refused call leaves no trace exactly if these say nothing new. After any
calls the explicit values are, of every field, the last that was set. They are those of the calls that
were not refused alone, if no other call had an argument accepted. -/
theorem overrides_of_calls (auto : Bool) (context : Option String) (ks : List Call) :
    (∀ (b : Builder) (k : Call), (b.call k).2 = k.refusal? ∧ k.Ends k.refusal? k.settings ∧
      ((b.call k).1.overrides = b.overrides ↔ b.Holds k.settings)) ∧
    ((start auto context).calls ks).overrides = Setting.lastOfEach (ks.flatMap Call.settings) ∧
    ((∀ k ∈ ks, k.refusal?.isSome = true → k.settings = []) → ((start auto context).calls ks).overrides =
      Setting.lastOfEach ((ks.filter fun k => k.refusal?.isNone).flatMap Call.settings)) := by
  have all := (gains_calls (start auto context) ks).overrides_of_start
  refine ⟨fun b k => ?_, all, fun traceless => ?_⟩
  · obtain ⟨gains, answer⟩ := call_eq b k
    exact ⟨answer, k.ends, gains.overrides_eq_iff⟩
  · rw [all, flatMap_settings_filter traceless]

/-- A number is refused as the version, and then a namespace is set. -/
def sampleCalls : List Call :=
  [.setField .apiVersion (.value (.int 5)), .setField .namespaceName (.value (.str "mine"))]

/-- The refused call does not count: only the namespace is set. -/
theorem overrides_of_calls_sample : (∀ k ∈ sampleCalls, k.refusal?.isSome = true → k.settings = []) ∧
    ((start true none).calls sampleCalls).overrides =
      Setting.lastOfEach ((sampleCalls.filter fun k => k.refusal?.isNone).flatMap Call.settings) ∧
    ((start true none).calls sampleCalls).overrides.fields.fields = [.namespaceName] := by
  have traceless : ∀ k ∈ sampleCalls, k.refusal?.isSome = true → k.settings = [] := by
    intro k hk refused
    rcases List.mem_cons.mp hk with rfl | hk
    · exact List.isEmpty_iff.mp (by decide +kernel)
    · rw [List.mem_singleton.mp hk] at refused
      exact absurd refused (by decide +kernel)
  exact ⟨traceless, (overrides_of_calls true none sampleCalls).2.2 traceless, by decide +kernel⟩

/-- The number for each host is refused, and the total number is set. -/
theorem refused_call_leaves_a_trace :
    ((start true none).call (.concurrency (.value (.int 10)) (.value (.str "many")))).2 =
        some (.invalidOption "max_concurrent_requests_per_host" "many"
          IssueKind.unclearInteger.expectation) ∧
      (start true none).overrides.fields.fields = [] ∧
      ((start true none).call (.concurrency (.value (.int 10)) (.value (.str "many")))).1.overrides.fields.value?
        .maxConcurrentRequests = some 10 := by
  refine ⟨?_, ?_, ?_⟩ <;> decide +kernel

end Builder

end ClusterAccess
