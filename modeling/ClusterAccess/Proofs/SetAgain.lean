import ClusterAccess.Proofs.StoredValue

/-!
# Setting what a builder stores

All that a builder stores may be set again: in the same builder nothing changes, and a new one that is given
all of it comes to the same explicit values. The settings of requests may also be given as one policy. That
is accepted when they are accepted one by one and no other name is among them, and then the policy sets them
to the same; what it leaves out it sets to the default.
-/
namespace ClusterAccess

/-! ## The policy of requests as a whole -/

/-- Values under names, as the entries of a mapping. -/
def Entries.ofNamed (values : List (String × Value)) : Entries := values.map fun e => (.str e.1, e.2)

def Arguments.ofNamed (values : List (String × Value)) : Arguments := values.map fun e => (e.1, .value e.2)

theorem Shape.lookText_cons (name key : String) (v : Value) (es : Entries) :
    lookText name ((.str key, v) :: es) = if key = name then some v else lookText name es := by
  by_cases here : key = name <;> simp [lookText, isText, here]

/-- Of different names, each is found with its value. -/
theorem Shape.lookText_named {values : List (String × Value)} (distinct : (values.map Prod.fst).Nodup)
    {name : String} {v : Value} :
    lookText name (.ofNamed values) = some v ↔ (name, v) ∈ values := by
  induction values with
  | nil => simp [lookText, Entries.ofNamed]
  | cons e rest ih =>
    obtain ⟨absent, distinct⟩ := List.nodup_cons.mp distinct
    rw [Entries.ofNamed, List.map_cons, lookText_cons, ← Entries.ofNamed]
    by_cases here : e.1 = name
    · have later : (name, v) ∉ rest := fun listed => absent (List.mem_map.mpr ⟨(name, v), listed, here.symm⟩)
      simp [here, later, Prod.ext_iff, eq_comm]
    · simp [here, ih distinct, Prod.ext_iff, Ne.symm here]

/-- No key is a stranger. -/
theorem Shape.isOk_onlyKnown {isKnown : String → Bool} {keys : List Value} :
    (∀ x ∈ onlyKnown isKnown keys, ∃ u, x = .ok u) ↔
      ∀ key ∈ keys, ∃ name, key = .str name ∧ isKnown name = true := by
  rw [onlyKnown, List.forall_mem_filterMap]
  refine forall₂_congr fun key _ => ?_
  have stranger : ¬ ∃ u : Unit, (Checked.fault .unknownKey).under (stepTo key) = .ok u := nofun
  cases key with
  | str s => by_cases known : isKnown s = true <;> simp [known, stranger]
  | _ => simpa using stranger

namespace RequestChanges

open Checked

theorem reading_eq_ok {es : Entries} {g : RequestField} {i? : Option Int} :
    reading es g = .ok i? ↔ (Shape.lookText g.name es = Option.none ∧ i? = Option.none) ∨
      ∃ v i, Shape.lookText g.name es = some v ∧ Shape.integer v = .ok i ∧ i? = some i := by
  have find : Shape.Key.find? (Shape.plain g.name) es = (Shape.lookText g.name es).map (g.name, ·) := by
    rw [Shape.Key.find?]
    exact Option.or_self
  rw [reading, Shape.field_eq_ok, Shape.valueAt_map, find]
  cases Shape.lookText g.name es with
  | none => simp [eq_comm]
  | some v => cases h : Shape.integer v <;> simp [h, Checked.map, eq_comm]

theorem reading_of_ofEntries {es : Entries} {c : RequestChanges} (h : ofEntries es = .ok c) (g : RequestField) :
    reading es g = .ok (c.value? g) := by
  obtain ⟨units, read, rfl⟩ := functor_map_eq_ok.mp h
  have listed : (reading es g).map (fun _ => ()) ∈ RequestField.all.map fun g => (reading es g).map fun _ => () :=
    List.mem_map.mpr ⟨g, RequestField.mem_all g, rfl⟩
  obtain ⟨i?, value⟩ := Checked.isOk_map.mp (isOk_all.mp ⟨units, read⟩ _ (List.mem_append_left _ listed))
  dsimp only
  rw [value]

/-- Entries are read when what stands under each known name is, and all names are known. -/
theorem isOk_ofEntries {es : Entries} : (∃ c, ofEntries es = .ok c) ↔
    (∀ g, ∃ i?, reading es g = .ok i?) ∧ ∀ e ∈ es, ∃ g : RequestField, e.1 = .str g.name := by
  have readings : (∀ x ∈ RequestField.all.map fun g => (reading es g).map fun _ => (), ∃ u, x = .ok u) ↔
      ∀ g, ∃ i?, reading es g = .ok i? := by
    rw [List.forall_mem_map]
    exact ⟨fun each g => Checked.isOk_map.mp (each g (RequestField.mem_all g)),
      fun each g _ => Checked.isOk_map.mpr (each g)⟩
  have known : (∀ key ∈ es.map (·.1), ∃ name, key = .str name ∧ (RequestField.ofName? name).isSome = true) ↔
      ∀ e ∈ es, ∃ g : RequestField, e.1 = .str g.name := by
    rw [List.forall_mem_map]
    refine forall₂_congr fun e _ => ⟨?_, ?_⟩
    · rintro ⟨name, key, there⟩
      obtain ⟨g, found⟩ := Option.isSome_iff_exists.mp there
      exact ⟨g, by rw [key, RequestField.name_of_ofName? found]⟩
    · rintro ⟨g, key⟩
      exact ⟨g.name, key, by rw [RequestField.ofName?_name]; rfl⟩
  rw [← readings, ← known, ← Shape.isOk_onlyKnown, ← List.forall_mem_append, ← isOk_all]
  exact Checked.isOk_map

end RequestChanges

namespace Builder

/-! ## What a builder stores -/

/-- All that is set, one setting after the other. -/
def stored (b : Builder) : List Setting :=
  Field.all.filterMap (fun f => (b.fields.value? f).map (.field f)) ++
    RequestField.all.filterMap fun g => (b.request.value? g).map (.request g)

theorem mem_stored_field {b : Builder} {f : Field} {v : f.Value} :
    .field f v ∈ b.stored ↔ b.fields.value? f = some v := by
  rw [stored, List.mem_append, List.mem_filterMap, List.mem_filterMap]
  constructor
  · rintro (⟨g, -, held⟩ | ⟨g, -, held⟩)
    · obtain ⟨w, there, same⟩ := Option.map_eq_some_iff.mp held
      cases same
      exact there
    · obtain ⟨i, -, same⟩ := Option.map_eq_some_iff.mp held
      cases same
  · intro held
    exact .inl ⟨f, Field.mem_all f, by rw [held]; rfl⟩

theorem mem_stored_request {b : Builder} {g : RequestField} {i : Int} :
    .request g i ∈ b.stored ↔ b.request.value? g = some i := by
  rw [stored, List.mem_append, List.mem_filterMap, List.mem_filterMap]
  constructor
  · rintro (⟨f, -, held⟩ | ⟨h, -, held⟩)
    · obtain ⟨v, -, same⟩ := Option.map_eq_some_iff.mp held
      cases same
    · obtain ⟨j, there, same⟩ := Option.map_eq_some_iff.mp held
      cases same
      exact there
  · intro held
    exact .inr ⟨g, RequestField.mem_all g, by rw [held]; rfl⟩

theorem mem_stored_put (b : Builder) (s : Setting) : s ∈ (b.put s).stored := by
  cases s with
  | field f v => exact mem_stored_field.mpr (Changes.value?_set_self b.fields f v)
  | request g i => exact mem_stored_request.mpr (by simp [put, RequestChanges.set])

theorem eq_or_mem_of_mem_stored_put {b : Builder} {s t : Setting} (h : t ∈ (b.put s).stored) :
    t = s ∨ t ∈ b.stored := by
  cases t with
  | field f w =>
    have held := mem_stored_field.mp h
    cases s with
    | request g i => exact .inr (mem_stored_field.mpr held)
    | field g v =>
      by_cases same : g = f
      · subst same
        have there : (b.fields.set g v).value? g = some v := Changes.value?_set_self b.fields g v
        cases there.symm.trans held
        exact .inl rfl
      · have kept : (b.fields.set g v).value? f = b.fields.value? f := Changes.value?_set_of_ne b.fields same v
        exact .inr (mem_stored_field.mpr (kept ▸ held))
  | request f j =>
    have held := mem_stored_request.mp h
    cases s with
    | field g v => exact .inr (mem_stored_request.mpr held)
    | request g i =>
      by_cases same : f = g
      · subst same
        have there : (b.request.set f i).value? f = some i := by simp [RequestChanges.set]
        cases there.symm.trans held
        exact .inl rfl
      · have kept : (b.request.set g i).value? f = b.request.value? f := by simp [RequestChanges.set, same]
        exact .inr (mem_stored_request.mpr (kept ▸ held))

/-- Nothing new is set. -/
theorem put_put (b : Builder) (s : Setting) : (b.put s).put s = b.put s := by
  cases s with
  | field f v =>
    have same : (b.fields.set f v).set f v = b.fields.set f v := by
      refine congrArg Changes.mk (funext fun g => ?_)
      by_cases here : f = g <;> simp [Changes.set, here]
    simp only [put, same]
  | request g i =>
    have same : (b.request.set g i).set g i = b.request.set g i := by
      refine congrArg RequestChanges.mk (funext fun h => ?_)
      by_cases here : h = g <;> simp [RequestChanges.set, here]
    simp only [put, same]

/-! ## Giving it again -/

/-- All that the builder stores sets itself when it is given. -/
def IsSettled (b : Builder) : Prop := ∀ s ∈ b.stored, s.IsSettled

theorem IsSettled.put {b : Builder} (hb : b.IsSettled) {s : Setting} (hs : s.IsSettled) :
    (b.put s).IsSettled := by
  intro t stored
  rcases eq_or_mem_of_mem_stored_put stored with rfl | before
  · exact hs
  · exact hb t before

theorem IsSettled.set {b : Builder} (hb : b.IsSettled) (args : Arguments) : (b.set args).1.IsSettled := by
  induction args generalizing b with
  | nil => exact hb
  | cons arg rest ih =>
    obtain ⟨name, a⟩ := arg
    unfold Builder.set
    rw [setOne_eq]
    cases h : Setting.ofArgument name a with
    | error e => exact hb
    | ok s => exact ih (hb.put (Setting.settled_of_ofArgument h).2)

theorem IsSettled.call {b : Builder} (hb : b.IsSettled) (k : Call) : (b.call k).1.IsSettled := by
  cases k with
  | context name => exact hb
  | autoConfigure enabled => exact hb
  | set args => exact hb.set args
  | setEntries f v =>
    simp only [Builder.call]
    cases v.entries with
    | error fault => exact hb
    | ok es => exact hb.set _
  | setRequest es =>
    simp only [Builder.call]
    cases RequestPolicy.ofArguments es with
    | error e => exact hb
    | ok p => exact hb.set _

theorem Made.isSettled {b : Builder} (made : b.Made) : b.IsSettled := by
  induction made with
  | start auto context =>
    intro s stored
    cases s with
    | field f v => cases mem_stored_field.mp stored
    | request g i => cases mem_stored_request.mp stored
  | call _ k ih => exact ih.call k

theorem set_given {settings : List Setting} (settled : ∀ s ∈ settings, s.IsSettled) (b : Builder) :
    b.set (settings.map Setting.given) = (settings.foldl put b, none) := by
  induction settings generalizing b with
  | nil => rfl
  | cons s rest ih =>
    have first : Setting.ofArgument s.name s.argument = .ok s := settled s List.mem_cons_self
    have others := ih (fun t later => settled t (List.mem_cons_of_mem s later)) (b.put s)
    rw [List.map_cons, Setting.given, Builder.set, setOne_eq, first]
    exact others

/-- A new builder that is given all that another stores has its explicit values. -/
theorem overrides_of_stored {b : Builder} {order : List Setting} (all : order.Perm b.stored) (auto : Bool)
    (context : Option String) : (order.foldl put (start auto context)).overrides = b.overrides := by
  have gains := gains_foldl (start auto context) order
  refine overrides_eq_iff.mpr ⟨fun f => ?_, fun g => ?_⟩
  · have last : Setting.last? f order = b.fields.value? f :=
      Setting.last?_eq fun v => all.mem_iff.trans mem_stored_field
    rw [gains.value f, last]
    exact Option.or_none
  · have last : Setting.lastRequest? g order = b.request.value? g :=
      Setting.lastRequest?_eq fun i => all.mem_iff.trans mem_stored_request
    rw [gains.request g, last]
    exact Option.or_none

/-! ## A policy of requests and its settings -/

theorem call_setRequest {es : Entries} {c : RequestChanges} (read : RequestChanges.ofEntries es = .ok c)
    (b : Builder) : (b.call (.setRequest es)).2 = none ∧ ∀ g i, c.value? g = some i →
      (b.call (.setRequest es)).1.request.value? g = some i := by
  have policy : RequestPolicy.ofArguments es = .ok (RequestPolicy.default.change c) := by
    rw [RequestPolicy.ofArguments, RequestPolicy.ofEntries, read]
    rfl
  let settings := RequestField.all.map fun g => Setting.request g ((RequestPolicy.default.change c).value g)
  have settled : ∀ s ∈ settings, s.IsSettled := by
    intro s listed
    obtain ⟨g, -, rfl⟩ := List.mem_map.mp listed
    exact Setting.ofArgument_eq_request.mpr ⟨rfl, rfl⟩
  have sets : b.call (.setRequest es) = (settings.foldl put b, none) := by
    rw [← set_given settled b, List.map_map, Builder.call, policy]
    rfl
  refine ⟨by rw [sets], fun g i given => ?_⟩
  have last : Setting.lastRequest? g settings = some i := by
    refine Setting.lastRequest?_eq fun j => ?_
    simp [settings, RequestField.mem_all, given]
  rw [sets, (gains_foldl b settings).request g, last, Option.some_or]

theorem ofEntries_of_setRequest {es : Entries} {b : Builder} (accepted : (b.call (.setRequest es)).2 = none) :
    ∃ c, RequestChanges.ofEntries es = .ok c := by
  cases read : RequestChanges.ofEntries es with
  | ok c => exact ⟨c, rfl⟩
  | _ => simp [Builder.call, RequestPolicy.ofArguments, RequestPolicy.ofEntries, read, Checked.whole,
      Checked.map] at accepted

section Named

variable {values : List (String × Value)}

/-- What a policy says of a setting is the integer that is given under its name. -/
theorem integer_of_ofEntries (distinct : (values.map Prod.fst).Nodup) {c : RequestChanges}
    (read : RequestChanges.ofEntries (.ofNamed values) = .ok c) {g : RequestField} {v : Value}
    (given : (g.name, v) ∈ values) : ∃ i, Shape.integer v = .ok i ∧ c.value? g = some i := by
  have found := (Shape.lookText_named distinct).mpr given
  rcases RequestChanges.reading_eq_ok.mp (RequestChanges.reading_of_ofEntries read g) with
    ⟨missing, -⟩ | ⟨w, i, there, integer, value⟩
  · rw [found] at missing
    cases missing
  · cases found.symm.trans there
    exact ⟨i, integer, value⟩

theorem named_of_ofEntries {c : RequestChanges} (read : RequestChanges.ofEntries (.ofNamed values) = .ok c) :
    ∀ e ∈ values, ∃ g : RequestField, g.name = e.1 := by
  intro e given
  obtain ⟨g, named⟩ := (RequestChanges.isOk_ofEntries.mp ⟨c, read⟩).2 (.str e.1, e.2)
    (List.mem_map.mpr ⟨e, given, rfl⟩)
  exact ⟨g, (Value.str.inj named).symm⟩

theorem refusal?_of_ofEntries (distinct : (values.map Prod.fst).Nodup) {c : RequestChanges}
    (read : RequestChanges.ofEntries (.ofNamed values) = .ok c) :
    Setting.refusal? (.ofNamed values) = none := by
  rw [Setting.refusal?_eq_none_iff]
  intro arg given
  obtain ⟨e, listed, rfl⟩ := List.mem_map.mp given
  obtain ⟨g, named⟩ := named_of_ofEntries read e listed
  obtain ⟨i, integer, -⟩ := integer_of_ofEntries distinct read (g := g) (v := e.2) (named ▸ listed)
  exact ⟨.request g i, Setting.ofArgument_eq_request.mpr ⟨named, integer⟩⟩

theorem isOk_of_refusal? (distinct : (values.map Prod.fst).Nodup)
    (named : ∀ e ∈ values, ∃ g : RequestField, g.name = e.1)
    (accepted : Setting.refusal? (.ofNamed values) = none) :
    ∃ c, RequestChanges.ofEntries (.ofNamed values) = .ok c := by
  rw [RequestChanges.isOk_ofEntries]
  constructor
  · intro g
    cases found : Shape.lookText g.name (.ofNamed values) with
    | none => exact ⟨none, RequestChanges.reading_eq_ok.mpr (.inl ⟨found, rfl⟩)⟩
    | some v =>
      have given := (Shape.lookText_named distinct).mp found
      obtain ⟨s, sets⟩ := Setting.refusal?_eq_none_iff.mp accepted (g.name, .value v)
        (List.mem_map.mpr ⟨(g.name, v), given, rfl⟩)
      obtain ⟨i, integer, -⟩ := Setting.exists_of_ofArgument_request sets
      exact ⟨some i, RequestChanges.reading_eq_ok.mpr (.inr ⟨v, i, found, integer, rfl⟩)⟩
  · intro e listed
    obtain ⟨e, given, rfl⟩ := List.mem_map.mp listed
    obtain ⟨g, same⟩ := named e given
    exact ⟨g, by rw [same]⟩

theorem requestValue?_set (distinct : (values.map Prod.fst).Nodup)
    (accepted : Setting.refusal? (.ofNamed values) = none) {g : RequestField} {v : Value} {i : Int}
    (given : (g.name, v) ∈ values) (integer : Shape.integer v = .ok i) (b : Builder) :
    (b.set (.ofNamed values)).1.request.value? g = some i := by
  have last : Setting.lastRequest? g (Setting.accepted (.ofNamed values)) = some i := by
    refine Setting.lastRequest?_eq fun j => ?_
    rw [Setting.mem_accepted accepted]
    constructor
    · rintro ⟨arg, listed, sets⟩
      obtain ⟨e, there, rfl⟩ := List.mem_map.mp listed
      obtain ⟨named, read⟩ := Setting.ofArgument_eq_request.mp sets
      have same : e = (g.name, v) := List.inj_on_of_nodup_map distinct there given named.symm
      subst same
      cases integer.symm.trans read
      rfl
    · rintro ⟨⟩
      exact ⟨(g.name, .value v), List.mem_map.mpr ⟨(g.name, v), given, rfl⟩,
        Setting.ofArgument_eq_request.mpr ⟨rfl, integer⟩⟩
  rw [set_eq, (gains_foldl b _).request g, last, Option.some_or]

end Named

theorem set_again {b d : Builder} {name : String} {a : Argument} (accepted : b.set [(name, a)] = (d, none)) :
    ∃ s ∈ d.stored, s.name = name ∧ d = b.put s ∧ ∀ e : Builder, e.set [s.given] = (e.put s, none) := by
  rw [set, setOne_eq] at accepted
  cases sets : Setting.ofArgument name a with
  | error e => simp [sets, Except.map] at accepted
  | ok s =>
    obtain ⟨named, settled⟩ := Setting.settled_of_ofArgument sets
    have made : d = b.put s := by
      rw [sets] at accepted
      exact (Prod.mk.inj accepted).1.symm
    refine ⟨s, made ▸ mem_stored_put b s, named, made, fun e => ?_⟩
    have again : ∀ t ∈ [s], t.IsSettled := fun t listed => List.mem_singleton.mp listed ▸ settled
    exact set_given again e

/-- Setting is a projection. What an accepted argument sets is accepted in its turn by any builder, and is
set as it is; the builder that holds it already stays as it was. All that a builder stores after any calls,
given to a new one in any order, is accepted and makes the same explicit values. Values under distinct names
are accepted as one policy of requests exactly if all the names are of settings of requests and the values
are accepted one by one, and then both ways set what is given to the same. -/
theorem set_stored :
    (∀ (b d : Builder) (name : String) (a : Argument), b.set [(name, a)] = (d, none) →
      ∃ s ∈ d.stored, s.name = name ∧ d = b.put s ∧ d.set [s.given] = (d, none) ∧
        ∀ e : Builder, e.set [s.given] = (e.put s, none)) ∧
    (∀ (b : Builder) (order : List Setting), b.Made → order.Perm b.stored →
      ∀ (auto : Bool) (context : Option String), ∃ d : Builder,
        (start auto context).set (order.map Setting.given) = (d, none) ∧ d.overrides = b.overrides) ∧
    ∀ (b : Builder) (values : List (String × Value)), (values.map Prod.fst).Nodup →
      ((b.call (.setRequest (.ofNamed values))).2 = none ↔
        (∀ e ∈ values, ∃ g : RequestField, g.name = e.1) ∧ (b.set (.ofNamed values)).2 = none) ∧
      ((b.call (.setRequest (.ofNamed values))).2 = none → ∀ (g : RequestField) (v : Value),
        (g.name, v) ∈ values → ∃ i : Int,
          (b.call (.setRequest (.ofNamed values))).1.request.value? g = some i ∧
          (b.set (.ofNamed values)).1.request.value? g = some i) := by
  refine ⟨fun b d name a accepted => ?_, fun b order made all auto context => ?_, fun b values distinct => ?_⟩
  · obtain ⟨s, stored, named, sets, again⟩ := set_again accepted
    have unchanged : d.set [s.given] = (d, none) := by
      rw [again d, sets, put_put]
    exact ⟨s, stored, named, sets, unchanged, again⟩
  · have settled : ∀ s ∈ order, s.IsSettled := fun s listed => made.isSettled s (all.mem_iff.mp listed)
    exact ⟨_, set_given settled _, overrides_of_stored all auto context⟩
  · have answer : (b.set (.ofNamed values)).2 = Setting.refusal? (.ofNamed values) := by rw [set_eq]
    rw [answer]
    constructor
    · constructor
      · intro accepted
        obtain ⟨c, read⟩ := ofEntries_of_setRequest accepted
        exact ⟨named_of_ofEntries read, refusal?_of_ofEntries distinct read⟩
      · rintro ⟨named, accepted⟩
        obtain ⟨c, read⟩ := isOk_of_refusal? distinct named accepted
        exact (call_setRequest read b).1
    · intro accepted g v given
      obtain ⟨c, read⟩ := ofEntries_of_setRequest accepted
      obtain ⟨i, integer, value⟩ := integer_of_ofEntries distinct read given
      have single := refusal?_of_ofEntries distinct read
      exact ⟨i, (call_setRequest read b).2 g i value, requestValue?_set distinct single given integer b⟩

/-- A word for a truth value, headers in disorder, and the settings of a plugin. -/
def sampleStored : Builder :=
  ((start true none).call (.set [(Field.http2Disable.name, .value (.str "Yes")),
    (RequestField.requestTimeout.name, .value (.str " 0_5 ")),
    (Field.customHeaders.name, .value (.map [(.str "b", .str "1"), (.bytes [97], .str "2"), (.str "b", .str "3")])),
    (Field.authProvider.name, .plugin ⟨"cloud", [("scopes", .list [])]⟩)])).1

/-- The same settings, each spelled as a text or a truth value. -/
def sampleNamed : List (String × Value) :=
  [(RequestField.requestTimeout.name, .str "5"), (RequestField.loggingInterval.name, .bool true)]

theorem set_stored_sample :
    (∃ s ∈ ((start true none).put (.field .http2Disable true)).stored, s.name = Field.http2Disable.name ∧
      ((start true none).put (.field .http2Disable true)).set [s.given] =
        ((start true none).put (.field .http2Disable true), none)) ∧
    sampleStored.stored.map Setting.name = ["auth_provider", "http2_disable", "custom_headers", "request_timeout"] ∧
    (∃ d : Builder, (start false none).set (sampleStored.stored.reverse.map Setting.given) = (d, none) ∧
      d.overrides = sampleStored.overrides) ∧
    (sampleStored.call (.setRequest (.ofNamed sampleNamed))).2 = none ∧
    ∃ i, (sampleStored.call (.setRequest (.ofNamed sampleNamed))).1.request.value? .loggingInterval = some i ∧
      (sampleStored.set (.ofNamed sampleNamed)).1.request.value? .loggingInterval = some i := by
  obtain ⟨again, all, whole⟩ := set_stored
  have truth : Setting.ofArgument Field.http2Disable.name (.value (.str "Yes")) = .ok (.field .http2Disable true) :=
    Setting.ofArgument_eq_field.mpr ⟨rfl, rfl, show Shape.truth (.str "Yes") = .ok true by decide +kernel⟩
  have accepted : (start true none).set [(Field.http2Disable.name, .value (.str "Yes"))] =
      ((start true none).put (.field .http2Disable true), none) := by
    rw [set, setOne_eq, truth]
    rfl
  obtain ⟨s, stored, named, -, unchanged, -⟩ := again _ _ _ _ accepted
  have made : sampleStored.Made := .call (.start true none) _
  have names : ∀ e ∈ sampleNamed, ∃ g : RequestField, g.name = e.1 := by
    intro e listed
    rcases List.mem_pair.mp listed with rfl | rfl
    · exact ⟨.requestTimeout, rfl⟩
    · exact ⟨.loggingInterval, rfl⟩
  obtain ⟨settles, agree⟩ := whole sampleStored sampleNamed (by decide +kernel)
  have single : (sampleStored.call (.setRequest (.ofNamed sampleNamed))).2 = none :=
    settles.mpr ⟨names, by decide +kernel⟩
  have listed : (RequestField.loggingInterval.name, Value.bool true) ∈ sampleNamed :=
    List.mem_cons_of_mem _ List.mem_cons_self
  exact ⟨⟨s, stored, named, unchanged⟩, by decide +kernel,
    all sampleStored _ made (List.reverse_perm _) false none, single, agree single .loggingInterval _ listed⟩

end Builder

end ClusterAccess
