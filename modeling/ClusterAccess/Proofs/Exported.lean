import ClusterAccess.Builder
import ClusterAccess.Proofs.LostSource
import ClusterAccess.Proofs.OptionReads
import Mathlib.Data.List.Nodup

/-!
# Options as variables

An option that is set as a property may as well be set in the environment, under its variable. No two
options share a variable, and none has the variable of the home directory, so what one option says is never
taken for another's. Whatever asks for an option asks for its value, wherever that was set: the whole run
is the same, with its log.
-/
namespace ClusterAccess

/-! ## The variables of the options -/

namespace Options

/-- What the home directory is taken from. -/
def homeVariables : List String := ["HOME", "HOMEDRIVE", "HOMEPATH", "USERPROFILE"]

/-- Everything that a probe is asked for. -/
def asked : List String := names ++ homeVariables

/-- The characters of an option's variable. -/
def variableLetters (name : String) : List Char :=
  (name.toList.flatMap Text.upperChar).map fun c => if c == '.' || c == '-' then '_' else c

theorem variableName_eq (name : String) : variableName name = String.ofList (variableLetters name) := by
  rw [variableName, Text.upperCase, String.toList_ofList]
  rfl

/-- Letters as the digits of one number. -/
def number (letters : List Char) : Nat := letters.foldl (fun n c => n * 0x110000 + c.toNat) 0

/-- Every variable is asked for under one name. -/
theorem variables_apart : (asked.map variableName).Nodup := by
  -- A number is computed once for each name and then compared at once, unlike a text.
  have numbers : (asked.map fun name => number (variableLetters name)).Nodup := by decide +kernel
  have letters : (asked.map variableLetters).Nodup := by
    refine List.Nodup.of_map number ?_
    rwa [List.map_map]
  have spelled : asked.map variableName = (asked.map variableLetters).map String.ofList := by
    rw [List.map_map]
    exact List.map_congr_left fun name _ => variableName_eq name
  rw [spelled]
  exact letters.map fun _ _ same => String.ofList_inj.mp same

end Options

/-! ## Setting variables -/

namespace Probe

/-- With one variable set. -/
def setVariable (p : Probe) (key value : String) : Probe :=
  { p with variableValue := fun x => if x = key then some value else p.variableValue x }

/-- With the variable of an option set to what the properties give it, if they do. -/
def exportOption (p : Probe) (name : String) : Probe :=
  match filled (p.property name) with
  | some value => p.setVariable (Options.variableName name) value
  | none => p

/-- Without properties: the variables of all options are set to what the properties give. -/
def exported (p : Probe) : Probe :=
  { Options.names.foldl exportOption p with property := fun _ => none }

@[simp] theorem property_setVariable (p : Probe) (key value : String) :
    (p.setVariable key value).property = p.property := by
  simp only [setVariable]

theorem variableValue_setVariable (p : Probe) (key value x : String) :
    (p.setVariable key value).variableValue x = if x = key then some value else p.variableValue x := by
  simp only [setVariable]

@[simp] theorem property_exportOption (p : Probe) (name : String) :
    (p.exportOption name).property = p.property := by
  unfold exportOption
  split
  · exact property_setVariable p _ _
  · rfl

theorem variableValue_exportOption (p : Probe) (name : String) :
    (p.exportOption name).variableValue (Options.variableName name) =
      (filled (p.property name)).or (p.variableValue (Options.variableName name)) := by
  unfold exportOption
  split
  · next value h => rw [variableValue_setVariable, if_pos rfl, h, Option.some_or]
  · next h => rw [h, Option.none_or]

theorem variableValue_exportOption_of_ne (p : Probe) {name key : String}
    (other : Options.variableName name ≠ key) :
    (p.exportOption name).variableValue key = p.variableValue key := by
  unfold exportOption
  split
  · rw [variableValue_setVariable, if_neg other.symm]
  · rfl

/-- A variable of none of the options stays as it is. -/
theorem variableValue_exportOptions_of_not_mem {names : List String} {key : String}
    (other : key ∉ names.map Options.variableName) (p : Probe) :
    (names.foldl exportOption p).variableValue key = p.variableValue key := by
  induction names generalizing p with
  | nil => rfl
  | cons name rest ih =>
    rw [List.map_cons, List.mem_cons, not_or] at other
    rw [List.foldl_cons, ih other.2, variableValue_exportOption_of_ne p (Ne.symm other.1)]

/-- The variable of an option is set once, and no other option's value gets into it. -/
theorem variableValue_exportOptions {names : List String} (apart : (names.map Options.variableName).Nodup)
    {name : String} (h : name ∈ names) (p : Probe) :
    (names.foldl exportOption p).variableValue (Options.variableName name) =
      (filled (p.property name)).or (p.variableValue (Options.variableName name)) := by
  induction names generalizing p with
  | nil => cases h
  | cons first rest ih =>
    rw [List.map_cons, List.nodup_cons] at apart
    rw [List.foldl_cons]
    rcases List.mem_cons.mp h with rfl | hr
    · rw [variableValue_exportOptions_of_not_mem apart.1, variableValue_exportOption]
    · have other : Options.variableName first ≠ Options.variableName name := by
        intro same
        rw [same] at apart
        exact apart.1 (List.mem_map_of_mem hr)
      rw [ih apart.2 hr, property_exportOption, variableValue_exportOption_of_ne p other]

theorem get?_exported (p : Probe) (name : String) : p.exported.get? name =
    filled ((Options.names.foldl exportOption p).variableValue (Options.variableName name)) := by
  simp only [get?, exported, Option.filter_none, Option.none_or, filled]

/-- What the options are asked for is in the environment then, and the home directory is where it was. -/
theorem sameOn_exported {p : Probe} (recognized : ∀ name, p.property name ≠ none → name ∈ Options.names) :
    p.SameOn Options.asked p.exported := by
  have keys := Options.variables_apart
  rw [Options.asked, List.map_append] at keys
  obtain ⟨apart, -, other⟩ := List.nodup_append'.mp keys
  intro name hn
  rw [get?_exported]
  rcases List.mem_append.mp hn with option | home
  · rw [variableValue_exportOptions apart option]
    show (filled (p.property name)).or (filled _) = filled ((filled (p.property name)).or _)
    cases h : filled (p.property name) with
    | none => rfl
    | some text => exact (filled_of_ne (filled_eq_some_iff.mp h).2).symm
  · have key : Options.variableName name ∉ Options.names.map Options.variableName :=
      fun option => other option (List.mem_map_of_mem home)
    have absent : p.property name = none := by
      by_contra there
      exact key (List.mem_map_of_mem (recognized name there))
    rw [variableValue_exportOptions_of_not_mem key, get?, absent]
    rfl

end Probe

/-! ## Runs that ask the same options -/

theorem Options.ofOverlay_subset_asked : ∀ name ∈ ofOverlay, name ∈ asked := fun _ h =>
  List.mem_append_left _ (ofOverlay_sublist_names.subset h)

section

variable {p q : Probe} (same : p.SameOn Options.asked q)
include same

theorem Probe.SameOn.getTruth {name : String} (h : name ∈ Options.asked) (default : Bool) :
    p.getTruth name default = q.getTruth name default := by
  rw [Probe.getTruth, Probe.getTruth, same name h]

theorem Probe.SameOn.getD {name : String} (h : name ∈ Options.asked) (default : String) :
    p.getD name default = q.getD name default := by
  rw [Probe.getD, Probe.getD, same name h]

namespace Discovery

theorem findHome_congr {m : Type → Type} [Monad m] (isDirectory : String → m Bool) (windows : Bool)
    (platformHome : Option String) : findHome isDirectory p.get? windows platformHome =
      findHome isDirectory q.get? windows platformHome := by
  have agree : ∀ name ∈ Options.homeVariables, p.get? name = q.get? name := fun name h =>
    same name (List.mem_append_right _ h)
  simp only [Options.homeVariables, List.forall_mem_cons] at agree
  unfold findHome homePlaces
  simp only [agree]

theorem find_congr (fs : FileSystem) (h : Home) : find p fs h = find q fs h := by
  have tried : nameTried p = nameTried q := by
    funext home
    rw [nameTried, nameTried, same.getD (by simp [Options.asked, Options.names])]
  unfold find names Home.path
  rw [same.getTruth (by simp [Options.asked, Options.names]), findHome_congr same, tried]

end Discovery

namespace ServiceAccount

theorem masterUrl?_congr : masterUrl? p = masterUrl? q := by
  unfold masterUrl?
  rw [same Options.serviceHost (by simp [Options.asked, Options.names]),
    same Options.servicePort (by simp [Options.asked, Options.names])]

theorem findCa_congr (fs : FileSystem) : findCa p fs = findCa q fs := by
  unfold findCa
  rw [same.getD (by simp [Options.asked, Options.names])]

theorem findToken_congr (fs : FileSystem) : findToken p fs = findToken q fs := by
  unfold findToken findTokenFile
  rw [same Options.serviceAccountTokenFile (by simp [Options.asked, Options.names])]

theorem findings_congr (fs : FileSystem) : findings p fs = findings q fs := by
  unfold findings fileFindings
  rw [masterUrl?_congr same, findCa_congr same, findToken_congr same,
    same.getTruth (by simp [Options.asked, Options.names])]

theorem apply_congr (fs : FileSystem) (c : Config) : apply p fs c = apply q fs c := by
  unfold apply
  rw [findings_congr same]

theorem applyNamespace_congr (fs : FileSystem) (c : Config) :
    applyNamespace p fs c = applyNamespace q fs c := by
  unfold applyNamespace findNamespace
  rw [same.getTruth (by simp [Options.asked, Options.names]),
    same.getD (by simp [Options.asked, Options.names])]

end ServiceAccount

theorem Overrides.apply_congr (o : Overrides) (https : TlsCheck) (fs : FileSystem) (c : Config) :
    o.apply https fs (some p) c = o.apply https fs (some q) c := by
  unfold apply
  rw [Options.normalize_congr (same.mono Options.ofOverlay_subset_asked)]

end

namespace World

variable {w : World} {q : Probe} (same : w.probe.SameOn Options.asked q)
include same

theorem autoConfigDisabled_congr : w.probe.autoConfigDisabled = q.autoConfigDisabled :=
  same.getTruth (by simp [Options.asked, Options.names]) false

theorem finish_congr (c : Config) : w.finish c = { w with probe := q }.finish c := by
  have overlay := same.mono Options.ofOverlay_subset_asked
  unfold finish normalize
  dsimp only
  rw [Options.apply_congr overlay]
  simp only [if_true, Options.normalize_congr overlay]

theorem discover_congr (context : Option String) :
    w.discover context = { w with probe := q }.discover context := by
  unfold discover documents
  dsimp only
  rw [Discovery.find_congr same]
  simp only [ServiceAccount.apply_congr same, ServiceAccount.applyNamespace_congr same]
  rfl

theorem autoConfigure_congr (context : Option String) :
    w.autoConfigure context = { w with probe := q }.autoConfigure context := by
  unfold autoConfigure
  rw [discover_congr same]
  simp only [finish_congr same]

theorem refreshFile_congr (c : Config) (source : Path) :
    w.refreshFile c source = { w with probe := q }.refreshFile c source := by
  unfold refreshFile renew
  dsimp only
  simp only [finish_congr same, Overrides.apply_congr same, autoConfigDisabled_congr same]
  rfl

theorem refresh_congr (c : Config) : w.refresh c = { w with probe := q }.refresh c := by
  unfold refresh refreshAuto renew
  dsimp only
  simp only [autoConfigure_congr same, Overrides.apply_congr same, refreshFile_congr same]

end World

theorem Builder.build_congr {w : World} {q : Probe} (same : w.probe.SameOn Options.asked q) (b : Builder) :
    b.build w = b.build { w with probe := q } := by
  unfold build base
  rw [World.autoConfigDisabled_congr same, World.autoConfigure_congr same]
  by_cases manual : (!b.auto) = true
  · rw [if_pos manual, if_pos manual]
    rfl
  · rw [if_neg manual, if_neg manual]
    dsimp only
    split
    · rfl
    · simp only [bind_assoc, pure_bind, Overrides.apply_congr same]

/-! ## Properties and variables -/

namespace World

/-- The world without properties: the environment gives their options instead. -/
def exported (w : World) : World := { w with probe := w.probe.exported }

/-- It makes no difference whether options are set as properties or as variables: what is made
automatically, built or refreshed is the same, with the same log and the same error if there is one. -/
theorem exported_alike {w : World}
    (recognized : ∀ name, w.probe.property name ≠ none → name ∈ Options.names) :
    (∀ context : Option String, w.exported.autoConfigure context = w.autoConfigure context) ∧
    (∀ b : Builder, b.build w.exported = b.build w) ∧
    ∀ c : Config, w.exported.refresh c = w.refresh c :=
  have same := Probe.sameOn_exported recognized
  ⟨fun context => (autoConfigure_congr same context).symm, fun b => (b.build_congr same).symm,
    fun c => (refresh_congr same c).symm⟩

/-- Only the namespace is asked for, by a property. -/
def namespaceProperty : World := sample [(Options.namespaceName, "mine")] []

/-- The namespace may as well be a variable. -/
theorem exported_alike_sample : ∃ c, (namespaceProperty.exported.autoConfigure none).result = .ok c ∧
    c.value .namespaceName = some "mine" ∧
    (Builder.start true none).build namespaceProperty.exported =
      (Builder.start true none).build namespaceProperty ∧
    namespaceProperty.exported.refresh c = namespaceProperty.refresh c := by
  have recognized : ∀ name, namespaceProperty.probe.property name ≠ none → name ∈ Options.names := by
    intro name there
    have key : Options.namespaceName = name := by
      by_contra other
      exact there (by simp [namespaceProperty, sample, List.lookup_cons, beq_false_of_ne (Ne.symm other)])
    rw [← key]
    simp [Options.names]
  obtain ⟨c, hc, hn⟩ := except_ok_of_map (show (namespaceProperty.autoConfigure none).result.toOption.map
    (·.value .namespaceName) = some (some "mine") by decide +kernel)
  obtain ⟨automatic, built, refreshed⟩ := exported_alike recognized
  exact ⟨c, (congrArg Traced.result (automatic none)).trans hc, hn, built _, refreshed c⟩

end World

end ClusterAccess
