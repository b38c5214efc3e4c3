import ClusterAccess.Kubeconfig.Shape

/-!
# What a checked reading comes to

A reading of a value succeeds, lists issues, or is stopped. Two views of it are followed through the
shapes here: which kind of value stopped it, which passes every issue by, and what it reads when it
succeeds, part by part.
-/
namespace ClusterAccess

namespace Checked

variable {α β : Type}

/-! ## What stopped a reading -/

/-- The kind of the value that stopped the reading. -/
def stop? : Checked α → Option String
  | .stop kind => some kind
  | _ => none

@[simp] theorem stop?_ok (a : α) : (ok a).stop? = none := rfl

@[simp] theorem stop?_faults (first : Issue) (rest : List Issue) :
    (faults first rest : Checked α).stop? = none := rfl

@[simp] theorem stop?_fault (kind : IssueKind) : (fault kind : Checked α).stop? = none := rfl

@[simp] theorem stop?_stop (kind : String) : (stop kind : Checked α).stop? = some kind := rfl

@[simp] theorem stop?_map (f : α → β) (x : Checked α) : (x.map f).stop? = x.stop? := by
  cases x <;> rfl

@[simp] theorem stop?_functor_map (f : α → β) (x : Checked α) : (f <$> x).stop? = x.stop? :=
  stop?_map f x

/-- The first stop counts, whatever issues there are. -/
@[simp] theorem stop?_both (x : Checked (α → β)) (y : Checked α) :
    (both x y).stop? = x.stop?.or y.stop? := by
  cases x <;> cases y <;> rfl

@[simp] theorem stop?_seq (x : Checked (α → β)) (y : Checked α) :
    (x <*> y).stop? = x.stop?.or y.stop? := stop?_both x y

@[simp] theorem stop?_under (step : Step) (x : Checked α) : (x.under step).stop? = x.stop? := by
  cases x <;> rfl

@[simp] theorem stop?_all (xs : List (Checked α)) : (all xs).stop? = xs.findSome? stop? := by
  induction xs with
  | nil => rfl
  | cons x rest ih =>
    rw [all, stop?_both, stop?_map, ih, List.findSome?_cons]
    cases x.stop? <;> rfl

/-! ## What a reading took to succeed -/

theorem functor_map_eq_ok {f : α → β} {x : Checked α} {b : β} :
    f <$> x = .ok b ↔ ∃ a, x = .ok a ∧ f a = b := by
  cases x <;> simp [Functor.map, map]

/-- Both readings succeed. -/
theorem both_eq_ok {x : Checked (α → β)} {y : Checked α} {b : β} :
    both x y = .ok b ↔ ∃ f a, x = .ok f ∧ y = .ok a ∧ f a = b := by
  cases x <;> cases y <;> simp [both]

theorem seq_eq_ok {x : Checked (α → β)} {y : Checked α} {b : β} :
    x <*> y = .ok b ↔ ∃ f a, x = .ok f ∧ y = .ok a ∧ f a = b := both_eq_ok

theorem under_eq_ok {step : Step} {x : Checked α} {a : α} : x.under step = .ok a ↔ x = .ok a := by
  cases x <;> simp [under]

/-- All succeed, one after the other. -/
theorem all_eq_ok {xs : List (Checked α)} {as : List α} : all xs = .ok as ↔ xs = as.map .ok := by
  induction xs generalizing as with
  | nil => cases as <;> simp [all]
  | cons x rest ih =>
    rw [all, both_eq_ok]
    constructor
    · rintro ⟨f, others, hx, hr, rfl⟩
      obtain ⟨a, rfl, rfl⟩ := functor_map_eq_ok.mp hx
      rw [ih.mp hr, List.map_cons]
    · intro h
      cases as with
      | nil => cases h
      | cons a others =>
        obtain ⟨rfl, hr⟩ := List.cons.inj h
        exact ⟨List.cons a, others, rfl, ih.mpr hr, rfl⟩

theorem isOk_map {f : α → β} {x : Checked α} : (∃ b, x.map f = .ok b) ↔ ∃ a, x = .ok a := by
  cases x <;> simp [map]

theorem isOk_all {xs : List (Checked α)} : (∃ as, all xs = .ok as) ↔ ∀ x ∈ xs, ∃ a, x = .ok a := by
  constructor
  · rintro ⟨as, read⟩ x listed
    rw [all_eq_ok.mp read] at listed
    obtain ⟨a, -, rfl⟩ := List.mem_map.mp listed
    exact ⟨a, rfl⟩
  · intro each
    induction xs with
    | nil => exact ⟨[], rfl⟩
    | cons x rest ih =>
      obtain ⟨a, rfl⟩ := each x List.mem_cons_self
      obtain ⟨as, read⟩ := ih fun y listed => each y (List.mem_cons_of_mem _ listed)
      exact ⟨a :: as, both_eq_ok.mpr ⟨List.cons a, as, rfl, read, rfl⟩⟩

end Checked

namespace Shape

variable {α : Type}

open Checked

/-- The value under a key of a mapping. -/
def valueAt (key : Key) : Value → Option Value
  | .map entries => (key.find? entries).map (·.2)
  | _ => none

theorem valueAt_map (key : Key) (entries : Entries) :
    valueAt key (.map entries) = (key.find? entries).map (·.2) := rfl

/-! ## Stops -/

@[simp] theorem stop?_text (v : Value) : (text v).stop? = none := by
  unfold text
  split
  · rfl
  · split <;> rfl
  · rfl

@[simp] theorem stop?_truthOfText (s : String) : (truthOfText s).stop? = none := by
  unfold truthOfText
  dsimp only
  split
  · rfl
  · split <;> rfl

@[simp] theorem stop?_truthOfInteger (i : Int) : (truthOfInteger i).stop? = none := by
  unfold truthOfInteger
  split
  · rfl
  · split <;> rfl

@[simp] theorem stop?_truth (v : Value) : (truth v).stop? = none := by
  unfold truth
  split
  · rfl
  · exact stop?_truthOfInteger _
  · next x =>
    cases x.toInt? with
    | none => rfl
    | some i => exact stop?_truthOfInteger i
  · exact stop?_truthOfText _
  · split
    · exact stop?_truthOfText _
    · rfl
  · rfl

@[simp] theorem stop?_path (v : Value) : (path v).stop? = none := by
  unfold path
  split <;> rfl

theorem stop?_optional (shape : Value → Checked α) (v : Value) :
    (optional shape v).stop? = match v with
      | .null => none
      | v => (shape v).stop? := by
  cases v <;> simp [optional]

theorem findSome?_stop?_items (shape : Value → Checked α) (start : Nat) (vs : List Value) :
    (items shape start vs).findSome? Checked.stop? = vs.findSome? fun v => (shape v).stop? := by
  induction vs generalizing start with
  | nil => rfl
  | cons v rest ih =>
    rw [items, List.findSome?_cons, List.findSome?_cons, stop?_under, ih]

@[simp] theorem stop?_list (shape : Value → Checked α) (vs : List Value) :
    (list shape (.list vs)).stop? = vs.findSome? fun v => (shape v).stop? := by
  rw [list, stop?_all, findSome?_stop?_items]

theorem stop?_field (key : Key) (default : α) (shape : Value → Checked α) (entries : Entries) :
    (field key default shape entries).stop? =
      (valueAt key (.map entries)).bind fun v => (shape v).stop? := by
  unfold field
  rw [valueAt_map]
  cases key.find? entries with
  | none => rfl
  | some found =>
    obtain ⟨name, v⟩ := found
    exact stop?_under _ _

theorem stop?_required (key : Key) (shape : Value → Checked α) (entries : Entries) :
    (required key shape entries).stop? =
      (valueAt key (.map entries)).bind fun v => (shape v).stop? := by
  unfold required
  rw [valueAt_map]
  cases key.find? entries with
  | none => rfl
  | some found =>
    obtain ⟨name, v⟩ := found
    exact stop?_under _ _

/-! A shape that no value stops leaves nothing that is made of it to stop at. -/

section Total

variable {shape : Value → Checked α} (total : ∀ v, (shape v).stop? = none)
include total

theorem stop?_list_of_total (v : Value) : (list shape v).stop? = none := by
  cases v with
  | list vs =>
    rw [stop?_list, List.findSome?_eq_none_iff]
    exact fun v _ => total v
  | _ => rfl

theorem stop?_mapping_of_total (v : Value) : (mapping shape v).stop? = none := by
  cases v with
  | map entries =>
    rw [mapping, stop?_map, stop?_all, List.findSome?_eq_none_iff]
    intro x hx
    obtain ⟨⟨k, v⟩, _, rfl⟩ := List.mem_map.mp hx
    simp [entry, total]
  | _ => rfl

theorem stop?_required_of_total (key : Key) (entries : Entries) :
    (required key shape entries).stop? = none := by
  rw [stop?_required]
  cases valueAt key (.map entries) with
  | none => rfl
  | some v => exact total v

theorem stop?_field_of_total (key : Key) (default : α) (entries : Entries) :
    (field key default shape entries).stop? = none := by
  rw [stop?_field]
  cases valueAt key (.map entries) with
  | none => rfl
  | some v => exact total v

theorem stop?_maybe_of_total (key : Key) (entries : Entries) :
    (maybe key shape entries).stop? = none := by
  rw [maybe, stop?_field]
  cases valueAt key (.map entries) with
  | none => rfl
  | some v => cases v <;> simp [stop?_optional, total]

end Total

/-! ## Successes -/

theorem items_eq_map_ok {shape : Value → Checked α} {start : Nat} {vs : List Value} {as : List α} :
    items shape start vs = as.map .ok ↔ vs.map shape = as.map .ok := by
  induction vs generalizing start as with
  | nil => cases as <;> simp [items]
  | cons v rest ih =>
    cases as with
    | nil => simp [items]
    | cons a others =>
      rw [items, List.map_cons, List.map_cons, List.cons.injEq, List.cons.injEq, under_eq_ok, ih]

/-- The readings of a list are those of its items. -/
theorem list_eq_ok {shape : Value → Checked α} {vs : List Value} {as : List α} :
    list shape (.list vs) = .ok as ↔ vs.map shape = as.map .ok := by
  rw [list, all_eq_ok, items_eq_map_ok]

theorem record_eq_ok {name : String} {fields : Entries → Checked α} {v : Value} {a : α} :
    record name fields v = .ok a ↔ ∃ entries, v = .map entries ∧ fields entries = .ok a := by
  cases v <;> simp [record, Checked.fault]

/-- A field is what stands under its key, or its default. -/
theorem field_eq_ok {key : Key} {default : α} {shape : Value → Checked α} {entries : Entries} {a : α} :
    field key default shape entries = .ok a ↔
      ((valueAt key (.map entries)).map shape).getD (.ok default) = .ok a := by
  unfold field
  rw [valueAt_map]
  cases key.find? entries with
  | none => rfl
  | some found =>
    obtain ⟨name, v⟩ := found
    exact under_eq_ok

end Shape

end ClusterAccess
