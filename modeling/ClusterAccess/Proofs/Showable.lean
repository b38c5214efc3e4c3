import ClusterAccess.Proofs.Redaction

/-!
# Which configurations can be shown

A value has a JSON form exactly if all octets in it encode texts, those in its keys included, no list or
mapping in it stands inside itself, and no integer that is a key is too long. So a configuration can be shown
exactly if that holds of the settings of its plugin.
-/
namespace ClusterAccess

theorem isOk_map {ε α β : Type} (f : α → β) (x : Except ε α) : (x.map f).isOk = x.isOk := by
  cases x <;> rfl

theorem isOk_mapError {ε ε' α : Type} (f : ε → ε') (x : Except ε α) : (x.mapError f).isOk = x.isOk := by
  cases x <;> rfl

/-- Whether what follows a step succeeds does not depend on the result of the step. -/
theorem isOk_bind {ε α β : Type} {x : Except ε α} {f : α → Except ε β} {rest : Bool}
    (h : ∀ a, (f a).isOk = rest) : (x >>= f).isOk = (x.isOk && rest) := by
  cases x with
  | error e => rfl
  | ok a => exact h a

/-- Two steps, the results of which are put together. -/
theorem isOk_bind_bind {ε α β γ : Type} (x : Except ε α) (y : Except ε β) (f : α → β → γ) :
    (x >>= fun a => y >>= fun b => pure (f a b)).isOk = (x.isOk && y.isOk) :=
  isOk_bind fun _ => by cases y <;> rfl

theorem isOk_mapM {ε α β : Type} {f : α → Except ε β} {good : α → Bool} (h : ∀ a, (f a).isOk = good a)
    (xs : List α) : (xs.mapM f).isOk = xs.all good := by
  induction xs with
  | nil => rfl
  | cons x rest ih => rw [List.mapM_cons, isOk_bind_bind, h, ih, List.all_cons]

namespace Json

/-- A part of a value that may have no form: octets, a list or mapping inside itself, or an integer as a
key. -/
inductive Part where
  | octets (octets : List UInt8)
  | again
  | key (i : Int)

/-- Octets have a form if they encode a text, and a key if it is not too long. -/
def Part.hasForm : Part → Bool
  | .octets bytes => (Utf8.decode bytes).isOk
  | .again => false
  | .key i => !Numeral.isLong i

/-- What in a key its form depends on. -/
def keyParts : Value → List Part
  | .bytes octets => [.octets octets]
  | .int i => [.key i]
  | .pair a b => keyParts a ++ keyParts b
  | _ => []

mutual

/-- The octets in a value, all of them, what stands inside itself, and the integers among the keys. -/
def parts : Value → List Part
  | .bytes octets => [.octets octets]
  | .list items => partsOfAll items
  | .pair a b => parts a ++ parts b
  | .set members => partsOfAll members
  | .map entries => partsOfEntries entries
  | .again _ => [.again]
  | .null | .bool _ | .int _ | .float _ | .str _ | .date _ | .dateTime _ => []

def partsOfAll : List Value → List Part
  | [] => []
  | v :: rest => parts v ++ partsOfAll rest

def partsOfEntries : List (Value × Value) → List Part
  | [] => []
  | (k, v) :: rest => (keyParts k ++ parts v) ++ partsOfEntries rest

end

theorem isOk_octetsText (octets : List UInt8) : (octetsText octets).isOk = (Part.octets octets).hasForm :=
  isOk_mapError _ _

theorem isOk_keyForm (k : Value) : (keyForm k).isOk = (keyParts k).all Part.hasForm := by
  cases k with
  | bytes octets => simp [keyForm, keyParts, isOk_octetsText]
  | int i =>
    rw [keyForm, keyParts, List.all_cons, List.all_nil, Bool.and_true, Part.hasForm]
    cases Numeral.isLong i <;> rfl
  | pair a b => rw [keyForm, isOk_bind_bind, isOk_keyForm a, isOk_keyForm b, keyParts, List.all_append]
  | _ => simp [keyForm, keyParts]; rfl

mutual

theorem isOk_form (v : Value) : (form v).isOk = (parts v).all Part.hasForm := by
  cases v with
  | bytes octets => simp [form, parts, isOk_map, isOk_octetsText]
  | list items => rw [form, isOk_map, isOk_forms, parts]
  | pair a b => rw [form, isOk_bind_bind, isOk_form a, isOk_form b, parts, List.all_append]
  | set members => rw [form, isOk_map, isOk_forms, parts]
  | map entries => rw [form, isOk_map, isOk_entryForms, parts]
  | _ => simp [form, parts]; rfl

theorem isOk_forms (vs : List Value) : (forms vs).isOk = (partsOfAll vs).all Part.hasForm := by
  cases vs with
  | nil => rfl
  | cons v rest => rw [forms, isOk_bind_bind, isOk_form v, isOk_forms rest, partsOfAll, List.all_append]

theorem isOk_entryForms (es : List (Value × Value)) :
    (entryForms es).isOk = (partsOfEntries es).all Part.hasForm := by
  cases es with
  | nil => rfl
  | cons e rest =>
    obtain ⟨k, v⟩ := e
    rw [entryForms, isOk_bind fun _ => isOk_bind_bind _ _ _, isOk_keyForm, isOk_form v, isOk_entryForms rest,
      partsOfEntries, List.all_append, List.all_append, Bool.and_assoc]

end

end Json

/-- All octets in the settings of the plugin encode texts, and nothing in them stands inside itself. -/
def AuthProvider.isShowable (p : AuthProvider) : Bool :=
  p.config.all fun e => (Json.parts e.2).all Json.Part.hasForm

theorem AuthProvider.isOk_settings (p : AuthProvider) : p.settings.isOk = p.isShowable := by
  refine isOk_mapM (fun e => ?_) p.config
  rw [← Json.isOk_form, ← Bool.and_true (Json.form e.2).isOk]
  exact isOk_bind fun _ => rfl

/-- A configuration can be shown, masked or not, exactly if its plugin can. -/
theorem Config.isOk_display (c : Config) (redact : Bool) :
    (c.display redact).isOk = c.authProvider.all AuthProvider.isShowable := by
  rw [display_eq, isOk_map, isOk_mapError]
  cases c.authProvider with
  | none => rfl
  | some p =>
    rw [Option.mapM_some, Option.all_some, AuthProvider.shown_eq, ← AuthProvider.isOk_settings]
    cases p.settings <;> rfl

end ClusterAccess
