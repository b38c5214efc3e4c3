import ClusterAccess.Config.Display
import ClusterAccess.Proofs.ContextListing
import ClusterAccess.Proofs.Reading
import ClusterAccess.Proofs.RefusedCall

/-!
# Stored values as arguments

An argument is taken to the type of its field: a text that spells a number to the number, a word for a truth
value to the truth value. What it is taken to may be passed for the field in its turn, and stands for itself.
For the fields with entries under names this rests on the names being distinct, as they are in all that is
read. A setting that an argument makes is thus an argument that makes the same setting.
-/
namespace ClusterAccess

/-! ## Shapes -/

namespace Shape

variable {α : Type} {shape : Value → Checked α} {shown : α → Value}

@[simp] theorem text_str (s : String) : text (.str s) = .ok s := rfl

theorem choice_name {choices : List α} {name : α → String} {a : α}
    (found : choices.find? (name · == name a) = some a) : choice choices name (.str (name a)) = .ok a := by
  simp [choice, found]

theorem optional_shown (again : ∀ a, shape (shown a) = .ok a) (notNull : ∀ a, shown a ≠ .null)
    (a? : Option α) : optional shape ((a?.map shown).getD .null) = .ok a? := by
  cases a? with
  | none => rfl
  | some a =>
    rw [Option.map_some, Option.getD_some, optional, again]
    · rfl
    · exact notNull a

theorem list_shown (again : ∀ a, shape (shown a) = .ok a) (as : List α) :
    list shape (.list (as.map shown)) = .ok as := by
  rw [list_eq_ok, List.map_map]
  exact List.map_congr_left fun a _ => again a

/-! Entries that are put under their names one after the other have distinct names. -/

theorem keys_putText (key : String) (a : α) (es : List (String × α)) :
    (putText key a es).map Prod.fst =
      if key ∈ es.map Prod.fst then es.map Prod.fst else es.map Prod.fst ++ [key] := by
  induction es with
  | nil => rfl
  | cons e rest ih =>
    obtain ⟨k, b⟩ := e
    by_cases here : k = key
    · simp [putText, here]
    · by_cases there : key ∈ rest.map Prod.fst <;> simp [putText, here, Ne.symm here, ih, there]

theorem nodup_putText {key : String} {a : α} {es : List (String × α)} (distinct : (es.map Prod.fst).Nodup) :
    ((putText key a es).map Prod.fst).Nodup := by
  rw [keys_putText]
  split
  · exact distinct
  · next absent => exact distinct.append (List.nodup_singleton key) (by simpa using absent)

theorem putText_of_not_mem {key : String} {a : α} {es : List (String × α)} (absent : key ∉ es.map Prod.fst) :
    putText key a es = es ++ [(key, a)] := by
  induction es with
  | nil => rfl
  | cons e rest ih =>
    obtain ⟨k, b⟩ := e
    rw [List.map_cons, List.mem_cons, not_or] at absent
    rw [putText, if_neg (Ne.symm absent.1), ih absent.2, List.cons_append]

theorem nodup_foldl_putText (es before : List (String × α)) (distinct : (before.map Prod.fst).Nodup) :
    ((es.foldl (fun m (k, a) => putText k a m) before).map Prod.fst).Nodup := by
  induction es generalizing before with
  | nil => exact distinct
  | cons e rest ih => exact ih _ (nodup_putText distinct)

theorem foldl_putText_of_nodup (es before : List (String × α)) (distinct : ((before ++ es).map Prod.fst).Nodup) :
    es.foldl (fun m (k, a) => putText k a m) before = before ++ es := by
  induction es generalizing before with
  | nil => rw [List.foldl_nil, List.append_nil]
  | cons e rest ih =>
    obtain ⟨key, a⟩ := e
    have absent : key ∉ before.map Prod.fst := by
      intro listed
      rw [List.map_append] at distinct
      exact (List.disjoint_of_nodup_append distinct) listed List.mem_cons_self
    have put : putText key a before = before ++ [(key, a)] := putText_of_not_mem absent
    rw [← List.singleton_append, ← List.append_assoc, ← put] at distinct
    rw [List.foldl_cons, ih _ distinct, put, List.append_assoc, List.singleton_append]

theorem nodup_of_mapping {v : Value} {es : List (String × α)} (read : mapping shape v = .ok es) :
    (es.map Prod.fst).Nodup := by
  cases v with
  | map entries =>
    rw [mapping] at read
    obtain ⟨given, -, rfl⟩ := Checked.functor_map_eq_ok.mp read
    exact nodup_foldl_putText given [] List.nodup_nil
  | _ => cases read

theorem entry_shown (again : ∀ a, shape (shown a) = .ok a) (e : String × α) :
    entry shape (.str e.1) (shown e.2) = .ok e := by
  rw [entry, again]
  rfl

theorem mapping_shown (again : ∀ a, shape (shown a) = .ok a) {es : List (String × α)}
    (distinct : (es.map Prod.fst).Nodup) : mapping shape (textEntries shown es) = .ok es := by
  have readings : es.map (fun e => entry shape (.str e.1) (shown e.2)) = es.map .ok :=
    List.map_congr_left fun e _ => entry_shown again e
  have all := Checked.all_eq_ok.mpr readings
  rw [textEntries, mapping, List.map_map]
  show (Checked.all (es.map fun e => entry shape (.str e.1) (shown e.2))).map _ = _
  rw [all]
  exact congrArg Checked.ok (foldl_putText_of_nodup es [] distinct)

end Shape

/-! ## Fields -/

namespace FieldKind

/-- The value of a settable field as an argument. A choice stands as its name. -/
def argument : (k : FieldKind) → k.Value → Argument
  | .tokenProvider, some p => .provider p
  | .authProvider, some p => .plugin p
  | k, v => .value ((k.shown? v).getD .null)

/-- Names that entries stand under are distinct. -/
def HasDistinctNames : (k : FieldKind) → k.Value → Prop
  | .textLists, es => (es.map Prod.fst).Nodup
  | .textMap, es => (es.map Prod.fst).Nodup
  | _, _ => True

theorem hasDistinctNames_of_ofArgument {k : FieldKind} {a : Argument} {v : k.Value}
    (read : k.ofArgument a = .ok v) : k.HasDistinctNames v := by
  cases k with
  | textLists =>
    cases a with
    | value w =>
      have mapped : Shape.mapping (Shape.list Shape.text) w = .ok v := read
      exact Shape.nodup_of_mapping mapped
    | _ => cases read
  | textMap =>
    cases a with
    | value w => exact Shape.nodup_of_mapping read
    | _ => cases read
  | _ => trivial

/-- A value of a settable kind is read from the argument that it stands as. -/
theorem ofArgument_argument {k : FieldKind} (settable : k ∉ [.request, .contexts, .currentContext, .source])
    {v : k.Value} (distinct : k.HasDistinctNames v) : k.ofArgument (k.argument v) = .ok v := by
  cases k with
  | text | truth | integer => rfl
  | maybeText => exact Shape.optional_shown Shape.text_str (fun _ => Value.noConfusion) v
  | texts => exact Shape.list_shown Shape.text_str v
  | textLists => exact Shape.mapping_shown (Shape.list_shown Shape.text_str) distinct
  | textMap => exact Shape.mapping_shown Shape.text_str distinct
  | keyAlgorithm =>
    have again : ∀ a : KeyAlgorithm, Shape.choice KeyAlgorithm.all KeyAlgorithm.name (.str a.name) = .ok a :=
      fun a => Shape.choice_name (by cases a <;> rfl)
    exact Shape.optional_shown again (fun _ => Value.noConfusion) v
  | tlsVersions =>
    have again : ∀ t : TlsVersion, Shape.choice TlsVersion.all TlsVersion.name (.str t.name) = .ok t :=
      fun t => Shape.choice_name (by cases t <;> rfl)
    have names : (v.map TlsVersion.name).map Value.str = v.map fun t => .str t.name := List.map_map
    show Shape.list (Shape.choice TlsVersion.all TlsVersion.name) (.list ((v.map TlsVersion.name).map .str)) = .ok v
    rw [names]
    exact Shape.list_shown again v
  | tokenProvider => cases v <;> rfl
  | authProvider => cases v <;> rfl
  | request | contexts | currentContext | source => simp at settable

end FieldKind

/-! ## Names -/

theorem RequestField.ofName?_name (g : RequestField) : ofName? g.name = some g := by
  cases g <;> decide +kernel

theorem RequestField.name_injective : Function.Injective RequestField.name := fun g h same =>
  Option.some.inj (by rw [← ofName?_name g, same, ofName?_name])

theorem RequestField.name_of_ofName? {name : String} {g : RequestField} (found : ofName? name = some g) :
    g.name = name := by
  simpa using List.find?_some found

theorem Field.name_of_ofName? {name : String} {f : Field} (found : ofName? name = some f) : f.name = name := by
  simpa using List.find?_some found

/-- No field is named as a setting of requests. -/
theorem Field.requestField_ofName?_name (f : Field) : RequestField.ofName? f.name = none := by
  cases f <;> decide +kernel

theorem Field.kind_of_isSettable {f : Field} (settable : f.isSettable = true) :
    f.kind ∉ [.request, .contexts, .currentContext, .source] := by
  cases f <;> simp [isSettable, kind] at settable ⊢

/-! ## Settings -/

/-- The last of items that are all the same. -/
theorem getLast?_eq_of_mem_iff {α : Type} {as : List α} {a? : Option α} (h : ∀ a, a ∈ as ↔ a? = some a) :
    as.getLast? = a? := by
  cases last : as.getLast? with
  | none =>
    rw [List.getLast?_eq_none_iff] at last
    subst last
    cases a? with
    | none => rfl
    | some a => exact absurd ((h a).mpr rfl) List.not_mem_nil
  | some a => exact ((h a).mp (List.mem_of_getLast? last)).symm

namespace Setting

def name : Setting → String
  | .field f _ => f.name
  | .request g _ => g.name

def argument : Setting → Argument
  | .field f v => f.kind.argument v
  | .request _ i => .value (.int i)

/-- The setting as an argument under its name. -/
def given (s : Setting) : String × Argument := (s.name, s.argument)

/-- Given as an argument, the setting sets itself. -/
def IsSettled (s : Setting) : Prop := ofArgument s.name s.argument = .ok s

theorem accept_eq_ok {α : Type} {name : String} {a : Argument} {x : Checked α} {v : α} :
    Builder.accept name a x = .ok v ↔ x = .ok v := by
  cases x <;> simp [Builder.accept]

/-- What an argument can set. -/
theorem ofArgument_cases {name : String} {a : Argument} {s : Setting} (h : ofArgument name a = .ok s) :
    (∃ g i, s = .request g i ∧ g.name = name ∧ FieldKind.integer.ofArgument a = .ok i) ∨
      ∃ f v, s = .field f v ∧ f.name = name ∧ f.isSettable = true ∧ f.kind.ofArgument a = .ok v := by
  rw [ofArgument] at h
  cases found : RequestField.ofName? name with
  | some g =>
    rw [found] at h
    obtain ⟨i, read, rfl⟩ := except_map_eq_ok.mp h
    exact .inl ⟨g, i, rfl, RequestField.name_of_ofName? found, accept_eq_ok.mp read⟩
  | none =>
    rw [found] at h
    cases known : (Field.ofName? name).filter Field.isSettable with
    | none => simp [known] at h
    | some f =>
      simp only [known] at h
      obtain ⟨v, read, rfl⟩ := except_map_eq_ok.mp h
      obtain ⟨named, settable⟩ := Option.filter_eq_some_iff.mp known
      exact .inr ⟨f, v, rfl, Field.name_of_ofName? named, settable, accept_eq_ok.mp read⟩

theorem ofArgument_eq_request {name : String} {a : Argument} {g : RequestField} {i : Int} :
    ofArgument name a = .ok (.request g i) ↔ g.name = name ∧ FieldKind.integer.ofArgument a = .ok i := by
  constructor
  · intro h
    rcases ofArgument_cases h with ⟨g, i, same, named, read⟩ | ⟨f, v, same, -⟩
    · cases same
      exact ⟨named, read⟩
    · cases same
  · rintro ⟨rfl, read⟩
    rw [ofArgument, RequestField.ofName?_name]
    exact except_map_eq_ok.mpr ⟨i, accept_eq_ok.mpr read, rfl⟩

theorem ofArgument_eq_field {name : String} {a : Argument} {f : Field} {v : f.Value} :
    ofArgument name a = .ok (.field f v) ↔
      f.name = name ∧ f.isSettable = true ∧ f.kind.ofArgument a = .ok v := by
  constructor
  · intro h
    rcases ofArgument_cases h with ⟨g, i, same, -⟩ | ⟨f, v, same, named, settable, read⟩
    · cases same
    · cases same
      exact ⟨named, settable, read⟩
  · rintro ⟨rfl, settable, read⟩
    have known : (Field.ofName? f.name).filter Field.isSettable = some f :=
      Option.filter_eq_some_iff.mpr ⟨Field.ofName?_name f, settable⟩
    rw [ofArgument, Field.requestField_ofName?_name, known]
    exact except_map_eq_ok.mpr ⟨v, accept_eq_ok.mpr read, rfl⟩

/-- Under the name of a setting of requests nothing else is set. -/
theorem exists_of_ofArgument_request {g : RequestField} {a : Argument} {s : Setting}
    (h : ofArgument g.name a = .ok s) : ∃ i, FieldKind.integer.ofArgument a = .ok i ∧ s = .request g i := by
  rcases ofArgument_cases h with ⟨g', i, rfl, named, read⟩ | ⟨f, v, rfl, named, -⟩
  · cases RequestField.name_injective named
    exact ⟨i, read, rfl⟩
  · have missing := f.requestField_ofName?_name
    rw [named, RequestField.ofName?_name] at missing
    cases missing

/-- What an argument sets has its name, and sets itself when it is given in turn. -/
theorem settled_of_ofArgument {name : String} {a : Argument} {s : Setting} (h : ofArgument name a = .ok s) :
    s.name = name ∧ s.IsSettled := by
  rcases ofArgument_cases h with ⟨g, i, rfl, named, -⟩ | ⟨f, v, rfl, named, settable, read⟩
  · exact ⟨named, ofArgument_eq_request.mpr ⟨rfl, rfl⟩⟩
  · have again : f.kind.ofArgument (f.kind.argument v) = .ok v :=
      FieldKind.ofArgument_argument (Field.kind_of_isSettable settable)
        (FieldKind.hasDistinctNames_of_ofArgument read)
    exact ⟨named, ofArgument_eq_field.mpr ⟨rfl, settable, again⟩⟩

/-! The last of some settings of one field, when they all agree. -/

theorem value?_eq_some {f : Field} {v : f.Value} {s : Setting} : value? f s = some v ↔ s = .field f v := by
  constructor
  · intro h
    cases s with
    | request g i => cases h
    | field g w =>
      rw [value?] at h
      split at h
      · next same =>
        subst same
        cases h
        rfl
      · cases h
  · rintro rfl
    simp [value?]

theorem requestValue?_eq_some {g : RequestField} {i : Int} {s : Setting} :
    requestValue? g s = some i ↔ s = .request g i := by
  cases s with
  | field f v => simp [requestValue?]
  | request h j => simp [requestValue?, eq_comm]

theorem last?_eq {f : Field} {v? : Option f.Value} {settings : List Setting}
    (h : ∀ v, .field f v ∈ settings ↔ v? = some v) : last? f settings = v? := by
  refine getLast?_eq_of_mem_iff fun v => ?_
  rw [← h v, List.mem_filterMap]
  simp [value?_eq_some]

theorem lastRequest?_eq {g : RequestField} {i? : Option Int} {settings : List Setting}
    (h : ∀ i, .request g i ∈ settings ↔ i? = some i) : lastRequest? g settings = i? := by
  refine getLast?_eq_of_mem_iff fun i => ?_
  rw [← h i, List.mem_filterMap]
  simp [requestValue?_eq_some]

theorem mem_accepted {args : Arguments} (accepts : refusal? args = none) {s : Setting} :
    s ∈ accepted args ↔ ∃ arg ∈ args, ofArgument arg.1 arg.2 = .ok s := by
  induction args with
  | nil => simp [accepted]
  | cons arg rest ih =>
    rw [refusal?] at accepts
    rw [accepted]
    cases h : ofArgument arg.1 arg.2 with
    | error e => simp [h] at accepts
    | ok t =>
      simp only [h] at accepts ⊢
      simp [ih accepts, h, eq_comm]

theorem refusal?_eq_none_iff {args : Arguments} :
    refusal? args = none ↔ ∀ arg ∈ args, ∃ s, ofArgument arg.1 arg.2 = .ok s := by
  induction args with
  | nil => simp [refusal?]
  | cons arg rest ih =>
    rw [refusal?]
    cases h : ofArgument arg.1 arg.2 with
    | error e => simp [h]
    | ok s => simp [h, ih]

end Setting

end ClusterAccess
