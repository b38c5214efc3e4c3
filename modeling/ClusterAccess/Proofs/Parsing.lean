import ClusterAccess.Kubeconfig.Parse
import ClusterAccess.Proofs.Outcome
import ClusterAccess.Proofs.Reading

/-!
# How reading a kubeconfig text ends

A text holds a document, or is reported as no kubeconfig, with two exceptions. A scalar that its type
rules out ends the reading with an error of its own, and so does a user whose extra attributes hold
something but are not a mapping. `Escapes` says which texts these are; nothing else escapes.
-/
namespace ClusterAccess.Kubeconfig

open Shape

/-! ## The parts of a document -/

/-- The items of a value that may be missing or stand alone. -/
def itemsOf : Value → List Value
  | .null => []
  | .list vs => vs
  | v => [v]

theorem asList_eq (v : Value) : asList v = .list (itemsOf v) := by
  cases v <;> rfl

/-- The entries under a key of a document. -/
def sectionItems (key : String) (document : Value) : List Value :=
  ((valueAt (plain key) document).map itemsOf).getD []

def extrasKey : Key := ⟨"as-user-extra", "impersonate_user_extra"⟩

/-- What the users of a document have for extra attributes. -/
def userExtras (document : Value) : List Value :=
  (sectionItems "users" document).filterMap fun item =>
    (valueAt (plain "user") item).bind (valueAt extrasKey)

/-- The kind of a value that holds something but has no entries. -/
def withoutEntries (v : Value) : Option String :=
  if v.isEmpty then none
  else match v with
    | .map _ => none
    | v => some v.qualifiedKind

/-! ## Where a reading may stop -/

theorem stop?_authProvider (v : Value) : (authProvider v).stop? = none := by
  cases v with
  | map es =>
    have hc : ∀ v, (mapping Checked.ok (if v.isEmpty then .map [] else v)).stop? = none := fun v =>
      stop?_mapping_of_total (fun _ => rfl) _
    simp [authProvider, record, stop?_required_of_total, stop?_field_of_total hc]
  | _ => rfl

theorem stop?_cluster (v : Value) : (cluster v).stop? = none := by
  cases v with
  | map es => simp [cluster, record, stop?_maybe_of_total]
  | _ => rfl

theorem stop?_context (v : Value) : (context v).stop? = none := by
  cases v with
  | map es => simp [context, record, stop?_maybe_of_total]
  | _ => rfl

theorem stop?_extras (v : Value) : (extras v).stop? = withoutEntries v := by
  unfold extras withoutEntries
  split
  · rfl
  · cases v with
    | map es => exact stop?_mapping_of_total (stop?_list_of_total stop?_text) _
    | _ => rfl

/-- Of a user only the extra attributes can stop the reading. -/
theorem stop?_user (v : Value) : (user v).stop? = (valueAt extrasKey v).bind withoutEntries := by
  cases v with
  | map es =>
    have hg : ∀ v, (list text (asList v)).stop? = none := fun v =>
      stop?_list_of_total stop?_text _
    simp [user, record, stop?_maybe_of_total, stop?_authProvider, stop?_field_of_total hg, stop?_field,
      stop?_extras, extrasKey]
  | _ => rfl

theorem stop?_named {α : Type} (name key : String) (default : α) (content : Value → Checked α) (v : Value) :
    (named name key default content v).stop? =
      (valueAt (plain key) v).bind fun v => (content v).stop? := by
  cases v with
  | map es => simp [named, record, stop?_required, stop?_maybe_of_total, stop?_field]
  | _ => rfl

theorem stop?_section {α : Type} (key : String) (entry : Value → Checked α) (es : Entries) :
    (section? key entry es).stop? = (sectionItems key (.map es)).findSome? fun v => (entry v).stop? := by
  rw [section?, stop?_field, sectionItems]
  cases valueAt (plain key) (.map es) with
  | none => rfl
  | some v => simp [asList_eq]

theorem stop?_section_of_total {α : Type} {content : Value → Checked α}
    (total : ∀ v, (content v).stop? = none) (key name inner : String) (default : α) (es : Entries) :
    (section? key (named name inner default content) es).stop? = none := by
  rw [stop?_section, List.findSome?_eq_none_iff]
  intro item _
  rw [stop?_named]
  cases valueAt (plain inner) item with
  | none => rfl
  | some v => exact total v

/-- The first extra attributes without entries stop the reading of a document, and nothing else does. -/
theorem stop?_ofEntries (es : Entries) :
    (ofEntries es).stop? = (userExtras (.map es)).findSome? withoutEntries := by
  have hu : (section? "users" (named "NamedAuthInfo" "user" .empty user) es).stop? =
      (userExtras (.map es)).findSome? withoutEntries := by
    rw [stop?_section, userExtras]
    simp only [← List.head?_filterMap, List.filterMap_filterMap]
    congr 2
    funext item
    rw [stop?_named, Option.bind_assoc]
    congr 1
    funext v
    exact stop?_user v
  simp [ofEntries, namedContext, stop?_maybe_of_total, hu, stop?_section_of_total stop?_cluster,
    stop?_section_of_total stop?_context]

/-! ## Documents, and errors that escape -/

/-- The text is YAML for a mapping of the shape of the document. -/
structure Holds (text : String) (k : Kubeconfig) : Prop where
  notBlank : Text.isBlankText text = false
  loaded : ∃ es, Yaml.load depth text = .ok (.map es) ∧ ofEntries es = .ok k

/-- The errors that do not say that a text is no kubeconfig, and the texts that end with them. -/
inductive Escapes (text : String) : Error → Prop
  /-- A scalar that its type or its escapes rule out. -/
  | scalar {fault : Yaml.Fault} (notBlank : Text.isBlankText text = false)
    (loaded : Yaml.load depth text = .error fault) (wellFormed : fault ≠ .malformed) : Escapes text (.scalar fault)
  /-- Extra attributes of a user that hold something but are not a mapping, the first ones. -/
  | extras {es : Entries} {kind : String} (notBlank : Text.isBlankText text = false)
    (loaded : Yaml.load depth text = .ok (.map es))
    (first : (userExtras (.map es)).findSome? withoutEntries = some kind) : Escapes text (.noEntries kind)

/-- A reading ends in one of three ways, of which only the report names the source. -/
theorem parse_cases (text : String) (source : Option String) :
    (∃ k, parse text source = .ok k ∧ Holds text k) ∨
      (∃ e, parse text source = .error e ∧ Escapes text e) ∨
      ∃ fault, parse text source = .error (.document source fault) := by
  unfold parse
  split
  · exact .inr (.inr ⟨_, rfl⟩)
  · next hb =>
    rw [Bool.not_eq_true] at hb
    split
    · exact .inr (.inr ⟨_, rfl⟩)
    · next fault hm hl => exact .inr (.inl ⟨_, rfl, .scalar hb hl hm⟩)
    · next v hl =>
      unfold ofValue
      split
      · next es =>
        cases hk : ofEntries es with
        | ok k => exact .inl ⟨k, rfl, hb, es, hl, hk⟩
        | faults first rest => exact .inr (.inr ⟨_, rfl⟩)
        | stop kind =>
          refine .inr (.inl ⟨_, rfl, .extras hb hl ?_⟩)
          rw [← stop?_ofEntries, hk]
          rfl
      · exact .inr (.inr ⟨_, rfl⟩)

theorem Holds.parse_eq_ok {text : String} {k : Kubeconfig} (h : Holds text k) (source : Option String) :
    parse text source = .ok k := by
  obtain ⟨notBlank, es, loaded, hk⟩ := h
  simp [parse, notBlank, loaded, ofValue, hk]

theorem Escapes.parse_eq_error {text : String} {e : Error} (h : Escapes text e) (source : Option String) :
    parse text source = .error e := by
  cases h with
  | @scalar fault notBlank loaded wellFormed =>
    cases fault <;> first | exact absurd rfl wellFormed | simp [parse, notBlank, loaded]
  | @extras es kind notBlank loaded first =>
    rw [← stop?_ofEntries] at first
    cases hk : ofEntries es with
    | stop kind' =>
      rw [hk] at first
      cases first
      simp [parse, notBlank, loaded, ofValue, hk]
    | _ => simp [hk] at first

theorem Escapes.name_ne {text : String} {e : Error} (h : Escapes text e) :
    e.name ≠ "KubeConfigParseError" := by
  cases h with
  | @scalar fault _ _ _ => cases fault <;> simp [Error.name, Yaml.Fault.name]
  | extras _ _ _ => simp [Error.name]

/-- An error escapes, or reports that the text is no kubeconfig. -/
theorem parse_eq_error {text : String} {source : Option String} {e : Error}
    (h : parse text source = .error e) : Escapes text e ∨ ∃ fault, e = .document source fault := by
  rcases parse_cases text source with ⟨k, hk, _⟩ | ⟨e', he, escapes⟩ | ⟨fault, hf⟩
  · rw [h] at hk
    cases hk
  · rw [h] at he
    cases he
    exact .inl escapes
  · rw [h] at hf
    cases hf
    exact .inr ⟨fault, rfl⟩

/-- A text is a document whatever its source. -/
theorem holds_of_parse {text : String} {source : Option String} {k : Kubeconfig}
    (h : parse text source = .ok k) : Holds text k := by
  rcases parse_cases text source with ⟨k', hk, holds⟩ | ⟨e, he, _⟩ | ⟨fault, hf⟩
  · rw [h] at hk
    cases hk
    exact holds
  · rw [h] at he
    cases he
  · rw [h] at hf
    cases hf

/-- A text escapes with the errors of `Escapes`, whatever its source. Any other text is a document or is
reported as no document. -/
theorem parse_escapes_iff (text : String) (source : Option String) :
    (∀ e, (parse text source = .error e ∧ e.name ≠ "KubeConfigParseError") ↔ Escapes text e) ∧
    (((∃ k, parse text source = .ok k) ∨ ∃ fault, parse text source = .error (.document source fault)) ↔
      ∀ e, ¬ Escapes text e) := by
  refine ⟨fun e => ⟨?_, fun h => ⟨h.parse_eq_error source, h.name_ne⟩⟩, ?_, fun none => ?_⟩
  · rintro ⟨h, hn⟩
    rcases parse_cases text source with ⟨k, hk, _⟩ | ⟨e', he, escapes⟩ | ⟨fault, hf⟩
    · rw [h] at hk
      cases hk
    · rw [h] at he
      cases he
      exact escapes
    · rw [h] at hf
      cases hf
      exact absurd rfl hn
  · rintro (⟨k, hk⟩ | ⟨fault, hf⟩) e h
    · rw [h.parse_eq_error source] at hk
      cases hk
    · rw [h.parse_eq_error source] at hf
      cases hf
      exact h.name_ne rfl
  · rcases parse_cases text source with ⟨k, hk, _⟩ | ⟨e, _, escapes⟩ | reported
    · exact .inl ⟨k, hk⟩
    · exact absurd escapes (none e)
    · exact .inr reported

/-- The extra attributes are a list. -/
def listedExtras : String := "users:\n- name: a\n  user:\n    as-user-extra: [x]\n"

/-- A date without a month of that number. -/
def impossibleDate : String := "a: 2001-13-01\n"

/-- Neither text is reported as no kubeconfig. -/
theorem documents_that_escape :
    parse listedExtras none = .error (.noEntries "list") ∧
      parse impossibleDate none = .error (.scalar (.calendar .month)) ∧
      (Error.noEntries "list").name = "AttributeError" ∧
      (Error.scalar (.calendar .month)).name = "ValueError" := by
  refine ⟨except_error_of_match ?_, except_error_of_match ?_, rfl, rfl⟩
  · decide +kernel
  · decide +kernel

end ClusterAccess.Kubeconfig
