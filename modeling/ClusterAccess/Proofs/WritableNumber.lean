import ClusterAccess.CommandLine.Run
import ClusterAccess.Proofs.DecimalText
import ClusterAccess.Proofs.FieldOverlay
import ClusterAccess.Proofs.Redaction

/-!
# Which numbers are shown

An integer that is too long cannot be written, and no page can be that shows one. Options hold no such
integers, as they are read off decimal texts themselves. So of what is shown of a resolved configuration only
the settings of a plugin may hold one, and only where they are not masked.
-/
namespace ClusterAccess

/-! ## Values -/

namespace Value

variable {es : List (Value × Value)}

theorem anyEntryHasLongNumber_eq_false_iff : anyEntryHasLongNumber es = false ↔
    ∀ e ∈ es, e.1.hasLongNumber = false ∧ e.2.hasLongNumber = false := by
  induction es with
  | nil => simp [anyEntryHasLongNumber]
  | cons e rest ih => simp [anyEntryHasLongNumber, ih]

theorem anyHasLongNumber_eq_false_iff {vs : List Value} :
    anyHasLongNumber vs = false ↔ ∀ v ∈ vs, v.hasLongNumber = false := by
  induction vs with
  | nil => simp [anyHasLongNumber]
  | cons v rest ih => simp [anyHasLongNumber, ih]

theorem hasLongNumber_textList (texts : List String) : (textList texts).hasLongNumber = false :=
  anyHasLongNumber_eq_false_iff.mpr (List.forall_mem_map.mpr fun _ _ => rfl)

/-- Of entries under texts the values count. -/
theorem hasLongNumber_textEntries {α : Type} {shown : α → Value} {es : List (String × α)}
    (short : ∀ e ∈ es, (shown e.2).hasLongNumber = false) : (textEntries shown es).hasLongNumber = false :=
  anyEntryHasLongNumber_eq_false_iff.mpr (List.forall_mem_map.mpr fun e he => ⟨rfl, short e he⟩)

theorem hasLongNumber_object {es : List (String × Value)} (short : ∀ e ∈ es, e.2.hasLongNumber = false) :
    (CommandLine.object es).hasLongNumber = false :=
  anyEntryHasLongNumber_eq_false_iff.mpr (List.forall_mem_map.mpr fun e he => ⟨rfl, short e he⟩)

theorem anyEntryHasLongNumber_put {key value : Value} (hk : key.hasLongNumber = false)
    (hv : value.hasLongNumber = false) (h : anyEntryHasLongNumber es = false) :
    anyEntryHasLongNumber (put key value es) = false := by
  induction es with
  | nil => simp [put, anyEntryHasLongNumber, hk, hv]
  | cons e rest ih =>
    obtain ⟨k, v⟩ := e
    simp only [anyEntryHasLongNumber, Bool.or_eq_false_iff] at h
    obtain ⟨⟨hk', hv'⟩, hrest⟩ := h
    rw [put]
    split
    · simp [anyEntryHasLongNumber, hk', hv, hrest]
    · simp [anyEntryHasLongNumber, hk', hv', ih hrest]

theorem anyEntryHasLongNumber_ofPairs (h : anyEntryHasLongNumber es = false) :
    anyEntryHasLongNumber (ofPairs es) = false := by
  refine List.foldlRecOn es _ (motive := fun seen => anyEntryHasLongNumber seen = false) rfl
    fun seen hs e he => ?_
  obtain ⟨hk, hv⟩ := anyEntryHasLongNumber_eq_false_iff.mp h e he
  exact anyEntryHasLongNumber_put hk hv hs

end Value

namespace Json

open Value

mutual

/-- The form of a value holds no integers but those of the value. -/
theorem hasLongNumber_form {v x : Value} (h : form v = .ok x) (short : v.hasLongNumber = false) :
    x.hasLongNumber = false := by
  cases v with
  | bytes octets =>
    obtain ⟨_, _, rfl⟩ := except_map_eq_ok.mp h
    rfl
  | list items =>
    obtain ⟨forms, hf, rfl⟩ := except_map_eq_ok.mp h
    exact anyHasLongNumber_forms hf short
  | set members =>
    obtain ⟨forms, hf, rfl⟩ := except_map_eq_ok.mp h
    exact anyHasLongNumber_forms hf short
  | pair a b =>
    obtain ⟨hsa, hsb⟩ := Bool.or_eq_false_iff.mp short
    obtain ⟨x, ha, h⟩ := except_bind_eq_ok.mp h
    obtain ⟨y, hb, h⟩ := except_bind_eq_ok.mp h
    cases h
    simp [hasLongNumber, anyHasLongNumber, hasLongNumber_form ha hsa, hasLongNumber_form hb hsb]
  | map entries =>
    obtain ⟨forms, hf, rfl⟩ := except_map_eq_ok.mp h
    exact anyEntryHasLongNumber_ofPairs (anyEntryHasLongNumber_entryForms hf short)
  | again isMap => cases h
  | _ =>
    cases h
    exact short

theorem anyHasLongNumber_forms {vs xs : List Value} (h : forms vs = .ok xs)
    (short : anyHasLongNumber vs = false) : anyHasLongNumber xs = false := by
  cases vs with
  | nil =>
    cases h
    rfl
  | cons v rest =>
    obtain ⟨hv, hrest⟩ := Bool.or_eq_false_iff.mp short
    obtain ⟨x, hx, h⟩ := except_bind_eq_ok.mp h
    obtain ⟨others, ho, h⟩ := except_bind_eq_ok.mp h
    cases h
    rw [anyHasLongNumber, hasLongNumber_form hx hv, anyHasLongNumber_forms ho hrest]
    rfl

theorem anyEntryHasLongNumber_entryForms {es xs : List (Value × Value)} (h : entryForms es = .ok xs)
    (short : anyEntryHasLongNumber es = false) : anyEntryHasLongNumber xs = false := by
  cases es with
  | nil =>
    cases h
    rfl
  | cons e rest =>
    obtain ⟨k, v⟩ := e
    obtain ⟨first, hrest⟩ := Bool.or_eq_false_iff.mp short
    obtain ⟨_, hv⟩ := Bool.or_eq_false_iff.mp first
    obtain ⟨name, hn, h⟩ := except_bind_eq_ok.mp h
    obtain ⟨x, hx, h⟩ := except_bind_eq_ok.mp h
    obtain ⟨others, ho, h⟩ := except_bind_eq_ok.mp h
    cases h
    simp [anyEntryHasLongNumber, hasLongNumber, hasLongNumber_form hx hv,
      anyEntryHasLongNumber_entryForms ho hrest]

end

end Json

/-! ## Fields -/

namespace FieldKind

/-- What is shown of a value of the kind can be written. -/
def isWritable (k : FieldKind) (v : k.Value) : Bool := (k.shown? v).all fun x => !x.hasLongNumber

theorem isWritable_integer {i : Int} : isWritable .integer i = true ↔ Numeral.isLong i = false :=
  Bool.not_eq_true' _ |>.to_iff

theorem isWritable_request {p : RequestPolicy} :
    isWritable .request p = true ↔ ∀ f, Numeral.isLong (p.value f) = false := by
  have shown : isWritable .request p = true ↔ p.shown.hasLongNumber = false := Bool.not_eq_true' _ |>.to_iff
  rw [shown, RequestPolicy.shown, Value.hasLongNumber, Value.anyEntryHasLongNumber_eq_false_iff,
    List.forall_mem_map]
  exact ⟨fun h f => (h f (RequestField.mem_all f)).2, fun h f _ => ⟨rfl, h f⟩⟩

/-- The values of the kind hold integers. -/
def isNumeric (k : FieldKind) : Bool := k == .integer || k == .request

/-- Only integers can be too long. -/
theorem isWritable_of_not_isNumeric {k : FieldKind} (h : k.isNumeric = false) (v : k.Value) :
    k.isWritable v = true := by
  cases k with
  | integer | request => cases h
  | text | truth | tokenProvider | authProvider | source => rfl
  | maybeText => cases v <;> rfl
  | keyAlgorithm => cases v <;> rfl
  | currentContext => cases v <;> rfl
  | texts => simp [isWritable, shown?, Value.hasLongNumber_textList]
  | tlsVersions => simp [isWritable, shown?, Value.hasLongNumber_textList]
  | contexts => simp [isWritable, shown?, Value.hasLongNumber_textList]
  | textLists => simp [isWritable, shown?, Value.hasLongNumber_textEntries, Value.hasLongNumber_textList]
  | textMap =>
    have short : (textEntries Value.str v).hasLongNumber = false :=
      Value.hasLongNumber_textEntries fun _ _ => rfl
    simp [isWritable, shown?, short]

end FieldKind

/-- An option does not hold an integer that is too long. -/
theorem Probe.isLong_of_getInteger? {p : Probe} {name : String} {i : Int}
    (h : (p.getInteger? name).toOption.join = some i) : Numeral.isLong i = false := by
  unfold getInteger? at h
  split at h
  · cases h
  · split at h
    · next read =>
      cases h
      exact (Numeral.readDecimal?_eq_some_iff.mp read).isLong_eq_false
    · cases h

namespace Options

theorem isLong_given_getD {p : Probe} {name : String} {i : Int} (h : Numeral.isLong i = false) :
    Numeral.isLong ((p.getInteger? name).toOption.join.getD i) = false := by
  cases given : (p.getInteger? name).toOption.join with
  | none => exact h
  | some j => exact p.isLong_of_getInteger? given

/-- Options make no integer too long. -/
theorem isWritable_overlaid {p : Probe} {f : Field} {v : f.Value} (h : f.kind.isWritable v = true) :
    f.kind.isWritable (overlaid p f v) = true := by
  cases f with
  | connectionTimeout | websocketPingInterval | maxConcurrentRequests | maxConcurrentRequestsPerHost =>
    exact FieldKind.isWritable_integer.mpr (isLong_given_getD (FieldKind.isWritable_integer.mp h))
  | request =>
    exact FieldKind.isWritable_request.mpr fun g => isLong_given_getD (FieldKind.isWritable_request.mp h g)
  | _ => exact FieldKind.isWritable_of_not_isNumeric rfl _

end Options

/-! ## Configurations -/

/-- What is shown of the fields can be written. -/
def Config.HasShortNumbers (c : Config) : Prop := ∀ f : Field, f.kind.isWritable (c.value f) = true

namespace Config.HasShortNumbers

variable {c d : Config}

theorem default : Config.default.HasShortNumbers := fun f =>
  (show ∀ f ∈ Field.all, f.kind.isWritable (Config.default.value f) = true by decide +kernel) f
    (Field.mem_all f)

theorem of_same (h : c.HasShortNumbers) (same : ∀ f : Field, f.kind.isNumeric = true → d.value f = c.value f) :
    d.HasShortNumbers := by
  intro f
  cases numeric : f.kind.isNumeric with
  | true =>
    rw [same f numeric]
    exact h f
  | false => exact FieldKind.isWritable_of_not_isNumeric numeric _

theorem overlay (h : c.HasShortNumbers) (p : Probe) : (Options.overlay p c).HasShortNumbers := by
  intro f
  rw [Options.value_overlay_eq_overlaid]
  exact Options.isWritable_overlaid (h f)

end Config.HasShortNumbers

theorem Field.fixed_of_isNumeric {f : Field} (h : f.kind.isNumeric = true) :
    f.isDiscovered = false ∧ f.isSettled = false ∧ f ≠ .autoConfigured := by
  cases f <;> first | exact ⟨rfl, rfl, by decide⟩ | cases h

/-- Merged documents hold no integers but those of plugins. -/
theorem Merge.hasShortNumbers_of_documents {fs : FileSystem} {wanted : Option String}
    {docs : List Kubeconfig} {c : Config} (h : (documents fs wanted docs .default).result = .ok c) :
    c.HasShortNumbers :=
  Config.HasShortNumbers.default.of_same fun f numeric =>
    (documents_eq_ok h).1.value f (Field.fixed_of_isNumeric numeric).1

namespace World

variable {w : World} {context : Option String} {c : Config}

theorem hasShortNumbers_of_autoConfigure (h : (w.autoConfigure context).result = .ok c) :
    c.HasShortNumbers := by
  obtain ⟨found, hd, configures⟩ := configures_of_autoConfigure h
  have discovered : found.HasShortNumbers := Config.HasShortNumbers.default.of_same fun f numeric =>
    (discover_eq_ok hd).1.value f (Field.fixed_of_isNumeric numeric).1
  refine (discovered.overlay w.probe).of_same fun f numeric => ?_
  obtain ⟨_, settled, marked⟩ := Field.fixed_of_isNumeric numeric
  exact configures.value f settled marked

theorem hasShortNumbers_of_ofDocument {doc : Kubeconfig} (h : (w.ofDocument context doc).result = .ok c) :
    c.HasShortNumbers := by
  obtain ⟨merged, hm, hn⟩ := ofDocument_eq_ok.mp h
  obtain ⟨_, url, algorithm, _, _, rfl⟩ := Config.normalize_eq_ok.mp hn
  exact (Merge.hasShortNumbers_of_documents hm).of_same fun f numeric =>
    Config.value_settled _ url algorithm (Field.fixed_of_isNumeric numeric).2.1

end World

/-! ## Displays -/

namespace AuthProvider

/-- No integer in the settings is too long. -/
def isWritable (p : AuthProvider) : Bool := p.config.all fun e => !e.2.hasLongNumber

theorem form_of_mem_settings {p : AuthProvider} {settings : List (String × Value)}
    (h : p.settings = .ok settings) {s : String × Value} (hs : s ∈ settings) :
    ∃ e ∈ p.config, Json.form e.2 = .ok s.2 := by
  unfold AuthProvider.settings at h
  generalize p.config = config at h
  induction config generalizing settings with
  | nil =>
    cases h
    cases hs
  | cons first rest ih =>
    rw [List.mapM_cons] at h
    obtain ⟨setting, formed, h⟩ := except_bind_eq_ok.mp h
    obtain ⟨others, ho, h⟩ := except_bind_eq_ok.mp h
    obtain ⟨value, hv, formed⟩ := except_bind_eq_ok.mp formed
    cases h
    cases formed
    rcases List.mem_cons.mp hs with rfl | later
    · exact ⟨first, List.mem_cons_self, hv⟩
    · obtain ⟨e, he, hf⟩ := ih later ho
      exact ⟨e, List.mem_cons_of_mem first he, hf⟩

/-- What is shown of a plugin can be written if its settings can, or are masked. -/
theorem hasLongNumber_shown {p : AuthProvider} {redact : Bool} {x : Value} (h : p.shown redact = .ok x)
    (short : redact = false → p.isWritable = true) : x.hasLongNumber = false := by
  rw [shown_eq] at h
  obtain ⟨settings, hs, rfl⟩ := except_map_eq_ok.mp h
  have config : (textEntries (fun v => if redact then mask else v) settings).hasLongNumber = false := by
    refine Value.hasLongNumber_textEntries fun s hm => ?_
    cases redact with
    | true => rfl
    | false =>
      obtain ⟨e, he, formed⟩ := form_of_mem_settings hs hm
      exact Json.hasLongNumber_form formed (by simpa using List.all_eq_true.mp (short rfl) e he)
  simp [entry, Value.hasLongNumber, Value.anyEntryHasLongNumber, config]

end AuthProvider

theorem hasLongNumber_masked {v : Value} (h : v.hasLongNumber = false) :
    (masked v).hasLongNumber = false := by
  unfold masked
  split
  · exact h
  · rfl

namespace Config

theorem hasLongNumber_shownField? {c : Config} (short : c.HasShortNumbers) {redact : Bool}
    {plugin? : Option Value} (plugin : ∀ x, plugin? = some x → x.hasLongNumber = false) {f : Field} {v : Value}
    (h : c.shownField? redact plugin? f = some v) : v.hasLongNumber = false := by
  by_cases ofPlugin : f = .authProvider
  · subst ofPlugin
    exact plugin v h
  · rw [shownField?_eq c redact plugin? ofPlugin] at h
    obtain ⟨x, hx, rfl⟩ := Option.map_eq_some_iff.mp h
    have writable := short f
    rw [FieldKind.isWritable, hx, Option.all_some, Bool.not_eq_true'] at writable
    split
    · exact hasLongNumber_masked writable
    · exact writable

/-- On display there are no integers that are too long but those of a plugin. -/
theorem hasLongNumber_of_display {c : Config} (short : c.HasShortNumbers) {redact : Bool}
    (plugin : redact = false → c.authProvider.all AuthProvider.isWritable = true)
    {shown : List (String × Value)} (h : c.display redact = .ok shown) :
    ∀ e ∈ shown, e.2.hasLongNumber = false := by
  obtain ⟨plugin?, hp, rfl⟩ := display_eq_ok.mp h
  have ofPlugin : ∀ x, plugin? = some x → x.hasLongNumber = false := by
    rintro x rfl
    cases there : c.authProvider with
    | none =>
      rw [there] at hp
      cases hp
    | some p =>
      rw [there, Option.mapM_some] at hp
      obtain ⟨y, hy, same⟩ := except_map_eq_ok.mp hp
      cases same
      exact AuthProvider.hasLongNumber_shown hy fun bare => by simpa [there] using plugin bare
  intro e he
  rcases List.mem_append.mp he with field | token
  · obtain ⟨f, _, hf⟩ := List.mem_filterMap.mp field
    obtain ⟨v, hv, rfl⟩ := Option.map_eq_some_iff.mp hf
    exact hasLongNumber_shownField? short ofPlugin hv
  · obtain ⟨v, hv, rfl⟩ := Option.map_eq_some_iff.mp (Option.mem_toList.mp token)
    obtain ⟨x, hx, rfl⟩ := Option.map_eq_some_iff.mp hv
    obtain ⟨t, _, rfl⟩ := Option.map_eq_some_iff.mp hx
    split
    · exact hasLongNumber_masked rfl
    · rfl

end Config

namespace CommandLine

variable {s : Surroundings} {settings : Settings} {c : Config}

theorem hasShortNumbers_of_resolve (h : (resolve s settings).result = .ok c) : c.HasShortNumbers := by
  unfold resolve at h
  split at h
  · rw [World.result_ofFile] at h
    obtain ⟨k, _, h⟩ := except_bind_eq_ok.mp h
    exact World.hasShortNumbers_of_ofDocument h
  · exact World.hasShortNumbers_of_autoConfigure h

/-- A view shows what is on display, unless a setting that is not masked cannot be written. -/
theorem shown_of_display (resolved : (resolve s settings).result = .ok c)
    (plugin : settings.showSecrets = true → c.authProvider.all AuthProvider.isWritable = true)
    {entries : List (String × Value)} (h : c.display (!settings.showSecrets) = .ok entries) :
    shown settings c = .ok entries := by
  have short := Config.hasLongNumber_of_display (hasShortNumbers_of_resolve resolved)
    (fun bare => plugin (by simpa using bare)) h
  unfold shown
  rw [h]
  exact if_neg (Bool.eq_false_iff.mp (Value.hasLongNumber_object short))

end CommandLine

end ClusterAccess
