import ClusterAccess.Proofs.DocumentPart

/-!
# What a document may say in more than one way

Three changes of a document, anywhere in it, leave it the document that it was, and leave the issues of what
is no document as they were. An unknown key may be there or not. A value that stands alone where a list is
wanted may stand in a list. And null under the key of a field that has a default is as good as no key: a
field of two spellings is looked up under the first, so null there is what the field holds, whatever stands
under the second. What null means as the content of a named entry is left open here.
-/
namespace ClusterAccess.Kubeconfig

open Shape

/-! ## Unknown keys -/

/-- An entry is put in whose key spells no field. -/
inductive Extended (p : Part) : Entries → Entries → Prop
  | mk {key : Value} (unknown : ∀ name, key = .str name → p.fieldAt? name = none) (value : Value)
    (before after : Entries) : Extended p (before ++ after) (before ++ (key, value) :: after)

theorem eq_str_of_isText {name : String} {k : Value} (h : isText name k = true) : k = .str name := by
  cases k with
  | str s => rw [beq_iff_eq.mp h]
  | _ => cases h

theorem Part.read_extended {p : Part} {es es' : Entries} (h : Extended p es es') :
    p.read (.map es) = p.read (.map es') := by
  cases h with | @mk key unknown value before after
  refine read_congr fun f hf => f.2.read_congr ?_
  have apart : ∀ name, Spells f.1 name → isText name key = false := fun name spelled => by
    refine Bool.eq_false_iff.mpr fun ht => ?_
    have missing := unknown name (eq_str_of_isText ht)
    rw [fieldAt?_of_mem hf spelled] at missing
    cases missing
  rw [Key.find?, Key.find?, lookText_insert (apart _ (.inl rfl)), lookText_insert (apart _ (.inr rfl))]

/-- An unknown key with any value, put in anywhere in a document, leaves it as it is: the same document, or
the same issues in the same places. -/
theorem ofValue_of_extended {es es' : Entries} (h : Within Extended .document es es') (source : Option String) :
    ofValue source (.map es) = ofValue source (.map es') :=
  ofValue_of_within (fun _ _ _ => Part.read_extended) h source

/-- A plugin whose name is no text, with a list of arguments that nobody knows. -/
theorem ofValue_of_extended_sample :
    Within Extended .document (ofUser [(.str "auth-provider", .map [(.str "name", .int 5)])])
      (ofUser [(.str "auth-provider", .map [(.str "args", .list [.null]), (.str "name", .int 5)])]) ∧
    ofValue none (.map (ofUser [(.str "auth-provider", .map [(.str "name", .int 5)])])) =
      ofValue none (.map (ofUser [(.str "auth-provider",
        .map [(.str "args", .list [.null]), (.str "name", .int 5)])])) := by
  have change : Extended .plugin [(.str "name", .int 5)]
      [(.str "args", .list [.null]), (.str "name", .int 5)] :=
    .mk (fun name hn => by cases hn; rfl) (.list [.null]) [] [(.str "name", .int 5)]
  have h := within_ofUser (.field
    (show Part.user.fieldAt? "auth-provider" = some (⟨"auth-provider", "auth_provider"⟩, .plugin) from rfl) rfl
    (.here change) [] [])
  exact ⟨h, ofValue_of_extended h none⟩

/-! ## Values that stand alone -/

/-- The slot holds a list, and a value that is neither a list nor null stands for a list of itself. -/
def Slot.isList : Slot → Bool
  | groups | clusters | users | contexts => true
  | _ => false

/-- The value is neither null nor a list. -/
structure StandsAlone (v : Value) : Prop where
  notNull : v ≠ .null
  notList : ∀ vs, v ≠ .list vs

/-- A value that stands alone is put into a list: one in a field that holds a list, or an extra attribute. -/
inductive Listed (p : Part) : Entries → Entries → Prop
  | field {name : String} {f : Key × Slot} {v : Value} (spelled : p.fieldAt? name = some f)
    (isList : f.2.isList = true) (alone : StandsAlone v) (before after : Entries) :
    Listed p (before ++ (.str name, v) :: after) (before ++ (.str name, .list [v]) :: after)
  | extra {name : String} {f : Key × Slot} {v : Value} (spelled : p.fieldAt? name = some f)
    (isExtras : f.2 = .extras) (alone : StandsAlone v) (k : Value) (before after first rest : Entries) :
    Listed p (before ++ (.str name, .map (first ++ (k, v) :: rest)) :: after)
      (before ++ (.str name, .map (first ++ (k, .list [v]) :: rest)) :: after)

theorem StandsAlone.asList_eq {v : Value} (h : StandsAlone v) : asList v = asList (.list [v]) := by
  cases v with
  | null => exact absurd rfl h.notNull
  | list vs => exact absurd rfl (h.notList vs)
  | _ => rfl

theorem Slot.shape_listed {s : Slot} (isList : s.isList = true) {v : Value} (alone : StandsAlone v) :
    s.shape v = s.shape (.list [v]) := by
  cases s <;> cases isList
  case groups | clusters | users | contexts => exact congrArg (list _) alone.asList_eq

theorem extras_listed {v : Value} (alone : StandsAlone v) (k : Value) (first rest : Entries) :
    extras (.map (first ++ (k, v) :: rest)) = extras (.map (first ++ (k, .list [v]) :: rest)) := by
  have nonempty : ∀ w : Value, (Value.map (first ++ (k, w) :: rest)).isEmpty = false := fun w => by
    simp [Value.isEmpty]
  simp only [extras, nonempty, List.map_append, List.map_cons, alone.asList_eq]

theorem Part.read_listed {p : Part} {es es' : Entries} (h : Listed p es es') :
    p.read (.map es) = p.read (.map es') := by
  cases h with
  | field spelled isList alone before after =>
    refine read_replaced (fun f hf => ?_) before after
    rw [spelled] at hf
    cases hf
    exact Slot.shape_listed isList alone
  | @extra name f v spelled isExtras alone k before after first rest =>
    obtain ⟨key, slot⟩ := f
    cases isExtras
    refine read_replaced (fun f hf => ?_) before after
    rw [spelled] at hf
    cases hf
    exact extras_listed alone k first rest

/-- A value that stands alone where a list is wanted may stand in a list: the document is the same, or the
issues are, in the same places. -/
theorem ofValue_of_listed {es es' : Entries} (h : Within Listed .document es es') (source : Option String) :
    ofValue source (.map es) = ofValue source (.map es') :=
  ofValue_of_within (fun _ _ _ => Part.read_listed) h source

/-- An extra attribute that is no text, alone and in a list. -/
theorem ofValue_of_listed_sample :
    Within Listed .document (ofUser [(.str "as-user-extra", .map [(.str "scopes", .int 5)])])
      (ofUser [(.str "as-user-extra", .map [(.str "scopes", .list [.int 5])])]) ∧
    ofValue none (.map (ofUser [(.str "as-user-extra", .map [(.str "scopes", .int 5)])])) =
      ofValue none (.map (ofUser [(.str "as-user-extra", .map [(.str "scopes", .list [.int 5])])])) := by
  have change : Listed .user [(.str "as-user-extra", .map [(.str "scopes", .int 5)])]
      [(.str "as-user-extra", .map [(.str "scopes", .list [.int 5])])] :=
    .extra (show Part.user.fieldAt? "as-user-extra" =
      some (⟨"as-user-extra", "impersonate_user_extra"⟩, .extras) from rfl) rfl
      ⟨Value.noConfusion, fun _ => Value.noConfusion⟩ (.str "scopes") [] [] [] []
  have h := within_ofUser (.here change)
  exact ⟨h, ofValue_of_listed h none⟩

/-! ## Null -/

/-- The entries but for those of a name. -/
def without (name : String) (es : Entries) : Entries := es.filter fun e => !isText name e.1

theorem sameScalar_str (k : Value) (name : String) : k.sameScalar (.str name) = isText name k := by
  cases k with
  | float x => cases h : x.toInt? <;> simp [Value.sameScalar, Value.asInt?, isText, h]
  | _ => simp [Value.sameScalar, Value.asInt?, isText]

section Lookup

variable {name other : String}

theorem not_isText_of_ne (h : other ≠ name) {k : Value} (hk : isText other k = true) :
    isText name k = false := by
  rw [eq_str_of_isText hk]
  exact beq_false_of_ne h

theorem lookText_without_self (name : String) (es : Entries) : lookText name (without name es) = none := by
  simp [lookText, without]

theorem lookText_without_of_ne (h : other ≠ name) (es : Entries) :
    lookText other (without name es) = lookText other es := by
  have kept : ∀ k : Value, (!isText name k) = true ∧ isText other k = true ↔ isText other k = true :=
    fun k => and_iff_right_of_imp fun hk => by rw [not_isText_of_ne h hk, Bool.not_false]
  rw [lookText, lookText, without, List.find?_filter]
  simp only [kept, Bool.decide_eq_true]

theorem lookText_put_self (name : String) (v : Value) (es : Entries) :
    lookText name (Value.put (.str name) v es) = some v := by
  induction es with
  | nil => simp [Value.put, lookText, isText]
  | cons e rest ih =>
    rw [Value.put, sameScalar_str]
    cases he : isText name e.1 with
    | true => simp [lookText, he]
    | false =>
      rw [lookText] at ih ⊢
      simp [he, ih]

theorem lookText_put_of_ne (h : other ≠ name) (v : Value) (es : Entries) :
    lookText other (Value.put (.str name) v es) = lookText other es := by
  induction es with
  | nil => simp [Value.put, lookText, isText, Ne.symm h]
  | cons e rest ih =>
    rw [Value.put, sameScalar_str]
    cases he : isText name e.1 with
    | true =>
      have hn : isText other e.1 = false :=
        Bool.eq_false_iff.mpr fun ho => by simp [not_isText_of_ne h ho] at he
      simp [lookText, hn]
    | false =>
      rw [lookText, lookText] at ih
      cases ho : isText other e.1 <;> simp [lookText, ho, ih]

end Lookup

/-- Null under a spelling of a field that has a default, and the same entries without that spelling. -/
inductive NullOrAbsent (p : Part) : Entries → Entries → Prop
  | mk {f : Key × Slot} {name : String} (field : f ∈ p.fields) (default : f.2.default?.isSome = true)
    (spelled : Spells f.1 name) (es : Entries) :
    NullOrAbsent p (Value.put (.str name) .null es) (without name es)

/-- The slot holds the content of a named entry. -/
def Slot.isContent : Slot → Bool
  | cluster | user | context => true
  | _ => false

/-- The same where null is taken for absence: the field does not hold the content of a named entry, and null
does not stand under its first spelling when the second is there. -/
inductive NullForAbsent (p : Part) : Entries → Entries → Prop
  | mk {f : Key × Slot} {name : String} (field : f ∈ p.fields) (default : f.2.default?.isSome = true)
    (spelled : Spells f.1 name) (es : Entries) (notContent : f.2.isContent = false)
    (alone : name = f.1.name → lookText f.1.other (without name es) = none) :
    NullForAbsent p (Value.put (.str name) .null es) (without name es)

theorem Slot.shape_null {s : Slot} {d : s.Content} (default : s.default? = some d)
    (notContent : s.isContent = false) : s.shape .null = .ok d := by
  cases s <;> cases default <;> first | rfl | cases notContent

/-- What a field with null under one of its spellings holds is what it holds without that spelling. -/
theorem Slot.read_null {s : Slot} {d : s.Content} (default : s.default? = some d)
    (notContent : s.isContent = false) {key : Key} {name : String} (spelled : Spells key name) (es : Entries)
    (alone : name = key.name → lookText key.other (without name es) = none) :
    s.read key (Value.put (.str name) .null es) = s.read key (without name es) := by
  have null : ∀ es', key.find? es' = some (name, .null) → s.read key es' = .ok d := fun es' found => by
    rw [s.read_of_find? found, shape_null default notContent]
    rfl
  by_cases hn : name = key.name
  · have missing : key.find? (without name es) = none := by
      rw [Key.find?, alone hn, ← hn, lookText_without_self]
      rfl
    have found : key.find? (Value.put (.str name) .null es) = some (name, .null) := by
      rw [Key.find?, ← hn, lookText_put_self]
      rfl
    rw [null _ found, read_of_missing default missing]
  · have ho : name = key.other := spelled.resolve_left hn
    cases hfirst : lookText key.name es with
    | some v =>
      -- The first spelling is there and counts, whatever becomes of the second.
      refine s.read_congr ?_
      rw [Key.find?, Key.find?, lookText_put_of_ne (Ne.symm hn), lookText_without_of_ne (Ne.symm hn), hfirst]
      rfl
    | none =>
      have missing : key.find? (without name es) = none := by
        rw [Key.find?, lookText_without_of_ne (Ne.symm hn), hfirst, ← ho, lookText_without_self]
        rfl
      have found : key.find? (Value.put (.str name) .null es) = some (name, .null) := by
        rw [Key.find?, lookText_put_of_ne (Ne.symm hn), hfirst, ← ho, lookText_put_self]
        rfl
      rw [null _ found, read_of_missing default missing]

theorem Part.read_null {p : Part} {es es' : Entries} (h : NullForAbsent p es es') :
    p.read (.map es) = p.read (.map es') := by
  cases h with | @mk f name field default spelled es notContent alone
  obtain ⟨d, default⟩ := Option.isSome_iff_exists.mp default
  refine read_congr fun g hg => ?_
  by_cases hs : Spells g.1 name
  · have same := fieldAt?_of_mem hg hs
    rw [fieldAt?_of_mem field spelled] at same
    cases same
    exact Slot.read_null default notContent spelled es alone
  · obtain ⟨first, second⟩ := not_or.mp hs
    refine g.2.read_congr ?_
    rw [Key.find?, Key.find?, lookText_put_of_ne (Ne.symm first), lookText_put_of_ne (Ne.symm second),
      lookText_without_of_ne (Ne.symm first), lookText_without_of_ne (Ne.symm second)]

/-- Null under a key somewhere in a document gives what the document without that key gives: the same
document, or the same issues in the same places. -/
theorem ofValue_of_nullForAbsent {es es' : Entries} (h : Within NullForAbsent .document es es')
    (source : Option String) : ofValue source (.map es) = ofValue source (.map es') :=
  ofValue_of_within (fun _ _ _ => Part.read_null) h source

/-- A token that is no text is the one issue, with null for the groups and without groups. -/
theorem ofValue_of_nullForAbsent_sample :
    Within NullForAbsent .document (ofUser [(.str "as-groups", .null), (.str "token", .int 5)])
      (ofUser [(.str "token", .int 5)]) ∧
    ofValue none (.map (ofUser [(.str "as-groups", .null), (.str "token", .int 5)])) =
      ofValue none (.map (ofUser [(.str "token", .int 5)])) := by
  have change : NullForAbsent .user [(.str "as-groups", .null), (.str "token", .int 5)]
      [(.str "token", .int 5)] :=
    .mk (show (⟨"as-groups", "impersonate_groups"⟩, .groups) ∈ Part.user.fields by decide) rfl (.inl rfl)
      [(.str "as-groups", .null), (.str "token", .int 5)] rfl fun _ => rfl
  have h := within_ofUser (.here change)
  exact ⟨h, ofValue_of_nullForAbsent h none⟩

/-- A current context in the second spelling, and what is given in the first. -/
def secondSpelling (first : Entries) : Entries := first ++ [(.str "current_context", .str "a")]

/-- A cluster with what is given for its content. -/
def clusterWith (content : Entries) : Entries :=
  [(.str "clusters", .list [.map ((.str "name", .str "c") :: content)])]

/-- Null under the first spelling of a field hides the second, and null as the content of a named entry is
refused. -/
theorem null_is_not_always_absent :
    Within NullOrAbsent .document (secondSpelling [(.str "current-context", .null)]) (secondSpelling []) ∧
    (ofValue none (.map (secondSpelling [(.str "current-context", .null)]))).toOption.map (·.currentContext) =
      some none ∧
    (ofValue none (.map (secondSpelling []))).toOption.map (·.currentContext) = some (some "a") ∧
    Within NullOrAbsent .document (clusterWith [(.str "cluster", .null)]) (clusterWith []) ∧
    ofValue none (.map (clusterWith [(.str "cluster", .null)])) = .error (.document none
      (.misshapen ⟨[.key "clusters", .index 0, .key "cluster"], .notRecord "Cluster"⟩ [])) ∧
    (ofValue none (.map (clusterWith []))).toOption.map (fun k => k.clusters.map (·.name)) = some ["c"] := by
  have content : NullOrAbsent .namedCluster [(.str "name", .str "c"), (.str "cluster", .null)]
      [(.str "name", .str "c")] :=
    .mk (show (plain "cluster", .cluster) ∈ Part.namedCluster.fields by decide) rfl (.inl rfl)
      [(.str "name", .str "c")]
  refine ⟨.here (.mk (show (⟨"current-context", "current_context"⟩, .text) ∈ Part.document.fields by decide)
    rfl (.inl rfl) (secondSpelling [(.str "current-context", .null)])), rfl, rfl, ?_, rfl, rfl⟩
  exact .item (show Part.document.fieldAt? "clusters" = some (plain "clusters", .clusters) from rfl) rfl rfl
    (.here content) [] [] [] []

end ClusterAccess.Kubeconfig
