import ClusterAccess.Kubeconfig.Parse

/-!
# The mappings of a document

A document is made of mappings of eight kinds, each with its own fields. A mapping is read through the
look-ups of its fields and nothing else, so a change that its fields do not notice is not noticed by the
document around it either: `Within` is a change of one mapping at any depth, and `ofValue_of_within` says
that the document, or the list of issues with their places, stays the same.
-/
namespace ClusterAccess

deriving instance DecidableEq for Shape.Key

namespace Kubeconfig

open Shape

/-! ## Fields -/

/-- What stands in a field of a mapping. -/
inductive Slot where
  | name
  | text
  | truth
  | path
  | settings
  | groups
  | extras
  | plugin
  | cluster
  | user
  | context
  | clusters
  | users
  | contexts
  deriving DecidableEq, Repr

/-- The kinds of mapping that a document is made of. -/
inductive Part where
  | document
  | namedCluster
  | namedUser
  | namedContext
  | cluster
  | user
  | context
  | plugin
  deriving DecidableEq, Repr

namespace Part

abbrev Content : Part → Type
  | document => Kubeconfig
  | namedCluster => Named Cluster
  | namedUser => Named User
  | namedContext => Named Context
  | cluster => Cluster
  | user => User
  | context => Context
  | plugin => AuthProvider

def read : (p : Part) → Value → Checked p.Content
  | document => record "KubeConfigDocument" ofEntries
  | namedCluster => named "NamedCluster" "cluster" .empty Kubeconfig.cluster
  | namedUser => named "NamedAuthInfo" "user" .empty Kubeconfig.user
  | namedContext => Kubeconfig.namedContext
  | cluster => Kubeconfig.cluster
  | user => Kubeconfig.user
  | context => Kubeconfig.context
  | plugin => authProvider

def fields : Part → List (Key × Slot)
  | document =>
    [(⟨"apiVersion", "api_version"⟩, .text), (plain "kind", .text), (plain "clusters", .clusters),
     (plain "users", .users), (plain "contexts", .contexts),
     (⟨"current-context", "current_context"⟩, .text), (plain "source_file", .path)]
  | namedCluster => [(plain "name", .name), (plain "cluster", .cluster), (plain "source_file", .path)]
  | namedUser => [(plain "name", .name), (plain "user", .user), (plain "source_file", .path)]
  | namedContext => [(plain "name", .name), (plain "context", .context), (plain "source_file", .path)]
  | cluster =>
    [(plain "server", .text), (⟨"certificate-authority", "certificate_authority"⟩, .text),
     (⟨"certificate-authority-data", "certificate_authority_data"⟩, .text),
     (⟨"insecure-skip-tls-verify", "insecure_skip_tls_verify"⟩, .truth), (⟨"proxy-url", "proxy_url"⟩, .text),
     (⟨"tls-server-name", "tls_server_name"⟩, .text)]
  | user =>
    [(⟨"client-certificate", "client_certificate"⟩, .text),
     (⟨"client-certificate-data", "client_certificate_data"⟩, .text), (⟨"client-key", "client_key"⟩, .text),
     (⟨"client-key-data", "client_key_data"⟩, .text), (plain "token", .text),
     (⟨"tokenFile", "token_file"⟩, .text), (plain "username", .text), (plain "password", .text),
     (⟨"auth-provider", "auth_provider"⟩, .plugin), (⟨"as", "impersonate"⟩, .text),
     (⟨"as-groups", "impersonate_groups"⟩, .groups), (⟨"as-user-extra", "impersonate_user_extra"⟩, .extras)]
  | context => [(plain "cluster", .text), (plain "user", .text), (plain "namespace", .text)]
  | plugin => [(plain "name", .name), (plain "config", .settings)]

/-- The field that a name spells. -/
def fieldAt? (p : Part) (name : String) : Option (Key × Slot) :=
  p.fields.find? fun f => f.1.name == name || f.1.other == name

end Part

/-- The name is one of the two spellings of the key. -/
def Spells (key : Key) (name : String) : Prop := name = key.name ∨ name = key.other

/-- No name spells two fields of a mapping. -/
theorem Part.fieldAt?_of_mem {p : Part} {f : Key × Slot} (h : f ∈ p.fields) {name : String}
    (spelled : Spells f.1 name) : p.fieldAt? name = some f := by
  have both : ∀ f ∈ p.fields, p.fieldAt? f.1.name = some f ∧ p.fieldAt? f.1.other = some f := by
    cases p <;> decide
  rcases spelled with rfl | rfl
  · exact (both f h).1
  · exact (both f h).2

namespace Slot

abbrev Content : Slot → Type
  | name => String
  | text => Option String
  | truth => Option Bool
  | path => Option Path
  | settings => List (String × Value)
  | groups => List String
  | extras => List (String × List String)
  | plugin => Option AuthProvider
  | cluster => Cluster
  | user => User
  | context => Context
  | clusters => List (Named Cluster)
  | users => List (Named User)
  | contexts => List (Named Context)

def shape : (s : Slot) → Value → Checked s.Content
  | name => Shape.text
  | text => optional Shape.text
  | truth => optional Shape.truth
  | path => optional Shape.path
  | settings => fun v => mapping .ok (if v.isEmpty then .map [] else v)
  | groups => fun v => list Shape.text (asList v)
  | extras => Kubeconfig.extras
  | plugin => optional Part.plugin.read
  | cluster => Part.cluster.read
  | user => Part.user.read
  | context => Part.context.read
  | clusters => fun v => list Part.namedCluster.read (asList v)
  | users => fun v => list Part.namedUser.read (asList v)
  | contexts => fun v => list Part.namedContext.read (asList v)

/-- What a field holds that is missing. A name has to be there. -/
def default? : (s : Slot) → Option s.Content
  | name => none
  | text | truth | path | plugin => some none
  | settings | groups | extras | clusters | users | contexts => some []
  | cluster => some .empty
  | user => some .empty
  | context => some .empty

def read (s : Slot) (key : Key) (es : Entries) : Checked s.Content :=
  match s.default? with
  | some d => field key d s.shape es
  | none => required key s.shape es

variable {s : Slot} {key : Key} {es es' : Entries}

/-- A field depends on what is found under its key. -/
theorem read_congr (s : Slot) (h : key.find? es = key.find? es') : s.read key es = s.read key es' := by
  unfold read field required
  rw [h]

theorem read_of_find? (s : Slot) {name : String} {v : Value} (h : key.find? es = some (name, v)) :
    s.read key es = (s.shape v).under (.key name) := by
  unfold read field required
  rw [h]
  cases s.default? <;> rfl

theorem read_of_missing {d : s.Content} (default : s.default? = some d) (h : key.find? es = none) :
    s.read key es = .ok d := by
  simp only [read, default, field, h]

/-- The mappings that the slot holds: itself, or the entries of a section. -/
def part? : Slot → Option Part
  | plugin => some .plugin
  | cluster => some .cluster
  | user => some .user
  | context => some .context
  | clusters => some .namedCluster
  | users => some .namedUser
  | contexts => some .namedContext
  | _ => none

/-- The slot holds a list of named entries. -/
def isSection : Slot → Bool
  | clusters | users | contexts => true
  | _ => false

end Slot

/-- A mapping is read through its fields, each on its own. -/
theorem Part.read_congr {p : Part} {es es' : Entries}
    (h : ∀ f ∈ p.fields, f.2.read f.1 es = f.2.read f.1 es') : p.read (.map es) = p.read (.map es') := by
  cases p
  all_goals
    simp only [fields, List.forall_mem_cons, Slot.read, Slot.default?, Slot.shape, read,
      Kubeconfig.namedContext] at h
    simp only [read, record, ofEntries, named, Kubeconfig.namedContext, Kubeconfig.cluster, Kubeconfig.user,
      Kubeconfig.context, authProvider, section?, maybe]
    simp only [h]

/-! ## One entry changed -/

theorem lookText_insert {other : String} {k : Value} (h : isText other k = false) (before after : Entries)
    (v : Value) : lookText other (before ++ (k, v) :: after) = lookText other (before ++ after) := by
  simp [lookText, List.find?_append, h]

theorem lookText_of_ne {name other : String} (h : other ≠ name) (before after : Entries) (v : Value) :
    lookText other (before ++ (.str name, v) :: after) = lookText other (before ++ after) :=
  lookText_insert (show isText other (.str name) = false from beq_false_of_ne (Ne.symm h)) before after v

/-- An entry is looked up under its name, or another of that name stands before it. -/
theorem lookText_middle (name : String) (before after : Entries) :
    (∀ v, lookText name (before ++ (.str name, v) :: after) = some v) ∨
      ∀ v, lookText name (before ++ (.str name, v) :: after) = lookText name before := by
  have hs : isText name (.str name) = true := beq_self_eq_true name
  cases hb : before.find? fun e => isText name e.1 with
  | none => exact .inl fun v => by simp [lookText, List.find?_append, hb, hs]
  | some e => exact .inr fun v => by simp [lookText, List.find?_append, hb]

/-- A field finds a value under a name that spells it, or does not look there. -/
theorem find?_middle (key : Key) (name : String) (before after : Entries) :
    (Spells key name ∧ ∀ v, key.find? (before ++ (.str name, v) :: after) = some (name, v)) ∨
      ∀ v v', key.find? (before ++ (.str name, v) :: after) = key.find? (before ++ (.str name, v') :: after) := by
  unfold Key.find?
  by_cases hn : name = key.name
  · subst hn
    rcases lookText_middle key.name before after with found | hidden
    · exact .inl ⟨.inl rfl, fun v => by rw [found]; rfl⟩
    · refine .inr fun v v' => ?_
      rw [hidden, hidden]
      by_cases ho : key.other = key.name
      · rw [ho, hidden, hidden]
      · rw [lookText_of_ne ho, lookText_of_ne ho]
  · simp only [lookText_of_ne (Ne.symm hn)]
    cases lookText key.name (before ++ after) with
    | some w => exact .inr fun _ _ => rfl
    | none =>
      by_cases ho : name = key.other
      · subst ho
        rcases lookText_middle key.other before after with found | hidden
        · exact .inl ⟨.inr rfl, fun v => by rw [found]; rfl⟩
        · exact .inr fun v v' => by rw [hidden, hidden]
      · exact .inr fun v v' => by rw [lookText_of_ne (Ne.symm ho), lookText_of_ne (Ne.symm ho)]

/-- The value of a field may change into one that is read alike. -/
theorem Part.read_replaced {p : Part} {name : String} {v v' : Value}
    (alike : ∀ f, p.fieldAt? name = some f → f.2.shape v = f.2.shape v') (before after : Entries) :
    p.read (.map (before ++ (.str name, v) :: after)) = p.read (.map (before ++ (.str name, v') :: after)) := by
  refine read_congr fun f hf => ?_
  rcases find?_middle f.1 name before after with ⟨spelled, found⟩ | same
  · rw [f.2.read_of_find? (found v), f.2.read_of_find? (found v'), alike f (fieldAt?_of_mem hf spelled)]
  · exact f.2.read_congr (same v v')

/-! ## Changes at any depth -/

/-- One mapping of the document is changed, as `R` says of mappings of its kind: the mapping itself, or one in
a field of it, or one in a list that stands in a field of it. -/
inductive Within (R : Part → Entries → Entries → Prop) : Part → Entries → Entries → Prop
  | here {p : Part} {es es' : Entries} (change : R p es es') : Within R p es es'
  | field {p q : Part} {name : String} {f : Key × Slot} {es es' : Entries} (spelled : p.fieldAt? name = some f)
    (holds : f.2.part? = some q) (inner : Within R q es es') (before after : Entries) :
    Within R p (before ++ (.str name, .map es) :: after) (before ++ (.str name, .map es') :: after)
  | item {p q : Part} {name : String} {f : Key × Slot} {es es' : Entries} (spelled : p.fieldAt? name = some f)
    (listed : f.2.isSection = true) (holds : f.2.part? = some q) (inner : Within R q es es')
    (before after : Entries) (first rest : List Value) :
    Within R p (before ++ (.str name, .list (first ++ .map es :: rest)) :: after)
      (before ++ (.str name, .list (first ++ .map es' :: rest)) :: after)

theorem items_replaced {α : Type} {shape : Value → Checked α} {v v' : Value} (h : shape v = shape v')
    (first rest : List Value) (start : Nat) :
    items shape start (first ++ v :: rest) = items shape start (first ++ v' :: rest) := by
  induction first generalizing start with
  | nil => simp only [List.nil_append, items, h]
  | cons w others ih => simp only [List.cons_append, items, ih]

theorem list_replaced {α : Type} {shape : Value → Checked α} {v v' : Value} (h : shape v = shape v')
    (first rest : List Value) :
    list shape (.list (first ++ v :: rest)) = list shape (.list (first ++ v' :: rest)) :=
  congrArg Checked.all (items_replaced h first rest 0)

/-- A mapping in a field, or alone in a section, may change into one that is read alike. -/
theorem Slot.shape_replaced {s : Slot} {q : Part} (holds : s.part? = some q) {es es' : Entries}
    (h : q.read (.map es) = q.read (.map es')) : s.shape (.map es) = s.shape (.map es') := by
  cases s <;> cases holds
  case plugin => exact congrArg (Checked.map some) h
  case cluster | user | context => exact h
  case clusters | users | contexts => exact list_replaced h [] []

theorem Slot.shape_replaced_item {s : Slot} {q : Part} (listed : s.isSection = true) (holds : s.part? = some q)
    {v v' : Value} (h : q.read v = q.read v') (first rest : List Value) :
    s.shape (.list (first ++ v :: rest)) = s.shape (.list (first ++ v' :: rest)) := by
  cases s <;> cases listed <;> cases holds
  case clusters | users | contexts => exact list_replaced h first rest

/-- A change that is not noticed where it is made is not noticed at all. -/
theorem Part.read_of_within {R : Part → Entries → Entries → Prop}
    (unnoticed : ∀ p es es', R p es es' → p.read (.map es) = p.read (.map es')) {p : Part} {es es' : Entries}
    (h : Within R p es es') : p.read (.map es) = p.read (.map es') := by
  induction h with
  | here change => exact unnoticed _ _ _ change
  | field spelled holds _ before after ih =>
    refine read_replaced (fun f hf => ?_) before after
    rw [spelled] at hf
    cases hf
    exact Slot.shape_replaced holds ih
  | item spelled listed holds _ before after first rest ih =>
    refine read_replaced (fun f hf => ?_) before after
    rw [spelled] at hf
    cases hf
    exact Slot.shape_replaced_item listed holds ih first rest

/-- The same for the document as a whole: it is the same document, or the same error with the same issues. -/
theorem ofValue_of_within {R : Part → Entries → Entries → Prop}
    (unnoticed : ∀ p es es', R p es es' → p.read (.map es) = p.read (.map es')) {es es' : Entries}
    (h : Within R .document es es') (source : Option String) :
    ofValue source (.map es) = ofValue source (.map es') := by
  have same : ofEntries es = ofEntries es' := Part.read_of_within unnoticed h
  rw [ofValue, ofValue, same]

/-! A document with one user, for changes within that user. -/

/-- A document whose one user has these settings. -/
def ofUser (settings : Entries) : Entries :=
  [(.str "users", .list [.map [(.str "name", .str "u"), (.str "user", .map settings)]])]

theorem within_ofUser {R : Part → Entries → Entries → Prop} {es es' : Entries} (h : Within R .user es es') :
    Within R .document (ofUser es) (ofUser es') := by
  have named : Within R .namedUser [(.str "name", .str "u"), (.str "user", .map es)]
      [(.str "name", .str "u"), (.str "user", .map es')] :=
    .field (show Part.namedUser.fieldAt? "user" = some (plain "user", .user) from rfl) rfl h
      [(.str "name", .str "u")] []
  exact .item (show Part.document.fieldAt? "users" = some (plain "users", .users) from rfl) rfl rfl named
    [] [] [] []

end Kubeconfig

end ClusterAccess
