import ClusterAccess.Proofs.Outcome
import ClusterAccess.Proofs.SameShown
import Mathlib.Data.List.Forall2

/-!
# What a display tells of secrets

With secrets masked, a display tells of each only whether it is there and whether it is empty, and of a
plugin only its name and which settings it has. Two configurations that are alike in all that is no secret
look the same. Unmasked, a display has the same entries, and differs at the secrets only.
-/
namespace ClusterAccess

/-! ## Secrets and what is no secret -/

/-- How much a masked secret tells. -/
inductive Presence where
  | absent
  | empty
  | filled
  deriving DecidableEq, Repr

def Presence.of : Option String → Presence
  | none => .absent
  | some s => if s = "" then .empty else .filled

/-- What is shown of a secret that is masked. -/
def Presence.shown : Presence → Option Value
  | .absent => none
  | .empty => some (.str "")
  | .filled => some mask

theorem map_masked (s : Option String) : (s.map Value.str).map masked = (Presence.of s).shown := by
  cases s with
  | none => rfl
  | some t =>
    simp only [Presence.of, Option.map_some]
    split
    · next ht =>
      rw [ht]
      rfl
    · next ht => simp [masked, Value.isEmpty, Presence.shown, ht]

/-- Fields that hold no secret and are shown as a whole. -/
def Field.isOpen : Field → Bool
  | .oauthToken | .password | .proxyPassword | .clientKeyData | .clientKeyPassphrase
  | .trustStorePassphrase | .keyStorePassphrase => false
  | .authProvider | .tokenProvider | .contexts | .currentContext => false
  | _ => true

namespace Config

/-- The secrets of a configuration that are texts. -/
def secrets (c : Config) : List (Option String) :=
  [c.oauthToken, c.autoToken, c.value .password, c.value .proxyPassword, c.clientKeyData,
   some (c.value .clientKeyPassphrase), c.value .trustStorePassphrase, c.value .keyStorePassphrase]

/-- The names of the settings that the plugin has. -/
def settingNames (c : Config) : List String :=
  match c.authProvider with
  | some p => p.config.map (·.1)
  | none => []

/-- Both are alike but for their secrets: the same of them are there and the same are empty, the plugins
have settings of the same names, in any order, and all else is the same. Explicit values and the supplier
of tokens do not count, and contexts count by their names. -/
structure AlikeButSecrets (c d : Config) : Prop where
  secrets : c.secrets.map Presence.of = d.secrets.map Presence.of
  plugin : c.authProvider.map (·.name) = d.authProvider.map (·.name)
  settings : c.settingNames.Perm d.settingNames
  contexts : c.contexts.map (·.name) = d.contexts.map (·.name)
  current : c.currentContextName = d.currentContextName
  others : ∀ f : Field, f.isOpen = true → f.kind.same (c.value f) (d.value f) = true

end Config

/-! ## The plugin -/

namespace AuthProvider

/-- A plugin of a name with its settings on display. -/
def entry (name : String) (settings : Value) : Value :=
  .map [(.str "name", .str name), (.str "config", settings)]

theorem shown_eq (redact : Bool) (p : AuthProvider) : p.shown redact = p.settings.map fun settings =>
    entry p.name (textEntries (fun v => if redact then mask else v) settings) := by
  unfold shown
  cases p.settings <;> rfl

/-- The forms of settings stand under the names of the settings. -/
theorem names_of_settings {p : AuthProvider} {settings : List (String × Value)}
    (h : p.settings = .ok settings) : settings.map (·.1) = p.config.map (·.1) := by
  unfold AuthProvider.settings at h
  generalize p.config = config at h
  induction config generalizing settings with
  | nil =>
    cases h
    rfl
  | cons first rest ih =>
    rw [List.mapM_cons] at h
    obtain ⟨setting, formed, h⟩ := except_bind_eq_ok.mp h
    obtain ⟨others, ho, h⟩ := except_bind_eq_ok.mp h
    obtain ⟨value, _, formed⟩ := except_bind_eq_ok.mp formed
    cases h
    cases formed
    rw [List.map_cons, List.map_cons, ih ho]

/-- What is shown of a plugin, if there is one and it can be shown. -/
theorem mapM_shown_eq_ok {redact : Bool} {p? : Option AuthProvider} {plugin? : Option Value}
    (h : p?.mapM (shown redact) = .ok plugin?) : (p? = none ∧ plugin? = none) ∨
      ∃ p settings, p? = some p ∧ p.settings = .ok settings ∧
        plugin? = some (entry p.name (textEntries (fun v => if redact then mask else v) settings)) := by
  cases p? with
  | none =>
    cases h
    exact .inl ⟨rfl, rfl⟩
  | some p =>
    rw [Option.mapM_some, shown_eq] at h
    cases hs : p.settings with
    | error malformed =>
      rw [hs] at h
      cases h
    | ok settings =>
      rw [hs] at h
      cases h
      exact .inr ⟨p, settings, rfl, hs, rfl⟩

theorem same_entry {name : String} {v w : Value} (h : v.same w = true) :
    (entry name v).same (entry name w) = true := by
  simp [entry, Value.same, Value.sameEntries, Value.sameScalar, h]

/-- Masked settings look the same if they have the same names. -/
theorem same_masked {xs ys : List (String × Value)} (names : (xs.map (·.1)).Perm (ys.map (·.1))) :
    (textEntries (fun _ => mask) xs).same (textEntries (fun _ => mask) ys) = true := by
  have named : sameEntries (fun _ _ => true) xs ys = true := by
    have length : xs.length = ys.length := by simpa using names.length_eq
    simp only [sameEntries, length, beq_self_eq_true, Bool.true_and, List.all_eq_true]
    rintro ⟨name, x⟩ hx
    obtain ⟨e, he, hn⟩ := List.mem_map.mp (names.mem_iff.mp (List.mem_map_of_mem hx))
    have found : (ys.lookup name).isSome = true :=
      List.lookup_isSome_iff.mpr ⟨e, he, beq_iff_eq.mpr hn.symm⟩
    obtain ⟨y, hy⟩ := Option.isSome_iff_exists.mp found
    rw [hy]
  exact same_textEntries (fun _ _ _ => by simp [mask]) named

end AuthProvider

/-! ## The fields -/

theorem SameShown.secret {s t : Option String} (h : Presence.of s = Presence.of t) :
    SameShown ((s.map .str).map masked) ((t.map .str).map masked) := by
  rw [map_masked, map_masked, h]
  refine .of_eq rfl fun x hx => ?_
  cases hp : Presence.of t <;> rw [hp] at hx <;> cases hx <;> simp [mask]

namespace Field

variable {f : Field}

theorem isSecret_of_isOpen (h : f.isOpen = true) : f.isSecret = false := by
  cases f <;> first | rfl | cases h

theorem kind_of_isOpen (h : f.isOpen = true) : f.kind ≠ .authProvider ∧ f.kind ≠ .tokenProvider ∧
    f.kind ≠ .contexts ∧ f.kind ≠ .currentContext := by
  cases f <;> first | decide | cases h

end Field

namespace Config

theorem shownField?_eq (c : Config) (redact : Bool) (plugin? : Option Value) {f : Field}
    (plugin : f ≠ .authProvider) : c.shownField? redact plugin? f =
      (f.kind.shown? (c.value f)).map fun v => if redact && f.isSecret then masked v else v := by
  unfold shownField?
  split
  · exact absurd rfl plugin
  · rfl

/-- Apart from plugins and secrets, a field is shown as it is. -/
theorem shownField?_of_not_isSecret (c : Config) (redact : Bool) (plugin? : Option Value) {f : Field}
    (plugin : f ≠ .authProvider) (h : f.isSecret = false) :
    c.shownField? redact plugin? f = f.kind.shown? (c.value f) := by
  rw [shownField?_eq c redact plugin? plugin, h, Bool.and_false]
  exact Option.map_id'

variable {c d : Config}

/-- Field by field, both show the same if secrets are masked. -/
theorem AlikeButSecrets.same_shownField (alike : c.AlikeButSecrets d) {plugin plugin' : Option Value}
    (same : SameShown plugin plugin') (f : Field) :
    SameShown (c.shownField? true plugin f) (d.shownField? true plugin' f) := by
  have agree := alike.secrets
  simp only [Config.secrets, List.map_cons, List.map_nil, List.cons.injEq, and_true] at agree
  -- The second secret is the token that discovery found, which is no field.
  obtain ⟨oauth, -, password, proxy, key, passphrase, trustStore, keyStore⟩ := agree
  by_cases ho : f.isOpen = true
  · obtain ⟨authProvider, provider, contexts, current⟩ := Field.kind_of_isOpen ho
    have plugin : f ≠ .authProvider := fun h => authProvider (congrArg Field.kind h)
    rw [shownField?_of_not_isSecret c _ _ plugin (Field.isSecret_of_isOpen ho),
      shownField?_of_not_isSecret d _ _ plugin (Field.isSecret_of_isOpen ho)]
    exact FieldKind.same_shown authProvider provider contexts current (alike.others f ho)
  · cases f
    case oauthToken => exact .secret oauth
    case password => exact .secret password
    case proxyPassword => exact .secret proxy
    case clientKeyData => exact .secret key
    case clientKeyPassphrase => exact .secret passphrase
    case trustStorePassphrase => exact .secret trustStore
    case keyStorePassphrase => exact .secret keyStore
    case authProvider => exact same
    case tokenProvider => exact .none
    case contexts =>
      rw [shownField?_of_not_isSecret c _ _ Field.noConfusion rfl,
        shownField?_of_not_isSecret d _ _ Field.noConfusion rfl]
      refine .some ?_
      have names : c.contexts.map (·.name) = d.contexts.map (·.name) := alike.contexts
      show (textList (c.contexts.map (·.name))).same (textList (d.contexts.map (·.name))) = true
      rw [names, same_textList]
    case currentContext =>
      rw [shownField?_of_not_isSecret c _ _ Field.noConfusion rfl,
        shownField?_of_not_isSecret d _ _ Field.noConfusion rfl]
      exact .map_str alike.current
    all_goals exact absurd rfl ho

/-- What is shown of the token that discovery found. -/
def shownToken? (c : Config) (redact : Bool) : Option Value :=
  (c.autoToken.map .str).map fun v => if redact then masked v else v

/-- The entries of a display, given what is shown of the plugin. -/
def entries (c : Config) (redact : Bool) (plugin? : Option Value) : List (String × Value) :=
  Field.all.filterMap (fun f => (c.shownField? redact plugin? f).map (f.name, ·)) ++
    ((c.shownToken? redact).map (autoTokenName, ·)).toList

theorem display_eq (c : Config) (redact : Bool) : c.display redact =
    ((c.authProvider.mapM (AuthProvider.shown redact)).mapError Error.formless).map (c.entries redact) := by
  unfold display entries shownToken?
  rw [Option.map_map, Option.map_map]
  cases (c.authProvider.mapM (AuthProvider.shown redact)).mapError Error.formless <;> rfl

theorem display_eq_ok {redact : Bool} {shown : List (String × Value)} :
    c.display redact = .ok shown ↔ ∃ plugin?,
      c.authProvider.mapM (AuthProvider.shown redact) = .ok plugin? ∧ c.entries redact plugin? = shown := by
  rw [display_eq]
  cases c.authProvider.mapM (AuthProvider.shown redact) <;> simp [Except.mapError, Except.map]

end Config

/-! ## Displays side by side -/

theorem forall₂_filterMap {α β : Type} {R : β → β → Prop} {g g' : α → Option β} {xs : List α}
    (h : ∀ a, Option.Rel R (g a) (g' a)) : List.Forall₂ R (xs.filterMap g) (xs.filterMap g') := by
  induction xs with
  | nil => exact .nil
  | cons a rest ih =>
    rw [List.filterMap_cons, List.filterMap_cons]
    cases hg : g a <;> cases hg' : g' a
    all_goals
      have ha := h a
      rw [hg, hg'] at ha
      cases ha
    · exact ih
    · exact .cons ‹_› ih

theorem forall₂_toList {β : Type} {R : β → β → Prop} {a b : Option β} (h : Option.Rel R a b) :
    List.Forall₂ R a.toList b.toList := by
  cases h with
  | none => exact .nil
  | some hr => exact .cons hr .nil

/-- Two entries of one name with the same value. -/
def SameEntry (a b : String × Value) : Prop := a.1 = b.1 ∧ a.2.same b.2 = true

theorem SameShown.entry {v w : Option Value} (h : SameShown v w) (name : String) :
    Option.Rel SameEntry (v.map (name, ·)) (w.map (name, ·)) := by
  cases h with
  | none => exact .none
  | some same => exact .some ⟨rfl, same⟩

namespace Config

variable {c d : Config}

theorem AlikeButSecrets.same_plugin (alike : c.AlikeButSecrets d) {plugin plugin' : Option Value}
    (hc : c.authProvider.mapM (AuthProvider.shown true) = .ok plugin)
    (hd : d.authProvider.mapM (AuthProvider.shown true) = .ok plugin') : SameShown plugin plugin' := by
  have name := alike.plugin
  rcases AuthProvider.mapM_shown_eq_ok hc with ⟨hp, rfl⟩ | ⟨p, settings, hp, formed, rfl⟩
  · rcases AuthProvider.mapM_shown_eq_ok hd with ⟨_, rfl⟩ | ⟨q, _, hq, _, rfl⟩
    · exact .none
    · rw [hp, hq] at name
      cases name
  · rcases AuthProvider.mapM_shown_eq_ok hd with ⟨hq, rfl⟩ | ⟨q, settings', hq, formed', rfl⟩
    · rw [hp, hq] at name
      cases name
    · rw [hp, hq] at name
      have name : p.name = q.name := Option.some.inj name
      have names := alike.settings
      rw [settingNames, settingNames, hp, hq] at names
      have names : (p.config.map (·.1)).Perm (q.config.map (·.1)) := names
      rw [← AuthProvider.names_of_settings formed, ← AuthProvider.names_of_settings formed'] at names
      rw [name]
      exact .some (AuthProvider.same_entry (AuthProvider.same_masked names))

theorem AlikeButSecrets.same_display (alike : c.AlikeButSecrets d) {shown shown' : List (String × Value)}
    (hc : c.display true = .ok shown) (hd : d.display true = .ok shown') :
    List.Forall₂ SameEntry shown shown' := by
  obtain ⟨plugin, hp, rfl⟩ := display_eq_ok.mp hc
  obtain ⟨plugin', hp', rfl⟩ := display_eq_ok.mp hd
  have token : SameShown (c.shownToken? true) (d.shownToken? true) := by
    have agree := alike.secrets
    simp only [Config.secrets, List.map_cons, List.cons.injEq] at agree
    exact .secret agree.2.1
  have fields : ∀ f : Field, Option.Rel SameEntry ((c.shownField? true plugin f).map (f.name, ·))
      ((d.shownField? true plugin' f).map (f.name, ·)) := fun f =>
    (alike.same_shownField (alike.same_plugin hp hp') f).entry f.name
  exact List.rel_append (forall₂_filterMap fields) (forall₂_toList (token.entry autoTokenName))

end Config

/-! ## Masked and unmasked -/

/-- The names of the secrets. -/
def secretNames : List String :=
  ["oauth_token", "auto_oauth_token", "password", "proxy_password", "client_key_data",
   "client_key_passphrase", "trust_store_passphrase", "key_store_passphrase"]

/-- An entry of a masked display beside the one in its place when unmasked: the same, or one of a secret, or
the plugin, whose settings are all masked and otherwise the same. -/
inductive Redacts : String × Value → String × Value → Prop where
  | same (e : String × Value) : Redacts e e
  | secret {name : String} (secret : name ∈ secretNames) (v : Value) : Redacts (name, masked v) (name, v)
  | plugin (name : String) (settings : List (String × Value)) :
    Redacts ("auth_provider", AuthProvider.entry name (textEntries (fun _ => mask) settings))
      ("auth_provider", AuthProvider.entry name (textEntries id settings))

theorem Redacts.name_eq {a b : String × Value} (h : Redacts a b) : a.1 = b.1 := by
  cases h <;> rfl

theorem names_of_redacts {masked plain : List (String × Value)} (h : List.Forall₂ Redacts masked plain) :
    masked.map (·.1) = plain.map (·.1) := by
  induction h with
  | nil => rfl
  | cons first _ ih => rw [List.map_cons, List.map_cons, first.name_eq, ih]

theorem Field.name_mem_secretNames {f : Field} (h : f.isSecret = true) : f.name ∈ secretNames := by
  cases f <;> first | decide | cases h

namespace Config

/-- Field by field, a masked display stands beside the unmasked one. -/
theorem redacts_shownField (c : Config) {masked plain : Option Value}
    (plugin : Option.Rel Redacts (masked.map (Field.authProvider.name, ·))
      (plain.map (Field.authProvider.name, ·))) (f : Field) :
    Option.Rel Redacts ((c.shownField? true masked f).map (f.name, ·))
      ((c.shownField? false plain f).map (f.name, ·)) := by
  by_cases hp : f = .authProvider
  · subst hp
    exact plugin
  · by_cases hs : f.isSecret = true
    · rw [shownField?_eq c _ _ hp, shownField?_eq c _ _ hp, hs]
      cases f.kind.shown? (c.value f) with
      | none => exact .none
      | some v => exact .some (.secret (Field.name_mem_secretNames hs) v)
    · have hs : f.isSecret = false := Bool.eq_false_iff.mpr hs
      rw [shownField?_of_not_isSecret c _ _ hp hs, shownField?_of_not_isSecret c _ _ hp hs]
      cases f.kind.shown? (c.value f) with
      | none => exact .none
      | some v => exact .some (.same _)

/-- The settings of a plugin can be shown or not, masked or not. -/
theorem display_eq_error (c : Config) (e : Error) :
    c.display true = .error e ↔ c.display false = .error e := by
  rw [display_eq, display_eq]
  cases c.authProvider with
  | none => simp [Except.mapError, Except.map, pure, Except.pure]
  | some p =>
    rw [Option.mapM_some, Option.mapM_some, AuthProvider.shown_eq, AuthProvider.shown_eq]
    cases p.settings with
    | error malformed => exact Iff.rfl
    | ok settings => constructor <;> (intro h; cases h)

theorem redacts_display {c : Config} {masked plain : List (String × Value)}
    (hm : c.display true = .ok masked) (hp : c.display false = .ok plain) :
    List.Forall₂ Redacts masked plain := by
  obtain ⟨plugin, hplugin, rfl⟩ := display_eq_ok.mp hm
  obtain ⟨plugin', hplugin', rfl⟩ := display_eq_ok.mp hp
  have plugins : Option.Rel Redacts (plugin.map (Field.authProvider.name, ·))
      (plugin'.map (Field.authProvider.name, ·)) := by
    rcases AuthProvider.mapM_shown_eq_ok hplugin with ⟨absent, rfl⟩ | ⟨p, settings, there, formed, rfl⟩
    · rw [absent] at hplugin'
      cases hplugin'
      exact .none
    · rcases AuthProvider.mapM_shown_eq_ok hplugin' with ⟨absent, rfl⟩ | ⟨q, settings', there', formed', rfl⟩
      · rw [absent] at there
        cases there
      · rw [there] at there'
        cases there'
        rw [formed] at formed'
        cases formed'
        exact .some (.plugin _ _)
  refine List.rel_append (forall₂_filterMap (c.redacts_shownField plugins)) (forall₂_toList ?_)
  unfold shownToken?
  cases c.autoToken with
  | none => exact .none
  | some token => exact .some (.secret (by decide) _)

/-- Masked, displays do not tell configurations apart that are alike but for their secrets. Masking leaves
the entries of a display in their places and changes the secrets among them only, and whether there is a
display at all does not depend on it. -/
theorem display_redacted (c : Config) :
    (∀ d, c.AlikeButSecrets d → ∀ shown shown', c.display true = .ok shown →
      d.display true = .ok shown' → List.Forall₂ SameEntry shown shown') ∧
    (∀ e, c.display true = .error e ↔ c.display false = .error e) ∧
    ∀ masked plain, c.display true = .ok masked → c.display false = .ok plain →
      masked.map (·.1) = plain.map (·.1) ∧ List.Forall₂ Redacts masked plain := by
  refine ⟨fun d alike shown shown' hc hd => alike.same_display hc hd, c.display_eq_error,
    fun masked plain hm hp => ?_⟩
  have beside := redacts_display hm hp
  exact ⟨names_of_redacts beside, beside⟩

/-- A token, and a plugin with a secret of its own. -/
def withSecrets (token setting : String) : Config :=
  (default.set .oauthToken (some token)).set .authProvider (some ⟨"helper", [("key", .str setting)]⟩)

theorem withSecrets_alike {token other : String} (there : token ≠ "") (there' : other ≠ "")
    (setting another : String) : (withSecrets token setting).AlikeButSecrets (withSecrets other another) where
  secrets := by
    have present : ∀ t : String, t ≠ "" → Presence.of (some t) = .filled := fun t ht => if_neg ht
    show Presence.of (some token) :: _ = Presence.of (some other) :: _
    rw [present token there, present other there']
    rfl
  plugin := rfl
  settings := List.Perm.refl ["key"]
  contexts := rfl
  current := rfl
  others f hf := by
    cases f
    all_goals first | exact beq_self_eq_true _ | exact RequestPolicy.same_refl _ | rfl | cases hf

/-- Two tokens look the same, and so do two settings of the plugin. -/
theorem display_redacted_sample : ∃ shown shown' plain,
    (withSecrets "mine" "x").display true = .ok shown ∧
    (withSecrets "theirs" "y").display true = .ok shown' ∧
    (withSecrets "mine" "x").display false = .ok plain ∧
    List.Forall₂ SameEntry shown shown' ∧ shown.map (·.1) = plain.map (·.1) := by
  obtain ⟨alike, -, beside⟩ := display_redacted (withSecrets "mine" "x")
  refine ⟨_, _, _, rfl, rfl, rfl, ?_, ?_⟩
  · exact alike _ (withSecrets_alike (by decide) (by decide) "x" "y") _ _ rfl rfl
  · exact (beside _ _ rfl rfl).1

end Config

end ClusterAccess
