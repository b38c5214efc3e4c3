import ClusterAccess.Proofs.Concatenation

/-!
# The token that a user brings

A user's token may stand inline, in a file, or among the settings of a plugin. The first of these places
that has a text counts; a file that cannot be read or is blank is passed over. The plugin is asked, and
remembered, only if the user has no token of its own.
-/
namespace ClusterAccess

/-! ## Settings that are there have a text -/

namespace Calendar

theorem Date.iso_ne_empty (d : Date) : d.iso ≠ "" := by
  have dash : toString "-" ≠ "" := by decide
  simp [Date.iso, dash]

theorem DateTime.format_ne_empty (t : DateTime) (separator : String) (zone : Int → String) :
    t.format separator zone ≠ "" := by
  have colon : toString ":" ≠ "" := by decide
  simp [DateTime.format, colon]

end Calendar

theorem Double.layout_ne_nil (ds : List Char) (point : Int) : layout ds point ≠ [] := by
  unfold layout
  split
  · split <;> simp
  · simp

theorem Double.text_ne_empty (x : Double) : x.text ≠ "" := by
  unfold text
  dsimp only
  split
  · decide
  · split
    · simp
    · split <;> simp [layout_ne_nil]

/-- The text of a value is empty for the empty text only, which counts as an empty value. -/
theorem Value.text_ne_empty {v : Value} (h : v.isEmpty = false) : v.text ≠ "" := by
  cases v with
  | null => cases h
  | bool b => cases b <;> decide
  | int i =>
    cases i with
    | ofNat n => exact Nat.repr_ne_empty
    | negSucc n => simp [text, literal, Int.repr]
  | float x => exact x.text_ne_empty
  | str s => simpa [isEmpty, text] using h
  | bytes octets => simp [text, literal, bytesLiteral]
  | date d => exact d.iso_ne_empty
  | dateTime t => exact t.format_ne_empty " " Calendar.offsetText
  | list items => simp [text, literal]
  | pair a b => simp [text, literal]
  | set members =>
    cases members with
    | nil => cases h
    | cons first rest => simp [text, literal]
  | map entries => simp [text, literal]
  | again isMap => cases isMap <;> decide

namespace Merge

theorem isEmpty_of_setting? {p : AuthProvider} {key : String} {v : Value} (h : setting? p key = some v) :
    v.isEmpty = false := by
  unfold setting? at h
  split at h
  · split at h
    · cases h
    · next full =>
      cases h
      exact Bool.eq_false_iff.mpr full
  · cases h

theorem settingToken_ne_empty {p : AuthProvider} {key t : String} (h : settingToken p key = some t) :
    t ≠ "" := by
  obtain ⟨v, hv, rfl⟩ := Option.map_eq_some_iff.mp h
  exact Value.text_ne_empty (isEmpty_of_setting? hv)

theorem filled_settingToken (p : AuthProvider) (key : String) :
    filled (settingToken p key) = settingToken p key := by
  cases h : settingToken p key with
  | none => rfl
  | some t => exact filled_of_ne (settingToken_ne_empty h)

theorem providerToken_eq (p : AuthProvider) : providerToken p = tokenSettings.findSome? (settingToken p) :=
  List.map_findSome?

theorem filled_providerToken (p : AuthProvider) : filled (providerToken p) = providerToken p := by
  cases h : providerToken p with
  | none => rfl
  | some t =>
    obtain ⟨key, _, hk⟩ := List.exists_of_findSome?_eq_some ((providerToken_eq p).symm.trans h)
    exact filled_of_ne (settingToken_ne_empty hk)

theorem filled_askedToken (u : Named User) :
    filled (u.value.authProvider.bind providerToken) = u.value.authProvider.bind providerToken := by
  cases u.value.authProvider with
  | none => rfl
  | some p => exact filled_providerToken p

/-! ## The places in order -/

/-- What the places hold where a user's token may be, the preferred one first. -/
def tokenPlaces (fs : FileSystem) (u : Named User) : List (Option String) :=
  [u.value.token, fileToken fs u] ++
    tokenSettings.map fun key => u.value.authProvider.bind fun p => settingToken p key

theorem filled_plainToken (fs : FileSystem) (u : Named User) :
    filled (plainToken fs u) = (filled u.value.token).or (filled (fileToken fs u)) := by
  unfold plainToken
  cases inline : filled u.value.token with
  | some t => exact filled_of_ne (filled_eq_some_iff.mp inline).2
  | none =>
    rw [Option.none_or, Option.none_or]
    split
    · rfl
    · next unnamed =>
      rw [inline, fileToken, Option.not_isSome_iff_eq_none.mp unnamed]
      rfl

/-- The user brings the first token that is there and not empty. -/
theorem filled_token (fs : FileSystem) (u : Named User) :
    filled (token fs u) = (tokenPlaces fs u).findSome? filled := by
  have settings : (tokenSettings.map fun key =>
      u.value.authProvider.bind fun p => settingToken p key).findSome? filled =
        u.value.authProvider.bind providerToken := by
    rw [List.findSome?_map]
    cases u.value.authProvider with
    | none => rfl
    | some p =>
      have full : filled ∘ settingToken p = settingToken p := funext (filled_settingToken p)
      exact (congrArg (tokenSettings.findSome? ·) full).trans (providerToken_eq p).symm
  have places : (tokenPlaces fs u).findSome? filled =
      (filled (plainToken fs u)).or (u.value.authProvider.bind providerToken) := by
    rw [tokenPlaces, List.findSome?_append, settings, filled_plainToken]
    simp only [List.findSome?_cons, List.findSome?_nil]
    cases filled u.value.token <;> cases filled (fileToken fs u) <;> rfl
  rw [places]
  unfold token
  cases own : filled (plainToken fs u) with
  | some t => exact filled_of_ne (filled_eq_some_iff.mp own).2
  | none =>
    rw [Option.none_or, Option.none_or]
    cases asked : u.value.authProvider.bind providerToken with
    | none => exact own
    | some t =>
      rw [Option.some_or, ← asked]
      exact filled_askedToken u

/-! ## Merged documents -/

/-- The selected context refers to a cluster that is there, and to this user. -/
structure Selects (wanted : Option String) (docs : List Kubeconfig) (context : Named Context)
    (u : Named User) : Prop where
  chosen : ∃ name, selectedName wanted docs = some name ∧ findNamed? name (contexts docs) = some context
  known : ∃ cluster, findNamed? (context.value.cluster.getD "") (clusters docs) = some cluster
  user : findNamed? (context.value.user.getD "") (users docs) = some u

theorem Selects.result_documents {wanted : Option String} {docs : List Kubeconfig} {context : Named Context}
    {u : Named User} (selects : Selects wanted docs context u) (fs : FileSystem) (target : Config) :
    ∃ c : Config, (documents fs wanted docs target).result =
        guarded (userObstacle? fs u) (c.withAutoToken (token fs u)) ∧
      c.authProvider = (plugin fs u).or target.authProvider ∧ c.oauthToken = target.oauthToken ∧
      c.tokenProvider = target.tokenProvider := by
  obtain ⟨name, hn, hx⟩ := selects.chosen
  obtain ⟨cluster, hc⟩ := selects.known
  unfold documents
  rw [hn]
  dsimp only
  rw [hx]
  dsimp only
  rw [Traced.result_debug_bind, select, hc]
  dsimp only
  rw [Traced.result_bind_of_ok (result_applyCluster cluster _), selectUser, selects.user]
  dsimp only
  rw [result_applyUser]
  refine ⟨_, rfl, ?_, rfl, rfl⟩
  rw [Config.authProvider, Config.value_evolve]
  cases plugin fs u <;> rfl

/-- A user with an empty inline token, a blank token file, and a plugin with two settings for a token. -/
def sampleUser : Named User :=
  ⟨"u", { User.empty with
    token := some "", tokenFile := some "t",
    authProvider := some ⟨"oidc", [("access-token", .int 0), ("id-token", .int 7)]⟩ },
    some (Path.ofText "/etc/k")⟩

/-- A kubeconfig whose current context selects the user. -/
def sampleUserDocument : Kubeconfig :=
  ⟨none, none, [⟨"c", .empty, none⟩], [sampleUser], [⟨"a", ⟨some "c", some "u", none⟩, none⟩], some "a",
    none⟩

end Merge

end ClusterAccess
