import ClusterAccess.Proofs.Session
import ClusterAccess.Proofs.TokenChoice

/-!
# The token that is sent

The token to send is the explicit one, else what the provider gives, else the one that discovery found. An
empty text counts as no token in the first two places, but not in the last: there the empty text is sent.
It gets there where a user's inline token is empty and no other place has one, or where the file of a token
is blank. So the token found is followed from where it is read into every configuration of a session.
-/
namespace ClusterAccess

/-- The empty token is sent exactly if it was found and nothing comes before it. -/
theorem Config.bearerToken_eq_empty_iff {c : Config} : c.bearerToken = some "" ↔
    filled c.oauthToken = none ∧ filled (c.tokenProvider.bind (·.token)) = none ∧ c.autoToken = some "" := by
  unfold bearerToken
  cases explicit : filled c.oauthToken with
  | some t => simp [(filled_eq_some_iff.mp explicit).2]
  | none =>
    cases provided : filled (c.tokenProvider.bind (·.token)) with
    | some t => simp [(filled_eq_some_iff.mp provided).2]
    | none => simp

/-! ## Tokens of a kubeconfig -/

namespace Merge

/-- If no place has a token, what is left is what the file holds, or what stands inline without a file. -/
theorem token_of_nothing {fs : FileSystem} {u : Named User} (nothing : filled (token fs u) = none) :
    token fs u = if (filled u.value.tokenFile).isSome then fileToken fs u else u.value.token := by
  unfold token at nothing ⊢
  cases own : filled (plainToken fs u) with
  | some t =>
    rw [own, Option.some_or, filled_of_ne (filled_eq_some_iff.mp own).2] at nothing
    cases nothing
  | none =>
    rw [own, Option.none_or] at nothing
    cases asked : u.value.authProvider.bind providerToken with
    | some t =>
      rw [asked, Option.some_or, ← asked, filled_askedToken, asked] at nothing
      cases nothing
    | none =>
      have inline : filled u.value.token = none := by
        rw [filled_plainToken, Option.or_eq_none_iff] at own
        exact own.1
      rw [Option.none_or, Option.none_or, plainToken, inline, Option.none_or]

/-- A user brings the empty token exactly if no place has a token, and the file is blank, or there is no
file and the inline token is the empty text. -/
theorem token_eq_empty_iff {fs : FileSystem} {u : Named User} : token fs u = some "" ↔
    (tokenPlaces fs u).findSome? filled = none ∧
      (if (filled u.value.tokenFile).isSome then fileToken fs u else u.value.token) = some "" := by
  rw [← filled_token]
  refine ⟨fun empty => ?_, fun ⟨nothing, left⟩ => (token_of_nothing nothing).trans left⟩
  have nothing : filled (token fs u) = none := by
    rw [empty]
    rfl
  exact ⟨nothing, (token_of_nothing nothing).symm.trans empty⟩

end Merge

/-- The token of the selected user, if the selected cluster is there too. -/
def Kubeconfig.token (k : Kubeconfig) (fs : FileSystem) (wanted : Option String) : Option String :=
  (k.selection wanted).cluster.bind fun _ => (k.selection wanted).user.bind (Merge.token fs)

/-- Of a selected cluster and user, the user brings the empty token. -/
def Kubeconfig.BringsEmpty (k : Kubeconfig) (fs : FileSystem) (wanted : Option String) : Prop :=
  (k.selection wanted).cluster.isSome = true ∧ ∃ u, (k.selection wanted).user = some u ∧
    (Merge.tokenPlaces fs u).findSome? filled = none ∧
      (if (filled u.value.tokenFile).isSome then Merge.fileToken fs u else u.value.token) = some ""

theorem Kubeconfig.token_eq_empty_iff {k : Kubeconfig} {fs : FileSystem} {wanted : Option String} :
    k.token fs wanted = some "" ↔ k.BringsEmpty fs wanted := by
  unfold token BringsEmpty
  cases (k.selection wanted).cluster with
  | none => simp
  | some cluster => simp [Option.bind_eq_some_iff, Merge.token_eq_empty_iff]

theorem Merge.autoToken_of_documents {fs : FileSystem} {wanted : Option String} {docs : List Kubeconfig}
    {c : Config} (h : (documents fs wanted docs .default).result = .ok c) :
    c.autoToken = (Kubeconfig.concat docs).token fs wanted := by
  rw [result_documents] at h
  rw [Selection.autoToken_of_onto h, Kubeconfig.token, Selection.owner]
  cases ((Kubeconfig.concat docs).selection wanted).cluster with
  | none => rfl
  | some cluster => cases ((Kubeconfig.concat docs).selection wanted).user <;> rfl

theorem Merge.autoToken_of_document {fs : FileSystem} {wanted : Option String} {k : Kubeconfig}
    {c : Config} (h : (documents fs wanted [k] .default).result = .ok c) :
    c.autoToken = k.token fs wanted := by
  rw [autoToken_of_documents h, Kubeconfig.token, Kubeconfig.token, Kubeconfig.selection_concat_singleton]

/-! ## The token of a pod -/

namespace ServiceAccount

variable {p : Probe} {fs : FileSystem}

theorem token_eq_empty_iff : token p fs = some "" ↔ p.getTruth Options.tryServiceAccount true = true ∧
    ∃ text, tokenText p fs = some text ∧ Text.trim text = "" := by
  unfold token
  split
  · next allowed => simp [allowed]
  · next forbidden => simp [forbidden]

theorem Findings.autoToken_apply (found : Findings) (c : Config) :
    (found.apply c).autoToken = found.token.or c.autoToken := by
  unfold apply
  cases found.token <;> rfl

theorem autoToken_inNamespace (name : Option String) (c : Config) :
    (inNamespace name c).autoToken = c.autoToken := by
  cases name <;> rfl

end ServiceAccount

/-! ## Tokens of the surroundings -/

namespace World

/-- The token that discovery takes from its files: those of the kubeconfig, or without one those of the
pod. -/
def filedToken (w : World) (context : Option String) : Option String :=
  match w.documents.result with
  | .ok [] => ServiceAccount.token w.probe w.fs
  | .ok docs => (Kubeconfig.concat docs).token w.fs context
  | .error _ => none

/-- The token that is found in the surroundings: the option goes before the files. -/
def foundToken (w : World) (context : Option String) : Option String :=
  (w.probe.get? Options.oauthToken).or (w.filedToken context)

/-- The empty token is found exactly if there is no option with a token, and the selected user of the
kubeconfig files brings it, or there are none and the token file of the pod is blank. -/
theorem foundToken_eq_empty_iff {w : World} {context : Option String} : w.foundToken context = some "" ↔
    w.probe.get? Options.oauthToken = none ∧
      ((w.documents.result = .ok [] ∧ w.probe.getTruth Options.tryServiceAccount true = true ∧
          ∃ text, ServiceAccount.tokenText w.probe w.fs = some text ∧ Text.trim text = "") ∨
        ∃ docs, docs ≠ [] ∧ w.documents.result = .ok docs ∧
          (Kubeconfig.concat docs).BringsEmpty w.fs context) := by
  unfold foundToken
  cases given : w.probe.get? Options.oauthToken with
  | some t => simp [Probe.get?_ne_empty given]
  | none =>
    rw [Option.none_or, eq_self, true_and]
    unfold filedToken
    cases w.documents.result with
    | error e => simp
    | ok docs =>
      cases docs with
      | nil => simp [ServiceAccount.token_eq_empty_iff]
      | cons k rest => simp [Kubeconfig.token_eq_empty_iff]

/-- The document that a configuration is refreshed from. -/
def fileDocument? (w : World) (path : Path) : Option Kubeconfig :=
  (w.fs.readText path.text).toOption.bind fun text =>
    (Kubeconfig.parse text (some path.text)).toOption.map (·.from path)

/-- The token that a configuration gets when it is made anew. -/
def renewedToken (w : World) (c : Config) : Option String :=
  if c.autoConfigured then w.foundToken c.currentContextName
  else
    (if w.probe.autoConfigDisabled then none else w.probe.get? Options.oauthToken).or
      ((c.file.bind w.fileDocument?).bind fun k => k.token w.fs c.currentContextName)

variable {w : World} {context : Option String} {c d : Config}

theorem autoToken_of_normalize {useProbe : Bool} (h : (w.normalize c useProbe).result = .ok d) :
    d.autoToken = c.autoToken := by
  rw [result_normalize] at h
  obtain ⟨_, url, algorithm, _, _, rfl⟩ := Config.normalize_eq_ok.mp h
  rfl

theorem autoToken_of_empty (h : w.empty.result = .ok d) : d.autoToken = none := autoToken_of_normalize h

theorem autoToken_of_discover (h : (w.discover context).result = .ok d) :
    d.autoToken = w.filedToken context := by
  obtain ⟨docs, documents, _⟩ := Traced.bind_eq_ok.mp h
  unfold filedToken
  rw [documents]
  cases docs with
  | nil =>
    rw [← accountConfig_of_discover documents h, accountConfig, ServiceAccount.autoToken_inNamespace, ServiceAccount.Findings.autoToken_apply]
    exact Option.or_none
  | cons k rest =>
    rw [result_discover_of_documents documents (List.cons_ne_nil k rest)] at h
    exact Merge.autoToken_of_documents h

theorem autoToken_of_autoConfigure (h : (w.autoConfigure context).result = .ok c) :
    c.autoToken = w.foundToken context := by
  obtain ⟨found, discovers, configures⟩ := configures_of_autoConfigure h
  rw [configures.autoToken, autoToken_of_discover discovers, foundToken]

theorem autoToken_of_ofDocument {k : Kubeconfig} (h : (w.ofDocument context k).result = .ok c) :
    c.autoToken = k.token w.fs context := by
  obtain ⟨merged, merges, normal⟩ := ofDocument_eq_ok.mp h
  obtain ⟨_, url, algorithm, _, _, rfl⟩ := Config.normalize_eq_ok.mp normal
  rw [Config.autoToken_settled, Merge.autoToken_of_document merges]

/-- What is made anew has the token of what was made for it, unless an explicit one replaces it. -/
theorem autoToken_of_renew {failure : String} {make : Traced Config} {probe? : Option Probe}
    {finish : Config → Traced Config}
    (h : (w.renew c failure make probe? finish).result = .ok (.replaced d)) :
    ∃ made base, make.result = .ok made ∧ (finish made).result = .ok base ∧
      d.autoToken = c.explicit.autoToken?.getD base.autoToken := by
  obtain unchanged | ⟨made, base, _, hm, hb, applied, hd⟩ := renew_eq_ok h
  · cases unchanged
  · cases hd
    exact ⟨made, base, hm, hb, Overrides.autoToken_of_apply applied⟩

theorem autoToken_of_refreshAuto (auto : c.autoConfigured = true)
    (h : (w.refreshAuto c).result = .ok (.replaced d)) :
    d.autoToken = c.explicit.autoToken?.getD (w.renewedToken c) := by
  obtain ⟨made, _, hm, hf, renewed⟩ := autoToken_of_renew h
  cases hf
  rw [renewed, autoToken_of_autoConfigure hm, renewedToken, if_pos auto]

theorem autoToken_of_refreshFile {path : Path} (manual : c.autoConfigured = false)
    (hf : c.file = some path) (h : (w.refreshFile c path).result = .ok (.replaced d)) :
    d.autoToken = c.explicit.autoToken?.getD (w.renewedToken c) := by
  unfold refreshFile at h
  obtain ⟨text?, loads, h⟩ := Traced.bind_eq_ok.mp h
  obtain ⟨_, rfl⟩ := Discovery.load_eq_ok.mp loads
  cases reads : w.fs.readText path.text with
  | error fault =>
    rw [reads] at h
    cases h
  | ok text =>
    rw [reads] at h
    obtain ⟨k, parsed, h⟩ := Traced.bind_eq_ok.mp h
    have parsed : Kubeconfig.parse text (some path.text) = .ok k := parsed
    have document : c.file.bind w.fileDocument? = some (k.from path) := by
      rw [hf, Option.bind_some, fileDocument?, reads]
      simp [parsed, Except.toOption]
    have renewed : w.renewedToken c = (if w.probe.autoConfigDisabled then none else
        w.probe.get? Options.oauthToken).or ((k.from path).token w.fs c.currentContextName) := by
      rw [renewedToken, manual, document]
      rfl
    rw [renewed]
    dsimp only at h
    split at h
    · next disabled =>
      obtain ⟨merged, base, hm, hb, token⟩ := autoToken_of_renew h
      rw [token, autoToken_of_normalize hb, Merge.autoToken_of_document hm, if_pos disabled,
        Option.none_or]
    · next enabled =>
      obtain ⟨merged, base, hm, hb, token⟩ := autoToken_of_renew h
      rw [token, autoToken_of_finish hb, Merge.autoToken_of_document hm, if_neg enabled]

theorem autoToken_of_refresh (h : (w.refresh c).result = .ok (.replaced d)) :
    d.autoToken = c.explicit.autoToken?.getD (w.renewedToken c) := by
  unfold refresh at h
  split at h
  · cases h
  · split at h
    · next auto => exact autoToken_of_refreshAuto auto h
    · next manual =>
      split at h
      · next path hf => exact autoToken_of_refreshFile (Bool.eq_false_iff.mpr manual) hf h
      · cases h

end World

/-! ## Sessions -/

namespace Session

/-- The token that is found for what an event makes. -/
def State.foundToken (s : State) : Event → Option String
  | .world _ | .empty => none
  | .auto context => s.world.foundToken context
  | .kubeconfig source context =>
    (s.world.documentOf source).toOption.bind fun k => k.token s.world.fs context
  | .build b _ =>
    if b.auto && !s.world.probe.autoConfigDisabled then s.world.foundToken b.context else none
  | .refresh index => s.snapshots[index]?.bind fun c =>
    match (s.world.refresh c).result with
    | .ok (.replaced _) => c.explicit.autoToken?.getD (s.world.renewedToken c)
    | _ => none

/-- The token that is kept where a refresh leaves a configuration as it is. -/
def State.keptToken (s : State) : Event → Option String
  | .refresh index => s.snapshots[index]?.bind fun c =>
    match (s.world.refresh c).result with
    | .ok .unchanged => c.autoToken
    | _ => none
  | _ => none

/-- The token that the configuration which an event makes has from discovery. -/
def State.token (s : State) (e : Event) : Option String := (s.foundToken e).or (s.keptToken e)

theorem autoToken_of_build {b : Builder} {w : World} {c : Config} (h : (b.build w).result = .ok c) :
    c.autoToken = if b.auto && !w.probe.autoConfigDisabled then w.foundToken b.context else none := by
  by_cases hb : b.Discovers w
  · obtain ⟨base, made, applied⟩ := (Builder.build_eq_ok_of_discovers hb).mp h
    rw [Overrides.autoToken_of_apply applied, World.autoToken_of_autoConfigure made, hb.1, hb.2]
    rfl
  · rw [Builder.result_build_of_not_discovers hb, Traced.bind_eq_ok] at h
    obtain ⟨base, made, applied⟩ := h
    have alone : (b.auto && !w.probe.autoConfigDisabled) ≠ true := by
      simpa [Builder.Discovers] using hb
    rw [Overrides.autoToken_of_apply applied, World.autoToken_of_empty made, if_neg alone]
    rfl

theorem autoToken_of_makes {s : State} {e : Event} {c : Config} (h : s.makes e = some c) :
    c.autoToken = s.token e := by
  unfold State.token
  cases e with
  | world w => cases h
  | empty => exact World.autoToken_of_empty (w := s.world) (except_eq_ok_of_toOption h)
  | auto context =>
    rw [World.autoToken_of_autoConfigure (except_eq_ok_of_toOption h)]
    exact Option.or_none.symm
  | kubeconfig source context =>
    have h := except_eq_ok_of_toOption h
    rw [World.result_ofKubeconfig] at h
    obtain ⟨k, read, made⟩ := except_bind_eq_ok.mp h
    rw [World.autoToken_of_ofDocument made, State.foundToken, read]
    exact Option.or_none.symm
  | build b made =>
    rw [autoToken_of_build (except_eq_ok_of_toOption h)]
    exact Option.or_none.symm
  | refresh index =>
    obtain ⟨old, hold, h⟩ := Option.bind_eq_some_iff.mp h
    obtain ⟨r, hr, rfl⟩ := Option.map_eq_some_iff.mp h
    have hr := except_eq_ok_of_toOption hr
    rw [State.foundToken, State.keptToken, hold, Option.bind_some, Option.bind_some, hr]
    cases r with
    | unchanged => rfl
    | replaced d =>
      rw [Refreshed.over, World.autoToken_of_refresh hr]
      exact Option.or_none.symm

theorem mem_of_keptToken {s : State} {e : Event} {t : String} (h : s.keptToken e = some t) :
    ∃ old ∈ s.snapshots, old.autoToken = some t := by
  cases e with
  | refresh index =>
    obtain ⟨old, hold, kept⟩ := Option.bind_eq_some_iff.mp h
    split at kept
    · exact ⟨old, List.mem_of_getElem? hold, kept⟩
    · cases kept
  | _ => cases h

/-- No event finds the empty token. -/
def State.FindsNoEmpty (s : State) : List Event → Prop
  | [] => True
  | e :: rest => s.foundToken e ≠ some "" ∧ (s.after e).FindsNoEmpty rest

/-- No configuration has the empty token in its place. -/
def State.HasNoEmpty (s : State) : Prop := ∀ c ∈ s.snapshots, c.autoToken ≠ some ""

theorem hasNoEmpty_after {s : State} (none : s.HasNoEmpty) {e : Event} (found : s.foundToken e ≠ some "") :
    (s.after e).HasNoEmpty := by
  intro c hc empty
  rcases List.mem_append.mp hc with hc | hc
  · exact none c hc empty
  · rw [autoToken_of_makes (Option.mem_toList.mp hc), State.token, Option.or_eq_some_iff] at empty
    rcases empty with new | ⟨_, kept⟩
    · exact found new
    · obtain ⟨old, hold, empty⟩ := mem_of_keptToken kept
      exact none old hold empty

theorem hasNoEmpty_foldl {s : State} (none : s.HasNoEmpty) {events : List Event}
    (finds : s.FindsNoEmpty events) : (events.foldl State.after s).HasNoEmpty := by
  induction events generalizing s with
  | nil => exact none
  | cons e rest ih => exact ih (hasNoEmpty_after none finds.1) finds.2

/-- Every configuration that is made, in any way and surroundings, sends the explicit token if that is not
empty, else the provider's if that is not empty, else the one that its way finds or keeps. What is sent is
the empty text exactly if neither of the first two is there and the empty text was found or kept. As long
as no event finds the empty text, it is never sent. -/
theorem bearerToken_of_session (s : State) (events : List Event) :
    (∀ (e : Event) (c : Config), s.makes e = some c →
      c.bearerToken = (filled c.oauthToken).or ((filled (c.tokenProvider.bind (·.token))).or (s.token e)) ∧
      (c.bearerToken = some "" ↔ filled c.oauthToken = none ∧
        filled (c.tokenProvider.bind (·.token)) = none ∧ s.token e = some "")) ∧
    (s.HasNoEmpty → s.FindsNoEmpty events →
      ∀ c ∈ (events.foldl State.after s).snapshots, c.bearerToken ≠ some "") := by
  refine ⟨fun e c made => ?_, fun clean finds c hc empty => ?_⟩
  · have found := autoToken_of_makes made
    exact ⟨by rw [Config.bearerToken, found], by rw [Config.bearerToken_eq_empty_iff, found]⟩
  · obtain ⟨_, _, blank⟩ := Config.bearerToken_eq_empty_iff.mp empty
    exact hasNoEmpty_foldl clean finds c hc blank

/-- A pod whose token file has this text, and nothing else. -/
def pod (text : String) : World := .sample [] [(ServiceAccount.tokenPath, text)]

/-- The token of the pod is sent, and the refresh finds it again. -/
theorem bearerToken_of_session_sample : ∃ c, State.makes ⟨pod "mine\n", []⟩ (.auto none) = some c ∧
    c.bearerToken = some "mine" ∧
    ∀ d ∈ (run (pod "mine\n") [.auto none, .refresh 0]).snapshots, d.bearerToken ≠ some "" := by
  obtain ⟨c, hc, hv⟩ := except_ok_of_map (show ((pod "mine\n").autoConfigure none).result.toOption.map
    (fun c => (c.oauthToken, c.tokenProvider.bind (·.token))) = some (none, none) by decide +kernel)
  obtain ⟨explicit, provided⟩ := Prod.mk.inj hv
  have made : State.makes ⟨pod "mine\n", []⟩ (.auto none) = some c := by
    rw [State.makes, hc]
    rfl
  have found : State.token ⟨pod "mine\n", []⟩ (.auto none) = some "mine" := by decide +kernel
  have finds : State.FindsNoEmpty ⟨pod "mine\n", []⟩ [.auto none, .refresh 0] :=
    ⟨by decide +kernel, by decide +kernel, trivial⟩
  obtain ⟨sends, never⟩ := bearerToken_of_session ⟨pod "mine\n", []⟩ [.auto none, .refresh 0]
  refine ⟨c, made, ?_, never (fun _ hc => absurd hc List.not_mem_nil) finds⟩
  rw [(sends _ c made).1, explicit, provided, found]
  rfl

/-- Of a blank token file the empty token is sent, with no explicit token and no provider. -/
theorem blank_token_is_sent : ∃ c, ((pod "\n").autoConfigure none).result = .ok c ∧
    c.oauthToken = none ∧ c.tokenProvider.isNone = true ∧ c.bearerToken = some "" := by
  obtain ⟨c, hc, hv⟩ := except_ok_of_map (show ((pod "\n").autoConfigure none).result.toOption.map
    (fun c => (c.oauthToken, c.tokenProvider.isNone, c.bearerToken)) = some (none, true, some "") by
      decide +kernel)
  obtain ⟨explicit, hv⟩ := Prod.mk.inj hv
  obtain ⟨provider, sent⟩ := Prod.mk.inj hv
  exact ⟨c, hc, explicit, provider, sent⟩

end Session

end ClusterAccess
