import ClusterAccess.Proofs.InferredScheme
import ClusterAccess.Proofs.Route

/-!
# The slot of a SOCKS proxy

A SOCKS proxy is meant for the scheme of the master URL. Its slot is chosen when documents are merged, by
how the server begins; the scheme is settled later, by a rule that ignores case, puts a scheme where there is
none, and loses the scheme of a server without a host. Where these two disagree, the proxy stands in the
slot of the other scheme.
-/
namespace ClusterAccess

/-! ## The scheme of a normal URL -/

namespace MasterUrl

/-- The scheme is `https`, in any case of its letters. -/
def isHttps (url : String) : Bool := Text.startsWith httpsPrefix (Text.asciiLower url)

theorem hasScheme_of_isHttps {url : String} (h : isHttps url = true) : hasScheme url = true :=
  (Bool.or_eq_true _ _).mpr (.inr h)

theorem isHttps_of_startsWith {url : String} (h : Text.startsWith httpsPrefix url = true) :
    isHttps url = true := by
  obtain ⟨rest, hr⟩ := List.isPrefixOf_iff_prefix.mp h
  rw [isHttps, startsWith_asciiLower, ← hr, List.map_append, toList_httpsPrefix]
  rfl

/-- Without a scheme there is none at the start. -/
theorem startsWith_of_bare {url : String} (bare : hasScheme url = false) :
    Text.startsWith httpsPrefix url = false :=
  Bool.eq_false_iff.mpr fun h => by
    rw [hasScheme_of_isHttps (isHttps_of_startsWith h)] at bare
    cases bare

/-- Of a scheme and a rest the scheme tells. -/
theorem isHttps_of_isScheme {url : String} {s rest : List Char} (hs : IsScheme s)
    (hu : url.toList = s ++ rest) : isHttps url = decide (s.map Char.toLower = httpsPrefix.toList) := by
  rw [isHttps, startsWith_asciiLower, hu, List.map_append]
  rcases hs with hs | hs
  · rw [hs, toList_httpPrefix, toList_httpsPrefix]
    rfl
  · rw [hs, toList_httpsPrefix]
    rfl

/-- The normal form of a URL with a host has the scheme of the URL, and without one that which is asked for.
Without a host there is no scheme left. -/
theorem isHttps_normal (url : String) (https : Bool) :
    isHttps (ensureTrailingSlash (ensureScheme url https)) =
      (namesHost url && if hasScheme url then isHttps url else https) := by
  cases host : namesHost url with
  | false =>
    have bare : hasScheme (ensureTrailingSlash (ensureScheme url https)) = false :=
      (hasScheme_normal url https).trans host
    rw [Bool.false_and]
    exact Bool.eq_false_iff.mpr fun h => by rw [hasScheme_of_isHttps h] at bare; cases bare
  | true =>
    rw [Bool.true_and]
    obtain ⟨s, hs, hu, inferred⟩ := toList_ensureScheme url https
    rw [isHttps_of_isScheme hs (toList_normal_of_namesHost host hu)]
    cases scheme : hasScheme url with
    | true =>
      rw [ensureScheme, if_pos scheme] at hu
      rw [if_pos rfl, isHttps_of_isScheme hs hu]
    | false =>
      rw [if_neg Bool.false_ne_true, inferred scheme]
      cases https <;> decide

end MasterUrl

/-! ## The two choices -/

/-- The proxy stands in the slot of the master URL's scheme, and nothing in the other. -/
def Config.ProxyFollowsScheme (c : Config) (url : String) : Prop :=
  if MasterUrl.isHttps c.masterUrl then c.httpsProxy = some url ∧ c.httpProxy = none
  else c.httpProxy = some url ∧ c.httpsProxy = none

/-- The proxy stands in the slot of what the server begins with, and nothing in the other. -/
def Config.ProxyFollowsSpelling (c : Config) (server url : String) : Prop :=
  if Text.startsWith MasterUrl.httpsPrefix server then c.httpsProxy = some url ∧ c.httpProxy = none
  else c.httpProxy = some url ∧ c.httpsProxy = none

/-- How a server leads its proxy into the slot of the other scheme, given what the check for TLS says. -/
inductive Misplaced (server : String) (answer : Except Error Bool) : Prop where
  | capitals (host : MasterUrl.namesHost server = true) (https : MasterUrl.isHttps server = true)
      (spelled : Text.startsWith MasterUrl.httpsPrefix server = false)
  | inferred (host : MasterUrl.namesHost server = true) (bare : MasterUrl.hasScheme server = false)
      (available : answer = .ok true)
  | hostless (host : MasterUrl.namesHost server = false)
      (spelled : Text.startsWith MasterUrl.httpsPrefix server = true)

theorem misplaced_iff {server : String} {answer : Except Error Bool} {https : Bool}
    (asked : MasterUrl.hasScheme server = false → answer = .ok https) : Misplaced server answer ↔
      MasterUrl.isHttps (MasterUrl.ensureTrailingSlash (MasterUrl.ensureScheme server https)) ≠
        Text.startsWith MasterUrl.httpsPrefix server := by
  rw [MasterUrl.isHttps_normal]
  constructor
  · rintro (⟨host, https, spelled⟩ | ⟨host, bare, available⟩ | ⟨host, spelled⟩)
    · rw [host, Bool.true_and, if_pos (MasterUrl.hasScheme_of_isHttps https), https, spelled]
      decide
    · have said := asked bare
      rw [available] at said
      cases said
      rw [host, Bool.true_and, bare, if_neg Bool.false_ne_true, MasterUrl.startsWith_of_bare bare]
      decide
    · rw [host, Bool.false_and, spelled]
      decide
  · intro differ
    -- The host comes first, because without one the scheme is lost whatever it was.
    cases host : MasterUrl.namesHost server with
    | false =>
      rw [host, Bool.false_and] at differ
      exact .hostless host (by simpa using differ.symm)
    | true =>
      rw [host, Bool.true_and] at differ
      cases scheme : MasterUrl.hasScheme server with
      | true =>
        rw [scheme, if_pos rfl] at differ
        cases spelled : Text.startsWith MasterUrl.httpsPrefix server with
        | true => exact absurd ((MasterUrl.isHttps_of_startsWith spelled).trans spelled.symm) differ
        | false =>
          rw [spelled] at differ
          exact .capitals host (by simpa using differ) spelled
      | false =>
        rw [scheme, if_neg Bool.false_ne_true, MasterUrl.startsWith_of_bare scheme] at differ
        refine .inferred host scheme ?_
        rw [asked scheme, show https = true by simpa using differ]

theorem Config.followsScheme_iff {c : Config} {server url : String}
    (follows : c.ProxyFollowsSpelling server url) : c.ProxyFollowsScheme url ↔
      MasterUrl.isHttps c.masterUrl = Text.startsWith MasterUrl.httpsPrefix server := by
  unfold ProxyFollowsSpelling at follows
  unfold ProxyFollowsScheme
  cases hs : Text.startsWith MasterUrl.httpsPrefix server with
  | true =>
    rw [hs, if_pos rfl] at follows
    obtain ⟨here, there⟩ := follows
    cases MasterUrl.isHttps c.masterUrl <;> simp [here, there]
  | false =>
    rw [hs, if_neg Bool.false_ne_true] at follows
    obtain ⟨here, there⟩ := follows
    cases MasterUrl.isHttps c.masterUrl <;> simp [here, there]

/-! ## Resolving -/

/-- The options that may change the master URL or a proxy. -/
def Options.ofRouting : List String := [masterUrl, httpProxy, httpsProxy, allProxy]

theorem Route.value_overlay_of_unrouted {r : Route} {p : Probe}
    (unrouted : r = .surroundings → ∀ name ∈ Options.ofRouting, p.get? name = none) (c : Config)
    {f : Field} (hf : f ∈ [Field.masterUrl, .httpProxy, .httpsProxy]) :
    (r.overlay p c).value f = c.value f := by
  cases r with
  | given => rfl
  | surroundings =>
    have absent := unrouted rfl
    simp only [Options.ofRouting, List.mem_cons, List.not_mem_nil, or_false, forall_eq_or_imp,
      forall_eq] at absent
    obtain ⟨url, http, https, all⟩ := absent
    have unchanged : (Options.changes p c).value? f = none := by
      simp only [List.mem_cons, List.not_mem_nil, or_false] at hf
      -- A proxy that the documents give goes before the options, which therefore count only without one.
      rcases hf with rfl | rfl | rfl
      · exact url
      · show (if (filled c.httpProxy).isSome then none else Options.given? p .httpProxy) = none
        have none : Options.given? p .httpProxy = .none := by
          show ((p.get? Options.httpProxy).or (p.get? Options.allProxy)).map some = .none
          rw [http, all]
          rfl
        rw [none, ite_self]
      · show (if (filled c.httpsProxy).isSome then none else Options.given? p .httpsProxy) = none
        have none : Options.given? p .httpsProxy = .none := by
          show ((p.get? Options.httpsProxy).or (p.get? Options.allProxy)).map some = .none
          rw [https, all]
          rfl
        rw [none, ite_self]
    show (Options.overlay p c).value f = _
    rw [Options.value_overlay, unchanged]
    rfl

/-- The server of a cluster and its proxy, in the slot of what the server begins with. -/
theorem Selection.proxy_of_onto {k : Kubeconfig} {wanted : Option String} {fs : FileSystem} {c : Config}
    (h : (k.selection wanted).onto fs .default = .ok c) {n : Named Cluster}
    (selected : (k.selection wanted).cluster = some n) {server url : String}
    (given : filled n.value.server = some server) (proxied : n.value.proxyUrl = some url)
    (socks : Text.startsWith Merge.socksPrefix url = true) :
    c.masterUrl = server ∧ c.ProxyFollowsSpelling server url := by
  have here : n.value.server.getD "" = server := by rw [(filled_eq_some_iff.mp given).1, Option.getD_some]
  have slot : Merge.proxy (n.value.server.getD "") n.value.proxyUrl =
      if Text.startsWith MasterUrl.httpsPrefix server then .https url else .http url := by
    have full : filled n.value.proxyUrl = some url := by
      refine filled_eq_some_iff.mpr ⟨proxied, ?_⟩
      rintro rfl
      revert socks
      decide
    rw [Merge.proxy, full, here]
    exact if_pos socks
  have master := value_of_cluster h selected (f := .masterUrl) rfl fun _ _ _ => rfl
  have http := value_of_cluster h selected (f := .httpProxy) rfl fun _ _ _ => rfl
  have https := value_of_cluster h selected (f := .httpsProxy) rfl fun _ _ _ => rfl
  refine ⟨master.trans here, ?_⟩
  unfold Config.ProxyFollowsSpelling Config.httpsProxy Config.httpProxy
  rw [http, https, Merge.clusterChanges]
  dsimp only
  rw [slot]
  cases Text.startsWith MasterUrl.httpsPrefix server with
  | true => exact ⟨rfl, rfl⟩
  | false => exact ⟨rfl, rfl⟩

/-- Where a cluster has a server and a SOCKS proxy, and no option changes the routing, every configuration
that is returned has the proxy in one slot and nothing in the other. It is the slot of the resolved scheme
unless the server is `https` in capitals, has no scheme and gets `https`, or is `https` without a host. -/
theorem World.socksProxy_of_resolves {w : World} {context : Option String} {r : Route}
    {docs : List Kubeconfig} {made : Except Error Config} (resolves : w.Resolves context r docs made)
    (unrouted : r = .surroundings → ∀ name ∈ Options.ofRouting, w.probe.get? name = none)
    {n : Named Cluster} (selected : ((Kubeconfig.concat docs).selection context).cluster = some n)
    {server url : String} (given : filled n.value.server = some server)
    (proxied : n.value.proxyUrl = some url) (socks : Text.startsWith Merge.socksPrefix url = true)
    {c : Config} (returned : made = .ok c) :
    c.ProxyFollowsSpelling server url ∧ ∃ found,
      (Merge.documents w.fs context docs .default).result = .ok found ∧
        (c.ProxyFollowsScheme url ↔ ¬ Misplaced server (w.https (r.overlay w.probe found)).result) := by
  rw [resolves.eq_resolveDocuments] at returned
  obtain ⟨found, merged, settled⟩ := except_bind_eq_ok.mp returned
  obtain ⟨value, ⟨available, asked, normal⟩, _⟩ := settles_of_settle settled
  have selects := merged
  rw [Merge.result_documents] at selects
  obtain ⟨master, slot⟩ := Selection.proxy_of_onto selects selected given proxied socks
  have overlaid : (r.overlay w.probe found).masterUrl = server :=
    (Route.value_overlay_of_unrouted unrouted found (f := .masterUrl) (by simp)).trans master
  have http : c.httpProxy = found.httpProxy := (value .httpProxy rfl (by decide)).trans
    (Route.value_overlay_of_unrouted unrouted found (by simp))
  have https : c.httpsProxy = found.httpsProxy := (value .httpsProxy rfl (by decide)).trans
    (Route.value_overlay_of_unrouted unrouted found (by simp))
  have follows : c.ProxyFollowsSpelling server url := by
    unfold Config.ProxyFollowsSpelling at slot ⊢
    rw [http, https]
    exact slot
  refine ⟨follows, found, merged, ?_⟩
  rw [overlaid] at asked normal
  rw [Config.followsScheme_iff follows, misplaced_iff asked, not_not, normal]

namespace World

/-- A kubeconfig with a cluster of this server that is behind a SOCKS proxy. -/
def socksText (server : String) : String :=
  "clusters:\n- name: c\n  cluster:\n    server: " ++ server ++ "\n    proxy-url: socks5://p:1080\n" ++
    "contexts:\n- name: a\n  context:\n    cluster: c\ncurrent-context: a\n"

/-- In small letters the proxy is in the right slot, whatever the check says. -/
theorem socksProxy_of_resolves_sample : ∃ c,
    ((sample [] []).ofKubeconfig none (.spelled (socksText "https://c:6443"))).result = .ok c ∧
      c.httpsProxy = some "socks5://p:1080" ∧ c.httpProxy = none ∧ c.ProxyFollowsScheme "socks5://p:1080" := by
  obtain ⟨k, read, hn⟩ := except_ok_of_map (show
    ((sample [] []).documentOf (.spelled (socksText "https://c:6443"))).toOption.map
      (fun k => ((Kubeconfig.concat [k]).selection none).cluster) =
        some (some ⟨"c", ⟨some "https://c:6443", none, none, none, some "socks5://p:1080", none⟩, none⟩) by
          decide +kernel)
  obtain ⟨c, returned, _⟩ := except_ok_of_map (show ((sample [] []).ofKubeconfig none
    (.spelled (socksText "https://c:6443"))).result.toOption.map (fun _ => ()) = some () by decide +kernel)
  have server : filled (some "https://c:6443") = some "https://c:6443" := by decide
  have url : Text.startsWith Merge.socksPrefix "socks5://p:1080" = true := by decide
  obtain ⟨follows, _, _, placed⟩ := socksProxy_of_resolves (.given read) (fun h => by cases h) hn server rfl
    url returned
  rw [Config.ProxyFollowsSpelling, if_pos (by decide)] at follows
  refine ⟨c, returned, follows.1, follows.2, placed.mpr ?_⟩
  rintro (⟨_, _, spelled⟩ | ⟨_, bare, _⟩ | ⟨host, _⟩)
  · exact absurd spelled (by decide)
  · exact absurd bare (by decide)
  · exact absurd host (by decide)

/-- In capitals the scheme stays `https`, and the proxy is in the slot of `http`. -/
theorem socksProxy_of_capitals : ∃ c,
    ((sample [] []).ofKubeconfig none (.spelled (socksText "HTTPS://c:6443"))).result = .ok c ∧
      c.masterUrl = "HTTPS://c:6443/" ∧ MasterUrl.isHttps c.masterUrl = true ∧
      c.httpProxy = some "socks5://p:1080" ∧ c.httpsProxy = none ∧
      ¬ c.ProxyFollowsScheme "socks5://p:1080" := by
  obtain ⟨c, returned, hv⟩ := except_ok_of_map (show ((sample [] []).ofKubeconfig none
    (.spelled (socksText "HTTPS://c:6443"))).result.toOption.map
      (fun c => (c.masterUrl, c.httpProxy, c.httpsProxy)) =
        some ("HTTPS://c:6443/", some "socks5://p:1080", none) by decide +kernel)
  obtain ⟨url, hv⟩ := Prod.mk.inj hv
  obtain ⟨http, https⟩ := Prod.mk.inj hv
  have scheme : MasterUrl.isHttps c.masterUrl = true := by
    rw [url]
    decide
  refine ⟨c, returned, url, scheme, http, https, fun follows => ?_⟩
  rw [Config.ProxyFollowsScheme, if_pos scheme, https] at follows
  cases follows.1

end World

end ClusterAccess
