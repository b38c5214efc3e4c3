import ClusterAccess.Proofs.ContextList

/-!
# The contexts of all configurations of a session

In a session configurations are made and refreshed in any order, while options and files change. Every
configuration lists contexts of different names, with the current one among them. A context was in a text
that was handed over, or it was read from a file. A file leaves its absolute path, with one exception: the
refresh of a configuration takes the path that the current context has. That is a relative one where a
text states it, and so it stays.
-/
namespace ClusterAccess

/-- The document of a source that is a text. -/
def DocumentSource.text? : DocumentSource → Option Kubeconfig
  | .spelled source => if source.toList.contains '\n' then (Kubeconfig.parse source none).toOption else none
  | .path _ => none

theorem World.documentOf_eq_ok {w : World} {source : DocumentSource} {doc : Kubeconfig}
    (h : w.documentOf source = .ok doc) :
    source.text? = some doc ∨ ∃ path, Kubeconfig.read w.fs path = .ok doc := by
  cases source with
  | path path => exact .inr ⟨path, h⟩
  | spelled source =>
    unfold documentOf at h
    dsimp only at h
    split at h
    · next hs =>
      rw [DocumentSource.text?, if_pos hs, h]
      exact .inl rfl
    · exact .inr ⟨Path.ofText source, h⟩

namespace Session

/-! ## Runs -/

inductive Event where
  /-- The surroundings change. -/
  | world (w : World)
  | empty
  | auto (context : Option String)
  | kubeconfig (source : DocumentSource) (context : Option String)
  | build (b : Builder) (made : b.Made)
  /-- The configuration at this place is refreshed. -/
  | refresh (index : Nat)

/-- The surroundings, and the configurations made so far. -/
structure State where
  world : World
  snapshots : List Config

def Event.world? : Event → Option World
  | .world w => some w
  | _ => none

def Event.text? : Event → Option Kubeconfig
  | .kubeconfig source _ => source.text?
  | _ => none

/-- The configuration that an event gives, if it gives one. -/
def State.makes (s : State) : Event → Option Config
  | .world _ => none
  | .empty => s.world.empty.result.toOption
  | .auto context => (s.world.autoConfigure context).result.toOption
  | .kubeconfig source context => (s.world.ofKubeconfig context source).result.toOption
  | .build b _ => (b.build s.world).result.toOption
  | .refresh index =>
    s.snapshots[index]?.bind fun c => (s.world.refresh c).result.toOption.map (·.over c)

def State.after (s : State) (e : Event) : State :=
  ⟨e.world?.getD s.world, s.snapshots ++ (s.makes e).toList⟩

def run (w : World) (events : List Event) : State := events.foldl State.after ⟨w, []⟩

/-- The surroundings that a session was in. -/
def worlds (w : World) (events : List Event) : List World := w :: events.filterMap Event.world?

/-- The documents whose texts were handed over. -/
def texts (events : List Event) : List Kubeconfig := events.filterMap Event.text?

/-! ## Where contexts come from -/

/-- A text states the path as the source of a context. -/
def Stated (texts : List Kubeconfig) (path : Path) : Prop :=
  ∃ k ∈ texts, ∃ n ∈ k.contexts, n.source = some path

/-- Where a context comes from. -/
inductive Origin (worlds : List World) (texts : List Kubeconfig) (n : Named Context) : Prop
  | text {k : Kubeconfig} (given : k ∈ texts) (found : n ∈ k.contexts)
  | file {w : World} (known : w ∈ worlds) {path : Path}
    (reads : w.ReadsContext path (w.fs.absolute path) n)
  | relative {w : World} (known : w ∈ worlds) {path : Path} (relative : path.isAbsolute = false)
    (stated : Stated texts path) (reads : w.ReadsContext path path n)

/-- What holds of every configuration of a session. -/
structure Sound (worlds : List World) (texts : List Kubeconfig) (c : Config) : Prop where
  lists : c.Lists (Origin worlds texts)
  settable : c.explicit.fields.AreSettable

section

variable {worlds : List World} {texts : List Kubeconfig} {w : World}

/-- A relative path is in no context but by a text. -/
theorem Origin.stated {n : Named Context} (h : Origin worlds texts n) {path : Path}
    (source : n.source = some path) (relative : path.isAbsolute = false) : Stated texts path := by
  cases h with
  | text given found => exact ⟨_, given, n, found, source⟩
  | @file w _ path' reads =>
    rw [reads.source] at source
    cases source
    rw [FileSystem.absolute, Path.isAbsolute_absolute] at relative
    cases relative
  | relative _ _ stated reads =>
    rw [reads.source] at source
    cases source
    exact stated

/-- The file of a configuration, read again. -/
theorem Origin.reread {c : Config} (lists : c.Lists (Origin worlds texts)) {path : Path}
    (hf : c.file = some path) (known : w ∈ worlds) {n : Named Context} (reads : w.ReadsContext path path n) :
    Origin worlds texts n := by
  cases absolute : path.isAbsolute with
  | true =>
    have place : w.fs.absolute path = path := Path.absolute_of_isAbsolute _ absolute
    have reads : w.ReadsContext path (w.fs.absolute path) n := by
      rw [place]
      exact reads
    exact .file known reads
  | false =>
    obtain ⟨current, hc, source⟩ := Option.bind_eq_some_iff.mp hf
    have origin := lists.origins current (lists.current current hc)
    exact .relative known absolute (origin.stated source absolute) reads

/-! ## Every event -/

/-- Explicit values over a configuration that has none. -/
theorem Sound.of_apply {o : Overrides} (settable : o.fields.AreSettable) {base d : Config}
    (fresh : base.IsFresh) (lists : base.Lists (Origin worlds texts)) {https : TlsCheck} {fs : FileSystem}
    {probe? : Option Probe} (h : (o.apply https fs probe? base).result = .ok d) : Sound worlds texts d where
  lists := lists.same (.apply settable h)
  settable := by
    rw [(Overrides.applied_of_apply settable fresh.explicit h).explicit]
    exact settable

/-- A configuration without explicit values. -/
theorem Sound.of_fresh {c : Config} (fresh : c.IsFresh) (lists : c.Lists (Origin worlds texts)) :
    Sound worlds texts c where
  lists := lists
  settable := by
    rw [fresh.explicit]
    exact fun _ _ => rfl

section

variable (known : w ∈ worlds)
include known

theorem lists_of_auto {context : Option String} {c : Config}
    (h : (w.autoConfigure context).result = .ok c) : c.Lists (Origin worlds texts) :=
  (World.lists_of_autoConfigure h).mono fun _ ⟨_, reads⟩ => .file known reads

theorem sound_of_kubeconfig {source : DocumentSource} (given : ∀ k, source.text? = some k → k ∈ texts)
    {context : Option String} {c : Config} (h : (w.ofKubeconfig context source).result = .ok c) :
    Sound worlds texts c := by
  rw [World.result_ofKubeconfig] at h
  obtain ⟨doc, hdoc, h⟩ := except_bind_eq_ok.mp h
  refine .of_fresh (Config.IsFresh.of_ofDocument h).1 ((World.lists_of_ofDocument h).mono fun n hn => ?_)
  rcases World.documentOf_eq_ok hdoc with ht | ⟨path, hread⟩
  · exact .text (given doc ht) hn
  · exact .file known (World.readsContext_of_read hread hn)

theorem sound_of_build {b : Builder} (made : b.Made) {c : Config} (h : (b.build w).result = .ok c) :
    Sound worlds texts c := by
  by_cases hb : b.Discovers w
  · obtain ⟨base, hbase, ha⟩ := (Builder.build_eq_ok_of_discovers hb).mp h
    exact .of_apply made.areSettable (.of_autoConfigure hbase) (lists_of_auto known hbase) ha
  · rw [Builder.result_build_of_not_discovers hb, Traced.bind_eq_ok] at h
    obtain ⟨base, hbase, ha⟩ := h
    exact .of_apply made.areSettable (.of_empty hbase) (World.lists_of_empty hbase) ha

theorem sound_of_refresh {c : Config} (sound : Sound worlds texts c) {r : Refreshed}
    (h : (w.refresh c).result = .ok r) : Sound worlds texts (r.over c) := by
  have settable : (r.over c).explicit.fields.AreSettable := by
    rw [World.explicit_of_refresh sound.settable h]
    exact sound.settable
  have refreshes := World.refreshes_of_refresh h
  cases r with
  | unchanged => exact sound
  | replaced d =>
    refine ⟨?_, settable⟩
    -- discovery finds its file anew; otherwise the path is the one that the current context carries
    cases auto : c.autoConfigured with
    | false =>
      obtain ⟨path, hf, lists⟩ := World.lists_of_refreshed_file sound.settable auto refreshes
      exact lists.mono fun n reads => .reread sound.lists hf known reads
    | true =>
      cases refreshes with
      | auto _ made applied => exact (lists_of_auto known made).same (.apply sound.settable applied)
      | file manual _ _ _ _ _ _ =>
        rw [manual] at auto
        cases auto

end

/-- The surroundings are among those known, and every configuration is sound. -/
structure State.Keeps (worlds : List World) (texts : List Kubeconfig) (s : State) : Prop where
  known : s.world ∈ worlds
  sound : ∀ c ∈ s.snapshots, Sound worlds texts c

/-- What an event brings in is known. -/
structure Event.Known (worlds : List World) (texts : List Kubeconfig) (e : Event) : Prop where
  world : ∀ w, e.world? = some w → w ∈ worlds
  text : ∀ k, e.text? = some k → k ∈ texts

theorem sound_of_makes {s : State} {e : Event} (keeps : s.Keeps worlds texts) (known : e.Known worlds texts)
    {c : Config} (h : s.makes e = some c) : Sound worlds texts c := by
  cases e with
  | world w => cases h
  | empty =>
    have made : s.world.empty.result = .ok c := except_eq_ok_of_toOption h
    exact .of_fresh (.of_empty made) (World.lists_of_empty made)
  | auto context =>
    have made : (s.world.autoConfigure context).result = .ok c := except_eq_ok_of_toOption h
    exact .of_fresh (.of_autoConfigure made) (lists_of_auto keeps.known made)
  | kubeconfig source context =>
    exact sound_of_kubeconfig keeps.known known.text (except_eq_ok_of_toOption h)
  | build b made => exact sound_of_build keeps.known made (except_eq_ok_of_toOption h)
  | refresh index =>
    obtain ⟨old, hold, h⟩ := Option.bind_eq_some_iff.mp h
    obtain ⟨r, hr, rfl⟩ := Option.map_eq_some_iff.mp h
    exact sound_of_refresh keeps.known (keeps.sound old (List.mem_of_getElem? hold))
      (except_eq_ok_of_toOption hr)

theorem keeps_after {s : State} {e : Event} (keeps : s.Keeps worlds texts) (known : e.Known worlds texts) :
    (s.after e).Keeps worlds texts where
  known := by
    show e.world?.getD s.world ∈ worlds
    cases hw : e.world? with
    | none => exact keeps.known
    | some w => exact known.world w hw
  sound c hc := by
    rcases List.mem_append.mp hc with hc | hc
    · exact keeps.sound c hc
    · exact sound_of_makes keeps known (Option.mem_toList.mp hc)

theorem keeps_foldl {s : State} {events : List Event} (keeps : s.Keeps worlds texts)
    (known : ∀ e ∈ events, e.Known worlds texts) : (events.foldl State.after s).Keeps worlds texts := by
  -- what is known is of the whole run, so that it stays the same from one event to the next
  induction events generalizing s with
  | nil => exact keeps
  | cons e rest ih =>
    exact ih (keeps_after keeps (known e List.mem_cons_self)) fun e he =>
      known e (List.mem_cons_of_mem _ he)

end

/-! ## Every run -/

theorem keeps_run (w : World) (events : List Event) :
    (run w events).Keeps (worlds w events) (texts events) := by
  refine keeps_foldl ⟨List.mem_cons_self, fun _ hc => absurd hc List.not_mem_nil⟩ fun e he => ?_
  exact ⟨fun w hw => List.mem_cons_of_mem _ (List.mem_filterMap.mpr ⟨e, he, hw⟩),
    fun k hk => List.mem_filterMap.mpr ⟨e, he, hk⟩⟩

/-- Every configuration of a session lists contexts of different names, with the current one among them, and
none but those of a kubeconfig. Those of a file carry its absolute path, unless a refresh read it under a
relative path that a text states. What a refresh reads from a file keeps the path as it was. -/
theorem contexts_of_run (w : World) (events : List Event) {c : Config} (h : c ∈ (run w events).snapshots) :
    c.Lists (Origin (worlds w events) (texts events)) ∧
    ((∀ path, Stated (texts events) path → path.isAbsolute = true) → ∀ n ∈ c.contexts,
      (∃ k ∈ texts events, n ∈ k.contexts) ∨
        ∃ v ∈ worlds w events, ∃ path, v.ReadsContext path (v.fs.absolute path) n) ∧
    ∀ (later : World) (d : Config), c.autoConfigured = false →
      (later.refresh c).result = .ok (.replaced d) → ∀ n ∈ d.contexts, n.source = c.file := by
  have sound := (keeps_run w events).sound c h
  refine ⟨sound.lists, fun stated n hn => ?_, fun later d manual hr n hn => ?_⟩
  · cases sound.lists.origins n hn with
    | text given found => exact .inl ⟨_, given, found⟩
    | file known reads => exact .inr ⟨_, known, _, reads⟩
    | relative _ relative states _ =>
      rw [stated _ states] at relative
      cases relative
  · obtain ⟨path, hf, lists⟩ :=
      World.lists_of_refreshed_file sound.settable manual (World.refreshes_of_refresh hr)
    rw [hf]
    exact (lists.origins n hn).source

/-- A configuration is made of the surroundings and refreshed. -/
def sampleEvents : List Event := [.auto none, .refresh 0]

/-- The context of the sample's kubeconfig. -/
def sampleContext : Named Context := ⟨"a", .empty, some ⟨.slash, ["home", "user", ".kube", "config"]⟩⟩

/-- The context is listed, and it is from the kubeconfig. -/
theorem contexts_of_run_sample :
    ∃ c ∈ (run (.sample [] World.sampleFiles) sampleEvents).snapshots, sampleContext ∈ c.contexts ∧
      (c.contexts.map (·.name)).Nodup ∧ ∃ v ∈ worlds (.sample [] World.sampleFiles) sampleEvents,
        ∃ path, v.ReadsContext path (v.fs.absolute path) sampleContext := by
  have listed : (run (.sample [] World.sampleFiles) sampleEvents).snapshots.map Config.contexts =
      [[sampleContext], [sampleContext]] := by decide +kernel
  have member : [sampleContext] ∈
      (run (.sample [] World.sampleFiles) sampleEvents).snapshots.map Config.contexts := by
    rw [listed]
    exact List.mem_cons_self
  obtain ⟨c, hc, hx⟩ := List.mem_map.mp member
  obtain ⟨lists, origins, _⟩ := contexts_of_run _ _ hc
  have silent : ∀ path, Stated (texts sampleEvents) path → path.isAbsolute = true := by
    rintro _ ⟨_, hk, _⟩
    cases hk
  have hn : sampleContext ∈ c.contexts := by
    rw [hx]
    exact List.mem_cons_self
  refine ⟨c, hc, hn, lists.distinct, ?_⟩
  rcases origins silent sampleContext hn with ⟨_, hk, _⟩ | found
  · cases hk
  · exact found

/-- A text that states a relative source, and what is in the file of that name. -/
def strayText : String := "contexts:\n- name: a\n  source_file: x\ncurrent-context: a\n"

def strayFile : String :=
  "contexts:\n- name: a\n  context:\n    namespace: found\ncurrent-context: a\n"

def strayEvents : List Event := [.kubeconfig (.spelled strayText) none, .refresh 0]

def strayContext : Named Context := ⟨"a", ⟨none, none, some "found"⟩, some ⟨.relative, ["x"]⟩⟩

/-- The refresh reads the context from the file `x`, and the context carries the path `x`, which is the
absolute path of no file. It is not the context of the text. -/
theorem relative_source_is_kept :
    ∃ c ∈ (run (.sample [] [("x", strayFile)]) strayEvents).snapshots, strayContext ∈ c.contexts ∧
      (World.sample [] [("x", strayFile)]).ReadsContext ⟨.relative, ["x"]⟩ ⟨.relative, ["x"]⟩
        strayContext ∧
      (∀ k ∈ texts strayEvents, strayContext ∉ k.contexts) ∧
      ∀ (v : World) (path : Path), ¬v.ReadsContext path (v.fs.absolute path) strayContext := by
  have listed : (run (.sample [] [("x", strayFile)]) strayEvents).snapshots.map Config.contexts =
      [[⟨"a", .empty, some ⟨.relative, ["x"]⟩⟩], [strayContext]] := by decide +kernel
  have given : (texts strayEvents).map Kubeconfig.contexts =
      [[⟨"a", .empty, some ⟨.relative, ["x"]⟩⟩]] := by decide +kernel
  have member : [strayContext] ∈
      (run (.sample [] [("x", strayFile)]) strayEvents).snapshots.map Config.contexts := by
    rw [listed]
    exact List.mem_cons_of_mem _ List.mem_cons_self
  obtain ⟨c, hc, hcontexts⟩ := List.mem_map.mp member
  obtain ⟨k, hk, hx⟩ := except_ok_of_map (show (Kubeconfig.parse strayFile (some "x")).toOption.map
    (fun k => (k.from ⟨.relative, ["x"]⟩).contexts) = some [strayContext] by decide +kernel)
  refine ⟨c, hc, ?_, ⟨strayFile, k, rfl, hk, ?_⟩, fun text htext hn => ?_, fun v path reads => ?_⟩
  · rw [hcontexts]
    exact List.mem_cons_self
  · rw [hx]
    exact List.mem_cons_self
  · have hm : text.contexts ∈ (texts strayEvents).map Kubeconfig.contexts := List.mem_map_of_mem htext
    rw [given] at hm
    rw [List.mem_singleton.mp hm] at hn
    cases List.mem_singleton.mp hn
  · have absolute := Path.isAbsolute_absolute v.fs.directory path
    rw [← FileSystem.absolute, ← Option.some.inj reads.source] at absolute
    cases absolute

end Session

end ClusterAccess
