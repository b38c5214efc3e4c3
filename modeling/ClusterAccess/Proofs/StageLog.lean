import ClusterAccess.Proofs.ContextList
import ClusterAccess.Proofs.NamedFile
import ClusterAccess.Proofs.Parsing
import ClusterAccess.Proofs.Quiet

/-!
# The stages in the log

A run writes every stage that it reaches into the log. All other records are of other activities, and the
check for TLS, which the caller may choose, writes what it likes. Which stages are written tells how the run
ends: all of them if it gives a configuration, and else those before the step that fails.
-/
namespace ClusterAccess

/-! ## Stages among records -/

def Stage.all : List Stage :=
  [.empty, .fileDiscovered, .serviceIdentity, .environmentOverridden, .normalized, .resolved]

namespace Log

/-- The stage that a record says is reached. -/
def Record.stage? (r : Record) : Option Stage := Stage.all.find? fun s => s.record = r

/-- The stages that are reached according to a log, in order. -/
def stages (log : List Record) : List Stage := log.filterMap Record.stage?

@[simp] theorem stages_append (first second : List Record) :
    stages (first ++ second) = stages first ++ stages second := List.filterMap_append

theorem Record.stage?_record (s : Stage) : s.record.stage? = some s := by
  cases s <;> decide +kernel

theorem stages_eq_nil {log : List Record} (h : ∀ r ∈ log, r.channel ≠ .resolution) : stages log = [] := by
  refine List.filterMap_eq_nil_iff.mpr fun r hr => List.find?_eq_none.mpr fun s _ hs => ?_
  rw [decide_eq_true_iff] at hs
  exact h r hr (hs ▸ rfl)

end Log

/-- Apart from the records of a part of its own, the computation writes these stages. -/
def Traced.Tells {α : Type} (x : Traced α) (own : List Log.Record) (stages : List Stage) : Prop :=
  ∃ before after, x.log = before ++ own ++ after ∧ Log.stages (before ++ after) = stages

namespace Traced.Tells

variable {α β : Type} {x : Traced α} {f : α → Traced β} {own : List Log.Record} {first second : List Stage}

theorem of_isQuiet (h : x.IsQuiet) : x.Tells [] [] :=
  ⟨x.log, [], by simp, by rw [List.append_nil, Log.stages_eq_nil h]⟩

theorem reach (s : Stage) : s.reach.Tells [] [s] :=
  ⟨[s.record], [], rfl, by rw [Log.stages, List.append_nil, List.filterMap_cons, Log.Record.stage?_record]; rfl⟩

/-- If a step fails, no more stages are reached. -/
theorem stop (hx : x.Tells own first) {e : Error} (h : x.result = .error e) (f : α → Traced β) :
    (x >>= f).Tells own first := by
  obtain ⟨before, after, log, stages⟩ := hx
  exact ⟨before, after, (log_bind_of_error h f).trans log, stages⟩

theorem bind (hx : x.Tells [] first) {a : α} (h : x.result = .ok a) (hf : (f a).Tells own second) :
    (x >>= f).Tells own (first ++ second) := by
  obtain ⟨before, after, log, rfl⟩ := hx
  obtain ⟨before', after', log', rfl⟩ := hf
  refine ⟨before ++ after ++ before', after', ?_, ?_⟩
  · rw [log_bind_of_ok h, log, log']
    simp
  · simp

theorem bind_tail (hx : x.Tells own first) {a : α} (h : x.result = .ok a) (hf : (f a).Tells [] second) :
    (x >>= f).Tells own (first ++ second) := by
  obtain ⟨before, after, log, rfl⟩ := hx
  obtain ⟨before', after', log', rfl⟩ := hf
  refine ⟨before, after ++ before' ++ after', ?_, ?_⟩
  · rw [log_bind_of_ok h, log, log']
    simp
  · simp

/-- A rest that reaches no stage makes no difference, whether it is run or not. -/
theorem bind_quiet (hx : x.Tells own first) (hf : ∀ a, (f a).IsQuiet) : (x >>= f).Tells own first := by
  cases h : x.result with
  | error e => exact hx.stop h f
  | ok a =>
    have both := hx.bind_tail h (of_isQuiet (hf a))
    rwa [List.append_nil] at both

end Traced.Tells

/-- What the check writes: nothing if it is not asked, else its records for one configuration. -/
def TlsCheck.Writes (https : TlsCheck) (own : List Log.Record) : Prop := own = [] ∨ ∃ c, own = (https c).log

namespace Config

theorem normalUrl_tells (c : Config) (https : TlsCheck) :
    ∃ own, https.Writes own ∧ (c.normalUrl https).Tells own [] := by
  unfold normalUrl
  split
  · exact ⟨[], .inl rfl, .of_isQuiet (.pure _)⟩
  · refine ⟨(https c).log, .inr ⟨c, rfl⟩, Traced.Tells.bind_quiet ⟨[], [], ?_, rfl⟩ fun _ => .pure _⟩
    rw [List.nil_append, List.append_nil]

theorem normalize_tells (c : Config) (https : TlsCheck) (fs : FileSystem) (probe? : Option Probe) :
    ∃ own, https.Writes own ∧ (c.normalize https fs probe?).Tells own [] := by
  unfold normalize
  split
  · exact ⟨[], .inl rfl, .of_isQuiet (.fail _)⟩
  · obtain ⟨own, writes, tells⟩ := c.normalUrl_tells https
    exact ⟨own, writes, tells.bind_quiet fun url =>
      (c.keyAlgorithm_isQuiet fs probe?).bind fun algorithm => .pure _⟩

end Config

/-! ## The stages of a run -/

/-- The stage that discovery has reached with a configuration. -/
def Config.discovery (c : Config) : Stage :=
  if c.source = .kubeconfig then .fileDiscovered else .serviceIdentity

theorem ServiceAccount.Findings.source_apply_ne (found : Findings) {c : Config}
    (h : c.source ≠ .kubeconfig) : (found.apply c).source ≠ .kubeconfig := by
  rw [source_apply]
  split
  · exact h
  · exact Source.noConfusion

theorem Kubeconfig.isUnknownContext_of_parse {text : String} {source : Option String} {e : Error}
    (h : parse text source = .error e) : e.isUnknownContext = false := by
  rcases parse_eq_error h with escapes | ⟨fault, rfl⟩
  · cases escapes <;> rfl
  · rfl

/-- Errors that come from the normal form or not at all. -/
def Error.isLate : Error → Bool
  | .noMasterUrl | .nonAsciiCertificate => true
  | _ => false

@[simp] theorem Obstacle.isLate_error (o : Obstacle) : o.error.isLate = false := by
  cases o <;> rfl

theorem Kubeconfig.isLate_of_parse {text : String} {source : Option String} {e : Error}
    (h : parse text source = .error e) : e.isLate = false := by
  rcases parse_eq_error h with escapes | ⟨fault, rfl⟩
  · cases escapes <;> rfl
  · rfl

theorem Probe.Refuses.isLate {p : Probe} {e : Error} (h : p.Refuses e) : e.isLate = false := by
  cases h <;> rfl

namespace World

variable {w : World} {context : Option String} {docs : List Kubeconfig} {found : Config}

/-- With documents the kubeconfig is the source, and without any it is not. -/
theorem discovery_of_discover (hdocs : w.documents.result = .ok docs)
    (h : (w.discover context).result = .ok found) :
    found.discovery = if docs.isEmpty then .serviceIdentity else .fileDiscovered := by
  by_cases hne : docs = []
  · rw [hne] at hdocs
    obtain ⟨findings, named⟩ := findings_of_discover hdocs h
    have source : found.source ≠ .kubeconfig := by
      rw [Config.source, named.value .source rfl]
      exact findings.source_apply_ne Source.noConfusion
    rw [Config.discovery, if_neg source, hne]
    rfl
  · rw [result_discover_of_documents hdocs hne, Merge.result_documents] at h
    rw [Config.discovery, if_pos (Selection.source_of_onto h), if_neg (by simpa using hne)]

/-- Apart from what the check writes, the computation writes these stages. -/
def Tells {α : Type} (w : World) (x : Traced α) (stages : List Stage) : Prop :=
  ∃ own, w.https.Writes own ∧ x.Tells own stages

namespace Tells

variable {α β : Type} {x : Traced α} {f : α → Traced β} {first second : List Stage}

theorem of_tells (h : x.Tells [] first) : w.Tells x first := ⟨[], .inl rfl, h⟩

theorem bind (hx : x.Tells [] first) {a : α} (h : x.result = .ok a) (hf : w.Tells (f a) second) :
    w.Tells (x >>= f) (first ++ second) := by
  obtain ⟨own, writes, tells⟩ := hf
  exact ⟨own, writes, hx.bind h tells⟩

theorem bind_tail (hx : w.Tells x first) {a : α} (h : x.result = .ok a) (hf : (f a).Tells [] second) :
    w.Tells (x >>= f) (first ++ second) := by
  obtain ⟨own, writes, tells⟩ := hx
  exact ⟨own, writes, tells.bind_tail h hf⟩

theorem stop (hx : w.Tells x first) {e : Error} (h : x.result = .error e) (f : α → Traced β) :
    w.Tells (x >>= f) first := by
  obtain ⟨own, writes, tells⟩ := hx
  exact ⟨own, writes, tells.stop h f⟩

/-- If the check, too, reaches no stage, then these are all stages in the log. -/
theorem stages_eq (h : w.Tells x first) (quiet : ∀ c, (w.https c).IsQuiet) :
    Log.stages x.log = first := by
  obtain ⟨own, writes, before, after, log, rfl⟩ := h
  have none : Log.stages own = [] := by
    rcases writes with rfl | ⟨c, rfl⟩
    · rfl
    · exact Log.stages_eq_nil (quiet c)
  rw [log, Log.stages_append, Log.stages_append, none, List.append_nil, Log.stages_append]

end Tells

theorem normalize_tells {c : Config} {useProbe : Bool} {d : Config}
    (h : (c.normalize w.https w.fs (if useProbe then some w.probe else none)).result = .ok d) :
    w.Tells (w.normalize c useProbe) [.normalized] := by
  obtain ⟨own, writes, tells⟩ := c.normalize_tells w.https w.fs (if useProbe then some w.probe else none)
  exact ⟨own, writes, tells.bind_tail h ((Traced.Tells.reach .normalized).bind_quiet fun _ => .pure d)⟩

theorem normalize_tells_of_error {c : Config} {useProbe : Bool} {e : Error}
    (h : (c.normalize w.https w.fs (if useProbe then some w.probe else none)).result = .error e) :
    w.Tells (w.normalize c useProbe) [] := by
  obtain ⟨own, writes, tells⟩ := c.normalize_tells w.https w.fs (if useProbe then some w.probe else none)
  exact ⟨own, writes, tells.stop h _⟩

/-- After options that can be read, the stages are those of the normal form. -/
theorem finish_tells (wellFormed : Options.fault? w.probe = none) {c : Config} {stages : List Stage}
    (h : w.Tells (w.normalize (Options.overlay w.probe c) true) stages) :
    w.Tells (w.finish c) (.environmentOverridden :: stages) :=
  Tells.bind (.of_isQuiet (Options.apply_isQuiet w.probe c)) (Options.result_apply_of_wellFormed wellFormed c)
    (Tells.bind (.reach .environmentOverridden) rfl h)

theorem finish_tells_of_fault {e : Error} (fault : Options.fault? w.probe = some e) (c : Config) :
    w.Tells (w.finish c) [] :=
  (Tells.of_tells (.of_isQuiet (Options.apply_isQuiet w.probe c))).stop
    (Options.result_apply_of_fault fault c) _

theorem discover_tells (h : w.documents.result = .ok docs) (context : Option String) :
    (w.discover context).Tells [] [if docs.isEmpty then .serviceIdentity else .fileDiscovered] := by
  have quiet := Traced.Tells.of_isQuiet w.documents_isQuiet
  refine quiet.bind h ?_
  cases docs with
  | nil =>
    exact (Traced.Tells.reach .serviceIdentity).bind_quiet fun _ =>
      (ServiceAccount.apply_isQuiet w.probe w.fs .default).bind fun c =>
        ServiceAccount.applyNamespace_isQuiet w.probe w.fs c
  | cons doc rest =>
    exact (Traced.Tells.reach .fileDiscovered).bind_quiet fun _ =>
      Merge.documents_isQuiet w.fs context _ .default

/-! ## How a run may end -/

/-- The ways a run may end, each with the stages that it reaches. -/
inductive Course (w : World) (context : Option String) : Except Error Config → List Stage → Prop where
  /-- A kubeconfig cannot be looked for. -/
  | unasked {obstacle : Obstacle} (documents : w.documents.result = .error obstacle.error) :
      Course w context (.error obstacle.error) [.empty]
  /-- A document cannot be parsed. -/
  | unparsed {e : Error} {text : String} {source : Option String}
      (documents : w.documents.result = .error e) (fails : Kubeconfig.parse text source = .error e) :
      Course w context (.error e) [.empty]
  /-- A file of the pod cannot be looked for, or has a path that no file can have. -/
  | podFile {obstacle : Obstacle} (documents : w.documents.result = .ok [])
      (blocked : w.accountObstacle? = some obstacle) :
      Course w context (.error obstacle.error) [.empty, .serviceIdentity]
  /-- The selected user has its key or token in a file with a path that no file can have, or a plugin with an
  integer too long to be written where its token is taken from. -/
  | userEntry {docs : List Kubeconfig} {obstacle : Obstacle} (documents : w.documents.result = .ok docs)
      (found : docs ≠ [])
      (blocked : ((Kubeconfig.concat docs).selection context).obstacle? w.fs = some obstacle)
      (fails : (Merge.documents w.fs context docs .default).result = .error obstacle.error) :
      Course w context (.error obstacle.error) [.empty, .fileDiscovered]
  /-- The documents lack the context. -/
  | contextless {docs : List Kubeconfig} {name : String} {available : List String}
      (documents : w.documents.result = .ok docs) (found : docs ≠ [])
      (missing : (Merge.documents w.fs context docs .default).result =
        .error (.unknownContext name available)) :
      Course w context (.error (.unknownContext name available)) [.empty, .fileDiscovered]
  /-- An integer or a list of protocol versions among the options cannot be read. -/
  | illFormed {found : Config} {e : Error} (discovers : (w.discover context).result = .ok found)
      (fault : Options.fault? w.probe = some e) : Course w context (.error e) [.empty, found.discovery]
  /-- There is no normal form. -/
  | unsettled {found : Config} {e : Error} (discovers : (w.discover context).result = .ok found)
      (wellFormed : Options.fault? w.probe = none)
      (unsettled : (Options.overlay w.probe found).Unsettled w.https w.fs (some w.probe) e) :
      Course w context (.error e) [.empty, found.discovery, .environmentOverridden]
  /-- There is a configuration. -/
  | resolved {c : Config} (returns : (w.autoConfigure context).result = .ok c) :
      Course w context (.ok c) [.empty, c.discovery, .environmentOverridden, .normalized, .resolved]

/-- Documents fail as one of their texts does, or for a file that cannot be looked for. -/
theorem documents_failsOnly (w : World) : w.documents.FailsOnly fun e =>
    (∃ obstacle : Obstacle, e = obstacle.error) ∨ ∃ text source, Kubeconfig.parse text source = .error e := by
  refine .bind (.of_guarded (Discovery.result_find w.probe w.fs w.home) fun obstacle => .inl ⟨obstacle, rfl⟩)
    fun paths _ => .bind (.mapM (fun path => ?_) _) fun _ _ => .pure _
  refine .bind (.of_guarded (Discovery.result_load w.fs path.text) fun obstacle => .inl ⟨obstacle, rfl⟩)
    fun _ _ => ?_
  split
  · exact .pure _
  · next text _ => exact .bind (fun e he => .inr ⟨text, some path.text, he⟩) fun doc _ => .pure _

theorem result_discover_of_error {e : Error} (h : w.documents.result = .error e)
    (context : Option String) : (w.discover context).result = .error e := by
  rw [discover, Traced.result_bind, h]
  rfl

/-- A discovery that fails is a course of its own. -/
theorem course_of_discover {e : Error} (h : (w.discover context).result = .error e) :
    ∃ stages, w.Course context (.error e) stages := by
  cases hdocs : w.documents.result with
  | error e' =>
    rw [result_discover_of_error hdocs] at h
    cases h
    rcases w.documents_failsOnly e hdocs with ⟨obstacle, rfl⟩ | ⟨text, source, fails⟩
    · exact ⟨_, .unasked hdocs⟩
    · exact ⟨_, .unparsed hdocs fails⟩
  | ok docs =>
    by_cases hne : docs = []
    · rw [hne] at hdocs
      rw [result_discover_of_account hdocs] at h
      obtain ⟨obstacle, blocked, rfl⟩ := guarded_eq_error.mp h
      exact ⟨_, .podFile hdocs blocked⟩
    · rw [result_discover_of_documents hdocs hne] at h
      have selects := h
      rw [Merge.result_documents] at selects
      rcases Selection.onto_eq_error selects with missing | ⟨obstacle, blocked, rfl⟩
      · cases e with
        | unknownContext name available => exact ⟨_, .contextless hdocs hne h⟩
        | _ => cases missing
      · exact ⟨_, .userEntry hdocs hne blocked h⟩

/-- Every run takes one of the courses. -/
theorem exists_course (w : World) (context : Option String) :
    ∃ stages, w.Course context (w.autoConfigure context).result stages := by
  cases run : (w.autoConfigure context).result with
  | ok c => exact ⟨_, .resolved run⟩
  | error e =>
    rw [result_autoConfigure] at run
    cases discovers : (w.discover context).result with
    | error missing =>
      rw [discovers] at run
      cases run
      exact course_of_discover discovers
    | ok found =>
      rw [discovers, Except.bind, result_finish] at run
      cases fault : Options.fault? w.probe with
      | some e' =>
        rw [Options.result_apply_of_fault fault] at run
        cases run
        exact ⟨_, .illFormed discovers fault⟩
      | none =>
        rw [Options.result_apply_of_wellFormed fault, Except.bind] at run
        cases hn : ((Options.overlay w.probe found).normalize w.https w.fs (some w.probe)).result with
        | ok d =>
          rw [hn] at run
          cases run
        | error e' =>
          rw [hn] at run
          cases run
          exact ⟨_, .unsettled discovers fault (Config.normalize_eq_error.mp hn)⟩

/-- A run that discovers nothing stops with discovery. -/
theorem autoConfigure_tells_of_error {e : Error} (fails : (w.discover context).result = .error e)
    {stages : List Stage} (h : (w.discover context).Tells [] stages) :
    w.Tells (w.autoConfigure context) (.empty :: stages) :=
  Tells.bind (.reach .empty) rfl ((Tells.of_tells h).stop fails _)

/-- After discovery the stages are those that are reached from there. -/
theorem autoConfigure_tells (discovers : (w.discover context).result = .ok found) {stages : List Stage}
    (h : w.Tells (do
      let c ← w.finish found
      Stage.resolved.reach
      return c.set .autoConfigured true) stages) :
    w.Tells (w.autoConfigure context) (.empty :: found.discovery :: stages) := by
  cases hdocs : w.documents.result with
  | error e =>
    rw [result_discover_of_error hdocs] at discovers
    cases discovers
  | ok docs =>
    rw [discovery_of_discover hdocs discovers]
    exact Tells.bind (.reach .empty) rfl (Tells.bind (discover_tells hdocs context) discovers h)

namespace Course

variable {result : Except Error Config} {stages : List Stage}

theorem result_eq (h : w.Course context result stages) : (w.autoConfigure context).result = result := by
  rw [result_autoConfigure]
  cases h with
  | unasked documents =>
    rw [result_discover_of_error documents]
    rfl
  | unparsed documents =>
    rw [result_discover_of_error documents]
    rfl
  | podFile documents blocked =>
    rw [result_discover_of_account documents, blocked]
    rfl
  | userEntry documents found _ fails =>
    rw [result_discover_of_documents documents found, fails]
    rfl
  | contextless documents found missing =>
    rw [result_discover_of_documents documents found, missing]
    rfl
  | illFormed discovers fault =>
    rw [discovers, Except.bind, result_finish, Options.result_apply_of_fault fault]
    rfl
  | unsettled discovers wellFormed unsettled =>
    rw [discovers, Except.bind, result_finish, Options.result_apply_of_wellFormed wellFormed, Except.bind,
      Config.normalize_eq_error.mpr unsettled]
    rfl
  | resolved returns => rw [← result_autoConfigure, returns]

theorem tells_of_no_documents {e : Error} (documents : w.documents.result = .error e) :
    w.Tells (w.autoConfigure context) [.empty] :=
  autoConfigure_tells_of_error (result_discover_of_error documents context)
    ((Traced.Tells.of_isQuiet w.documents_isQuiet).stop documents _)

theorem tells_of_merge {e : Error} (documents : w.documents.result = .ok docs) (found : docs ≠ [])
    (fails : (Merge.documents w.fs context docs .default).result = .error e) :
    w.Tells (w.autoConfigure context) [.empty, .fileDiscovered] := by
  have reached := discover_tells documents context
  rw [if_neg (by simpa using found)] at reached
  exact autoConfigure_tells_of_error ((result_discover_of_documents documents found context).trans fails)
    reached

theorem tells (h : w.Course context result stages) : w.Tells (w.autoConfigure context) stages := by
  cases h with
  | unasked documents => exact tells_of_no_documents documents
  | unparsed documents => exact tells_of_no_documents documents
  | @podFile obstacle documents blocked =>
    have fails : (w.discover context).result = .error obstacle.error := by
      rw [result_discover_of_account documents, blocked]
      rfl
    exact autoConfigure_tells_of_error fails (discover_tells documents context)
  | userEntry documents found _ fails => exact tells_of_merge documents found fails
  | contextless documents found missing => exact tells_of_merge documents found missing
  | @illFormed found e discovers fault =>
    have fails : (w.finish found).result = .error e := by
      rw [result_finish, Options.result_apply_of_fault fault]
      rfl
    exact autoConfigure_tells discovers ((finish_tells_of_fault fault found).stop fails _)
  | @unsettled found e discovers wellFormed unsettled =>
    have normal : ((Options.overlay w.probe found).normalize w.https w.fs (some w.probe)).result =
        .error e := Config.normalize_eq_error.mpr unsettled
    have fails : (w.finish found).result = .error e := by
      rw [result_finish, Options.result_apply_of_wellFormed wellFormed]
      exact normal
    exact autoConfigure_tells discovers
      ((finish_tells wellFormed (normalize_tells_of_error normal)).stop fails _)
  | @resolved c returns =>
    obtain ⟨found, finished, discovers, hf, rfl⟩ := autoConfigure_eq_ok.mp returns
    obtain ⟨wellFormed, normal⟩ := finish_eq_ok.mp hf
    have source : (finished.set .autoConfigured true).discovery = found.discovery := by
      have same := (Config.SameContexts.finish hf).trans (.setAutoConfigured finished)
      have source : (finished.set .autoConfigured true).source = found.source := same .source rfl
      rw [Config.discovery, source, Config.discovery]
    rw [source]
    exact autoConfigure_tells discovers ((finish_tells wellFormed (normalize_tells normal)).bind_tail hf
      ((Traced.Tells.reach .resolved).bind_quiet fun _ => .pure _))

/-- The installed check leaves the stages of a run alone. -/
theorem stages_of_available {l : Tls.Library} (installed : w.https = Tls.available l)
    (h : w.Course context result stages) : Log.stages (w.autoConfigure context).log = stages := by
  refine h.tells.stages_eq fun c => ?_
  rw [installed]
  exact Tls.available_isQuiet l c

end Course

/-- A run ends with a late error exactly if all goes well up to the normal form, and that fails with it. -/
theorem autoConfigure_eq_late_iff {e : Error} (late : e.isLate = true) :
    (w.autoConfigure context).result = .error e ↔ Options.fault? w.probe = none ∧
      ∃ found, (w.discover context).result = .ok found ∧
        (Options.overlay w.probe found).Unsettled w.https w.fs (some w.probe) e := by
  constructor
  · intro run
    obtain ⟨stages, h⟩ := w.exists_course context
    rw [run] at h
    cases h with
    | unasked => cases late.symm.trans (Obstacle.isLate_error _)
    | unparsed _ fails => cases late.symm.trans (Kubeconfig.isLate_of_parse fails)
    | podFile => cases late.symm.trans (Obstacle.isLate_error _)
    | userEntry => cases late.symm.trans (Obstacle.isLate_error _)
    | contextless => cases late
    | illFormed _ fault => cases late.symm.trans (Options.refuses_of_fault fault).isLate
    | unsettled discovers wellFormed unsettled => exact ⟨wellFormed, _, discovers, unsettled⟩
  · rintro ⟨wellFormed, found, discovers, unsettled⟩
    exact (Course.unsettled discovers wellFormed unsettled).result_eq

/-- A run takes one of the courses, and whichever it takes says what comes out and which stages are written.
A context that is missing is known by its error alone, unless the check raises this error of its own
accord. -/
theorem autoConfigure_course (w : World) (context : Option String) :
    (∃ stages, w.Course context (w.autoConfigure context).result stages) ∧
    (∀ result stages, w.Course context result stages →
      (w.autoConfigure context).result = result ∧ w.Tells (w.autoConfigure context) stages ∧
        ((∀ c, (w.https c).IsQuiet) → Log.stages (w.autoConfigure context).log = stages)) ∧
    (w.https.NeedsNoContext → ∀ name available,
      (w.autoConfigure context).result = .error (.unknownContext name available) →
        w.Tells (w.autoConfigure context) [.empty, .fileDiscovered]) := by
  refine ⟨w.exists_course context, fun result stages h => ⟨h.result_eq, h.tells, h.tells.stages_eq⟩,
    fun https name available run => ?_⟩
  have missing : (Error.unknownContext name available).isUnknownContext = true := rfl
  generalize Error.unknownContext name available = e at run missing
  obtain ⟨stages, h⟩ := w.exists_course context
  rw [run] at h
  have told := h.tells
  -- Of the courses that end with an error only one ends with an error of this kind.
  cases h with
  | contextless => exact told
  | unasked | podFile | userEntry => cases missing.symm.trans (Obstacle.isUnknownContext_error _)
  | unparsed _ fails => cases missing.symm.trans (Kubeconfig.isUnknownContext_of_parse fails)
  | illFormed _ fault => cases missing.symm.trans (Options.isUnknownContext_of_fault fault)
  | unsettled _ _ unsettled =>
    cases missing.symm.trans
      (Config.normalize_needsNoContext https _ w.fs _ _ (Config.normalize_eq_error.mpr unsettled))

/-- A kubeconfig is found and the run goes through; the run for a context that it lacks stops there. -/
theorem autoConfigure_course_sample :
    Log.stages ((sample [] sampleFiles).autoConfigure none).log =
      [.empty, .fileDiscovered, .environmentOverridden, .normalized, .resolved] ∧
    (sample [] sampleFiles).Tells ((sample [] sampleFiles).autoConfigure (some "b"))
      [.empty, .fileDiscovered] := by
  constructor
  · obtain ⟨c, hc, source⟩ := except_ok_of_map (show ((sample [] sampleFiles).autoConfigure
      none).result.toOption.map Config.source = some .kubeconfig by decide +kernel)
    obtain ⟨_, _, logged⟩ := (autoConfigure_course (sample [] sampleFiles) none).2.1 _ _ (.resolved hc)
    have found : c.discovery = .fileDiscovered := if_pos source
    rw [logged fun c => .pure true, found]
  · have missing := except_error_of_match (x := ((sample [] sampleFiles).autoConfigure (some "b")).result)
      (e := .unknownContext "b" ["a"]) (by decide +kernel)
    exact (autoConfigure_course (sample [] sampleFiles) (some "b")).2.2 (fun c => .pure true) "b" ["a"] missing

end World

end ClusterAccess
