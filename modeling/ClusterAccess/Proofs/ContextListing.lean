import ClusterAccess.Proofs.AsciiPage
import ClusterAccess.Proofs.CommandRequest
import ClusterAccess.Proofs.ContextList
import ClusterAccess.Proofs.Reading
import ClusterAccess.Proofs.Showable
import ClusterAccess.Proofs.WritableNumber
import Mathlib.Data.String.Basic

/-!
# How commands list contexts

The contexts of a configuration are those of the documents that it was resolved from. As rows they stand in
the order of their names, with a star before the current one, if all names can be encoded; as records in the
order of the documents, with the current one marked; and a configuration on display has their names in that
order and the name of the current one, if it can be shown. All three are of the same configuration when both
commands are given the same file, or none.
-/
namespace ClusterAccess

/-- Among different names the current one stands once, if there is one. -/
theorem filter_current {names : List String} (distinct : names.Nodup) {current : Option String}
    (listed : ∀ name, current = some name → name ∈ names) :
    names.filter (fun name => decide (current = some name)) = current.toList := by
  cases current with
  | none => simp
  | some n =>
    have same : (fun name => decide (some n = some name)) = (· == n) := by
      funext name
      rw [Bool.eq_iff_iff, decide_eq_true_iff, beq_iff_eq, Option.some_inj, eq_comm]
    rw [same, List.filter_beq, List.count_eq_one_of_mem distinct (listed n rfl)]
    rfl

namespace Text

/-- Of texts without surrogates the order is the usual one. -/
theorem le_of_isInOrder {s t : String} (hs : unencodable? s = none) (ht : unencodable? t = none)
    (h : isInOrder s.toList t.toList = true) : s ≤ t := by
  rw [unencodable?_eq_none] at hs ht
  refine String.not_lt.mp fun less => ?_
  rw [String.lt_iff_toList_lt] at less
  generalize s.toList = cs at hs h less
  generalize t.toList = ds at ht h less
  induction cs generalizing ds with
  | nil => exact List.not_lt_nil ds less
  | cons c cs ih =>
    cases ds with
    | nil => cases h
    | cons d ds =>
      obtain ⟨hc, hcs⟩ := List.forall_mem_cons.mp hs
      obtain ⟨hd, hds⟩ := List.forall_mem_cons.mp ht
      rw [isInOrder, codeOf_of_not_isSurrogate hc, codeOf_of_not_isSurrogate hd, Bool.or_eq_true,
        Bool.and_eq_true, decide_eq_true_eq, beq_iff_eq] at h
      rcases List.cons_lt_cons_iff.mp less with below | ⟨rfl, rest⟩
      · have below : d.toNat < c.toNat := below
        omega
      · exact ih hcs ds hds (h.resolve_left (Nat.lt_irrefl _)).2 rest

theorem trimEnd_subset (cs : List Char) : trimEnd cs ⊆ cs := fun _ hc =>
  List.mem_reverse.mp ((List.dropWhile_sublist _).subset (List.mem_reverse.mp hc))

theorem unencodable?_plain {s : String} : unencodable? (plain s) = none ↔ unencodable? s = none := by
  simp only [unencodable?_eq_none, plain, String.toList_ofList]
  constructor
  · intro h c hc
    refine Bool.eq_false_iff.mpr fun surrogate => ?_
    have kept : c ∈ plainFrom [] s.toList := mem_plainFrom (le_toNat_of_isSurrogate surrogate) hc
    exact absurd surrogate (Bool.eq_false_iff.mp (h c kept))
  · exact fun h c hc => h c ((mem_of_mem_plainFrom hc).resolve_left List.not_mem_nil)

end Text

namespace CommandLine

/-! ## Rows -/

/-- The row of a name, starred if it is the current one. -/
def rowOf (current : Option String) (name : String) : String :=
  (if current = some name then "* " else "  ") ++ name

def isStarred (row : String) : Bool := Text.startsWith "* " row

/-- Rows for some names: each once, in the order of code points, and the current one alone with a star. -/
structure Rows (names : List String) (current : Option String) (rows : List String) : Prop where
  named : ∃ sorted : List String, sorted.Perm names ∧ sorted.Pairwise (· < ·) ∧
    rows = sorted.map (rowOf current)
  starred : rows.filter isStarred = (current.map ("* " ++ ·)).toList

theorem isStarred_rowOf (current : Option String) (name : String) :
    isStarred (rowOf current name) = decide (current = some name) := by
  unfold isStarred rowOf Text.startsWith
  split
  · next h => simp [h]
  · next h =>
    rw [decide_eq_false h, String.toList_append]
    rfl

theorem filter_rows {names : List String} (distinct : names.Nodup) {current : Option String}
    (listed : ∀ name, current = some name → name ∈ names) :
    (names.map (rowOf current)).filter isStarred = (current.map ("* " ++ ·)).toList := by
  have starred : isStarred ∘ rowOf current = fun name => decide (current = some name) :=
    funext (isStarred_rowOf current)
  rw [List.filter_map, starred, filter_current distinct listed]
  cases current <;> simp [rowOf]

theorem contextRow_eq (c : Config) (n : Named Context) : contextRow c n = rowOf c.currentContextName n.name := by
  simp [contextRow, rowOf, isCurrent]

/-- The names of some entries in the order of the rows. -/
def sortedNames (contexts : List (Named Context)) : List String :=
  (contexts.mergeSort fun a b => Text.isInOrder a.name.toList b.name.toList).map (·.name)

theorem perm_sortedNames (contexts : List (Named Context)) :
    (sortedNames contexts).Perm (contexts.map (·.name)) :=
  (List.mergeSort_perm contexts fun a b => Text.isInOrder a.name.toList b.name.toList).map
    fun n : Named Context => n.name

/-- Different names, all of which can be encoded, stand in strict order. -/
theorem pairwise_lt_sortedNames {contexts : List (Named Context)} (distinct : (contexts.map (·.name)).Nodup)
    (encodable : ∀ name ∈ contexts.map (·.name), Text.unencodable? name = none) :
    (sortedNames contexts).Pairwise (· < ·) := by
  have perm := perm_sortedNames contexts
  have inOrder : (sortedNames contexts).Pairwise fun s t => Text.isInOrder s.toList t.toList = true :=
    List.pairwise_map.mpr (List.pairwise_mergeSort
      (fun a b c => @Text.isInOrder_trans a.name.toList b.name.toList c.name.toList)
      (fun a b => Text.isInOrder_total a.name.toList b.name.toList) contexts)
  refine (inOrder.and (perm.nodup_iff.mpr distinct)).imp_of_mem fun {s t} hs ht h => ?_
  have le := Text.le_of_isInOrder (encodable s (perm.mem_iff.mp hs)) (encodable t (perm.mem_iff.mp ht)) h.1
  exact String.not_le.mp fun ge => h.2 (String.le_antisymm le ge)

variable {c : Config}

theorem contextRows_eq (c : Config) :
    contextRows c = (sortedNames c.contexts).map (rowOf c.currentContextName) := by
  rw [sortedNames, List.map_map]
  exact List.map_congr_left fun n _ => contextRow_eq c n

theorem rows_contextRows (distinct : (c.contexts.map (·.name)).Nodup)
    (listed : ∀ name, c.currentContextName = some name → name ∈ c.contexts.map (·.name))
    (encodable : ∀ name ∈ c.contexts.map (·.name), Text.unencodable? name = none) :
    Rows (c.contexts.map (·.name)) c.currentContextName (contextRows c) := by
  have perm := perm_sortedNames c.contexts
  have rows := contextRows_eq c
  refine ⟨⟨_, perm, pairwise_lt_sortedNames distinct encodable, rows⟩, ?_⟩
  rw [rows]
  exact filter_rows (perm.nodup_iff.mpr distinct) fun name hn => perm.mem_iff.mpr (listed name hn)

/-! ## Records -/

/-- The record of a context. -/
structure Describes (current : Option String) (n : Named Context) (record : Value) : Prop where
  name : Shape.valueAt (Shape.plain "name") record = some (.str n.name)
  cluster : Shape.valueAt (Shape.plain "cluster") record = some (optionalText n.value.cluster)
  user : Shape.valueAt (Shape.plain "user") record = some (optionalText n.value.user)
  namespaceName : Shape.valueAt (Shape.plain "namespace") record = some (optionalText n.value.namespaceName)
  source : Shape.valueAt (Shape.plain "file") record = some (optionalText (n.source.map Path.text))
  current : Shape.valueAt (Shape.plain "current") record = some (.bool (decide (current = some n.name)))

/-- The record says that its context is the current one. -/
def isMarked (record : Value) : Bool :=
  match Shape.valueAt (Shape.plain "current") record with
  | some (.bool b) => b
  | _ => false

/-- Records of contexts, one of each and in their order, the current one alone marked. -/
structure Records (contexts : List (Named Context)) (current : Option String) (records : List Value) : Prop where
  described : List.Forall₂ (Describes current) contexts records
  marked : (records.filter isMarked).map (Shape.valueAt (Shape.plain "name")) =
    current.toList.map fun name => some (.str name)

theorem describes_contextEntry (c : Config) (n : Named Context) :
    Describes c.currentContextName n (contextEntry c n) where
  name := rfl
  cluster := rfl
  user := rfl
  namespaceName := rfl
  source := rfl
  current := by
    show some (Value.bool (c.currentContextName == some n.name)) = _
    rw [beq_eq_decide]

theorem filter_records {contexts : List (Named Context)} {current : Option String} {records : List Value}
    (described : List.Forall₂ (Describes current) contexts records) :
    (records.filter isMarked).map (Shape.valueAt (Shape.plain "name")) =
      ((contexts.map (·.name)).filter fun name => decide (current = some name)).map
        fun name => some (.str name) := by
  induction described with
  | nil => rfl
  | @cons n record contexts records first _ ih =>
    have marked : isMarked record = decide (current = some n.name) := by
      rw [isMarked, first.current]
    rw [List.filter_cons, List.map_cons, List.filter_cons, marked]
    split
    · rw [List.map_cons, List.map_cons, ih, first.name]
    · exact ih

theorem records_contextEntry (distinct : (c.contexts.map (·.name)).Nodup)
    (listed : ∀ name, c.currentContextName = some name → name ∈ c.contexts.map (·.name)) :
    Records c.contexts c.currentContextName (c.contexts.map (contextEntry c)) := by
  have described : List.Forall₂ (Describes c.currentContextName) c.contexts
      (c.contexts.map (contextEntry c)) :=
    List.forall₂_map_right_iff.mpr (List.forall₂_same.mpr fun n _ => describes_contextEntry c n)
  exact ⟨described, by rw [filter_records described, filter_current distinct listed]⟩

end CommandLine

/-! ## Displays -/

namespace Field

theorem ofName?_name (f : Field) : ofName? f.name = some f :=
  (show ∀ f ∈ all, ofName? f.name = some f by decide +kernel) f (mem_all f)

theorem name_injective : Function.Injective name := fun f g h =>
  Option.some.inj (by rw [← ofName?_name f, h, ofName?_name])

/-- What is shown of a field is found under its name. -/
theorem lookup_shown (shown : Field → Option ClusterAccess.Value) (f : Field) :
    (all.filterMap fun g => (shown g).map (g.name, ·)).lookup f.name = shown f := by
  have found : ∀ fs : List Field, (fs.filterMap fun g => (shown g).map (g.name, ·)).lookup f.name =
      if f ∈ fs then shown f else none := by
    intro fs
    induction fs with
    | nil => rfl
    | cons g rest ih =>
      by_cases h : f = g
      · subst h
        cases hs : shown f with
        | none =>
          rw [List.filterMap_cons, hs]
          simpa [hs] using ih
        | some v => simp [hs]
      · have other : (f.name == g.name) = false := beq_false_of_ne fun hn => h (name_injective hn)
        have step : f ∈ g :: rest ↔ f ∈ rest := by simp [h]
        cases hs : shown g <;> simp [List.lookup_cons, hs, other, ih, step]
  rw [found, if_pos (mem_all f)]

end Field

namespace CommandLine

/-- The names of contexts and the name of the current one stand on a display, the latter if there is one. -/
structure Shows (names : List String) (current : Option String) (shown : List (String × Value)) : Prop where
  contexts : shown.lookup Field.contexts.name = some (textList names)
  current : shown.lookup Field.currentContext.name = current.map .str

theorem shows_of_display {c : Config} {redact : Bool} {shown : List (String × Value)}
    (h : c.display redact = .ok shown) : Shows (c.contexts.map (·.name)) c.currentContextName shown := by
  obtain ⟨plugin?, -, rfl⟩ := Config.display_eq_ok.mp h
  constructor
  · rw [Config.entries, List.lookup_append, Field.lookup_shown,
      Config.shownField?_of_not_isSecret c redact plugin? Field.noConfusion rfl]
    rfl
  · have token : ((c.shownToken? redact).map (Config.autoTokenName, ·)).toList.lookup
        Field.currentContext.name = none := by
      cases c.shownToken? redact <;> rfl
    rw [Config.entries, List.lookup_append, Field.lookup_shown, token, Option.or_none,
      Config.shownField?_of_not_isSecret c redact plugin? Field.noConfusion rfl]
    show c.currentContext.map (fun n => Value.str n.name) = (c.currentContext.map (·.name)).map .str
    rw [Option.map_map]
    rfl

/-! ## The configuration behind a listing -/

/-- The documents that a command reads: the one in the file that it is given, or those that discovery finds. -/
def documents (s : Surroundings) (settings : Settings) : Except Error (List Kubeconfig) :=
  match filled settings.kubeconfig with
  | some path => (Kubeconfig.read s.fs (Path.ofText path)).map fun k => [k]
  | none => s.world.documents.result

end CommandLine

namespace World

variable {w : World} {context : Option String} {c : Config}

theorem contexts_of_ofDocument {k : Kubeconfig} (h : (w.ofDocument context k).result = .ok c) :
    c.contexts = Merge.contexts [k] := by
  obtain ⟨merged, hm, hn⟩ := ofDocument_eq_ok.mp h
  exact (Config.SameContexts.normalize hn .contexts rfl).trans (Merge.contexts_of_documents hm)

theorem contexts_of_autoConfigure (h : (w.autoConfigure context).result = .ok c) :
    ∃ docs, w.documents.result = .ok docs ∧ c.contexts = Merge.contexts docs := by
  obtain ⟨found, finished, hd, hf, rfl⟩ := autoConfigure_eq_ok.mp h
  have kept : (finished.set .autoConfigured true).contexts = found.contexts :=
    ((Config.SameContexts.finish hf).trans (.setAutoConfigured finished)) .contexts rfl
  obtain ⟨docs, hdocs, -⟩ := Traced.bind_eq_ok.mp hd
  refine ⟨docs, hdocs, kept.trans ?_⟩
  by_cases hne : docs = []
  · subst hne
    exact (discover_of_no_documents hdocs hd).value .contexts rfl
  · rw [result_discover_of_documents hdocs hne] at hd
    exact Merge.contexts_of_documents hd

end World

namespace CommandLine

variable {s : Surroundings} {settings : Settings} {c : Config}

/-- A resolved configuration has the contexts of the documents, and one of them is the current one if any is. -/
theorem contexts_of_resolve (h : (resolve s settings).result = .ok c) :
    ∃ docs, documents s settings = .ok docs ∧ c.contexts = Merge.contexts docs ∧
      ∀ name, c.currentContextName = some name → name ∈ c.contexts.map (·.name) := by
  have listed {origin : Named Context → Prop} (lists : c.Lists origin) (name : String)
      (hn : c.currentContextName = some name) : name ∈ c.contexts.map (·.name) := by
    obtain ⟨n, hc, rfl⟩ := Option.map_eq_some_iff.mp hn
    exact List.mem_map_of_mem (lists.current n hc)
  unfold resolve at h
  unfold documents
  cases hp : filled settings.kubeconfig with
  | some path =>
    rw [hp] at h
    dsimp only at h ⊢
    rw [World.result_ofFile] at h
    obtain ⟨k, hk, h⟩ := except_bind_eq_ok.mp h
    have read : Kubeconfig.read s.fs (Path.ofText path) = .ok k := hk
    rw [read]
    exact ⟨[k], rfl, World.contexts_of_ofDocument h, listed (World.lists_of_ofDocument h)⟩
  | none =>
    rw [hp] at h
    obtain ⟨docs, hdocs, contexts⟩ := World.contexts_of_autoConfigure h
    exact ⟨docs, hdocs, contexts, listed (World.lists_of_autoConfigure h)⟩

/-! ## What is written -/

/-- The run succeeds with this on its output. -/
structure Outcome.Writes (o : Outcome) (text : String) : Prop where
  status : o.status = 0
  output : o.output = text

/-- Everything is written exactly if all of it can be encoded. -/
theorem write_fault {pages : List String} :
    (write pages).2 = none ↔ ∀ page ∈ pages, Text.unencodable? page = none := by
  induction pages with
  | nil => simp [write]
  | cons page rest ih =>
    rw [write, List.forall_mem_cons, ← ih]
    cases Text.unencodable? page <;> simp

theorem status_failure (settings : Settings) (output log : String) (e : Error) :
    (failure settings output log e).status = 1 := by
  unfold failure
  split <;> rfl

theorem write_of_encodable {pages : List String} (h : ∀ page ∈ pages, Text.unencodable? page = none) :
    write pages = (String.join pages, none) := by
  induction pages with
  | nil => rfl
  | cons page rest ih =>
    obtain ⟨first, others⟩ := List.forall_mem_cons.mp h
    rw [write, first, ih others]
    simp

section Runs

variable {args : List String} {command : Command} {pages : List String}
  (asked : request s.isDirectory args = .ok (.run command settings))
  (resolved : (resolve s settings).result = .ok c) (shown : resultPages command settings c = .ok pages)
include asked resolved shown

theorem run_eq_deliver : ∃ log, run s args = deliver settings log pages := by
  have done : (resolve s settings >>= fun c => Traced.ofExcept (resultPages command settings c)).result =
      .ok pages := by
    rw [Traced.result_bind_of_ok resolved, Traced.result_ofExcept, shown]
  rw [run, asked]
  unfold perform
  dsimp only
  rw [done]
  exact ⟨_, rfl⟩

theorem run_writes (encodable : ∀ page ∈ pages, Text.unencodable? page = none) :
    (run s args).Writes (String.join pages) := by
  obtain ⟨log, h⟩ := run_eq_deliver asked resolved shown
  rw [h, deliver, write_of_encodable encodable]
  exact ⟨rfl, rfl⟩

/-- A run with something to show succeeds exactly if all of it can be encoded. -/
theorem status_run : (run s args).status = 0 ↔ ∀ page ∈ pages, Text.unencodable? page = none := by
  obtain ⟨log, h⟩ := run_eq_deliver asked resolved shown
  rw [h, ← write_fault, deliver]
  split
  · next written => simp [written]
  · next written =>
    rw [status_failure, written]
    simp

end Runs

theorem unencodable?_written {line : String} :
    Text.unencodable? (written line) = none ↔ Text.unencodable? line = none := by
  have lineEnd : Text.unencodable? "\n" = none := by decide
  rw [written, Text.unencodable?_append, Text.unencodable?_plain]
  exact and_iff_left lineEnd

theorem unencodable?_jsonPage (es : List (String × Value)) : Text.unencodable? (jsonPage es) = none := by
  refine Text.unencodable?_of_isAscii ?_
  rw [jsonPage, String.toList_append, Text.isAscii_append]
  exact ⟨Json.isAscii_render _ _, by decide⟩

/-- The page of a configuration on display. -/
def displayPage (json : Bool) (shown : List (String × Value)) : String :=
  if json then jsonPage [("status", .str "ok"), ("result", object shown)]
  else written (String.ofList (Text.trimEnd (Yaml.print (shown.map fun (k, v) => (.str k, v))).toList))

theorem unencodable?_displayPage (json : Bool) (shown : List (String × Value)) :
    Text.unencodable? (displayPage json shown) = none := by
  unfold displayPage
  split
  · exact unencodable?_jsonPage _
  · refine unencodable?_written.mpr (Text.unencodable?_of_isAscii ?_)
    rw [String.toList_ofList]
    exact (Yaml.isAscii_print _).of_subset (Text.trimEnd_subset _)

theorem resultPages_view {entries : List (String × Value)} (h : shown settings c = .ok entries) :
    resultPages .view settings c = .ok [displayPage settings.jsonOutput entries] := by
  unfold resultPages displayPage Command.result Command.lines
  rw [h]
  cases settings.jsonOutput <;> rfl

/-- A line without an escape character is written as it is. -/
theorem written_of_not_mem {line : String} (h : Text.escape ∉ line.toList) : written line = line ++ "\n" := by
  rw [written, Text.plain_of_not_mem h]

/-- Rows for names without escape characters are written as they are. -/
theorem Rows.map_written {names : List String} {current : Option String} {rows : List String}
    (h : Rows names current rows) (bare : ∀ name ∈ names, Text.escape ∉ name.toList) :
    rows.map written = rows.map (· ++ "\n") := by
  obtain ⟨sorted, perm, -, rfl⟩ := h.named
  refine List.map_congr_left fun row hr => ?_
  obtain ⟨name, hn, rfl⟩ := List.mem_map.mp hr
  refine written_of_not_mem ?_
  have mark : ∀ m : String, m = "* " ∨ m = "  " → Text.escape ∉ m.toList := by
    rintro m (rfl | rfl) <;> decide
  rw [rowOf, String.toList_append, List.mem_append, not_or]
  refine ⟨mark _ ?_, bare name (perm.mem_iff.mp hn)⟩
  split
  · exact .inl rfl
  · exact .inr rfl

variable {args : List String}

theorem resultPages_rows (found : c.contexts ≠ []) (text : settings.jsonOutput = false) :
    resultPages .contexts settings c = .ok ((contextRows c).map written) := by
  rw [resultPages, text]
  show Except.ok ((if c.contexts.isEmpty then _ else contextRows c).map written) = _
  rw [List.isEmpty_eq_false_iff.mpr found]
  rfl

/-- The rows can be encoded exactly if the names can. -/
theorem encodable_rows : (∀ page ∈ (contextRows c).map written, Text.unencodable? page = none) ↔
    ∀ name ∈ c.contexts.map (·.name), Text.unencodable? name = none := by
  have mark (name : String) :
      Text.unencodable? (rowOf c.currentContextName name) = none ↔ Text.unencodable? name = none := by
    rw [rowOf, Text.unencodable?_append]
    refine and_iff_right ?_
    split <;> decide
  rw [contextRows_eq, List.forall_mem_map, List.forall_mem_map]
  simp only [unencodable?_written, mark, (perm_sortedNames c.contexts).mem_iff]

theorem writes_records (lists : request s.isDirectory args = .ok (.run .contexts settings))
    (resolved : (resolve s settings).result = .ok c) (json : settings.jsonOutput = true) :
    (run s args).Writes
      (jsonPage [("status", .str "ok"), ("result", .list (c.contexts.map (contextEntry c)))]) := by
  have page : resultPages .contexts settings c =
      .ok [jsonPage [("status", .str "ok"), ("result", .list (c.contexts.map (contextEntry c)))]] := by
    rw [resultPages, json]
    rfl
  have written := run_writes lists resolved page
    (List.forall_mem_singleton.mpr (unencodable?_jsonPage _))
  simpa [String.join] using written

/-- A view writes the configuration on display, if it can be shown and no integer among the settings that are
not masked is too long. -/
theorem writes_display (views : request s.isDirectory args = .ok (.run .view settings))
    (resolved : (resolve s settings).result = .ok c)
    (showable : c.authProvider.all AuthProvider.isShowable = true)
    (writable : settings.showSecrets = true → c.authProvider.all AuthProvider.isWritable = true) :
    ∃ shown, Shows (c.contexts.map (·.name)) c.currentContextName shown ∧
      (run s args).Writes (displayPage settings.jsonOutput shown) := by
  have displayed : (c.display (!settings.showSecrets)).isOk = true := (c.isOk_display _).trans showable
  cases hd : c.display (!settings.showSecrets) with
  | error e =>
    rw [hd] at displayed
    cases displayed
  | ok shown =>
    have written := run_writes views resolved (resultPages_view (shown_of_display resolved writable hd))
      (List.forall_mem_singleton.mpr (unencodable?_displayPage _ shown))
    exact ⟨shown, shows_of_display hd, by simpa [String.join] using written⟩

/-- Surroundings with nothing but a file of the name `/k`. -/
def Surroundings.sample (text : String) : Surroundings where
  variableValue := fun _ => none
  fs := (World.sample [] [("/k", text)]).fs
  certificates := (World.sample [] []).fs
  home := none
  isDirectory := fun _ => false

/-- Two contexts, the second of which is the current one. -/
def sampleListing : Surroundings := .sample "contexts: [name: b, name: a]\ncurrent-context: a\n"

/-- Two contexts, the names of which differ in a control sequence. -/
def sampleAlike : Surroundings := .sample "contexts: [name: a, name: \"a\\e[m\"]\n"

end CommandLine

end ClusterAccess
