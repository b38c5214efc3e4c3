import ClusterAccess.Resolve
import ClusterAccess.Tls.Availability

/-!
# Computations that reach no stage

Records about how far a configuration has come are written by the run as a whole. Its steps write on other
channels: looking for files, merging, the service account, options, the normal form and the installed
check for TLS.
-/
namespace ClusterAccess

namespace Traced

variable {α β : Type}

theorem log_bind_of_ok {x : Traced α} {a : α} (h : x.result = .ok a) (f : α → Traced β) :
    (x >>= f).log = x.log ++ (f a).log := by
  show (bind x f).log = _
  rw [bind, h]

theorem log_bind_of_error {x : Traced α} {e : Error} (h : x.result = .error e) (f : α → Traced β) :
    (x >>= f).log = x.log := by
  show (bind x f).log = _
  rw [bind, h]

/-- No record is about how far a configuration has come. -/
def IsQuiet (x : Traced α) : Prop := ∀ r ∈ x.log, r.channel ≠ .resolution

namespace IsQuiet

theorem of_log_eq_nil {x : Traced α} (h : x.log = []) : x.IsQuiet := by
  intro r hr
  rw [h] at hr
  cases hr

theorem pure (a : α) : (Pure.pure a : Traced α).IsQuiet := of_log_eq_nil rfl

theorem fail (e : Error) : (Traced.fail e : Traced α).IsQuiet := of_log_eq_nil rfl

theorem ofExcept (x : Except Error α) : (Traced.ofExcept x).IsQuiet := of_log_eq_nil rfl

theorem note {channel : Log.Channel} (other : channel ≠ .resolution) (level : Log.Level)
    (message : String) : (Traced.note level channel message).IsQuiet := by
  intro r hr
  rw [List.mem_singleton.mp hr]
  exact other

theorem bind {x : Traced α} {f : α → Traced β} (hx : x.IsQuiet) (hf : ∀ a, (f a).IsQuiet) :
    (x >>= f).IsQuiet := by
  intro r hr
  cases h : x.result with
  | error e =>
    rw [log_bind_of_error h] at hr
    exact hx r hr
  | ok a =>
    rw [log_bind_of_ok h] at hr
    exact (List.mem_append.mp hr).elim (hx r) (hf a r)

/-- A record of another activity, and then the rest. -/
theorem note_bind {channel : Log.Channel} (other : channel ≠ .resolution) {level : Log.Level}
    {message : String} {f : Unit → Traced β} (hf : (f ()).IsQuiet) :
    (Traced.note level channel message >>= f).IsQuiet := bind (note other level message) fun _ => hf

theorem mapM {f : α → Traced β} (hf : ∀ a, (f a).IsQuiet) (xs : List α) : (xs.mapM f).IsQuiet := by
  induction xs with
  | nil => exact .pure []
  | cons x rest ih =>
    rw [List.mapM_cons]
    exact (hf x).bind fun _ => ih.bind fun _ => .pure _

theorem filterM {f : α → Traced Bool} (hf : ∀ a, (f a).IsQuiet) (xs : List α) :
    (xs.filterM f).IsQuiet := by
  have aux : ∀ kept, (xs.filterAuxM f kept).IsQuiet := by
    induction xs with
    | nil => exact fun kept => .pure kept
    | cons x rest ih => exact fun kept => (hf x).bind fun _ => ih _
  exact (aux []).bind fun _ => .pure _

end IsQuiet

end Traced

open Traced (IsQuiet)

namespace FileSystem

theorem checkFile_isQuiet (fs : FileSystem) (path : String) : (fs.checkFile path).IsQuiet := .ofExcept _

theorem tryText_isQuiet (fs : FileSystem) (path : String) (level : Log.Level) {channel : Log.Channel}
    (other : channel ≠ .resolution) (message : String → String) :
    (fs.tryText path level channel message).IsQuiet := by
  unfold tryText
  split
  · exact .pure _
  · split
    · exact .note_bind other (.pure _)
    · exact .fail _

end FileSystem

namespace Discovery

theorem load_isQuiet (fs : FileSystem) (path : String) : (load fs path).IsQuiet :=
  fs.tryText_isQuiet path _ (by decide) _

theorem isUsable_isQuiet (fs : FileSystem) (path : String) : (isUsable fs path).IsQuiet := by
  refine (fs.checkFile_isQuiet path).bind fun there => ?_
  split
  · refine (load_isQuiet fs path).bind fun text? => ?_
    split
    · exact .note_bind (by decide) (.pure _)
    · exact .pure _
  · exact .note_bind (by decide) (.pure _)

theorem find_isQuiet (p : Probe) (fs : FileSystem) (h : Home) : (find p fs h).IsQuiet := by
  refine .note_bind (by decide) ?_
  split
  · exact (IsQuiet.ofExcept _).bind fun _ =>
      (IsQuiet.filterM (isUsable_isQuiet fs) _).bind fun _ => .pure _
  · exact .note_bind (by decide) (.pure _)

end Discovery

namespace Merge

theorem ownToken_isQuiet (fs : FileSystem) (u : Named User) : (ownToken fs u).IsQuiet := by
  unfold ownToken readToken
  split
  · exact .pure _
  · exact (fs.tryText_isQuiet _ _ (by decide) _).bind fun _ => .pure _
  · exact .pure _

theorem askPlugin_isQuiet (p : AuthProvider) : (askPlugin p).IsQuiet := by
  unfold askPlugin
  split
  · exact .fail _
  · exact .pure _

end Merge

theorem ClientKey.algorithm_isQuiet (fs : FileSystem) (file data : Option String) :
    (algorithm fs file data).IsQuiet := by
  unfold algorithm
  split
  · exact .pure _
  · exact .pure _
  · exact (fs.tryText_isQuiet _ _ (by decide) _).bind fun _ => .pure _

namespace Merge

theorem applyUser_isQuiet (fs : FileSystem) (u : Named User) (c : Config) :
    (applyUser fs u c).IsQuiet := by
  refine (ClientKey.algorithm_isQuiet fs _ _).bind fun algorithm => .bind ?_ fun _ => .pure _
  refine (ownToken_isQuiet fs u).bind fun own => ?_
  split
  · exact (askPlugin_isQuiet _).bind fun _ => .pure _
  · exact .pure _

theorem applyCluster_isQuiet (cluster : Named Cluster) (c : Config) : (applyCluster cluster c).IsQuiet := by
  unfold applyCluster
  split
  · exact .note_bind (by decide) (.pure _)
  · exact .pure _

theorem selectUser_isQuiet (fs : FileSystem) (docs : List Kubeconfig) (context : Named Context)
    (c : Config) : (selectUser fs docs context c).IsQuiet := by
  unfold selectUser
  split
  · exact applyUser_isQuiet fs _ c
  · split
    · exact .note_bind (by decide) (.pure _)
    · exact .pure _

theorem documents_isQuiet (fs : FileSystem) (wanted : Option String) (docs : List Kubeconfig)
    (target : Config) : (documents fs wanted docs target).IsQuiet := by
  unfold documents select
  dsimp only
  split
  · exact .note_bind (by decide) (.pure _)
  · split
    · exact .fail _
    · refine .note_bind (by decide) ?_
      split
      · exact (applyCluster_isQuiet _ _).bind fun c => selectUser_isQuiet fs docs _ c
      · exact .note_bind (by decide) (.pure _)

end Merge

namespace ServiceAccount

theorem findCa_isQuiet (p : Probe) (fs : FileSystem) : (findCa p fs).IsQuiet := by
  refine (fs.checkFile_isQuiet _).bind fun there => ?_
  split <;> exact .note_bind (by decide) (.pure _)

theorem findToken_isQuiet (p : Probe) (fs : FileSystem) : (findToken p fs).IsQuiet := by
  refine .bind ?_ fun path? => ?_
  · unfold findTokenFile
    split
    · exact .pure _
    · refine (fs.checkFile_isQuiet _).bind fun there => ?_
      split
      · exact .pure _
      · exact .note_bind (by decide) (.pure _)
  · split
    · exact .pure _
    · refine (fs.tryText_isQuiet _ _ (by decide) _).bind fun text? => ?_
      split
      · exact .pure _
      · exact .note_bind (by decide) (.pure _)

theorem apply_isQuiet (p : Probe) (fs : FileSystem) (c : Config) : (apply p fs c).IsQuiet := by
  have files : ∀ address, (fileFindings p fs address).IsQuiet := by
    intro address
    unfold fileFindings
    split
    · exact (findCa_isQuiet p fs).bind fun _ => (findToken_isQuiet p fs).bind fun _ => .pure _
    · exact .pure _
  refine .note_bind (by decide) (.bind ?_ fun _ => .pure _)
  unfold findings
  dsimp only
  split
  · exact .note_bind (by decide) (files _)
  · exact files _

theorem applyNamespace_isQuiet (p : Probe) (fs : FileSystem) (c : Config) :
    (applyNamespace p fs c).IsQuiet := by
  refine .note_bind (by decide) (.bind ?_ fun name => ?_)
  · unfold findNamespace
    dsimp only
    split
    · refine (fs.checkFile_isQuiet _).bind fun there => ?_
      split
      · exact .note_bind (by decide) ((fs.tryText_isQuiet _ _ (by decide) _).bind fun _ => .pure _)
      · exact .note_bind (by decide) (.pure _)
    · exact .pure _
  · split <;> exact .pure _

end ServiceAccount

theorem Options.apply_isQuiet (p : Probe) (c : Config) : (apply p c).IsQuiet := by
  unfold apply
  split
  · exact .fail _
  · dsimp only
    generalize (changes p c).fields.map Field.name ++
      (if (p.get? oauthToken).isSome then ["auto_oauth_token"] else []) = names
    split
    · exact .note_bind (by decide) (.pure _)
    · exact .pure _

theorem Config.keyAlgorithm_isQuiet (c : Config) (fs : FileSystem) (probe? : Option Probe) :
    (c.keyAlgorithm fs probe?).IsQuiet := by
  refine (IsQuiet.ofExcept _).bind fun forced => ?_
  split
  · exact .pure _
  · exact ClientKey.algorithm_isQuiet fs _ _

theorem Tls.available_isQuiet (l : Library) (c : Config) : (available l c).IsQuiet := by
  unfold available
  split
  · exact .pure _
  · refine (IsQuiet.ofExcept _).bind fun usable => ?_
    split
    · exact .pure _
    · exact .note_bind (by decide) (.pure _)

theorem World.documents_isQuiet (w : World) : w.documents.IsQuiet := by
  refine (Discovery.find_isQuiet w.probe w.fs w.home).bind fun paths =>
    (IsQuiet.mapM (fun path => ?_) paths).bind fun _ => .pure _
  refine (Discovery.load_isQuiet w.fs path.text).bind fun text? => ?_
  split
  · exact .pure _
  · exact (IsQuiet.ofExcept _).bind fun doc => .pure _

end ClusterAccess
