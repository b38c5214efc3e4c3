import ClusterAccess.Proofs.ForeignBundle
import ClusterAccess.Proofs.RefusedOption

/-!
# Where a context can be missing

Only a merge asks for a context by its name. All later steps, down to the explicit values, fail for other
reasons if they fail at all, provided that the check for TLS, which the caller may choose, does not raise
this error of its own accord.
-/
namespace ClusterAccess

/-- A context that is not there. -/
def Error.isUnknownContext : Error → Bool
  | .unknownContext _ _ => true
  | _ => false

@[simp] theorem Obstacle.isUnknownContext_error (o : Obstacle) : o.error.isUnknownContext = false := by
  cases o <;> rfl

/-- The computation does not fail for want of a context. -/
abbrev Traced.NeedsNoContext {α : Type} (x : Traced α) : Prop :=
  x.FailsOnly fun e => e.isUnknownContext = false

/-- The check for TLS does not fail for want of a context. -/
def TlsCheck.NeedsNoContext (https : TlsCheck) : Prop := ∀ c, (https c).NeedsNoContext

theorem Tls.available_needsNoContext (l : Library) : (Tls.available l).NeedsNoContext := by
  intro c e fails
  obtain ⟨_, rfl⟩ := available_eq_error_iff.mp fails
  rfl

/-! ## Options -/

theorem Probe.Refuses.isUnknownContext {p : Probe} {e : Error} (h : p.Refuses e) :
    e.isUnknownContext = false := by
  cases h <;> rfl

namespace Options

theorem isUnknownContext_of_fault {p : Probe} {e : Error} (h : fault? p = some e) :
    e.isUnknownContext = false := (refuses_of_fault h).isUnknownContext

theorem apply_needsNoContext (p : Probe) (c : Config) : (apply p c).NeedsNoContext := by
  cases hf : fault? p with
  | none => exact .of_ok (result_apply_of_wellFormed hf c)
  | some e =>
    intro e' he
    rw [result_apply_of_fault hf] at he
    cases he
    exact isUnknownContext_of_fault hf

end Options

/-! ## Normal form and what follows -/

theorem Config.normalize_needsNoContext {https : TlsCheck} (h : https.NeedsNoContext) (c : Config)
    (fs : FileSystem) (probe? : Option Probe) : (c.normalize https fs probe?).NeedsNoContext := by
  intro e he
  cases normalize_eq_error.mp he with
  | noMasterUrl => rfl
  | check _ _ fails => exact h c e fails
  | keyAlgorithm _ _ invalid =>
    obtain ⟨_, _, refuses⟩ := Probe.refuses_of_forcedAlgorithm invalid
    exact refuses.isUnknownContext
  | keyFile => rfl

theorem World.finish_needsNoContext {w : World} (h : w.https.NeedsNoContext) (c : Config) :
    (w.finish c).NeedsNoContext := by
  unfold finish
  refine .bind (Options.apply_needsNoContext w.probe c) fun d _ => .bind_of_ok rfl ?_
  intro e he
  rw [result_normalize] at he
  exact d.normalize_needsNoContext h w.fs (some w.probe) e he

theorem Overrides.apply_needsNoContext {https : TlsCheck} (h : https.NeedsNoContext) (o : Overrides)
    (fs : FileSystem) (probe? : Option Probe) (c : Config) :
    (o.apply https fs probe? c).NeedsNoContext := by
  unfold apply
  split
  · exact .pure c
  · exact .bind ((o.over c).normalize_needsNoContext h fs probe?) fun d _ => .pure _

end ClusterAccess
