import ClusterAccess.Proofs.DecimalText
import ClusterAccess.Proofs.Stage

/-!
# Which options are refused

A few options are for values of a kind: integers, protocol versions, the algorithm of a key. One that is
present with a value of another kind is refused, and no other option is. What laying options over a
configuration and the normal form refuse between them is what is refused here, whatever they are laid over.
-/
namespace ClusterAccess

namespace Options

/-- The options for integers, in the order in which they are read. -/
def integers : List String :=
  [connectionTimeout, websocketPingInterval, maxConcurrentRequests, maxConcurrentRequestsPerHost,
   watchReconnectInterval, watchReconnectLimit, scaleTimeout, loggingInterval, uploadRequestTimeout,
   requestTimeout, retryBackoffLimit, retryBackoffInterval]

end Options

namespace Probe

/-- An option that is present with a value of the wrong kind, by the error that says so. -/
inductive Refuses (p : Probe) : Error → Prop
  | integer {name value : String} (known : name ∈ Options.integers) (present : p.get? name = some value)
    (noInteger : ∀ i, ¬ Numeral.DecimalText (Text.trimChars value.toList) i) :
    Refuses p (.invalidOption name value "an integer")
  | protocol {value name : String} (present : p.get? Options.tlsVersions = some value)
    (listed : name ∈ Text.commaList value) (unknown : name ∉ TlsVersion.all.map TlsVersion.name) :
    Refuses p (.invalidOption Options.tlsVersions (",".intercalate (Text.commaList value))
      "a list of TLS protocol names")
  | keyAlgorithm {value : String} (present : p.get? Options.clientKeyAlgorithm = some value)
    (unknown : Text.upperCase (Text.trim value) ∉ ["RSA", "EC"]) :
    Refuses p (.invalidOption Options.clientKeyAlgorithm value "RSA or EC")

/-! ## Options one by one -/

theorem getInteger?_eq_error_iff {p : Probe} {name : String} {e : Error} :
    p.getInteger? name = .error e ↔ ∃ value, p.get? name = some value ∧
      (∀ i, ¬ Numeral.DecimalText (Text.trimChars value.toList) i) ∧
        .invalidOption name value "an integer" = e := by
  unfold getInteger?
  cases p.get? name with
  | none => simp
  | some value =>
    simp only [Option.some.injEq, exists_eq_left', ← Numeral.readDecimal?_eq_none_iff]
    cases Numeral.readDecimal? value <;> simp

theorem mapM_eq_none_iff {α β : Type} {f : α → Option β} {xs : List α} :
    xs.mapM f = none ↔ ∃ x ∈ xs, f x = none := by
  induction xs with
  | nil => simp
  | cons x xs ih =>
    rw [List.mapM_cons]
    cases hx : f x with
    | none => simp [hx]
    | some y => cases hr : xs.mapM f <;> simp [hx, hr, ← ih]

theorem tlsVersions?_eq_error_iff {p : Probe} {e : Error} :
    p.tlsVersions? = .error e ↔ ∃ value, p.get? Options.tlsVersions = some value ∧
      (∃ name ∈ Text.commaList value, name ∉ TlsVersion.all.map TlsVersion.name) ∧
        .invalidOption Options.tlsVersions (",".intercalate (Text.commaList value))
          "a list of TLS protocol names" = e := by
  have unknown : ∀ name, TlsVersion.all.find? (·.name == name) = none ↔
      name ∉ TlsVersion.all.map TlsVersion.name := by
    intro name
    rw [List.find?_eq_none, List.mem_map]
    simp
  unfold tlsVersions? getList?
  cases p.get? Options.tlsVersions with
  | none => simp
  | some value =>
    rw [Option.map_some]
    simp only [Option.some.injEq, exists_eq_left', ← unknown, ← mapM_eq_none_iff]
    cases Text.commaList value with
    | nil => simp
    | cons name names =>
      dsimp only
      split <;> simp [*]

theorem keyAlgorithm?_eq_error_iff {p : Probe} {e : Error} :
    p.keyAlgorithm? = .error e ↔ ∃ value, p.get? Options.clientKeyAlgorithm = some value ∧
      Text.upperCase (Text.trim value) ∉ ["RSA", "EC"] ∧
        .invalidOption Options.clientKeyAlgorithm value "RSA or EC" = e := by
  have unknown : ∀ name, KeyAlgorithm.all.find? (·.name == name) = none ↔ name ∉ ["RSA", "EC"] := by
    intro name
    rw [show ["RSA", "EC"] = KeyAlgorithm.all.map KeyAlgorithm.name from rfl, List.find?_eq_none,
      List.mem_map]
    simp
  unfold keyAlgorithm?
  cases p.get? Options.clientKeyAlgorithm with
  | none => simp
  | some value =>
    simp only [Option.some.injEq, exists_eq_left', ← unknown]
    split <;> simp [*]

end Probe

/-! ## All options together -/

namespace Options

theorem faultOf_eq_some_iff {α : Type} {x : Except Error α} {e : Error} :
    faultOf x = some e ↔ x = .error e := by
  cases x <;> simp [faultOf]

/-- What is read of the options are the integers and the protocol versions. -/
theorem readings_eq (p : Probe) : readings p =
    integers.map (fun name => faultOf (p.getInteger? name)) ++ [faultOf p.tlsVersions?] := rfl

theorem mem_readings_iff {p : Probe} {e : Error} : some e ∈ readings p ↔
    (∃ name ∈ integers, p.getInteger? name = .error e) ∨ p.tlsVersions? = .error e := by
  rw [readings_eq, List.mem_append, List.mem_map, List.mem_singleton, eq_comm (a := some e)]
  simp only [faultOf_eq_some_iff]

theorem fault?_isSome_iff {p : Probe} : (fault? p).isSome = true ↔ ∃ e, some e ∈ readings p := by
  rw [fault?, List.findSome?_isSome_iff]
  simp [Option.isSome_iff_exists]

theorem mem_readings_of_fault {p : Probe} {e : Error} (h : fault? p = some e) : some e ∈ readings p := by
  obtain ⟨r, hr, he⟩ := List.exists_of_findSome?_eq_some h
  exact (show r = some e from he) ▸ hr

/-- An ill-formed option is refused. -/
theorem refuses_of_fault {p : Probe} {e : Error} (h : fault? p = some e) : p.Refuses e := by
  rcases mem_readings_iff.mp (mem_readings_of_fault h) with ⟨name, known, hi⟩ | ht
  · obtain ⟨value, present, noInteger, rfl⟩ := Probe.getInteger?_eq_error_iff.mp hi
    exact .integer known present noInteger
  · obtain ⟨value, present, ⟨name, listed, unknown⟩, rfl⟩ := Probe.tlsVersions?_eq_error_iff.mp ht
    exact .protocol present listed unknown

end Options

namespace Probe

theorem refuses_of_keyAlgorithm {p : Probe} {e : Error} (h : p.keyAlgorithm? = .error e) : p.Refuses e := by
  obtain ⟨value, present, unknown, rfl⟩ := keyAlgorithm?_eq_error_iff.mp h
  exact .keyAlgorithm present unknown

/-- Only a probe has an algorithm to force. -/
theorem refuses_of_forcedAlgorithm {probe? : Option Probe} {e : Error}
    (h : Config.forcedAlgorithm probe? = .error e) : ∃ p, probe? = some p ∧ p.Refuses e := by
  cases probe? with
  | none => cases h
  | some p => exact ⟨p, rfl, refuses_of_keyAlgorithm h⟩

/-- What is refused is found when options are laid over a configuration, or else in the normal form. -/
theorem Refuses.found {p : Probe} {e : Error} (h : p.Refuses e) :
    (Options.fault? p).isSome = true ∨ p.keyAlgorithm? = .error e := by
  cases h with
  | integer known present noInteger =>
    have fails := getInteger?_eq_error_iff.mpr ⟨_, present, noInteger, rfl⟩
    exact .inl (Options.fault?_isSome_iff.mpr ⟨_, Options.mem_readings_iff.mpr (.inl ⟨_, known, fails⟩)⟩)
  | protocol present listed unknown =>
    have fails := tlsVersions?_eq_error_iff.mpr ⟨_, present, ⟨_, listed, unknown⟩, rfl⟩
    exact .inl (Options.fault?_isSome_iff.mpr ⟨_, Options.mem_readings_iff.mpr (.inr fails)⟩)
  | keyAlgorithm present unknown =>
    exact .inr (keyAlgorithm?_eq_error_iff.mpr ⟨_, present, unknown, rfl⟩)

/-- Nothing is refused of options that can all be read. -/
theorem not_refuses {p : Probe} (wellFormed : Options.fault? p = none) {forced : Option KeyAlgorithm}
    (reads : p.keyAlgorithm? = .ok forced) (e : Error) : ¬ p.Refuses e := by
  intro refuses
  rcases refuses.found with fault | fails
  · rw [wellFormed] at fault
    cases fault
  · rw [reads] at fails
    cases fails

/-- Every option that is refused is reported in the same way. -/
theorem Refuses.name_eq {p : Probe} {e : Error} (h : p.Refuses e) : e.name = "InvalidPropertyError" := by
  cases h <;> rfl

end Probe

end ClusterAccess
