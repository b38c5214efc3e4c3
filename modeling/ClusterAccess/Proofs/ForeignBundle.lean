import ClusterAccess.Proofs.EncodedText
import ClusterAccess.Proofs.Outcome
import ClusterAccess.Text.Surrogate
import ClusterAccess.Tls.Availability

/-!
# Where the check for TLS gives no answer

A CA bundle that is given inline must be ASCII. One that is not, as it stands or in what it encodes, makes
the installed check fail. For every other configuration the check answers, whatever the bundle and the files
hold.
-/
namespace ClusterAccess

/-! ## Base64 is ASCII -/

namespace Base64

theorem toNat_lt_of_digit? {c : Char} {v : Nat} (h : digit? c = some v) : c.toNat < 128 := by
  have upTo : ∀ {d : Char}, c ≤ d → d.toNat < 128 → c.toNat < 128 := fun hc hd =>
    Nat.lt_of_le_of_lt hc hd
  unfold digit? at h
  split at h
  · next hc => exact upTo hc.2 (by decide)
  · split at h
    · next hc => exact upTo hc.2 (by decide)
    · split at h
      · next hc => exact upTo hc.2 (by decide)
      · split at h
        · next hc => exact hc ▸ (by decide)
        · split at h
          · next hc => exact hc ▸ (by decide)
          · cases h

theorem isAscii_of_decode {cs : List Char} {octets : List UInt8} (h : decode cs = some octets) :
    Text.IsAscii cs := by
  intro c hc
  rcases isInAlphabet_of_decode h c hc with rfl | digit
  · decide
  · obtain ⟨v, hv⟩ := Option.isSome_iff_exists.mp digit
    exact toNat_lt_of_digit? hv

end Base64

/-! ## Bundles -/

namespace Tls

/-- The inline bundle has a character outside of ASCII, as it stands or in the text that it encodes. -/
inductive IsForeign (data : String) : Prop
  | plain (foreign : ¬ Text.IsAscii data.toList)
  | encoded {octets : List UInt8} {text : String} (base64 : Base64.decode data.toList = some octets)
    (utf8 : Utf8.decode octets = .ok text) (foreign : ¬ Text.IsAscii text.toList)

theorem isForeign_iff {data : String} :
    IsForeign data ↔ ¬ Text.IsAscii (ClientKey.decodeData data).toList := by
  unfold ClientKey.decodeData
  cases base64 : Base64.decode data.toList with
  | none =>
    refine ⟨fun h => ?_, .plain⟩
    cases h with
    | plain foreign => exact foreign
    | encoded base64' => cases base64.symm.trans base64'
  | some octets =>
    have ascii := Base64.isAscii_of_decode base64
    rw [Option.map_some]
    cases utf8 : Utf8.decode octets with
    | ok text =>
      refine ⟨fun h => ?_, .encoded base64 utf8⟩
      cases h with
      | plain foreign => exact absurd ascii foreign
      | encoded base64' utf8' foreign =>
        cases base64.symm.trans base64'
        cases utf8.symm.trans utf8'
        exact foreign
    | error malformed =>
      refine ⟨fun h => ?_, .plain⟩
      cases h with
      | plain foreign => exact foreign
      | encoded base64' utf8' =>
        cases base64.symm.trans base64'
        cases utf8.symm.trans utf8'

theorem checkData_eq_error_iff {data : String} {e : Error} :
    checkData data = .error e ↔ IsForeign data ∧ .nonAsciiCertificate = e := by
  have ascii : (ClientKey.decodeData data).toList.all (·.toNat < 128) = true ↔
      Text.IsAscii (ClientKey.decodeData data).toList := by
    simp [Text.IsAscii]
  rw [isForeign_iff, ← ascii]
  unfold checkData
  dsimp only
  split <;> simp [*]

end Tls

/-- Not everything is trusted, and the inline bundle is not ASCII. -/
def Config.HasForeignBundle (c : Config) : Prop :=
  c.trustCerts = false ∧ ∃ data, filled c.caCertData = some data ∧ Tls.IsForeign data

namespace Tls

/-- The check fails for a bundle that is not ASCII, and in no other way. -/
theorem available_eq_error_iff {l : Library} {c : Config} {e : Error} :
    (available l c).result = .error e ↔ c.HasForeignBundle ∧ .nonAsciiCertificate = e := by
  have bundle : checkBundle l.fs c = .error e ↔
      (∃ data, filled c.caCertData = some data ∧ IsForeign data) ∧ .nonAsciiCertificate = e := by
    unfold checkBundle
    cases filled c.caCertData with
    | some data => simp [checkData_eq_error_iff]
    | none => cases filled c.caCertFile <;> simp
  unfold available Config.HasForeignBundle
  cases c.trustCerts with
  | true => simp
  | false =>
    rw [if_neg Bool.false_ne_true, Traced.bind_eq_error, Traced.result_ofExcept, bundle]
    simp only [true_and, or_iff_left_iff_imp]
    rintro ⟨usable, _, h⟩
    split at h <;> cases h

end Tls

end ClusterAccess
