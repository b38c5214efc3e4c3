import ClusterAccess.Text.Base64
import ClusterAccess.Text.Utf8
import Mathlib.Data.List.Basic
import Mathlib.Tactic.IntervalCases
import Mathlib.Tactic.Ring

/-!
# Text that is written and read back

Every text is read back from the octets that UTF-8 writes for it, and all octets from the digits that base64
writes for them. So is every text from the base64 of its UTF-8. Nothing but digits and padding is read as
base64.
-/
namespace ClusterAccess

/-! ## UTF-8 -/

namespace Utf8

theorem toNat_octet {n : Nat} (h : n < 256) : (UInt8.ofNat n).toNat = n := by
  rw [UInt8.toNat_ofNat', Nat.mod_eq_of_lt h]

/-- The last `k` octets of a number that has more, six bits in each. -/
def tail : (k : Nat) → Nat → List UInt8
  | 0, _ => []
  | k + 1, v => UInt8.ofNat (v / 64 ^ k % 64 + 0x80) :: tail k v

@[simp] theorem length_tail (k v : Nat) : (tail k v).length = k := by
  induction k with
  | zero => rfl
  | succ k ih => simp [tail, ih]

/-- One octet more of a character that has begun. -/
theorem next?_octet {p : Pending} {x : Nat} (hx : x < 64) (low : p.low.toNat ≤ x + 0x80)
    (high : x + 0x80 ≤ p.high.toNat) : p.next? (UInt8.ofNat (x + 0x80)) =
      some ⟨p.more - 1, p.bits * 64 + x, 0x80, 0xBF, UInt8.ofNat (x + 0x80) :: p.seen⟩ := by
  have octet : (UInt8.ofNat (x + 0x80)).toNat = x + 0x80 := toNat_octet (by omega)
  have fits : p.low ≤ UInt8.ofNat (x + 0x80) ∧ UInt8.ofNat (x + 0x80) ≤ p.high := by
    rw [UInt8.le_iff_toNat_le, UInt8.le_iff_toNat_le, octet]
    exact ⟨low, high⟩
  rw [Pending.next?, if_pos fits, octet, Nat.add_sub_cancel]

/-- The rest of a character that has begun. Only the octet right after the first has bounds of its own. -/
theorem decodeFrom_tail (k v position : Nat) (rest : List UInt8) {p : Pending} (more : p.more = k + 1)
    (low : p.low.toNat ≤ v / 64 ^ k % 64 + 0x80) (high : v / 64 ^ k % 64 + 0x80 ≤ p.high.toNat) :
    decodeFrom position (some p) (tail (k + 1) v ++ rest) =
      (decodeFrom (position + k + 1) none rest).map
        (Char.ofNat (p.bits * 64 ^ (k + 1) + v % 64 ^ (k + 1)) :: ·) := by
  induction k generalizing position p with
  | zero =>
    have step := next?_octet (p := p) (Nat.mod_lt (v / 64 ^ 0) (by decide)) low high
    rw [tail, tail, List.cons_append, List.nil_append, decodeFrom, step]
    simp [more]
  | succ k ih =>
    have small : v / 64 ^ (k + 1) % 64 < 64 := Nat.mod_lt _ (by decide)
    have step := next?_octet small low high
    have following : v / 64 ^ k % 64 < 64 := Nat.mod_lt _ (by decide)
    have bits : (p.bits * 64 + v / 64 ^ (k + 1) % 64) * 64 ^ (k + 1) + v % 64 ^ (k + 1) =
        p.bits * 64 ^ (k + 1 + 1) + v % 64 ^ (k + 1 + 1) := by
      rw [Nat.pow_succ 64 (k + 1), Nat.mod_mul]
      ring
    rw [tail, List.cons_append, decodeFrom, step]
    dsimp only
    rw [more, if_neg (by omega), ih _ (by dsimp only; omega) (by simp) (by simp; omega), bits]
    congr 2
    omega

/-! ### The first octet -/

theorem start?_one {x : Nat} (high : x < 0x80) :
    start? (UInt8.ofNat x) = some ⟨0, x, 0, 0, [UInt8.ofNat x]⟩ := by
  have octet : (UInt8.ofNat x).toNat = x := toNat_octet (by omega)
  have small : UInt8.ofNat x < 0x80 := by
    rw [UInt8.lt_iff_toNat_lt, octet]
    exact high
  rw [start?, if_pos small, octet]

theorem start?_two {x : Nat} (low : 2 ≤ x) (high : x < 32) :
    start? (UInt8.ofNat (x + 0xC0)) = some ⟨1, x, 0x80, 0xBF, [UInt8.ofNat (x + 0xC0)]⟩ := by
  interval_cases x <;> rfl

theorem start?_three {x : Nat} (high : x < 16) :
    start? (UInt8.ofNat (x + 0xE0)) = some ⟨2, x, if x = 0 then 0xA0 else 0x80,
      if x = 0xD then 0x9F else 0xBF, [UInt8.ofNat (x + 0xE0)]⟩ := by
  interval_cases x <;> rfl

theorem start?_four {x : Nat} (high : x < 5) :
    start? (UInt8.ofNat (x + 0xF0)) = some ⟨3, x, if x = 0 then 0x90 else 0x80,
      if x = 4 then 0x8F else 0xBF, [UInt8.ofNat (x + 0xF0)]⟩ := by
  interval_cases x <;> rfl

/-! ### Whole characters -/

/-- The octets of the character with the number `v`: one alone, or one that promises the others. -/
inductive Spells (v : Nat) : List UInt8 → Prop
  | alone (small : v < 0x80) : Spells v [UInt8.ofNat v]
  | several {first : UInt8} {p : Pending} {k : Nat} (opens : start? first = some p) (more : p.more = k + 1)
    (bits : p.bits = v / 64 ^ (k + 1)) (low : p.low.toNat ≤ v / 64 ^ k % 64 + 0x80)
    (high : v / 64 ^ k % 64 + 0x80 ≤ p.high.toNat) : Spells v (first :: tail (k + 1) v)

theorem spells_two {v : Nat} (low : 0x7F < v) (high : v ≤ 0x7FF) :
    Spells v [UInt8.ofNat (v / 64 % 32 + 0xC0), UInt8.ofNat (v % 64 + 0x80)] := by
  have fits : v / 64 % 32 = v / 64 := by omega
  have rest : tail 1 v = [UInt8.ofNat (v % 64 + 0x80)] := by simp [tail]
  rw [fits, ← rest]
  refine .several (start?_two (by omega) (by omega)) rfl (by simp) (by simp) ?_
  show v / 64 ^ 0 % 64 + 0x80 ≤ 0xBF
  omega

/-- The numbers that no character has lie between the two ranges. -/
theorem spells_three {v : Nat} (low : 0x7FF < v) (high : v ≤ 0xFFFF) (valid : v < 0xD800 ∨ 0xDFFF < v) :
    Spells v [UInt8.ofNat (v / 4096 % 16 + 0xE0), UInt8.ofNat (v / 64 % 64 + 0x80),
      UInt8.ofNat (v % 64 + 0x80)] := by
  have fits : v / 4096 % 16 = v / 4096 := by omega
  have rest : tail 2 v = [UInt8.ofNat (v / 64 % 64 + 0x80), UInt8.ofNat (v % 64 + 0x80)] := by simp [tail]
  rw [fits, ← rest]
  refine .several (start?_three (by omega)) rfl (by simp) ?_ ?_
  · by_cases h : v / 4096 = 0
    · rw [if_pos h]
      show 0xA0 ≤ v / 64 ^ 1 % 64 + 0x80
      omega
    · rw [if_neg h]
      exact Nat.le_add_left _ _
  · by_cases h : v / 4096 = 0xD
    · rw [if_pos h]
      show v / 64 ^ 1 % 64 + 0x80 ≤ 0x9F
      omega
    · rw [if_neg h]
      show v / 64 ^ 1 % 64 + 0x80 ≤ 0xBF
      omega

theorem spells_four {v : Nat} (low : 0xFFFF < v) (high : v < 0x110000) :
    Spells v [UInt8.ofNat (v / 262144 % 8 + 0xF0), UInt8.ofNat (v / 4096 % 64 + 0x80),
      UInt8.ofNat (v / 64 % 64 + 0x80), UInt8.ofNat (v % 64 + 0x80)] := by
  have fits : v / 262144 % 8 = v / 262144 := by omega
  have rest : tail 3 v = [UInt8.ofNat (v / 4096 % 64 + 0x80), UInt8.ofNat (v / 64 % 64 + 0x80),
      UInt8.ofNat (v % 64 + 0x80)] := by simp [tail]
  rw [fits, ← rest]
  refine .several (start?_four (by omega)) rfl (by simp) ?_ ?_
  · by_cases h : v / 262144 = 0
    · rw [if_pos h]
      show 0x90 ≤ v / 64 ^ 2 % 64 + 0x80
      omega
    · rw [if_neg h]
      exact Nat.le_add_left _ _
  · by_cases h : v / 262144 = 4
    · rw [if_pos h]
      show v / 64 ^ 2 % 64 + 0x80 ≤ 0x8F
      omega
    · rw [if_neg h]
      show v / 64 ^ 2 % 64 + 0x80 ≤ 0xBF
      omega

theorem spells_utf8EncodeChar (c : Char) : Spells c.val.toNat (String.utf8EncodeChar c) := by
  have valid : c.val.toNat < 0xD800 ∨ 0xDFFF < c.val.toNat ∧ c.val.toNat < 0x110000 := c.valid
  rw [String.utf8EncodeChar.eq_1]
  generalize c.val.toNat = v at valid
  split
  · exact .alone (by omega)
  · split
    · exact spells_two (by omega) (by omega)
    · split
      · exact spells_three (by omega) (by omega) (by omega)
      · exact spells_four (by omega) (by omega)

/-- A character is read from its octets, and then what follows them. -/
theorem decodeFrom_of_spells {v : Nat} {octets : List UInt8} (h : Spells v octets) (position : Nat)
    (rest : List UInt8) : decodeFrom position none (octets ++ rest) =
      (decodeFrom (position + octets.length) none rest).map (Char.ofNat v :: ·) := by
  cases h with
  | alone small =>
    rw [List.cons_append, List.nil_append, decodeFrom, start?_one small]
    rfl
  | @several first p k opens more bits low high =>
    have whole : p.bits * 64 ^ (k + 1) + v % 64 ^ (k + 1) = v := by
      rw [bits, Nat.mul_comm]
      exact Nat.div_add_mod v _
    have following := decodeFrom_tail k v (position + 1) rest more low high
    rw [whole] at following
    rw [List.cons_append, decodeFrom, opens]
    dsimp only
    rw [if_neg (by omega), following]
    congr 2
    simp only [List.length_cons, length_tail]
    omega

theorem decodeFrom_encoded (cs : List Char) (position : Nat) :
    decodeFrom position none (cs.flatMap String.utf8EncodeChar) = .ok cs := by
  induction cs generalizing position with
  | nil => rfl
  | cons c rest ih =>
    rw [List.flatMap_cons, decodeFrom_of_spells (spells_utf8EncodeChar c), ih]
    show Except.ok (Char.ofNat c.toNat :: rest) = _
    rw [Char.ofNat_toNat]

/-- Every text is read back from its octets. -/
theorem decode_encodeText (s : String) : decode (encodeText s) = .ok s := by
  rw [decode, encodeText, decodeFrom_encoded]
  show Except.ok (String.ofList s.toList) = _
  rw [String.ofList_toList]

end Utf8

/-! ## Base64 -/

namespace Base64

theorem digit_ne_pad {n : Nat} (h : n < 64) : digit n ≠ '=' := by
  revert n
  decide

/-- A digit is read as its number, as long as no padding has been read. -/
theorem strictDigits_digit {n : Nat} (h : n < 64) (p : Place) (cs : List Char) :
    strictDigits p false (digit n :: cs) = (strictDigits p.afterDigit false cs).map (n :: ·) := by
  rw [strictDigits, if_neg (digit_ne_pad h), digit?_digit h]
  rfl

theorem ofNat_of_eq {n : Nat} (octet : UInt8) (h : n = octet.toNat) : UInt8.ofNat n = octet := by
  rw [h, UInt8.ofNat_toNat]

/-- The bits of octets, six at a time. -/
def sixBits : List UInt8 → List Nat
  | a :: b :: c :: rest =>
    a.toNat / 4 :: (a.toNat % 4 * 16 + b.toNat / 16) :: (b.toNat % 16 * 4 + c.toNat / 64) ::
      c.toNat % 64 :: sixBits rest
  | [a, b] => [a.toNat / 4, a.toNat % 4 * 16 + b.toNat / 16, b.toNat % 16 * 4]
  | [a] => [a.toNat / 4, a.toNat % 4 * 16]
  | [] => []

theorem strictDigits_encode (octets : List UInt8) :
    strictDigits ⟨0, 0⟩ false (encode octets) = some (sixBits octets) := by
  induction octets using encode.induct with
  | case1 a b c rest ih =>
    have ha : a.toNat < 256 := a.toNat_lt
    have hb : b.toNat < 256 := b.toNat_lt
    have hc : c.toNat < 256 := c.toNat_lt
    rw [encode, strictDigits_digit (by omega), strictDigits_digit (by omega), strictDigits_digit (by omega),
      strictDigits_digit (by omega)]
    -- After four digits the next group begins.
    show ((((strictDigits ⟨0, 0⟩ false (encode rest)).map _).map _).map _).map _ = _
    rw [ih]
    rfl
  | case2 a b =>
    have ha : a.toNat < 256 := a.toNat_lt
    have hb : b.toNat < 256 := b.toNat_lt
    rw [encode, strictDigits_digit (by omega), strictDigits_digit (by omega), strictDigits_digit (by omega)]
    rfl
  | case3 a =>
    have ha : a.toNat < 256 := a.toNat_lt
    rw [encode, strictDigits_digit (by omega), strictDigits_digit (by omega)]
    rfl
  | case4 => rfl

theorem pack_sixBits (octets : List UInt8) : pack (sixBits octets) = octets := by
  induction octets using sixBits.induct with
  | case1 a b c rest ih =>
    have ha : a.toNat < 256 := a.toNat_lt
    have hb : b.toNat < 256 := b.toNat_lt
    have hc : c.toNat < 256 := c.toNat_lt
    rw [sixBits, pack, ih, ofNat_of_eq a (by omega), ofNat_of_eq b (by omega),
      ofNat_of_eq c (by omega)]
  | case2 a b =>
    have hb : b.toNat < 256 := b.toNat_lt
    rw [sixBits, pack, ofNat_of_eq a (by omega), ofNat_of_eq b (by omega)]
  | case3 a => rw [sixBits, pack, ofNat_of_eq a (by omega)]
  | case4 => rfl

theorem head?_encode (octets : List UInt8) : (encode octets).head? ≠ some '=' := by
  have digit_first : ∀ (a : UInt8) (cs : List Char), (digit (a.toNat / 4) :: cs).head? ≠ some '=' := by
    intro a cs h
    have ha : a.toNat < 256 := a.toNat_lt
    exact digit_ne_pad (by omega) (Option.some.inj h)
  cases octets using encode.fun_cases with
  | case1 a b c rest => exact digit_first a _
  | case2 a b => exact digit_first a _
  | case3 a => exact digit_first a _
  | case4 => simp [encode]

/-- All octets are read back from their digits. -/
theorem decode_encode (octets : List UInt8) : decode (encode octets) = some octets := by
  rw [decode, if_neg (head?_encode octets), strictDigits_encode, Option.map_some, pack_sixBits]

/-- The base64 of a text in UTF-8. -/
def ofText (s : String) : String := String.ofList (encode (Utf8.encodeText s))

theorem toList_ofText (s : String) : (ofText s).toList = encode (Utf8.encodeText s) := by
  rw [ofText, String.toList_ofList]

/-- The character is padding, or one of the sixty-four digits. -/
def IsInAlphabet (c : Char) : Prop := c = '=' ∨ (digit? c).isSome = true

theorem isInAlphabet_of_strictDigits {cs : List Char} : ∀ {p : Place} {padded : Bool} {digits : List Nat},
    strictDigits p padded cs = some digits → ∀ c ∈ cs, IsInAlphabet c := by
  induction cs with
  | nil => exact fun _ => List.forall_mem_nil _
  | cons c cs ih =>
    intro p padded digits h
    rw [List.forall_mem_cons]
    rw [strictDigits] at h
    by_cases pad : c = '='
    · refine ⟨.inl pad, ?_⟩
      rw [if_pos pad] at h
      by_cases complete : p.completes = true
      · -- Nothing follows the padding that completes a group.
        rw [if_pos complete] at h
        cases cs with
        | nil => exact List.forall_mem_nil _
        | cons c cs => cases h
      · rw [if_neg complete] at h
        exact ih h
    · rw [if_neg pad] at h
      cases digit : digit? c with
      | none =>
        rw [digit] at h
        cases h
      | some v =>
        rw [digit] at h
        refine ⟨.inr (by rw [digit]; rfl), ?_⟩
        cases padded with
        | true => cases h
        | false =>
          obtain ⟨rest, hr, _⟩ := Option.map_eq_some_iff.mp h
          exact ih hr

/-- Nothing but digits and padding is read. -/
theorem isInAlphabet_of_decode {cs : List Char} {octets : List UInt8} (h : decode cs = some octets) :
    ∀ c ∈ cs, IsInAlphabet c := by
  unfold decode at h
  split at h
  · cases h
  · obtain ⟨digits, hd, _⟩ := Option.map_eq_some_iff.mp h
    exact isInAlphabet_of_strictDigits hd

end Base64

end ClusterAccess
