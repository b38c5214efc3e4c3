import ClusterAccess.Number.Numeral
import Mathlib.Data.List.DropRight

/-!
# Which texts are decimal integers

A decimal integer is a sign or none, and digits of any script with single underscores between them. Reading
a trimmed text as an integer succeeds for these texts and for no others, as long as they have no more digits
than are allowed; trimming it once more changes nothing.
-/
namespace ClusterAccess

/-! ## Trimmed text -/

namespace Text

theorem dropWhile_of_head {p : Char → Bool} {cs : List Char}
    (h : ∀ c rest, cs = c :: rest → p c = false) : cs.dropWhile p = cs := by
  cases cs with
  | nil => rfl
  | cons c rest => exact List.dropWhile_cons_of_neg (by rw [h c rest rfl]; decide)

theorem isBlank_head_trimStart {cs rest : List Char} {c : Char} (h : trimStart cs = c :: rest) :
    isBlank c = false := by
  have hc := List.head?_dropWhile_not isBlank cs
  rw [show cs.dropWhile isBlank = c :: rest from h] at hc
  exact hc

/-- Trimming leaves no blank character at the start. -/
theorem isBlank_head_trimChars {cs rest : List Char} {c : Char} (h : trimChars cs = c :: rest) :
    isBlank c = false := by
  have hp : trimChars cs <+: trimStart cs := List.rdropWhile_prefix isBlank (trimStart cs)
  obtain ⟨dropped, hd⟩ := hp
  rw [h] at hd
  exact isBlank_head_trimStart hd.symm

/-- Nor at the end. -/
theorem isBlank_last_trimChars {cs rest : List Char} {c : Char}
    (h : (trimChars cs).reverse = c :: rest) : isBlank c = false := by
  rw [trimChars, trimEnd, List.reverse_reverse] at h
  exact isBlank_head_trimStart h

end Text

namespace Numeral

theorem isBlank_of_isSpace {ascii : Bool} {c : Char} (h : isSpace ascii c = true) :
    Text.isBlank c = true := by
  unfold isSpace at h
  split at h
  · simp only [Bool.or_eq_true, beq_iff_eq] at h
    rcases h with rfl | h
    · decide
    · simp [Text.isBlank, h]
  · exact h

/-- The white space around a numeral is blank, so there is none in a trimmed text. -/
theorem trimSpace_trimChars (cs : List Char) : trimSpace (Text.trimChars cs) = Text.trimChars cs := by
  have notSpace : ∀ {ascii c}, Text.isBlank c = false → isSpace ascii c = false := by
    intro ascii c h
    cases hs : isSpace ascii c with
    | false => rfl
    | true =>
      rw [isBlank_of_isSpace hs] at h
      cases h
  unfold trimSpace
  dsimp only
  rw [Text.dropWhile_of_head fun c rest h => notSpace (Text.isBlank_head_trimChars h),
    Text.dropWhile_of_head fun c rest h => notSpace (Text.isBlank_last_trimChars h),
    List.reverse_reverse]

/-! ## Digits -/

/-- Digits of a base ten, single underscores between them. -/
inductive DigitText : List Char → List Nat → Prop
  | last {c : Char} {d : Nat} (digit : digitOf 10 c = some d) : DigitText [c] [d]
  | next {c : Char} {d : Nat} {cs : List Char} {ds : List Nat} (digit : digitOf 10 c = some d)
    (rest : DigitText cs ds) : DigitText (c :: cs) (d :: ds)
  | underscore {c : Char} {d : Nat} {cs : List Char} {ds : List Nat} (digit : digitOf 10 c = some d)
    (rest : DigitText cs ds) : DigitText (c :: '_' :: cs) (d :: ds)

theorem digitOf_underscore : digitOf 10 '_' = none := by decide

theorem ne_underscore_of_digitOf {c : Char} {d : Nat} (h : digitOf 10 c = some d) : (c == '_') = false := by
  cases hc : c == '_' with
  | false => rfl
  | true =>
    rw [eq_of_beq hc, digitOf_underscore] at h
    cases h

theorem digitRun_of_digitOf {c : Char} {d : Nat} (h : digitOf 10 c = some d) (afterDigit : Bool)
    (cs : List Char) : digitRun 10 afterDigit (c :: cs) =
      (digitRun 10 true cs).map fun (ds, rest) => (d :: ds, rest) := by
  rw [digitRun, ne_underscore_of_digitOf h, if_neg Bool.false_ne_true, h]

/-- Digits are read to the end, also when a digit stands before them. -/
theorem DigitText.digitRun_eq {cs : List Char} {ds : List Nat} (h : DigitText cs ds) (afterDigit : Bool) :
    digitRun 10 afterDigit cs = some (ds, []) := by
  induction h generalizing afterDigit with
  | last digit => exact digitRun_of_digitOf digit afterDigit []
  | next digit _ ih =>
    rw [digitRun_of_digitOf digit, ih true]
    rfl
  | underscore digit _ ih =>
    rw [digitRun_of_digitOf digit, digitRun, if_pos (beq_self_eq_true '_'), if_pos rfl, ih false]
    rfl

/-- What is read to the end are digits. After a digit there may be none left, or an underscore first. -/
theorem digitText_of_digitRun {cs : List Char} : ∀ {afterDigit : Bool} {ds : List Nat},
    digitRun 10 afterDigit cs = some (ds, []) → DigitText cs ds ∨
      afterDigit = true ∧ ((cs = [] ∧ ds = []) ∨ ∃ rest, cs = '_' :: rest ∧ DigitText rest ds) := by
  induction cs with
  | nil =>
    intro afterDigit ds h
    cases afterDigit with
    | false => cases h
    | true =>
      cases h
      exact .inr ⟨rfl, .inl ⟨rfl, rfl⟩⟩
  | cons c cs ih =>
    intro afterDigit ds h
    rw [digitRun] at h
    by_cases hu : (c == '_') = true
    · rw [if_pos hu] at h
      cases afterDigit with
      | false => cases h
      | true =>
        rw [if_pos rfl] at h
        rw [eq_of_beq hu]
        rcases ih h with digits | ⟨hf, _⟩
        · exact .inr ⟨rfl, .inr ⟨cs, rfl, digits⟩⟩
        · cases hf
    · rw [if_neg hu] at h
      cases hd : digitOf 10 c with
      | none =>
        rw [hd] at h
        cases afterDigit <;> cases h
      | some d =>
        rw [hd] at h
        obtain ⟨⟨ds', rest⟩, hr, he⟩ := Option.map_eq_some_iff.mp h
        cases he
        left
        rcases ih hr with digits | ⟨_, ⟨rfl, rfl⟩ | ⟨rest, rfl, digits⟩⟩
        · exact .next hd digits
        · exact .last hd
        · exact .underscore hd digits

theorem digitRun_eq_some_iff {cs : List Char} {ds : List Nat} :
    digitRun 10 false cs = some (ds, []) ↔ DigitText cs ds := by
  constructor
  · intro h
    rcases digitText_of_digitRun h with digits | ⟨hf, _⟩
    · exact digits
    · cases hf
  · exact fun digits => digits.digitRun_eq false

/-! ## Integers -/

/-- A sign or none, and not too many digits. -/
inductive DecimalText : List Char → Int → Prop
  | unsigned {cs : List Char} {ds : List Nat} (digits : DigitText cs ds) (short : ds.length ≤ maxDigits) :
    DecimalText cs (valueOf 10 ds)
  | plus {cs : List Char} {ds : List Nat} (digits : DigitText cs ds) (short : ds.length ≤ maxDigits) :
    DecimalText ('+' :: cs) (valueOf 10 ds)
  | minus {cs : List Char} {ds : List Nat} (digits : DigitText cs ds) (short : ds.length ≤ maxDigits) :
    DecimalText ('-' :: cs) (-(valueOf 10 ds : Int))

theorem DigitText.sign_eq {cs : List Char} {ds : List Nat} (h : DigitText cs ds) : sign cs = (false, cs) := by
  have unsigned : ∀ {c d rest}, digitOf 10 c = some d → sign (c :: rest) = (false, c :: rest) := by
    intro c d rest digit
    unfold sign
    split
    · next he =>
      cases he
      cases (show digitOf 10 '-' = none by decide).symm.trans digit
    · next he =>
      cases he
      cases (show digitOf 10 '+' = none by decide).symm.trans digit
    · rfl
  cases h with
  | last digit => exact unsigned digit
  | next digit _ => exact unsigned digit
  | underscore digit _ => exact unsigned digit

/-- The integer of a text, by its sign and its digits. -/
theorem decimalText_iff {cs : List Char} {i : Int} : DecimalText cs i ↔ ∃ ds, DigitText (sign cs).2 ds ∧
    ds.length ≤ maxDigits ∧ i = if (sign cs).1 then -(valueOf 10 ds : Int) else valueOf 10 ds := by
  constructor
  · intro h
    cases h with
    | unsigned digits short =>
      rw [digits.sign_eq]
      exact ⟨_, digits, short, rfl⟩
    | plus digits short => exact ⟨_, digits, short, rfl⟩
    | minus digits short => exact ⟨_, digits, short, rfl⟩
  · rintro ⟨ds, digits, short, rfl⟩
    unfold sign at digits ⊢
    split at digits
    · exact .minus digits short
    · exact .plus digits short
    · exact .unsigned digits short

theorem dropBasePrefix_ten (cs : List Char) : dropBasePrefix 10 cs = cs := by
  unfold dropBasePrefix
  dsimp only
  split
  · rw [if_neg fun h => h.1 rfl]
  · rfl

theorem readInt_eq_ok_iff {cs : List Char} {i : Int} :
    readInt 10 cs = .ok i ↔ DecimalText (trimSpace cs) i := by
  rw [decimalText_iff]
  unfold readInt
  dsimp only
  rw [dropBasePrefix_ten]
  constructor
  · intro h
    split at h
    · cases h
    · next ds rest hr =>
      split at h
      · cases h
      · next short =>
        split at h
        · next he =>
          rw [List.isEmpty_iff.mp he] at hr
          refine ⟨ds, digitRun_eq_some_iff.mp hr, ?_, (Except.ok.inj h).symm⟩
          simpa using short
        · cases h
  · rintro ⟨ds, digits, short, rfl⟩
    rw [digitRun_eq_some_iff.mpr digits]
    dsimp only
    rw [if_neg (by omega), if_pos List.isEmpty_nil]

/-- Reading gives the integer that the trimmed text is, and nothing for any other text. -/
theorem readDecimal?_eq_some_iff {s : String} {i : Int} :
    readDecimal? s = some i ↔ DecimalText (Text.trimChars s.toList) i := by
  have ok : readDecimal? s = some i ↔ readInt 10 (Text.trimChars s.toList) = .ok i := by
    unfold readDecimal?
    cases readInt 10 (Text.trimChars s.toList) <;> simp [Except.toOption]
  rw [ok, readInt_eq_ok_iff, trimSpace_trimChars]

/-! ## Integers that are not too long -/

theorem digitOf_lt {base d : Nat} {c : Char} (h : digitOf base c = some d) : d < base :=
  of_decide_eq_true (Option.filter_eq_some_iff.mp h).2

theorem DigitText.forall_lt {cs : List Char} {ds : List Nat} (h : DigitText cs ds) : ∀ d ∈ ds, d < 10 := by
  induction h with
  | last digit => exact List.forall_mem_singleton.mpr (digitOf_lt digit)
  | next digit _ ih => exact List.forall_mem_cons.mpr ⟨digitOf_lt digit, ih⟩
  | underscore digit _ ih => exact List.forall_mem_cons.mpr ⟨digitOf_lt digit, ih⟩

/-- Digits after a number that is below a bound stay below it, shifted by their number. -/
theorem foldl_lt {base n bound : Nat} (below : n < bound) {ds : List Nat} (small : ∀ d ∈ ds, d < base) :
    ds.foldl (fun n d => n * base + d) n < bound * Nat.pow base ds.length := by
  induction ds generalizing n bound with
  | nil => exact (Nat.mul_one bound).symm ▸ below
  | cons d rest ih =>
    obtain ⟨digit, rest'⟩ := List.forall_mem_cons.mp small
    have shifted : n * base + d < bound * base :=
      calc n * base + d < n * base + base := Nat.add_lt_add_left digit _
        _ = (n + 1) * base := (Nat.succ_mul n base).symm
        _ ≤ bound * base := Nat.mul_le_mul_right base below
    have oneMore : bound * base * Nat.pow base rest.length = bound * Nat.pow base (rest.length + 1) := by
      rw [Nat.mul_assoc, Nat.mul_comm base]
      rfl
    exact oneMore ▸ ih shifted rest'

theorem valueOf_lt {base : Nat} {ds : List Nat} (small : ∀ d ∈ ds, d < base) :
    valueOf base ds < Nat.pow base ds.length := by
  have bound := foldl_lt Nat.one_pos small
  rwa [Nat.one_mul] at bound

theorem DigitText.valueOf_lt {cs : List Char} {ds : List Nat} (h : DigitText cs ds) {few : Nat}
    (short : ds.length ≤ few) : valueOf 10 ds < Nat.pow 10 few :=
  (Numeral.valueOf_lt h.forall_lt).trans_le (Nat.pow_le_pow_right (by decide) short)

/-- An integer that is read off a text can be written again. -/
theorem DecimalText.isLong_eq_false {cs : List Char} {i : Int} (h : DecimalText cs i) : isLong i = false := by
  rw [isLong_eq_false_iff]
  cases h with
  | unsigned digits short => exact digits.valueOf_lt short
  | plus digits short => exact digits.valueOf_lt short
  | minus digits short =>
    rw [Int.natAbs_neg]
    exact digits.valueOf_lt short

theorem readDecimal?_eq_none_iff {s : String} :
    readDecimal? s = none ↔ ∀ i, ¬ DecimalText (Text.trimChars s.toList) i := by
  rw [Option.eq_none_iff_forall_ne_some]
  exact forall_congr' fun i => not_congr readDecimal?_eq_some_iff

end Numeral

end ClusterAccess
