import ClusterAccess.Text.Digit

/-!
# Surrogates in texts

An escape can name a surrogate, a code point that is no character. In a text it is carried as the code point
0xD0000 further on, in a plane to which no character is assigned, and written as the surrogate again wherever
a text is escaped. No encoding has octets for a surrogate, so that a text with one in it cannot be encoded.
-/
namespace ClusterAccess.Text

def isSurrogate (n : Nat) : Bool := 0xD800 ≤ n && n < 0xE000

/-- What stands for a code point. -/
def ofCode (n : Nat) : Char := Char.ofNat (if isSurrogate n then n + 0xD0000 else n)

/-- The code point that a character of a text stands for. -/
def codeOf (c : Char) : Nat :=
  if isSurrogate (c.toNat - 0xD0000) then c.toNat - 0xD0000 else c.toNat

theorem codeOf_of_lt {c : Char} (h : c.toNat < 0xDD800) : codeOf c = c.toNat := by
  have : ¬ isSurrogate (c.toNat - 0xD0000) = true := by
    simp only [isSurrogate, Bool.and_eq_true, decide_eq_true_eq]; omega
  simp [codeOf, this]

theorem codeOf_of_not_isSurrogate {c : Char} (h : isSurrogate (codeOf c) = false) : codeOf c = c.toNat := by
  unfold codeOf at h ⊢
  split at h
  · next surrogate => exact absurd surrogate (Bool.eq_false_iff.mp h)
  · next other => rw [if_neg other]

/-- Surrogates that cannot be encoded: the first of them, where it is, and where they end. -/
structure Unencodable where
  code : Nat
  start : Nat
  stop : Nat
  deriving DecidableEq, Repr

def Unencodable.message (u : Unencodable) : String :=
  let place :=
    if u.stop = u.start + 1 then
      s!"character '\\u" ++ String.ofList (hexDigits 4 u.code) ++ s!"' in position {u.start}"
    else s!"characters in position {u.start}-{u.stop - 1}"
  s!"'utf-8' codec can't encode {place}: surrogates not allowed"

/-- The first surrogate that is not spared, and those that follow it at once. -/
def unencodableFrom (spared : Nat → Bool) (position : Nat) : List Char → Option Unencodable
  | [] => none
  | c :: rest =>
    if isSurrogate (codeOf c) && !spared (codeOf c) then
      let run := rest.takeWhile fun c => isSurrogate (codeOf c)
      some ⟨codeOf c, position, position + 1 + run.length⟩
    else unencodableFrom spared (position + 1) rest

/-- Why a text cannot be encoded. -/
def unencodable? (s : String) : Option Unencodable := unencodableFrom (fun _ => false) 0 s.toList

theorem unencodableFrom_eq_none {spared : Nat → Bool} {position : Nat} {cs : List Char} :
    unencodableFrom spared position cs = none ↔
      ∀ c ∈ cs, isSurrogate (codeOf c) = true → spared (codeOf c) = true := by
  induction cs generalizing position with
  | nil => simp [unencodableFrom]
  | cons c rest ih =>
    rw [unencodableFrom, List.forall_mem_cons, ← @ih (position + 1)]
    cases isSurrogate (codeOf c) <;> cases spared (codeOf c) <;> simp

/-- A text can be encoded exactly if there is no surrogate in it. -/
theorem unencodable?_eq_none {s : String} :
    unencodable? s = none ↔ ∀ c ∈ s.toList, isSurrogate (codeOf c) = false := by
  rw [unencodable?, unencodableFrom_eq_none]
  exact forall₂_congr fun c _ => by cases isSurrogate (codeOf c) <;> simp

theorem unencodable?_append {s t : String} :
    unencodable? (s ++ t) = none ↔ unencodable? s = none ∧ unencodable? t = none := by
  simp only [unencodable?_eq_none, String.toList_append, List.forall_mem_append]

/-- Surrogates are not in ASCII. -/
theorem le_toNat_of_isSurrogate {c : Char} (h : isSurrogate (codeOf c) = true) : 128 ≤ c.toNat := by
  rcases Nat.lt_or_ge c.toNat 128 with small | large
  · rw [codeOf_of_lt (by omega), isSurrogate, Bool.and_eq_true, decide_eq_true_eq] at h
    omega
  · exact large

def IsAscii (cs : List Char) : Prop := ∀ c ∈ cs, c.toNat < 128

instance (cs : List Char) : Decidable (IsAscii cs) := List.decidableBAll (fun c : Char => c.toNat < 128) cs

theorem unencodable?_of_isAscii {s : String} (h : IsAscii s.toList) : unencodable? s = none := by
  refine unencodable?_eq_none.mpr fun c hc => Bool.eq_false_iff.mpr fun surrogate => ?_
  exact absurd (h c hc) (Nat.not_lt.mpr (le_toNat_of_isSurrogate surrogate))

/-- A text for a stream that takes every text: surrogates as escapes. -/
def escaped (s : String) : String :=
  String.ofList (s.toList.flatMap fun c =>
    if isSurrogate (codeOf c) then '\\' :: 'u' :: hexDigits 4 (codeOf c) else [c])

/-- The first text comes before the second in the order of code points, or is the same. -/
def isInOrder : List Char → List Char → Bool
  | [], _ => true
  | _ :: _, [] => false
  | c :: cs, d :: ds => codeOf c < codeOf d || (codeOf c == codeOf d && isInOrder cs ds)

theorem isInOrder_trans {as bs cs : List Char} (hab : isInOrder as bs = true) (hbc : isInOrder bs cs = true) :
    isInOrder as cs = true := by
  induction as generalizing bs cs with
  | nil => rfl
  | cons a as ih =>
    cases bs with
    | nil => cases hab
    | cons b bs =>
      cases cs with
      | nil => cases hbc
      | cons c cs =>
        simp only [isInOrder, Bool.or_eq_true, Bool.and_eq_true, decide_eq_true_eq, beq_iff_eq] at hab hbc ⊢
        rcases hab with hab | ⟨hab, rest⟩
        · exact .inl (by omega)
        · rcases hbc with hbc | ⟨hbc, rest'⟩
          · exact .inl (by omega)
          · exact .inr ⟨by omega, ih rest rest'⟩

theorem isInOrder_total (cs ds : List Char) : (isInOrder cs ds || isInOrder ds cs) = true := by
  induction cs generalizing ds with
  | nil => rfl
  | cons c cs ih =>
    cases ds with
    | nil => rfl
    | cons d ds =>
      rcases Nat.lt_trichotomy (codeOf c) (codeOf d) with less | same | more
      · simp [isInOrder, less]
      · simpa [isInOrder, same] using ih ds
      · simp [isInOrder, more]

/-- Surrogates that stand for octets in the names of files. -/
def isOctet (n : Nat) : Bool := 0xDC80 ≤ n && n < 0xDD00

/-- Why a text cannot be the name of a file. -/
def unnameable? (s : String) : Option Unencodable := unencodableFrom isOctet 0 s.toList

/-- The number of octets of a name. -/
def octetCount (s : String) : Nat :=
  s.toList.foldl (fun count c => count + if isSurrogate (codeOf c) then 1 else c.utf8Size) 0

example : codeOf (ofCode 0xD83D) = 0xD83D ∧ codeOf (ofCode 0x1F600) = 0x1F600 := by decide

end ClusterAccess.Text
