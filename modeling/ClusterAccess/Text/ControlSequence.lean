/-!
# Control sequences

A control sequence tells a terminal how to show what comes after it: an escape character, an opening
bracket, parameters and a letter. A stream that is no terminal gets the text without them.
-/
namespace ClusterAccess.Text

def escape : Char := '\x1b'

def isParameter (c : Char) : Bool := c.isDigit || c == ';' || c == '?'

/-- The character goes on with a control sequence whose characters so far are `begun`, latest first. -/
def continues (begun : List Char) (c : Char) : Bool :=
  if begun.length = 1 then c == '[' else 1 < begun.length && isParameter c

/-- `begun` holds the characters of a control sequence that may be beginning, latest first. -/
def plainFrom (begun : List Char) : List Char → List Char
  | [] => begun.reverse
  | c :: rest =>
    if continues begun c then plainFrom (c :: begun) rest
    else if 1 < begun.length && c.isAlpha then plainFrom [] rest
    else if c == escape then begun.reverse ++ plainFrom [c] rest
    else begun.reverse ++ c :: plainFrom [] rest

/-- The text without control sequences. -/
def plain (s : String) : String := String.ofList (plainFrom [] s.toList)

theorem mem_of_mem_plainFrom {c : Char} {begun cs : List Char} (h : c ∈ plainFrom begun cs) :
    c ∈ begun ∨ c ∈ cs := by
  induction cs generalizing begun with
  | nil => simpa [plainFrom] using h
  | cons d rest ih =>
    unfold plainFrom at h
    split at h
    · rcases ih h with h | h
      · exact (List.mem_cons.mp h).elim (fun same => .inr (same ▸ List.mem_cons_self)) .inl
      · exact .inr (List.mem_cons_of_mem d h)
    · split at h
      · exact .inr (List.mem_cons_of_mem d ((ih h).resolve_left List.not_mem_nil))
      · split at h
        · rcases List.mem_append.mp h with h | h
          · exact .inl (List.mem_reverse.mp h)
          · rcases ih h with h | h
            · exact .inr (List.mem_singleton.mp h ▸ List.mem_cons_self)
            · exact .inr (List.mem_cons_of_mem d h)
        · rcases List.mem_append.mp h with h | h
          · exact .inl (List.mem_reverse.mp h)
          · rcases List.mem_cons.mp h with rfl | h
            · exact .inr List.mem_cons_self
            · exact .inr (List.mem_cons_of_mem d ((ih h).resolve_left List.not_mem_nil))

theorem toNat_lt_of_continues {begun : List Char} {c : Char} (h : continues begun c = true) :
    c.toNat < 128 := by
  unfold continues at h
  split at h
  · exact (beq_iff_eq.mp h) ▸ (by decide)
  · have parameter := (Bool.and_eq_true_iff.mp h).2
    simp only [isParameter, Char.isDigit, Bool.or_eq_true, Bool.and_eq_true, decide_eq_true_eq,
      beq_iff_eq] at parameter
    rcases parameter with (⟨-, h⟩ | rfl) | rfl
    · exact Nat.lt_of_le_of_lt h (by decide)
    · decide
    · decide

theorem toNat_lt_of_isAlpha {c : Char} (h : c.isAlpha = true) : c.toNat < 128 := by
  have letter : c.isUpper = true ∨ c.isLower = true := Bool.or_eq_true_iff.mp h
  rcases letter with upper | lower
  · have upToZ : c.val ≤ 'Z'.val := (of_decide_eq_true upper).2
    exact Nat.lt_of_le_of_lt upToZ (by decide)
  · have upToZ : c.val ≤ 'z'.val := of_decide_eq_true (Bool.and_eq_true_iff.mp lower).2
    exact Nat.lt_of_le_of_lt upToZ (by decide)

/-- Only characters of ASCII are left out. -/
theorem mem_plainFrom {c : Char} (foreign : 128 ≤ c.toNat) {begun cs : List Char} (h : c ∈ cs) :
    c ∈ plainFrom begun cs := by
  induction cs generalizing begun with
  | nil => cases h
  | cons d rest ih =>
    have later (ascii : d.toNat < 128) : c ∈ rest :=
      (List.mem_cons.mp h).resolve_left fun same => absurd ascii (same ▸ Nat.not_lt.mpr foreign)
    unfold plainFrom
    split
    · next hd => exact ih (later (toNat_lt_of_continues hd))
    · split
      · next hd => exact ih (later (toNat_lt_of_isAlpha (Bool.and_eq_true_iff.mp hd).2))
      · split
        · next hd => exact List.mem_append_right _ (ih (later (beq_iff_eq.mp hd ▸ (by decide))))
        · exact List.mem_append_right _ ((List.mem_cons.mp h).elim (fun same => same ▸ List.mem_cons_self)
            fun h => List.mem_cons_of_mem d (ih h))

theorem plainFrom_nil_of_not_mem {cs : List Char} (h : escape ∉ cs) : plainFrom [] cs = cs := by
  induction cs with
  | nil => rfl
  | cons c rest ih =>
    obtain ⟨hc, hr⟩ := not_or.mp (mt List.mem_cons.mpr h)
    simp [plainFrom, continues, ih hr, Ne.symm hc]

/-- Without an escape character there is nothing to leave out. -/
theorem plain_of_not_mem {s : String} (h : escape ∉ s.toList) : plain s = s := by
  rw [plain, plainFrom_nil_of_not_mem h, String.ofList_toList]

example : plain "a\x1b[1;31mb\x1b[c\x1b[2" = "ab\x1b[2" := by decide

end ClusterAccess.Text
