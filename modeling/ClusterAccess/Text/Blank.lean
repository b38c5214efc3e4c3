/-!
# Blank characters and trimmed text

The white space of Unicode, together with the four information separators of ASCII. A text is
blank when nothing is left of it after trimming.
-/
namespace ClusterAccess.Text

def isBlank (c : Char) : Bool :=
  let n := c.toNat
  (9 ≤ n && n ≤ 13) || (28 ≤ n && n ≤ 32) || n == 0x85 || n == 0xA0 || n == 0x1680 ||
    (0x2000 ≤ n && n ≤ 0x200A) || n == 0x2028 || n == 0x2029 || n == 0x202F || n == 0x205F ||
    n == 0x3000

def trimStart (cs : List Char) : List Char := cs.dropWhile isBlank

def trimEnd (cs : List Char) : List Char := (trimStart cs.reverse).reverse

def trimChars (cs : List Char) : List Char := trimEnd (trimStart cs)

/-- The text without the blank characters at its two ends. -/
def trim (s : String) : String := String.ofList (trimChars s.toList)

/-- Nothing but blank characters. -/
def isBlankText (s : String) : Bool := s.toList.all isBlank

theorem trimStart_eq_nil_iff (cs : List Char) : trimStart cs = [] ↔ cs.all isBlank = true := by
  induction cs with
  | nil => simp [trimStart]
  | cons c rest ih => by_cases h : isBlank c <;> simp_all [trimStart]

example : trim "\u00a0 a b\n" = "a b" := by decide

end ClusterAccess.Text
