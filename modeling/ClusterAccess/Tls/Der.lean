/-!
# DER

Data as a tree of elements: an octet for the tag, the length, the content. A length below 128 is one
octet, a longer one is preceded by the number of its octets. `elements` cuts data into elements without
a rest.
-/
namespace ClusterAccess.Der

structure Element where
  tag : UInt8
  content : List UInt8
  deriving DecidableEq, Repr

def number (octets : List UInt8) : Nat := octets.foldl (fun n b => n * 256 + b.toNat) 0

/-- The length that comes next, and the rest. -/
def length? : List UInt8 → Option (Nat × List UInt8)
  | [] => none
  | b :: rest =>
    if b < 128 then some (b.toNat, rest)
    else
      let size := b.toNat - 128
      if 0 < size ∧ size ≤ 4 ∧ size ≤ rest.length then some (number (rest.take size), rest.drop size)
      else none

/-- The element that comes next, and the rest. -/
def element? : List UInt8 → Option (Element × List UInt8)
  | [] => none
  | tag :: rest =>
    match length? rest with
    | none => none
    | some (n, rest) =>
      if n ≤ rest.length ∧ tag % 32 ≠ 31 then some (⟨tag, rest.take n⟩, rest.drop n) else none

theorem length_of_length? {bs rest : List UInt8} {n : Nat} (h : length? bs = some (n, rest)) :
    rest.length < bs.length := by
  cases bs with
  | nil => simp [length?] at h
  | cons b bs =>
    simp only [length?] at h
    split at h
    · simp_all
    · split at h
      · simp only [Option.some.injEq, Prod.mk.injEq] at h
        have := congrArg List.length h.2
        simp only [List.length_drop] at this
        simp only [List.length_cons]
        omega
      · simp at h

theorem length_of_element? {bs rest : List UInt8} {e : Element} (h : element? bs = some (e, rest)) :
    rest.length < bs.length := by
  cases bs with
  | nil => simp [element?] at h
  | cons b bs =>
    simp only [element?] at h
    split at h
    · simp at h
    · rename_i n rest' found
      split at h
      · simp only [Option.some.injEq, Prod.mk.injEq] at h
        have shorter := length_of_length? found
        have := congrArg List.length h.2
        simp only [List.length_drop] at this
        simp only [List.length_cons]
        omega
      · simp at h

/-- The elements that the data consists of. -/
def elements (bs : List UInt8) : Option (List Element) :=
  if bs.isEmpty then some []
  else match _found : element? bs with
    | none => none
    | some (e, rest) => (elements rest).map (e :: ·)
termination_by bs.length
decreasing_by exact length_of_element? _found

/-- The parts of an element with the given tag. -/
def Element.parts? (e : Element) (tag : UInt8) : Option (List Element) :=
  if e.tag = tag then elements e.content else none

end ClusterAccess.Der
