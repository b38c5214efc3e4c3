import ClusterAccess.ClientKey

/-!
# Which header of a key decides

The last header in a text decides. A header stands in one line, and a line feed ends a line, also when a
carriage return comes right before it. So what is shown by texts that are joined by line feeds follows from
what each of them shows: it is what the last of them shows that has a header at all.
-/
namespace ClusterAccess

namespace Text

/-- Two texts with a line feed between them have the lines of both, and nothing but an empty line may come
between these. -/
theorem linesFrom_append (line first : List Char) : ∃ gap : List (List Char), (∀ l ∈ gap, l = []) ∧
    ∀ second, linesFrom line (first ++ '\n' :: second) = linesFrom line first ++ gap ++ linesFrom [] second := by
  have feed : isLineEnd '\n' = true := rfl
  induction line, first using linesFrom.induct with
  | case1 line empty =>
    have none : line = [] := List.isEmpty_iff.mp empty
    exact ⟨[[]], by simp, fun second => by simp [linesFrom, feed, none]⟩
  | case2 line filled => exact ⟨[], by simp, fun second => by simp [linesFrom, feed, filled]⟩
  | case3 line rest ih =>
    obtain ⟨gap, empty, cut⟩ := ih
    exact ⟨gap, empty, fun second => by simp [linesFrom, cut]⟩
  | case4 line c rest apart ends ih =>
    cases rest with
    | nil =>
      -- A carriage return at the end of the first text and the line feed are one line end.
      by_cases hc : c = '\r'
      · subst hc
        exact ⟨[], by simp, fun second => by simp [linesFrom, ends]⟩
      · exact ⟨[[]], by simp, fun second => by simp [linesFrom, hc, ends, feed]⟩
    | cons d rest =>
      obtain ⟨gap, empty, cut⟩ := ih
      refine ⟨gap, empty, fun second => ?_⟩
      have still : ∀ more, c = '\r' → d :: (rest ++ '\n' :: second) = '\n' :: more → False := by
        intro more hc hd
        exact apart rest hc (by rw [(List.cons.inj hd).1])
      have rest_cut := cut second
      rw [List.cons_append] at rest_cut
      rw [List.cons_append, List.cons_append, linesFrom.eq_3 _ _ _ still, linesFrom.eq_3 _ _ _ apart,
        if_pos ends, if_pos ends, rest_cut, List.cons_append, List.cons_append]
  | case5 line c rest apart inside ih =>
    obtain ⟨gap, empty, cut⟩ := ih
    refine ⟨gap, empty, fun second => ?_⟩
    have other : c ≠ '\r' := by
      rintro rfl
      exact inside rfl
    have still : ∀ more, c = '\r' → rest ++ '\n' :: second = '\n' :: more → False :=
      fun _ h => absurd h other
    rw [List.cons_append, linesFrom.eq_3 _ _ _ still, linesFrom.eq_3 _ _ _ apart, if_neg inside,
      if_neg inside, cut]

/-- Everything in a line is in the text. -/
theorem mem_of_mem_linesFrom {line cs l : List Char} {c : Char} (hl : l ∈ linesFrom line cs) (hc : c ∈ l) :
    c ∈ line ∨ c ∈ cs := by
  induction line, cs using linesFrom.induct with
  | case1 line empty => simp [linesFrom, empty] at hl
  | case2 line filled =>
    simp only [linesFrom, filled, Bool.false_eq_true, if_false, List.mem_singleton] at hl
    exact .inl (List.mem_reverse.mp (hl ▸ hc))
  | case3 line rest ih =>
    rw [linesFrom] at hl
    rcases List.mem_cons.mp hl with rfl | hl
    · exact .inl (List.mem_reverse.mp hc)
    · rcases ih hl with hm | hm
      · cases hm
      · exact .inr (by simp [hm])
  | case4 line d rest apart ends ih =>
    rw [linesFrom.eq_3 _ _ _ apart, if_pos ends] at hl
    rcases List.mem_cons.mp hl with rfl | hl
    · exact .inl (List.mem_reverse.mp hc)
    · rcases ih hl with hm | hm
      · cases hm
      · exact .inr (by simp [hm])
  | case5 line d rest apart inside ih =>
    rw [linesFrom.eq_3 _ _ _ apart, if_neg inside] at hl
    rcases ih hl with hm | hm
    · rcases List.mem_cons.mp hm with rfl | hm
      · exact .inr (by simp)
      · exact .inl hm
    · exact .inr (by simp [hm])

theorem mem_of_mem_lines {s : String} {l : List Char} {c : Char} (hl : l ∈ lines s) (hc : c ∈ l) :
    c ∈ s.toList := by
  rcases mem_of_mem_linesFrom hl hc with hm | hm
  · cases hm
  · exact hm

theorem mem_of_containsWord {word cs : List Char} {c : Char} (h : containsWord word cs = true)
    (hc : c ∈ word) : c ∈ cs := by
  induction cs with
  | nil =>
    rw [containsWord, List.isEmpty_iff] at h
    rw [h] at hc
    cases hc
  | cons d rest ih =>
    rw [containsWord, Bool.or_eq_true] at h
    rcases h with here | later
    · exact (List.isPrefixOf_iff_prefix.mp here).subset hc
    · exact List.mem_cons_of_mem d (ih later)

end Text

namespace ClientKey

/-- The line has the header of a private key in it. -/
def IsHeader (line : List Char) : Prop :=
  Text.containsWord ecHeader line = true ∨ Text.containsWord rsaHeader line = true

/-- Some line of the text has a header in it. -/
def HasHeader (pem : String) : Prop := ∃ line ∈ Text.lines pem, IsHeader line

theorem isSome_ofLine?_iff {line : List Char} : (ofLine? line).isSome = true ↔ IsHeader line := by
  unfold ofLine? IsHeader
  split
  · next ec => simp [ec]
  · next ec =>
    split
    · next rsa => simp [rsa]
    · next rsa => simp [ec, rsa]

theorem foldl_ofLine? (lines : List (List Char)) (found : Option KeyAlgorithm) :
    lines.foldl (fun found line => (ofLine? line).or found) found =
      (lines.reverse.findSome? ofLine?).or found := by
  induction lines generalizing found with
  | nil => simp
  | cons line rest ih =>
    have first : [line].findSome? ofLine? = ofLine? line := by
      cases h : ofLine? line <;> simp [h]
    rw [List.foldl_cons, ih, List.reverse_cons, List.findSome?_append, first, Option.or_assoc]

/-- The last line with a header decides. -/
theorem detect_eq_findSome? (pem : String) :
    detect pem = (Text.lines pem).reverse.findSome? ofLine? := by
  rw [detect, foldl_ofLine?, Option.or_none]

theorem isSome_detect_iff {pem : String} : (detect pem).isSome = true ↔ HasHeader pem := by
  rw [detect_eq_findSome?, List.findSome?_isSome_iff]
  simp [HasHeader, isSome_ofLine?_iff]

theorem detect_append (first second : String) :
    detect (first ++ "\n" ++ second) = (detect second).or (detect first) := by
  obtain ⟨gap, empty, cut⟩ := Text.linesFrom_append [] first.toList
  have joined : (first ++ "\n" ++ second).toList = first.toList ++ '\n' :: second.toList := by
    simp
  have silent : gap.reverse.findSome? ofLine? = none := by
    rw [List.findSome?_eq_none_iff]
    intro l hl
    rw [empty l (List.mem_reverse.mp hl)]
    rfl
  rw [detect_eq_findSome?, detect_eq_findSome?, detect_eq_findSome?, Text.lines, joined, cut,
    List.reverse_append, List.reverse_append, List.findSome?_append, List.findSome?_append, silent,
    Option.none_or]
  rfl

theorem detect_intercalate (blocks : List String) :
    detect ("\n".intercalate blocks) = blocks.reverse.findSome? detect := by
  induction blocks with
  | nil => rfl
  | cons block rest ih =>
    cases rest with
    | nil => simp [String.intercalate_singleton]
    | cons next rest =>
      rw [String.intercalate_cons_cons, detect_append, ih, List.reverse_cons (a := block),
        List.findSome?_append]
      simp

/-- Of two texts with a line feed between them the second decides, if it has a header. Of any number of
texts that are joined by line feeds the last one decides that has a header. -/
theorem detect_joined (first second : String) (blocks : List String) :
    detect (first ++ "\n" ++ second) = (detect second).or (detect first) ∧
      detect ("\n".intercalate blocks) = blocks.reverse.findSome? detect ∧
      ∀ block, (detect block).isSome = true ↔ HasHeader block :=
  ⟨detect_append first second, detect_intercalate blocks, fun _ => isSome_detect_iff⟩

end ClientKey

end ClusterAccess
