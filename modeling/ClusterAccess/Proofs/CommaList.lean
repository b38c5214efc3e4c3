import ClusterAccess.Options.Probe
import ClusterAccess.Proofs.DecimalText
import ClusterAccess.Proofs.DeclaredPath

/-!
# Options that hold lists

A list option is read by cutting its value at commas and trimming the pieces; pieces with nothing in them do
not count. What is read are always texts that can stand between commas: not empty, without a comma, and
without blank characters at their ends. Any such texts are read back when they are joined by commas, with
or without blank characters around each.
-/
namespace ClusterAccess

namespace Text

/-! ## Trimming -/

/-- Blank characters around a text do not count. -/
theorem trimChars_append {left right : List Char} (hl : left.all isBlank = true)
    (hr : right.all isBlank = true) (cs : List Char) : trimChars (left ++ cs ++ right) = trimChars cs := by
  have start : trimStart (left ++ cs ++ right) = trimStart (cs ++ right) := by
    rw [List.append_assoc]
    exact List.dropWhile_append_of_pos (List.all_eq_true.mp hl)
  have reversed : ∀ c ∈ right.reverse, isBlank c = true :=
    fun c hc => List.all_eq_true.mp hr c (List.mem_reverse.mp hc)
  rw [trimChars, trimChars, start]
  by_cases blank : cs.all isBlank = true
  · have none : trimStart cs = [] := (trimStart_eq_nil_iff cs).mpr blank
    have nothing : trimStart (cs ++ right) = [] := by
      rw [trimStart_eq_nil_iff, List.all_append, blank, hr]
      rfl
    rw [none, nothing]
  · have some : (trimStart cs).isEmpty = false := by
      rw [← Bool.not_eq_true, List.isEmpty_iff, trimStart_eq_nil_iff]
      exact blank
    have kept : trimStart (cs ++ right) = trimStart cs ++ right := by
      unfold trimStart at some ⊢
      rw [List.dropWhile_append, some]
      rfl
    rw [kept, trimEnd, trimEnd, List.reverse_append]
    congr 1
    exact List.dropWhile_append_of_pos reversed

theorem trimChars_trimChars (cs : List Char) : trimChars (trimChars cs) = trimChars cs := by
  have start : trimStart (trimChars cs) = trimChars cs :=
    dropWhile_of_head fun c rest h => isBlank_head_trimChars h
  rw [trimChars, start, trimEnd, trimStart, dropWhile_of_head fun c rest h => isBlank_last_trimChars h,
    List.reverse_reverse]

theorem trimChars_subset (cs : List Char) : trimChars cs ⊆ cs := by
  intro c hc
  rw [trimChars, trimEnd, List.mem_reverse] at hc
  have hs := List.mem_reverse.mp (List.dropWhile_subset _ hc)
  exact List.dropWhile_subset _ hs

/-! ## Pieces between commas -/

/-- The text can stand between commas. -/
structure IsItem (item : String) : Prop where
  filled : item ≠ ""
  whole : ',' ∉ item.toList
  trimmed : trim item = item

/-- The piece is the item with blank characters around it. -/
def Pads (item piece : String) : Prop :=
  ∃ left right : String, isBlankText left = true ∧ isBlankText right = true ∧ piece = left ++ item ++ right

theorem Pads.refl (item : String) : Pads item item := ⟨"", "", rfl, rfl, by simp⟩

theorem comma_not_mem_of_blank {s : String} (h : isBlankText s = true) : ',' ∉ s.toList :=
  fun hm => absurd (List.all_eq_true.mp h ',' hm) (by decide)

theorem Pads.comma_not_mem {item piece : String} (h : Pads item piece) (whole : ',' ∉ item.toList) :
    ',' ∉ piece.toList := by
  obtain ⟨left, right, hl, hr, rfl⟩ := h
  simp [whole, comma_not_mem_of_blank hl, comma_not_mem_of_blank hr]

theorem IsItem.trimChars_eq {item : String} (h : IsItem item) : trimChars item.toList = item.toList := by
  rw [← String.toList_ofList (l := trimChars item.toList)]
  exact congrArg String.toList h.trimmed

/-- What a piece is read as. -/
theorem Pads.trimChars_eq {item piece : String} (h : Pads item piece) (hi : IsItem item) :
    trimChars piece.toList = item.toList := by
  obtain ⟨left, right, hl, hr, rfl⟩ := h
  rw [String.toList_append, String.toList_append, trimChars_append hl hr, hi.trimChars_eq]

/-- Pieces have no comma, and the items are what is left of them after trimming. -/
theorem read_of_pads {items pieces : List String} (hi : ∀ item ∈ items, IsItem item)
    (pads : List.Forall₂ Pads items pieces) :
    (∀ cs ∈ pieces.map String.toList, ',' ∉ cs) ∧
      (pieces.map String.toList).map trimChars = items.map String.toList := by
  induction pads with
  | nil => simp
  | @cons item piece items pieces padded _ ih =>
    have first : IsItem item := hi item List.mem_cons_self
    obtain ⟨clean, read⟩ := ih fun item h => hi item (List.mem_cons_of_mem _ h)
    constructor
    · rw [List.map_cons, List.forall_mem_cons]
      exact ⟨padded.comma_not_mem first.whole, clean⟩
    · rw [List.map_cons, List.map_cons, List.map_cons, read, padded.trimChars_eq first]

/-- Items are read back that are joined by commas, each with blank characters around it. -/
theorem commaList_intercalate {items pieces : List String} (some : items ≠ [])
    (hi : ∀ item ∈ items, IsItem item) (pads : List.Forall₂ Pads items pieces) :
    commaList (",".intercalate pieces) = items := by
  obtain ⟨clean, read⟩ := read_of_pads hi pads
  have there : pieces.map String.toList ≠ [] := by
    intro none
    rw [none, List.map_nil, eq_comm, List.map_eq_nil_iff] at read
    exact some read
  have cut : splitChars ',' (",".intercalate pieces).toList = pieces.map String.toList := by
    rw [splitChars_eq_splitOn, String.toList_intercalate]
    exact List.splitOn_intercalate ',' clean there
  have kept : ∀ item ∈ items, (if item.toList.isEmpty then none else .some (String.ofList item.toList)) =
      .some item := by
    intro item h
    simp [(hi item h).filled]
  rw [commaList, cut, read, List.filterMap_map]
  exact (List.filterMap_congr kept).trans List.filterMap_some

/-- Whatever is read are items. -/
theorem isItem_of_mem_commaList {s item : String} (h : item ∈ commaList s) : IsItem item := by
  unfold commaList at h
  obtain ⟨part, hp, hitem⟩ := List.mem_filterMap.mp h
  obtain ⟨cs, hc, rfl⟩ := List.mem_map.mp hp
  split at hitem
  · cases hitem
  · next filled =>
    have eq : item = String.ofList (trimChars cs) := (Option.some.inj hitem).symm
    subst eq
    constructor
    · intro empty
      have none := congrArg String.toList empty
      rw [String.toList_ofList] at none
      exact filled (by simp [none])
    · rw [String.toList_ofList]
      intro hm
      exact sep_not_mem_of_mem_splitFrom List.not_mem_nil hc (trimChars_subset cs hm)
    · rw [trim, String.toList_ofList, trimChars_trimChars]

end Text

/-! ## Options -/

namespace Probe

/-- The option is given the value: as a property, or as a variable where no property has a value. -/
inductive Gives (p : Probe) (name value : String) : Prop
  | property (given : p.property name = some value)
  | inEnvironment (absent : filled (p.property name) = none)
    (given : p.variableValue (Options.variableName name) = some value)

theorem Gives.get?_eq {p : Probe} {name value : String} (h : p.Gives name value) (some : value ≠ "") :
    p.get? name = .some value := by
  show (filled (p.property name)).or (filled (p.variableValue (Options.variableName name))) = .some value
  cases h with
  | property given => rw [given, filled_of_ne some, Option.some_or]
  | inEnvironment absent given => rw [absent, given, filled_of_ne some, Option.none_or]

theorem Gives.getList?_eq {p : Probe} {name : String} {items pieces : List String}
    (h : p.Gives name (",".intercalate pieces)) (some : items ≠ []) (hi : ∀ item ∈ items, Text.IsItem item)
    (pads : List.Forall₂ Text.Pads items pieces) : p.getList? name = .some items := by
  have read := Text.commaList_intercalate some hi pads
  have filled : ",".intercalate pieces ≠ "" := by
    intro empty
    rw [empty] at read
    exact some (read.symm.trans rfl)
  rw [getList?, h.get?_eq filled, Option.map_some, read]

/-- Items that are joined by commas in an option, with blank characters around them or without, are read
back. And what is read from any option are items, which are read back when they are joined again. -/
theorem getList?_round_trip (p : Probe) (name : String) (items : List String) :
    (items ≠ [] → (∀ item ∈ items, Text.IsItem item) →
      ∀ pieces, List.Forall₂ Text.Pads items pieces → p.Gives name (",".intercalate pieces) →
        p.getList? name = some items) ∧
    (p.getList? name = some items → (∀ item ∈ items, Text.IsItem item) ∧
      (items ≠ [] → ∀ (q : Probe) (other : String), q.Gives other (",".intercalate items) →
        q.getList? other = some items)) := by
  constructor
  · intro some hi pieces pads given
    exact given.getList?_eq some hi pads
  · intro read
    obtain ⟨value, _, rfl⟩ := Option.map_eq_some_iff.mp read
    have hi : ∀ item ∈ Text.commaList value, Text.IsItem item := fun _ => Text.isItem_of_mem_commaList
    refine ⟨hi, fun some q other given => given.getList?_eq some hi ?_⟩
    exact List.forall₂_same.mpr fun item _ => Text.Pads.refl item

/-- Two hosts with blank characters around them in the environment, beside an empty property. -/
def spacedProbe : Probe := ofLists [("NO_PROXY", "\u00a0a b,\tc\n")] [(Options.noProxy, "")]

/-- The same hosts, joined by a comma alone. -/
def joinedProbe : Probe := ofLists [] [(Options.noProxy, "a b,c")]

theorem getList?_round_trip_sample :
    spacedProbe.Gives Options.noProxy (",".intercalate ["\u00a0a b", "\tc\n"]) ∧
      spacedProbe.getList? Options.noProxy = some ["a b", "c"] ∧
      joinedProbe.Gives Options.noProxy (",".intercalate ["a b", "c"]) ∧
      joinedProbe.getList? Options.noProxy = some ["a b", "c"] := by
  have hi : ∀ item ∈ ["a b", "c"], Text.IsItem item := by
    intro item h
    rcases List.mem_pair.mp h with rfl | rfl
    · exact ⟨by decide, by decide, by decide⟩
    · exact ⟨by decide, by decide, by decide⟩
  have pads : List.Forall₂ Text.Pads ["a b", "c"] ["\u00a0a b", "\tc\n"] :=
    .cons ⟨"\u00a0", "", by decide, by decide, by decide⟩
      (.cons ⟨"\t", "\n", by decide, by decide, by decide⟩ .nil)
  have given : spacedProbe.Gives Options.noProxy (",".intercalate ["\u00a0a b", "\tc\n"]) :=
    .inEnvironment (by decide) (by decide +kernel)
  have joined : joinedProbe.Gives Options.noProxy (",".intercalate ["a b", "c"]) := .property (by decide)
  have read := (getList?_round_trip spacedProbe Options.noProxy ["a b", "c"]).1 (by simp) hi _ pads given
  have again := ((getList?_round_trip spacedProbe Options.noProxy ["a b", "c"]).2 read).2 (by simp)
  exact ⟨given, read, joined, again joinedProbe Options.noProxy joined⟩

end Probe

end ClusterAccess
