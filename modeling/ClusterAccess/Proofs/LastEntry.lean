import ClusterAccess.Merge
import Mathlib.Data.List.Induction
import Mathlib.Data.List.Nodup

/-!
# Which entry of a name counts

Merged entries are looked up by name. What is found is the last entry of that name, and the names stand
in the order in which they first appear, each of them once. The current context that counts is the last
one that is declared.
-/
namespace ClusterAccess

namespace Merge

variable {α : Type}

/-- The last entry of a name. -/
def lastOf? (name : String) (entries : List (Named α)) : Option (Named α) :=
  entries.findRev? (·.name == name)

/-- Each name once, in the order in which the names first appear, with its last entry. -/
def lastOfEach (entries : List (Named α)) : List (Named α) :=
  (entries.map (·.name)).eraseDups.filterMap (lastOf? · entries)

theorem lastOf?_append_singleton (name : String) (entries : List (Named α)) (e : Named α) :
    lastOf? name (entries ++ [e]) = if e.name = name then some e else lastOf? name entries := by
  simp only [lastOf?, List.findRev?_eq_find?_reverse, List.reverse_append, List.reverse_singleton,
    List.singleton_append]
  by_cases h : e.name = name
  · rw [if_pos h, List.find?_cons_of_pos (by simpa using h)]
  · rw [if_neg h, List.find?_cons_of_neg (by simpa using h)]

theorem name_of_lastOf? {name : String} {entries : List (Named α)} {e : Named α}
    (h : lastOf? name entries = some e) : e.name = name := by
  rw [lastOf?, List.findRev?_eq_find?_reverse] at h
  simpa using List.find?_some h

theorem mem_of_lastOf? {name : String} {entries : List (Named α)} {e : Named α}
    (h : lastOf? name entries = some e) : e ∈ entries := by
  rw [lastOf?, List.findRev?_eq_find?_reverse] at h
  exact List.mem_reverse.mp (List.mem_of_find?_eq_some h)

theorem lastOf?_eq_none_iff {name : String} {entries : List (Named α)} :
    lastOf? name entries = none ↔ ∀ e ∈ entries, e.name ≠ name := by
  simp [lastOf?, List.findRev?_eq_find?_reverse]

/-- Entries of other names may be left out. -/
theorem lastOf?_filter {name : String} {keep : Named α → Bool}
    (kept : ∀ e : Named α, e.name = name → keep e = true) (entries : List (Named α)) :
    lastOf? name (entries.filter keep) = lastOf? name entries := by
  induction entries using List.reverseRecOn with
  | nil => rfl
  | append_singleton rest e ih =>
    rw [List.filter_append, lastOf?_append_singleton]
    by_cases hk : keep e = true
    · rw [List.filter_cons_of_pos hk, List.filter_nil, lastOf?_append_singleton, ih]
    · have hne : e.name ≠ name := fun h => hk (kept e h)
      rw [List.filter_cons_of_neg hk, List.filter_nil, List.append_nil, if_neg hne, ih]

/-- Changes that keep the names may be made before or after the search. -/
theorem lastOf?_map {f : Named α → Named α} (named : ∀ e, (f e).name = e.name) (name : String)
    (entries : List (Named α)) : lastOf? name (entries.map f) = (lastOf? name entries).map f := by
  have same : (fun e : Named α => e.name == name) ∘ f = fun e => e.name == name :=
    funext fun e => by rw [Function.comp_apply, named]
  rw [lastOf?, lastOf?, List.findRev?_eq_find?_reverse, List.findRev?_eq_find?_reverse, ← List.map_reverse,
    List.find?_map, same]

/-- It is enough to change the entries of the name. -/
theorem lastOf?_map_ite {f : Named α → Named α} (named : ∀ e, (f e).name = e.name) {name : String}
    {changed : Named α → Bool} (of_name : ∀ e : Named α, e.name = name → changed e = true)
    (entries : List (Named α)) :
    lastOf? name (entries.map fun e => if changed e then f e else e) = (lastOf? name entries).map f := by
  rw [lastOf?_map fun e => by split <;> simp [named]]
  cases h : lastOf? name entries with
  | none => rfl
  | some e => rw [Option.map_some, Option.map_some, if_pos (of_name e (name_of_lastOf? h))]

/-! ## Entries put one after the other -/

theorem lastNamed_append_singleton (entries : List (Named α)) (e : Named α) :
    lastNamed (entries ++ [e]) = putNamed e (lastNamed entries) := by
  rw [lastNamed, List.foldl_append]
  rfl

theorem findNamed?_putNamed (name : String) (e : Named α) (merged : List (Named α)) :
    findNamed? name (putNamed e merged) = if e.name = name then some e else findNamed? name merged := by
  unfold findNamed?
  induction merged with
  | nil => by_cases h : e.name = name <;> simp [putNamed, h]
  | cons first rest ih =>
    by_cases hf : first.name = e.name
    · by_cases h : e.name = name <;> simp [putNamed, hf, h]
    · by_cases h : e.name = name <;> simp_all [putNamed, List.find?_cons]

theorem names_putNamed (e : Named α) (merged : List (Named α)) :
    (putNamed e merged).map (·.name) =
      if e.name ∈ merged.map (·.name) then merged.map (·.name) else merged.map (·.name) ++ [e.name] := by
  induction merged with
  | nil => rfl
  | cons first rest ih =>
    by_cases hf : first.name = e.name
    · simp [putNamed, hf]
    · have hf' : ¬e.name = first.name := fun h => hf h.symm
      simp only [putNamed, if_neg hf, List.map_cons, ih, List.mem_cons, hf', false_or]
      split <;> rfl

/-- What is found under a name is its last entry. -/
theorem findNamed?_lastNamed (name : String) (entries : List (Named α)) :
    findNamed? name (lastNamed entries) = lastOf? name entries := by
  induction entries using List.reverseRecOn with
  | nil => rfl
  | append_singleton rest e ih =>
    rw [lastNamed_append_singleton, findNamed?_putNamed, lastOf?_append_singleton, ih]

theorem eraseDups_append_singleton (names : List String) (name : String) :
    (names ++ [name]).eraseDups = if name ∈ names then names.eraseDups else names.eraseDups ++ [name] := by
  rw [List.eraseDups_append, List.removeAll]
  by_cases h : name ∈ names
  · rw [if_pos h, List.filter_cons_of_neg (by simpa using h), List.filter_nil, List.eraseDups_nil,
      List.append_nil]
  · rw [if_neg h, List.filter_cons_of_pos (by simpa using h), List.filter_nil, List.eraseDups_cons]
    rfl

/-- The names in the order in which they first appear. -/
theorem names_lastNamed (entries : List (Named α)) :
    (lastNamed entries).map (·.name) = (entries.map (·.name)).eraseDups := by
  induction entries using List.reverseRecOn with
  | nil => rfl
  | append_singleton rest e ih =>
    rw [lastNamed_append_singleton, names_putNamed, ih, List.map_append, List.map_singleton,
      eraseDups_append_singleton]
    simp only [List.mem_eraseDups]

theorem nodup_names_putNamed {e : Named α} {merged : List (Named α)}
    (h : (merged.map (·.name)).Nodup) : ((putNamed e merged).map (·.name)).Nodup := by
  rw [names_putNamed]
  split
  · exact h
  · next hn =>
    rw [← List.concat_eq_append]
    exact List.Nodup.concat hn h

/-- Each name stands once. -/
theorem nodup_names_lastNamed (entries : List (Named α)) : ((lastNamed entries).map (·.name)).Nodup := by
  induction entries using List.reverseRecOn with
  | nil => exact List.nodup_nil
  | append_singleton rest e ih =>
    rw [lastNamed_append_singleton]
    exact nodup_names_putNamed ih

theorem findNamed?_of_mem {entries : List (Named α)} (distinct : (entries.map (·.name)).Nodup)
    {e : Named α} (h : e ∈ entries) : findNamed? e.name entries = some e := by
  induction entries with
  | nil => cases h
  | cons first rest ih =>
    obtain ⟨hfirst, hrest⟩ := List.nodup_cons.mp distinct
    rcases List.mem_cons.mp h with rfl | hr
    · simp [findNamed?]
    · have hne : first.name ≠ e.name := by
        intro he
        exact hfirst (List.mem_map.mpr ⟨e, hr, he.symm⟩)
      rw [findNamed?, List.find?_cons_of_neg (by simpa using hne)]
      exact ih hrest hr

/-- Every entry that counts is the last one of its name. -/
theorem lastOf?_of_mem_lastNamed {entries : List (Named α)} {e : Named α} (h : e ∈ lastNamed entries) :
    lastOf? e.name entries = some e := by
  rw [← findNamed?_lastNamed, findNamed?_of_mem (nodup_names_lastNamed entries) h]

theorem lastNamed_eq_lastOfEach (entries : List (Named α)) : lastNamed entries = lastOfEach entries := by
  have hself : (lastNamed entries).filterMap (fun e => lastOf? e.name entries) = lastNamed entries := by
    rw [List.filterMap_congr fun e he => lastOf?_of_mem_lastNamed he, List.filterMap_some]
  rw [lastOfEach, ← names_lastNamed, List.filterMap_map]
  exact hself.symm

/-! ## The current context -/

/-- The last context that is declared. -/
theorem declaredContext_eq_getLast? (docs : List Kubeconfig) :
    declaredContext docs = (docs.filterMap fun doc => filled doc.currentContext).getLast? := by
  induction docs using List.reverseRecOn with
  | nil => rfl
  | append_singleton rest doc ih =>
    rw [declaredContext, List.foldl_append, ← declaredContext, ih, List.filterMap_append,
      List.getLast?_append]
    cases h : filled doc.currentContext <;> simp [h]

@[simp] theorem filled_declaredContext (docs : List Kubeconfig) :
    filled (declaredContext docs) = declaredContext docs := by
  rw [declaredContext_eq_getLast?]
  cases h : (docs.filterMap fun doc => filled doc.currentContext).getLast? with
  | none => rfl
  | some name =>
    obtain ⟨doc, _, hd⟩ := List.mem_filterMap.mp (List.mem_of_getLast? h)
    exact filled_of_ne (filled_eq_some_iff.mp hd).2

end Merge

end ClusterAccess
