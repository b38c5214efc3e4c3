import ClusterAccess.Config.Display
import ClusterAccess.Config.Same

/-!
# Values that are shown the same

What is the same is shown the same: entries under names in any order, and the values of fields of every kind
that is shown as it is.
-/
namespace ClusterAccess

namespace Value

@[simp] theorem same_str (s t : String) : (str s).same (str t) = (s == t) := by simp [same, sameScalar]

@[simp] theorem same_bool_self (b : Bool) : (bool b).same (bool b) = true := by
  simp [same, sameScalar, asInt?]

@[simp] theorem same_int_self (i : Int) : (int i).same (int i) = true := by
  simp [same, sameScalar, asInt?]

theorem find?_named {α : Type} (shown : α → Value) (name : String) (es : List (String × α)) :
    (es.map fun (n, a) => (str n, shown a)).find? (fun (k, _) => sameScalar (str name) k) =
      (es.lookup name).map fun a => (str name, shown a) := by
  induction es with
  | nil => rfl
  | cons e rest ih =>
    obtain ⟨n, a⟩ := e
    have key : sameScalar (str name) (str n) = (name == n) := rfl
    rw [List.map_cons, List.find?_cons, List.lookup_cons]
    dsimp only
    rw [key]
    cases hn : name == n with
    | true =>
      rw [beq_iff_eq.mp hn]
      rfl
    | false => exact ih

theorem sameEntries_named {α : Type} {shown : α → Value} {xs ys : List (String × α)}
    (h : ∀ e ∈ xs, ∃ y, ys.lookup e.1 = some y ∧ (shown e.2).same (shown y) = true) :
    sameEntries (xs.map fun (n, a) => (str n, shown a)) (ys.map fun (n, a) => (str n, shown a)) = true := by
  induction xs with
  | nil => simp [sameEntries]
  | cons e rest ih =>
    obtain ⟨y, there, alike⟩ := h e List.mem_cons_self
    have others := ih fun e' he => h e' (List.mem_cons_of_mem e he)
    rw [List.map_cons, sameEntries, find?_named, there, others]
    simpa using alike

end Value

@[simp] theorem same_textList (texts : List String) : (textList texts).same (textList texts) = true := by
  have lists : Value.sameLists (texts.map Value.str) (texts.map Value.str) = true := by
    induction texts with
    | nil => simp [Value.sameLists]
    | cons text rest ih => simp [Value.sameLists, ih]
  simpa [textList, Value.same] using lists

/-- Entries that are the same are shown the same. -/
theorem same_textEntries {α : Type} {same : α → α → Bool} {shown : α → Value}
    (h : ∀ x y, same x y = true → (shown x).same (shown y) = true) {xs ys : List (String × α)}
    (entries : sameEntries same xs ys = true) :
    (textEntries shown xs).same (textEntries shown ys) = true := by
  obtain ⟨length, each⟩ := Bool.and_eq_true_iff.mp entries
  have named : ∀ e ∈ xs, ∃ y, ys.lookup e.1 = some y ∧ (shown e.2).same (shown y) = true := by
    rintro ⟨name, x⟩ he
    have found := List.all_eq_true.mp each (name, x) he
    dsimp only at found
    cases hy : ys.lookup name with
    | none =>
      rw [hy] at found
      cases found
    | some y =>
      rw [hy] at found
      exact ⟨y, rfl, h _ _ found⟩
  simp only [textEntries, Value.same, Value.sameEntries_named named, List.length_map, length, Bool.and_true]

theorem sameEntries_self {α : Type} {same : α → α → Bool} (refl : ∀ x, same x x = true)
    {es : List (String × α)} (keys : (es.map (·.1)).Nodup) : sameEntries same es es = true := by
  have found : ∀ e ∈ es, es.lookup e.1 = some e.2 := by
    induction es with
    | nil => simp
    | cons first rest ih =>
      rw [List.map_cons, List.nodup_cons] at keys
      intro e he
      rw [List.lookup_cons]
      rcases List.mem_cons.mp he with rfl | hr
      · simp
      · have other : e.1 ≠ first.1 := by
          intro same
          exact keys.1 (same ▸ List.mem_map_of_mem hr)
        rw [beq_false_of_ne other]
        exact ih keys.2 e hr
  simp only [sameEntries, beq_self_eq_true, Bool.true_and, List.all_eq_true]
  rintro ⟨name, x⟩ he
  rw [found (name, x) he]
  exact refl x

theorem RequestPolicy.same_shown {p q : RequestPolicy} (h : p.same q = true) :
    p.shown.same q.shown = true := by
  have values : p.shown = q.shown := by
    unfold shown
    congr 1
    refine List.map_congr_left fun f hf => ?_
    rw [eq_of_beq (List.all_eq_true.mp h f hf)]
  have named : q.shown = textEntries Value.int (RequestField.all.map fun f => (f.name, q.value f)) := by
    rw [textEntries, List.map_map]
    rfl
  have names : ((RequestField.all.map fun f => (f.name, q.value f)).map (·.1)).Nodup := by
    rw [List.map_map]
    show (RequestField.all.map RequestField.name).Nodup
    decide +kernel
  rw [values, named]
  refine same_textEntries (fun i j (hij : (i == j) = true) => ?_)
    (sameEntries_self (fun i => beq_self_eq_true i) names)
  rw [eq_of_beq hij, Value.same_int_self]

/-- Both show nothing, or the same. -/
abbrev SameShown : Option Value → Option Value → Prop := Option.Rel fun v w => v.same w = true

theorem SameShown.of_eq {v w : Option Value} (h : v = w) (self : ∀ x, w = some x → x.same x = true) :
    SameShown v w := by
  subst h
  cases v with
  | none => exact .none
  | some x => exact .some (self x rfl)

/-- Texts that are there or not are shown the same if they are the same. -/
theorem SameShown.map_str {α : Type} {a b : Option α} {text : α → String}
    (h : a.map text = b.map text) :
    SameShown (a.map fun x => .str (text x)) (b.map fun x => .str (text x)) := by
  refine .of_eq ?_ fun x hx => ?_
  · have values := congrArg (Option.map Value.str) h
    rwa [Option.map_map, Option.map_map] at values
  · obtain ⟨y, _, rfl⟩ := Option.map_eq_some_iff.mp hx
    simp

/-- What the values of a field look like depends on what they are the same as. Plugins, suppliers of
tokens and contexts are apart. -/
theorem FieldKind.same_shown {k : FieldKind} {x y : k.Value} (plugin : k ≠ .authProvider)
    (provider : k ≠ .tokenProvider) (contexts : k ≠ .contexts) (current : k ≠ .currentContext)
    (h : k.same x y = true) : SameShown (k.shown? x) (k.shown? y) := by
  cases k with
  | text =>
    have same : x = y := eq_of_beq h
    exact .some (by rw [same]; simp)
  | maybeText =>
    have same : x = y := eq_of_beq h
    exact .map_str (congrArg (Option.map id) same)
  | truth =>
    have same : x = y := eq_of_beq h
    exact .some (by rw [same, Value.same_bool_self])
  | integer =>
    have same : x = y := eq_of_beq h
    exact .some (by rw [same, Value.same_int_self])
  | texts =>
    have same : x = y := eq_of_beq h
    exact .some (by rw [same, same_textList])
  | textLists =>
    exact .some (same_textEntries (fun a b (same : (a == b) = true) => by
      rw [eq_of_beq same, same_textList]) h)
  | textMap => exact .some (same_textEntries (fun a b (same : (a == b) = true) => by simpa using same) h)
  | keyAlgorithm =>
    have same : x = y := eq_of_beq h
    exact .map_str (congrArg (Option.map KeyAlgorithm.name) same)
  | tlsVersions =>
    have same : x = y := eq_of_beq h
    exact .some (by rw [same, same_textList])
  | request => exact .some (RequestPolicy.same_shown h)
  | source =>
    have same : x = y := eq_of_beq h
    exact .some (by rw [same]; simp)
  | tokenProvider => exact absurd rfl provider
  | authProvider => exact absurd rfl plugin
  | contexts => exact absurd rfl contexts
  | currentContext => exact absurd rfl current

end ClusterAccess
