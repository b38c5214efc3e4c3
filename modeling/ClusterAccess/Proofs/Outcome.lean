import ClusterAccess.FileSystem.Access

/-!
# Outcomes of traced computations

A result of a computation in steps tells the results of its steps. The errors that it may end with are
those of its steps; `FailsOnly` bounds them without a look at what the steps compute.
-/
namespace ClusterAccess

theorem except_bind_eq_ok {ε α β : Type} {x : Except ε α} {f : α → Except ε β} {b : β} :
    (x >>= f) = .ok b ↔ ∃ a, x = .ok a ∧ f a = .ok b := by
  cases x <;> simp [bind, Except.bind]

theorem except_map_eq_ok {ε α β : Type} {x : Except ε α} {f : α → β} {b : β} :
    x.map f = .ok b ↔ ∃ a, x = .ok a ∧ f a = b := by
  cases x <;> simp [Except.map]

/-- What follows a step matters for the results of the step only. -/
theorem except_bind_congr {α β : Type} {x : Except Error α} {f g : α → Except Error β}
    (h : ∀ a, x = .ok a → f a = g a) : x.bind f = x.bind g := by
  cases x with
  | ok a => exact h a rfl
  | error e => rfl

theorem except_eq_ok_of_toOption {α : Type} {x : Except Error α} {a : α} (h : x.toOption = some a) :
    x = .ok a := by
  cases x with
  | ok b => rw [Option.some.inj h]
  | error e => cases h

/-- A result that is seen through a view is there. -/
theorem except_ok_of_map {α β : Type} {x : Except Error α} {view : α → β} {b : β}
    (h : x.toOption.map view = some b) : ∃ a, x = .ok a ∧ view a = b := by
  cases x with
  | ok a => exact ⟨a, rfl, Option.some.inj h⟩
  | error e => cases h

/-- A failure that is seen to be a certain error is that error. -/
theorem except_error_of_match {α : Type} {x : Except Error α} {e : Error}
    (h : (match x with
      | .ok _ => false
      | .error other => decide (other = e)) = true) : x = .error e := by
  cases x with
  | ok a => cases h
  | error other => rw [of_decide_eq_true h]

/-! ## Results that may be missed -/

/-- Both are the same, unless the first fails for one of these reasons. -/
def AgreesUnless {α : Type} (blocked : Obstacle → Prop) (x y : Except Error α) : Prop :=
  x = y ∨ ∃ obstacle, blocked obstacle ∧ x = .error obstacle.error

namespace AgreesUnless

variable {α β : Type} {blocked : Obstacle → Prop} {x y : Except Error α}

theorem bind (first : AgreesUnless blocked x y) {f g : α → Except Error β}
    (rest : ∀ a, y = .ok a → AgreesUnless blocked (f a) (g a)) :
    AgreesUnless blocked (x.bind f) (y.bind g) := by
  rcases first with rfl | ⟨obstacle, hb, rfl⟩
  · cases x with
    | ok a => exact rest a rfl
    | error e => exact .inl rfl
  · exact .inr ⟨obstacle, hb, rfl⟩

/-- What follows from the same values is the same. -/
theorem bind_eq (first : AgreesUnless blocked x y) {f g : α → Except Error β}
    (rest : ∀ a, y = .ok a → f a = g a) : AgreesUnless blocked (x.bind f) (y.bind g) :=
  first.bind fun a ha => .inl (rest a ha)

/-- The first step meets the obstacles of the second one, or one of these; the values may be different. -/
theorem guarded_bind {first second : Option Obstacle}
    (h : first = second ∨ ∃ obstacle, blocked obstacle ∧ first = some obstacle) {a b : α}
    {f g : α → Except Error β}
    (rest : first = none → second = none → AgreesUnless blocked (f a) (g b)) :
    AgreesUnless blocked ((guarded first a).bind f) ((guarded second b).bind g) := by
  rcases h with rfl | ⟨obstacle, hb, rfl⟩
  · cases first with
    | none => exact rest rfl rfl
    | some obstacle => exact .inl rfl
  · exact .inr ⟨obstacle, hb, rfl⟩

theorem of_guarded {first second : Option Obstacle}
    (h : first = second ∨ ∃ obstacle, blocked obstacle ∧ first = some obstacle) (a : α) :
    AgreesUnless blocked (guarded first a) (guarded second a) := by
  rcases h with rfl | ⟨obstacle, hb, rfl⟩
  · exact .inl rfl
  · exact .inr ⟨obstacle, hb, rfl⟩

theorem eq_of_not_blocked (h : AgreesUnless blocked x y) (free : ∀ obstacle, ¬ blocked obstacle) : x = y := by
  rcases h with same | ⟨obstacle, hb, _⟩
  · exact same
  · exact absurd hb (free obstacle)

theorem eq_of_ok {a : α} (h : AgreesUnless blocked (.ok a) y) : y = .ok a := by
  rcases h with same | ⟨_, _, fails⟩
  · exact same.symm
  · cases fails

end AgreesUnless

namespace Traced

variable {α β : Type}

/-- The steps of a computation that succeeds. -/
theorem bind_eq_ok {x : Traced α} {f : α → Traced β} {b : β} :
    (x >>= f).result = .ok b ↔ ∃ a, x.result = .ok a ∧ (f a).result = .ok b := by
  rw [result_bind]
  cases x.result <;> simp [Except.bind]

/-- The step at which a computation fails. -/
theorem bind_eq_error {x : Traced α} {f : α → Traced β} {e : Error} :
    (x >>= f).result = .error e ↔
      x.result = .error e ∨ ∃ a, x.result = .ok a ∧ (f a).result = .error e := by
  rw [result_bind]
  cases x.result <;> simp [Except.bind]

theorem result_bind_of_ok {x : Traced α} {a : α} (h : x.result = .ok a) (f : α → Traced β) :
    (x >>= f).result = (f a).result := by
  rw [result_bind, h]
  rfl

/-- Computations in steps that end alike end alike. -/
theorem result_bind_congr {x y : Traced α} {f g : α → Traced β} (first : x.result = y.result)
    (rest : ∀ a, x.result = .ok a → (f a).result = (g a).result) :
    (x >>= f).result = (y >>= g).result := by
  rw [result_bind, result_bind, ← first]
  exact except_bind_congr rest

/-- Records do not count for the result. -/
@[simp] theorem result_debug_bind (channel : Log.Channel) (message : String) (f : Unit → Traced β) :
    ((debug channel message) >>= f).result = (f ()).result := result_bind_of_ok rfl f

/-! ## Lists -/

/-- Every result of a computation for each item is the result for some item. -/
theorem mem_of_mapM_eq_ok {f : α → Traced β} {xs : List α} {ys : List β} (h : (xs.mapM f).result = .ok ys)
    {y : β} (hy : y ∈ ys) : ∃ x ∈ xs, (f x).result = .ok y := by
  induction xs generalizing ys with
  | nil =>
    cases h
    cases hy
  | cons x rest ih =>
    rw [List.mapM_cons] at h
    obtain ⟨first, hf, h⟩ := bind_eq_ok.mp h
    obtain ⟨others, ho, h⟩ := bind_eq_ok.mp h
    cases h
    rcases List.mem_cons.mp hy with rfl | hr
    · exact ⟨x, List.mem_cons_self, hf⟩
    · obtain ⟨x', hx', hy'⟩ := ih ho hr
      exact ⟨x', List.mem_cons_of_mem _ hx', hy'⟩

theorem result_mapM_congr {f g : α → Traced β} (h : ∀ a, (f a).result = (g a).result) (xs : List α) :
    (xs.mapM f).result = (xs.mapM g).result := by
  induction xs with
  | nil => rfl
  | cons x rest ih =>
    rw [List.mapM_cons, List.mapM_cons]
    exact result_bind_congr (h x) fun _ _ => result_bind_congr ih fun _ _ => rfl

theorem result_filterAuxM {α : Type} {f : α → Traced Bool} {obstacle? : α → Option Obstacle}
    {keep : α → Bool} (h : ∀ a, (f a).result = guarded (obstacle? a) (keep a)) (xs kept : List α) :
    (xs.filterAuxM f kept).result =
      guarded (xs.findSome? obstacle?) ((xs.filter keep).reverse ++ kept) := by
  induction xs generalizing kept with
  | nil => rfl
  | cons x rest ih =>
    rw [List.filterAuxM, result_bind, h x, List.findSome?_cons]
    cases obstacle? x with
    | some obstacle => rfl
    | none =>
      show (rest.filterAuxM f _).result = _
      rw [ih]
      cases hx : keep x <;> simp [hx]

/-- A test keeps what passes it, up to the first obstacle. -/
theorem result_filterM {α : Type} {f : α → Traced Bool} {obstacle? : α → Option Obstacle}
    {keep : α → Bool} (h : ∀ a, (f a).result = guarded (obstacle? a) (keep a)) (xs : List α) :
    (xs.filterM f).result = guarded (xs.findSome? obstacle?) (xs.filter keep) := by
  rw [List.filterM, result_bind, result_filterAuxM h xs []]
  cases xs.findSome? obstacle? with
  | some obstacle => rfl
  | none =>
    show Except.ok ((xs.filter keep).reverse ++ []).reverse = _
    simp

/-! ## Which errors -/

/-- Every error that the computation may end with is of the kind. -/
def FailsOnly (kind : Error → Prop) (x : Traced α) : Prop := ∀ e, x.result = .error e → kind e

namespace FailsOnly

variable {kind : Error → Prop}

theorem of_ok {x : Traced α} {a : α} (h : x.result = .ok a) : FailsOnly kind x := by
  intro e he
  rw [h] at he
  cases he

theorem pure (a : α) : FailsOnly kind (Pure.pure a : Traced α) := of_ok rfl

theorem of_guarded {x : Traced α} {obstacle? : Option Obstacle} {a : α}
    (h : x.result = guarded obstacle? a) (hk : ∀ obstacle : Obstacle, kind obstacle.error) : FailsOnly kind x := by
  intro e he
  rw [h] at he
  obtain ⟨obstacle, _, rfl⟩ := guarded_eq_error.mp he
  exact hk obstacle

theorem bind {x : Traced α} {f : α → Traced β} (hx : FailsOnly kind x)
    (hf : ∀ a, x.result = .ok a → FailsOnly kind (f a)) : FailsOnly kind (x >>= f) := by
  intro e he
  rcases bind_eq_error.mp he with h | ⟨a, ha, h⟩
  · exact hx e h
  · exact hf a ha e h

/-- After a step that cannot fail only the rest matters. -/
theorem bind_of_ok {x : Traced α} {a : α} {f : α → Traced β} (hx : x.result = .ok a)
    (hf : FailsOnly kind (f a)) : FailsOnly kind (x >>= f) := by
  intro e he
  rw [result_bind_of_ok hx] at he
  exact hf e he

theorem mapM {f : α → Traced β} (hf : ∀ a, FailsOnly kind (f a)) (xs : List α) :
    FailsOnly kind (xs.mapM f) := by
  induction xs with
  | nil => exact .pure []
  | cons x rest ih =>
    rw [List.mapM_cons]
    exact .bind (hf x) fun _ _ => .bind ih fun _ _ => .pure _

end FailsOnly

end Traced

end ClusterAccess
