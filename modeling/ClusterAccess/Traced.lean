import ClusterAccess.Error
import ClusterAccess.Log

/-!
# Computations with a log

A traced computation gives a result or an error, and in either case the records it wrote. What the result
is never depends on the records: `result_bind` says that results combine as if nothing were logged.
-/
namespace ClusterAccess

structure Traced (α : Type) where
  log : List Log.Record
  result : Except Error α

namespace Traced

variable {α β : Type}

def pure (a : α) : Traced α := ⟨[], .ok a⟩

def bind (x : Traced α) (f : α → Traced β) : Traced β :=
  match x.result with
  | .error e => ⟨x.log, .error e⟩
  | .ok a => ⟨x.log ++ (f a).log, (f a).result⟩

instance : Monad Traced where
  pure := pure
  bind := bind

def fail (e : Error) : Traced α := ⟨[], .error e⟩

def ofExcept (x : Except Error α) : Traced α := ⟨[], x⟩

def note (level : Log.Level) (channel : Log.Channel) (message : String) : Traced Unit :=
  ⟨[⟨level, channel, message⟩], .ok ()⟩

def debug (channel : Log.Channel) (message : String) : Traced Unit := note .debug channel message

def warn (channel : Log.Channel) (message : String) : Traced Unit := note .warning channel message

/-- The outcome as a value: the computation itself never fails. -/
def outcome (x : Traced α) : Traced (Except Error α) := ⟨x.log, .ok x.result⟩

@[simp] theorem result_pure (a : α) : (Pure.pure a : Traced α).result = .ok a := rfl

@[simp] theorem result_fail (e : Error) : (fail e : Traced α).result = .error e := rfl

@[simp] theorem result_ofExcept (x : Except Error α) : (ofExcept x).result = x := rfl

@[simp] theorem result_note (level : Log.Level) (channel : Log.Channel) (message : String) :
    (note level channel message).result = .ok () := rfl

@[simp] theorem result_debug (channel : Log.Channel) (message : String) :
    (debug channel message).result = .ok () := rfl

@[simp] theorem result_warn (channel : Log.Channel) (message : String) :
    (warn channel message).result = .ok () := rfl

@[simp] theorem result_outcome (x : Traced α) : (outcome x).result = .ok x.result := rfl

@[simp] theorem result_bind (x : Traced α) (f : α → Traced β) :
    (x >>= f).result = x.result.bind fun a => (f a).result := by
  show (bind x f).result = _
  cases h : x.result <;> simp [bind, h, Except.bind]

@[simp] theorem result_map (f : α → β) (x : Traced α) : (f <$> x).result = x.result.map f := by
  rcases x with ⟨log, result⟩
  cases result <;> rfl

theorem id_map (x : Traced α) : id <$> x = x := by
  rcases x with ⟨log, result⟩
  cases result <;> simp [Functor.map, bind, pure]

theorem bind_assoc {γ : Type} (x : Traced α) (f : α → Traced β) (g : β → Traced γ) :
    x >>= f >>= g = x >>= fun a => f a >>= g := by
  rcases x with ⟨log, result⟩
  cases result with
  | error e => rfl
  | ok a =>
    simp only [Bind.bind, bind]
    cases (f a).result <;> simp [List.append_assoc]

instance : LawfulMonad Traced :=
  LawfulMonad.mk' Traced id_map (fun a f => by simp [Bind.bind, Pure.pure, bind, pure]) bind_assoc

end Traced

end ClusterAccess
