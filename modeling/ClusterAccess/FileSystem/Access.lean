import ClusterAccess.FileSystem.Basic
import ClusterAccess.Traced

/-!
# Looking at files

A file that is not there or cannot be read is no reason to stop: it is recorded, and things go on without
it. Two kinds of trouble are errors all the same, as nothing holds them back: a test that cannot tell what
a path names, and reading from a path that no file can have.
-/
namespace ClusterAccess

/-- What may stand in the way of a value: a file, or a number that is too long to be written. -/
inductive Obstacle where
  | file (fault : ReadFault)
  | number
  deriving DecidableEq, Repr

def Obstacle.error : Obstacle → Error
  | .file fault => .unreadable fault
  | .number => .longNumber

@[simp] theorem Obstacle.error_inj {o o' : Obstacle} : o.error = o'.error ↔ o = o' := by
  cases o <;> cases o' <;> simp [error]

/-- The value, unless something stands in the way. -/
def guarded {α : Type} (obstacle? : Option Obstacle) (a : α) : Except Error α :=
  match obstacle? with
  | none => .ok a
  | some obstacle => .error obstacle.error

section

variable {α β : Type} {obstacle? : Option Obstacle} {a : α}

@[simp] theorem guarded_none (a : α) : guarded none a = .ok a := rfl

@[simp] theorem guarded_some (obstacle : Obstacle) (a : α) :
    guarded (some obstacle) a = .error obstacle.error := rfl

theorem guarded_eq_ok {b : α} : guarded obstacle? a = .ok b ↔ obstacle? = none ∧ a = b := by
  cases obstacle? <;> simp

theorem guarded_eq_error {e : Error} :
    guarded obstacle? a = .error e ↔ ∃ obstacle, obstacle? = some obstacle ∧ e = obstacle.error := by
  cases obstacle? <;> simp [eq_comm]

@[simp] theorem guarded_map (f : α → β) : (guarded obstacle? a).map f = guarded obstacle? (f a) := by
  cases obstacle? <;> rfl

/-- The obstacles of two steps are those of the first, and then those of the second. -/
theorem guarded_bind (f : α → Except Error β) {next? : Option Obstacle} {b : β}
    (next : f a = guarded next? b) : (guarded obstacle? a).bind f = guarded (obstacle?.or next?) b := by
  cases obstacle? with
  | none => exact next
  | some fault => rfl

/-- Only the first of two steps may meet an obstacle. -/
theorem guarded_bind_of_ok (f : α → Except Error β) {b : β} (next : f a = .ok b) :
    (guarded obstacle? a).bind f = guarded obstacle? b := by
  rw [guarded_bind f (next.trans (guarded_none b).symm), Option.or_none]

end

namespace FileSystem

/-- What keeps one from telling whether a path names a file. -/
def testObstacle? (fs : FileSystem) (path : String) : Option Obstacle :=
  match fs.testFile path with
  | .ok _ => none
  | .error fault => some (.file fault)

/-- What makes reading a file an error. -/
def readObstacle? (fs : FileSystem) (path : String) : Option Obstacle :=
  match fs.readText path with
  | .ok _ => none
  | .error fault => if fault.isOfFile then none else some (.file fault)

/-- Whether a path names a file. -/
def checkFile (fs : FileSystem) (path : String) : Traced Bool :=
  .ofExcept ((fs.testFile path).mapError .unreadable)

/-- The text of a file; a failure that has to do with the file is recorded. -/
def tryText (fs : FileSystem) (path : String) (level : Log.Level) (channel : Log.Channel)
    (message : String → String) : Traced (Option String) :=
  match fs.readText path with
  | .ok text => pure (some text)
  | .error fault =>
    if fault.isOfFile then do
      .note level channel (message fault.message)
      return none
    else .fail (.unreadable fault)

/-- What is found to be a file has been asked for with success. -/
theorem testObstacle?_of_isFile {fs : FileSystem} {path : String} (h : fs.isFile path = true) :
    fs.testObstacle? path = none := by
  unfold isFile at h
  unfold testObstacle?
  cases answer : fs.testFile path with
  | ok there => rfl
  | error fault =>
    rw [answer] at h
    cases h

/-- What makes reading a file an error is its path. -/
theorem readObstacle?_eq_some {fs : FileSystem} {path : String} {obstacle : Obstacle} :
    fs.readObstacle? path = some obstacle ↔
      ∃ fault, fs.readText path = .error fault ∧ fault.isOfFile = false ∧ obstacle = .file fault := by
  unfold readObstacle?
  constructor
  · intro h
    split at h
    · cases h
    · next fault reads =>
      split at h
      · cases h
      · next hard => exact ⟨fault, reads, Bool.eq_false_iff.mpr hard, (Option.some.inj h).symm⟩
  · rintro ⟨fault, reads, hard, rfl⟩
    rw [reads]
    exact if_neg (Bool.eq_false_iff.mp hard)

theorem readObstacle?_of_ok {fs : FileSystem} {path text : String} (h : fs.readText path = .ok text) :
    fs.readObstacle? path = none := by
  rw [readObstacle?, h]

@[simp] theorem result_checkFile (fs : FileSystem) (path : String) :
    (fs.checkFile path).result = guarded (fs.testObstacle? path) (fs.isFile path) := by
  unfold checkFile testObstacle? isFile
  cases fs.testFile path <;> rfl

@[simp] theorem result_tryText (fs : FileSystem) (path : String) (level : Log.Level)
    (channel : Log.Channel) (message : String → String) :
    (fs.tryText path level channel message).result =
      guarded (fs.readObstacle? path) (fs.readText path).toOption := by
  unfold tryText readObstacle?
  cases fs.readText path with
  | ok text => rfl
  | error fault =>
    dsimp only
    split <;> rfl

theorem tryText_of_ok {fs : FileSystem} {path text : String} (held : fs.readText path = .ok text)
    (level : Log.Level) (channel : Log.Channel) (message : String → String) :
    fs.tryText path level channel message = pure (some text) := by
  rw [tryText, held]

theorem readObstacle?_congr {fs other : FileSystem} {path : String}
    (same : fs.readText path = other.readText path) : fs.readObstacle? path = other.readObstacle? path := by
  rw [readObstacle?, readObstacle?, same]

theorem readObstacle?_of_isOfFile {fs : FileSystem} {path : String} {fault : ReadFault}
    (h : fs.readText path = .error fault) (soft : fault.isOfFile = true) : fs.readObstacle? path = none := by
  rw [readObstacle?, h]
  exact if_pos soft

/-- Where a path reads alike, trying to read it is the same. -/
theorem tryText_congr {fs other : FileSystem} {path : String} (same : fs.readText path = other.readText path) :
    fs.tryText path = other.tryText path := by
  funext level channel message
  rw [tryText, tryText, same]

end FileSystem

end ClusterAccess
