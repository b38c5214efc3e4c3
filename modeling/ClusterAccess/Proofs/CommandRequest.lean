import ClusterAccess.CommandLine.Run
import ClusterAccess.Proofs.Outcome

/-!
# What arguments ask a command to do

The options that are read are options of the command, so the listing of contexts is never asked to select
one of them. The plain way to name a file is read as one expects.
-/
namespace ClusterAccess.CommandLine

/-! ## Options of a command -/

theorem Reading.flags_of_add {s : Scope} {name value : String} {f : Flag} {x : Except Mistake Reading}
    {r : Reading} (found : flagOf? s name = some f)
    (others : ∀ {r}, x = .ok r → ∀ g ∈ r.given, g.1 ∈ flags s) (h : x.map (Reading.add f value) = .ok r) :
    ∀ g ∈ r.given, g.1 ∈ flags s := by
  cases x with
  | error mistake => cases h
  | ok r' =>
    cases h
    intro g hg
    rcases List.mem_cons.mp hg with rfl | hg
    · exact List.mem_of_find?_eq_some found
    · exact others rfl g hg

theorem read_flags {s : Scope} {args : List String} {r : Reading} (h : read s args = .ok r) :
    ∀ g ∈ r.given, g.1 ∈ flags s := by
  fun_induction read s args generalizing r with
  | case1 | case2 | case3 =>
    cases h
    exact fun g hg => absurd hg List.not_mem_nil
  | case4 arg rest _ _ _ ih =>
    cases hr : read s rest with
    | error mistake =>
      rw [hr] at h
      cases h
    | ok r' =>
      rw [hr] at h
      cases h
      have others := ih hr
      exact others
  | case5 | case7 | case10 => cases h
  | case6 _ _ _ _ _ _ found _ _ ih => exact Reading.flags_of_add found ih h
  | case8 _ _ _ _ _ _ found _ _ _ _ ih => exact Reading.flags_of_add found ih h
  | case9 _ _ _ _ _ found _ _ _ _ _ ih => exact Reading.flags_of_add found ih h

/-- A page is asked for, not a run. -/
theorem Reading.page?_ne_run (r : Reading) (s : Scope) (command : Command) (settings : Settings) :
    r.page? s ≠ some (.run command settings) := by
  intro h
  obtain ⟨⟨f, value⟩, _, hf⟩ := List.exists_of_findSome?_eq_some h
  cases f <;> cases hf

/-- A run is asked for by the options of its command. -/
theorem commandRequest_eq_run {isDirectory : String → Bool} {command command' : Command} {args : List String}
    {settings : Settings} (h : commandRequest isDirectory command args = .ok (.run command' settings)) :
    command = command' ∧ ∃ r, read (some command) args = .ok r ∧ settings = r.settings := by
  obtain ⟨r, hr, h⟩ := except_bind_eq_ok.mp h
  dsimp only at h
  split at h
  · next page hp =>
    cases h
    exact absurd hp (r.page?_ne_run _ _ _)
  · split at h
    · cases h
    · split at h
      · cases h
        exact ⟨rfl, r, hr, rfl⟩
      · cases h

theorem request_eq_run {isDirectory : String → Bool} {command : Command} {args : List String}
    {settings : Settings} (h : request isDirectory args = .ok (.run command settings)) :
    ∃ rest r, read (some command) rest = .ok r ∧ settings = r.settings := by
  obtain ⟨r, -, h⟩ := except_bind_eq_ok.mp h
  split at h
  · next page _ hp =>
    cases h
    exact absurd hp (r.page?_ne_run _ _ _)
  · cases h
  · split at h
    · obtain ⟨rfl, hr⟩ := commandRequest_eq_run h
      exact ⟨_, hr⟩
    · cases h

/-- The listing of contexts selects none. -/
theorem context_of_request {isDirectory : String → Bool} {args : List String} {settings : Settings}
    (h : request isDirectory args = .ok (.run .contexts settings)) : settings.context = none := by
  obtain ⟨rest, r, hr, rfl⟩ := request_eq_run h
  show (r.given.reverse.find? (·.1 == Flag.context)).map (·.2) = none
  rw [Option.map_eq_none_iff, List.find?_eq_none]
  intro g hg hc
  have flag := read_flags hr g (List.mem_reverse.mp hg)
  rw [beq_iff_eq.mp hc] at flag
  revert flag
  decide

/-! ## A command with a file -/

theorem read_file (command : Command) (path : String) :
    read (some command) [Flag.kubeconfig.name, path] = .ok ⟨[(.kubeconfig, path)], []⟩ := by
  have flag : flagOf? (some command) Flag.kubeconfig.name = some .kubeconfig := by
    cases command <;> decide
  have split : splitValue Flag.kubeconfig.name = (Flag.kubeconfig.name, none) := by decide
  have value : Flag.valueName? .kubeconfig = some "FILE" := rfl
  rw [read, if_neg (by decide), if_neg (by decide), split]
  simp only [flag, value]
  rw [read]
  rfl

theorem commandRequest_of_file {isDirectory : String → Bool} {path : String} (file : isDirectory path = false)
    (command : Command) : commandRequest isDirectory command [Flag.kubeconfig.name, path] =
      .ok (.run command ⟨none, some path, false, false, false⟩) := by
  have noPage : Reading.page? ⟨[(.kubeconfig, path)], []⟩ (some command) = none := rfl
  have noDirectory : (Reading.settings ⟨[(.kubeconfig, path)], []⟩).kubeconfig.filter isDirectory = none := by
    show (some path).filter isDirectory = none
    rw [Option.filter_some, file]
    rfl
  refine except_bind_eq_ok.mpr ⟨_, read_file command path, ?_⟩
  dsimp only
  rw [noPage, noDirectory]
  rfl

theorem request_of_file {isDirectory : String → Bool} {path : String} (file : isDirectory path = false)
    (command : Command) : request isDirectory [command.name, Flag.kubeconfig.name, path] =
      .ok (.run command ⟨none, some path, false, false, false⟩) := by
  have first : read none [command.name, Flag.kubeconfig.name, path] =
      .ok ⟨[], [command.name, Flag.kubeconfig.name, path]⟩ := by
    rw [read, if_neg (by cases command <;> decide), if_pos (by cases command <;> decide)]
    rfl
  have noPage : Reading.page? ⟨[], [command.name, Flag.kubeconfig.name, path]⟩ none = none := rfl
  have found : Command.all.find? (·.name == command.name) = some command := by
    cases command <;> decide
  refine except_bind_eq_ok.mpr ⟨_, first, ?_⟩
  rw [noPage]
  dsimp only
  rw [found]
  exact commandRequest_of_file file command

end ClusterAccess.CommandLine
