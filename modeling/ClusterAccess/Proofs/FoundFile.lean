import ClusterAccess.Proofs.NamedFile

/-!
# The file that is found

Discovery tries one name: the value of the option, or else the default place in the home directory, up to
the first colon. It finds that file exactly if its text can be read and is not blank. The default place is
cut at a colon as well, so a home directory with a colon in its name hides the file in it. Discovery fails
only where one cannot tell which directory is the home directory or whether the name is one of a file.
-/
namespace ClusterAccess

theorem Text.before_append_of_mem {sep : Char} {s : String} (h : sep ∈ s.toList) (t : String) :
    before sep (s ++ t) = before sep s := by
  have stops : (s.toList.takeWhile (· != sep)).length ≠ s.toList.length := by
    intro whole
    have all := List.takeWhile_eq_self_iff.mp ((List.takeWhile_prefix _).eq_of_length whole) sep h
    simp at all
  rw [before, before, String.toList_append, List.takeWhile_append, if_neg stops]

/-- Nothing is cut off exactly if the separator does not occur. -/
theorem Text.before_eq_self_iff {sep : Char} {s : String} : before sep s = s ↔ sep ∉ s.toList := by
  refine ⟨fun whole occurs => ?_, before_eq_self⟩
  rw [← whole, before, String.toList_ofList] at occurs
  simpa using List.mem_takeWhile_imp occurs

/-- A relative name comes after the spelling of its directory, and brings no characters of its own but a
slash. -/
theorem Path.joinText_of_relative {name : String} (relative : isAbsoluteText name = false)
    (directory : String) :
    ∃ rest : String, joinText directory name = directory ++ rest ∧
      ∀ c ∈ rest.toList, c = '/' ∨ c ∈ name.toList := by
  unfold joinText
  rw [if_neg (Bool.eq_false_iff.mp relative)]
  split
  · exact ⟨name, rfl, fun c hc => .inr hc⟩
  · refine ⟨"/" ++ name, String.append_assoc, fun c hc => ?_⟩
    rw [String.toList_append, List.mem_append] at hc
    exact hc.imp_left List.mem_singleton.mp

namespace Discovery

/-! ## The name that is tried -/

theorem names_of_path {p : Probe} {fs : FileSystem} {h : Home} {home : String}
    (housed : h.path p fs = .ok home) :
    names p fs h = .ok (if nameTried p home = "" then [] else [nameTried p home]) := by
  rw [names, housed]
  rfl

theorem nameTried_of_option {p : Probe} {named : String}
    (present : p.get? Options.kubeconfigFile = some named) (home : String) :
    nameTried p home = Text.before ':' named := by
  rw [nameTried, Probe.getD, present, Option.getD_some]

theorem nameTried_of_absent {p : Probe} (absent : p.get? Options.kubeconfigFile = none) (home : String) :
    nameTried p home = Text.before ':' (defaultFile home) := by
  rw [nameTried, Probe.getD, absent, Option.getD_none]

/-- The default place starts with the home directory, and no colon comes after it. -/
theorem defaultFile_eq_append (home : String) :
    ∃ rest : String, defaultFile home = home ++ rest ∧ ':' ∉ rest.toList := by
  obtain ⟨outer, ho, clean⟩ :=
    Path.joinText_of_relative (show Path.isAbsoluteText ".kube" = false by decide) home
  obtain ⟨inner, hi, clean'⟩ :=
    Path.joinText_of_relative (show Path.isAbsoluteText "config" = false by decide)
      (Path.joinText home ".kube")
  refine ⟨outer ++ inner, ?_, fun colon => ?_⟩
  · rw [defaultFile, hi, ho, String.append_assoc]
  · rw [String.toList_append, List.mem_append] at colon
    rcases colon with hc | hc
    · exact absurd (clean _ hc) (by decide)
    · exact absurd (clean' _ hc) (by decide)

theorem before_defaultFile_of_mem {home : String} (colon : ':' ∈ home.toList) :
    Text.before ':' (defaultFile home) = Text.before ':' home := by
  obtain ⟨rest, hr, _⟩ := defaultFile_eq_append home
  rw [hr, Text.before_append_of_mem colon]

theorem colon_mem_defaultFile {home : String} : ':' ∈ (defaultFile home).toList ↔ ':' ∈ home.toList := by
  obtain ⟨rest, hr, clean⟩ := defaultFile_eq_append home
  rw [hr, String.toList_append, List.mem_append]
  exact or_iff_left clean

/-! ## What is found -/

/-- The name of a file whose text can be read and is not blank. -/
structure Usable (fs : FileSystem) (name : String) : Prop where
  named : name ≠ ""
  isFile : fs.isFile name = true
  reads : ∃ text, fs.readText name = .ok text ∧ Text.isBlankText text = false

theorem holdsText_iff {fs : FileSystem} {name : String} : holdsText fs name = true ↔
    fs.isFile name = true ∧ ∃ text, fs.readText name = .ok text ∧ Text.isBlankText text = false := by
  unfold holdsText
  rw [Bool.and_eq_true]
  refine and_congr_right fun _ => ?_
  cases fs.readText name with
  | error fault => simp [Except.toOption]
  | ok text => simp [Except.toOption]

/-- What makes it an error to look for the name. No name is not looked for. -/
def triedObstacle? (fs : FileSystem) (name : String) : Option Obstacle :=
  if name = "" then none else fs.fileObstacle? name

section

variable {p : Probe} {fs : FileSystem} {h : Home} {home : String}
  (looks : p.getTruth Options.tryKubeconfig true = true) (housed : h.path p fs = .ok home)
include looks housed

theorem find_of_usable (usable : Usable fs (nameTried p home)) :
    (find p fs h).result = .ok [Path.ofText (nameTried p home)] := by
  have candidate : candidates p fs h = [nameTried p home] := by
    rw [candidates, names_of_path housed, if_neg usable.named]
    rfl
  obtain ⟨text, reads, _⟩ := usable.reads
  rw [result_find, obstacle?_of_candidate candidate usable.isFile reads, if_pos looks, candidate,
    List.filter_cons_of_pos (holdsText_iff.mpr ⟨usable.isFile, usable.reads⟩)]
  rfl

theorem find_of_not_usable (unusable : ¬ Usable fs (nameTried p home)) :
    (find p fs h).result = guarded (triedObstacle? fs (nameTried p home)) [] := by
  have nothing : (candidates p fs h).filter (holdsText fs) = [] := by
    rw [candidates, names_of_path housed]
    dsimp only [Except.toOption, Option.getD_some]
    split
    · rfl
    · next named =>
      refine List.filter_cons_of_neg fun holds => unusable ?_
      obtain ⟨isFile, reads⟩ := holdsText_iff.mp holds
      exact ⟨named, isFile, reads⟩
  have obstacle : obstacle? p fs h = triedObstacle? fs (nameTried p home) := by
    rw [obstacle?, if_pos looks, names_of_path housed, triedObstacle?]
    dsimp only
    split
    · rfl
    · rw [List.findSome?_singleton]
  rw [result_find, nothing, obstacle, if_pos looks]
  rfl

end

/-- Unless it is switched off, discovery finds the one file that it tries, exactly if that is usable. The
name is what the option says up to its first colon; without the option it is the default place, exactly if
the home directory has no colon in its name, and what comes before that colon otherwise. If the file is not
usable, nothing is found, or one cannot tell; nor can one go on without a home directory. -/
theorem find_exactly (p : Probe) (fs : FileSystem) (h : Home) :
    ((∀ switch, p.get? Options.tryKubeconfig = some switch → Probe.isTrue switch = true) →
      (∀ home, h.path p fs = .ok home →
        (Usable fs (nameTried p home) → (find p fs h).result = .ok [Path.ofText (nameTried p home)]) ∧
        (¬ Usable fs (nameTried p home) →
          (find p fs h).result = guarded (triedObstacle? fs (nameTried p home)) [])) ∧
      ∀ fault, h.path p fs = .error fault → (find p fs h).result = .error (.unreadable fault)) ∧
    (∀ switch, p.get? Options.tryKubeconfig = some switch → Probe.isTrue switch = false →
      (find p fs h).result = .ok []) ∧
    ∀ home, (∀ named, p.get? Options.kubeconfigFile = some named →
        nameTried p home = Text.before ':' named) ∧
      (p.get? Options.kubeconfigFile = none →
        (nameTried p home = defaultFile home ↔ ':' ∉ home.toList) ∧
        (':' ∈ home.toList → nameTried p home = Text.before ':' home)) := by
  refine ⟨fun enabled => ?_, fun switch present off => ?_, fun home => ⟨fun named present => ?_,
    fun absent => ⟨?_, ?_⟩⟩⟩
  · have looks : p.getTruth Options.tryKubeconfig true = true := by
      unfold Probe.getTruth
      cases present : p.get? Options.tryKubeconfig with
      | none => rfl
      | some switch => exact enabled switch present
    refine ⟨fun home housed => ⟨find_of_usable looks housed, find_of_not_usable looks housed⟩,
      fun fault homeless => ?_⟩
    rw [result_find, obstacle?, if_pos looks, names, homeless]
    rfl
  · have blind : p.getTruth Options.tryKubeconfig true = false := by
      rw [Probe.getTruth, present]
      exact off
    rw [result_find, obstacle?, if_neg (Bool.eq_false_iff.mp blind), if_neg (Bool.eq_false_iff.mp blind)]
    rfl
  · exact nameTried_of_option present home
  · rw [nameTried_of_absent absent, Text.before_eq_self_iff, colon_mem_defaultFile]
  · intro colon
    rw [nameTried_of_absent absent, before_defaultFile_of_mem colon]

/-- Of the two files that the option names, the first one is found. -/
theorem find_exactly_sample : ∃ w : World, w.probe.get? Options.tryKubeconfig = none ∧
    w.probe.get? Options.kubeconfigFile = some "/a:/b" ∧ Usable w.fs "/a" ∧
    (find w.probe w.fs w.home).result = .ok [Path.ofText "/a"] := by
  let w : World := .sample [(Options.kubeconfigFile, "/a:/b")] [("/a", "x"), ("/b", "y")]
  have absent : w.probe.get? Options.tryKubeconfig = none := by decide +kernel
  have present : w.probe.get? Options.kubeconfigFile = some "/a:/b" := by decide +kernel
  have usable : Usable w.fs "/a" := ⟨by decide, rfl, "x", rfl, by decide +kernel⟩
  obtain ⟨found, _, named⟩ := find_exactly w.probe w.fs w.home
  have first : nameTried w.probe "/home/user" = "/a" :=
    ((named "/home/user").1 _ present).trans (by decide +kernel)
  have enabled : ∀ switch, w.probe.get? Options.tryKubeconfig = some switch → Probe.isTrue switch = true := by
    rw [absent]
    exact fun _ h => nomatch h
  have tried := (found enabled).1 "/home/user" rfl
  rw [first] at tried
  exact ⟨w, absent, present, usable, tried.1 usable⟩

/-- A home directory with a colon in its name. -/
def colonHome : World :=
  { World.sample [] [("/home/a:b/.kube/config", "x")] with home := ⟨some "/home/a:b", none⟩ }

/-- The file in the default place is usable, no option forbids to look or names another one, and it is not
found. -/
theorem default_file_is_missed :
    colonHome.probe.get? Options.tryKubeconfig = none ∧ colonHome.probe.get? Options.kubeconfigFile = none ∧
    colonHome.home.path colonHome.probe colonHome.fs = .ok "/home/a:b" ∧
    defaultFile "/home/a:b" = "/home/a:b/.kube/config" ∧
    Usable colonHome.fs "/home/a:b/.kube/config" ∧
    (find colonHome.probe colonHome.fs colonHome.home).result = .ok [] :=
  ⟨by decide +kernel, by decide +kernel, rfl, by decide +kernel,
    ⟨by decide, rfl, "x", rfl, by decide +kernel⟩, by decide +kernel⟩

end Discovery

end ClusterAccess
