import Mathlib
import ResourceWait.Proofs.MadeDirectories
import ResourceWait.Proofs.SavedConfig

/-!
# A save that fails damages nothing

A configuration is looked at as a whole before any file is touched. So one that makes no sense, or that
TOML has no way to write, leaves the files as they are; and what comes after that, making directories and
writing the file, can fail too, because something is in the way or because the system refuses, but then
has only made some of the directories on the way.

Whatever lay at a path before can therefore be loaded from it as before, at the path of the failed save
as anywhere else.
-/

namespace ResourceWait.PollConfig

variable {config : PollConfig} {tree left : FileTree} {path : FilePath}

/-- **What a failed save leaves of a tree**, by its error. -/
def LeavesBehind (tree : FileTree) (path : FilePath) (left : FileTree) : ConfigError → Prop
  | .invalid _ => left = tree
  | .unwritable => left = tree
  | .io _ => tree.AddsParents path left
  | .malformed => False
  | .unfit _ => False

/-- What fails in two steps fails in the first, or in the second after the first. -/
theorem error_of_bind_eq_error {ε α β : Type} {x : Except ε α} {f : α → Except ε β} {e : ε}
    (h : x >>= f = .error e) : x = .error e ∨ ∃ a, x = .ok a ∧ f a = .error e := by
  cases x with
  | error e' =>
    cases h
    exact .inl rfl
  | ok a => exact .inr ⟨a, rfl, h⟩

/-- A configuration is refused because it makes no sense. -/
theorem exists_invalid_of_check {e : ConfigError} (h : config.check = .error e) :
    ∃ reason, e = .invalid reason := by
  rw [check] at h
  cases hvalidate : config.validate with
  | ok valid =>
    rw [hvalidate] at h
    cases h
  | error reason =>
    rw [hvalidate] at h
    cases h
    exact ⟨reason, rfl⟩

/-- A configuration has no text because it cannot be written. -/
theorem eq_unwritable_of_toToml {e : ConfigError} (h : config.toToml = .error e) :
    e = .unwritable := by
  rw [congrFun toToml_eq_elim config] at h
  generalize Toml.writeDocument (config.plainFields ++ Toml.sections config.tables) = written at h
  cases written with
  | none =>
    cases h
    rfl
  | some text => cases h

/-- **What keeps a configuration from having a text to save** is that it makes no sense, or cannot be
written. -/
theorem error_of_textToSave {e : ConfigError} (h : config.textToSave = .error e) :
    (∃ reason, e = .invalid reason) ∨ e = .unwritable := by
  rw [textToSave] at h
  obtain hcheck | ⟨_, -, htoml⟩ := error_of_bind_eq_error h
  · exact .inl (exists_invalid_of_check hcheck)
  · exact .inr (eq_unwritable_of_toToml htoml)

/-- **A save fails** before it touches any file, or in writing it. -/
theorem save_eq_error_cases {e : ConfigError} (h : config.save tree path = (.error e, left)) :
    config.textToSave = .error e ∧ left = tree
      ∨ ∃ bytes cause, e = .io cause ∧ tree.writeBelow path bytes = (.error cause, left) := by
  rw [save] at h
  cases htext : config.textToSave with
  | error e' =>
    rw [htext] at h
    cases h
    exact .inl ⟨rfl, rfl⟩
  | ok text =>
    rw [htext] at h
    dsimp only at h
    cases hwrite : tree.writeBelow path text.toUTF8 with
    | mk result written =>
      rw [hwrite] at h
      cases result with
      | ok done => cases h
      | error cause =>
        cases h
        exact .inr ⟨text.toUTF8, cause, rfl, hwrite⟩

/-- **Where the file cannot be written**, a save gets as far as its parents. -/
theorem save_of_writeFile_error {text : String} {cause : FileError}
    (htext : config.textToSave = .ok text) (hparents : tree.makeParents path = (.ok (), left))
    (hwrite : left.writeFile path text.toUTF8 = .error cause) :
    config.save tree path = (.error (.io cause), left) := by
  rw [save, htext]
  simp only [FileTree.writeBelow, hparents, hwrite]
  rfl

/-- **Loading looks at nothing but what the path leads to.** -/
theorem load_congr (h : left.find path = tree.find path) : load left path = load tree path := by
  unfold load FileTree.isThere FileTree.readText
  rw [h]

/-- **A save that fails damages nothing.** If the configuration makes no sense or cannot be written, the
tree is as it was; if the files do not allow it, the only difference can be new directories, without any
file in them, on the way to the path. There is no other error. And every path that led to something, be
it the path of this save or another, is loaded with the same result as before. -/
theorem save_fails_harmlessly {e : ConfigError} (h : config.save tree path = (.error e, left)) :
    LeavesBehind tree path left e
      ∧ ∀ other, tree.isThere other = true → load left other = load tree other := by
  obtain ⟨htext, rfl⟩ | ⟨bytes, cause, rfl, hwrite⟩ := save_eq_error_cases h
  · refine ⟨?_, fun _ _ => rfl⟩
    obtain ⟨reason, rfl⟩ | rfl := error_of_textToSave htext
    · exact rfl
    · exact rfl
  · obtain ⟨hadds, hfind⟩ := FileTree.writeBelow_of_error hwrite
    refine ⟨hadds, fun other hthere => load_congr ?_⟩
    rw [FileTree.isThere] at hthere
    cases hfound : tree.find other with
    | error e =>
      rw [hfound] at hthere
      cases hthere
    | ok found => exact hfind hfound

/-- A working directory with a configuration in it that there is no space to write again. -/
def fullTree : FileTree :=
  { (FileTree.scratch "home").set ["home", "wait.toml"] (.file "interval_secs = 7".toUTF8) with
    refusal? := fun place => if place = ["home", "wait.toml"] then some .space else none }

/-- Two saves that fail. The one finds no space to write the file that is there; the other is at a path
that ends in a slash, where no file can be, but the directory that it lies in is made. After either the
configuration in the file is loaded as before. -/
theorem save_fails_harmlessly_noSpace :
    let left := fullTree.set ["home", "etc"] .directory
    ({} : PollConfig).save fullTree ⟨"wait.toml"⟩ = (.error (.io (.refused .space)), fullTree)
      ∧ ({} : PollConfig).save fullTree ⟨"etc/wait/"⟩ = (.error (.io .isADirectory), left)
      ∧ fullTree.AddsParents ⟨"wait.toml"⟩ fullTree ∧ fullTree.AddsParents ⟨"etc/wait/"⟩ left
      ∧ load fullTree ⟨"wait.toml"⟩ = .ok { intervalSecs := 7 }
      ∧ load left ⟨"wait.toml"⟩ = load fullTree ⟨"wait.toml"⟩ := by
  intro left
  have hcheck : ∀ path ∈ [FilePath.mk "etc", ⟨"etc/wait/"⟩, ⟨"wait.toml"⟩],
      FileTree.checkPath path = .ok () := by
    simp only [List.forall_mem_cons]
    refine ⟨?_, ?_, ?_, List.forall_mem_nil _⟩ <;>
      exact FileTree.checkPath_eq_ok (by simp [FilePath.hasNull]) (by decide) (by decide)
  obtain ⟨text, htoml⟩ := (exists_toToml_iff {}).mpr ⟨by decide, by decide⟩
  have htext : ({} : PollConfig).textToSave = .ok text := textToSave_eq_ok_iff.mpr ⟨rfl, htoml⟩
  have hrefused : ({} : PollConfig).save fullTree ⟨"wait.toml"⟩
      = (.error (.io (.refused .space)), fullTree) := by
    refine save_of_writeFile_error htext rfl ?_
    rw [FileTree.writeFile, FileTree.findParent, hcheck _ (by simp)]
    rfl
  have hslash : ({} : PollConfig).save fullTree ⟨"etc/wait/"⟩
      = (.error (.io .isADirectory), left) := by
    have hmake : fullTree.makeDirectory ⟨"etc"⟩ = .ok left := by
      rw [FileTree.makeDirectory, FileTree.findParent, hcheck _ (by simp)]
      rfl
    have hmade : fullTree.makeParents ⟨"etc/wait/"⟩ = (.ok (), left) := by
      have haround : (FilePath.mk "etc/wait/").ancestors? = some [⟨"etc"⟩] := rfl
      rw [FileTree.makeParents, haround]
      simp only [FileTree.createDirectories, hmake]
    refine save_of_writeFile_error htext hmade ?_
    rw [FileTree.writeFile, FileTree.findParent, hcheck _ (by simp)]
    rfl
  have hfind : fullTree.find ⟨"wait.toml"⟩
      = .ok (["home", "wait.toml"], .file "interval_secs = 7".toUTF8) := by
    rw [FileTree.find, hcheck _ (by simp)]
    rfl
  have hread : fullTree.readText ⟨"wait.toml"⟩ = .ok "interval_secs = 7" := by
    rw [FileTree.readText, hfind]
    simp only [bind, Except.bind, FileTree.fromUTF8?_toUTF8]
    rfl
  have hload : load fullTree ⟨"wait.toml"⟩ = .ok { intervalSecs := 7 } := by
    have hconfig : ofToml "interval_secs = 7" = .ok { intervalSecs := 7 } := by cbv
    rw [load_of_readText hread, hconfig]
    rfl
  obtain ⟨hstays, -⟩ := save_fails_harmlessly hrefused
  obtain ⟨hadds, hloads⟩ := save_fails_harmlessly hslash
  exact ⟨hrefused, hslash, hstays, hadds, hload, hloads _ (isThere_of_readText hread)⟩

end ResourceWait.PollConfig
