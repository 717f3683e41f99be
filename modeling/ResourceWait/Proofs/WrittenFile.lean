import ResourceWait.Files.Tree

/-!
# Files hold what was written

Where a path can be written at all, it can be written whatever the bytes are, and then the same path
leads to these bytes. `FileTree.LeadsToFile` is what writing finds out about a path before it writes: the
directory it goes to, and the name there.

Reading follows the same steps in the new tree. They only go through directories, and what was written is
not in the place of one, so they lead where they led before.
-/

namespace ResourceWait.FileTree

/-! ### Entries -/

/-- The entry that was put is found at its place. -/
theorem lookup_put_self (place : Place) (entry : FileEntry) (entries : List (Place × FileEntry)) :
    (put place entry entries).lookup place = some entry := by
  induction entries with
  | nil => simp [put]
  | cons first entries ih =>
    obtain ⟨p, e⟩ := first
    rw [put]
    split
    · rename_i heq
      rw [heq, List.lookup_cons_self]
    · rename_i hne
      rw [List.lookup_cons, beq_false_of_ne (Ne.symm hne), ih]

/-- Other places are as before. -/
theorem lookup_put_of_ne {place other : Place} (h : other ≠ place) (entry : FileEntry)
    (entries : List (Place × FileEntry)) :
    (put place entry entries).lookup other = entries.lookup other := by
  induction entries with
  | nil =>
    rw [put, List.lookup_cons, beq_false_of_ne h]
  | cons first entries ih =>
    obtain ⟨p, e⟩ := first
    rw [put]
    split
    · rename_i heq
      rw [List.lookup_cons, List.lookup_cons, heq, beq_false_of_ne h]
    · rw [List.lookup_cons, List.lookup_cons, ih]

/-- An entry lies where it was set. -/
theorem entry?_set_self {place : Place} (h : place ≠ []) (tree : FileTree) (entry : FileEntry) :
    FileTree.entry? (tree.set place entry) place = some entry := by
  rw [FileTree.entry?, if_neg h]
  exact lookup_put_self place entry tree.entries

/-- Nothing else changes where one is set. -/
theorem entry?_set_of_ne {place other : Place} (h : other ≠ place) (tree : FileTree)
    (entry : FileEntry) : FileTree.entry? (tree.set place entry) other = tree.entry? other := by
  rw [FileTree.entry?, FileTree.entry?]
  split
  · rfl
  · exact lookup_put_of_ne h entry tree.entries

/-- **An entry is set where the system does not refuse.** -/
theorem trySet_eq_ok_iff {tree left : FileTree} {place : Place} {entry : FileEntry} :
    tree.trySet place entry = .ok left ↔ tree.refusal? place = none ∧ tree.set place entry = left := by
  unfold trySet
  cases tree.refusal? place with
  | none => simp
  | some cause => simp

/-! ### Steps -/

/-- **Where steps lead**, each of them from a directory. -/
inductive Leads (tree : FileTree) : Place → List PathStep → Place → Prop
  /-- No step is left. -/
  | done (place : Place) : Leads tree place [] place
  /-- A step stays. -/
  | here {start place : Place} {rest : List PathStep} (hstart : tree.entry? start = some .directory)
      (hrest : Leads tree start rest place) : Leads tree start (.here :: rest) place
  /-- A step goes up. -/
  | up {start place : Place} {rest : List PathStep} (hstart : tree.entry? start = some .directory)
      (hrest : Leads tree start.dropLast rest place) : Leads tree start (.up :: rest) place
  /-- A step goes to a name that is there. -/
  | name {start place : Place} {rest : List PathStep} {n : String}
      (hstart : tree.entry? start = some .directory) (hshort : isTooLong n = false)
      (hthere : (tree.entry? (start ++ [n])).isSome) (hrest : Leads tree (start ++ [n]) rest place) :
      Leads tree start (.name n :: rest) place

/-- Steps that were followed lead there. -/
theorem leads_of_walk {tree : FileTree} {start place : Place} {steps : List PathStep}
    (h : tree.walk start steps = .ok place) : tree.Leads start steps place := by
  induction steps generalizing start with
  | nil =>
    cases h
    exact .done place
  | cons step rest ih =>
    rw [walk.eq_def] at h
    dsimp only at h
    split at h
    · cases h
    · cases h
    · rename_i hstart
      cases step with
      | here => exact .here hstart (ih h)
      | up => exact .up hstart (ih h)
      | name n =>
        dsimp only at h
        split at h
        · cases h
        · rename_i hshort
          split at h
          · cases h
          · rename_i hthere
            exact .name hstart (Bool.eq_false_iff.mpr hshort) (by simpa [Option.isSome_iff_ne_none] using hthere)
              (ih h)

/-- Where steps lead, they can be followed to, and then go on from there. -/
theorem Leads.walk_append {tree : FileTree} {start place : Place} {steps : List PathStep}
    (h : tree.Leads start steps place) (more : List PathStep) :
    tree.walk start (steps ++ more) = tree.walk place more := by
  induction h with
  | done place => rfl
  | here hstart hrest ih => rw [List.cons_append, walk, hstart, ← ih]
  | up hstart hrest ih => rw [List.cons_append, walk, hstart, ← ih]
  | name hstart hshort hthere hrest ih =>
    rw [List.cons_append, walk, hstart, ← ih]
    simp [hshort, Option.isSome_iff_ne_none.mp hthere]

/-- **Steps lead where they led before**, if what is set was no directory. -/
theorem Leads.set {tree : FileTree} {start place : Place} {steps : List PathStep}
    (h : tree.Leads start steps place) {target : Place}
    (htarget : tree.entry? target ≠ some .directory) (entry : FileEntry) :
    (tree.set target entry).Leads start steps place := by
  have hkept : ∀ {other : Place}, tree.entry? other = some .directory →
      FileTree.entry? (tree.set target entry) other = some .directory := by
    intro other hother
    have hne : other ≠ target := by
      rintro rfl
      exact htarget hother
    rw [entry?_set_of_ne hne, hother]
  have hnonempty : target ≠ [] := by
    rintro rfl
    exact htarget rfl
  induction h with
  | done place => exact .done place
  | here hstart hrest ih => exact .here (hkept hstart) ih
  | up hstart hrest ih => exact .up (hkept hstart) ih
  | @name start place rest n hstart hshort hthere hrest ih =>
    refine .name (hkept hstart) hshort ?_ ih
    -- the name may be the one that is set: then something is there all the more
    by_cases heq : start ++ [n] = target
    · rw [heq, entry?_set_self hnonempty]
      rfl
    · rwa [entry?_set_of_ne heq]

/-! ### Writing and reading -/

/-- A path without the null character can lead somewhere if it is neither empty nor too long. -/
theorem checkPath_eq_ok {path : FilePath} (hnull : path.hasNull = false) (hpos : 0 < path.size)
    (hsize : path.size < 4096) : checkPath path = .ok () := by
  rw [checkPath, hnull, if_neg Bool.false_ne_true, if_neg (Nat.ne_of_gt hpos),
    if_neg (Nat.not_le_of_lt hsize)]

/-- **What writing finds out about a path**: it leads through directories to one more, and ends in a
name under which a file can lie and may be written there. -/
structure LeadsToFile (tree : FileTree) (path : FilePath) (parent : Place) (name : String) : Prop where
  /-- The path can lead somewhere. -/
  valid : checkPath path = .ok ()
  /-- Its steps but the last lead to a place. -/
  leads : tree.Leads (tree.origin path) path.steps.dropLast parent
  /-- A directory is there. -/
  directory : tree.entry? parent = some .directory
  /-- The last step is a name. -/
  last : path.steps.getLast? = some (.name name)
  /-- No slash comes behind it. -/
  noSlash : path.endsInSlash = false
  /-- It is short enough. -/
  short : isTooLong name = false
  /-- No directory has this name. -/
  vacant : tree.entry? (parent ++ [name]) ≠ some .directory
  /-- The system does not refuse to write there. -/
  allowed : tree.refusal? (parent ++ [name]) = none

/-- Where the last step starts from, and that it is a name, was found out step by step. -/
theorem of_findParent {tree : FileTree} {path : FilePath} {parent : Place} {name : String}
    (h : tree.findParent path = .ok (parent, some (.name name))) :
    checkPath path = .ok () ∧ tree.Leads (tree.origin path) path.steps.dropLast parent
      ∧ tree.entry? parent = some .directory ∧ path.steps.getLast? = some (.name name) := by
  rw [findParent] at h
  cases hcheck : checkPath path with
  | error e =>
    rw [hcheck] at h
    cases h
  | ok valid =>
    cases hwalk : tree.walk (tree.origin path) path.steps.dropLast with
    | error e =>
      rw [hcheck, hwalk] at h
      cases h
    | ok place =>
      rw [hcheck, hwalk] at h
      simp only [bind, Except.bind, pure, Except.pure] at h
      split at h
      · cases h
      · rename_i hdirectory hlast
        obtain ⟨rfl, hstep⟩ := Prod.mk.inj (Except.ok.inj h)
        exact ⟨rfl, leads_of_walk hwalk, hdirectory, hstep⟩
      · cases h
      · cases h

/-- **Writing a file** succeeds only along a path that leads to one, and sets it there. -/
theorem exists_of_writeFile {tree written : FileTree} {path : FilePath} {bytes : ByteArray}
    (h : tree.writeFile path bytes = .ok written) :
    ∃ parent name, tree.LeadsToFile path parent name
      ∧ written = tree.set (parent ++ [name]) (.file bytes) := by
  rw [writeFile] at h
  cases hparent : tree.findParent path with
  | error e =>
    rw [hparent] at h
    cases h
  | ok found =>
    rw [hparent] at h
    simp only [bind, Except.bind, pure, Except.pure] at h
    split at h
    · rename_i parent name
      obtain ⟨hvalid, hleads, hdirectory, hlast⟩ := of_findParent hparent
      split at h
      · cases h
      · rename_i hslash
        split at h
        · cases h
        · rename_i hshort
          split at h
          · cases h
          · rename_i hvacant
            obtain ⟨hallowed, hset⟩ := trySet_eq_ok_iff.mp h
            exact ⟨parent, name, ⟨hvalid, hleads, hdirectory, hlast,
              Bool.eq_false_iff.mpr hslash, Bool.eq_false_iff.mpr hshort, hvacant, hallowed⟩,
              hset.symm⟩
    · cases h

namespace LeadsToFile

variable {tree : FileTree} {path : FilePath} {parent : Place} {name : String}

/-- The directory and the name are found. -/
theorem findParent (h : tree.LeadsToFile path parent name) :
    tree.findParent path = .ok (parent, some (.name name)) := by
  have hwalk := h.leads.walk_append []
  rw [List.append_nil] at hwalk
  rw [FileTree.findParent, h.valid, hwalk, walk]
  simp only [bind, Except.bind, h.directory, h.last]
  rfl

/-- Any bytes can be written there. -/
theorem writeFile (h : tree.LeadsToFile path parent name) (bytes : ByteArray) :
    tree.writeFile path bytes = .ok (tree.set (parent ++ [name]) (.file bytes)) := by
  rw [FileTree.writeFile, h.findParent]
  simp only [bind, Except.bind, h.noSlash, h.short, Bool.false_eq_true, if_false]
  split
  · rename_i hdirectory
    exact absurd hdirectory h.vacant
  · exact trySet_eq_ok_iff.mpr ⟨h.allowed, rfl⟩

/-- **The path leads to the file that was written.** -/
theorem find (h : tree.LeadsToFile path parent name) (bytes : ByteArray) :
    (tree.set (parent ++ [name]) (.file bytes)).find path
      = .ok (parent ++ [name], .file bytes) := by
  obtain ⟨before, hsteps⟩ := List.getLast?_eq_some_iff.mp h.last
  have hleads := h.leads.set h.vacant (.file bytes)
  rw [hsteps, List.dropLast_concat] at hleads
  have hfile := entry?_set_self (List.append_ne_nil_of_right_ne_nil parent (List.cons_ne_nil name []))
    tree (.file bytes)
  have hparent : FileTree.entry? (tree.set (parent ++ [name]) (.file bytes)) parent
      = some .directory := by
    rw [entry?_set_of_ne (by simp), h.directory]
  have hwalk : (tree.set (parent ++ [name]) (.file bytes)).walk (tree.origin path) path.steps
      = .ok (parent ++ [name]) := by
    rw [hsteps, hleads.walk_append, walk, hparent]
    simp [h.short, hfile, walk]
  have horigin : (tree.set (parent ++ [name]) (.file bytes)).origin path = tree.origin path := rfl
  rw [FileTree.find, h.valid, horigin, hwalk]
  simp [bind, Except.bind, hfile, h.noSlash, pure, Except.pure]

end LeadsToFile

/-- Text is what its bytes say. -/
theorem fromUTF8?_toUTF8 (text : String) : String.fromUTF8? text.toUTF8 = some text :=
  dif_pos text.isValidUTF8

/-- **A path that can be written**: the directories around it are there or can be made, and then some
file can be written there. -/
structure IsWritable (tree : FileTree) (path : FilePath) : Prop where
  /-- Its parents are there or can be made. -/
  parents : (tree.makeParents path).1 = .ok ()
  /-- A file can be written. -/
  file : ∃ bytes written, (tree.makeParents path).2.writeFile path bytes = .ok written

/-- **A text that is written is there, and is read back.** -/
theorem IsWritable.exists_writeBelow {tree : FileTree} {path : FilePath} (h : tree.IsWritable path)
    (text : String) :
    ∃ written, tree.writeBelow path text.toUTF8 = (.ok (), written)
      ∧ written.readText path = .ok text := by
  obtain ⟨bytes, other, hother⟩ := h.file
  obtain ⟨parent, name, hleads, -⟩ := exists_of_writeFile hother
  have hfind := hleads.find text.toUTF8
  refine ⟨(tree.makeParents path).2.set (parent ++ [name]) (.file text.toUTF8), ?_, ?_⟩
  · rw [writeBelow, ← Prod.eta (tree.makeParents path), h.parents]
    simp only [hleads.writeFile]
  · rw [readText, hfind]
    simp only [bind, Except.bind, fromUTF8?_toUTF8]
    rfl

end ResourceWait.FileTree
