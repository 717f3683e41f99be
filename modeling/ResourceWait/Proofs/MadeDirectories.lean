import Mathlib.Data.List.Induction
import ResourceWait.Proofs.Paths
import ResourceWait.Proofs.WrittenFile

/-!
# Directories that are made on the way

Before a file is written the directories around it are made, and whether or not all of that works out,
nothing else happens to the tree: it only grows by directories (`FileTree.GrowsAlong`). Each of them is
where one of the paths leads that were to be made, and so, since these are written from the first steps
of the path to the file, a place that this path passes through (`FileTree.AddsParents`).

A tree that has grown leads every path that led somewhere to the same place, with the same entry in it.
-/

namespace ResourceWait.FileTree

variable {tree grown : FileTree} {path : FilePath} {paths : List FilePath}

/-! ### What a path leads to -/

/-- **A path leads to an entry** if it can lead somewhere, its steps lead to the place of the entry, and it
does not ask for a directory where there is a file. -/
theorem find_eq_ok_iff {place : Place} {entry : FileEntry} :
    tree.find path = .ok (place, entry) ↔ checkPath path = .ok ()
      ∧ tree.Leads (tree.origin path) path.steps place ∧ tree.entry? place = some entry
      ∧ (path.endsInSlash && !entry.isDirectory) = false := by
  constructor
  · intro h
    rw [find] at h
    cases hcheck : checkPath path with
    | error e =>
      rw [hcheck] at h
      cases h
    | ok valid =>
      cases hwalk : tree.walk (tree.origin path) path.steps with
      | error e =>
        rw [hcheck, hwalk] at h
        cases h
      | ok reached =>
        rw [hcheck, hwalk] at h
        simp only [bind, Except.bind, pure, Except.pure] at h
        split at h
        · cases h
        · rename_i hentry
          split at h
          · cases h
          · rename_i hslash
            obtain ⟨rfl, rfl⟩ := Prod.mk.inj (Except.ok.inj h)
            exact ⟨rfl, leads_of_walk hwalk, hentry, Bool.eq_false_iff.mpr hslash⟩
  · rintro ⟨hcheck, hleads, hentry, hslash⟩
    have hwalk := hleads.walk_append []
    rw [List.append_nil] at hwalk
    rw [find, hcheck, hwalk, walk]
    simp only [bind, Except.bind, hentry, hslash]
    rfl

/-- A name in a directory is one step further. -/
theorem Leads.concat_name {start place : Place} {steps : List PathStep}
    (h : tree.Leads start steps place) {name : String} (hdirectory : tree.entry? place = some .directory)
    (hshort : isTooLong name = false) (hthere : (tree.entry? (place ++ [name])).isSome) :
    tree.Leads start (steps ++ [.name name]) (place ++ [name]) := by
  induction h with
  | done place => exact .name hdirectory hshort hthere (.done _)
  | here hstart hrest ih => exact .here hstart (ih hdirectory hthere)
  | up hstart hrest ih => exact .up hstart (ih hdirectory hthere)
  | name hstart hname hnamed hrest ih => exact .name hstart hname hnamed (ih hdirectory hthere)

/-! ### Trees that grow by directories -/

/-- **A tree grows by directories**, each of them where one of some paths leads. -/
structure GrowsAlong (paths : List FilePath) (tree grown : FileTree) : Prop where
  /-- The working directory is the same. -/
  workingDirectory : grown.workingDirectory = tree.workingDirectory
  /-- The system refuses the same. -/
  refusals : grown.refusal? = tree.refusal?
  /-- What lay somewhere lies there still. -/
  kept : ∀ {place : Place} {entry : FileEntry}, tree.entry? place = some entry →
    grown.entry? place = some entry
  /-- What is new are directories where the paths lead. -/
  made : ∀ {place : Place}, tree.entry? place = none → grown.entry? place = none
    ∨ grown.entry? place = some .directory
      ∧ ∃ path ∈ paths, grown.Leads (grown.origin path) path.steps place

/-- Steps lead where they led before. -/
theorem GrowsAlong.leads (h : GrowsAlong paths tree grown) {start place : Place}
    {steps : List PathStep} (hleads : tree.Leads start steps place) :
    grown.Leads start steps place := by
  induction hleads with
  | done place => exact .done place
  | here hstart hrest ih => exact .here (h.kept hstart) ih
  | up hstart hrest ih => exact .up (h.kept hstart) ih
  | name hstart hshort hthere hrest ih =>
    obtain ⟨entry, hentry⟩ := Option.isSome_iff_exists.mp hthere
    exact .name (h.kept hstart) hshort (h.kept hentry ▸ rfl) ih

namespace GrowsAlong

/-- Steps start from where they started before. -/
theorem origin (h : GrowsAlong paths tree grown) (path : FilePath) :
    grown.origin path = tree.origin path := by
  rw [FileTree.origin, FileTree.origin, h.workingDirectory]

/-- **A path leads to what it led to before.** -/
theorem find (h : GrowsAlong paths tree grown) {found : Place × FileEntry}
    (hfind : tree.find path = .ok found) : grown.find path = .ok found := by
  obtain ⟨place, entry⟩ := found
  obtain ⟨hcheck, hleads, hentry, hslash⟩ := find_eq_ok_iff.mp hfind
  exact find_eq_ok_iff.mpr ⟨hcheck, h.origin path ▸ h.leads hleads, h.kept hentry, hslash⟩

/-- A tree that stays as it is has grown by nothing. -/
theorem refl (paths : List FilePath) (tree : FileTree) : GrowsAlong paths tree tree where
  workingDirectory := rfl
  refusals := rfl
  kept := id
  made := .inl

/-- A tree that grows and then grows again has grown. -/
theorem trans {more : FileTree} (h : GrowsAlong paths tree grown) (h' : GrowsAlong paths grown more) :
    GrowsAlong paths tree more where
  workingDirectory := h'.workingDirectory.trans h.workingDirectory
  refusals := h'.refusals.trans h.refusals
  kept hentry := h'.kept (h.kept hentry)
  made hnone := by
    obtain hnone | ⟨hdirectory, path, hmem, hleads⟩ := h.made hnone
    · exact h'.made hnone
    · exact .inr ⟨h'.kept hdirectory, path, hmem, h'.origin path ▸ h'.leads hleads⟩

/-- There may be more paths. -/
theorem mono {others : List FilePath} (h : GrowsAlong paths tree grown) (hsubset : paths ⊆ others) :
    GrowsAlong others tree grown where
  workingDirectory := h.workingDirectory
  refusals := h.refusals
  kept := h.kept
  made hnone := (h.made hnone).imp_right fun ⟨hdirectory, path, hmem, hleads⟩ =>
    ⟨hdirectory, path, hsubset hmem, hleads⟩

end GrowsAlong

/-- **Making a directory** adds it where nothing was, in a directory. -/
theorem exists_of_makeDirectory {made : FileTree} (h : tree.makeDirectory path = .ok made) :
    ∃ parent name, tree.Leads (tree.origin path) path.steps.dropLast parent
      ∧ tree.entry? parent = some .directory ∧ path.steps.getLast? = some (.name name)
      ∧ isTooLong name = false ∧ tree.entry? (parent ++ [name]) = none
      ∧ made = tree.set (parent ++ [name]) .directory := by
  rw [makeDirectory] at h
  cases hparent : tree.findParent path with
  | error e =>
    rw [hparent] at h
    cases h
  | ok found =>
    rw [hparent] at h
    simp only [bind, Except.bind, pure, Except.pure] at h
    split at h
    · rename_i parent name
      obtain ⟨-, hleads, hdirectory, hlast⟩ := of_findParent hparent
      split at h
      · cases h
      · rename_i hshort
        split at h
        · cases h
        · rename_i hnone
          obtain ⟨-, hset⟩ := trySet_eq_ok_iff.mp h
          exact ⟨parent, name, hleads, hdirectory, hlast, Bool.eq_false_iff.mpr hshort,
            by simpa using hnone, hset.symm⟩
    · cases h

/-- **So the tree grows by this directory.** -/
theorem growsAlong_of_makeDirectory {made : FileTree} (h : tree.makeDirectory path = .ok made) :
    GrowsAlong [path] tree made := by
  obtain ⟨parent, name, hleads, hdirectory, hlast, hshort, hnone, rfl⟩ := exists_of_makeDirectory h
  have hplace : parent ++ [name] ≠ [] := by simp
  have hself := entry?_set_self hplace tree .directory
  have hvacant : tree.entry? (parent ++ [name]) ≠ some .directory := by simp [hnone]
  refine ⟨rfl, rfl, ?_, ?_⟩
  · intro place entry hentry
    have hne : place ≠ parent ++ [name] := by
      rintro rfl
      rw [hnone] at hentry
      cases hentry
    rw [entry?_set_of_ne hne, hentry]
  · intro place hplace
    by_cases heq : place = parent ++ [name]
    · subst heq
      refine .inr ⟨hself, path, List.mem_singleton_self path, ?_⟩
      have hparent : FileTree.entry? (tree.set (parent ++ [name]) .directory) parent
          = some .directory := by
        rw [entry?_set_of_ne (by simp), hdirectory]
      obtain ⟨before, hsteps⟩ := List.getLast?_eq_some_iff.mp hlast
      rw [hsteps, List.dropLast_concat] at hleads
      rw [hsteps]
      exact (hleads.set hvacant .directory).concat_name hparent hshort (hself ▸ rfl)
    · exact .inl (by rw [entry?_set_of_ne heq, hplace])

/-- **However far making directories gets**, the tree grows along their paths. -/
theorem growsAlong_createDirectories (tree : FileTree) (paths : List FilePath) :
    GrowsAlong paths tree (tree.createDirectories paths).2 := by
  induction paths with
  | nil => exact .refl [] tree
  | cons path around ih =>
    have hfirst : ∀ {before made : FileTree}, before.makeDirectory path = .ok made →
        GrowsAlong (path :: around) before made := fun hmade =>
      (growsAlong_of_makeDirectory hmade).mono (by simp)
    have hthere : GrowsAlong (path :: around) tree (tree.createDirectories around).2 :=
      ih.mono (List.subset_cons_self path around)
    rw [createDirectories]
    split
    · rename_i hmade
      exact hfirst hmade
    · -- what is around it was missing
      split
      · rename_i hfailed
        rwa [hfailed] at hthere
      · rename_i hdone
        rw [hdone] at hthere
        split
        · rename_i hmade
          exact hthere.trans (hfirst hmade)
        · split <;> exact hthere
    · split <;> exact .refl _ tree

/-! ### On the way to a path -/

/-- **A path passes through a place** where some of its first steps lead, but not all. -/
def PassesThrough (tree : FileTree) (path : FilePath) (place : Place) : Prop :=
  ∃ before after, path.steps = before ++ after ∧ after ≠ []
    ∧ tree.Leads (tree.origin path) before place

/-- Steps that stay where they are may be put in between, where they stand in a longer row. -/
theorem Leads.exists_of_filter {start place : Place} {before after steps : List PathStep}
    (h : tree.Leads start before place) (hne : after ≠ [])
    (hsteps : steps.filter (· != .here) = before ++ after) :
    ∃ before' after', steps = before' ++ after' ∧ after' ≠ [] ∧ tree.Leads start before' place := by
  induction steps generalizing before start with
  | nil => simp [eq_comm, hne] at hsteps
  | cons step steps ih =>
    cases before with
    | nil =>
      cases h
      exact ⟨[], step :: steps, rfl, List.cons_ne_nil _ _, .done _⟩
    | cons first before =>
      by_cases hhere : step = .here
      · subst hhere
        obtain ⟨before', after', rfl, hne', hleads⟩ := ih h hsteps
        -- the next step starts from a directory, and so may this one
        have hstart : tree.entry? start = some .directory := by cases h <;> assumption
        exact ⟨.here :: before', after', rfl, hne', .here hstart hleads⟩
      · rw [List.filter_cons_of_pos (by simpa using hhere)] at hsteps
        obtain ⟨rfl, hothers⟩ := List.cons.inj hsteps
        cases h with
        | here hstart hrest => exact absurd rfl hhere
        | up hstart hrest =>
          obtain ⟨before', after', rfl, hne', hleads⟩ := ih hrest hothers
          exact ⟨.up :: before', after', rfl, hne', .up hstart hleads⟩
        | name hstart hshort hthere hrest =>
          obtain ⟨before', after', rfl, hne', hleads⟩ := ih hrest hothers
          exact ⟨.name _ :: before', after', rfl, hne', .name hstart hshort hthere hleads⟩

/-- **A path passes through where the paths lead that it lies in.** -/
theorem passesThrough_of_mem_ancestors {ancestor : FilePath} {around : List FilePath}
    (haround : path.ancestors? = some around) (hmem : ancestor ∈ around) {place : Place}
    (h : tree.Leads (tree.origin ancestor) ancestor.steps place) : tree.PassesThrough path place := by
  obtain ⟨habsolute, after, hne, hproper⟩ := FilePath.exists_of_mem_ancestors haround hmem
  have horigin : tree.origin ancestor = tree.origin path := by
    rw [FileTree.origin, FileTree.origin, habsolute]
  rw [horigin] at h
  obtain heq | ⟨rest, hsteps, heq⟩ := path.properSteps_eq_filter_or
  · exact h.exists_of_filter hne (heq ▸ hproper)
  · -- one dot at the beginning counts
    rw [heq] at hproper
    generalize ancestor.steps = before at h hproper
    rw [PassesThrough, hsteps]
    cases h with
    | done => exact ⟨[], _, rfl, List.cons_ne_nil _ _, .done _⟩
    | here hstart hrest =>
      obtain ⟨before', after', rfl, hne', hleads⟩ :=
        hrest.exists_of_filter hne (List.cons.inj hproper).2
      exact ⟨.here :: before', after', rfl, hne', .here hstart hleads⟩
    | up => cases hproper
    | name => cases hproper

/-- **A tree in which everything lies in a directory.** -/
def IsRooted (tree : FileTree) : Prop :=
  ∀ place name, (tree.entry? (place ++ [name])).isSome → tree.entry? place = some .directory

/-- There is nothing in what is not there. -/
theorem IsRooted.entry?_eq_none (h : tree.IsRooted) {place below : Place}
    (hnone : tree.entry? place = none) (hbelow : place <+: below) : tree.entry? below = none := by
  obtain ⟨names, rfl⟩ := hbelow
  induction names using List.reverseRecOn with
  | nil => rwa [List.append_nil]
  | append_singleton names name ih =>
    rw [← List.append_assoc]
    by_contra hsome
    have hdirectory := h _ _ (Option.isSome_iff_ne_none.mpr hsome)
    rw [ih] at hdirectory
    cases hdirectory

/-- **Only directories on the way to a path are added** to a tree. -/
structure AddsParents (tree : FileTree) (path : FilePath) (left : FileTree) : Prop where
  /-- The working directory is the same. -/
  workingDirectory : left.workingDirectory = tree.workingDirectory
  /-- The system refuses the same. -/
  refusals : left.refusal? = tree.refusal?
  /-- What lay somewhere lies there still: no file is removed, and no file has other bytes. -/
  kept : ∀ place entry, tree.entry? place = some entry → left.entry? place = some entry
  /-- Where something lies that did not, it is a directory that the path passes through. -/
  made : ∀ place entry, tree.entry? place = none → left.entry? place = some entry →
    entry = .directory ∧ left.PassesThrough path place
  /-- No file lies in such a directory, however deep. -/
  hollow : tree.IsRooted → ∀ place below bytes, tree.entry? place = none → place <+: below →
    left.entry? below ≠ some (.file bytes)

/-- Nothing need be added. -/
theorem AddsParents.refl (tree : FileTree) (path : FilePath) : tree.AddsParents path tree where
  workingDirectory := rfl
  refusals := rfl
  kept _ _ := id
  made place entry hnone hentry := by
    rw [hnone] at hentry
    cases hentry
  hollow hrooted place below bytes hnone hbelow hfile := by
    rw [hrooted.entry?_eq_none hnone hbelow] at hfile
    cases hfile

/-- **A tree that grows along what a path lies in** has only got directories on the way to it. -/
theorem GrowsAlong.addsParents {around : List FilePath} (h : GrowsAlong around tree grown)
    (haround : path.ancestors? = some around) : tree.AddsParents path grown where
  workingDirectory := h.workingDirectory
  refusals := h.refusals
  kept _ _ := h.kept
  made place entry hnone hentry := by
    obtain hstill | ⟨hdirectory, ancestor, hmem, hleads⟩ := h.made hnone
    · rw [hstill] at hentry
      cases hentry
    · rw [hdirectory] at hentry
      cases hentry
      exact ⟨rfl, passesThrough_of_mem_ancestors haround hmem hleads⟩
  hollow hrooted place below bytes hnone hbelow hfile := by
    obtain hstill | ⟨hdirectory, -⟩ := h.made (hrooted.entry?_eq_none hnone hbelow)
    · rw [hstill] at hfile
      cases hfile
    · rw [hdirectory] at hfile
      cases hfile

/-- **What a write leaves behind that fails**: the directories that it made on the way, and the paths lead
where they led. -/
theorem writeBelow_of_error {left : FileTree} {bytes : ByteArray} {cause : FileError}
    (h : tree.writeBelow path bytes = (.error cause, left)) :
    tree.AddsParents path left
      ∧ ∀ {other : FilePath} {found : Place × FileEntry}, tree.find other = .ok found →
        left.find other = .ok found := by
  have hleft : left = (tree.makeParents path).2 := by
    rw [writeBelow] at h
    split at h
    · rename_i hparents
      rw [hparents]
      exact (congrArg Prod.snd h).symm
    · rename_i hparents
      rw [hparents]
      split at h
      · exact (congrArg Prod.snd h).symm
      · cases h
  subst hleft
  rw [makeParents]
  split
  · exact ⟨.refl tree path, id⟩
  · rename_i around haround
    have hgrows := growsAlong_createDirectories tree around
    exact ⟨hgrows.addsParents haround, hgrows.find⟩

end ResourceWait.FileTree
