import Mathlib.Data.List.Basic
import ResourceWait.Files.Tree

/-!
# What a path lies in

The directories that a path lies in are paths themselves, written anew from the steps of the first. They
are read again before anything is made of them, and reading gives back the steps they were written from
(`FilePath.steps_ofSteps`). So each of them is a beginning of the path, up to steps that stay where they
are (`FilePath.exists_of_mem_ancestors`).
-/

namespace ResourceWait

namespace FilePath

/-! ### Parts -/

/-- A text without a slash is one part. -/
theorem parts_of_not_mem {cs : List Char} (h : '/' ∉ cs) : parts cs = [cs] := by
  induction cs with
  | nil => rfl
  | cons c cs ih =>
    rw [List.mem_cons, not_or] at h
    rw [parts, ih h.2]
    exact fun heq => h.1 heq.symm

/-- A slash ends a part. -/
theorem parts_append_slash {cs : List Char} (h : '/' ∉ cs) (rest : List Char) :
    parts (cs ++ '/' :: rest) = cs :: parts rest := by
  induction cs with
  | nil => rfl
  | cons c cs ih =>
    rw [List.mem_cons, not_or] at h
    rw [List.cons_append, parts, ih h.2]
    exact fun heq => h.1 heq.symm

/-- There is no slash in a part. -/
theorem slash_not_mem_of_mem_parts {cs part : List Char} (h : part ∈ parts cs) : '/' ∉ part := by
  induction cs generalizing part with
  | nil =>
    obtain rfl := List.mem_singleton.mp h
    exact List.not_mem_nil
  | cons c cs ih =>
    by_cases hc : c = '/'
    · subst hc
      obtain rfl | h := List.mem_cons.mp h
      · exact List.not_mem_nil
      · exact ih h
    · rw [parts] at h
      · split at h
        · rename_i first others hparts
          rw [hparts] at ih
          obtain rfl | h := List.mem_cons.mp h
          · rw [List.mem_cons, not_or]
            exact ⟨Ne.symm hc, ih List.mem_cons_self⟩
          · exact ih (List.mem_cons_of_mem _ h)
        · obtain rfl := List.mem_singleton.mp h
          simpa using Ne.symm hc
      · exact hc

/-- **Parts with slashes in between** are the parts of the text they make up. -/
theorem parts_intercalate {written : List (List Char)} (hne : written ≠ [])
    (h : ∀ part ∈ written, '/' ∉ part) : parts (['/'].intercalate written) = written := by
  induction written with
  | nil => exact absurd rfl hne
  | cons part written ih =>
    obtain ⟨hpart, hothers⟩ := List.forall_mem_cons.mp h
    cases written with
    | nil => rw [List.intercalate_singleton, parts_of_not_mem hpart]
    | cons next written =>
      rw [List.intercalate_cons_cons, List.append_assoc, List.singleton_append,
        parts_append_slash hpart, ih (List.cons_ne_nil _ _) hothers]

/-! ### Steps -/

/-- **A step that can be written**: some part of a path stands for it. -/
def IsWritten (step : PathStep) : Prop := ∃ part, '/' ∉ part ∧ PathStep.ofPart? part = some step

/-- The part that stands for a step is the step as it is written, and not empty. -/
theorem eq_text_of_ofPart? {part : List Char} {step : PathStep}
    (h : PathStep.ofPart? part = some step) : step.text.toList = part ∧ part ≠ [] := by
  rw [PathStep.ofPart?] at h
  split at h
  · cases h
  · rename_i hempty
    refine ⟨?_, hempty⟩
    split at h
    · rename_i hhere
      cases h
      exact hhere.symm
    · split at h
      · rename_i hup
        cases h
        exact hup.symm
      · cases h
        exact String.toList_ofList

/-- A step that can be written stands in a part of its own. -/
theorem IsWritten.text {step : PathStep} (h : IsWritten step) :
    '/' ∉ step.text.toList ∧ PathStep.ofPart? step.text.toList = some step
      ∧ step.text.toList ≠ [] := by
  obtain ⟨part, hslash, hpart⟩ := h
  obtain ⟨heq, hne⟩ := eq_text_of_ofPart? hpart
  rw [heq]
  exact ⟨hslash, hpart, hne⟩

/-- The steps of a path were written. -/
theorem isWritten_of_mem_steps {path : FilePath} {step : PathStep} (h : step ∈ path.steps) :
    IsWritten step := by
  obtain ⟨part, hmem, hpart⟩ := List.mem_filterMap.mp h
  exact ⟨part, slash_not_mem_of_mem_parts hmem, hpart⟩

/-- The text of steps. -/
theorem toList_ofSteps (absolute : Bool) (steps : List PathStep) :
    (ofSteps absolute steps).text.toList
      = (if absolute then ['/'] else []) ++ ['/'].intercalate (steps.map fun step => step.text.toList) := by
  have hslash : "/".toList = ['/'] := rfl
  rw [ofSteps, String.toList_append, String.toList_intercalate, List.map_map, hslash]
  cases absolute <;> rfl

variable {steps : List PathStep}

/-- **Steps are read as they were written.** -/
theorem steps_ofSteps (absolute : Bool) (h : ∀ step ∈ steps, IsWritten step) :
    (ofSteps absolute steps).steps = steps := by
  have hparts : (parts (['/'].intercalate (steps.map fun step => step.text.toList))).filterMap
      PathStep.ofPart? = steps := by
    cases steps with
    | nil => rfl
    | cons first others =>
      rw [parts_intercalate (by simp) (by
        simp only [List.forall_mem_map]
        exact fun step hstep => (h step hstep).text.1)]
      rw [List.filterMap_map]
      exact (List.filterMap_congr fun step hstep => (h step hstep).text.2.1).trans
        List.filterMap_some
  rw [FilePath.steps, toList_ofSteps]
  cases absolute with
  | false => exact hparts
  | true => exact hparts

/-- A path written from steps begins at the root if it was said to. -/
theorem isAbsolute_ofSteps (absolute : Bool) (hne : steps ≠ [])
    (h : ∀ step ∈ steps, IsWritten step) : (ofSteps absolute steps).isAbsolute = absolute := by
  rw [isAbsolute, toList_ofSteps]
  cases absolute with
  | true => rfl
  | false =>
    obtain ⟨first, others, rfl⟩ := List.exists_cons_of_ne_nil hne
    obtain ⟨hslash, -, hempty⟩ := (h first List.mem_cons_self).text
    obtain ⟨c, rest, heq⟩ := List.exists_cons_of_ne_nil hempty
    have hc : c ≠ '/' := by
      rintro rfl
      exact hslash (heq ▸ List.mem_cons_self)
    have hhead : (['/'].intercalate ((first :: others).map fun step => step.text.toList)).head?
        = some c := by
      rw [List.map_cons, heq]
      cases others with
      | nil => rw [List.map_nil, List.intercalate_singleton, List.head?_cons]
      | cons next others => rw [List.map_cons, List.intercalate_cons_cons]; rfl
    have hplain : (if false = true then ['/'] else []) ++ ['/'].intercalate
        ((first :: others).map fun step => step.text.toList)
        = ['/'].intercalate ((first :: others).map fun step => step.text.toList) := rfl
    rw [hplain, hhead]
    simpa using hc

/-! ### Ancestors -/

/-- **The steps that count for the parent** are the steps without some that stay where they are. -/
theorem properSteps_eq_filter_or (path : FilePath) :
    path.properSteps = path.steps.filter (· != .here)
      ∨ ∃ rest, path.steps = .here :: rest
        ∧ path.properSteps = .here :: rest.filter (· != .here) := by
  rw [properSteps]
  split
  · rename_i rest _ hsteps
    exact .inr ⟨rest, hsteps, rfl⟩
  · exact .inl rfl

/-- They are steps of the path. -/
theorem mem_steps_of_mem_properSteps {path : FilePath} {step : PathStep}
    (h : step ∈ path.properSteps) : step ∈ path.steps := by
  obtain heq | ⟨rest, hsteps, heq⟩ := path.properSteps_eq_filter_or
  · rw [heq] at h
    exact List.mem_of_mem_filter h
  · rw [heq] at h
    rw [hsteps]
    obtain rfl | h := List.mem_cons.mp h
    · exact List.mem_cons_self
    · exact List.mem_cons_of_mem _ (List.mem_of_mem_filter h)

/-- **What a path lies in** begins where the path does, and its steps are a beginning of those that count. -/
theorem exists_of_mem_ancestors {path ancestor : FilePath} {around : List FilePath}
    (haround : path.ancestors? = some around) (hmem : ancestor ∈ around) :
    ancestor.isAbsolute = path.isAbsolute
      ∧ ∃ after, after ≠ [] ∧ path.properSteps = ancestor.steps ++ after := by
  rw [ancestors?] at haround
  split at haround
  · cases haround
  · rename_i hproper
    cases haround
    obtain ⟨dropped, hdropped, rfl⟩ := List.mem_map.mp hmem
    have hlt := List.mem_range.mp hdropped
    -- the steps left are some, but not all
    generalize hkept : path.properSteps.dropLast.take
      (path.properSteps.dropLast.length - dropped) = kept
    have hbegins : kept <+: path.properSteps :=
      hkept ▸ (List.take_prefix _ _).trans (List.dropLast_prefix _)
    have hwritten : ∀ step ∈ kept, IsWritten step := fun step hstep =>
      isWritten_of_mem_steps (mem_steps_of_mem_properSteps (hbegins.subset hstep))
    have hlength : kept.length = path.properSteps.dropLast.length - dropped := by
      rw [← hkept, List.length_take]
      omega
    have hne : kept ≠ [] := by
      rintro rfl
      rw [List.length_nil] at hlength
      omega
    obtain ⟨after, hafter⟩ := hbegins
    refine ⟨isAbsolute_ofSteps _ hne hwritten, after, ?_, ?_⟩
    · rintro rfl
      rw [List.append_nil] at hafter
      rw [← hafter, List.length_dropLast] at hlength hlt
      omega
    · rw [steps_ofSteps _ hwritten, hafter]

end FilePath

end ResourceWait
