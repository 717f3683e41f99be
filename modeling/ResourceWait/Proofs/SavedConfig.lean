import ResourceWait.Config.File
import ResourceWait.Proofs.Documents
import ResourceWait.Proofs.Ending
import ResourceWait.Proofs.PlainFields
import ResourceWait.Proofs.WrittenFile

/-!
# Saved configurations are loaded again

A configuration that makes sense is saved unless one of its numbers is beyond what TOML can write, and
loading it from where it was saved gives the same configuration, whatever its statuses are made of.

It goes through three layers, and each gives back what it was given: as a record it is a table of three
plain fields and two tables (`PollConfig.plainFields`, `PollConfig.tables`), as a document this is a text,
and as a file the text is bytes at a path.
-/

namespace ResourceWait

open Toml (IsScalar IsLeaf IsWord AreLeaves IsDocument)

namespace StatusDefaults

/-- The statuses of a service are plain fields. -/
theorem isPlain_fields : (Record.fields (R := StatusDefaults)).IsPlain :=
  .cons .text (by decide) <| .cons .texts (by decide) .nil

/-- The fields they are written as. -/
def plainFields (defaults : StatusDefaults) : List (String × Node) :=
  [("status", .text defaults.status), ("failures", .seq (defaults.failures.map .text))]

/-- They are plain, and their keys are words. -/
theorem areLeaves_plainFields (defaults : StatusDefaults) : AreLeaves defaults.plainFields where
  words := by
    have hstatus : IsWord "status" := ⟨by decide, by decide⟩
    have hfailures : IsWord "failures" := ⟨by decide, by decide⟩
    simp [plainFields, hstatus, hfailures]
  leaves := by
    have hfailures : ∀ item ∈ defaults.failures.map Node.text, IsScalar item := by
      simp only [List.forall_mem_map]
      exact fun s _ => .text s
    have hstatus : IsLeaf (.text defaults.status) := .scalar (.text _)
    simp [plainFields, hstatus, IsLeaf.list hfailures]
  distinct := by
    simp [plainFields]

/-- They can always be written. -/
theorem isSome_writeValue (defaults : StatusDefaults) :
    ∀ field ∈ defaults.plainFields, (Toml.writeValue field.2).isSome := by
  simp [plainFields, Toml.writeValue, Toml.writeValues_text]

end StatusDefaults

namespace PollConfig

/-- A configuration is read as it was written. -/
theorem isLawful_fields : (Record.fields (R := PollConfig)).IsLawful :=
  have hservice := Record.isLawful_codec StatusDefaults.isPlain_fields.isLawful
  .cons Codec.isExact_u64.isLawful (by decide) <| .cons Codec.isExact_u64.isLawful (by decide) <|
  .cons Codec.isExact_flag.isLawful (by decide) <| .cons hservice (by decide) <|
  .cons hservice (by decide) .nil

/-- The plain fields it is written as. -/
def plainFields (config : PollConfig) : List (String × Node) :=
  [("interval_secs", .int config.intervalSecs.toNat), ("timeout_secs", .int config.timeoutSecs.toNat),
    ("wait_forever", .flag config.waitForever)]

/-- The tables it is written as. -/
def tables (config : PollConfig) : List (String × List (String × Node)) :=
  [("block_storage", config.blockStorage.plainFields), ("compute", config.compute.plainFields)]

/-- It is a document. -/
theorem isDocument (config : PollConfig) : IsDocument config.plainFields config.tables where
  plainWords := by
    have hinterval : IsWord "interval_secs" := ⟨by decide, by decide⟩
    have htimeout : IsWord "timeout_secs" := ⟨by decide, by decide⟩
    have hforever : IsWord "wait_forever" := ⟨by decide, by decide⟩
    simp [plainFields, hinterval, htimeout, hforever]
  plainLeaves := by
    have hnumber (n : Nat) : IsLeaf (.int n) := .scalar (.number n)
    have hflag : IsLeaf (.flag config.waitForever) := .scalar (.flag _)
    simp [plainFields, hnumber, hflag]
  tableWords := by
    have hstorage : IsWord "block_storage" := ⟨by decide, by decide⟩
    have hcompute : IsWord "compute" := ⟨by decide, by decide⟩
    simp [tables, hstorage, hcompute]
  tableLeaves := by
    simp [tables, StatusDefaults.areLeaves_plainFields]
  distinct := by
    simp [plainFields, tables]

/-- As a record it has these fields and tables. -/
theorem writeTable_eq (config : PollConfig) :
    Record.fields.writeTable (Record.toTuple config)
      = config.plainFields ++ Toml.sections config.tables := rfl

/-- The text of a configuration is that of the document, if it has one. -/
theorem toToml_eq_elim :
    toToml = fun config =>
      (Toml.writeDocument (config.plainFields ++ Toml.sections config.tables)).elim
        (.error .unwritable) .ok := by
  delta toToml
  funext config
  rw [writeTable_eq]
  -- the document stays closed, since its numbers are compared with bounds that are far too great to
  -- be counted down
  generalize Toml.writeDocument (config.plainFields ++ Toml.sections config.tables) = written
  cases written <;> rfl

/-- A configuration has the text of the document. -/
theorem toToml_eq_ok_iff {config : PollConfig} {text : String} :
    config.toToml = .ok text
      ↔ Toml.writeDocument (config.plainFields ++ Toml.sections config.tables) = some text := by
  rw [congrFun toToml_eq_elim config]
  generalize Toml.writeDocument (config.plainFields ++ Toml.sections config.tables) = written
  cases written <;> simp

/-- **A configuration has a text if its numbers have less than 64 bits.** -/
theorem exists_toToml_iff (config : PollConfig) :
    (∃ text, config.toToml = .ok text)
      ↔ config.intervalSecs.toNat < 2 ^ 63 ∧ config.timeoutSecs.toNat < 2 ^ 63 := by
  have hflag : (Toml.writeValue (.flag config.waitForever)).isSome := rfl
  have htables : ∀ table ∈ config.tables, ∀ field ∈ table.2, (Toml.writeValue field.2).isSome := by
    simp only [tables, List.forall_mem_cons]
    exact ⟨config.blockStorage.isSome_writeValue, config.compute.isSome_writeValue,
      fun _ h => nomatch h⟩
  simp only [toToml_eq_ok_iff]
  rw [← Option.isSome_iff_exists, config.isDocument.isSome_writeDocument_iff]
  simp only [plainFields, List.forall_mem_cons, Toml.isSome_writeValue_natCast]
  constructor
  · rintro ⟨⟨hinterval, htimeout, -⟩, -⟩
    exact ⟨hinterval, htimeout⟩
  · rintro ⟨hinterval, htimeout⟩
    exact ⟨⟨hinterval, htimeout, hflag, fun _ h => nomatch h⟩, htables⟩

/-- **The text of a configuration holds the configuration.** -/
theorem ofToml_of_toToml {config : PollConfig} {text : String} (h : config.toToml = .ok text) :
    ofToml text = .ok config := by
  obtain ⟨table, hread, hnode⟩ := config.isDocument.read (toToml_eq_ok_iff.mp h)
  have hrecord : Record.read .ignored table.toNode = .ok config := by
    rw [hnode, ← writeTable_eq]
    exact Record.read_write isLawful_fields .ignored config
  rw [ofToml, hread]
  simp only [hrecord]

/-- A configuration that makes sense passes the check. -/
theorem check_of_validate {config : PollConfig} (h : config.validate = .ok ()) :
    config.check = .ok () := by
  rw [check, h]
  rfl

/-- **A configuration can be saved** if it makes sense and has a text. -/
theorem textToSave_eq_ok_iff {config : PollConfig} {text : String} :
    config.textToSave = .ok text ↔ config.validate = .ok () ∧ config.toToml = .ok text := by
  constructor
  · intro h
    rw [textToSave] at h
    obtain ⟨⟨⟩, hcheck, htext⟩ := bind_eq_ok_iff.mp h
    exact ⟨validate_of_check hcheck, htext⟩
  · rintro ⟨hvalidate, htext⟩
    rw [textToSave, check_of_validate hvalidate, htext]
    rfl

/-- Where nothing can be saved, saving fails. -/
theorem exists_textToSave {config : PollConfig} {tree : FileTree} {path : FilePath}
    (h : (config.save tree path).1 = .ok ()) : ∃ text, config.textToSave = .ok text := by
  rw [save] at h
  cases htext : config.textToSave with
  | error e =>
    rw [htext] at h
    cases h
  | ok text => exact ⟨text, rfl⟩

/-- What can be read is there. -/
theorem isThere_of_readText {tree : FileTree} {path : FilePath} {text : String}
    (h : tree.readText path = .ok text) : tree.isThere path = true := by
  obtain ⟨found, hfind, -⟩ := bind_eq_ok_iff.mp h
  rw [FileTree.isThere, hfind]
  rfl

/-- **A file is loaded as what its text holds**, if that makes sense. -/
theorem load_of_readText {tree : FileTree} {path : FilePath} {text : String}
    (h : tree.readText path = .ok text) :
    load tree path = do
      let config ← ofToml text
      config.check
      return config := by
  rw [load, if_pos (isThere_of_readText h), h]
  rfl

/-- **Where a file can be written**, what can be saved is saved and loaded again. -/
theorem save_of_textToSave {config : PollConfig} {tree : FileTree} {path : FilePath}
    (hpath : tree.IsWritable path) {text : String} (htext : config.textToSave = .ok text) :
    (config.save tree path).1 = .ok () ∧ load (config.save tree path).2 path = .ok config := by
  obtain ⟨written, hwrite, hread⟩ := hpath.exists_writeBelow text
  obtain ⟨hvalidate, htoml⟩ := textToSave_eq_ok_iff.mp htext
  have hsave : config.save tree path = (.ok (), written) := by
    rw [save, htext]
    simp only [hwrite]
    rfl
  rw [hsave]
  refine ⟨rfl, ?_⟩
  rw [load_of_readText hread, ofToml_of_toToml htoml]
  change (config.check.bind fun _ => _) = _
  rw [check_of_validate hvalidate]
  rfl

/-- **What was saved is loaded again.** A configuration is saved where a file can be written exactly if
it makes sense and its numbers are at most the greatest that TOML can write, and then loading it from
there gives the same configuration. -/
theorem save_then_load (config : PollConfig) {tree : FileTree} {path : FilePath}
    (hpath : tree.IsWritable path) :
    ((config.save tree path).1 = .ok () ↔ config.validate = .ok ()
        ∧ config.intervalSecs.toNat ≤ 2 ^ 63 - 1 ∧ config.timeoutSecs.toNat ≤ 2 ^ 63 - 1)
      ∧ ((config.save tree path).1 = .ok () →
        load (config.save tree path).2 path = .ok config) := by
  have hbound (n : Nat) : n ≤ 2 ^ 63 - 1 ↔ n < 2 ^ 63 := Nat.le_sub_one_iff_lt (by decide)
  rw [hbound, hbound, ← exists_toToml_iff]
  refine ⟨⟨fun hsave => ?_, ?_⟩, fun hsave => ?_⟩
  · obtain ⟨text, htext⟩ := exists_textToSave hsave
    obtain ⟨hvalidate, htoml⟩ := textToSave_eq_ok_iff.mp htext
    exact ⟨hvalidate, text, htoml⟩
  · rintro ⟨hvalidate, text, htoml⟩
    exact (save_of_textToSave hpath (textToSave_eq_ok_iff.mpr ⟨hvalidate, htoml⟩)).1
  · obtain ⟨text, htext⟩ := exists_textToSave hsave
    exact (save_of_textToSave hpath htext).2

/-- A file can be written below a directory that has to be made first. -/
theorem isWritable_missing : (FileTree.scratch "home").IsWritable ⟨"etc/wait.toml"⟩ := by
  have hdirectory : FileTree.checkPath ⟨"etc"⟩ = .ok () :=
    FileTree.checkPath_eq_ok (by simp [FilePath.hasNull]) (by decide) (by decide)
  have hfile : FileTree.checkPath ⟨"etc/wait.toml"⟩ = .ok () :=
    FileTree.checkPath_eq_ok (by simp [FilePath.hasNull]) (by decide) (by decide)
  have hparent : (FileTree.scratch "home").findParent ⟨"etc"⟩
      = .ok (["home"], some (.name "etc")) := by
    rw [FileTree.findParent, hdirectory]
    rfl
  have hmake : (FileTree.scratch "home").makeDirectory ⟨"etc"⟩
      = .ok ((FileTree.scratch "home").set ["home", "etc"] .directory) := by
    rw [FileTree.makeDirectory, hparent]
    rfl
  have haround : (FilePath.mk "etc/wait.toml").ancestors? = some [⟨"etc"⟩] := rfl
  have hmade : (FileTree.scratch "home").makeParents ⟨"etc/wait.toml"⟩
      = (.ok (), (FileTree.scratch "home").set ["home", "etc"] .directory) := by
    rw [FileTree.makeParents, haround]
    simp only [FileTree.createDirectories, hmake]
  have hleads : ((FileTree.scratch "home").set ["home", "etc"] .directory).LeadsToFile
      ⟨"etc/wait.toml"⟩ ["home", "etc"] "wait.toml" :=
    { valid := hfile, leads := FileTree.leads_of_walk rfl, directory := rfl, last := rfl,
      noSlash := rfl, short := by decide, vacant := by rintro ⟨⟩, allowed := rfl }
  refine ⟨by rw [hmade], .empty, ?_⟩
  rw [hmade]
  exact ⟨_, hleads.writeFile .empty⟩

/-- A configuration with the greatest number there can be and with statuses that need every kind of
quotes. -/
def awkward : PollConfig where
  timeoutSecs := 9223372036854775807
  blockStorage := ⟨"it's \"ready\"\\", ["", "gone\r\n", "'''\n\"\"\"", "\x07"]⟩
  compute := ⟨"\\o/", ["C:\\error"]⟩

/-- It is saved below a directory that has to be made first, and loaded from there. -/
theorem save_then_load_awkward :
    (FileTree.scratch "home").IsWritable ⟨"etc/wait.toml"⟩
      ∧ (awkward.save (.scratch "home") ⟨"etc/wait.toml"⟩).1 = .ok ()
      ∧ load (awkward.save (.scratch "home") ⟨"etc/wait.toml"⟩).2 ⟨"etc/wait.toml"⟩
        = .ok awkward := by
  obtain ⟨hiff, hload⟩ := save_then_load awkward isWritable_missing
  have hsave := hiff.mpr ⟨rfl, by decide, by decide⟩
  exact ⟨isWritable_missing, hsave, hload hsave⟩

end PollConfig

end ResourceWait
