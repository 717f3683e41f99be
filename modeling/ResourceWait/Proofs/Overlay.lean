import Mathlib
import ResourceWait.Proofs.ParsedToml
import ResourceWait.Proofs.SavedConfig

/-!
# A configuration lies over the usual one

A document says of a configuration what it wants to say, and the rest is as usual. That happens at two
levels, and not in the same way. A key of the configuration that is left out has its usual value, each on
its own (`Overlays`). But a service that is spoken about has nothing of its usual statuses left: its table
has to name the status, and failures that it does not list there are none (`StatusDefaults.StandsIn`).

`PollConfig.IsOverlay` says so of a table, and loading a file comes down to it
(`PollConfig.load_eq_ok_iff`).
-/

namespace ResourceWait

/-! ### Parsed tables -/

namespace Node

/-- In a parsed table a key has the value that stands there with it. -/
theorem IsParsed.lookup_eq_some_iff {table : List (String × Node)} (h : (Node.map table).IsParsed)
    {key : String} {node : Node} : table.lookup key = some node ↔ (key, node) ∈ table := by
  constructor
  · intro hlookup
    obtain ⟨before, after, rfl, -⟩ := List.lookup_eq_some_iff.mp hlookup
    exact List.mem_append_right before List.mem_cons_self
  · intro hmem
    rw [← Fields.lookup_map_some]
    exact Fields.lookup_of_mem (isParsed_map_iff.mp h).1 hmem

/-- What stands under a key of a parsed table is parsed. -/
theorem IsParsed.of_lookup {table : List (String × Node)} (h : (Node.map table).IsParsed) {key : String}
    {node : Node} (hlookup : table.lookup key = some node) : node.IsParsed :=
  (isParsed_map_iff.mp h).2 (key, node) (h.lookup_eq_some_iff.mp hlookup)

/-- A parsed table in another order is parsed. -/
theorem IsParsed.perm {table reordered : List (String × Node)} (h : (Node.map table).IsParsed)
    (hperm : reordered.Perm table) : (Node.map reordered).IsParsed := by
  obtain ⟨hdistinct, hvalues⟩ := isParsed_map_iff.mp h
  refine isParsed_map_iff.mpr ⟨((hperm.map Prod.fst).nodup_iff).mpr hdistinct, fun entry hentry => ?_⟩
  exact hvalues entry (hperm.mem_iff.mp hentry)

/-- A key has the same value in a parsed table of any order. -/
theorem IsParsed.lookup_eq_of_perm {table reordered : List (String × Node)} (h : (Node.map table).IsParsed)
    (hperm : reordered.Perm table) (key : String) : reordered.lookup key = table.lookup key := by
  refine Option.ext fun node => ?_
  rw [(h.perm hperm).lookup_eq_some_iff, h.lookup_eq_some_iff, hperm.mem_iff]

end Node

/-! ### Services -/

namespace StatusDefaults

/-- **The statuses that a table gives.** It has to name the status; failures that it does not list there
are none. -/
structure StandsIn (defaults : StatusDefaults) (table : List (String × Node)) : Prop where
  /-- The status is named. -/
  status : table.lookup "status" = some (.text defaults.status)
  /-- The failures are those listed, or none. -/
  failures : table.lookup "failures" = some (.seq (defaults.failures.map .text))
    ∨ table.lookup "failures" = none ∧ defaults.failures = []

/-- **The statuses that a list gives**: the status, and then the failures, which may be left out. -/
def StandsInRow (surplus : Surplus) (defaults : StatusDefaults) (items : List Node) : Prop :=
  items = [.text defaults.status] ∧ defaults.failures = []
    ∨ ∃ extra, items = .text defaults.status :: .seq (defaults.failures.map .text) :: extra
      ∧ (extra = [] ∨ surplus = .ignored)

/-- **The statuses that a value gives**, a table or a list. -/
def GivenBy (surplus : Surplus) (node : Node) (defaults : StatusDefaults) : Prop :=
  (∃ table, node = .map table ∧ defaults.StandsIn table)
    ∨ ∃ items, node = .seq items ∧ defaults.StandsInRow surplus items

variable {surplus : Surplus} {defaults : StatusDefaults}

/-- A parsed table is read as the statuses that it gives. -/
theorem read_map_eq_ok_iff_standsIn {table : List (String × Node)} (h : (Node.map table).IsParsed) :
    Record.read surplus (.map table) = .ok defaults ↔ defaults.StandsIn table := by
  have husual : some (Node.seq []) = some (Node.seq (defaults.failures.map .text))
      ↔ defaults.failures = [] := by simp [eq_comm]
  rw [Record.read_map_eq_ok_iff h, isPlain_fields.takes_iff]
  change (∀ entry ∈ [Entry.mk "status" (.text defaults.status) none,
    ⟨"failures", .seq (defaults.failures.map .text), some (.seq [])⟩], entry.StandsIn table) ↔ _
  simp only [List.forall_mem_cons, Entry.StandsIn, husual]
  constructor
  · rintro ⟨hstatus | ⟨-, hnone⟩, hfailures, -⟩
    · exact ⟨hstatus, hfailures⟩
    · cases hnone
  · rintro ⟨hstatus, hfailures⟩
    exact ⟨.inl hstatus, hfailures, List.forall_mem_nil _⟩

/-- A list is read as the statuses that it gives. -/
theorem read_seq_eq_ok_iff_standsInRow {items : List Node} :
    Record.read surplus (.seq items) = .ok defaults ↔ defaults.StandsInRow surplus items := by
  have htext (node : Node) : Codec.text.read surplus node = .ok defaults.status
      ↔ node = .text defaults.status := Codec.isExact_text surplus node _
  have htexts (node : Node) : Codec.texts.read surplus node = .ok defaults.failures
      ↔ node = .seq (defaults.failures.map .text) := Codec.isExact_text.list surplus node _
  rw [Record.read_seq_eq_ok_iff, StandsInRow]
  match items with
  | [] =>
    refine iff_of_false ?_ ?_
    · rintro ⟨left, ⟨hnone, -⟩, -⟩
      cases hnone
    · rintro (⟨heq, -⟩ | ⟨extra, heq, -⟩) <;> cases heq
  | [status] =>
    constructor
    · rintro ⟨left, ⟨hstatus, hfailures, -⟩, -⟩
      rw [(htext status).mp hstatus]
      exact .inl ⟨rfl, (Option.some.inj hfailures).symm⟩
    · rintro (⟨heq, hnone⟩ | ⟨extra, heq, -⟩)
      · cases heq
        exact ⟨[], ⟨(htext _).mpr rfl, congrArg some hnone.symm, rfl⟩, .inl rfl⟩
      · cases heq
  | status :: failures :: others =>
    constructor
    · rintro ⟨left, ⟨hstatus, hfailures, rfl⟩, hextra⟩
      rw [(htext status).mp hstatus, (htexts failures).mp hfailures]
      exact .inr ⟨others, rfl, hextra⟩
    · rintro (⟨heq, -⟩ | ⟨extra, heq, hextra⟩)
      · cases heq
      · cases heq
        exact ⟨others, ⟨(htext _).mpr rfl, (htexts _).mpr rfl, rfl⟩, hextra⟩

/-- A table gives the statuses that stand in it, -/
theorem givenBy_map_iff {table : List (String × Node)} :
    GivenBy surplus (.map table) defaults ↔ defaults.StandsIn table := by
  constructor
  · rintro (⟨other, heq, hstands⟩ | ⟨items, heq, -⟩)
    · obtain rfl := Node.map_injective heq
      exact hstands
    · cases heq
  · exact fun hstands => .inl ⟨table, rfl, hstands⟩

/-- and a list those that stand in it. -/
theorem givenBy_seq_iff {items : List Node} :
    GivenBy surplus (.seq items) defaults ↔ defaults.StandsInRow surplus items := by
  constructor
  · rintro (⟨table, heq, -⟩ | ⟨others, heq, hstands⟩)
    · cases heq
    · cases heq
      exact hstands
  · exact fun hstands => .inr ⟨items, rfl, hstands⟩

/-- **A parsed value is read as the statuses that it gives.** -/
theorem read_eq_ok_iff_givenBy {node : Node} (h : node.IsParsed) :
    Record.read surplus node = .ok defaults ↔ GivenBy surplus node defaults := by
  cases h with
  | map hdistinct hvalues =>
    rw [read_map_eq_ok_iff_standsIn (.map hdistinct hvalues), givenBy_map_iff]
  | seq hitems => rw [read_seq_eq_ok_iff_standsInRow, givenBy_seq_iff]
  | _ =>
    refine iff_of_false ?_ ?_
    · intro hread
      cases hread
    · rintro (⟨_, heq, -⟩ | ⟨_, heq, -⟩) <;> cases heq

end StatusDefaults

/-! ### Configurations -/

section Overlays

variable {α : Type} {table other : List (String × Node)} {key : String} {Gives : Node → α → Prop}
  {usual value : α}

/-- **A value over the usual one**: where the key is present, what stands there gives the value, and
otherwise it is the usual one. -/
def Overlays (table : List (String × Node)) (key : String) (Gives : Node → α → Prop)
    (usual value : α) : Prop :=
  match table.lookup key with
  | some node => Gives node value
  | none => value = usual

/-- **A key that fits**: where it is present, what stands there gives some value. -/
def Fits (table : List (String × Node)) (key : String) (Gives : Node → α → Prop) : Prop :=
  ∀ node, table.lookup key = some node → ∃ value, Gives node value

/-- There is a value over the usual one if the key fits. -/
theorem exists_overlays_iff : (∃ value, Overlays table key Gives usual value) ↔ Fits table key Gives := by
  unfold Overlays Fits
  cases table.lookup key with
  | none => simp
  | some node => simp

/-- Nothing but the value under the key matters. -/
theorem Overlays.congr (h : other.lookup key = table.lookup key)
    (hvalue : Overlays other key Gives usual value) : Overlays table key Gives usual value := by
  rwa [Overlays, ← h]

/-- The value that is read of a field with a usual value is the one over it. -/
theorem taken_iff_overlays {codec : Codec α} {surplus : Surplus}
    (h : ∀ node, table.lookup key = some node → (codec.read surplus node = .ok value ↔ Gives node value)) :
    (match table.lookup key with
      | some node => codec.read surplus node = .ok value
      | none => some usual = some value)
      ↔ Overlays table key Gives usual value := by
  unfold Overlays
  cases hlookup : table.lookup key with
  | none => simp [eq_comm]
  | some node => exact h node hlookup

end Overlays

/-- An integer gives a number of 64 bits. -/
def Node.GivesNumber (node : Node) (n : UInt64) : Prop := node = .int n.toNat

/-- A truth value gives itself. -/
def Node.GivesFlag (node : Node) (b : Bool) : Prop := node = .flag b

namespace PollConfig

/-- **A configuration over the usual one**: each field has the value under its key, and where the key is
absent its usual value. -/
structure OverlaidBy (surplus : Surplus) (table : List (String × Node)) (config : PollConfig) : Prop where
  /-- The pause. -/
  intervalSecs : Overlays table "interval_secs" Node.GivesNumber ({} : PollConfig).intervalSecs
    config.intervalSecs
  /-- The budget. -/
  timeoutSecs : Overlays table "timeout_secs" Node.GivesNumber ({} : PollConfig).timeoutSecs
    config.timeoutSecs
  /-- Whether there is no budget. -/
  waitForever : Overlays table "wait_forever" Node.GivesFlag ({} : PollConfig).waitForever
    config.waitForever
  /-- The statuses of block storage. -/
  blockStorage : Overlays table "block_storage" (StatusDefaults.GivenBy surplus)
    ({} : PollConfig).blockStorage config.blockStorage
  /-- The statuses of compute. -/
  compute : Overlays table "compute" (StatusDefaults.GivenBy surplus) ({} : PollConfig).compute
    config.compute

/-- **A table in which every known key that is present has a value of the right type and range.** -/
structure IsWellTyped (surplus : Surplus) (table : List (String × Node)) : Prop where
  /-- The pause is a number. -/
  intervalSecs : Fits table "interval_secs" Node.GivesNumber
  /-- The budget is a number. -/
  timeoutSecs : Fits table "timeout_secs" Node.GivesNumber
  /-- Whether there is no budget is a truth value. -/
  waitForever : Fits table "wait_forever" Node.GivesFlag
  /-- The statuses of block storage are given. -/
  blockStorage : Fits table "block_storage" (StatusDefaults.GivenBy surplus)
  /-- The statuses of compute are given. -/
  compute : Fits table "compute" (StatusDefaults.GivenBy surplus)

/-- The keys that a configuration knows. -/
def knownKeys : List String :=
  ["interval_secs", "timeout_secs", "wait_forever", "block_storage", "compute"]

/-- The statuses of the services under their keys. -/
def services (config : PollConfig) : List (String × StatusDefaults) :=
  [("block_storage", config.blockStorage), ("compute", config.compute)]

variable {surplus : Surplus} {table other : List (String × Node)} {config : PollConfig}

/-- **A parsed table is read as the configuration that lies over the usual one.** -/
theorem read_eq_ok_iff_overlaidBy (h : (Node.map table).IsParsed) :
    Record.read surplus (.map table) = .ok config ↔ config.OverlaidBy surplus table := by
  have hnumber (node : Node) (n : UInt64) : Codec.u64.read surplus node = .ok n ↔ node.GivesNumber n :=
    Codec.isExact_u64 surplus node n
  have hflag (node : Node) (b : Bool) : Codec.flag.read surplus node = .ok b ↔ node.GivesFlag b :=
    Codec.isExact_flag surplus node b
  have hservice (key : String) (defaults : StatusDefaults) (node : Node)
      (hlookup : table.lookup key = some node) :
      (Record.codec StatusDefaults).read surplus node = .ok defaults
        ↔ StatusDefaults.GivenBy surplus node defaults :=
    StatusDefaults.read_eq_ok_iff_givenBy (h.of_lookup hlookup)
  rw [Record.read_map_eq_ok_iff h]
  constructor
  · rintro ⟨hinterval, htimeout, hforever, hstorage, hcompute, -⟩
    exact
      { intervalSecs := (taken_iff_overlays fun node _ => hnumber node _).mp hinterval
        timeoutSecs := (taken_iff_overlays fun node _ => hnumber node _).mp htimeout
        waitForever := (taken_iff_overlays fun node _ => hflag node _).mp hforever
        blockStorage := (taken_iff_overlays (hservice _ _)).mp hstorage
        compute := (taken_iff_overlays (hservice _ _)).mp hcompute }
  · intro hoverlaid
    exact
      ⟨(taken_iff_overlays fun node _ => hnumber node _).mpr hoverlaid.intervalSecs,
        (taken_iff_overlays fun node _ => hnumber node _).mpr hoverlaid.timeoutSecs,
        (taken_iff_overlays fun node _ => hflag node _).mpr hoverlaid.waitForever,
        (taken_iff_overlays (hservice _ _)).mpr hoverlaid.blockStorage,
        (taken_iff_overlays (hservice _ _)).mpr hoverlaid.compute, trivial⟩

/-- **Some configuration lies over the usual one** if all known keys fit. -/
theorem exists_overlaidBy_iff :
    (∃ config : PollConfig, config.OverlaidBy surplus table) ↔ IsWellTyped surplus table := by
  constructor
  · rintro ⟨config, h⟩
    exact
      { intervalSecs := exists_overlays_iff.mp ⟨_, h.intervalSecs⟩
        timeoutSecs := exists_overlays_iff.mp ⟨_, h.timeoutSecs⟩
        waitForever := exists_overlays_iff.mp ⟨_, h.waitForever⟩
        blockStorage := exists_overlays_iff.mp ⟨_, h.blockStorage⟩
        compute := exists_overlays_iff.mp ⟨_, h.compute⟩ }
  · intro h
    obtain ⟨intervalSecs, hinterval⟩ := exists_overlays_iff.mpr h.intervalSecs
    obtain ⟨timeoutSecs, htimeout⟩ := exists_overlays_iff.mpr h.timeoutSecs
    obtain ⟨waitForever, hforever⟩ := exists_overlays_iff.mpr h.waitForever
    obtain ⟨blockStorage, hstorage⟩ := exists_overlays_iff.mpr h.blockStorage
    obtain ⟨compute, hcompute⟩ := exists_overlays_iff.mpr h.compute
    exact ⟨⟨intervalSecs, timeoutSecs, waitForever, blockStorage, compute⟩,
      ⟨hinterval, htimeout, hforever, hstorage, hcompute⟩⟩

/-- **Nothing but the values under the known keys matters.** -/
theorem OverlaidBy.congr (h : ∀ key ∈ knownKeys, other.lookup key = table.lookup key)
    (hoverlaid : config.OverlaidBy surplus other) : config.OverlaidBy surplus table := by
  simp only [knownKeys, List.forall_mem_cons] at h
  obtain ⟨hinterval, htimeout, hforever, hstorage, hcompute, -⟩ := h
  exact
    { intervalSecs := hoverlaid.intervalSecs.congr hinterval
      timeoutSecs := hoverlaid.timeoutSecs.congr htimeout
      waitForever := hoverlaid.waitForever.congr hforever
      blockStorage := hoverlaid.blockStorage.congr hstorage
      compute := hoverlaid.compute.congr hcompute }

/-- **A table given for a service gives all its statuses.** -/
theorem OverlaidBy.standsIn (h : config.OverlaidBy surplus table) {key : String}
    {defaults : StatusDefaults} (hservice : (key, defaults) ∈ config.services)
    {inner : List (String × Node)} (hlookup : table.lookup key = some (.map inner)) :
    defaults.StandsIn inner := by
  have hstorage := h.blockStorage
  have hcompute := h.compute
  rw [Overlays] at hstorage hcompute
  simp only [services, List.mem_cons, Prod.mk.injEq, List.not_mem_nil, or_false] at hservice
  obtain ⟨rfl, rfl⟩ | ⟨rfl, rfl⟩ := hservice
  · rw [hlookup] at hstorage
    exact StatusDefaults.givenBy_map_iff.mp hstorage
  · rw [hlookup] at hcompute
    exact StatusDefaults.givenBy_map_iff.mp hcompute

/-- **What a parsed table says of a configuration.** -/
structure IsOverlay (table : List (String × Node)) : Prop where
  /-- It is read if every known key that is present has a value of the right type and range. -/
  reads : ∀ surplus, (∃ config, Record.read surplus (.map table) = .ok (config : PollConfig))
    ↔ IsWellTyped surplus table
  /-- Then each field has the value under its key, or, where the key is absent, its usual value. -/
  fields : ∀ surplus (config : PollConfig),
    Record.read surplus (.map table) = .ok config ↔ config.OverlaidBy surplus table
  /-- Other keys do not matter: what has the same values under the known keys is read alike. -/
  alike : ∀ {other : List (String × Node)}, (Node.map other).IsParsed →
    (∀ key ∈ knownKeys, other.lookup key = table.lookup key) → ∀ surplus (config : PollConfig),
      Record.read surplus (.map other) = .ok config ↔ Record.read surplus (.map table) = .ok config
  /-- Nor does the order of the keys. -/
  reordered : ∀ {other : List (String × Node)}, other.Perm table → ∀ surplus (config : PollConfig),
    Record.read surplus (.map other) = .ok config ↔ Record.read surplus (.map table) = .ok config
  /-- A table that is given for a service replaces all its statuses. -/
  replaces : ∀ {surplus} {config : PollConfig} {key defaults inner},
    Record.read surplus (.map table) = .ok config → (key, defaults) ∈ config.services →
    table.lookup key = some (.map inner) → defaults.StandsIn inner
  /-- Without a status it is not read. -/
  statusless : ∀ {key inner}, key ∈ ["block_storage", "compute"] →
    table.lookup key = some (.map inner) → inner.lookup "status" = none →
    ∀ surplus (config : PollConfig), Record.read surplus (.map table) ≠ .ok config

/-- Every parsed table says of a configuration what it should. -/
theorem isOverlay (h : (Node.map table).IsParsed) : IsOverlay table where
  reads surplus := by simp only [read_eq_ok_iff_overlaidBy h, exists_overlaidBy_iff]
  fields surplus config := read_eq_ok_iff_overlaidBy h
  alike {other} hother hsame surplus config := by
    rw [read_eq_ok_iff_overlaidBy h, read_eq_ok_iff_overlaidBy hother]
    exact ⟨.congr hsame, .congr fun key hkey => (hsame key hkey).symm⟩
  reordered {other} hperm surplus config := by
    have hsame (key : String) := h.lookup_eq_of_perm hperm key
    rw [read_eq_ok_iff_overlaidBy h, read_eq_ok_iff_overlaidBy (h.perm hperm)]
    exact ⟨.congr fun key _ => hsame key, .congr fun key _ => (hsame key).symm⟩
  replaces hread hservice hlookup :=
    ((read_eq_ok_iff_overlaidBy h).mp hread).standsIn hservice hlookup
  statusless {key inner} hkey hlookup hnone surplus config hread := by
    have hservice : ∃ defaults, (key, defaults) ∈ config.services := by
      simp only [List.mem_cons, List.not_mem_nil, or_false] at hkey
      obtain rfl | rfl := hkey
      · exact ⟨config.blockStorage, List.mem_cons_self⟩
      · exact ⟨config.compute, List.mem_cons_of_mem _ List.mem_cons_self⟩
    obtain ⟨defaults, hmem⟩ := hservice
    have hstands := ((read_eq_ok_iff_overlaidBy h).mp hread).standsIn hmem hlookup
    have hstatus := hstands.status
    rw [hnone] at hstatus
    cases hstatus

/-! ### Files -/

/-- A text is read as what its document is read as. -/
theorem ofToml_eq_ok_iff {text : String} {document : Toml.Table}
    (h : Toml.read text = some document) :
    ofToml text = .ok config ↔ Record.read .ignored document.toNode = .ok config := by
  rw [ofToml, h]
  dsimp only
  split <;> simp_all

/-- A check succeeds if the configuration makes sense. -/
theorem check_eq_ok_iff : config.check = .ok () ↔ config.validate = .ok () :=
  ⟨validate_of_check, check_of_validate⟩

/-- **A file is loaded as what its document is read as**, if that makes sense. -/
theorem load_eq_ok_iff {tree : FileTree} {path : FilePath} {text : String} {document : Toml.Table}
    (htext : tree.readText path = .ok text) (hdocument : Toml.read text = some document) :
    load tree path = .ok config
      ↔ Record.read .ignored document.toNode = .ok config ∧ config.validate = .ok () := by
  rw [load_of_readText htext, ← ofToml_eq_ok_iff hdocument, ← check_eq_ok_iff]
  simp only [bind_eq_ok_iff]
  constructor
  · rintro ⟨read, hread, ⟨⟩, hcheck, heq⟩
    cases heq
    exact ⟨hread, hcheck⟩
  · rintro ⟨hread, hcheck⟩
    exact ⟨config, hread, (), hcheck, rfl⟩

/-- **A configuration lies over the usual one.** Every parsed table says of a configuration what it
should, whatever its keys are and in whatever order they come. The document of every TOML text is such a
table, and a file that holds the text is loaded as the configuration that lies over the usual one, exactly
if that makes sense. -/
theorem overlay :
    (∀ table, (Node.map table).IsParsed → IsOverlay table)
      ∧ ∀ {tree : FileTree} {path : FilePath} {text : String} {document : Toml.Table},
        tree.readText path = .ok text → Toml.read text = some document →
        document.toNode = .map document.entries ∧ (Node.map document.entries).IsParsed
          ∧ ∀ config, load tree path = .ok config
            ↔ config.OverlaidBy .ignored document.entries ∧ config.validate = .ok () := by
  refine ⟨fun table => isOverlay, fun {tree path text document} htext hdocument => ?_⟩
  have hparsed : (Node.map document.entries).IsParsed :=
    document.toNode_eq ▸ Toml.isParsed_of_read hdocument
  refine ⟨document.toNode_eq, hparsed, fun config => ?_⟩
  rw [load_eq_ok_iff htext hdocument, document.toNode_eq, read_eq_ok_iff_overlaidBy hparsed]

/-- A text with some of the keys. -/
def shortText : String :=
  "interval_secs = 5\n\n[compute]\nstatus = \"SHUTOFF\"\nfailures = [\"ERROR\", \"DELETED\"]\n"

/-- Its table. -/
def shortTable : List (String × Node) :=
  [("interval_secs", .int 5), ("compute", .map [("status", .text "SHUTOFF"),
    ("failures", .seq [.text "ERROR", .text "DELETED"])])]

/-- A file of that text. -/
def shortTree : FileTree :=
  (FileTree.scratch "home").set ["home", "wait.toml"] (.file shortText.toUTF8)

/-- What lies over the usual configuration there. -/
def shortConfig : PollConfig := { intervalSecs := 5, compute := ⟨"SHUTOFF", ["ERROR", "DELETED"]⟩ }

/-- That configuration is loaded, and it is read from the table in the other order too. -/
theorem overlay_short :
    shortTree.readText ⟨"wait.toml"⟩ = .ok shortText
      ∧ (Toml.read shortText).map Toml.Table.entries = some shortTable
      ∧ load shortTree ⟨"wait.toml"⟩ = .ok shortConfig
      ∧ (Node.map shortTable).IsParsed
      ∧ Record.read .ignored (.map shortTable.reverse) = .ok shortConfig := by
  have htext : shortTree.readText ⟨"wait.toml"⟩ = .ok shortText := by
    have hcheck : FileTree.checkPath ⟨"wait.toml"⟩ = .ok () :=
      FileTree.checkPath_eq_ok (by simp [FilePath.hasNull]) (by decide) (by decide)
    have hfind : shortTree.find ⟨"wait.toml"⟩
        = .ok (["home", "wait.toml"], .file shortText.toUTF8) := by
      rw [FileTree.find, hcheck]
      rfl
    rw [FileTree.readText, hfind]
    simp only [bind, Except.bind, FileTree.fromUTF8?_toUTF8]
    rfl
  have hentries : (Toml.read shortText).map Toml.Table.entries = some shortTable := by cbv
  obtain ⟨document, hdocument, hshort⟩ := Option.map_eq_some_iff.mp hentries
  have hoverlaid : shortConfig.OverlaidBy .ignored shortTable :=
    { intervalSecs := rfl
      timeoutSecs := rfl
      waitForever := rfl
      blockStorage := rfl
      compute := .inl ⟨_, rfl, rfl, .inl rfl⟩ }
  have hvalidate : shortConfig.validate = .ok () := rfl
  obtain ⟨-, hparsed, hload⟩ := overlay.2 htext hdocument
  rw [hshort] at hparsed hload
  have hlaw : IsOverlay shortTable := overlay.1 shortTable hparsed
  exact ⟨htext, hentries, (hload shortConfig).mpr ⟨hoverlaid, hvalidate⟩, hparsed,
    (hlaw.reordered shortTable.reverse_perm _ _).mpr ((hlaw.fields _ _).mpr hoverlaid)⟩

end PollConfig

end ResourceWait
