import ResourceWait.Proofs.PlainFields

/-!
# The spellings of a resource

A document may give one and the same resource in many ways: as a table with its keys in any order and
with others among them, or as a list, and with or without the fields that have their usual values. All
of these are read as the same resource, and nothing else is read as it.

A table that leaves out a field which has no usual value, or that gives a field a value that no resource
of the kind can have there, is not read at all.

What the fields of a resource are called, and which of them may be left out, is written down here once
more, in a list of entries for each kind.
-/

namespace ResourceWait

namespace Record

variable {R : Type} [Record R] {entries : R → List Entry}

/-- **All spellings of the records of a kind are read alike**, and nothing else is read. `entries` says
what the fields of a record are. -/
structure ReadsSpellings (entries : R → List Entry) : Prop where
  /-- A parsed table is read as a record exactly if every entry of the record stands in it, or is left out
  and has its usual value. -/
  table : ∀ {surplus : Surplus} {table : List (String × Node)} {record : R},
    (Node.map table).IsParsed →
      (read surplus (.map table) = .ok record ↔ ∀ entry ∈ entries record, entry.StandsIn table)
  /-- A list of which every value counts is read as a record exactly if it holds the first entries of the
  record in a row, and those dropped behind them have their usual values. -/
  row : ∀ {surplus : Surplus} {items : List Node} {record : R}, surplus ≠ .ignored →
    (read surplus (.seq items) = .ok record ↔ ∃ given dropped, entries record = given ++ dropped
      ∧ items = given.map Entry.node ∧ ∀ entry ∈ dropped, entry.usual = some entry.node)
  /-- A table that leaves out a field without a usual value is not read. -/
  missing : ∀ {surplus : Surplus} {table : List (String × Node)} {name : String},
    (∀ record : R, ∃ entry ∈ entries record, entry.name = name ∧ entry.usual = none) →
    table.lookup name = none → ∀ record : R, read surplus (.map table) ≠ .ok record
  /-- A table that gives a field a value that no record has there is not read. -/
  misfit : ∀ {surplus : Surplus} {table : List (String × Node)} {name : String} {node : Node},
    (∀ record : R, ∃ entry ∈ entries record, entry.name = name ∧ entry.node ≠ node) →
    table.lookup name = some node → ∀ record : R, read surplus (.map table) ≠ .ok record

/-- **Records of plain fields are read from all their spellings.** -/
theorem readsSpellings_of_isPlain (h : (fields (R := R)).IsPlain)
    (hentries : ∀ record : R, entries record = (fields (R := R)).entries (toTuple record)) :
    ReadsSpellings entries where
  table {surplus table record} hparsed := by
    rw [hentries, read_map_eq_ok_iff hparsed, h.takes_iff]
  row {surplus items record} hsurplus := by
    rw [hentries, read_seq_eq_ok_iff, ← @Fields.IsPlain.takesInRow_iff _ _ h surplus]
    constructor
    · rintro ⟨left, htakes, rfl | hignored⟩
      · exact htakes
      · exact absurd hignored hsurplus
    · exact fun htakes => ⟨[], htakes, .inl rfl⟩
  missing {surplus table name} hname hnone record hread := by
    have hstands := h.takes_iff.mp (takes_of_read_map hread)
    obtain ⟨entry, hmem, rfl, hrequired⟩ := hname record
    obtain hsome | ⟨-, husual⟩ := hstands entry (hentries record ▸ hmem)
    · rw [hnone] at hsome
      cases hsome
    · rw [hrequired] at husual
      cases husual
  misfit {surplus table name node} hname hsome record hread := by
    have hstands := h.takes_iff.mp (takes_of_read_map hread)
    obtain ⟨entry, hmem, rfl, hother⟩ := hname record
    obtain hwritten | ⟨hnone, -⟩ := hstands entry (hentries record ▸ hmem)
    · rw [hsome] at hwritten
      exact hother (Option.some.inj hwritten).symm
    · rw [hsome] at hnone
      cases hnone

end Record

/-! ### The entries of the resources -/

/-- A text that may be missing, as it is written. -/
def Node.ofOptional : Option String → Node
  | none => .null
  | some s => .text s

/-- The entries of a volume. -/
def Volume.entries (volume : Volume) : List Entry :=
  [⟨"id", .text volume.id, none⟩, ⟨"name", .ofOptional volume.name, some .null⟩,
    ⟨"status", .text volume.status, none⟩, ⟨"size", .int volume.size.toNat, some (.int 0)⟩,
    ⟨"is_bootable", .flag volume.isBootable, some (.flag false)⟩]

/-- The entries of a snapshot. -/
def Snapshot.entries (snapshot : Snapshot) : List Entry :=
  [⟨"id", .text snapshot.id, none⟩, ⟨"name", .ofOptional snapshot.name, some .null⟩,
    ⟨"status", .text snapshot.status, none⟩, ⟨"volume_id", .text snapshot.volumeId, none⟩]

/-- The entries of a backup. -/
def Backup.entries (backup : Backup) : List Entry :=
  [⟨"id", .text backup.id, none⟩, ⟨"name", .ofOptional backup.name, some .null⟩,
    ⟨"status", .text backup.status, none⟩, ⟨"volume_id", .text backup.volumeId, none⟩,
    ⟨"snapshot_id", .ofOptional backup.snapshotId, some .null⟩,
    ⟨"is_incremental", .flag backup.isIncremental, some (.flag false)⟩]

/-- The entries of a server. -/
def Server.entries (server : Server) : List Entry :=
  [⟨"id", .text server.id, none⟩, ⟨"name", .ofOptional server.name, some .null⟩,
    ⟨"status", .text server.status, none⟩,
    ⟨"flavor_id", .ofOptional server.flavorId, some .null⟩]

/-- The entries of the attachment of a volume. -/
def VolumeAttachment.entries (attachment : VolumeAttachment) : List Entry :=
  [⟨"id", .text attachment.id, none⟩, ⟨"server_id", .text attachment.serverId, none⟩,
    ⟨"volume_id", .text attachment.volumeId, none⟩,
    ⟨"device", .ofOptional attachment.device, some .null⟩]

/-- The entries of a flavor. -/
def Flavor.entries (flavor : Flavor) : List Entry :=
  [⟨"id", .text flavor.id, none⟩, ⟨"name", .text flavor.name, none⟩,
    ⟨"vcpus", .int flavor.vcpus.toNat, some (.int 0)⟩,
    ⟨"ram", .int flavor.ram.toNat, some (.int 0)⟩]

/-- The entries of an aggregate. -/
def Aggregate.entries (aggregate : Aggregate) : List Entry :=
  [⟨"id", .text aggregate.id, none⟩, ⟨"name", .text aggregate.name, none⟩,
    ⟨"availability_zone", .ofOptional aggregate.availabilityZone, some .null⟩,
    ⟨"hosts", .seq (aggregate.hosts.map .text), some (.seq [])⟩]

/-- **Every resource is read from all its spellings**, and from nothing else. -/
theorem resources_readSpellings :
    Record.ReadsSpellings Volume.entries ∧ Record.ReadsSpellings Snapshot.entries
      ∧ Record.ReadsSpellings Backup.entries ∧ Record.ReadsSpellings Server.entries
      ∧ Record.ReadsSpellings VolumeAttachment.entries ∧ Record.ReadsSpellings Flavor.entries
      ∧ Record.ReadsSpellings Aggregate.entries :=
  ⟨Record.readsSpellings_of_isPlain Volume.isPlain_fields fun _ => rfl,
    Record.readsSpellings_of_isPlain Snapshot.isPlain_fields fun _ => rfl,
    Record.readsSpellings_of_isPlain Backup.isPlain_fields fun _ => rfl,
    Record.readsSpellings_of_isPlain Server.isPlain_fields fun _ => rfl,
    Record.readsSpellings_of_isPlain VolumeAttachment.isPlain_fields fun _ => rfl,
    Record.readsSpellings_of_isPlain Flavor.isPlain_fields fun _ => rfl,
    Record.readsSpellings_of_isPlain Aggregate.isPlain_fields fun _ => rfl⟩

/-- A table of a volume in another order, with a key that it does not know and without its name. -/
def reorderedVolume : List (String × Node) :=
  [("status", .text "in-use"), ("zone", .null), ("size", .int 8), ("id", .text "vol-1")]

/-- The table and the list are read as the same volume. Without a status none is read, nor with a size
that is `null`. -/
theorem resources_readSpellings_reordered :
    let volume : Volume := { id := "vol-1", status := "in-use", size := 8 }
    (Node.map reorderedVolume).IsParsed
      ∧ Record.read .counted (.map reorderedVolume) = .ok volume
      ∧ Record.read .counted (.seq [.text "vol-1", .null, .text "in-use", .int 8]) = .ok volume
      ∧ Record.read .counted (.map [("id", .text "vol-1")]) ≠ .ok volume
      ∧ Record.read .counted (.map [("id", .text "vol-1"), ("status", .text "in-use"), ("size", .null)])
        ≠ .ok volume := by
  intro volume
  obtain ⟨hvolume, -⟩ := resources_readSpellings
  have hparsed : (Node.map reorderedVolume).IsParsed := by
    refine .map (by decide) ?_
    simp only [reorderedVolume, List.forall_mem_cons]
    exact ⟨.text _, .null, .int _, .text _, List.forall_mem_nil _⟩
  have hstands : ∀ entry ∈ volume.entries, entry.StandsIn reorderedVolume := by
    simp only [Volume.entries, List.forall_mem_cons]
    exact ⟨.inl rfl, .inr ⟨rfl, rfl⟩, .inl rfl, .inl rfl, .inr ⟨rfl, rfl⟩, List.forall_mem_nil _⟩
  have hstatus (other : Volume) :
      ∃ entry ∈ other.entries, entry.name = "status" ∧ entry.usual = none :=
    ⟨_, List.mem_cons_of_mem _ (List.mem_cons_of_mem _ List.mem_cons_self), rfl, rfl⟩
  have hsize (other : Volume) : ∃ entry ∈ other.entries, entry.name = "size" ∧ entry.node ≠ .null := by
    refine ⟨_, List.mem_cons_of_mem _ (List.mem_cons_of_mem _ (List.mem_cons_of_mem _
      List.mem_cons_self)), rfl, ?_⟩
    rintro ⟨⟩
  exact ⟨hparsed, (hvolume.table hparsed).mpr hstands,
    (hvolume.row (by decide)).mpr ⟨volume.entries.take 4, volume.entries.drop 4, rfl, rfl, by
      simp [volume, Volume.entries]⟩,
    hvolume.missing hstatus rfl volume, hvolume.misfit hsize rfl volume⟩

end ResourceWait
