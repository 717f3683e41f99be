import ResourceWait.Record.Basic
import ResourceWait.Resource.Basic

/-!
# Block storage resources

Volumes, their snapshots and their backups. All of them have a status.
-/

namespace ResourceWait

/-- **A volume.** -/
structure Volume where
  /-- Its id. -/
  id : String := ""
  /-- Its name, if it has one. -/
  name : Option String := none
  /-- Its status. -/
  status : String := ""
  /-- Its size in gibibytes. -/
  size : UInt64 := 0
  /-- Whether a server can boot from it. -/
  isBootable : Bool := false
deriving DecidableEq, Repr

instance : Inhabited Volume := ⟨{}⟩

instance : Resource Volume where
  kind := "volume"
  id v := v.id
  status v := some v.status

instance : Record Volume where
  typeName := "Volume"
  Tuple := String × Option String × String × UInt64 × Bool × Unit
  fields :=
    .cons ⟨"id", .text, none⟩ <| .cons ⟨"name", .optionalText, some none⟩ <|
    .cons ⟨"status", .text, none⟩ <| .cons ⟨"size", .u64, some 0⟩ <|
    .cons ⟨"is_bootable", .flag, some false⟩ .nil
  ofTuple := fun (id, name, status, size, isBootable, ()) => { id, name, status, size, isBootable }
  toTuple v := (v.id, v.name, v.status, v.size, v.isBootable, ())

/-- **A snapshot** of a volume. -/
structure Snapshot where
  /-- Its id. -/
  id : String := ""
  /-- Its name, if it has one. -/
  name : Option String := none
  /-- Its status. -/
  status : String := ""
  /-- The volume it was taken of. -/
  volumeId : String := ""
deriving DecidableEq, Repr

instance : Inhabited Snapshot := ⟨{}⟩

instance : Resource Snapshot where
  kind := "snapshot"
  id s := s.id
  status s := some s.status

instance : Record Snapshot where
  typeName := "Snapshot"
  Tuple := String × Option String × String × String × Unit
  fields :=
    .cons ⟨"id", .text, none⟩ <| .cons ⟨"name", .optionalText, some none⟩ <|
    .cons ⟨"status", .text, none⟩ <| .cons ⟨"volume_id", .text, none⟩ .nil
  ofTuple := fun (id, name, status, volumeId, ()) => { id, name, status, volumeId }
  toTuple s := (s.id, s.name, s.status, s.volumeId, ())

/-- **A backup** of a volume. -/
structure Backup where
  /-- Its id. -/
  id : String := ""
  /-- Its name, if it has one. -/
  name : Option String := none
  /-- Its status. -/
  status : String := ""
  /-- The volume it was made of. -/
  volumeId : String := ""
  /-- The snapshot it was made from, if it was made from one. -/
  snapshotId : Option String := none
  /-- Whether it holds only what changed since an earlier one. -/
  isIncremental : Bool := false
deriving DecidableEq, Repr

instance : Inhabited Backup := ⟨{}⟩

instance : Resource Backup where
  kind := "backup"
  id b := b.id
  status b := some b.status

instance : Record Backup where
  typeName := "Backup"
  Tuple := String × Option String × String × String × Option String × Bool × Unit
  fields :=
    .cons ⟨"id", .text, none⟩ <| .cons ⟨"name", .optionalText, some none⟩ <|
    .cons ⟨"status", .text, none⟩ <| .cons ⟨"volume_id", .text, none⟩ <|
    .cons ⟨"snapshot_id", .optionalText, some none⟩ <|
    .cons ⟨"is_incremental", .flag, some false⟩ .nil
  ofTuple := fun (id, name, status, volumeId, snapshotId, isIncremental, ()) =>
    { id, name, status, volumeId, snapshotId, isIncremental }
  toTuple b := (b.id, b.name, b.status, b.volumeId, b.snapshotId, b.isIncremental, ())

end ResourceWait
