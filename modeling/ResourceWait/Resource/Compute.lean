import ResourceWait.Record.Basic
import ResourceWait.Resource.Basic

/-!
# Compute resources

Servers, and what belongs to them: the attachments of volumes, flavors, and aggregates of hosts. Only
a server has a status. An attachment is known under its server, so it takes the ids of both to find
it.
-/

namespace ResourceWait

/-- **A server.** -/
structure Server where
  /-- Its id. -/
  id : String := ""
  /-- Its name, if it has one. -/
  name : Option String := none
  /-- Its status. -/
  status : String := ""
  /-- Its flavor, if that is known. -/
  flavorId : Option String := none
deriving DecidableEq, Repr

instance : Inhabited Server := ⟨{}⟩

instance : Resource Server where
  kind := "server"
  id s := s.id
  status s := some s.status

instance : Record Server where
  typeName := "Server"
  Tuple := String × Option String × String × Option String × Unit
  fields :=
    .cons ⟨"id", .text, none⟩ <| .cons ⟨"name", .optionalText, some none⟩ <|
    .cons ⟨"status", .text, none⟩ <| .cons ⟨"flavor_id", .optionalText, some none⟩ .nil
  ofTuple := fun (id, name, status, flavorId, ()) => { id, name, status, flavorId }
  toTuple s := (s.id, s.name, s.status, s.flavorId, ())

/-- **The attachment of a volume** to a server. -/
structure VolumeAttachment where
  /-- Its id, under its server. -/
  id : String := ""
  /-- The server. -/
  serverId : String := ""
  /-- The volume. -/
  volumeId : String := ""
  /-- The device that the server sees, if that is known. -/
  device : Option String := none
deriving DecidableEq, Repr

instance : Inhabited VolumeAttachment := ⟨{}⟩

instance : Resource VolumeAttachment where
  kind := "volume_attachment"
  id a := a.id
  address a := a.serverId ++ "/" ++ a.id

instance : Record VolumeAttachment where
  typeName := "VolumeAttachment"
  Tuple := String × String × String × Option String × Unit
  fields :=
    .cons ⟨"id", .text, none⟩ <| .cons ⟨"server_id", .text, none⟩ <|
    .cons ⟨"volume_id", .text, none⟩ <| .cons ⟨"device", .optionalText, some none⟩ .nil
  ofTuple := fun (id, serverId, volumeId, device, ()) => { id, serverId, volumeId, device }
  toTuple a := (a.id, a.serverId, a.volumeId, a.device, ())

/-- **A flavor**: the size of a server. -/
structure Flavor where
  /-- Its id. -/
  id : String := ""
  /-- Its name. -/
  name : String := ""
  /-- How many processors it has. -/
  vcpus : UInt32 := 0
  /-- Its memory in mebibytes. -/
  ram : UInt64 := 0
deriving DecidableEq, Repr

instance : Inhabited Flavor := ⟨{}⟩

instance : Resource Flavor where
  kind := "flavor"
  id f := f.id

instance : Record Flavor where
  typeName := "Flavor"
  Tuple := String × String × UInt32 × UInt64 × Unit
  fields :=
    .cons ⟨"id", .text, none⟩ <| .cons ⟨"name", .text, none⟩ <|
    .cons ⟨"vcpus", .u32, some 0⟩ <| .cons ⟨"ram", .u64, some 0⟩ .nil
  ofTuple := fun (id, name, vcpus, ram, ()) => { id, name, vcpus, ram }
  toTuple f := (f.id, f.name, f.vcpus, f.ram, ())

/-- **An aggregate** of hosts. -/
structure Aggregate where
  /-- Its id. -/
  id : String := ""
  /-- Its name. -/
  name : String := ""
  /-- The zone it is in, if it is in one. -/
  availabilityZone : Option String := none
  /-- Its hosts. -/
  hosts : List String := []
deriving DecidableEq, Repr

instance : Inhabited Aggregate := ⟨{}⟩

instance : Resource Aggregate where
  kind := "aggregate"
  id a := a.id

instance : Record Aggregate where
  typeName := "Aggregate"
  Tuple := String × String × Option String × List String × Unit
  fields :=
    .cons ⟨"id", .text, none⟩ <| .cons ⟨"name", .text, none⟩ <|
    .cons ⟨"availability_zone", .optionalText, some none⟩ <|
    .cons ⟨"hosts", .texts, some []⟩ .nil
  ofTuple := fun (id, name, availabilityZone, hosts, ()) => { id, name, availabilityZone, hosts }
  toTuple a := (a.id, a.name, a.availabilityZone, a.hosts, ())

end ResourceWait
