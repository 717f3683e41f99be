import ResourceWait.Record.Basic
import ResourceWait.Resource.Basic

/-!
# Probes

The least resource there is: an id and a status that may or may not be known. Unlike the resources of
a service, whose kind settles whether they have a status, one representation of a probe can have one
and the next none.
-/

namespace ResourceWait

/-- **A probe.** -/
structure Probe where
  /-- Its id. -/
  id : String := ""
  /-- Its status, if that is known. -/
  status : Option String := none
deriving DecidableEq, Repr

instance : Inhabited Probe := ⟨{}⟩

instance : Resource Probe where
  kind := "probe"
  id p := p.id
  status p := p.status

instance : Record Probe where
  typeName := "Probe"
  Tuple := String × Option String × Unit
  fields := .cons ⟨"id", .text, none⟩ <| .cons ⟨"status", .optionalText, some none⟩ .nil
  ofTuple := fun (id, status, ()) => { id, status }
  toTuple p := (p.id, p.status, ())

end ResourceWait
