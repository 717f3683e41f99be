/-!
# Resources

A resource is something that a remote service owns and that can be looked at: it has an id, which the
service gave it, and perhaps a status. What is known of it is a representation, a value of a type
that stands for its kind; looking again gives another representation. A type without a status is one
whose resources cannot be waited on for a status.
-/

namespace ResourceWait

/-- **A kind of resource**: the type of its representations. -/
class Resource (R : Type) where
  /-- The name of the kind in messages. -/
  kind : String
  /-- The id that the service gave a resource. -/
  id : R → String
  /-- The status of a resource, if it has one. -/
  status : R → Option String := fun _ => none
  /-- Where its service keeps a resource: under its id, unless the id alone does not tell. -/
  address : R → String := id

end ResourceWait
