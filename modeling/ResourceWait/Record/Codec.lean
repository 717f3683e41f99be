import ResourceWait.Record.Error

/-!
# Values in documents

A `Codec` says how the values of a type stand in a document: which nodes are read as one, and which
node one is written as. Here are the codecs of single values and of lists of texts; those of records
are in `ResourceWait.Record.Basic`.

Only a field whose type has room for nothing takes `null`. Integers are not converted to doubles or
back, so `1.0` is no number of gibibytes.
-/

namespace ResourceWait

/-- **What to do with values beyond the last field**, where a record is given as a list of its
fields. -/
inductive Surplus where
  /-- The document is malformed. -/
  | malformed
  /-- The record refuses it and says how long the list is. -/
  | counted
  /-- The record does not look at them. -/
  | ignored
deriving DecidableEq, Inhabited

/-- **How the values of a type stand in a document.** -/
structure Codec (α : Type) where
  /-- Reads a value, or says why there is none. -/
  read : Surplus → Node → Except ReadError α
  /-- The node that a value is written as. -/
  write : α → Node

/-- The error of a node that is not what was expected; what denotes no value has no other
error. -/
def Node.unexpected (node : Node) (expected : Expected) : ReadError :=
  match node.shape? with
  | some found => .data (.wrongType found expected)
  | none => .malformed

namespace Codec

/-- Any text. -/
def text : Codec String where
  read _ node := match node with
    | .text s => .ok s
    | node => .error (node.unexpected .text)
  write s := .text s

/-- A text or nothing. -/
def optionalText : Codec (Option String) where
  read surplus node := match node with
    | .null => .ok none
    | node => (text.read surplus node).map some
  write
    | none => .null
    | some s => .text s

/-- A truth value. -/
def flag : Codec Bool where
  read _ node := match node with
    | .flag b => .ok b
    | node => .error (node.unexpected .flag)
  write b := .flag b

/-- An integer from zero up to, and without, a bound. -/
def readBelow (bound : Nat) (expected : Expected) (node : Node) : Except ReadError Nat :=
  match node with
  | .int i =>
    if 0 ≤ i ∧ i < bound then .ok i.toNat else .error (.data (.outOfRange i expected))
  | node => .error (node.unexpected expected)

/-- An integer that 64 bits hold. -/
def u64 : Codec UInt64 where
  read _ node := (readBelow UInt64.size .u64 node).map Nat.toUInt64
  write n := .int n.toNat

/-- An integer that 32 bits hold. -/
def u32 : Codec UInt32 where
  read _ node := (readBelow UInt32.size .u32 node).map Nat.toUInt32
  write n := .int n.toNat

/-- Reads the values of a list one by one, up to the first that cannot be read. -/
def readItems (codec : Codec α) (surplus : Surplus) : List Node → Except ReadError (List α)
  | [] => .ok []
  | item :: rest => do
    let value ← codec.read surplus item
    let values ← readItems codec surplus rest
    return value :: values

/-- Values in a row. -/
def list (codec : Codec α) : Codec (List α) where
  read surplus node := match node with
    | .list items closed => do
      let values ← codec.readItems surplus items
      if closed then .ok values else .error .malformed
    | node => .error (node.unexpected .sequence)
  write values := .seq (values.map codec.write)

/-- Texts in a row. -/
def texts : Codec (List String) := list text

end Codec

end ResourceWait
