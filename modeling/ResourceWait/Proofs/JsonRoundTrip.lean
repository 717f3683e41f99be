import ResourceWait.Proofs.JsonText
import ResourceWait.Proofs.PlainFields

/-!
# Resources keep in JSON

A resource is written as a table of all its fields, texts with every character that needs it escaped,
numbers to the end of their range, and `null` for a text that is missing. The JSON text of that table is
parsed as the table and read as the resource again, whatever the values of its fields are, so no two
resources of a kind have the same text. The id and the status that a wait looks at stand in the text under
their names.
-/

namespace ResourceWait

/-! ### Plain fields in JSON -/

open Json (IsWritable)

/-- A plain value is written as one that JSON can hold. -/
theorem Codec.IsPlain.isWritable {α : Type} {codec : Codec α} (h : codec.IsPlain) (value : α) :
    IsWritable (codec.write value) := by
  cases h with
  | text => exact .text value
  | optionalText =>
    cases value with
    | none => exact .null
    | some s => exact .text s
  | flag => exact .flag value
  | u64 => exact .number value.toNat_lt
  | u32 => exact .number (Nat.lt_trans value.toNat_lt (by decide))
  | texts =>
    refine .seq fun item hitem => ?_
    obtain ⟨s, -, rfl⟩ := List.mem_map.mp hitem
    exact .text s

/-- So are the values of plain fields. -/
theorem Fields.IsPlain.isWritable {τ : Type} {fields : Fields τ} (h : fields.IsPlain) (values : τ) :
    ∀ entry ∈ fields.writeTable values, IsWritable entry.2 := by
  induction h with
  | nil => exact List.forall_mem_nil _
  | cons hcodec _ _ ih =>
    obtain ⟨value, values⟩ := values
    exact List.forall_mem_cons.mpr ⟨hcodec.isWritable value, ih values⟩

namespace Record

variable (R : Type) [Record R] [Resource R]

/-- **Records of a kind keep in JSON.** -/
structure KeepsJson : Prop where
  /-- The text of a record is parsed as the table of all its fields. -/
  parses : ∀ record : R, Node.ofJson? (toJson record) = some (write record)
  /-- It is read as the record. -/
  decodes : ∀ record : R, ofJson (toJson record) = .ok record
  /-- Different records have different texts. -/
  injective : Function.Injective (toJson : R → String)
  /-- What is read of the text has the id and the status of the record. -/
  seen : ∀ record decoded : R, ofJson (toJson record) = .ok decoded →
    Resource.id decoded = Resource.id record ∧ Resource.status decoded = Resource.status record
  /-- They stand in the text under their names, the status only if the kind has one. -/
  named : ∀ (record : R) (node : Node), Node.ofJson? (toJson record) = some node →
    node.field? "id" = some (.text (Resource.id record))
      ∧ node.field? "status" = (Resource.status record).map .text

variable {R}

/-- **Records of plain fields keep in JSON**, if their id and status are fields. -/
theorem keepsJson_of_isPlain (h : (fields (R := R)).IsPlain)
    (hnamed : ∀ record : R, (write record).field? "id" = some (.text (Resource.id record))
      ∧ (write record).field? "status" = (Resource.status record).map .text) : KeepsJson R := by
  have hwritable (record : R) : IsWritable (write record) := .map (h.isWritable (toTuple record))
  have hdecodes (record : R) : ofJson (toJson record) = .ok record := by
    rw [ofJson, toJson, Node.toJson, String.toList_ofList, (hwritable record).read_write]
    change (do
      let record : R ← read .malformed (write record)
      if true then return record else .error .malformed) = _
    rw [read_write h.isLawful]
    rfl
  refine
    { parses := fun record => (hwritable record).ofJson?_toJson
      decodes := hdecodes
      injective := fun record other htext => ?_
      seen := fun record decoded hdecoded => ?_
      named := fun record node hnode => ?_ }
  · have hrecord := hdecodes record
    rw [htext, hdecodes other] at hrecord
    exact (Except.ok.inj hrecord).symm
  · obtain rfl := Except.ok.inj ((hdecodes record).symm.trans hdecoded)
    exact ⟨rfl, rfl⟩
  · obtain rfl := Option.some.inj ((hwritable record).ofJson?_toJson.symm.trans hnode)
    exact hnamed record

end Record

/-- **Every resource keeps in JSON.** -/
theorem resources_keepJson :
    Record.KeepsJson Volume ∧ Record.KeepsJson Snapshot ∧ Record.KeepsJson Backup
      ∧ Record.KeepsJson Server ∧ Record.KeepsJson VolumeAttachment ∧ Record.KeepsJson Flavor
      ∧ Record.KeepsJson Aggregate :=
  ⟨Record.keepsJson_of_isPlain Volume.isPlain_fields fun _ => ⟨rfl, rfl⟩,
    Record.keepsJson_of_isPlain Snapshot.isPlain_fields fun _ => ⟨rfl, rfl⟩,
    Record.keepsJson_of_isPlain Backup.isPlain_fields fun _ => ⟨rfl, rfl⟩,
    Record.keepsJson_of_isPlain Server.isPlain_fields fun _ => ⟨rfl, rfl⟩,
    Record.keepsJson_of_isPlain VolumeAttachment.isPlain_fields fun _ => ⟨rfl, rfl⟩,
    Record.keepsJson_of_isPlain Flavor.isPlain_fields fun _ => ⟨rfl, rfl⟩,
    Record.keepsJson_of_isPlain Aggregate.isPlain_fields fun _ => ⟨rfl, rfl⟩⟩

/-- A volume with a quote, a backslash, control characters and the greatest number. -/
def awkwardVolume : Volume where
  id := "a\"b"
  name := some "c\\d"
  status := "\n\x07"
  size := 18446744073709551615

/-- Its text is this one. It is read as that volume, and the id and the status stand in it. -/
theorem resources_keepJson_awkward :
    let text := "\x7b\"id\":\"a\\\"b\",\"name\":\"c\\\\d\",\"status\":\"\\n\\u0007\","
      ++ "\"size\":18446744073709551615,\"is_bootable\":false\x7d"
    Record.toJson awkwardVolume = text ∧ Record.ofJson text = .ok awkwardVolume
      ∧ ∃ node, Node.ofJson? text = some node ∧ node.field? "id" = some (.text "a\"b")
        ∧ node.field? "status" = some (.text "\n\x07") := by
  intro text
  have htext : Record.toJson awkwardVolume = text := by cbv
  obtain ⟨hvolume, -⟩ := resources_keepJson
  have hparses := hvolume.parses awkwardVolume
  have hdecodes := hvolume.decodes awkwardVolume
  obtain ⟨hid, hstatus⟩ := hvolume.named awkwardVolume _ hparses
  rw [htext] at hparses hdecodes
  exact ⟨htext, hdecodes, _, hparses, hid, hstatus⟩

end ResourceWait
