import ResourceWait.Proofs.Reading
import ResourceWait.Resource.Compute
import ResourceWait.Resource.Storage

/-!
# Records of plain fields

Most records are made of texts, truth values, numbers and lists of texts. The codecs of these are exact:
they read what they write, and nothing else (`Codec.IsExact`). So a value of such a field has one form in
a document, and what a table or a list is read as can be said by comparing it with the table that the
record is written as (`Fields.IsPlain.takes_iff`, `Fields.IsPlain.takesInRow_iff`).
-/

namespace ResourceWait

/-! ### Exact codecs -/

/-- **A codec that reads nothing but what it writes.** -/
def Codec.IsExact {α : Type} (codec : Codec α) : Prop :=
  ∀ surplus node value, codec.read surplus node = .ok value ↔ node = codec.write value

namespace Codec

variable {α : Type} {codec : Codec α}

/-- It reads what it writes. -/
theorem IsExact.isLawful (h : codec.IsExact) : codec.IsLawful :=
  fun surplus value => (h surplus _ value).mpr rfl

/-- It writes no two values alike. -/
theorem IsExact.injective (h : codec.IsExact) : Function.Injective codec.write := by
  intro value other heq
  have hvalue := h.isLawful .ignored value
  rw [heq, h.isLawful .ignored other] at hvalue
  exact (Except.ok.inj hvalue).symm

/-- Texts are read as what they are. -/
theorem isExact_text : text.IsExact := by
  intro surplus node value
  cases node <;> simp [text]

/-- So are texts that may be missing. -/
theorem isExact_optionalText : optionalText.IsExact := by
  intro surplus node value
  cases node <;> cases value <;> simp [optionalText, text, Except.map]

/-- So are truth values. -/
theorem isExact_flag : flag.IsExact := by
  intro surplus node value
  cases node <;> simp [flag]

/-- An integer below a bound is read as what it is. -/
theorem readBelow_eq_ok_iff {bound n : Nat} {expected : Expected} {node : Node} :
    readBelow bound expected node = .ok n ↔ n < bound ∧ node = .int n := by
  cases node with
  | int i =>
    rw [readBelow]
    split
    · rename_i h
      rw [Except.ok.injEq, Node.int.injEq]
      omega
    · rename_i h
      rw [Node.int.injEq]
      refine iff_of_false ?_ (by omega)
      intro h
      cases h
  | _ => simp [readBelow]

/-- Integers below a bound are read as numbers of a type that has just these. -/
theorem map_readBelow_eq_ok_iff {bound : Nat} {expected : Expected} {ofNat : Nat → α} {toNat : α → Nat}
    (hlt : ∀ a, toNat a < bound) (hleft : ∀ a, ofNat (toNat a) = a)
    (hright : ∀ n < bound, toNat (ofNat n) = n) {node : Node} {a : α} :
    (readBelow bound expected node).map ofNat = .ok a ↔ node = .int (toNat a) := by
  have hread : (readBelow bound expected node).map ofNat = .ok a
      ↔ ∃ n, readBelow bound expected node = .ok n ∧ ofNat n = a := by
    cases readBelow bound expected node <;> simp [Except.map]
  rw [hread]
  constructor
  · rintro ⟨n, hn, rfl⟩
    obtain ⟨hbelow, rfl⟩ := readBelow_eq_ok_iff.mp hn
    rw [hright n hbelow]
  · rintro rfl
    exact ⟨toNat a, readBelow_eq_ok_iff.mpr ⟨hlt a, rfl⟩, hleft a⟩

/-- So are integers of 64 bits. -/
theorem isExact_u64 : u64.IsExact := fun _ _ _ =>
  map_readBelow_eq_ok_iff UInt64.toNat_lt (fun _ => UInt64.ofNat_toNat)
    fun _ hn => UInt64.toNat_ofNat_of_lt' hn

/-- So are integers of 32 bits. -/
theorem isExact_u32 : u32.IsExact := fun _ _ _ =>
  map_readBelow_eq_ok_iff UInt32.toNat_lt (fun _ => UInt32.ofNat_toNat)
    fun _ hn => UInt32.toNat_ofNat_of_lt' hn

/-- Values in a row are read one by one. -/
theorem IsExact.readItems_eq_ok_iff (h : codec.IsExact) {surplus : Surplus} {items : List Node}
    {values : List α} :
    codec.readItems surplus items = .ok values ↔ items = values.map codec.write := by
  induction items generalizing values with
  | nil =>
    rw [readItems, Except.ok.injEq]
    cases values <;> simp
  | cons item items ih =>
    rw [readItems, bind_eq_ok_iff]
    simp only [bind_eq_ok_iff, h surplus, ih]
    constructor
    · rintro ⟨value, rfl, others, rfl, heq⟩
      cases heq
      rfl
    · intro heq
      cases values with
      | nil => cases heq
      | cons value values =>
        obtain ⟨rfl, rfl⟩ := List.cons.inj heq
        exact ⟨value, rfl, values, rfl, rfl⟩

/-- So are lists of what is read as what it is. -/
theorem IsExact.list (h : codec.IsExact) : (Codec.list codec).IsExact := by
  intro surplus node values
  cases node with
  | list items closed =>
    have hread : (Codec.list codec).read surplus (.list items closed) = .ok values
        ↔ codec.readItems surplus items = .ok values ∧ closed = true := by
      simp only [Codec.list, bind_eq_ok_iff]
      cases closed <;> simp
    rw [hread, h.readItems_eq_ok_iff, Codec.list, Node.list.injEq]
  | _ => simp [Codec.list]

/-- **The codec of a plain field**: of a text, a truth value, a number, or a list of texts. -/
inductive IsPlain : {α : Type} → Codec α → Prop
  /-- A text. -/
  | text : IsPlain text
  /-- A text that may be missing. -/
  | optionalText : IsPlain optionalText
  /-- A truth value. -/
  | flag : IsPlain flag
  /-- A number of 64 bits. -/
  | u64 : IsPlain u64
  /-- A number of 32 bits. -/
  | u32 : IsPlain u32
  /-- A list of texts. -/
  | texts : IsPlain texts

/-- **Plain codecs are exact.** -/
theorem IsPlain.isExact (h : codec.IsPlain) : codec.IsExact := by
  cases h with
  | text => exact isExact_text
  | optionalText => exact isExact_optionalText
  | flag => exact isExact_flag
  | u64 => exact isExact_u64
  | u32 => exact isExact_u32
  | texts => exact isExact_text.list

end Codec

/-! ### Plain fields -/

/-- **A field as a document may give it**: its name, the value that it is written with, and the value that
it has where it is left out, if it may be. -/
structure Entry where
  /-- The name. -/
  name : String
  /-- The value, as it is written. -/
  node : Node
  /-- The value where it is left out. -/
  usual : Option Node

/-- **An entry stands in a table** under its name, or it is left out and has its usual value. -/
def Entry.StandsIn (entry : Entry) (table : List (String × Node)) : Prop :=
  table.lookup entry.name = some entry.node
    ∨ table.lookup entry.name = none ∧ entry.usual = some entry.node

namespace Fields

variable {τ : Type}

/-- **Plain fields**, no two of the same name. -/
inductive IsPlain : {τ : Type} → Fields τ → Prop
  /-- No field. -/
  | nil : IsPlain nil
  /-- One field and then others. -/
  | cons {α β : Type} {field : Field α} {rest : Fields β} (hcodec : field.codec.IsPlain)
      (hname : field.name ∉ rest.names) (hrest : IsPlain rest) : IsPlain (cons field rest)

/-- They are read as they were written. -/
theorem IsPlain.isLawful {fields : Fields τ} (h : fields.IsPlain) : fields.IsLawful := by
  induction h with
  | nil => exact .nil
  | cons hcodec hname hrest ih => exact .cons hcodec.isExact.isLawful hname ih

/-- The entries of the values of fields. -/
def entries : {τ : Type} → Fields τ → τ → List Entry
  | _, nil, _ => []
  | _, cons field rest, (value, values) =>
    ⟨field.name, field.codec.write value, field.absent.map field.codec.write⟩ :: rest.entries values

/-- A value is the one for being absent if it is written like that. -/
theorem absent_eq_some_iff {α : Type} {codec : Codec α} (h : codec.IsExact) {absent : Option α}
    {value : α} : absent = some value ↔ absent.map codec.write = some (codec.write value) := by
  rw [Option.map_eq_some_iff]
  constructor
  · rintro rfl
    exact ⟨value, rfl, rfl⟩
  · rintro ⟨other, rfl, heq⟩
    rw [h.injective heq]

/-- **What is taken from a table**: every entry stands in it, or is left out and has its usual value. -/
theorem IsPlain.takes_iff {fields : Fields τ} (h : fields.IsPlain) {surplus : Surplus}
    {table : List (String × Node)} {values : τ} :
    fields.Takes surplus table values ↔ ∀ entry ∈ fields.entries values, entry.StandsIn table := by
  induction h with
  | nil => exact iff_of_true trivial (List.forall_mem_nil _)
  | @cons α β field rest hcodec hname hrest ih =>
    obtain ⟨value, values⟩ := values
    rw [Takes, entries, List.forall_mem_cons, ih, Entry.StandsIn]
    refine and_congr_left fun _ => ?_
    cases table.lookup field.name with
    | some node => simpa using hcodec.isExact surplus node value
    | none => simpa using absent_eq_some_iff hcodec.isExact

/-- **What is taken from a list that ends with the fields, or before them**: the first entries stand in
it, and those that are dropped behind them have their usual values. -/
theorem IsPlain.takesInRow_iff {fields : Fields τ} (h : fields.IsPlain) {surplus : Surplus}
    {items : List Node} {values : τ} :
    fields.TakesInRow surplus [] values items ↔ ∃ given dropped,
      fields.entries values = given ++ dropped ∧ items = given.map Entry.node
        ∧ ∀ entry ∈ dropped, entry.usual = some entry.node := by
  induction h generalizing items with
  | nil =>
    rw [TakesInRow, entries]
    constructor
    · rintro rfl
      exact ⟨[], [], rfl, rfl, List.forall_mem_nil _⟩
    · rintro ⟨given, dropped, heq, rfl, -⟩
      rw [(List.nil_eq_append_iff.mp heq).1]
      rfl
  | @cons α β field rest hcodec hname hrest ih =>
    obtain ⟨value, values⟩ := values
    cases items with
    | nil =>
      rw [TakesInRow, ih, entries, absent_eq_some_iff hcodec.isExact]
      constructor
      · rintro ⟨habsent, given, dropped, hentries, hgiven, hdropped⟩
        obtain rfl := List.map_eq_nil_iff.mp hgiven.symm
        exact ⟨[], _, rfl, rfl, List.forall_mem_cons.mpr ⟨habsent, hentries ▸ hdropped⟩⟩
      · rintro ⟨given, dropped, hentries, hgiven, hdropped⟩
        obtain rfl := List.map_eq_nil_iff.mp hgiven.symm
        rw [List.nil_append] at hentries
        rw [← hentries, List.forall_mem_cons] at hdropped
        exact ⟨hdropped.1, [], _, rfl, rfl, hdropped.2⟩
    | cons item items =>
      rw [TakesInRow, ih, entries, hcodec.isExact surplus]
      constructor
      · rintro ⟨rfl, given, dropped, hentries, rfl, hdropped⟩
        exact ⟨_ :: given, dropped, by rw [hentries, List.cons_append], rfl, hdropped⟩
      · rintro ⟨given, dropped, hentries, hgiven, hdropped⟩
        cases given with
        | nil => cases hgiven
        | cons first given =>
          obtain ⟨rfl, hothers⟩ := List.cons.inj hentries
          obtain ⟨rfl, rfl⟩ := List.cons.inj hgiven
          exact ⟨rfl, given, dropped, hothers, rfl, hdropped⟩

end Fields

/-! ### The resources -/

/-- A volume has plain fields. -/
theorem Volume.isPlain_fields : (Record.fields (R := Volume)).IsPlain :=
  .cons .text (by decide) <| .cons .optionalText (by decide) <| .cons .text (by decide) <|
  .cons .u64 (by decide) <| .cons .flag (by decide) .nil

/-- A snapshot has plain fields. -/
theorem Snapshot.isPlain_fields : (Record.fields (R := Snapshot)).IsPlain :=
  .cons .text (by decide) <| .cons .optionalText (by decide) <| .cons .text (by decide) <|
  .cons .text (by decide) .nil

/-- A backup has plain fields. -/
theorem Backup.isPlain_fields : (Record.fields (R := Backup)).IsPlain :=
  .cons .text (by decide) <| .cons .optionalText (by decide) <| .cons .text (by decide) <|
  .cons .text (by decide) <| .cons .optionalText (by decide) <| .cons .flag (by decide) .nil

/-- A server has plain fields. -/
theorem Server.isPlain_fields : (Record.fields (R := Server)).IsPlain :=
  .cons .text (by decide) <| .cons .optionalText (by decide) <| .cons .text (by decide) <|
  .cons .optionalText (by decide) .nil

/-- The attachment of a volume has plain fields. -/
theorem VolumeAttachment.isPlain_fields : (Record.fields (R := VolumeAttachment)).IsPlain :=
  .cons .text (by decide) <| .cons .text (by decide) <| .cons .text (by decide) <|
  .cons .optionalText (by decide) .nil

/-- A flavor has plain fields. -/
theorem Flavor.isPlain_fields : (Record.fields (R := Flavor)).IsPlain :=
  .cons .text (by decide) <| .cons .text (by decide) <| .cons .u32 (by decide) <|
  .cons .u64 (by decide) .nil

/-- An aggregate has plain fields. -/
theorem Aggregate.isPlain_fields : (Record.fields (R := Aggregate)).IsPlain :=
  .cons .text (by decide) <| .cons .text (by decide) <| .cons .optionalText (by decide) <|
  .cons .texts (by decide) .nil

end ResourceWait
