import ResourceWait.Record.Basic

/-!
# Records are read as they were written

A codec is lawful if it reads back what it wrote (`Codec.IsLawful`). The fields of a record are lawful if
their codecs are and no name comes twice (`Fields.IsLawful`); then so is the codec of the record: in a
written table every field stands once, under its own name, so that the reader meets no fault on its way
through the table and finds each value afterwards.
-/

namespace ResourceWait

/-- What goes well in two steps goes well in both. -/
theorem bind_eq_ok_iff {ε α β : Type} {x : Except ε α} {f : α → Except ε β} {b : β} :
    x >>= f = .ok b ↔ ∃ a, x = .ok a ∧ f a = .ok b := by
  cases x with
  | error e =>
    constructor
    · intro h
      cases h
    · rintro ⟨_, h, -⟩
      cases h
  | ok a =>
    constructor
    · exact fun h => ⟨a, rfl, h⟩
    · rintro ⟨_, ha, h⟩
      cases ha
      exact h

/-- **A codec that reads what it wrote.** -/
def Codec.IsLawful {α : Type} (codec : Codec α) : Prop :=
  ∀ surplus value, codec.read surplus (codec.write value) = .ok value

namespace Fields

/-- **Fields that are read as they were written**: no two have the same name, and their codecs are
lawful. -/
inductive IsLawful : {τ : Type} → Fields τ → Prop
  /-- No field. -/
  | nil : IsLawful nil
  /-- One field and then others. -/
  | cons {α β : Type} {field : Field α} {rest : Fields β} (hcodec : field.codec.IsLawful)
      (hname : field.name ∉ rest.names) (hrest : IsLawful rest) : IsLawful (cons field rest)

variable {τ : Type}

/-- The fields are written under their names. -/
theorem map_fst_writeTable (fields : Fields τ) (values : τ) :
    (fields.writeTable values).map Prod.fst = fields.names := by
  induction fields with
  | nil => rfl
  | cons field rest ih => exact congrArg (field.name :: ·) (ih values.2)

/-- No name comes twice. -/
theorem IsLawful.nodup_names {fields : Fields τ} (h : fields.IsLawful) : fields.names.Nodup := by
  induction h with
  | nil => exact List.nodup_nil
  | cons hcodec hname hrest ih => exact List.nodup_cons.mpr ⟨hname, ih⟩

/-- **Every written value can be read** under its name. -/
theorem IsLawful.check?_of_mem {fields : Fields τ} (h : fields.IsLawful) (surplus : Surplus)
    (values : τ) {name : String} {node : Node} (hmem : (name, node) ∈ fields.writeTable values) :
    fields.check? surplus name node = some (.ok ()) := by
  induction h with
  | nil => cases hmem
  | @cons α β field rest hcodec hname hrest ih =>
    obtain ⟨value, values⟩ := values
    obtain heq | hmem := List.mem_cons.mp hmem
    · obtain ⟨rfl, rfl⟩ := Prod.mk.inj heq
      rw [check?, if_pos rfl, hcodec]
      rfl
    · have hne : field.name ≠ name := by
        rintro rfl
        exact hname (map_fst_writeTable rest values ▸ List.mem_map_of_mem hmem)
      rw [check?, if_neg hne]
      exact ih values hmem

/-- There is no fault in a table in which no key comes twice, every known field can be read and
every other value is whole. -/
theorem checkTable_eq_ok {fields : Fields τ} {surplus : Surplus} {table : List (String × Node)}
    (hcheck : ∀ entry ∈ table, fields.check? surplus entry.1 entry.2 = some (.ok ())
      ∨ fields.check? surplus entry.1 entry.2 = none ∧ entry.2.isWhole = true)
    (hdistinct : (table.map Prod.fst).Nodup) {seen : List String}
    (hseen : ∀ entry ∈ table, entry.1 ∉ seen) :
    fields.checkTable surplus seen (table.map fun (key, node) => (some key, node)) = .ok () := by
  -- the keys still to come are neither among those met so far nor among each other
  induction table generalizing seen with
  | nil => rfl
  | cons entry table ih =>
    obtain ⟨key, node⟩ := entry
    obtain ⟨hfirst, hcheck⟩ := List.forall_mem_cons.mp hcheck
    obtain ⟨hunseen, hseen⟩ := List.forall_mem_cons.mp hseen
    rw [List.map_cons, List.nodup_cons] at hdistinct
    have hothers : ∀ entry ∈ table, entry.1 ∉ key :: seen := by
      intro entry hentry hmem
      obtain rfl | hmem := List.mem_cons.mp hmem
      · exact hdistinct.1 (List.mem_map.mpr ⟨entry, hentry, rfl⟩)
      · exact hseen entry hentry hmem
    rw [List.map_cons, checkTable]
    obtain hknown | ⟨hunknown, hwhole⟩ := hfirst
    · rw [hknown]
      simp only [List.contains_iff_mem, hunseen, if_false]
      exact ih hcheck hdistinct.2 hothers
    · rw [hunknown]
      simp only [hwhole, if_true]
      exact ih hcheck hdistinct.2 fun entry hentry =>
        fun hmem => hothers entry hentry (List.mem_cons_of_mem key hmem)

/-- In a table without repeated keys every entry is found under its key. -/
theorem lookup_of_mem {table : List (String × Node)} (hdistinct : (table.map Prod.fst).Nodup)
    {name : String} {node : Node} (hmem : (name, node) ∈ table) :
    lookup name (table.map fun (key, node) => (some key, node)) = some node := by
  induction table with
  | nil => cases hmem
  | cons entry table ih =>
    rw [List.map_cons, List.nodup_cons] at hdistinct
    obtain rfl | hmem := List.mem_cons.mp hmem
    · simp [lookup]
    · have hne : entry.1 ≠ name := by
        rintro rfl
        exact hdistinct.1 (List.mem_map.mpr ⟨_, hmem, rfl⟩)
      have hothers := ih hdistinct.2 hmem
      rw [lookup] at hothers ⊢
      rw [List.map_cons, List.find?_cons_of_neg (by simp [hne])]
      exact hothers

/-- **Each value is found** in a table that has what was written under the names. -/
theorem IsLawful.gather {fields : Fields τ} (h : fields.IsLawful) (surplus : Surplus) (values : τ)
    {table : List (Option String × Node)}
    (htable : ∀ entry ∈ fields.writeTable values, lookup entry.1 table = some entry.2) :
    fields.gather surplus table = .ok values := by
  induction h with
  | nil => rfl
  | cons hcodec hname hrest ih =>
    obtain ⟨value, values⟩ := values
    obtain ⟨hfirst, hothers⟩ := List.forall_mem_cons.mp htable
    rw [Fields.gather, hfirst, ih values hothers]
    simp only [hcodec surplus value]
    rfl

end Fields

namespace Record

variable {R : Type} [Record R]

/-- **A record is read as it was written.** -/
theorem read_write (h : (fields (R := R)).IsLawful) (surplus : Surplus) (record : R) :
    read surplus (write record) = .ok record := by
  have hnames := (fields (R := R)).map_fst_writeTable (toTuple record)
  have hdistinct : (((fields (R := R)).writeTable (toTuple record)).map Prod.fst).Nodup :=
    hnames ▸ h.nodup_names
  have hcheck : (fields (R := R)).checkTable surplus [] _ = .ok () := Fields.checkTable_eq_ok
    (fun entry hentry => .inl (h.check?_of_mem surplus (toTuple record) hentry)) hdistinct
    (fun _ _ => List.not_mem_nil)
  have hgather := h.gather surplus (toTuple record)
    (fun entry hentry => Fields.lookup_of_mem hdistinct hentry)
  change readTable surplus _ true = _
  rw [readTable, hcheck]
  change (Except.map ofTuple (Fields.gather surplus _ _) : Except ReadError R) = _
  rw [hgather]
  exact congrArg Except.ok (ofTuple_toTuple record)

/-- The codec of a record is lawful. -/
theorem isLawful_codec (h : (fields (R := R)).IsLawful) : (codec R).IsLawful := read_write h

end Record

end ResourceWait
