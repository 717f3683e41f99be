import Mathlib.Data.List.Basic
import ResourceWait.Proofs.Records

/-!
# What is read of a record

Reading a record goes through a table twice, once for its faults and once for the values, and keeps
account of the keys that were met. None of this shows in a document that was parsed from end to end, in
which no table has a key twice (`Node.IsParsed`): there a table is read as the record whose fields each
have what stands under their name, or their value for being absent (`Record.read_map_eq_ok_iff`), and a
list as the record of its values in a row (`Record.read_seq_eq_ok_iff`).

Both are equivalences, so they say too which documents are not read.
-/

namespace ResourceWait

/-! ### Parsed documents -/

namespace Node

/-- **A value that was parsed** from end to end: all in it denotes something, every list and table in it
is closed, and no table has a key twice. -/
inductive IsParsed : Node → Prop
  /-- The value of nothing. -/
  | null : IsParsed .null
  /-- A truth value. -/
  | flag (b : Bool) : IsParsed (.flag b)
  /-- An integer. -/
  | int (i : Int) : IsParsed (.int i)
  /-- A double. -/
  | float (x : Double) : IsParsed (.float x)
  /-- A text. -/
  | text (s : String) : IsParsed (.text s)
  /-- A list. -/
  | seq {items : List Node} (hitems : ∀ item ∈ items, IsParsed item) : IsParsed (.seq items)
  /-- A table. -/
  | map {table : List (String × Node)} (hdistinct : (table.map Prod.fst).Nodup)
      (hvalues : ∀ entry ∈ table, IsParsed entry.2) : IsParsed (.map table)

/-- Values in a row are whole if each of them is. -/
theorem areWhole_of_forall {items : List Node} (h : ∀ item ∈ items, item.isWhole = true) :
    areWhole items = true := by
  induction items with
  | nil => rfl
  | cons item items ih =>
    obtain ⟨hitem, hitems⟩ := List.forall_mem_cons.mp h
    rw [areWhole, hitem, ih hitems]
    rfl

/-- A list is whole if its values are. -/
theorem isWhole_seq {items : List Node} (h : ∀ item ∈ items, item.isWhole = true) :
    (seq items).isWhole = true := by
  rw [isWhole, areWhole_of_forall h]
  rfl

/-- Fields are whole if their values are. -/
theorem fieldsAreWhole_map {table : List (String × Node)}
    (h : ∀ entry ∈ table, entry.2.isWhole = true) :
    fieldsAreWhole (table.map fun (key, value) => (some key, value)) = true := by
  induction table with
  | nil => rfl
  | cons entry table ih =>
    obtain ⟨hentry, htable⟩ := List.forall_mem_cons.mp h
    rw [List.map_cons, fieldsAreWhole, hentry, ih htable]
    rfl

/-- A table is whole if its values are. -/
theorem isWhole_map {table : List (String × Node)} (h : ∀ entry ∈ table, entry.2.isWhole = true) :
    (map table).isWhole = true := by
  rw [map, isWhole, fieldsAreWhole_map h]
  rfl

/-- **A parsed value is whole.** -/
theorem IsParsed.isWhole {node : Node} (h : node.IsParsed) : node.isWhole = true := by
  induction h with
  | seq _ ih => exact isWhole_seq ih
  | map _ _ ih => exact isWhole_map ih
  | _ => rfl

/-- Tables of different fields are different. -/
theorem map_injective : Function.Injective map := by
  intro table others h
  have hinjective : Function.Injective fun entry : String × Node => (some entry.1, entry.2) := by
    rintro ⟨_, _⟩ ⟨_, _⟩ heq
    cases heq
    rfl
  exact List.map_injective_iff.mpr hinjective (Node.table.inj h).1

/-- **A table was parsed** if its keys are different and its values were. -/
theorem isParsed_map_iff {table : List (String × Node)} :
    (map table).IsParsed ↔ (table.map Prod.fst).Nodup ∧ ∀ entry ∈ table, entry.2.IsParsed := by
  refine ⟨fun h => ?_, fun ⟨hdistinct, hvalues⟩ => .map hdistinct hvalues⟩
  generalize hnode : map table = node at h
  cases h with
  | map hdistinct hvalues =>
    obtain rfl := map_injective hnode
    exact ⟨hdistinct, hvalues⟩
  | _ => cases hnode

end Node

/-! ### Tables -/

namespace Fields

variable {τ : Type} {surplus : Surplus}

/-- A value is found as under the text of its key. -/
theorem lookup_map_some (name : String) (table : List (String × Node)) :
    lookup name (table.map fun (key, node) => (some key, node)) = table.lookup name := by
  induction table with
  | nil => rfl
  | cons entry table ih =>
    obtain ⟨key, node⟩ := entry
    by_cases heq : key = name
    · subst heq
      simp [lookup]
    · rw [lookup] at ih ⊢
      rw [List.map_cons, List.find?_cons_of_neg (by simpa using heq), ih, List.lookup_cons,
        beq_false_of_ne (Ne.symm heq)]

/-- **Values taken from a table**: each is read from what stands under its name, or is the one for being
absent. -/
def Takes (surplus : Surplus) (table : List (String × Node)) : {τ : Type} → Fields τ → τ → Prop
  | _, nil, _ => True
  | _, cons field rest, (value, values) =>
    (match table.lookup field.name with
      | some node => field.codec.read surplus node = .ok value
      | none => field.absent = some value)
    ∧ rest.Takes surplus table values

/-- **The values that are gathered** are those taken. -/
theorem gather_eq_ok_iff {fields : Fields τ} {table : List (String × Node)} {values : τ} :
    fields.gather surplus (table.map fun (key, node) => (some key, node)) = .ok values
      ↔ fields.Takes surplus table values := by
  induction fields with
  | nil => exact iff_of_true rfl trivial
  | cons field rest ih =>
    obtain ⟨value, values⟩ := values
    rw [gather, lookup_map_some, Takes]
    have hrest (first : _) :
        (rest.gather surplus (table.map fun (key, node) => (some key, node)) >>= fun values =>
          (pure (first, values) : Except ReadError _)) = .ok (value, values)
          ↔ first = value ∧ rest.Takes surplus table values := by
      rw [bind_eq_ok_iff, ← ih]
      constructor
      · rintro ⟨others, hothers, heq⟩
        cases heq
        exact ⟨rfl, hothers⟩
      · rintro ⟨rfl, hothers⟩
        exact ⟨values, hothers, rfl⟩
    cases table.lookup field.name with
    | some node => simp only [bind_eq_ok_iff, hrest]; simp
    | none =>
      cases field.absent with
      | none =>
        refine iff_of_false ?_ ?_
        · intro h
          cases h
        · rintro ⟨h, -⟩
          cases h
      | some usual =>
        rw [Option.some.injEq]
        exact hrest usual

/-- A name that no field has is not known. -/
theorem check?_of_not_mem {fields : Fields τ} {name : String} (h : name ∉ fields.names)
    (node : Node) : fields.check? surplus name node = none := by
  induction fields with
  | nil => rfl
  | cons field rest ih =>
    rw [names, List.mem_cons, not_or] at h
    rw [check?, if_neg (Ne.symm h.1), ih h.2]

/-- **What is taken can be read.** -/
theorem Takes.check? {fields : Fields τ} {table : List (String × Node)} {values : τ}
    (h : fields.Takes surplus table values) {name : String} {node : Node}
    (hlookup : table.lookup name = some node) (hname : name ∈ fields.names) :
    fields.check? surplus name node = some (.ok ()) := by
  induction fields with
  | nil => cases hname
  | cons field rest ih =>
    obtain ⟨value, values⟩ := values
    obtain ⟨hfirst, hrest⟩ := h
    rw [Fields.check?]
    split
    · rename_i heq
      subst heq
      rw [hlookup] at hfirst
      rw [hfirst]
      rfl
    · rename_i hne
      exact ih hrest ((List.mem_cons.mp hname).resolve_left fun heq => hne heq.symm)

/-- There is no fault in a parsed table from which all values can be taken. -/
theorem Takes.checkTable {fields : Fields τ} {table : List (String × Node)} {values : τ}
    (h : fields.Takes surplus table values) (hparsed : (Node.map table).IsParsed) :
    fields.checkTable surplus [] (table.map fun (key, node) => (some key, node)) = .ok () := by
  obtain ⟨hdistinct, hvalues⟩ := Node.isParsed_map_iff.mp hparsed
  refine checkTable_eq_ok (fun entry hentry => ?_) hdistinct fun _ _ => List.not_mem_nil
  by_cases hname : entry.1 ∈ fields.names
  · have hlookup := lookup_of_mem hdistinct hentry
    rw [lookup_map_some] at hlookup
    exact .inl (h.check? hlookup hname)
  · exact .inr ⟨check?_of_not_mem hname _, (hvalues entry hentry).isWhole⟩

end Fields

namespace Record

variable {R : Type} [Record R] {surplus : Surplus} {record : R}

/-- **A record that is read from a table** has values that are taken from it. -/
theorem takes_of_read_map {table : List (String × Node)}
    (h : read surplus (.map table) = .ok record) :
    (fields (R := R)).Takes surplus table (toTuple record) := by
  replace h : readTable surplus _ true = .ok record := h
  rw [readTable, bind_eq_ok_iff] at h
  obtain ⟨_, -, h⟩ := h
  rw [← Fields.gather_eq_ok_iff]
  cases hgather : (fields (R := R)).gather surplus
    (table.map fun (key, node) => (some key, node)) with
  | error e =>
    rw [hgather] at h
    cases h
  | ok values =>
    rw [hgather] at h
    cases h
    rw [toTuple_ofTuple]

/-- **A parsed table is read as the record whose values are taken from it.** -/
theorem read_map_eq_ok_iff {table : List (String × Node)} (hparsed : (Node.map table).IsParsed) :
    read surplus (.map table) = .ok record
      ↔ (fields (R := R)).Takes surplus table (toTuple record) := by
  refine ⟨takes_of_read_map, fun htakes => ?_⟩
  change readTable surplus _ true = _
  rw [readTable, htakes.checkTable hparsed]
  change Except.map ofTuple _ = _
  rw [Fields.gather_eq_ok_iff.mpr htakes]
  exact congrArg Except.ok (ofTuple_toTuple record)

end Record

/-! ### Lists -/

namespace Fields

variable {τ : Type} {surplus : Surplus}

/-- **Values taken from a list**: one after the other, and where the list ends before the fields do, those
for being absent. `left` is what the list holds beyond the last field. -/
def TakesInRow (surplus : Surplus) (left : List Node) :
    {τ : Type} → Fields τ → τ → List Node → Prop
  | _, nil, _, items => items = left
  | _, cons field rest, (value, values), [] =>
    field.absent = some value ∧ rest.TakesInRow surplus left values []
  | _, cons field rest, (value, values), item :: items =>
    field.codec.read surplus item = .ok value ∧ rest.TakesInRow surplus left values items

/-- **The values that are read from a closed list** are those taken. -/
theorem takeItems_eq_ok_iff {fields : Fields τ} {tooShort : Nat → DataError} {position : Nat}
    {items left : List Node} {values : τ} :
    fields.takeItems surplus true tooShort position items = .ok (values, left)
      ↔ fields.TakesInRow surplus left values items := by
  induction fields generalizing position items with
  | nil =>
    rw [takeItems, TakesInRow]
    exact ⟨fun h => (Prod.mk.inj (Except.ok.inj h)).2, fun h => h ▸ rfl⟩
  | cons field rest ih =>
    obtain ⟨value, values⟩ := values
    have hrest (first : _) (others : List Node) (next : Nat) :
        (rest.takeItems surplus true tooShort next others >>= fun read =>
          (pure ((first, read.1), read.2) : Except ReadError _)) = .ok ((value, values), left)
          ↔ first = value ∧ rest.TakesInRow surplus left values others := by
      rw [bind_eq_ok_iff, ← ih]
      constructor
      · rintro ⟨⟨_, _⟩, hothers, heq⟩
        cases heq
        exact ⟨rfl, hothers⟩
      · rintro ⟨rfl, hothers⟩
        exact ⟨_, hothers, rfl⟩
    cases items with
    | nil =>
      rw [takeItems, TakesInRow]
      cases field.absent with
      | none => simp
      | some usual => simpa using hrest usual [] (position + 1)
    | cons item items =>
      rw [takeItems, TakesInRow, bind_eq_ok_iff]
      simp only [hrest]
      simp

end Fields

namespace Record

variable {R : Type} [Record R] {surplus : Surplus} {record : R}

/-- **A list is read as the record whose values it holds in a row.** What it holds beyond the last field
has to be nothing, unless nobody looks at it. -/
theorem read_seq_eq_ok_iff {items : List Node} :
    read surplus (.seq items) = .ok record
      ↔ ∃ left, (fields (R := R)).TakesInRow surplus left (toTuple record) items
        ∧ (left = [] ∨ surplus = .ignored) := by
  change readList surplus items true = _ ↔ _
  rw [readList, bind_eq_ok_iff]
  constructor
  · rintro ⟨⟨values, left⟩, hvalues, h⟩
    dsimp only at h
    cases left with
    | nil =>
      cases h
      rw [toTuple_ofTuple]
      exact ⟨[], Fields.takeItems_eq_ok_iff.mp hvalues, .inl rfl⟩
    | cons extra left =>
      cases surplus with
      | ignored =>
        cases h
        rw [toTuple_ofTuple]
        exact ⟨extra :: left, Fields.takeItems_eq_ok_iff.mp hvalues, .inr rfl⟩
      | malformed => cases h
      | counted => cases h
  · rintro ⟨left, hvalues, hleft⟩
    refine ⟨(toTuple record, left), Fields.takeItems_eq_ok_iff.mpr hvalues, ?_⟩
    dsimp only
    rw [ofTuple_toTuple]
    obtain rfl | rfl := hleft
    · rfl
    · cases left <;> rfl

end Record

end ResourceWait
