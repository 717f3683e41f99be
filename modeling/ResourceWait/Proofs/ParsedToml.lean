import Mathlib.Data.List.Infix
import Mathlib.Data.List.Nodup
import ResourceWait.Proofs.Documents
import ResourceWait.Proofs.Reading

/-!
# What is read of a TOML text

Whatever TOML document a text holds, the value that it stands for is a table that was parsed from end to
end (`Node.IsParsed`): no table in it has a key twice, however its tables were defined, by headers, by
dotted keys or in braces (`isParsed_of_read`).

All ways of defining a table come down to putting an item under a key (`Table.put`) and to leaving one
out (`Table.without`), and neither makes a key come twice. So tables stay parsed along every path that is
changed (`Table.IsParsed.modifyAt`), and from there along every statement of a document.
-/

namespace ResourceWait.Toml

open ResourceWait.Node (isParsed_map_iff)

/-! ### Tables -/

/-- What stands under a key is a parsed value. -/
def Item.IsParsed (item : Item) : Prop := (Table.nodeOfItem item).IsParsed

/-- A table is a parsed value. -/
def Table.IsParsed (table : Table) : Prop := table.toNode.IsParsed

namespace Table

/-- The values under the keys of a table. -/
def entries (table : Table) : List (String × Node) :=
  table.fields.map fun (key, item) => (key, nodeOfItem item)

/-- The fields of a table are those of a document under the same keys. -/
theorem nodesOfFields_eq (fields : List (String × Item)) :
    nodesOfFields fields
      = (fields.map fun (key, item) => (key, nodeOfItem item)).map
        fun (key, node) => (some key, node) := by
  induction fields with
  | nil => rfl
  | cons field fields ih => rw [nodesOfFields, ih, List.map_cons, List.map_cons]

/-- **The value of a table** has its values under the same keys. -/
theorem toNode_eq (table : Table) : table.toNode = .map table.entries := by
  obtain ⟨implicit, dotted, fields⟩ := table
  rw [toNode, nodeOfTable, nodesOfFields_eq]
  rfl

/-- The values of tables in a row. -/
theorem nodesOfTables_eq (tables : List Table) : nodesOfTables tables = tables.map toNode := by
  induction tables with
  | nil => rfl
  | cons table tables ih => rw [nodesOfTables, ih, List.map_cons, toNode]

/-- **A table is parsed** if its keys are different and what stands under them is parsed. -/
theorem isParsed_iff {table : Table} :
    table.IsParsed
      ↔ (table.fields.map Prod.fst).Nodup ∧ ∀ field ∈ table.fields, field.2.IsParsed := by
  rw [IsParsed, toNode_eq, isParsed_map_iff, entries, List.map_map, List.forall_mem_map]
  rfl

/-- A table without fields is parsed. -/
theorem isParsed_of_fields_eq_nil {table : Table} (h : table.fields = []) : table.IsParsed := by
  rw [isParsed_iff, h]
  exact ⟨List.nodup_nil, List.forall_mem_nil _⟩

/-- Tables in a row are parsed if each of them is. -/
theorem isParsed_tables_iff {tables : List Table} :
    (Item.tables tables).IsParsed ↔ ∀ table ∈ tables, table.IsParsed := by
  rw [Item.IsParsed, nodeOfItem, nodesOfTables_eq]
  constructor
  · intro h table htable
    cases h with
    | seq hitems => exact hitems _ (List.mem_map_of_mem htable)
  · exact fun h => .seq (List.forall_mem_map.mpr h)

/-- A key that is put among others comes once. -/
theorem keys_put (key : String) (item : Item) (fields : List (String × Item)) :
    (put key item fields).map Prod.fst
      = if key ∈ fields.map Prod.fst then fields.map Prod.fst else fields.map Prod.fst ++ [key] := by
  induction fields with
  | nil => rfl
  | cons field fields ih =>
    obtain ⟨k, i⟩ := field
    by_cases hkey : k = key
    · simp [put, hkey]
    · rw [put, if_neg hkey, List.map_cons, ih]
      simp only [List.map_cons, List.mem_cons, Ne.symm hkey, false_or, List.cons_append]
      split <;> rfl

/-- What stands among fields after one was put is that one, or stood there before. -/
theorem mem_put {key : String} {item : Item} {fields : List (String × Item)} {field : String × Item}
    (h : field ∈ put key item fields) : field = (key, item) ∨ field ∈ fields := by
  induction fields with
  | nil => exact .inl (List.mem_singleton.mp h)
  | cons first fields ih =>
    obtain ⟨k, i⟩ := first
    rw [put] at h
    split at h
    · rename_i hkey
      subst hkey
      obtain rfl | hmem := List.mem_cons.mp h
      · exact .inl rfl
      · exact .inr (List.mem_cons_of_mem _ hmem)
    · obtain rfl | hmem := List.mem_cons.mp h
      · exact .inr List.mem_cons_self
      · exact (ih hmem).imp_right (List.mem_cons_of_mem _)

/-- **A table with a parsed item put under a key** is parsed. -/
theorem IsParsed.set {table : Table} (h : table.IsParsed) (key : String) {item : Item}
    (hitem : item.IsParsed) : (table.set key item).IsParsed := by
  obtain ⟨implicit, dotted, fields⟩ := table
  obtain ⟨hdistinct, hitems⟩ := isParsed_iff.mp h
  refine isParsed_iff.mpr ⟨?_, fun field hfield => ?_⟩
  · change ((put key item fields).map Prod.fst).Nodup
    rw [keys_put]
    split
    · exact hdistinct
    · rename_i hnew
      exact List.nodup_append.mpr ⟨hdistinct, List.nodup_singleton key, fun k hk l hl heq =>
        hnew (List.mem_singleton.mp hl ▸ heq ▸ hk)⟩
  · obtain rfl | hmem := mem_put hfield
    · exact hitem
    · exact hitems field hmem

/-- **A table with an item left out** is parsed. -/
theorem IsParsed.without {table : Table} (h : table.IsParsed) (key : String) :
    (table.withFields (without key table.fields)).IsParsed := by
  obtain ⟨implicit, dotted, fields⟩ := table
  obtain ⟨hdistinct, hitems⟩ := isParsed_iff.mp h
  have hsublist : (Table.without key fields).Sublist fields := List.filter_sublist
  exact isParsed_iff.mpr
    ⟨hdistinct.sublist (hsublist.map Prod.fst), fun field hfield => hitems field (hsublist.mem hfield)⟩

/-- What stands under a key of a parsed table is parsed. -/
theorem IsParsed.get? {table : Table} (h : table.IsParsed) {key : String} {item : Item}
    (hget : table.get? key = some item) : item.IsParsed := by
  obtain ⟨before, after, hfields, -⟩ := List.lookup_eq_some_iff.mp hget
  refine (isParsed_iff.mp h).2 (key, item) ?_
  rw [hfields]
  exact List.mem_append_right before List.mem_cons_self

/-- **A change at the end of a path** leaves a parsed table if it does so there. -/
theorem IsParsed.modifyAt {dotted : Bool} {change : Table → Option Table}
    (hchange : ∀ table changed : Table, table.IsParsed → change table = some changed → changed.IsParsed)
    {path : List String} {table changed : Table} (h : table.IsParsed)
    (hmodify : Table.modifyAt dotted change path table = some changed) : changed.IsParsed := by
  induction path generalizing table changed with
  | nil => exact hchange table changed h hmodify
  | cons key path ih =>
    rw [Table.modifyAt] at hmodify
    split at hmodify
    · obtain ⟨inner, hinner, heq⟩ := Option.bind_eq_some_iff.mp hmodify
      cases heq
      exact h.set key (ih (isParsed_of_fields_eq_nil rfl) hinner)
    · cases hmodify
    · rename_i inner hget
      split at hmodify
      · cases hmodify
      · obtain ⟨inner', hinner, heq⟩ := Option.bind_eq_some_iff.mp hmodify
        cases heq
        exact h.set key (ih (h.get? hget) hinner)
    · rename_i inners hget
      have hinners := isParsed_tables_iff.mp (h.get? hget)
      obtain ⟨last, hlast, hmodify⟩ := Option.bind_eq_some_iff.mp hmodify
      obtain ⟨last', hlast', heq⟩ := Option.bind_eq_some_iff.mp hmodify
      cases heq
      refine h.set key (isParsed_tables_iff.mpr ?_)
      rw [List.forall_mem_append]
      refine ⟨fun table hmem => hinners table (List.mem_of_mem_dropLast hmem), ?_⟩
      rw [List.forall_mem_singleton]
      exact ih (hinners last (List.mem_of_getLast? hlast)) hlast'

/-- **A table with a parsed value under one more key** is parsed. -/
theorem IsParsed.define {path : List String} {key : String} {value : Node} {table changed : Table}
    (h : table.IsParsed) (hvalue : value.IsParsed)
    (hdefine : table.define path key value = some changed) : changed.IsParsed := by
  refine h.modifyAt (fun inner inner' hinner hset => ?_) hdefine
  split at hset
  · cases hset
  · cases hset
    exact hinner.set key hvalue

/-- The table at the end of a path in a parsed table is parsed. -/
theorem IsParsed.at? {path : List String} {table found : Table} (h : table.IsParsed)
    (hfound : table.at? path = some found) : found.IsParsed := by
  induction path generalizing table with
  | nil =>
    cases hfound
    exact h
  | cons key path ih =>
    rw [Table.at?] at hfound
    split at hfound
    · cases hfound
      exact isParsed_of_fields_eq_nil rfl
    · cases hfound
    · rename_i inner hget
      exact ih (h.get? hget) hfound
    · rename_i inners hget
      obtain ⟨last, hlast, hfound⟩ := Option.bind_eq_some_iff.mp hfound
      exact ih (isParsed_tables_iff.mp (h.get? hget) last (List.mem_of_getLast? hlast)) hfound

end Table

/-- **What every step keeps, a run of steps keeps**, as long as the steps are of a kind. -/
theorem foldlM_keeps {α β : Type} {step : β → α → Option β} {P : β → Prop} {Q : α → Prop}
    (hstep : ∀ state input next, P state → Q input → step state input = some next → P next)
    {inputs : List α} (hinputs : ∀ input ∈ inputs, Q input) {state final : β} (h : P state)
    (hrun : inputs.foldlM step state = some final) : P final := by
  induction inputs generalizing state with
  | nil =>
    cases hrun
    exact h
  | cons input inputs ih =>
    obtain ⟨hinput, hinputs⟩ := List.forall_mem_cons.mp hinputs
    obtain ⟨next, hnext, hrun⟩ := Option.bind_eq_some_iff.mp hrun
    exact ih hinputs (hstep state input next h hinput hnext) hrun

/-- **The table in braces** is parsed if its values are. -/
theorem Table.isParsed_of_ofPairs {pairs : List (List String × String × Node)}
    (hpairs : ∀ pair ∈ pairs, pair.2.2.IsParsed) {table : Table} (h : ofPairs pairs = some table) :
    table.IsParsed := by
  have hempty : empty.IsParsed := isParsed_of_fields_eq_nil rfl
  refine foldlM_keeps (fun table pair next htable hpair hnext => ?_) hpairs hempty h
  exact htable.define hpair hnext

/-! ### Values -/

/-- What is read in one of two ways is read in the first or in the second. -/
theorem eq_some_of_orElse {α : Type} {x y : Option α} {a : α} (h : (x <|> y) = some a) :
    x = some a ∨ y = some a := by
  cases x with
  | none => exact .inr h
  | some b => exact .inl h

/-- A date is a parsed value. -/
theorem isParsed_of_scanMoment {cs rest : List Char} {node : Node}
    (h : scanMoment cs = some (node, rest)) : node.IsParsed := by
  obtain ⟨behind, -, heq⟩ := Option.bind_eq_some_iff.mp h
  cases heq
  refine isParsed_map_iff.mpr ⟨List.nodup_singleton _, ?_⟩
  rw [List.forall_mem_singleton]
  exact .text _

/-- An integer that 64 bits hold is a parsed value. -/
theorem isParsed_of_boundedInt? {i : Int} {node : Node} (h : boundedInt? i = some node) :
    node.IsParsed := by
  rw [boundedInt?] at h
  split at h
  · cases h
    exact .int i
  · cases h

/-- An integer in a base is a parsed value. -/
theorem isParsed_of_scanBased {base : Nat} {cs rest : List Char} {node : Node}
    (h : scanBased base cs = some (node, rest)) : node.IsParsed := by
  obtain ⟨⟨digits, after⟩, -, h⟩ := Option.bind_eq_some_iff.mp h
  obtain ⟨value, hvalue, heq⟩ := Option.bind_eq_some_iff.mp h
  cases heq
  exact isParsed_of_boundedInt? hvalue

/-- An integer is a parsed value. -/
theorem isParsed_of_scanInt {cs rest : List Char} {node : Node}
    (h : scanInt cs = some (node, rest)) : node.IsParsed := by
  rw [scanInt.eq_def] at h
  split at h
  · exact isParsed_of_scanBased h
  · exact isParsed_of_scanBased h
  · exact isParsed_of_scanBased h
  · obtain ⟨⟨digits, after⟩, -, h⟩ := Option.bind_eq_some_iff.mp h
    obtain ⟨value, hvalue, heq⟩ := Option.bind_eq_some_iff.mp h
    cases heq
    exact isParsed_of_boundedInt? hvalue

/-- A double is a parsed value. -/
theorem isParsed_of_scanDecimal {cs rest : List Char} {node : Node}
    (h : scanDecimal cs = some (node, rest)) : node.IsParsed := by
  obtain ⟨⟨whole, behindWhole⟩, -, h⟩ := Option.bind_eq_some_iff.mp h
  obtain ⟨⟨decimals, behindDecimals⟩, -, h⟩ := Option.bind_eq_some_iff.mp h
  obtain ⟨⟨exponent, after⟩, -, h⟩ := Option.bind_eq_some_iff.mp h
  dsimp only at h
  split at h
  · cases h
  · split at h
    · cases h
    · cases h
      exact .float _

/-- Infinity is a parsed value, and so is what is no number. -/
theorem isParsed_of_scanSpecial {cs rest : List Char} {node : Node}
    (h : scanSpecial cs = some (node, rest)) : node.IsParsed := by
  rw [scanSpecial] at h
  obtain ⟨negative, unsigned⟩ := scanSign cs
  dsimp only at h
  split at h
  · cases h
    exact .float _
  · cases h
    exact .float _
  · cases h

/-- **A value that is neither a list nor a table** is a parsed value. -/
theorem isParsed_of_scanScalar {cs rest : List Char} {node : Node}
    (h : scanScalar cs = some (node, rest)) : node.IsParsed := by
  cases cs with
  | nil => cases h
  | cons c cs =>
    rw [scanScalar] at h
    split_ifs at h
    · obtain ⟨⟨text, after⟩, -, heq⟩ := Option.map_eq_some_iff.mp h
      cases heq
      exact .text _
    · obtain ⟨after, -, heq⟩ := Option.map_eq_some_iff.mp h
      cases heq
      exact .flag true
    · obtain ⟨after, -, heq⟩ := Option.map_eq_some_iff.mp h
      cases heq
      exact .flag false
    · obtain hmoment | hnumber := eq_some_of_orElse h
      · exact isParsed_of_scanMoment hmoment
      · obtain hdecimal | hothers := eq_some_of_orElse hnumber
        · exact isParsed_of_scanDecimal hdecimal
        · obtain hspecial | hint := eq_some_of_orElse hothers
          · exact isParsed_of_scanSpecial hspecial
          · exact isParsed_of_scanInt hint

/-- **Values are parsed**, those of lists and those under the keys of tables too. -/
theorem isParsed_of_scan (fuel : Nat) :
    (∀ {depth : Nat} {cs rest : List Char} {node : Node},
      scanValue fuel depth cs = some (node, rest) → node.IsParsed)
    ∧ (∀ {depth : Nat} {cs rest : List Char} {items : List Node},
      scanItems fuel depth cs = some (items, rest) → ∀ item ∈ items, item.IsParsed)
    ∧ ∀ {depth : Nat} {cs rest : List Char} {pairs : List (List String × String × Node)},
      scanPairs fuel depth cs = some (pairs, rest) → ∀ pair ∈ pairs, pair.2.2.IsParsed := by
  -- values, lists and tables call each other with one step less
  induction fuel with
  | zero =>
    refine ⟨?_, ?_, ?_⟩ <;>
    · intro _ _ _ _ h
      cases h
  | succ fuel ih =>
    obtain ⟨ihvalue, ihitems, ihpairs⟩ := ih
    refine ⟨fun {depth cs rest node} h => ?value, fun {depth cs rest items} h => ?items,
      fun {depth cs rest pairs} h => ?pairs⟩
    case value =>
      rw [scanValue.eq_def] at h
      dsimp only at h
      split at h
      · split at h
        · cases h
        · obtain ⟨⟨items, after⟩, hitems, heq⟩ := Option.map_eq_some_iff.mp h
          cases heq
          exact .seq (ihitems hitems)
      · split at h
        · cases h
        · split at h
          · cases h
            exact Table.isParsed_of_fields_eq_nil rfl
          · obtain ⟨⟨pairs, after⟩, hpairs, h⟩ := Option.bind_eq_some_iff.mp h
            obtain ⟨table, htable, heq⟩ := Option.bind_eq_some_iff.mp h
            cases heq
            exact Table.isParsed_of_ofPairs (ihpairs hpairs) htable
      · exact isParsed_of_scanScalar h
    case items =>
      rw [scanItems.eq_def] at h
      dsimp only at h
      split at h
      · cases h
        exact List.forall_mem_nil _
      · obtain ⟨⟨item, after⟩, hitem, h⟩ := Option.bind_eq_some_iff.mp h
        dsimp only at h
        split at h
        · cases h
          rw [List.forall_mem_singleton]
          exact ihvalue hitem
        · obtain ⟨⟨others, behindAll⟩, hothers, heq⟩ := Option.bind_eq_some_iff.mp h
          cases heq
          exact List.forall_mem_cons.mpr ⟨ihvalue hitem, ihitems hothers⟩
        · cases h
    case pairs =>
      obtain ⟨⟨⟨path, key⟩, behindKey⟩, -, h⟩ := Option.bind_eq_some_iff.mp h
      obtain ⟨behindSign, -, h⟩ := Option.bind_eq_some_iff.mp h
      obtain ⟨⟨value, after⟩, hvalue, h⟩ := Option.bind_eq_some_iff.mp h
      dsimp only at h
      split at h
      · cases h
        rw [List.forall_mem_singleton]
        exact ihvalue hvalue
      · obtain ⟨⟨others, behindAll⟩, hothers, heq⟩ := Option.bind_eq_some_iff.mp h
        cases heq
        exact List.forall_mem_cons.mpr ⟨ihvalue hvalue, ihpairs hothers⟩
      · cases h

/-! ### Documents -/

/-- A statement gives its key a parsed value, if it gives one. -/
def Statement.IsParsed : Statement → Prop
  | .pair _ _ value => value.IsParsed
  | _ => True

/-- A statement that is read gives its key a parsed value. -/
theorem isParsed_of_scanStatement {cs rest : List Char} {statement : Statement}
    (h : scanStatement cs = some (statement, rest)) : statement.IsParsed := by
  rw [scanStatement.eq_def] at h
  split at h
  · obtain ⟨⟨⟨path, key⟩, behindKey⟩, -, h⟩ := Option.bind_eq_some_iff.mp h
    obtain ⟨after, -, heq⟩ := Option.bind_eq_some_iff.mp h
    cases heq
    trivial
  · obtain ⟨⟨⟨path, key⟩, behindKey⟩, -, h⟩ := Option.bind_eq_some_iff.mp h
    obtain ⟨after, -, heq⟩ := Option.bind_eq_some_iff.mp h
    cases heq
    trivial
  · obtain ⟨⟨⟨path, key⟩, behindKey⟩, -, h⟩ := Option.bind_eq_some_iff.mp h
    obtain ⟨behindSign, -, h⟩ := Option.bind_eq_some_iff.mp h
    obtain ⟨⟨value, after⟩, hvalue, heq⟩ := Option.bind_eq_some_iff.mp h
    cases heq
    exact (isParsed_of_scan _).1 hvalue

/-- So do all statements of a text. -/
theorem isParsed_of_scanStatements {fuel : Nat} {cs : List Char} {statements : List Statement}
    (h : scanStatements fuel cs = some statements) :
    ∀ statement ∈ statements, statement.IsParsed := by
  induction fuel generalizing cs statements with
  | zero => cases h
  | succ fuel ih =>
    rw [scanStatements] at h
    split at h
    · cases h
      exact List.forall_mem_nil _
    · split at h
      · obtain ⟨after, -, h⟩ := Option.bind_eq_some_iff.mp h
        exact ih h
      · obtain ⟨⟨statement, behind⟩, hstatement, h⟩ := Option.bind_eq_some_iff.mp h
        obtain ⟨after, -, h⟩ := Option.bind_eq_some_iff.mp h
        obtain ⟨others, hothers, heq⟩ := Option.bind_eq_some_iff.mp h
        cases heq
        exact List.forall_mem_cons.mpr ⟨isParsed_of_scanStatement hstatement, ih hothers⟩

namespace Document

/-- **The tables of a document are parsed**, the one that is being built too. -/
structure IsParsed (document : Document) : Prop where
  /-- The complete tables are. -/
  root : document.root.IsParsed
  /-- So is the one being built. -/
  current : document.current.IsParsed

/-- Putting the current table into its place leaves a parsed table. -/
theorem IsParsed.finishTable {document : Document} (h : document.IsParsed) {table : Table}
    (hfinish : document.finishTable = some table) : table.IsParsed := by
  rw [Document.finishTable] at hfinish
  split at hfinish
  · cases hfinish
    exact h.current
  · refine h.root.modifyAt (fun parent changed hparent hchange => ?_) hfinish
    split at hchange
    · rename_i tables hget
      cases hchange
      refine hparent.set _ (Table.isParsed_tables_iff.mpr ?_)
      rw [List.forall_mem_append, List.forall_mem_singleton]
      exact ⟨Table.isParsed_tables_iff.mp (hparent.get? hget), h.current⟩
    · cases hchange
      refine hparent.set _ (Table.isParsed_tables_iff.mpr ?_)
      rw [List.forall_mem_singleton]
      exact h.current
    · cases hchange
  · refine h.root.modifyAt (fun parent changed hparent hchange => ?_) hfinish
    split at hchange
    · cases hchange
      exact hparent.set _ h.current
    · cases hchange

/-- A table that is begun is parsed, and so are those that are complete. -/
theorem isParsed_of_startTable {root : Table} (h : root.IsParsed) {path : List String} {key : String}
    {document : Document} (hstart : startTable root path key = some document) :
    document.IsParsed := by
  obtain ⟨parent, hparent, hstart⟩ := Option.bind_eq_some_iff.mp hstart
  split at hstart
  · obtain ⟨others, hothers, heq⟩ := Option.bind_eq_some_iff.mp hstart
    cases heq
    refine ⟨h.modifyAt (fun table changed htable hsome => ?_) hothers,
      Table.isParsed_of_fields_eq_nil rfl⟩
    cases hsome
    exact htable
  · rename_i fields hget
    obtain ⟨others, hothers, heq⟩ := Option.bind_eq_some_iff.mp hstart
    cases heq
    refine ⟨h.modifyAt (fun table changed htable hsome => ?_) hothers,
      Table.isParsed_iff.mpr (Table.isParsed_iff.mp ((h.at? hparent).get? hget))⟩
    cases hsome
    exact htable.without key
  · cases hstart

/-- A row that is gone on with leaves parsed tables. -/
theorem isParsed_of_startRow {root : Table} (h : root.IsParsed) {path : List String} {key : String}
    {document : Document} (hstart : startRow root path key = some document) : document.IsParsed := by
  obtain ⟨others, hothers, heq⟩ := Option.bind_eq_some_iff.mp hstart
  cases heq
  refine ⟨h.modifyAt (fun parent changed hparent hchange => ?_) hothers,
    Table.isParsed_of_fields_eq_nil rfl⟩
  split at hchange
  · cases hchange
    exact hparent
  · cases hchange
    exact hparent.set _ (Table.isParsed_tables_iff.mpr (List.forall_mem_nil _))
  · cases hchange

/-- **Every statement leaves parsed tables.** -/
theorem IsParsed.add {document next : Document} (h : document.IsParsed) {statement : Statement}
    (hstatement : statement.IsParsed) (hadd : document.add statement = some next) :
    next.IsParsed := by
  cases statement with
  | pair path key value =>
    obtain ⟨current, hcurrent, heq⟩ := Option.bind_eq_some_iff.mp hadd
    cases heq
    exact ⟨h.root, h.current.define hstatement hcurrent⟩
  | header path key =>
    obtain ⟨root, hroot, hadd⟩ := Option.bind_eq_some_iff.mp hadd
    exact isParsed_of_startTable (h.finishTable hroot) hadd
  | rowHeader path key =>
    obtain ⟨root, hroot, hadd⟩ := Option.bind_eq_some_iff.mp hadd
    exact isParsed_of_startRow (h.finishTable hroot) hadd

/-- **The table that statements define together** is parsed. -/
theorem isParsed_of_ofStatements? {statements : List Statement}
    (hstatements : ∀ statement ∈ statements, statement.IsParsed) {table : Table}
    (h : ofStatements? statements = some table) : table.IsParsed := by
  obtain ⟨document, hdocument, hfinish⟩ := Option.bind_eq_some_iff.mp h
  have hnothing : IsParsed {} :=
    ⟨Table.isParsed_of_fields_eq_nil rfl, Table.isParsed_of_fields_eq_nil rfl⟩
  have hall : document.IsParsed :=
    foldlM_keeps (fun _ _ _ h hstatement => h.add hstatement) hstatements hnothing hdocument
  exact hall.finishTable hfinish

end Document

/-- **What is read of a text** is a parsed table. -/
theorem isParsed_of_read {text : String} {document : Table} (h : read text = some document) :
    document.IsParsed := by
  obtain ⟨statements, hstatements, hdocument⟩ := Option.bind_eq_some_iff.mp h
  exact Document.isParsed_of_ofStatements? (isParsed_of_scanStatements hstatements) hdocument

end ResourceWait.Toml
