import ResourceWait.Proofs.Values
import ResourceWait.Toml.Document

/-!
# Documents are read as they were written

A document as the writer leaves it: lines of plain fields, and then tables of plain fields, each behind
an empty line and a header. Its keys are words, and those of one table are all different.

It is read in two steps, as always. Line by line it gives statements (`Holds`), one for each field and
each header; and these define a table of the same fields, since no key comes twice and every header
stands for a table that is new.
-/

namespace ResourceWait.Toml

/-! ### Keys -/

/-- **A key that needs no quotes.** -/
structure IsWord (key : String) : Prop where
  /-- It is not empty. -/
  nonempty : key.toList ≠ []
  /-- It is made of letters, digits, dashes and underscores. -/
  all : key.toList.all isWordChar = true

/-- What may stand in a word is no space and means nothing else on a line. -/
theorem not_mem_of_isWordChar {c : Char} (hc : isWordChar c = true) :
    c ∉ ['"', '\'', '[', '#', '\n', '\r', ' ', '\t', '\uFEFF'] := by
  intro hmem
  have hall : ['"', '\'', '[', '#', '\n', '\r', ' ', '\t', '\uFEFF'].all
      (!isWordChar ·) = true := by decide
  have hnone := List.all_eq_true.mp hall c hmem
  rw [hc] at hnone
  cases hnone

/-- So a word begins with none of these. -/
theorem ne_of_isWordChar {c : Char} (hc : isWordChar c = true) {d : Char}
    (hd : d ∈ ['"', '\'', '[', '#', '\n', '\r', ' ', '\t', '\uFEFF']) : c ≠ d :=
  (ne_of_mem_of_not_mem hd (not_mem_of_isWordChar hc)).symm

/-- A word has a first character. -/
theorem IsWord.exists_eq_cons {key : String} (h : IsWord key) :
    ∃ c tail, key.toList = c :: tail ∧ isWordChar c = true := by
  cases hkey : key.toList with
  | nil => exact absurd hkey h.nonempty
  | cons c tail => exact ⟨c, tail, rfl, List.all_eq_true.mp h.all c (hkey ▸ List.mem_cons_self)⟩

/-- A word is read up to where it ends. -/
theorem IsWord.scanWord {key : String} (h : IsWord key) {c : Char} (hc : isWordChar c = false)
    (rest : List Char) : scanWord (key.toList ++ c :: rest) = some (key, c :: rest) := by
  have hall := List.all_eq_true.mp h.all
  have htake : (key.toList ++ c :: rest).takeWhile isWordChar = key.toList := by
    rw [List.takeWhile_append_of_pos hall, List.takeWhile_cons_of_neg (by simp [hc]),
      List.append_nil]
  have hdrop : (key.toList ++ c :: rest).dropWhile isWordChar = c :: rest := by
    rw [List.dropWhile_append_of_pos hall, List.dropWhile_cons_of_neg (by simp [hc])]
  have hkey : String.ofList key.toList = key := String.ofList_toList
  obtain ⟨d, tail, heq, hd⟩ := h.exists_eq_cons
  rw [heq] at htake hdrop hkey ⊢
  have hquote : ¬(d = '"' ∨ d = '\'') :=
    fun hor => hor.elim (ne_of_isWordChar hd (by decide)) (ne_of_isWordChar hd (by decide))
  rw [List.cons_append] at htake hdrop ⊢
  simp only [Toml.scanWord, if_neg hquote, htake, hdrop, hkey]

/-- **A word is a key of its own**, unless a dot comes behind it. -/
theorem IsWord.scanKey {key : String} (h : IsWord key) {c d : Char} {rest after : List Char}
    (hc : isWordChar c = false) (hafter : skipBlanks (c :: rest) = d :: after) (hd : d ≠ '.') :
    scanKey (key.toList ++ c :: rest) = some (([], key), d :: after) := by
  have hword := h.scanWord hc rest
  obtain ⟨e, tail, heq, he⟩ := h.exists_eq_cons
  have hskip : skipBlanks (key.toList ++ c :: rest) = key.toList ++ c :: rest := by
    have hblank : isBlank e = false := by simp [isBlank, ne_of_isWordChar he]
    rw [heq, List.cons_append, skipBlanks, List.dropWhile_cons_of_neg (by simp [hblank])]
  have hpath : scanPath (depthLimit - 1) (key.toList ++ c :: rest) = some ([key], d :: after) := by
    rw [show depthLimit - 1 = 78 + 1 from rfl, scanPath, hskip, hword]
    simp only [Option.bind_eq_bind, Option.bind_some, hafter]
    split
    · rename_i heq
      exact absurd (List.cons.inj heq).1 hd
    · rfl
  rw [Toml.scanKey, hpath]
  rfl

/-! ### Statements -/

/-- A written field is the key, the value and the end of the line. -/
theorem exists_of_writeField {key : String} {value : Node} {line : List Char}
    (h : writeField key value = some line) :
    ∃ written, writeValue value = some written
      ∧ line = key.toList ++ ' ' :: '=' :: ' ' :: (written ++ ['\n']) := by
  obtain ⟨written, hwritten, rfl⟩ := Option.map_eq_some_iff.mp h
  exact ⟨written, hwritten, rfl⟩

/-- **A line with a field** is a statement that gives the key its value. -/
theorem scanStatement_field {key : String} (hkey : IsWord key) {value : Node}
    (hvalue : IsLeaf value) {line : List Char} (hline : writeField key value = some line)
    (rest : List Char) :
    scanStatement (line ++ rest) = some (.pair [] key value, '\n' :: rest) := by
  obtain ⟨written, hwritten, rfl⟩ := exists_of_writeField hline
  have hscan := hvalue.scanValue hwritten 78 (.line rest)
  obtain ⟨d, more, rfl, hd⟩ := hvalue.exists_eq_cons hwritten
  have hblanks : skipBlanks (' ' :: (d :: more ++ '\n' :: rest)) = d :: more ++ '\n' :: rest := by
    rw [List.cons_append, skipBlanks, List.dropWhile_cons_of_pos (by decide),
      List.dropWhile_cons_of_neg (by simp [hd])]
  have hafter : skipBlanks (' ' :: '=' :: ' ' :: (d :: more ++ '\n' :: rest))
      = '=' :: ' ' :: (d :: more ++ '\n' :: rest) := rfl
  have hscanKey := hkey.scanKey (by decide) hafter (by decide)
  obtain ⟨e, tail, heq, he⟩ := hkey.exists_eq_cons
  have hsplit : key.toList ++ ' ' :: '=' :: ' ' :: (d :: more ++ ['\n']) ++ rest
      = key.toList ++ ' ' :: '=' :: ' ' :: (d :: more ++ '\n' :: rest) := by simp
  rw [hsplit]
  -- its first character tells the line from a header
  rw [heq, List.cons_append] at hscanKey ⊢
  rw [scanStatement]
  · simp only [hscanKey, Option.bind_eq_bind, Option.bind_some, behindChar?, if_pos, hblanks]
    rw [show depthLimit - 1 = 78 + 1 from rfl, hscan]
    rfl
  · rintro _ h
    exact ne_of_isWordChar he (by decide) (List.cons.inj h).1
  · rintro _ h
    exact ne_of_isWordChar he (by decide) (List.cons.inj h).1

/-- **A header** is a statement that begins a table. -/
theorem scanStatement_header {key : String} (hkey : IsWord key) (rest : List Char) :
    scanStatement ('[' :: (key.toList ++ ']' :: '\n' :: rest))
      = some (.header [] key, '\n' :: rest) := by
  have hafter : skipBlanks (']' :: '\n' :: rest) = ']' :: '\n' :: rest := rfl
  have hscanKey := hkey.scanKey (by decide) hafter (by decide)
  obtain ⟨e, tail, heq, he⟩ := hkey.exists_eq_cons
  rw [heq, List.cons_append] at hscanKey ⊢
  rw [scanStatement]
  · simp only [hscanKey, Option.bind_eq_bind, Option.bind_some, behindChar?, if_pos]
    rfl
  · rintro _ h
    exact ne_of_isWordChar he (by decide) (List.cons.inj h).1

/-- **A text and its statements**, as far as they do not depend on how many lines may come. -/
structure Holds (cs : List Char) (statements : List Statement) : Prop where
  /-- The text does not begin with the mark of byte order. -/
  unmarked : skipMark cs = cs
  /-- It is read whole. -/
  scan : ∀ fuel, cs.length < fuel → scanStatements fuel cs = some statements

namespace Holds

/-- Nothing holds no statement. -/
theorem nil : Holds [] [] where
  unmarked := rfl
  scan fuel hfuel := by
    obtain ⟨fuel, rfl⟩ := Nat.exists_eq_add_one_of_ne_zero (Nat.ne_of_gt hfuel)
    rfl

variable {rest : List Char} {statements : List Statement}

/-- An empty line does not count. -/
theorem blank (h : Holds rest statements) : Holds ('\n' :: rest) statements where
  unmarked := rfl
  scan fuel hfuel := by
    obtain ⟨fuel, rfl⟩ := Nat.exists_eq_add_one_of_ne_zero (Nat.ne_of_gt (Nat.zero_lt_of_lt hfuel))
    exact h.scan fuel (Nat.lt_of_succ_lt_succ hfuel)

/-- A line with a statement comes before the others. -/
theorem line (h : Holds rest statements) {c : Char} {tail : List Char} {statement : Statement}
    (hc : c ∉ ['#', '\n', '\r', ' ', '\t', '\uFEFF'])
    (hstatement : scanStatement (c :: tail) = some (statement, '\n' :: rest))
    (hlength : rest.length ≤ tail.length) : Holds (c :: tail) (statement :: statements) where
  unmarked := by
    have hne : '\uFEFF' ≠ c := ne_of_mem_of_not_mem (by decide) hc
    rw [skipMark]
    exact fun _ heq => hne (List.cons.inj heq).1.symm
  scan fuel hfuel := by
    obtain ⟨fuel, rfl⟩ := Nat.exists_eq_add_one_of_ne_zero (Nat.ne_of_gt (Nat.zero_lt_of_lt hfuel))
    simp only [List.mem_cons, not_or] at hc
    obtain ⟨hcomment, hline, hreturn, hspace, htab, -⟩ := hc
    have hblanks : skipBlanks (c :: tail) = c :: tail := by
      simp [skipBlanks, isBlank, hspace, htab]
    have hothers := h.scan fuel (Nat.lt_of_le_of_lt hlength (Nat.lt_of_succ_lt_succ hfuel))
    have hend : endLine? ('\n' :: rest) = some rest := rfl
    have hempty : ¬(c = '#' ∨ c = '\n' ∨ c = '\r') := by
      simp [hcomment, hline, hreturn]
    simp only [scanStatements, hblanks, if_neg hempty, hstatement, Option.bind_eq_bind,
      Option.bind_some, hend, hothers]
    rfl

end Holds

/-- **Plain fields** that are read as they were written: their keys are words, all different, and their
values hold no tables. -/
structure AreLeaves (fields : List (String × Node)) : Prop where
  /-- The keys are words. -/
  words : ∀ field ∈ fields, IsWord field.1
  /-- The values are leaves. -/
  leaves : ∀ field ∈ fields, IsLeaf field.2
  /-- No key comes twice. -/
  distinct : (fields.map Prod.fst).Nodup

/-- The statements of plain fields. -/
def pairs (fields : List (String × Node)) : List Statement :=
  fields.map fun (key, value) => .pair [] key value

/-- A leaf is no table. -/
theorem IsLeaf.ne_table {value : Node} (h : IsLeaf value) (fields : List (Option String × Node))
    (closed : Bool) : value ≠ .table fields closed := by
  rintro rfl
  cases h with
  | scalar h => cases h

/-- The first of several plain fields has the first line. -/
theorem writePlain_cons {key : String} {value : Node} (hvalue : IsLeaf value)
    (fields : List (String × Node)) :
    writePlain ((key, value) :: fields) = (do
      let line ← writeField key value
      let others ← writePlain fields
      return line ++ others) := by
  rw [writePlain]
  exact hvalue.ne_table

/-- **Lines of fields hold a statement for each.** -/
theorem Holds.plain {fields : List (String × Node)} (hwords : ∀ field ∈ fields, IsWord field.1)
    (hleaves : ∀ field ∈ fields, IsLeaf field.2) {lines : List Char}
    (hlines : writePlain fields = some lines) {rest : List Char} {statements : List Statement}
    (h : Holds rest statements) : Holds (lines ++ rest) (pairs fields ++ statements) := by
  induction fields generalizing lines with
  | nil =>
    cases hlines
    exact h
  | cons field fields ih =>
    obtain ⟨hword, hwords⟩ := List.forall_mem_cons.mp hwords
    obtain ⟨hleaf, hleaves⟩ := List.forall_mem_cons.mp hleaves
    rw [writePlain_cons hleaf] at hlines
    obtain ⟨line, hline, hlines⟩ := Option.bind_eq_some_iff.mp hlines
    obtain ⟨others, hothers, hlines⟩ := Option.bind_eq_some_iff.mp hlines
    cases hlines
    have hstatement := scanStatement_field hword hleaf hline (others ++ rest)
    obtain ⟨written, -, rfl⟩ := exists_of_writeField hline
    obtain ⟨c, tail, heq, hc⟩ := hword.exists_eq_cons
    rw [List.append_assoc]
    rw [heq, List.cons_append, List.cons_append] at hstatement ⊢
    refine (ih hwords hleaves hothers).line (fun hmem => not_mem_of_isWordChar hc ?_) hstatement ?_
    · exact List.mem_append_right ['"', '\'', '['] hmem
    · simp only [List.length_append]
      omega

/-- Tables as fields of the document. -/
def sections (tables : List (String × List (String × Node))) : List (String × Node) :=
  tables.map fun (key, fields) => (key, .map fields)

/-- The statements of tables. -/
def sectionStatements (tables : List (String × List (String × Node))) : List Statement :=
  tables.flatMap fun (key, fields) => .header [] key :: pairs fields

/-- All keys of a table that is written are texts. -/
theorem namedFields_map (fields : List (String × Node)) :
    namedFields (fields.map fun (key, value) => (some key, value)) = fields := by
  induction fields with
  | nil => rfl
  | cons field fields ih => exact congrArg (field :: ·) ih

/-- The first of several tables has the first lines. -/
theorem writeSections_cons (key : String) (fields : List (String × Node))
    (tables : List (String × List (String × Node))) :
    writeSections (sections ((key, fields) :: tables)) = (do
      let lines ← writePlain fields
      let others ← writeSections (sections tables)
      return '\n' :: '[' :: (key.toList ++ ']' :: '\n' :: (lines ++ others))) := by
  change writeSections ((key, .table (fields.map fun (k, v) => (some k, v)) true) :: sections tables)
    = _
  rw [writeSections, namedFields_map, writeSection]
  cases writePlain fields <;> cases writeSections (sections tables) <;> simp

/-- **Tables hold a header for each, and a statement for each of their fields.** -/
theorem Holds.sections {tables : List (String × List (String × Node))}
    (hwords : ∀ table ∈ tables, IsWord table.1) (hleaves : ∀ table ∈ tables, AreLeaves table.2)
    {written : List Char} (hwritten : writeSections (Toml.sections tables) = some written) :
    Holds written (sectionStatements tables) := by
  induction tables generalizing written with
  | nil =>
    cases hwritten
    exact .nil
  | cons table tables ih =>
    obtain ⟨hword, hwords⟩ := List.forall_mem_cons.mp hwords
    obtain ⟨hleaf, hleaves⟩ := List.forall_mem_cons.mp hleaves
    rw [writeSections_cons] at hwritten
    obtain ⟨lines, hlines, hwritten⟩ := Option.bind_eq_some_iff.mp hwritten
    obtain ⟨others, hothers, hwritten⟩ := Option.bind_eq_some_iff.mp hwritten
    cases hwritten
    have hfields := (ih hwords hleaves hothers).plain hleaf.words hleaf.leaves hlines
    refine .blank (hfields.line (by decide) (scanStatement_header hword (lines ++ others)) ?_)
    simp only [List.length_append, List.length_cons]
    omega

/-! ### The table they define -/

namespace Table

/-- Fields of a document, as those of a table. -/
def valuesOf (fields : List (String × Node)) : List (String × Item) :=
  fields.map fun (key, value) => (key, .value value)

/-- **The table of plain fields.** -/
def ofValues (fields : List (String × Node)) : Table := mk false false (valuesOf fields)

/-- Tables under their keys. -/
def tablesOf (tables : List (String × List (String × Node))) : List (String × Item) :=
  tables.map fun (key, fields) => (key, .table (ofValues fields))

/-- A field of a new key comes at the end. -/
theorem put_of_not_mem {key : String} (item : Item) {fields : List (String × Item)}
    (h : key ∉ fields.map Prod.fst) : put key item fields = fields ++ [(key, item)] := by
  induction fields with
  | nil => rfl
  | cons field fields ih =>
    rw [List.map_cons, List.mem_cons, not_or] at h
    rw [put, if_neg (Ne.symm h.1), ih h.2, List.cons_append]

/-- Nothing stands under a new key. -/
theorem get?_of_not_mem {key : String} {implicit dotted : Bool} {fields : List (String × Item)}
    (h : key ∉ fields.map Prod.fst) : (mk implicit dotted fields).get? key = none := by
  rw [get?, Table.fields, List.lookup_eq_none_iff]
  intro field hfield
  rw [bne_iff_ne]
  rintro rfl
  exact h (List.mem_map_of_mem hfield)

/-- A new key is put at the end of a table that headers define. -/
theorem define_of_not_mem {key : String} (value : Node) {implicit : Bool}
    {fields : List (String × Item)} (h : key ∉ fields.map Prod.fst) :
    define [] key value (mk implicit false fields)
      = some (mk implicit false (fields ++ [(key, .value value)])) := by
  simp [define, modifyAt, get?_of_not_mem h, isDotted, set, put_of_not_mem _ h, Table.fields,
    withFields]

end Table

namespace Document

/-- A key that comes later is new. -/
theorem not_mem_of_nodup {key : String} {before after : List String}
    (h : (before ++ key :: after).Nodup) : key ∉ before :=
  fun hmem => (List.nodup_append.mp h).2.2 key hmem key List.mem_cons_self rfl

/-- **Pairs of new keys** are put at the end of the table that is being built. -/
theorem foldlM_pairs (document : Document) {implicit : Bool} {items : List (String × Item)}
    {fields : List (String × Node)} (hcurrent : document.current = .mk implicit false items)
    (hdistinct : (items.map Prod.fst ++ fields.map Prod.fst).Nodup) :
    (pairs fields).foldlM add document
      = some { document with current := .mk implicit false (items ++ Table.valuesOf fields) } := by
  induction fields generalizing document items with
  | nil =>
    rw [Table.valuesOf, List.map_nil, List.append_nil, ← hcurrent]
    rfl
  | cons field fields ih =>
    obtain ⟨key, value⟩ := field
    rw [List.map_cons] at hdistinct
    have hadd : document.add (.pair [] key value)
        = some { document with current := .mk implicit false (items ++ [(key, .value value)]) } := by
      rw [add, hcurrent, Table.define_of_not_mem value (not_mem_of_nodup hdistinct)]
      rfl
    have hothers : ((items ++ [(key, Item.value value)]).map Prod.fst ++ fields.map Prod.fst).Nodup := by
      rwa [List.map_append, List.map_singleton, ← List.append_cons]
    rw [pairs, List.map_cons, List.foldlM_cons, hadd]
    refine (ih _ rfl hothers).trans ?_
    rw [← List.append_cons]
    rfl

/-- Pairs of different keys make up a table of which nothing was there. -/
theorem foldlM_pairs_empty (document : Document) (hcurrent : document.current = .empty)
    {fields : List (String × Node)} (hdistinct : (fields.map Prod.fst).Nodup) :
    (pairs fields).foldlM add document
      = some { document with current := Table.ofValues fields } :=
  document.foldlM_pairs hcurrent hdistinct

/-- **A header of a new key** ends the table before and begins one of no fields. -/
theorem add_header {document : Document} {items : List (String × Item)}
    (hfinish : document.finishTable = some (.mk false false items)) {key : String}
    (hnew : key ∉ items.map Prod.fst) :
    document.add (.header [] key)
      = some ⟨.mk false false items, .empty, some (([], key), false)⟩ := by
  rw [add, hfinish]
  simp [startTable, Table.at?, Table.get?_of_not_mem hnew, Table.modifyAt]

/-- A table of a new key is put at the end. -/
theorem finishTable_header {items : List (String × Item)} {key : String}
    (hnew : key ∉ items.map Prod.fst) (current : Table) :
    finishTable ⟨.mk false false items, current, some (([], key), false)⟩
      = some (.mk false false (items ++ [(key, .table current)])) := by
  simp [finishTable, Table.modifyAt, Table.get?_of_not_mem hnew, Table.set, Table.fields,
    Table.put_of_not_mem _ hnew, Table.withFields]

/-- **Tables of new keys** are put at the end, one after the other. -/
theorem foldlM_sectionStatements (document : Document) {items : List (String × Item)}
    {tables : List (String × List (String × Node))}
    (hfinish : document.finishTable = some (.mk false false items))
    (hdistinct : (items.map Prod.fst ++ tables.map Prod.fst).Nodup)
    (hfields : ∀ table ∈ tables, (table.2.map Prod.fst).Nodup) :
    ((sectionStatements tables).foldlM add document).bind finishTable
      = some (.mk false false (items ++ Table.tablesOf tables)) := by
  -- the table that was begun last is not in its place yet, so what goes through the induction is what
  -- finishing it would give
  induction tables generalizing document items with
  | nil =>
    rw [Table.tablesOf, List.map_nil, List.append_nil]
    exact hfinish
  | cons table tables ih =>
    obtain ⟨key, fields⟩ := table
    rw [List.map_cons] at hdistinct
    obtain ⟨hfield, hfields⟩ := List.forall_mem_cons.mp hfields
    have hnew := not_mem_of_nodup hdistinct
    have hpairs := foldlM_pairs_empty ⟨.mk false false items, .empty, some (([], key), false)⟩ rfl
      hfield
    have hothers : ((items ++ [(key, Item.table (.ofValues fields))]).map Prod.fst
        ++ tables.map Prod.fst).Nodup := by
      rwa [List.map_append, List.map_singleton, ← List.append_cons]
    have hstatements : sectionStatements ((key, fields) :: tables)
        = .header [] key :: (pairs fields ++ sectionStatements tables) := rfl
    rw [hstatements, List.foldlM_cons, add_header hfinish hnew, Option.bind_eq_bind, Option.bind_some,
      List.foldlM_append, hpairs, Option.bind_eq_bind, Option.bind_some]
    refine (ih _ (finishTable_header hnew _) hothers hfields).trans ?_
    rw [← List.append_cons]
    rfl

/-- **The table of a document** has its plain fields and its tables under headers. -/
theorem ofStatements?_eq {plain : List (String × Node)}
    {tables : List (String × List (String × Node))}
    (hdistinct : (plain.map Prod.fst ++ tables.map Prod.fst).Nodup)
    (hfields : ∀ table ∈ tables, (table.2.map Prod.fst).Nodup) :
    ofStatements? (pairs plain ++ sectionStatements tables)
      = some (.mk false false (Table.valuesOf plain ++ Table.tablesOf tables)) := by
  have hkeys : (Table.valuesOf plain).map Prod.fst = plain.map Prod.fst := by
    simp [Table.valuesOf, Function.comp_def]
  have hpairs := foldlM_pairs_empty {} rfl (List.nodup_append.mp hdistinct).1
  rw [← hkeys] at hdistinct
  rw [ofStatements?, List.foldlM_append, hpairs]
  exact foldlM_sectionStatements _ rfl hdistinct hfields

end Document

/-- Fields are the same in a document. -/
theorem nodesOfFields_valuesOf (fields : List (String × Node)) :
    Table.nodesOfFields (Table.valuesOf fields)
      = fields.map fun (key, value) => (some key, value) := by
  induction fields with
  | nil => rfl
  | cons field fields ih =>
    rw [Table.valuesOf, List.map_cons, Table.nodesOfFields, Table.nodeOfItem, ← Table.valuesOf, ih,
      List.map_cons]

/-- Tables under headers are the same in a document. -/
theorem nodesOfFields_tablesOf (tables : List (String × List (String × Node))) :
    Table.nodesOfFields (Table.tablesOf tables)
      = (sections tables).map fun (key, value) => (some key, value) := by
  induction tables with
  | nil => rfl
  | cons table tables ih =>
    rw [Table.tablesOf, List.map_cons, Table.nodesOfFields, Table.nodeOfItem, ← Table.tablesOf, ih,
      Table.ofValues, Table.nodeOfTable, nodesOfFields_valuesOf]
    rfl

/-- Fields are taken over one by one. -/
theorem nodesOfFields_append (fields more : List (String × Item)) :
    Table.nodesOfFields (fields ++ more)
      = Table.nodesOfFields fields ++ Table.nodesOfFields more := by
  induction fields with
  | nil => rfl
  | cons field fields ih =>
    rw [List.cons_append, Table.nodesOfFields, ih, Table.nodesOfFields, List.cons_append]

/-- **The value that a table under headers stands for.** -/
theorem toNode_valuesOf_append_tablesOf (plain : List (String × Node))
    (tables : List (String × List (String × Node))) :
    (Table.mk false false (Table.valuesOf plain ++ Table.tablesOf tables)).toNode
      = .map (plain ++ sections tables) := by
  rw [Table.toNode, Table.nodeOfTable, nodesOfFields_append, nodesOfFields_valuesOf,
    nodesOfFields_tablesOf, ← List.map_append]
  rfl

/-! ### Documents -/

/-- Tables leave no line among the plain fields. -/
theorem writePlain_sections (tables : List (String × List (String × Node))) :
    writePlain (sections tables) = some [] := by
  induction tables with
  | nil => rfl
  | cons table tables ih => exact ih

/-- Plain fields are written without the tables behind them. -/
theorem writePlain_append_sections {plain : List (String × Node)}
    (hleaves : ∀ field ∈ plain, IsLeaf field.2) (tables : List (String × List (String × Node))) :
    writePlain (plain ++ sections tables) = writePlain plain := by
  induction plain with
  | nil => exact writePlain_sections tables
  | cons field plain ih =>
    obtain ⟨hleaf, hleaves⟩ := List.forall_mem_cons.mp hleaves
    rw [List.cons_append, writePlain_cons hleaf, writePlain_cons hleaf, ih hleaves]

/-- Tables are written without the plain fields before them. -/
theorem writeSections_append_sections {plain : List (String × Node)}
    (hleaves : ∀ field ∈ plain, IsLeaf field.2) (tables : List (String × List (String × Node))) :
    writeSections (plain ++ sections tables) = writeSections (sections tables) := by
  induction plain with
  | nil => rfl
  | cons field plain ih =>
    obtain ⟨hleaf, hleaves⟩ := List.forall_mem_cons.mp hleaves
    have hnot := hleaf.ne_table
    rw [List.cons_append, writeSections, ih hleaves]
    rintro key fields closed rfl
    exact hnot fields closed rfl

/-- **A document** that is read as it was written: plain fields, and tables of plain fields. -/
structure IsDocument (plain : List (String × Node)) (tables : List (String × List (String × Node))) :
    Prop where
  /-- The keys of the plain fields are words. -/
  plainWords : ∀ field ∈ plain, IsWord field.1
  /-- Their values are leaves. -/
  plainLeaves : ∀ field ∈ plain, IsLeaf field.2
  /-- The keys of the tables are words. -/
  tableWords : ∀ table ∈ tables, IsWord table.1
  /-- The tables are made of plain fields. -/
  tableLeaves : ∀ table ∈ tables, AreLeaves table.2
  /-- No key comes twice. -/
  distinct : (plain.map Prod.fst ++ tables.map Prod.fst).Nodup

/-- **A document is read as it was written.** -/
theorem IsDocument.read {plain : List (String × Node)}
    {tables : List (String × List (String × Node))} (h : IsDocument plain tables) {text : String}
    (hwritten : writeDocument (plain ++ sections tables) = some text) :
    ∃ table, Toml.read text = some table ∧ table.toNode = .map (plain ++ sections tables) := by
  obtain ⟨lines, hlines, hwritten⟩ := Option.bind_eq_some_iff.mp hwritten
  obtain ⟨others, hothers, hwritten⟩ := Option.bind_eq_some_iff.mp hwritten
  rw [writePlain_append_sections h.plainLeaves] at hlines
  rw [writeSections_append_sections h.plainLeaves] at hothers
  have hholds := (Holds.sections h.tableWords h.tableLeaves hothers).plain h.plainWords h.plainLeaves
    hlines
  have htext : text.toList = lines ++ others := by
    rw [← Option.some.inj hwritten, String.toList_ofList]
  refine ⟨_, ?_, toNode_valuesOf_append_tablesOf plain tables⟩
  rw [Toml.read, htext, hholds.unmarked, hholds.scan _ (Nat.lt_succ_self _)]
  exact Document.ofStatements?_eq h.distinct fun table htable => (h.tableLeaves table htable).distinct

/-! ### What can be written -/

/-- Plain fields are written if their values can be. -/
theorem isSome_writePlain_iff {fields : List (String × Node)}
    (hleaves : ∀ field ∈ fields, IsLeaf field.2) :
    (writePlain fields).isSome ↔ ∀ field ∈ fields, (writeValue field.2).isSome := by
  induction fields with
  | nil => simp [writePlain]
  | cons field fields ih =>
    obtain ⟨hleaf, hleaves⟩ := List.forall_mem_cons.mp hleaves
    rw [List.forall_mem_cons, ← ih hleaves, writePlain_cons hleaf, writeField]
    cases writeValue field.2 <;> cases writePlain fields <;> simp

/-- Tables are written if all values in them can be. -/
theorem isSome_writeSections_iff {tables : List (String × List (String × Node))}
    (hleaves : ∀ table ∈ tables, ∀ field ∈ table.2, IsLeaf field.2) :
    (writeSections (sections tables)).isSome
      ↔ ∀ table ∈ tables, ∀ field ∈ table.2, (writeValue field.2).isSome := by
  induction tables with
  | nil => simp [sections, writeSections]
  | cons table tables ih =>
    obtain ⟨key, fields⟩ := table
    obtain ⟨hleaf, hleaves⟩ := List.forall_mem_cons.mp hleaves
    rw [List.forall_mem_cons, ← ih hleaves, ← isSome_writePlain_iff hleaf, writeSections_cons]
    cases writePlain fields <;> cases writeSections (sections tables) <;> simp

/-- **A document is written if all its values can be.** -/
theorem IsDocument.isSome_writeDocument_iff {plain : List (String × Node)}
    {tables : List (String × List (String × Node))} (h : IsDocument plain tables) :
    (writeDocument (plain ++ sections tables)).isSome
      ↔ (∀ field ∈ plain, (writeValue field.2).isSome)
        ∧ ∀ table ∈ tables, ∀ field ∈ table.2, (writeValue field.2).isSome := by
  rw [← isSome_writePlain_iff h.plainLeaves,
    ← isSome_writeSections_iff fun table htable => (h.tableLeaves table htable).leaves, writeDocument,
    writePlain_append_sections h.plainLeaves, writeSections_append_sections h.plainLeaves]
  cases writePlain plain <;> cases writeSections (sections tables) <;> simp

end ResourceWait.Toml
