import ResourceWait.Json.Reader
import ResourceWait.Json.Writer
import ResourceWait.Proofs.Digits

/-!
# JSON is read as it was written

`null`, truth values, integers that 64 bits hold without a sign, texts, and lists and tables of these: the
compact form of such a value is read as the value, from end to end (`IsWritable.read_write`).

Within a document a value is read up to the comma or the bracket behind it, and needs no more steps than
three for each of its characters. `ReadsAs` says that of a form, and is shown for one kind of value after
the other; lists and tables are read item by item.
-/

namespace ResourceWait.Json

open ResourceWait.Text (isDigit)

/-! ### Texts -/

namespace Quoted

/-- **A piece that denotes a character**, whatever comes behind it. -/
def Denotes (piece : Piece) (c : Char) : Prop :=
  ∀ pieces, join (piece :: pieces) = (join pieces).map (c :: ·)

/-- A character denotes itself. -/
theorem denotes_char (c : Char) : Denotes (.char c) c := fun _ => rfl

/-- A unit below the surrogates denotes the character of that number. -/
theorem denotes_unit {c : Char} (hc : c.toNat < 0xD800) : Denotes (.unit c.toNat) c := by
  have hleading : isLeading c.toNat = false := by
    rw [isLeading, decide_eq_false (Nat.not_le_of_lt hc), Bool.false_and]
  have htrailing : isTrailing c.toNat = false := by
    rw [isTrailing, decide_eq_false (by omega), Bool.false_and]
  intro pieces
  cases pieces with
  | nil => simp [join, hleading, htrailing]
  | cons piece pieces =>
    cases piece <;> simp [join, hleading, htrailing]

/-- The four digits of a control character give its code point. -/
theorem hexValue?_fourDigits : ∀ n < 32, Text.hexValue? (fourDigits n) = some n := by decide

/-- A piece in front of others that were read, and what follows them. -/
def before (piece : Piece) : Option (List Piece × List Char) → Option (List Piece × List Char) :=
  Option.map fun (pieces, rest) => (piece :: pieces, rest)

/-- A short escape is read as its character. -/
theorem scan_short {e c : Char} (h : shortEscape? e = some c) (rest : List Char) :
    scan ('\\' :: e :: rest) = before (.char c) (scan rest) := by
  rw [scan, h]
  · cases scan rest <;> rfl
  · rintro _ _ _ _ _ rfl -
    cases h

/-- Four digits are read as a unit. -/
theorem scan_fourDigits {n : Nat} (hn : n < 32) (rest : List Char) :
    scan ('\\' :: 'u' :: (fourDigits n ++ rest)) = before (.unit n) (scan rest) := by
  have hvalue := hexValue?_fourDigits n hn
  simp only [fourDigits, List.cons_append, List.nil_append] at hvalue ⊢
  rw [scan, hvalue]
  cases scan rest <;> rfl

/-- A character that needs no escape is read as itself. -/
theorem scan_plain {c : Char} (hquote : c ≠ '"') (hbackslash : c ≠ '\\') (hcontrol : ¬c < ' ')
    (rest : List Char) : scan (c :: rest) = before (.char c) (scan rest) := by
  have hplain : ¬(c = '\\' ∨ c < ' ') := not_or.mpr ⟨hbackslash, hcontrol⟩
  rw [scan, if_neg hplain]
  · cases scan rest <;> rfl
  · exact hquote
  · rintro _ _ _ _ _ rfl -
    exact hbackslash rfl
  · rintro _ _ rfl -
    exact hbackslash rfl

/-- **A character is read as a piece that denotes it.** -/
theorem exists_denotes (c : Char) : ∃ piece, Denotes piece c ∧ ∀ rest,
    scan (writeChar c ++ rest) = before piece (scan rest) := by
  unfold writeChar
  split
  case h_8 hquote hbackslash _ _ _ _ _ =>
    split
    · rename_i hcontrol
      have hbound : c.toNat < 32 := hcontrol
      exact ⟨.unit c.toNat, denotes_unit (by omega), scan_fourDigits hbound⟩
    · rename_i hcontrol
      exact ⟨.char c, denotes_char c, scan_plain hquote hbackslash hcontrol⟩
  -- what is left are the short escapes
  all_goals exact ⟨.char _, denotes_char _, scan_short rfl⟩

/-- The characters of a text are read as pieces that denote them together. -/
theorem exists_join (cs rest : List Char) : ∃ pieces, join pieces = some cs
    ∧ scan (cs.flatMap writeChar ++ '"' :: rest) = some (pieces, rest) := by
  induction cs with
  | nil => exact ⟨[], rfl, rfl⟩
  | cons c cs ih =>
    obtain ⟨piece, hdenotes, hscan⟩ := exists_denotes c
    obtain ⟨pieces, hjoin, hpieces⟩ := ih
    refine ⟨piece :: pieces, ?_, ?_⟩
    · rw [hdenotes, hjoin]
      rfl
    · rw [List.flatMap_cons, List.append_assoc, hscan, hpieces]
      rfl

end Quoted

/-- **A text is read as it was written.** -/
theorem readText_write (s : String) (rest : List Char) :
    readText (s.toList.flatMap Quoted.writeChar ++ '"' :: rest) = (.text s, some rest) := by
  obtain ⟨pieces, hjoin, hscan⟩ := Quoted.exists_join s.toList rest
  rw [readText, hscan]
  simp only [hjoin, String.ofList_toList]

/-- So is a key. -/
theorem readKey_write (key : String) (rest : List Char) :
    readKey (Quoted.write key ++ rest) = some (some key, rest) := by
  obtain ⟨pieces, hjoin, hscan⟩ := Quoted.exists_join key.toList rest
  rw [Quoted.write, List.cons_append, List.append_assoc, List.singleton_append, readKey, hscan]
  simp only [hjoin, Option.map_some, String.ofList_toList]

/-! ### Numbers -/

/-- **What may follow a value** in a document: nothing, a comma, or what closes a list or a table. -/
inductive EndsValue : List Char → Prop
  /-- The document ends. -/
  | nothing : EndsValue []
  /-- Another value may come. -/
  | comma (rest : List Char) : EndsValue (',' :: rest)
  /-- A list ends. -/
  | bracket (rest : List Char) : EndsValue (']' :: rest)
  /-- A table ends. -/
  | brace (rest : List Char) : EndsValue ('}' :: rest)

/-- The digits of a number are read up to its end. -/
theorem spanDigits_toDigits (n : Nat) {rest : List Char} (hrest : EndsValue rest) :
    Text.spanDigits (Nat.toDigits 10 n ++ rest) = (Nat.toDigits 10 n, rest) := by
  have hall : ∀ c ∈ Nat.toDigits 10 n, isDigit c = true := fun _ => Text.isDigit_of_mem_toDigits
  have hnone : rest.takeWhile isDigit = [] ∧ rest.dropWhile isDigit = rest := by
    cases hrest <;> exact ⟨rfl, rfl⟩
  rw [Text.spanDigits, List.takeWhile_append_of_pos hall, List.dropWhile_append_of_pos hall, hnone.1,
    hnone.2, List.append_nil]

/-- They are the whole part of the number. -/
theorem scanWhole_toDigits (n : Nat) {rest : List Char} (hrest : EndsValue rest) :
    Numeral.scanWhole (Nat.toDigits 10 n ++ rest) = some (Nat.toDigits 10 n, rest) := by
  rw [Numeral.scanWhole, spanDigits_toDigits n hrest]
  split
  · rename_i heq
    exact absurd (Prod.mk.inj heq).1 Nat.toDigits_ne_nil
  · rename_i c digits behind heq
    have hdigits := (Prod.mk.inj heq).1
    have hzero : n = 0 := Text.toDigits_of_head? (by rw [hdigits]; rfl)
    subst hzero
    cases hdigits
  · rfl

/-- **A number is read as its digits.** -/
theorem scan_toDigits (n : Nat) {rest : List Char} (hrest : EndsValue rest) :
    Numeral.scan (Nat.toDigits 10 n ++ rest) = some (⟨false, Nat.toDigits 10 n, none, none⟩, rest) := by
  have hwhole := scanWhole_toDigits n hrest
  have hdecimals : Numeral.scanDecimals rest = some (none, rest) := by cases hrest <;> rfl
  have hexponent : Numeral.scanExponent rest = some (none, rest) := by cases hrest <;> rfl
  obtain ⟨d, ds, hdigits, -, hne⟩ := Text.exists_toDigits_eq_cons n
  rw [hdigits, List.cons_append] at hwhole ⊢
  rw [Numeral.scan]
  · simp [hwhole, hdecimals, hexponent]
  · exact fun _ heq => hne '-' (by decide) (List.cons.inj heq).1

/-- **A number is read as it was written**, if 64 bits hold it. -/
theorem readNumber_toDigits {n : Nat} (hn : n < UInt64.size) {rest : List Char} (hrest : EndsValue rest) :
    readNumber (Nat.toDigits 10 n ++ rest) = (.int n, some rest) := by
  have hint : Numeral.toInt? ⟨false, Nat.toDigits 10 n, none, none⟩ = some (n : Int) := by
    rw [Numeral.toInt?, Text.digitsValue_toDigits]
    exact if_pos hn
  rw [readNumber, scan_toDigits n hrest]
  simp only [Numeral.toNode, hint]

/-! ### Forms -/

/-- **A form that is read as a value**, wherever a value may stand. -/
structure ReadsAs (written : List Char) (node : Node) : Prop where
  /-- It begins with what is no space and closes no list. -/
  begins : ∃ c more, written = c :: more ∧ isSpace c = false ∧ c ≠ ']'
  /-- It is read up to what follows it, with three steps for each of its characters. -/
  read : ∀ {fuel : Nat} {rest : List Char}, EndsValue rest → 3 * written.length ≤ fuel →
    readValue fuel (written ++ rest) = (node, some rest)

/-- Nothing is passed over where there is no space. -/
theorem skipSpace_cons {c : Char} (hc : isSpace c = false) (cs : List Char) :
    skipSpace (c :: cs) = c :: cs :=
  List.dropWhile_cons_of_neg (by simp [hc])

/-- A form is read as a value if it is so after one step. -/
theorem readsAs_of_step {c : Char} {more : List Char} {node : Node} (hspace : isSpace c = false)
    (hbracket : c ≠ ']')
    (h : ∀ {fuel : Nat} {rest : List Char}, EndsValue rest → 3 * more.length + 2 ≤ fuel →
      readValue (fuel + 1) (c :: (more ++ rest)) = (node, some rest)) : ReadsAs (c :: more) node where
  begins := ⟨c, more, rfl, hspace, hbracket⟩
  read {fuel rest} hrest hfuel := by
    rw [List.length_cons] at hfuel
    obtain ⟨fuel, rfl⟩ := Nat.exists_eq_add_one_of_ne_zero (n := fuel) (by omega)
    exact h hrest (by omega)

/-- `null` is read. -/
theorem readsAs_null : ReadsAs (write .null) .null :=
  readsAs_of_step (by decide) (by decide) fun _ _ => rfl

/-- Truth values are read. -/
theorem readsAs_flag (b : Bool) : ReadsAs (write (.flag b)) (.flag b) := by
  cases b with
  | true => exact readsAs_of_step (by decide) (by decide) fun _ _ => rfl
  | false => exact readsAs_of_step (by decide) (by decide) fun _ _ => rfl

/-- Texts are read. -/
theorem readsAs_text (s : String) : ReadsAs (write (.text s)) (.text s) := by
  refine readsAs_of_step (by decide) (by decide) fun {fuel rest} _ _ => ?_
  rw [List.append_assoc]
  exact readText_write s rest

/-- Numbers are read. -/
theorem readsAs_number {n : Nat} (hn : n < UInt64.size) : ReadsAs (write (.int n)) (.int n) := by
  have hwrite : write (.int n) = Nat.toDigits 10 n := Nat.toList_repr
  obtain ⟨d, ds, hdigits, hd, hne⟩ := Text.exists_toDigits_eq_cons n
  have hspace : isSpace d = false := by
    simp [isSpace, hne ' ' (by decide), hne '\n' (by decide), hne '\t' (by decide), hne '\r' (by decide)]
  rw [hwrite, hdigits]
  refine readsAs_of_step hspace (hne ']' (by decide)) fun {fuel rest} hrest _ => ?_
  have hread := readNumber_toDigits hn hrest
  rw [hdigits, List.cons_append] at hread
  rw [readValue, skipSpace_cons hspace]
  -- a digit begins none of the other values
  split
  case h_7 c digits _ _ _ _ _ _ heq =>
    obtain ⟨rfl, rfl⟩ := List.cons.inj heq
    rw [hd, Bool.or_true, if_pos rfl, hread]
  case h_8 heq => cases heq
  all_goals
    rename_i heq
    exact absurd (List.cons.inj heq).1 (hne _ (by decide))

/-! ### Lists and tables -/

/-- Parts with a comma in front of each. -/
def commaEach (parts : List (List Char)) : List Char := parts.flatMap (',' :: ·)

/-- Behind the first of several parts each has a comma in front. -/
theorem commaSeparated_cons (part : List Char) (parts : List (List Char)) :
    commaSeparated (part :: parts) = part ++ commaEach parts := by
  induction parts generalizing part with
  | nil => exact (List.append_nil part).symm
  | cons next parts ih =>
    rw [commaSeparated, ih]
    · rfl
    · exact List.cons_ne_nil next parts

/-- What follows a part begins with a comma or is the end. -/
theorem endsValue_commaEach (parts : List (List Char)) {rest : List Char} (hrest : EndsValue rest) :
    EndsValue (commaEach parts ++ rest) := by
  cases parts with
  | nil => exact hrest
  | cons part parts => exact .comma _

/-- **A value of a list is read, and then the others.** -/
theorem ReadsAs.readItem_append {written : List Char} {node : Node} (h : ReadsAs written node)
    {tail : List Char} (htail : EndsValue tail) {fuel : Nat} (hfuel : 3 * written.length ≤ fuel)
    {items : List Node} {rest : Option (List Char)} (hothers : readItems fuel false tail = (items, rest)) :
    readItem (fuel + 1) (written ++ tail) = (node :: items, rest) := by
  have hread := h.read htail hfuel
  obtain ⟨c, more, rfl, hspace, hbracket⟩ := h.begins
  rw [List.cons_append] at hread ⊢
  rw [readItem, skipSpace_cons hspace]
  split
  · rename_i heq
    exact absurd (List.cons.inj heq).1 hbracket
  · simp only [hread, hothers]

/-- The first value of a list has no comma in front. -/
theorem readItems_first {c : Char} (hspace : isSpace c = false) (hbracket : c ≠ ']') (fuel : Nat)
    (cs : List Char) : readItems (fuel + 1) true (c :: cs) = readItem fuel (c :: cs) := by
  rw [readItems.eq_def]
  dsimp only
  rw [skipSpace_cons hspace]
  split
  · rename_i heq
    exact absurd (List.cons.inj heq).1 hbracket
  · rfl
  all_goals contradiction

/-- **The values behind the first are read up to the bracket.** -/
theorem readItems_commaEach {items : List Node} (h : ∀ item ∈ items, ReadsAs (write item) item)
    {fuel : Nat} (hfuel : 3 * (commaEach (items.map write)).length + 1 ≤ fuel) (rest : List Char) :
    readItems fuel false (commaEach (items.map write) ++ ']' :: rest) = (items, some rest) := by
  induction items generalizing fuel with
  | nil =>
    obtain ⟨fuel, rfl⟩ := Nat.exists_eq_add_one_of_ne_zero (n := fuel) (by omega)
    rfl
  | cons item items ih =>
    obtain ⟨hitem, hitems⟩ := List.forall_mem_cons.mp h
    have hsplit : commaEach ((item :: items).map write)
        = ',' :: (write item ++ commaEach (items.map write)) := rfl
    rw [hsplit, List.length_cons, List.length_append] at hfuel
    obtain ⟨fuel, rfl⟩ : ∃ more, fuel = more + 2 := ⟨fuel - 2, by omega⟩
    have hothers := ih hitems (show 3 * (commaEach (items.map write)).length + 1 ≤ fuel by omega)
    have htail := endsValue_commaEach (items.map write) (.bracket rest)
    rw [hsplit, List.cons_append, List.append_assoc]
    exact hitem.readItem_append htail (by omega) hothers

/-- The forms of the values of a list. -/
theorem writeItems_eq (items : List Node) : writeItems items = items.map write := by
  induction items with
  | nil => rfl
  | cons item items ih => rw [writeItems, ih, List.map_cons]

/-- Behind an opening bracket a list is read. -/
theorem readValue_bracket (fuel : Nat) (cs : List Char) :
    readValue (fuel + 1) ('[' :: cs)
      = (.list (readItems fuel true cs).1 (readItems fuel true cs).2.isSome, (readItems fuel true cs).2) :=
  rfl

/-- **Lists are read** if their values are. -/
theorem readsAs_seq {items : List Node} (h : ∀ item ∈ items, ReadsAs (write item) item) :
    ReadsAs (write (.seq items)) (.seq items) := by
  rw [write, writeItems_eq]
  refine readsAs_of_step (by decide) (by decide) fun {fuel rest} hrest hfuel => ?_
  have hitems : readItems fuel true (commaSeparated (items.map write) ++ [']'] ++ rest)
      = (items, some rest) := by
    cases items with
    | nil =>
      obtain ⟨fuel, rfl⟩ := Nat.exists_eq_add_one_of_ne_zero (n := fuel) (by omega)
      rfl
    | cons item items =>
      obtain ⟨hitem, hothers⟩ := List.forall_mem_cons.mp h
      rw [List.map_cons, commaSeparated_cons] at hfuel ⊢
      simp only [List.length_append, List.length_singleton] at hfuel
      obtain ⟨fuel, rfl⟩ : ∃ more, fuel = more + 2 := ⟨fuel - 2, by omega⟩
      have htail := endsValue_commaEach (items.map write) (.bracket rest)
      have hread := hitem.readItem_append htail (show 3 * (write item).length ≤ fuel by omega)
        (readItems_commaEach hothers (by omega) rest)
      obtain ⟨c, more, heq, hspace, hbracket⟩ := hitem.begins
      rw [List.append_assoc, List.append_assoc, List.singleton_append]
      rw [heq, List.cons_append] at hread ⊢
      rw [readItems_first hspace hbracket, hread]
  rw [readValue_bracket, hitems]
  rfl

/-- The form of a field. -/
def writeEntry (entry : String × Node) : List Char := Quoted.write entry.1 ++ ':' :: write entry.2

/-- The forms of the fields of a table. -/
theorem writeFields_eq (table : List (String × Node)) :
    writeFields (table.map fun (key, value) => (some key, value)) = table.map writeEntry := by
  induction table with
  | nil => rfl
  | cons entry table ih =>
    rw [List.map_cons, writeFields, ih]
    rfl

/-- **A field of a table is read, and then the others.** -/
theorem readField_writeEntry {entry : String × Node} (h : ReadsAs (write entry.2) entry.2)
    {tail : List Char} (htail : EndsValue tail) {fuel : Nat}
    (hfuel : 3 * (writeEntry entry).length ≤ fuel) {fields : List (Option String × Node)}
    {rest : Option (List Char)} (hothers : readFields fuel false tail = (fields, rest)) :
    readField (fuel + 1) (writeEntry entry ++ tail) = ((some entry.1, entry.2) :: fields, rest) := by
  simp only [writeEntry, List.length_append, List.length_cons] at hfuel
  have hread := h.read htail (show 3 * (write entry.2).length ≤ fuel by omega)
  have hkey := readKey_write entry.1 (':' :: (write entry.2 ++ tail))
  have hskip : skipSpace (writeEntry entry ++ tail)
      = Quoted.write entry.1 ++ ':' :: (write entry.2 ++ tail) := by
    rw [writeEntry, List.append_assoc, Quoted.write]
    exact skipSpace_cons (by decide) _
  rw [readField, hskip, hkey]
  dsimp only
  rw [skipSpace_cons (by decide)]
  simp only [hread, hothers]

/-- The first field of a table has no comma in front. -/
theorem readFields_first (fuel : Nat) (entry : String × Node) (cs : List Char) :
    readFields (fuel + 1) true (writeEntry entry ++ cs) = readField fuel (writeEntry entry ++ cs) :=
  rfl

/-- **The fields behind the first are read up to the brace.** -/
theorem readFields_commaEach {table : List (String × Node)}
    (h : ∀ entry ∈ table, ReadsAs (write entry.2) entry.2) {fuel : Nat}
    (hfuel : 3 * (commaEach (table.map writeEntry)).length + 1 ≤ fuel) (rest : List Char) :
    readFields fuel false (commaEach (table.map writeEntry) ++ '}' :: rest)
      = (table.map fun (key, value) => (some key, value), some rest) := by
  induction table generalizing fuel with
  | nil =>
    obtain ⟨fuel, rfl⟩ := Nat.exists_eq_add_one_of_ne_zero (n := fuel) (by omega)
    rfl
  | cons entry table ih =>
    obtain ⟨hentry, htable⟩ := List.forall_mem_cons.mp h
    have hsplit : commaEach ((entry :: table).map writeEntry)
        = ',' :: (writeEntry entry ++ commaEach (table.map writeEntry)) := rfl
    rw [hsplit, List.length_cons, List.length_append] at hfuel
    obtain ⟨fuel, rfl⟩ : ∃ more, fuel = more + 2 := ⟨fuel - 2, by omega⟩
    have hothers := ih htable (show 3 * (commaEach (table.map writeEntry)).length + 1 ≤ fuel by omega)
    have htail := endsValue_commaEach (table.map writeEntry) (.brace rest)
    rw [hsplit, List.cons_append, List.append_assoc]
    exact readField_writeEntry hentry htail (by omega) hothers

/-- Behind an opening brace a table is read. -/
theorem readValue_brace (fuel : Nat) (cs : List Char) :
    readValue (fuel + 1) ('{' :: cs)
      = (.table (readFields fuel true cs).1 (readFields fuel true cs).2.isSome,
        (readFields fuel true cs).2) :=
  rfl

/-- **Tables are read** if their values are. -/
theorem readsAs_map {table : List (String × Node)}
    (h : ∀ entry ∈ table, ReadsAs (write entry.2) entry.2) : ReadsAs (write (.map table)) (.map table) := by
  rw [Node.map, write, writeFields_eq]
  refine readsAs_of_step (by decide) (by decide) fun {fuel rest} hrest hfuel => ?_
  have hfields : readFields fuel true (commaSeparated (table.map writeEntry) ++ ['}'] ++ rest)
      = (table.map fun (key, value) => (some key, value), some rest) := by
    cases table with
    | nil =>
      obtain ⟨fuel, rfl⟩ := Nat.exists_eq_add_one_of_ne_zero (n := fuel) (by omega)
      rfl
    | cons entry table =>
      obtain ⟨hentry, hothers⟩ := List.forall_mem_cons.mp h
      rw [List.map_cons, commaSeparated_cons] at hfuel ⊢
      simp only [List.length_append, List.length_singleton] at hfuel
      obtain ⟨fuel, rfl⟩ : ∃ more, fuel = more + 2 := ⟨fuel - 2, by omega⟩
      have htail := endsValue_commaEach (table.map writeEntry) (.brace rest)
      rw [List.append_assoc, List.append_assoc, List.singleton_append, readFields_first]
      exact readField_writeEntry hentry htail (by omega) (readFields_commaEach hothers (by omega) rest)
  rw [readValue_brace, hfields]
  rfl

/-! ### Documents -/

/-- **A value that is read as it was written**: no doubles and no negative numbers are in it. -/
inductive IsWritable : Node → Prop
  /-- The value of nothing. -/
  | null : IsWritable .null
  /-- A truth value. -/
  | flag (b : Bool) : IsWritable (.flag b)
  /-- A number that 64 bits hold. -/
  | number {n : Nat} (hn : n < UInt64.size) : IsWritable (.int n)
  /-- A text. -/
  | text (s : String) : IsWritable (.text s)
  /-- A list. -/
  | seq {items : List Node} (hitems : ∀ item ∈ items, IsWritable item) : IsWritable (.seq items)
  /-- A table. -/
  | map {table : List (String × Node)} (hvalues : ∀ entry ∈ table, IsWritable entry.2) :
    IsWritable (.map table)

/-- Its form is read as the value, wherever it stands. -/
theorem IsWritable.readsAs {node : Node} (h : IsWritable node) : ReadsAs (write node) node := by
  induction h with
  | null => exact readsAs_null
  | flag b => exact readsAs_flag b
  | number hn => exact readsAs_number hn
  | text s => exact readsAs_text s
  | seq _ ih => exact readsAs_seq ih
  | map _ ih => exact readsAs_map ih

/-- **The form of a value is read as the value, from end to end.** -/
theorem IsWritable.read_write {node : Node} (h : IsWritable node) :
    read (write node) = (node, true) := by
  have hread := h.readsAs.read .nothing (Nat.le_succ (3 * (write node).length))
  rw [List.append_nil] at hread
  rw [read, hread]
  rfl

/-- **The JSON text of a value holds the value.** -/
theorem IsWritable.ofJson?_toJson {node : Node} (h : IsWritable node) :
    Node.ofJson? node.toJson = some node := by
  rw [Node.ofJson?, Node.toJson, String.toList_ofList, h.read_write]

end ResourceWait.Json
