import Mathlib.Algebra.Ring.Nat
import ResourceWait.Proofs.Digits
import ResourceWait.Proofs.Quotes
import ResourceWait.Toml.Value
import ResourceWait.Toml.Writer

/-!
# Values are read as they were written

Truth values, numbers that are not negative, texts, and lists of these: as the writer leaves them they
are read back, up to the line end, comma or bracket that follows.

A number is the only one of them that the reader does not know by its first character. It tries a
date, a time and a double first, and they all fail at the same place, where the digits end: there a
date goes on with a dash, a time with a colon and a double with a point or an exponent.
-/

namespace ResourceWait.Toml

open ResourceWait.Text (isDigit digitsValue isDigit_of_mem_toDigits digitsValue_toDigits toDigits_of_head?
  exists_toDigits_eq_cons)

/-- **What may follow a value** that the writer has written: the end of the line, a comma, or the
bracket that closes a list. -/
inductive EndsValue : List Char → Prop
  /-- The line ends. -/
  | line (rest : List Char) : EndsValue ('\n' :: rest)
  /-- Another value of a list may come. -/
  | comma (rest : List Char) : EndsValue (',' :: rest)
  /-- A list ends. -/
  | bracket (rest : List Char) : EndsValue (']' :: rest)

/-- No quote is among them. -/
theorem EndsValue.noQuote {rest : List Char} (h : EndsValue rest) : NoQuote rest := by
  cases h <;> exact noQuote_cons (by decide) (by decide)

/-! ### Where a number ends -/

/-- What follows a number is no digit, nor does it go on with one. -/
theorem EndsValue.cons {rest : List Char} (h : EndsValue rest) :
    ∃ c more, rest = c :: more ∧ isDigit c = false ∧ c ∉ ['_', '.', 'e', 'E', '-', ':', 'x', 'o', 'b'] := by
  cases h <;> exact ⟨_, _, rfl, by decide, by decide⟩

/-- A part of a date or a time that was found is made of digits, and what follows it begins with a
digit or the end of the number. -/
theorem behindChar?_of_scanPart {sign : Char} (hsign : isDigit sign = false) {digits rest : List Char}
    (hdigits : ∀ c ∈ digits, isDigit c = true) (hrest : EndsValue rest)
    (hends : rest.head? ≠ some sign) {count least greatest value : Nat} {behind : List Char}
    (h : scanPart count least greatest (digits ++ rest) = some (value, behind)) :
    behindChar? sign behind = none := by
  obtain ⟨c, more, rfl, hc, -⟩ := hrest.cons
  unfold scanPart at h
  dsimp only at h
  split at h
  · rename_i hpart
    obtain ⟨-, rfl⟩ := Prod.mk.inj (Option.some.inj h)
    have hle : count ≤ digits.length := by
      refine Nat.le_of_not_lt fun hlt => ?_
      have hmem : c ∈ (digits ++ c :: more).take count := by
        rw [List.take_append, ← Nat.succ_pred_eq_of_pos (Nat.sub_pos_of_lt hlt)]
        exact List.mem_append_right _ List.mem_cons_self
      have hdigit := List.all_eq_true.mp hpart.2.1 c hmem
      rw [hc] at hdigit
      cases hdigit
    rw [List.drop_append_of_le_length hle]
    cases hdrop : digits.drop count with
    | nil =>
      have hne : sign ≠ c := by
        rintro rfl
        exact hends rfl
      simp [behindChar?, hne]
    | cons d ds =>
      have hd : isDigit d = true := hdigits d (List.mem_of_mem_drop (hdrop ▸ List.mem_cons_self))
      have hne : sign ≠ d := by
        rintro rfl
        rw [hsign] at hd
        cases hd
      simp [behindChar?, hne]
  · cases h

/-- **A number is neither a date nor a time.** -/
theorem scanMoment_digits {digits rest : List Char} (hdigits : ∀ c ∈ digits, isDigit c = true)
    (hrest : EndsValue rest) : scanMoment (digits ++ rest) = none := by
  have hdate : behindDate? (digits ++ rest) = none := by
    unfold behindDate?
    cases hyear : scanPart 4 0 9999 (digits ++ rest) with
    | none => rfl
    | some year =>
      have hdash : behindChar? '-' year.2 = none :=
        behindChar?_of_scanPart (by decide) hdigits hrest (by cases hrest <;> simp) hyear
      simp [hdash]
  have htime : behindTime? (digits ++ rest) = none := by
    unfold behindTime?
    cases hhour : scanPart 2 0 23 (digits ++ rest) with
    | none => rfl
    | some hour =>
      have hcolon : behindChar? ':' hour.2 = none :=
        behindChar?_of_scanPart (by decide) hdigits hrest (by cases hrest <;> simp) hhour
      simp [hcolon]
  simp [scanMoment, hdate, htime]

/-- Digits are read up to the end of the number. -/
theorem moreDigits_append {digits rest : List Char} (hdigits : ∀ c ∈ digits, isDigit c = true)
    (hrest : EndsValue rest) : moreDigits isDigit (digits ++ rest) = some (digits, rest) := by
  induction digits with
  | nil =>
    cases hrest <;> simp [moreDigits, isDigit]
  | cons d ds ih =>
    obtain ⟨hd, hds⟩ := List.forall_mem_cons.mp hdigits
    have hne : d ≠ '_' := by
      rintro rfl
      cases hd
    rw [List.cons_append, moreDigits]
    · simp [hd, ih hds]
    all_goals simp [hne]

/-- The digits of a number are all of it. -/
theorem scanWhole_toDigits (n : Nat) {rest : List Char} (hrest : EndsValue rest) :
    scanWhole (Nat.toDigits 10 n ++ rest) = some (Nat.toDigits 10 n, rest) := by
  by_cases hn : n = 0
  · subst hn
    rfl
  · cases hdigits : Nat.toDigits 10 n with
    | nil => exact absurd hdigits Nat.toDigits_ne_nil
    | cons d ds =>
      have hne : d ≠ '0' := by
        rintro rfl
        exact hn (toDigits_of_head? (by rw [hdigits]; rfl))
      have hall : ∀ c ∈ d :: ds, isDigit c = true :=
        fun c hc => isDigit_of_mem_toDigits (n := n) (hdigits ▸ hc)
      obtain ⟨hd, hds⟩ := List.forall_mem_cons.mp hall
      rw [List.cons_append, scanWhole, someDigits, if_pos hd, moreDigits_append hds hrest]
      · rfl
      · exact fun _ heq => hne (List.cons.inj heq).1

/-- A number has no sign. -/
theorem scanSign_toDigits (n : Nat) (rest : List Char) :
    scanSign (Nat.toDigits 10 n ++ rest) = (false, Nat.toDigits 10 n ++ rest) := by
  obtain ⟨d, ds, hdigits, -, hne⟩ := exists_toDigits_eq_cons n
  rw [hdigits, List.cons_append, scanSign]
  · exact fun _ heq => hne '+' (by decide) (List.cons.inj heq).1
  · exact fun _ heq => hne '-' (by decide) (List.cons.inj heq).1

/-- **A number without decimals and exponent is no double.** -/
theorem scanDecimal_toDigits (n : Nat) {rest : List Char} (hrest : EndsValue rest) :
    scanDecimal (Nat.toDigits 10 n ++ rest) = none := by
  have hdecimals : scanDecimals rest = some ([], rest) := by cases hrest <;> rfl
  have hexponent : scanExponent rest = some (0, rest) := by cases hrest <;> rfl
  simp [scanDecimal, scanSign_toDigits, scanWhole_toDigits n hrest, hdecimals, hexponent]

/-- Nor is it a special one. -/
theorem scanSpecial_toDigits (n : Nat) (rest : List Char) :
    scanSpecial (Nat.toDigits 10 n ++ rest) = none := by
  obtain ⟨d, ds, hdigits, -, hne⟩ := exists_toDigits_eq_cons n
  rw [scanSpecial, scanSign_toDigits, hdigits]
  dsimp only [List.cons_append]
  split
  · rename_i heq
    exact absurd (List.cons.inj heq).1 (hne 'i' (by decide))
  · rename_i heq
    exact absurd (List.cons.inj heq).1 (hne 'n' (by decide))
  · rfl

/-- A number is within the bounds if it has less than 64 bits. -/
theorem natCast_bounded {n : Nat} :
    -Int.pow 2 63 ≤ (n : Int) ∧ (n : Int) < Int.pow 2 63 ↔ n < 2 ^ 63 := by
  have hbound : Int.pow 2 63 = 9223372036854775808 := rfl
  rw [hbound]
  omega

/-- So it is read as itself. -/
theorem boundedInt?_natCast {n : Nat} (hn : n < 2 ^ 63) :
    boundedInt? (n : Int) = some (.int n) :=
  if_pos (natCast_bounded.mpr hn)

/-- An integer that does not give a base is made of its sign and its digits. -/
theorem scanInt_of_scanWhole {cs behind digits rest : List Char} {negative : Bool}
    (hbase : ∀ c more, c ∈ ['x', 'o', 'b'] → cs ≠ '0' :: c :: more)
    (hsign : scanSign cs = (negative, behind)) (hwhole : scanWhole behind = some (digits, rest)) :
    scanInt cs
      = (boundedInt? (if negative then -(digitsValue digits : Int) else digitsValue digits)).map
        (·, rest) := by
  rw [scanInt, hsign]
  · -- what bounds and values are does not matter here, and looking at them takes the kernel too far
    generalize boundedInt? = bounded
    generalize digitsValue = valueOf
    simp only [hwhole, Option.bind_eq_bind, Option.bind_some]
    cases bounded (if negative then -(valueOf digits : Int) else valueOf digits) <;> rfl
  · exact fun more => hbase 'x' more (by decide)
  · exact fun more => hbase 'o' more (by decide)
  · exact fun more => hbase 'b' more (by decide)

/-- A number gives no base. -/
theorem toDigits_append_ne {n : Nat} {rest : List Char} (hrest : EndsValue rest) {c : Char}
    (hc : c ∈ ['x', 'o', 'b']) (more : List Char) :
    Nat.toDigits 10 n ++ rest ≠ '0' :: c :: more := by
  intro heq
  have hnodigit : isDigit c = false := by
    have hall : ['x', 'o', 'b'].all (!isDigit ·) = true := by decide
    simpa using List.all_eq_true.mp hall c hc
  obtain ⟨d, ds, hdigits, -, -⟩ := exists_toDigits_eq_cons n
  rw [hdigits] at heq
  obtain ⟨rfl, hds⟩ := List.cons.inj heq
  cases ds with
  | nil =>
    cases hrest <;> simp at hds <;> simp [← hds.1] at hc
  | cons e es =>
    have he : isDigit e = true :=
      isDigit_of_mem_toDigits (hdigits ▸ List.mem_cons_of_mem _ List.mem_cons_self)
    rw [(List.cons.inj hds).1, hnodigit] at he
    cases he

/-- **A number is read as an integer.** -/
theorem scanInt_toDigits {n : Nat} (hn : n < 2 ^ 63) {rest : List Char} (hrest : EndsValue rest) :
    scanInt (Nat.toDigits 10 n ++ rest) = some (.int n, rest) := by
  rw [scanInt_of_scanWhole (fun c more hc => toDigits_append_ne hrest hc more)
    (scanSign_toDigits n rest) (scanWhole_toDigits n hrest), digitsValue_toDigits,
    if_neg Bool.false_ne_true, boundedInt?_natCast hn]
  rfl

/-- **A number is read as it was written.** -/
theorem scanNumber_toDigits {n : Nat} (hn : n < 2 ^ 63) {rest : List Char} (hrest : EndsValue rest) :
    scanNumber (Nat.toDigits 10 n ++ rest) = some (.int n, rest) := by
  simp [scanNumber, scanDecimal_toDigits n hrest, scanSpecial_toDigits, scanInt_toDigits hn hrest]

/-! ### Scalars -/

/-- **A scalar** that is read as it was written: a truth value, a number that is not negative, or a
text. -/
inductive IsScalar : Node → Prop
  /-- A truth value. -/
  | flag (b : Bool) : IsScalar (.flag b)
  /-- A number. -/
  | number (n : Nat) : IsScalar (.int n)
  /-- A text. -/
  | text (s : String) : IsScalar (.text s)

/-- The characters that a scalar can begin with. -/
def BeginsScalar (c : Char) : Prop := c ∈ ['t', 'f', '"', '\''] ∨ isDigit c = true

/-- None of them is space or stands for anything else in a list or a table. -/
theorem BeginsScalar.not_mem {c : Char} (h : BeginsScalar c) :
    c ∉ ['[', ']', '{', '#', '\n', '\r', ' ', '\t'] := by
  intro hmem
  have hall : ['[', ']', '{', '#', '\n', '\r', ' ', '\t'].all
      (fun d => !(['t', 'f', '"', '\''].contains d || isDigit d)) = true := by decide
  have hnone := List.all_eq_true.mp hall c hmem
  simp only [Bool.not_eq_true', Bool.or_eq_false_iff, List.contains_eq_mem,
    decide_eq_false_iff_not] at hnone
  obtain hquote | hdigit := h
  · exact hnone.1 hquote
  · rw [hnone.2] at hdigit
    cases hdigit

/-- So none of them is passed over in front of a value. -/
theorem BeginsScalar.notSkipped {c : Char} (h : BeginsScalar c) :
    c ∉ ['#', '\n', '\r', ' ', '\t'] :=
  fun hmem => h.not_mem (List.mem_append_right ['[', ']', '{'] hmem)

/-- So a scalar begins with none of them. -/
theorem BeginsScalar.ne {c : Char} (h : BeginsScalar c) {d : Char}
    (hd : d ∈ ['[', ']', '{', '#', '\n', '\r', ' ', '\t']) : c ≠ d :=
  (ne_of_mem_of_not_mem hd h.not_mem).symm

/-- A written text begins with a quote. -/
theorem exists_write_eq_cons (s : String) :
    ∃ c rest, Form.write s = c :: rest ∧ (c = '"' ∨ c = '\'') := by
  rw [Form.write]
  cases Form.choose s.toList with
  | basic => exact ⟨'"', _, rfl, .inl rfl⟩
  | literal => exact ⟨'\'', _, rfl, .inr rfl⟩
  | basicLines => exact ⟨'"', _, rfl, .inl rfl⟩
  | literalLines => exact ⟨'\'', _, rfl, .inr rfl⟩

/-- A number is written with its digits, if it has less than 64 bits. -/
theorem writeValue_natCast (n : Nat) :
    writeValue (.int n) = if n < 2 ^ 63 then some (Nat.toDigits 10 n) else none := by
  have hdigits : (toString (n : Int)).toList = Nat.toDigits 10 n := Nat.toList_repr
  rw [writeValue, hdigits]
  simp only [natCast_bounded]

/-- So it can be written if it has less than 64 bits. -/
theorem isSome_writeValue_natCast (n : Nat) : (writeValue (.int n)).isSome ↔ n < 2 ^ 63 := by
  rw [writeValue_natCast]
  split
  · rename_i h
    exact iff_of_true rfl h
  · rename_i h
    exact iff_of_false Bool.false_ne_true h

/-- **What is written reads as a scalar**, and its first character shows that it is one. -/
structure ReadsAs (written : List Char) (value : Node) : Prop where
  /-- It begins like a scalar. -/
  begins : ∃ c tail, written = c :: tail ∧ BeginsScalar c
  /-- It is read up to where it ends. -/
  scan : ∀ rest, EndsValue rest → scanScalar (written ++ rest) = some (value, rest)

/-- A text reads as itself. -/
theorem readsAs_text (s : String) : ReadsAs (Form.write s) (.text s) := by
  obtain ⟨c, tail, hwrite, hquote⟩ := exists_write_eq_cons s
  refine ⟨⟨c, tail, hwrite, ?_⟩, fun rest hrest => ?_⟩
  · obtain rfl | rfl := hquote <;> exact .inl (by decide)
  · have hscan := Quoted.scan_write s hrest.noQuote
    rw [hwrite, List.cons_append] at hscan ⊢
    rw [scanScalar, if_pos hquote, hscan]
    simp

/-- A truth value reads as itself. -/
theorem readsAs_flag (b : Bool) : ReadsAs (toString b).toList (.flag b) := by
  cases b with
  | true => exact ⟨⟨'t', _, rfl, .inl (by decide)⟩, fun rest _ => rfl⟩
  | false => exact ⟨⟨'f', _, rfl, .inl (by decide)⟩, fun rest _ => rfl⟩

/-- A number reads as itself. -/
theorem readsAs_number {n : Nat} (hn : n < 2 ^ 63) : ReadsAs (Nat.toDigits 10 n) (.int n) := by
  obtain ⟨d, ds, hdigits, hd, hne⟩ := exists_toDigits_eq_cons n
  refine ⟨⟨d, ds, hdigits, .inr hd⟩, fun rest hrest => ?_⟩
  have hmoment : scanMoment (Nat.toDigits 10 n ++ rest) = none :=
    scanMoment_digits (fun c hc => isDigit_of_mem_toDigits hc) hrest
  have hnumber := scanNumber_toDigits hn hrest
  rw [hdigits, List.cons_append] at hmoment hnumber ⊢
  have hquote : ¬(d = '"' ∨ d = '\'') := by
    rintro (h | h)
    · exact hne '"' (by decide) h
    · exact hne '\'' (by decide) h
  rw [scanScalar, if_neg hquote, if_neg (hne 't' (by decide)), if_neg (hne 'f' (by decide)), hmoment,
    hnumber]
  rfl

/-- **A scalar is read as it was written.** -/
theorem IsScalar.readsAs {value : Node} (hvalue : IsScalar value) {written : List Char}
    (hwritten : writeValue value = some written) : ReadsAs written value := by
  cases hvalue with
  | flag b =>
    rw [writeValue] at hwritten
    cases hwritten
    exact readsAs_flag b
  | number n =>
    rw [writeValue_natCast] at hwritten
    split at hwritten
    · rename_i hn
      cases hwritten
      exact readsAs_number hn
    · cases hwritten
  | text s =>
    rw [writeValue] at hwritten
    cases hwritten
    exact readsAs_text s

/-- A scalar is a value. -/
theorem ReadsAs.scanValue {written : List Char} {value : Node} (h : ReadsAs written value)
    (fuel depth : Nat) {rest : List Char} (hrest : EndsValue rest) :
    scanValue (fuel + 1) depth (written ++ rest) = some (value, rest) := by
  have hscan := h.scan rest hrest
  obtain ⟨c, tail, rfl, hc⟩ := h.begins
  rw [List.cons_append, Toml.scanValue, ← List.cons_append, hscan]
  · rintro _ heq
    exact hc.ne (by decide) (List.cons.inj heq).1
  · rintro _ heq
    exact hc.ne (by decide) (List.cons.inj heq).1

/-! ### Lists -/

/-- Nothing is skipped in front of what is neither space nor a comment. -/
theorem skipLines_cons {c : Char} (hc : c ∉ ['#', '\n', '\r', ' ', '\t']) (fuel : Nat)
    (rest : List Char) : skipLines fuel (c :: rest) = c :: rest := by
  simp only [List.mem_cons, not_or] at hc
  obtain ⟨hcomment, hline, hreturn, hspace, htab, -⟩ := hc
  have hblanks : skipBlanks (c :: rest) = c :: rest := by
    simp [skipBlanks, isBlank, hspace, htab]
  have hskip : skipComment (c :: rest) = c :: rest := by
    rw [skipComment]
    exact fun _ heq => hcomment (List.cons.inj heq).1
  have hnewline : behindNewline? (c :: rest) = none := by
    rw [behindNewline?]
    · exact fun _ heq => hline (List.cons.inj heq).1
    · exact fun _ heq => hreturn (List.cons.inj heq).1
  cases fuel with
  | zero => rfl
  | succ fuel =>
    rw [skipLines]
    simp only [hblanks, hskip, hnewline]

/-- A line end is skipped. -/
theorem skipLines_newline (fuel : Nat) (rest : List Char) :
    skipLines (fuel + 1) ('\n' :: rest) = skipLines fuel rest := rfl

/-- An indentation is skipped. -/
theorem skipLines_indent {c : Char} (hc : c ∉ ['#', '\n', '\r', ' ', '\t']) (fuel : Nat)
    (rest : List Char) :
    skipLines (fuel + 1) (' ' :: ' ' :: ' ' :: ' ' :: c :: rest) = c :: rest := by
  have hskip := skipLines_cons hc (fuel + 1) rest
  rw [skipLines] at hskip ⊢
  exact hskip

/-- A list of several values has a line for each. -/
def itemLines (items : List (List Char)) : List Char :=
  items.flatMap fun item => ' ' :: ' ' :: ' ' :: ' ' :: (item ++ [',', '\n'])

/-- The first of these lines. -/
theorem itemLines_cons (first : List Char) (others : List (List Char)) :
    itemLines (first :: others)
      = ' ' :: ' ' :: ' ' :: ' ' :: (first ++ ',' :: '\n' :: itemLines others) := by
  simp [itemLines]

/-- Values that are written are written one by one. -/
theorem exists_of_writeValues {item : Node} {items : List Node} {written : List (List Char)}
    (h : writeValues (item :: items) = some written) :
    ∃ first others, written = first :: others ∧ writeValue item = some first
      ∧ writeValues items = some others := by
  rw [writeValues] at h
  cases hfirst : writeValue item with
  | none => simp [hfirst] at h
  | some first =>
    cases hothers : writeValues items with
    | none => simp [hfirst, hothers] at h
    | some others =>
      simp only [hfirst, hothers, Option.bind_eq_bind, Option.bind_some, Option.pure_def,
        Option.some.injEq] at h
      exact ⟨first, others, h.symm, rfl, rfl⟩

/-- Texts can always be written. -/
theorem writeValues_text (texts : List String) :
    writeValues (texts.map .text) = some (texts.map Form.write) := by
  induction texts with
  | nil => rfl
  | cons text texts ih =>
    rw [List.map_cons, writeValues, ih]
    rfl

/-- A bracket closes the list. -/
theorem scanItems_of_bracket {cs rest : List Char} (hskip : skipLines cs.length cs = ']' :: rest)
    (fuel depth : Nat) : scanItems (fuel + 1) depth cs = some ([], rest) := by
  simp only [scanItems, hskip]

/-- **A value is the next of the list**, whether another one follows it or not. -/
theorem ReadsAs.scanItems_of_skipLines {written : List Char} {value : Node} (h : ReadsAs written value)
    {cs after : List Char} (hskip : skipLines cs.length cs = written ++ after)
    (hafter : EndsValue after) (fuel depth : Nat) :
    scanItems (fuel + 2) depth cs = match skipLines after.length after with
      | ']' :: rest => return ([value], rest)
      | ',' :: rest => do
        let (items, rest) ← scanItems (fuel + 1) depth rest
        return (value :: items, rest)
      | _ => none := by
  have hvalue := h.scanValue fuel depth hafter
  obtain ⟨c, tail, rfl, hc⟩ := h.begins
  rw [scanItems.eq_def]
  simp only [hskip]
  split
  · rename_i heq
    exact absurd (List.cons.inj heq).1 (hc.ne (by decide))
  · rw [hvalue]
    rfl

/-- A value on a line of its own is followed by what the next lines hold. -/
theorem ReadsAs.scanItems_newline {written : List Char} {value : Node} (h : ReadsAs written value)
    (fuel depth : Nat) (rest : List Char) :
    scanItems (fuel + 2) depth ('\n' :: ' ' :: ' ' :: ' ' :: ' ' :: (written ++ ',' :: rest))
      = do
        let (items, rest) ← scanItems (fuel + 1) depth rest
        return (value :: items, rest) := by
  obtain ⟨c, tail, hwritten, hc⟩ := h.begins
  have hskip : skipLines ('\n' :: ' ' :: ' ' :: ' ' :: ' ' :: (written ++ ',' :: rest)).length
      ('\n' :: ' ' :: ' ' :: ' ' :: ' ' :: (written ++ ',' :: rest)) = written ++ ',' :: rest := by
    rw [hwritten, List.length_cons, skipLines_newline, List.length_cons]
    exact skipLines_indent hc.notSkipped _ _
  have hcomma : skipLines (',' :: rest).length (',' :: rest) = ',' :: rest :=
    skipLines_cons (by decide) _ rest
  rw [h.scanItems_of_skipLines hskip (.comma rest), hcomma]
  rfl

/-- A value on the line of the brackets is the only one. -/
theorem ReadsAs.scanItems_bracket {written : List Char} {value : Node} (h : ReadsAs written value)
    (fuel depth : Nat) (rest : List Char) :
    scanItems (fuel + 2) depth (written ++ ']' :: rest) = some ([value], rest) := by
  obtain ⟨c, tail, hwritten, hc⟩ := h.begins
  have hskip : skipLines (written ++ ']' :: rest).length (written ++ ']' :: rest)
      = written ++ ']' :: rest := by
    rw [hwritten]
    exact skipLines_cons hc.notSkipped _ _
  have hbracket : skipLines (']' :: rest).length (']' :: rest) = ']' :: rest :=
    skipLines_cons (by decide) _ rest
  rw [h.scanItems_of_skipLines hskip (.bracket rest), hbracket]
  rfl

/-- **Lines of values are read one by one.** -/
theorem scanItems_itemLines {items : List Node} (hitems : ∀ item ∈ items, IsScalar item)
    {written : List (List Char)} (hwritten : writeValues items = some written) {fuel : Nat}
    (hfuel : items.length < fuel) (depth : Nat) (rest : List Char) :
    scanItems fuel depth ('\n' :: (itemLines written ++ ']' :: rest)) = some (items, rest) := by
  induction items generalizing written fuel with
  | nil =>
    obtain ⟨fuel, rfl⟩ := Nat.exists_eq_add_one_of_ne_zero (Nat.ne_of_gt hfuel)
    rw [writeValues] at hwritten
    cases hwritten
    have hskip : skipLines ('\n' :: ']' :: rest).length ('\n' :: ']' :: rest) = ']' :: rest := by
      rw [List.length_cons, skipLines_newline, skipLines_cons (by decide)]
    exact scanItems_of_bracket hskip fuel depth
  | cons item items ih =>
    obtain ⟨fuel, rfl⟩ : ∃ more, fuel = more + 2 :=
      ⟨fuel - 2, by rw [List.length_cons] at hfuel; omega⟩
    obtain ⟨first, others, rfl, hfirst, hothers⟩ := exists_of_writeValues hwritten
    obtain ⟨hitem, hitems⟩ := List.forall_mem_cons.mp hitems
    have hlines : itemLines (first :: others) ++ ']' :: rest
        = ' ' :: ' ' :: ' ' :: ' ' :: (first ++ ',' :: '\n' :: (itemLines others ++ ']' :: rest)) := by
      rw [itemLines_cons]
      simp
    rw [hlines, (hitem.readsAs hfirst).scanItems_newline,
      ih hitems hothers (Nat.lt_of_succ_lt_succ hfuel)]
    rfl

/-- **A list is read as it was written**, on one line or on several. -/
theorem scanValue_writeList {items : List Node} (hitems : ∀ item ∈ items, IsScalar item)
    {written : List (List Char)} (hwritten : writeValues items = some written) {fuel : Nat}
    (hfuel : items.length + 2 ≤ fuel) (depth : Nat) (rest : List Char) :
    scanValue fuel (depth + 1) (writeList written ++ rest) = some (.seq items, rest) := by
  obtain ⟨fuel, rfl⟩ : ∃ more, fuel = more + 2 := ⟨fuel - 2, by omega⟩
  -- the three layouts of a list, which have nothing in common but the bracket
  obtain ⟨inner, hlist, hinner⟩ : ∃ inner, writeList written ++ rest = '[' :: inner
      ∧ scanItems (fuel + 1) depth inner = some (items, rest) := by
    match items, hwritten with
    | [], hwritten =>
      rw [writeValues] at hwritten
      cases hwritten
      exact ⟨_, rfl, scanItems_of_bracket (skipLines_cons (by decide) _ rest) fuel depth⟩
    | [item], hwritten =>
      obtain ⟨first, others, rfl, hfirst, hothers⟩ := exists_of_writeValues hwritten
      rw [writeValues] at hothers
      cases hothers
      obtain ⟨fuel, rfl⟩ : ∃ more, fuel = more + 1 :=
        ⟨fuel - 1, by rw [List.length_singleton] at hfuel; omega⟩
      have hreads := (hitems item List.mem_cons_self).readsAs hfirst
      refine ⟨_, ?_, hreads.scanItems_bracket fuel depth rest⟩
      simp [writeList]
    | item :: second :: more, hwritten =>
      have hlt : (item :: second :: more).length < fuel + 1 := Nat.lt_of_succ_lt_succ hfuel
      have hlines := scanItems_itemLines hitems hwritten hlt depth rest
      obtain ⟨first, others, rfl, -, hothers⟩ := exists_of_writeValues hwritten
      obtain ⟨next, others, rfl, -, -⟩ := exists_of_writeValues hothers
      refine ⟨_, ?_, hlines⟩
      simp [writeList, itemLines]
  rw [hlist, scanValue]
  simp only [hinner]
  rfl

/-- There are no more lines than characters. -/
theorem length_le_length_itemLines (written : List (List Char)) :
    written.length ≤ (itemLines written).length := by
  induction written with
  | nil => exact Nat.le_refl 0
  | cons first others ih =>
    simp only [itemLines_cons, List.length_cons, List.length_append]
    omega

/-- A list takes more characters than it has values. -/
theorem length_lt_length_writeList : (written : List (List Char)) →
    written.length < (writeList written).length
  | [] => by decide
  | [first] => by simp [writeList]
  | first :: second :: others => by
    have hle := length_le_length_itemLines (first :: second :: others)
    have hlist : writeList (first :: second :: others)
        = '[' :: '\n' :: (itemLines (first :: second :: others) ++ [']']) := rfl
    simp only [hlist, List.length_cons, List.length_append] at hle ⊢
    omega

/-- As many values are written as there are. -/
theorem length_of_writeValues {items : List Node} {written : List (List Char)}
    (h : writeValues items = some written) : written.length = items.length := by
  induction items generalizing written with
  | nil =>
    rw [writeValues] at h
    cases h
    rfl
  | cons item items ih =>
    obtain ⟨first, others, rfl, -, hothers⟩ := exists_of_writeValues h
    rw [List.length_cons, List.length_cons, ih hothers]

/-! ### Leaves -/

/-- **A value that holds no table**: a scalar or a list of scalars. -/
inductive IsLeaf : Node → Prop
  /-- A scalar. -/
  | scalar {value : Node} (hvalue : IsScalar value) : IsLeaf value
  /-- A list of scalars. -/
  | list {items : List Node} (hitems : ∀ item ∈ items, IsScalar item) : IsLeaf (.seq items)

/-- Neither space nor the end of a line comes first in a written value. -/
theorem IsLeaf.exists_eq_cons {value : Node} (hvalue : IsLeaf value) {written : List Char}
    (hwritten : writeValue value = some written) :
    ∃ c tail, written = c :: tail ∧ isBlank c = false := by
  cases hvalue with
  | scalar hvalue =>
    obtain ⟨c, tail, rfl, hc⟩ := (hvalue.readsAs hwritten).begins
    exact ⟨c, tail, rfl, by simp [isBlank, hc.ne]⟩
  | @list items hitems =>
    rw [writeValue] at hwritten
    obtain ⟨lists, -, rfl⟩ := Option.map_eq_some_iff.mp hwritten
    match lists with
    | [] => exact ⟨'[', _, rfl, rfl⟩
    | [_] => exact ⟨'[', _, rfl, rfl⟩
    | _ :: _ :: _ => exact ⟨'[', _, rfl, rfl⟩

/-- **A leaf is read as it was written**, with as many steps as the reader has. -/
theorem IsLeaf.scanValue {value : Node} (hvalue : IsLeaf value) {written : List Char}
    (hwritten : writeValue value = some written) (depth : Nat) {rest : List Char}
    (hrest : EndsValue rest) :
    scanValue (2 * (written ++ rest).length + 1) (depth + 1) (written ++ rest)
      = some (value, rest) := by
  cases hvalue with
  | scalar hvalue => exact (hvalue.readsAs hwritten).scanValue _ _ hrest
  | list hitems =>
    rw [writeValue] at hwritten
    obtain ⟨lists, hlists, rfl⟩ := Option.map_eq_some_iff.mp hwritten
    have hlength := length_of_writeValues hlists
    have hlt := length_lt_length_writeList lists
    exact scanValue_writeList hitems hlists (by rw [List.length_append]; omega) depth rest

end ResourceWait.Toml
