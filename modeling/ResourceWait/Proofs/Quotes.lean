import ResourceWait.Toml.Form
import ResourceWait.Toml.Quoted

/-!
# Texts are read as they were written

A text is written in one of four forms, and whichever it is, `Quoted.scan` reads the text back and
leaves what stands behind it, `Quoted.scan_write`. There is one condition: behind a text no quote may
follow, which could be taken for part of it.

In double quotes every character is either escaped or stands for itself, and is read back on its own.
In single quotes all stand for themselves, so the form is only chosen where they can. With three
quotes on each side a character is not read on its own, since three quotes in a row end the text. What
keeps them from coming too early is the length of runs: the writer escapes every third double quote,
and takes single quotes only where no run is longer than two. A run at the end of the text grows
together with the closing quotes, and the reader then gives up to two of them back.
-/

namespace ResourceWait.Toml

open Form Quoted

/-- No quote follows. -/
def NoQuote (rest : List Char) : Prop := ∀ c ∈ rest.head?, c ≠ '"' ∧ c ≠ '\''

/-- A character other than a quote in front leaves none to follow. -/
theorem noQuote_cons {c : Char} {rest : List Char} (hd : c ≠ '"') (hs : c ≠ '\'') :
    NoQuote (c :: rest) := by
  rintro _ ⟨⟩
  exact ⟨hd, hs⟩

/-! ### Single characters -/

/-- A character that needs no escape and is no line feed may stand on a line. -/
theorem isPlain_of_isControl_eq_false {c : Char} (h : isControl c = false) (hline : c ≠ '\n') :
    isPlain c = true := by
  by_cases htab : c = '\t'
  · simp [isPlain, htab]
  · simp only [isControl, Bool.or_eq_false_iff, Bool.and_eq_false_iff, bne_eq_false_iff_eq, htab,
      hline, or_false, decide_eq_false_iff_not, Char.not_lt, beq_eq_false_iff_ne] at h
    simp [isPlain, h]

/-- A character of less than seven bits is found under the digits of its code point. -/
theorem coded?_fourDigits : ∀ n < 128, coded? (fourDigits n) = some (Char.ofNat n) := by decide

/-- A control character has less than seven bits. -/
theorem toNat_lt_of_isControl {c : Char} (h : isControl c = true) : c.toNat < 128 := by
  simp only [isControl, Bool.or_eq_true, Bool.and_eq_true, decide_eq_true_eq, beq_iff_eq] at h
  obtain ⟨⟨hlt, -⟩, -⟩ | rfl := h
  · have hspace : c.toNat < 32 := hlt
    omega
  · decide

/-- A control character is found under the digits of its code point. -/
theorem coded?_of_isControl {c : Char} (h : isControl c = true) :
    coded? (fourDigits c.toNat) = some c := by
  rw [coded?_fourDigits c.toNat (toNat_lt_of_isControl h), Char.ofNat_toNat]

/-- What has no escape is no backslash, and may stand on a line unless it is a line feed. -/
theorem plain_of_escape?_eq_none {c : Char} (h : escape? c = none) :
    c ≠ '\\' ∧ c ≠ '\r' ∧ (c ≠ '\n' → isPlain c = true) := by
  unfold escape? at h
  split at h
  all_goals first
    | cases h
    | split at h
      · cases h
      · rename_i hcontrol
        exact ⟨‹_›, ‹_›, isPlain_of_isControl_eq_false (Bool.eq_false_iff.mpr hcontrol)⟩

/-- **An escape is read as the character that it was written for**, in a text on one line. -/
theorem scanBasic_escape {c : Char} {escape : List Char} (h : escape? c = some escape)
    (rest : List Char) : scanBasic (escape ++ rest) = add c (scanBasic rest) := by
  unfold escape? at h
  split at h
  all_goals try (cases h; simp [scanBasic, shortEscape?])
  split at h
  · rename_i hcontrol
    cases h
    have hcoded := coded?_of_isControl hcontrol
    simp only [fourDigits] at hcoded ⊢
    simp [scanBasic, hcoded]
  · cases h

/-- It is so in a text of lines. -/
theorem scanBasicLines_escape {c : Char} {escape : List Char} (h : escape? c = some escape)
    (rest : List Char) :
    scanBasicLines false (escape ++ rest) = add c (scanBasicLines false rest) := by
  unfold escape? at h
  split at h
  all_goals try (cases h; simp [scanBasicLines, shortEscape?])
  split at h
  · rename_i hcontrol
    cases h
    have hcoded := coded?_of_isControl hcontrol
    simp only [fourDigits] at hcoded ⊢
    simp [scanBasicLines, hcoded]
  · cases h

/-! ### One quote on each side -/

/-- A character other than a line feed or a quote is written as its escape, or as itself. -/
theorem basicContent_cons {c : Char} (hline : c ≠ '\n') (hquote : c ≠ '"') (s : List Char) :
    basicContent (c :: s) = (escape? c).getD [c] ++ basicContent s := by
  rw [basicContent] <;> assumption

/-- **The content between double quotes** is read back. -/
theorem scanBasic_basicContent (s rest : List Char) :
    scanBasic (basicContent s ++ '"' :: rest) = some (s, rest) := by
  induction s with
  | nil => simp [basicContent, scanBasic]
  | cons c s ih =>
    by_cases hline : c = '\n'
    · subst hline
      simp [basicContent, scanBasic, shortEscape?, ih, add]
    · by_cases hquote : c = '"'
      · subst hquote
        simp [basicContent, scanBasic, shortEscape?, ih, add]
      · rw [basicContent_cons hline hquote]
        cases hescape : escape? c with
        | some escape =>
          rw [Option.getD_some, List.append_assoc, scanBasic_escape hescape, ih]
          rfl
        | none =>
          obtain ⟨hback, -, hplain⟩ := plain_of_escape?_eq_none hescape
          simp [scanBasic, hback, hplain hline, ih, add]

/-- An escape begins with a backslash. -/
theorem head?_escape {c : Char} {escape : List Char} (h : escape? c = some escape) :
    escape.head? = some '\\' := by
  unfold escape? at h
  split at h
  all_goals try (cases h; rfl)
  split at h
  · cases h
    rfl
  · cases h

/-- A character other than a quote is not written with a quote in front. -/
theorem head?_escape?_getD {c : Char} (hquote : c ≠ '"') (rest : List Char) :
    ((escape? c).getD [c] ++ rest).head? ≠ some '"' := by
  cases hescape : escape? c with
  | none => simpa using hquote
  | some escape => simp [head?_escape hescape]

/-- The content between double quotes does not begin with one. -/
theorem head?_basicContent (s : List Char) : (basicContent s).head? ≠ some '"' := by
  cases s with
  | nil => simp [basicContent]
  | cons c s =>
    by_cases hline : c = '\n'
    · subst hline
      simp [basicContent]
    · by_cases hquote : c = '"'
      · subst hquote
        simp [basicContent]
      · rw [basicContent_cons hline hquote]
        exact head?_escape?_getD hquote _

/-- **The text between single quotes** is read back, if all in it may stand for itself. -/
theorem scanLiteral_append {s : List Char} (h : ∀ c ∈ s, c ≠ '\'' ∧ isPlain c = true)
    (rest : List Char) : scanLiteral (s ++ '\'' :: rest) = some (s, rest) := by
  induction s with
  | nil => simp [scanLiteral]
  | cons c s ih =>
    obtain ⟨⟨hquote, hplain⟩, hs⟩ := List.forall_mem_cons.mp h
    simp [scanLiteral, hplain, ih hs, add]

/-- A text between two quotes does not open with three, if neither the text nor what follows it begins
with one. -/
theorem append_ne_of_head? {quote : Char} {content rest : List Char}
    (hcontent : content.head? ≠ some quote) (hrest : rest.head? ≠ some quote) (more : List Char) :
    content ++ quote :: rest ≠ quote :: quote :: more := by
  intro heq
  cases content with
  | nil => exact hrest (congrArg List.head? (List.cons.inj heq).2)
  | cons c content => exact hcontent (congrArg some (List.cons.inj heq).1)

/-- A double quote before which no three in a row begin opens a text on one line. -/
theorem scan_double {rest : List Char} (h : ∀ more, rest ≠ '"' :: '"' :: more) :
    scan ('"' :: rest) = scanBasic rest := by
  unfold scan
  split
  · rename_i heq
    exact absurd (List.cons.inj heq).2 (h _)
  · rename_i heq
    cases heq
  · rfl

/-- A single quote before which no three in a row begin opens a text on one line. -/
theorem scan_single {rest : List Char} (h : ∀ more, rest ≠ '\'' :: '\'' :: more) :
    scan ('\'' :: rest) = scanLiteral rest := by
  unfold scan
  split
  · rename_i heq
    cases heq
  · rename_i heq
    exact absurd (List.cons.inj heq).2 (h _)
  · rfl

/-! ### Three quotes on each side -/

/-- Up to two quotes right before the closing ones belong to the text. -/
theorem lastQuotes_replicate {quote : Char} {n : Nat} (hn : n ≤ 2) {rest : List Char}
    (h : rest.head? ≠ some quote) :
    lastQuotes quote (List.replicate n quote ++ rest) = (List.replicate n quote, rest) := by
  match n, rest with
  | 0, [] => rfl
  | 0, [a] => simpa [lastQuotes] using h
  | 0, a :: b :: rest =>
    have ha : a ≠ quote := by simpa using h
    simp [lastQuotes, ha]
  | 1, [] => simp [lastQuotes]
  | 1, a :: rest => simpa [lastQuotes] using h
  | 2, rest => simp [lastQuotes, List.replicate]
  | n + 3, _ => omega

/-- A double quote before which no three in a row begin belongs to the text. -/
theorem scanBasicLines_quote {rest : List Char} (h : ∀ more, rest ≠ '"' :: '"' :: more) :
    scanBasicLines false ('"' :: rest) = add '"' (scanBasicLines false rest) := by
  rw [scanBasicLines]
  · simp [isPlain]
  all_goals simp
  exact fun more => h more

/-- A character that may stand on a line and is no quote stands for itself. -/
theorem scanBasicLines_plain {c : Char} (hquote : c ≠ '"') (hline : c ≠ '\n') (hreturn : c ≠ '\r')
    (hback : c ≠ '\\') (hplain : isPlain c = true) (rest : List Char) :
    scanBasicLines false (c :: rest) = add c (scanBasicLines false rest) := by
  rw [scanBasicLines]
  · simp [hback, hplain]
  all_goals simp [hquote, hline, hreturn, hback]

/-- A character other than a double quote is written as its escape, or as itself. -/
theorem basicLinesContent_cons {c : Char} (hquote : c ≠ '"') (run : Nat) (s : List Char) :
    basicLinesContent run (c :: s) = (escape? c).getD [c] ++ basicLinesContent 0 s := by
  rw [basicLinesContent]
  exact hquote

/-- Every third quote of a run is escaped. -/
theorem basicLinesContent_third (s : List Char) :
    basicLinesContent 2 ('"' :: s) = '\\' :: '"' :: basicLinesContent 0 s := by
  simp [basicLinesContent]

/-- The others are not. -/
theorem basicLinesContent_quote {run : Nat} (h : run ≠ 2) (s : List Char) :
    basicLinesContent run ('"' :: s) = '"' :: basicLinesContent (run + 1) s := by
  simp [basicLinesContent, h]

/-- **Where three quotes come together** behind one quote at the most, nothing but quotes was left to
write. -/
theorem eq_of_basicLinesContent {run : Nat} (hrun : run < 2) {s tail more : List Char}
    (h : basicLinesContent (run + 1) s ++ tail = '"' :: '"' :: more) :
    s = [] ∨ s = ['"'] ∧ run = 0 := by
  match s with
  | [] => exact .inl rfl
  | c :: s =>
    by_cases hquote : c = '"'
    · subst hquote
      match run, hrun with
      | 1, _ =>
        rw [basicLinesContent_third] at h
        cases h
      | 0, _ =>
        rw [basicLinesContent_quote (by decide)] at h
        match s with
        | [] => exact .inr ⟨rfl, rfl⟩
        | d :: s =>
          by_cases hd : d = '"'
          · subst hd
            rw [basicLinesContent_third] at h
            cases h
          · rw [basicLinesContent_cons hd, List.cons_append, List.append_assoc] at h
            exact absurd (congrArg List.head? (List.cons.inj h).2) (head?_escape?_getD hd _)
    · rw [basicLinesContent_cons hquote, List.append_assoc] at h
      exact absurd (congrArg List.head? h) (head?_escape?_getD hquote _)

/-- **The content between three double quotes** is read back. -/
theorem scanBasicLines_content {rest : List Char} (hrest : rest.head? ≠ some '"') (s : List Char)
    {run : Nat} (hrun : run ≤ 2) :
    scanBasicLines false (basicLinesContent run s ++ '"' :: '"' :: '"' :: rest) = some (s, rest) := by
  induction s generalizing run with
  | nil =>
    have hlast := lastQuotes_replicate (show 0 ≤ 2 by decide) hrest
    simpa [basicLinesContent, scanBasicLines] using hlast
  | cons c s ih =>
    by_cases hquote : c = '"'
    · subst hquote
      by_cases hthird : run = 2
      · subst hthird
        rw [basicLinesContent_third]
        simp [scanBasicLines, shortEscape?, ih (Nat.zero_le 2), add]
      · have hrun : run < 2 := Nat.lt_of_le_of_ne hrun hthird
        rw [basicLinesContent_quote hthird, List.cons_append]
        -- a quote is read on its own unless it is the first of three, and then the text ends here
        by_cases htwo : ∃ more, basicLinesContent (run + 1) s ++ '"' :: '"' :: '"' :: rest
            = '"' :: '"' :: more
        · obtain ⟨more, hmore⟩ := htwo
          obtain rfl | ⟨rfl, rfl⟩ := eq_of_basicLinesContent hrun hmore
          · have hlast := lastQuotes_replicate (show 1 ≤ 2 by decide) hrest
            simpa [basicLinesContent, scanBasicLines] using hlast
          · have hlast := lastQuotes_replicate (show 2 ≤ 2 by decide) hrest
            simpa [basicLinesContent, scanBasicLines] using hlast
        · rw [scanBasicLines_quote fun more hmore => htwo ⟨more, hmore⟩, ih hrun]
          rfl
    · rw [basicLinesContent_cons hquote, List.append_assoc]
      cases hescape : escape? c with
      | some escape =>
        rw [Option.getD_some, scanBasicLines_escape hescape, ih (Nat.zero_le 2)]
        rfl
      | none =>
        obtain ⟨hback, hreturn, hplain⟩ := plain_of_escape?_eq_none hescape
        by_cases hline : c = '\n'
        · subst hline
          simp [scanBasicLines, ih (Nat.zero_le 2), add]
        · rw [Option.getD_none, List.singleton_append,
            scanBasicLines_plain hquote hline hreturn hback (hplain hline), ih (Nat.zero_le 2)]
          rfl

/-- A run is no longer than the longest. -/
theorem le_longestRun (quote : Char) (run : Nat) (s : List Char) : run ≤ longestRun quote run s := by
  induction s generalizing run with
  | nil => exact Nat.le_refl _
  | cons c s ih =>
    rw [longestRun]
    split
    · exact Nat.le_of_succ_le (ih (run + 1))
    · exact Nat.le_max_left _ _

/-- A single quote before which no three in a row begin belongs to the text. -/
theorem scanLiteralLines_quote {rest : List Char} (h : ∀ more, rest ≠ '\'' :: '\'' :: more) :
    scanLiteralLines ('\'' :: rest) = add '\'' (scanLiteralLines rest) := by
  rw [scanLiteralLines]
  · simp [isPlain]
  all_goals simp
  exact fun more => h more

/-- A character that may stand on a line and is no quote stands for itself. -/
theorem scanLiteralLines_plain {c : Char} (hquote : c ≠ '\'') (hline : c ≠ '\n')
    (hreturn : c ≠ '\r') (hplain : isPlain c = true) (rest : List Char) :
    scanLiteralLines (c :: rest) = add c (scanLiteralLines rest) := by
  rw [scanLiteralLines]
  · simp [hplain]
  all_goals simp [hquote, hline, hreturn]

/-- **Where three single quotes come together** behind one, and no run is longer than two, nothing but
quotes was left. -/
theorem eq_of_longestRun {run : Nat} {s tail more : List Char}
    (hrun : longestRun '\'' (run + 1) s ≤ 2) (h : s ++ tail = '\'' :: '\'' :: more) :
    s = [] ∨ s = ['\''] := by
  match s with
  | [] => exact .inl rfl
  | [c] =>
    obtain rfl : c = '\'' := (List.cons.inj h).1
    exact .inr rfl
  | c :: d :: s =>
    obtain ⟨rfl, hrest⟩ := List.cons.inj h
    obtain ⟨rfl, -⟩ := List.cons.inj hrest
    -- with these two the run is three long already
    have hthree : run + 1 + 1 + 1 ≤ 2 := Nat.le_trans (le_longestRun '\'' _ s) hrun
    omega

/-- **The text between three single quotes** is read back, if all in it may stand for itself and no
run of quotes is longer than two. -/
theorem scanLiteralLines_append {rest : List Char} (hrest : rest.head? ≠ some '\'') {s : List Char}
    {run : Nat} (hrun : longestRun '\'' run s ≤ 2) (hcontrol : ∀ c ∈ s, isControl c = false) :
    scanLiteralLines (s ++ '\'' :: '\'' :: '\'' :: rest) = some (s, rest) := by
  induction s generalizing run with
  | nil =>
    have hlast := lastQuotes_replicate (show 0 ≤ 2 by decide) hrest
    simpa [scanLiteralLines] using hlast
  | cons c s ih =>
    obtain ⟨hc, hs⟩ := List.forall_mem_cons.mp hcontrol
    rw [longestRun] at hrun
    by_cases hquote : c = '\''
    · subst hquote
      rw [if_pos rfl] at hrun
      rw [List.cons_append]
      -- as between double quotes, three in a row come only at the end
      by_cases htwo : ∃ more, s ++ '\'' :: '\'' :: '\'' :: rest = '\'' :: '\'' :: more
      · obtain ⟨more, hmore⟩ := htwo
        obtain rfl | rfl := eq_of_longestRun hrun hmore
        · have hlast := lastQuotes_replicate (show 1 ≤ 2 by decide) hrest
          simpa [scanLiteralLines] using hlast
        · have hlast := lastQuotes_replicate (show 2 ≤ 2 by decide) hrest
          simpa [scanLiteralLines] using hlast
      · rw [scanLiteralLines_quote fun more hmore => htwo ⟨more, hmore⟩, ih hrun hs]
        rfl
    · rw [if_neg hquote] at hrun
      have hrest := ih (Nat.le_trans (Nat.le_max_right _ _) hrun) hs
      by_cases hline : c = '\n'
      · subst hline
        simp [scanLiteralLines, hrest, add]
      · have hreturn : c ≠ '\r' := by
          rintro rfl
          exact absurd hc (by decide)
        rw [List.cons_append, scanLiteralLines_plain hquote hline hreturn
          (isPlain_of_isControl_eq_false hc hline), hrest]
        rfl

/-! ### The form that was chosen -/

/-- Without a run of them there is no quote. -/
theorem ne_of_longestRun_eq_zero {quote : Char} {s : List Char} (h : longestRun quote 0 s = 0) :
    ∀ c ∈ s, c ≠ quote := by
  induction s with
  | nil => simp
  | cons c s ih =>
    rw [longestRun] at h
    split at h
    · exact absurd (Nat.le_trans (le_longestRun quote 1 s) (Nat.le_of_eq h)) (by decide)
    · rename_i hc
      exact List.forall_mem_cons.mpr ⟨hc, ih (Nat.max_eq_zero_iff.mp h).2⟩

/-- A text that stands between two single quotes may. -/
theorem plain_of_choose_eq_literal {s : List Char} (h : choose s = .literal) :
    ∀ c ∈ s, c ≠ '\'' ∧ isPlain c = true := by
  simp only [choose] at h
  split at h
  · cases h
  · split at h
    · rename_i hchosen
      simp only [Bool.and_eq_true, Bool.not_eq_true', beq_iff_eq, List.any_eq_false,
        List.contains_eq_mem, decide_eq_false_iff_not] at hchosen
      obtain ⟨⟨hcontrol, hsingle⟩, hline⟩ := hchosen
      intro c hc
      refine ⟨ne_of_longestRun_eq_zero hsingle c hc, isPlain_of_isControl_eq_false ?_ ?_⟩
      · exact Bool.eq_false_iff.mpr (hcontrol c hc)
      · rintro rfl
        exact hline hc
    · repeat (first | cases h | split at h)

/-- A text that stands between three single quotes may. -/
theorem of_choose_eq_literalLines {s : List Char} (h : choose s = .literalLines) :
    longestRun '\'' 0 s ≤ 2 ∧ ∀ c ∈ s, isControl c = false := by
  simp only [choose] at h
  split at h
  · cases h
  · split at h
    · cases h
    · split at h
      · cases h
      · split at h
        · rename_i hchosen
          simp only [Bool.and_eq_true, Bool.not_eq_true', decide_eq_true_eq,
            List.any_eq_false] at hchosen
          exact ⟨hchosen.2, fun c hc => Bool.eq_false_iff.mpr (hchosen.1 c hc)⟩
        · split at h <;> cases h

/-- **The line feed behind an opening** is not read, and nothing else is left out. -/
theorem skipNewline_opening {s content : List Char}
    (h : content.head? ≠ some '\r' ∧ (s.contains '\n' = false → content.head? ≠ some '\n')) :
    skipNewline (opening s ++ content) = content := by
  unfold opening
  split
  · rfl
  · rename_i hlines
    have hline := h.2 (Bool.eq_false_iff.mpr hlines)
    rw [List.nil_append, skipNewline]
    cases content with
    | nil => rfl
    | cons c rest =>
      have hc : c ≠ '\n' ∧ c ≠ '\r' := by
        constructor
        · rintro rfl
          exact hline rfl
        · rintro rfl
          exact h.1 rfl
      rw [behindNewline?]
      · rfl
      · exact fun _ heq => hc.1 (List.cons.inj heq).1
      · exact fun _ heq => hc.2 (List.cons.inj heq).1

/-- What stands between three double quotes begins with no carriage return, and with a line feed only
if the text has one. -/
theorem head?_basicLinesContent (s tail : List Char) :
    (basicLinesContent 0 s ++ '"' :: tail).head? ≠ some '\r'
      ∧ (s.contains '\n' = false → (basicLinesContent 0 s ++ '"' :: tail).head? ≠ some '\n') := by
  cases s with
  | nil => simp [basicLinesContent]
  | cons c s =>
    by_cases hquote : c = '"'
    · subst hquote
      simp [basicLinesContent]
    · rw [basicLinesContent_cons hquote]
      cases hescape : escape? c with
      | some escape => simp [head?_escape hescape]
      | none =>
        have hreturn := (plain_of_escape?_eq_none hescape).2.1
        refine ⟨by simpa using hreturn, fun hlines => ?_⟩
        have hline : c ≠ '\n' := by
          rintro rfl
          simp at hlines
        simpa using hline

/-- What stands between three single quotes begins with no carriage return, and with a line feed only
if the text has one. -/
theorem head?_append_quote {s : List Char} (hcontrol : ∀ c ∈ s, isControl c = false)
    (tail : List Char) :
    (s ++ '\'' :: tail).head? ≠ some '\r'
      ∧ (s.contains '\n' = false → (s ++ '\'' :: tail).head? ≠ some '\n') := by
  cases s with
  | nil => simp
  | cons c s =>
    refine ⟨?_, fun hlines => ?_⟩
    · rintro ⟨⟩
      exact absurd (hcontrol '\r' List.mem_cons_self) (by decide)
    · rintro ⟨⟩
      simp at hlines

/-- **A text is read as it was written**, whatever follows it but a quote. -/
theorem Quoted.scan_write (s : String) {rest : List Char} (hrest : NoQuote rest) :
    scan (Form.write s ++ rest) = some (s.toList, rest) := by
  have hdouble : rest.head? ≠ some '"' := fun h => (hrest '"' h).1 rfl
  have hsingle : rest.head? ≠ some '\'' := fun h => (hrest '\'' h).2 rfl
  rw [Form.write]
  cases hform : choose s.toList with
  | basic =>
    simp only [writeAs, List.cons_append, List.append_assoc, List.nil_append]
    rw [scan_double (append_ne_of_head? (head?_basicContent s.toList) hdouble),
      scanBasic_basicContent]
  | literal =>
    have hplain := plain_of_choose_eq_literal hform
    have hhead : s.toList.head? ≠ some '\'' := fun h => (hplain _ (List.mem_of_head? h)).1 rfl
    simp only [writeAs, List.cons_append, List.append_assoc, List.nil_append]
    rw [scan_single (append_ne_of_head? hhead hsingle), scanLiteral_append hplain]
  | basicLines =>
    simp only [writeAs, List.cons_append, List.append_assoc, List.nil_append]
    rw [scan, skipNewline_opening (head?_basicLinesContent s.toList _),
      scanBasicLines_content hdouble s.toList (Nat.zero_le 2)]
  | literalLines =>
    obtain ⟨hrun, hcontrol⟩ := of_choose_eq_literalLines hform
    simp only [writeAs, List.cons_append, List.append_assoc, List.nil_append]
    rw [scan, skipNewline_opening (head?_append_quote hcontrol _),
      scanLiteralLines_append hsingle hrun hcontrol]

end ResourceWait.Toml
