import DatasetSql.Toml.Quoted
import DatasetSql.Toml.Writer
import Mathlib.Data.List.Basic

/-!
# Quoted texts are read back

Whatever quotes the writer chooses for a text, the reader finds the text again and stops behind the
closing quote. Between single quotes nothing is escaped, so the traits of the text must allow it.
Between triple quotes, those that stand in front of the closing ones are part of the text.
-/

namespace DatasetSql.Toml

/-! ## Escapes -/

/-- What the writer escapes, line breaks apart. -/
def Escaped (c : Char) : Prop := c = '\\' ∨ c.toNat < 32 ∨ c.toNat = 127

/-- The characters that are escaped are the backslash and the control characters. -/
theorem escaped_iff {c : Char} :
    (c == '\\' || decide (c.toNat < 32) || c.toNat == 127) = true ↔ Escaped c := by
  simp [Escaped, or_assoc]

theorem isPlain_of_not_escaped {c : Char} (h : ¬ Escaped c) : isPlain c = true := by
  unfold Escaped at h
  have hcode : 32 ≤ c.toNat ∧ c.toNat ≠ 127 := by omega
  simp [isPlain, hcode]

/-- Two hexadecimal digits give back the character they were written for. -/
theorem codeChar?_hex : ∀ n < 128,
    codeChar? ['0', '0', upperHexDigit (n / 16), upperHexDigit (n % 16)] =
      some (Char.ofNat n) := by
  decide

/-- An escape is a letter that stands for the character, or the code of the character. -/
theorem escapeText_cases {c : Char} (h : Escaped c) :
    (∃ e, escapeText c = ['\\', e] ∧ escapeChar? e = some c) ∨
      ∃ a b, escapeText c = ['\\', 'u', '0', '0', a, b] ∧
        codeChar? ['0', '0', a, b] = some c := by
  have hof {n : Nat} (hn : c.toNat = n) : c = Char.ofNat n := by rw [← hn, Char.ofNat_toNat]
  unfold escapeText
  split_ifs with h1 h2 h3 h4 h5 h6
  · exact .inl ⟨_, rfl, by rw [beq_iff_eq.1 h1]; rfl⟩
  · exact .inl ⟨_, rfl, by rw [beq_iff_eq.1 h2]; rfl⟩
  · exact .inl ⟨_, rfl, by rw [beq_iff_eq.1 h3]; rfl⟩
  · exact .inl ⟨_, rfl, by rw [beq_iff_eq.1 h4]; rfl⟩
  · exact .inl ⟨_, rfl, by rw [hof (beq_iff_eq.1 h5)]; rfl⟩
  · exact .inl ⟨_, rfl, by rw [hof (beq_iff_eq.1 h6)]; rfl⟩
  · have hlt : c.toNat < 128 := by
      rcases h with rfl | hlt | heq
      · decide
      · omega
      · omega
    exact .inr ⟨_, _, rfl, by rw [codeChar?_hex c.toNat hlt, Char.ofNat_toNat]⟩

theorem escapeText_head {c : Char} (h : Escaped c) : ∃ cs, escapeText c = '\\' :: cs := by
  rcases escapeText_cases h with ⟨e, he, -⟩ | ⟨a, b, he, -⟩
  · exact ⟨_, he⟩
  · exact ⟨_, he⟩

/-- The letters of escapes. -/
theorem escapeChar?_cases {e c : Char} (h : escapeChar? e = some c) :
    e = '"' ∨ e = '\\' ∨ e = 'b' ∨ e = 'e' ∨ e = 'f' ∨ e = 'n' ∨ e = 'r' ∨ e = 't' := by
  unfold escapeChar? at h
  split at h <;> first | decide | cases h

theorem basicText?_letter {e c : Char} (h : escapeChar? e = some c) (rest : List Char) :
    basicText? ('\\' :: e :: rest) = (basicText? rest).prepend c := by
  have hstep : basicText? ('\\' :: e :: rest) =
      (do (basicText? rest).prepend (← escapeChar? e)) := by
    rcases escapeChar?_cases h with rfl | rfl | rfl | rfl | rfl | rfl | rfl | rfl <;>
      rw [basicText?] <;> simp
  rw [hstep, h]
  rfl

/-- An escape is read as the character that it stands for. -/
theorem basicText?_escapeText {c : Char} (h : Escaped c) (rest : List Char) :
    basicText? (escapeText c ++ rest) = (basicText? rest).prepend c := by
  rcases escapeText_cases h with ⟨e, he, hc⟩ | ⟨a, b, he, hc⟩
  · rw [he]
    exact basicText?_letter hc rest
  · rw [he]
    show (do (basicText? rest).prepend (← codeChar? ['0', '0', a, b])) = _
    rw [hc]
    rfl

theorem basicLines?_letter {e c : Char} (h : escapeChar? e = some c) (rest : List Char) :
    basicLines? false ('\\' :: e :: rest) = (basicLines? false rest).prepend c := by
  have hstep : basicLines? false ('\\' :: e :: rest) =
      (do (basicLines? false rest).prepend (← escapeChar? e)) := by
    rcases escapeChar?_cases h with rfl | rfl | rfl | rfl | rfl | rfl | rfl | rfl <;>
      rw [basicLines?] <;> simp [breaksLine]
  rw [hstep, h]
  rfl

/-- Whatever was escaped is read back. -/
theorem basicLines?_escapeText {c : Char} (h : Escaped c) (rest : List Char) :
    basicLines? false (escapeText c ++ rest) = (basicLines? false rest).prepend c := by
  rcases escapeText_cases h with ⟨e, he, hc⟩ | ⟨a, b, he, hc⟩
  · rw [he]
    exact basicLines?_letter hc rest
  · rw [he]
    show (do (basicLines? false rest).prepend (← codeChar? ['0', '0', a, b])) = _
    rw [hc]
    rfl

/-! ## One line -/

theorem basicText?_plain {c : Char} (hquote : c ≠ '"') (hbackslash : c ≠ '\\')
    (hplain : isPlain c = true) (rest : List Char) :
    basicText? (c :: rest) = (basicText? rest).prepend c := by
  rw [basicText?]
  · rw [if_pos hplain]
  all_goals simp [hquote, hbackslash]

/-- A text with escapes is read up to its closing quote. -/
theorem basicText?_basicBody (cs rest : List Char) :
    basicText? (basicBody false 0 0 cs ++ '"' :: rest) = some (cs, rest) := by
  induction cs with
  | nil => rfl
  | cons c cs ih =>
    unfold basicBody
    -- a quote is escaped, and so is whatever else may not stand for itself
    by_cases hquote : c = '"'
    · rw [if_pos (beq_iff_eq.2 hquote), if_neg (Nat.lt_irrefl 0), hquote]
      show basicText? ('\\' :: '"' :: (basicBody false 0 0 cs ++ '"' :: rest)) = _
      rw [basicText?_letter rfl, ih]
      rfl
    · rw [if_neg (by simpa using hquote), Bool.and_false, if_neg Bool.false_ne_true]
      by_cases hescaped : Escaped c
      · rw [if_pos (escaped_iff.2 hescaped), List.append_assoc,
          basicText?_escapeText hescaped, ih]
        rfl
      · have hbackslash : c ≠ '\\' := fun h => hescaped (.inl h)
        rw [if_neg fun h => hescaped (escaped_iff.1 h), List.cons_append,
          basicText?_plain hquote hbackslash (isPlain_of_not_escaped hescaped), ih]
        rfl

theorem literalText?_plain {c : Char} (hquote : c ≠ '\'') (hplain : isPlain c = true)
    (rest : List Char) : literalText? (c :: rest) = (literalText? rest).prepend c := by
  rw [literalText?]
  · rw [if_pos hplain]
  · simpa using hquote

/-- A text of plain characters without a single quote is read up to the closing one. -/
theorem literalText?_append {cs : List Char} (h : ∀ c ∈ cs, c ≠ '\'' ∧ isPlain c = true)
    (rest : List Char) : literalText? (cs ++ '\'' :: rest) = some (cs, rest) := by
  induction cs with
  | nil => rfl
  | cons c cs ih =>
    obtain ⟨⟨hquote, hplain⟩, hcs⟩ := List.forall_mem_cons.1 h
    rw [List.cons_append, literalText?_plain hquote hplain, ih hcs]
    rfl

/-! ## Several lines -/

/-- Whether a text may stand behind a closing quote: it does not start with another one. -/
def NoQuote (rest : List Char) : Prop := rest.head? ≠ some '"' ∧ rest.head? ≠ some '\''

/-- Up to two quotes in front of the closing ones are part of the text. -/
theorem closing_replicate {quote : Char} {rest : List Char} (h : rest.head? ≠ some quote) {r : Nat}
    (hr : r ≤ 2) : closing quote (List.replicate r quote ++ rest) =
      (List.replicate r quote, rest) := by
  obtain rfl | rfl | rfl : r = 0 ∨ r = 1 ∨ r = 2 := by omega
  · match rest, h with
    | [], _ => rfl
    | [a], h => simp_all [closing]
    | a :: b :: rest, h => simp_all [closing]
  · match rest, h with
    | [], _ => simp [closing]
    | b :: rest, h => simp_all [closing]
  · simp [closing, List.replicate]

theorem basicLines?_plain {c : Char} (hquote : c ≠ '"') (hescaped : ¬ Escaped c ∨ c = '\n')
    (rest : List Char) : basicLines? false (c :: rest) = (basicLines? false rest).prepend c := by
  have hplain : (isPlain c || c == '\n') = true := by
    rcases hescaped with h | rfl
    · rw [isPlain_of_not_escaped h, Bool.true_or]
    · rfl
  have hother : c ≠ '\\' ∧ c ≠ '\r' := by
    constructor <;> rintro rfl <;> revert hescaped <;> simp [Escaped] 
  rw [basicLines?.eq_def]
  split <;> simp_all

/-- Up to two quotes stand for themselves between three. -/
theorem basicLines?_quote {rest : List Char} (h : ∀ cs, rest ≠ '"' :: '"' :: cs) :
    basicLines? false ('"' :: rest) = (basicLines? false rest).prepend '"' := by
  cases rest with
  | nil => rfl
  | cons e rest =>
    rw [basicLines?]
    · rfl
    · exact fun cs _ heq => h cs heq
    all_goals simp

/-- Fewer than three quotes in a row are part of the text. -/
theorem basicLines?_quotes {r : Nat} (hr : r ≤ 2) {d : Char} (hd : d ≠ '"') {rest text left : List Char}
    (h : basicLines? false (d :: rest) = some (text, left)) :
    basicLines? false (List.replicate r '"' ++ d :: rest) =
      some (List.replicate r '"' ++ text, left) := by
  obtain rfl | rfl | rfl : r = 0 ∨ r = 1 ∨ r = 2 := by omega
  · exact h
  · show basicLines? false ('"' :: d :: rest) = _
    rw [basicLines?_quote (by simp [hd]), h]
    rfl
  · show basicLines? false ('"' :: '"' :: d :: rest) = _
    rw [basicLines?_quote (by simp [hd]), basicLines?_quote (by simp [hd]), h]
    rfl

/-- A text of several lines is read up to its closing quotes. Of the quotes before it, which are the
last of a row, `r` are still to be read. -/
theorem basicLines?_basicBody {rest : List Char} (h : rest.head? ≠ some '"') (cs : List Char)
    {r : Nat} (hr : r ≤ 2) :
    basicLines? false
        (List.replicate r '"' ++ (basicBody true 2 r cs ++ '"' :: '"' :: '"' :: rest)) =
      some (List.replicate r '"' ++ cs, rest) := by
  induction cs generalizing r with
  | nil =>
    have hclose : List.replicate r '"' ++ '"' :: '"' :: '"' :: rest =
        '"' :: '"' :: '"' :: (List.replicate r '"' ++ rest) := by
      obtain rfl | rfl | rfl : r = 0 ∨ r = 1 ∨ r = 2 := by omega
      all_goals rfl
    show basicLines? false (List.replicate r '"' ++ '"' :: '"' :: '"' :: rest) = _
    rw [hclose, basicLines?, closing_replicate h hr, List.append_nil]
  | cons c cs ih =>
    have htail : basicLines? false (basicBody true 2 0 cs ++ '"' :: '"' :: '"' :: rest) =
        some (cs, rest) := ih (Nat.zero_le 2)
    unfold basicBody
    by_cases hquote : c = '"'
    · subst hquote
      rw [if_pos (beq_self_eq_true _)]
      by_cases hlt : r < 2
      · -- one more quote of the row
        have hnext := @ih (r + 1) hlt
        rw [List.replicate_succ', List.append_assoc, List.append_assoc] at hnext
        rw [if_pos hlt]
        exact hnext
      · -- the row is full, so this quote is escaped
        have hstep := @basicLines?_letter '"' '"' rfl
          (basicBody true 2 0 cs ++ '"' :: '"' :: '"' :: rest)
        rw [htail] at hstep
        rw [if_neg hlt]
        exact basicLines?_quotes hr (by decide) hstep
    · rw [if_neg (by simpa using hquote)]
      by_cases hbreak : c = '\n'
      · have hstep := basicLines?_plain hquote (.inr hbreak)
          (basicBody true 2 0 cs ++ '"' :: '"' :: '"' :: rest)
        rw [htail] at hstep
        rw [if_pos (by simpa using hbreak)]
        subst hbreak
        exact basicLines?_quotes hr hquote hstep
      · rw [if_neg (by simpa using hbreak)]
        by_cases hescaped : Escaped c
        · have hstep := basicLines?_escapeText hescaped
            (basicBody true 2 0 cs ++ '"' :: '"' :: '"' :: rest)
          obtain ⟨tail, hhead⟩ := escapeText_head hescaped
          rw [htail, hhead] at hstep
          rw [if_pos (escaped_iff.2 hescaped), List.append_assoc, hhead]
          exact basicLines?_quotes hr (by decide) hstep
        · have hstep := basicLines?_plain hquote (.inl hescaped)
            (basicBody true 2 0 cs ++ '"' :: '"' :: '"' :: rest)
          rw [htail] at hstep
          rw [if_neg fun h => hescaped (escaped_iff.1 h)]
          exact basicLines?_quotes hr hquote hstep

theorem literalLines?_plain {c : Char} (hquote : c ≠ '\'') (hreturn : c ≠ '\r')
    (hplain : (isPlain c || c == '\n') = true) (rest : List Char) :
    literalLines? (c :: rest) = (literalLines? rest).prepend c := by
  rw [literalLines?]
  · rw [if_pos hplain]
  all_goals simp [hquote, hreturn]

theorem literalLines?_quote {rest : List Char} (h : ∀ cs, rest ≠ '\'' :: '\'' :: cs) :
    literalLines? ('\'' :: rest) = (literalLines? rest).prepend '\'' := by
  cases rest with
  | nil => rfl
  | cons e rest =>
    rw [literalLines?]
    · rfl
    · exact fun cs _ heq => h cs heq
    all_goals simp

/-- One or two single quotes stand for themselves before another character. -/
theorem literalLines?_quotes {r : Nat} (hr : r ≤ 2) {d : Char} (hd : d ≠ '\'')
    {rest text left : List Char} (h : literalLines? (d :: rest) = some (text, left)) :
    literalLines? (List.replicate r '\'' ++ d :: rest) =
      some (List.replicate r '\'' ++ text, left) := by
  obtain rfl | rfl | rfl : r = 0 ∨ r = 1 ∨ r = 2 := by omega
  · exact h
  · show literalLines? ('\'' :: d :: rest) = _
    rw [literalLines?_quote (by simp [hd]), h]
    rfl
  · show literalLines? ('\'' :: '\'' :: d :: rest) = _
    rw [literalLines?_quote (by simp [hd]), literalLines?_quote (by simp [hd]), h]
    rfl

/-- A text with no more than two single quotes in a row, `r` of which are still to be read, is read up
to its closing quotes. -/
theorem literalLines?_append {rest : List Char} (h : rest.head? ≠ some '\'') {cs : List Char}
    (hcs : ∀ c ∈ cs, c ≠ '\r' ∧ (isPlain c || c == '\n') = true) {r : Nat}
    (hr : longestRun '\'' r cs ≤ 2) :
    literalLines? (List.replicate r '\'' ++ (cs ++ '\'' :: '\'' :: '\'' :: rest)) =
      some (List.replicate r '\'' ++ cs, rest) := by
  -- `r` quotes have been met; fewer than three do not close the text
  induction cs generalizing r with
  | nil =>
    have hr : r ≤ 2 := hr
    have hclose : List.replicate r '\'' ++ '\'' :: '\'' :: '\'' :: rest =
        '\'' :: '\'' :: '\'' :: (List.replicate r '\'' ++ rest) := by
      obtain rfl | rfl | rfl : r = 0 ∨ r = 1 ∨ r = 2 := by omega
      all_goals rfl
    show literalLines? (List.replicate r '\'' ++ '\'' :: '\'' :: '\'' :: rest) = _
    rw [hclose, literalLines?, closing_replicate h hr, List.append_nil]
  | cons c cs ih =>
    obtain ⟨⟨hreturn, hplain⟩, hrest⟩ := List.forall_mem_cons.1 hcs
    unfold longestRun at hr
    by_cases hquote : c = '\''
    · subst hquote
      rw [if_pos (beq_self_eq_true _)] at hr
      have hnext := @ih hrest (r + 1) hr
      rw [List.replicate_succ', List.append_assoc, List.append_assoc] at hnext
      exact hnext
    · rw [if_neg (by simpa using hquote)] at hr
      have hstep := literalLines?_plain hquote hreturn hplain
        (cs ++ '\'' :: '\'' :: '\'' :: rest)
      have htail : literalLines? (cs ++ '\'' :: '\'' :: '\'' :: rest) = some (cs, rest) :=
        @ih hrest 0 (by omega)
      rw [htail] at hstep
      exact literalLines?_quotes (by omega) hquote hstep

/-! ## Traits -/

/-- The longest run is as long as the one that was under way. -/
theorem le_longestRun (c : Char) (cs : List Char) (run : Nat) : run ≤ longestRun c run cs := by
  induction cs generalizing run with
  | nil => exact Nat.le_refl run
  | cons d cs ih =>
    unfold longestRun
    split
    · exact Nat.le_of_succ_le (ih (run + 1))
    · exact Nat.le_max_left _ _

/-- Where no run is longer than nothing, the character does not occur. -/
theorem notMem_of_longestRun {c : Char} {cs : List Char} (h : longestRun c 0 cs = 0) : c ∉ cs := by
  induction cs with
  | nil => exact List.not_mem_nil
  | cons d cs ih =>
    unfold longestRun at h
    split at h
    · have hle : 1 ≤ longestRun c (0 + 1) cs := le_longestRun c cs 1
      omega
    · next hne =>
      rw [Nat.zero_max] at h
      exact fun hmem => (List.mem_cons.1 hmem).elim (fun heq => hne (by simp [heq])) (ih h)

/-- A text without the trait has no control characters. -/
theorem not_control_of_traits {cs : List Char} (h : (TextTraits.of cs).control = false) :
    ∀ c ∈ cs, isControl c = false := by
  intro c hc
  have hany : cs.any isControl = false := h
  simpa using List.any_eq_false.1 hany c hc

theorem isPlain_of_not_control {c : Char} (h : isControl c = false) :
    c ≠ '\r' ∧ (isPlain c || c == '\n') = true := by
  constructor
  · rintro rfl
    exact absurd h (by decide)
  · simp only [isControl, Bool.or_eq_false_iff, Bool.and_eq_false_iff, decide_eq_false_iff_not,
      Nat.not_lt, bne_eq_false_iff_eq, beq_eq_false_iff_ne] at h
    obtain ⟨(hcode | htab) | hbreak, hdelete⟩ := h
    · simp [isPlain, hcode, hdelete]
    · simp [isPlain, htab]
    · simp [hbreak]

/-- What the traits of a text say where it may stand between single quotes. -/
theorem plain_of_traits {cs : List Char} (hcontrol : (TextTraits.of cs).control = false)
    (hbreak : (TextTraits.of cs).newline = false) (hquotes : (TextTraits.of cs).singleQuotes = 0) :
    ∀ c ∈ cs, c ≠ '\'' ∧ isPlain c = true := by
  have hbreak : cs.contains '\n' = false := hbreak
  have hquotes : '\'' ∉ cs := notMem_of_longestRun hquotes
  intro c hc
  have hplain := (isPlain_of_not_control (not_control_of_traits hcontrol c hc)).2
  rw [Bool.or_eq_true, beq_iff_eq] at hplain
  refine ⟨fun heq => hquotes (heq ▸ hc), hplain.resolve_right ?_⟩
  rintro rfl
  simp [hc] at hbreak

/-! ## Texts -/

theorem quotedText?_basic {cs : List Char} (h : ∀ rest, cs ≠ '"' :: '"' :: rest) :
    quotedText? ('"' :: cs) = basicText? cs := by
  rw [quotedText?]
  exact h

theorem quotedText?_single {cs : List Char} (h : ∀ rest, cs ≠ '\'' :: '\'' :: rest) :
    quotedText? ('\'' :: cs) = literalText? cs := by
  rw [quotedText?]
  exact h

/-- The body of a text does not start with a quote, a line break or what is part of one, unless the
text has it and it may stay. -/
theorem head_basicBody {lines : Bool} {allowed : Nat} {c : Char} {cs : List Char} :
    ∃ d tail, basicBody lines allowed 0 (c :: cs) = d :: tail ∧ (allowed = 0 → d ≠ '"') ∧
      d ≠ '\r' ∧ (d = '\n' → c = '\n') := by
  -- a quote, a break in lines, an escape or a plain character
  unfold basicBody
  by_cases hquote : c = '"'
  · subst hquote
    rw [if_pos (beq_self_eq_true _)]
    by_cases hallowed : 0 < allowed
    · rw [if_pos hallowed]
      exact ⟨_, _, rfl, by omega, by decide, by decide⟩
    · rw [if_neg hallowed]
      exact ⟨_, _, rfl, fun _ => by decide, by decide, by decide⟩
  · rw [if_neg (by simpa using hquote)]
    split
    · next hbreak =>
      exact ⟨_, _, rfl, fun _ => by decide, by decide, fun _ => by simp_all⟩
    · by_cases hescaped : Escaped c
      · obtain ⟨tail, hhead⟩ := escapeText_head hescaped
        rw [if_pos (escaped_iff.2 hescaped), hhead]
        exact ⟨_, _, rfl, fun _ => by decide, by decide, fun h => absurd h (by decide)⟩
      · rw [if_neg fun h => hescaped (escaped_iff.1 h)]
        refine ⟨_, _, rfl, fun _ => hquote, ?_, fun h => h⟩
        rintro rfl
        exact hescaped (.inr (.inl (by decide)))

theorem dropBreak_of_head {cs : List Char} (h : cs.head? ≠ some '\n' ∧ cs.head? ≠ some '\r') :
    dropBreak cs = cs := by
  unfold dropBreak
  split <;> simp_all

section Texts

variable {rest : List Char} (h : NoQuote rest)

include h

/-- A text between quotes is read back, with its escapes. -/
theorem quotedText?_basicText (cs : List Char) :
    quotedText? ((basicText cs).toList ++ rest) = some (cs, rest) := by
  have htext : (basicText cs).toList ++ rest =
      '"' :: (basicBody false 0 0 cs ++ '"' :: rest) := by
    simp [basicText]
  rw [htext, quotedText?_basic, basicText?_basicBody]
  intro left heq
  cases cs with
  | nil =>
    cases heq
    exact h.1 rfl
  | cons c cs =>
    obtain ⟨d, tail, hbody, hquote, -⟩ := @head_basicBody false 0 c cs
    rw [hbody] at heq
    exact hquote rfl (List.cons.inj heq).1

/-- A text between three quotes is read back, on however many lines. -/
theorem quotedText?_lines (cs : List Char) :
    quotedText? ((tripleQuoted "\"\"\"" (cs.contains '\n') (basicBody true 2 0 cs)).toList ++
      rest) = some (cs, rest) := by
  have hbody := @basicLines?_basicBody rest h.1 cs 0 (Nat.zero_le 2)
  have htext : (tripleQuoted "\"\"\"" (cs.contains '\n') (basicBody true 2 0 cs)).toList ++ rest =
      '"' :: '"' :: '"' :: ((if cs.contains '\n' then ['\n'] else []) ++
        (basicBody true 2 0 cs ++ '"' :: '"' :: '"' :: rest)) := by
    unfold tripleQuoted
    split <;> simp
  rw [htext, quotedText?]
  split
  · exact hbody
  -- without a break of its own in front, the text must not begin with one
  · next hbreak =>
    rw [List.nil_append, dropBreak_of_head]
    · exact hbody
    · cases cs with
      | nil => simp [basicBody]
      | cons c cs =>
        obtain ⟨d, tail, hhead, -, hreturn, hline⟩ := @head_basicBody true 2 c cs
        rw [hhead]
        refine ⟨fun heq => hbreak ?_, fun heq => hreturn (Option.some.inj heq)⟩
        rw [hline (Option.some.inj heq)]
        simp

/-- A text between single quotes is read back, if it has none itself and nothing to escape. -/
theorem quotedText?_literal {cs : List Char} (hcs : ∀ c ∈ cs, c ≠ '\'' ∧ isPlain c = true) :
    quotedText? (("'" ++ String.ofList cs ++ "'").toList ++ rest) = some (cs, rest) := by
  have htext : ("'" ++ String.ofList cs ++ "'").toList ++ rest = '\'' :: (cs ++ '\'' :: rest) := by
    simp
  rw [htext, quotedText?_single]
  · exact literalText?_append hcs rest
  · intro left heq
    cases cs with
    | nil =>
      cases heq
      exact h.2 rfl
    | cons c cs =>
      rw [List.cons_append] at heq
      exact (hcs c List.mem_cons_self).1 (List.cons.inj heq).1

/-- A text between three single quotes is read back, if it has no three of them in a row and no
control characters. -/
theorem quotedText?_literalLines {cs : List Char} (hquotes : longestRun '\'' 0 cs ≤ 2)
    (hcontrol : ∀ c ∈ cs, isControl c = false) :
    quotedText? ((tripleQuoted "'''" (cs.contains '\n') cs).toList ++ rest) = some (cs, rest) := by
  have hbody := @literalLines?_append rest h.2 cs
    (fun c hc => isPlain_of_not_control (hcontrol c hc)) 0 hquotes
  have htext : (tripleQuoted "'''" (cs.contains '\n') cs).toList ++ rest =
      '\'' :: '\'' :: '\'' :: ((if cs.contains '\n' then ['\n'] else []) ++
        (cs ++ '\'' :: '\'' :: '\'' :: rest)) := by
    unfold tripleQuoted
    split <;> simp
  rw [htext, quotedText?]
  split
  · exact hbody
  · next hbreak =>
    rw [List.nil_append, dropBreak_of_head]
    · exact hbody
    · cases cs with
      | nil => simp
      | cons c cs =>
        refine ⟨fun heq => hbreak ?_, fun heq => ?_⟩
        · have hc : c = '\n' := Option.some.inj heq
          simp [hc]
        · exact (isPlain_of_not_control (hcontrol c List.mem_cons_self)).1 (Option.some.inj heq)

/-- A text is read back, whatever its quotes. -/
theorem quotedText?_stringText (s : String) :
    quotedText? ((stringText s).toList ++ rest) = some (s.toList, rest) := by
  have hof : s = String.ofList s.toList := String.ofList_toList.symm
  generalize hcs : s.toList = cs at hof
  unfold stringText
  simp only [hcs]
  split_ifs with h1 h2 h3 h4 h5
  · exact quotedText?_basicText h cs
  · simp only [Bool.and_eq_true, Bool.not_eq_true', beq_iff_eq] at h2
    obtain ⟨⟨hcontrol, hquotes⟩, hbreak⟩ := h2
    rw [hof]
    exact quotedText?_literal h (plain_of_traits hcontrol hbreak hquotes)
  · exact quotedText?_lines h cs
  · simp only [Bool.and_eq_true, Bool.not_eq_true', decide_eq_true_eq] at h4
    exact quotedText?_literalLines h h4.2 (not_control_of_traits h4.1)
  · exact quotedText?_lines h cs
  · exact quotedText?_basicText h cs

end Texts

end DatasetSql.Toml
