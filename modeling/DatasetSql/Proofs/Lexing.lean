import DatasetSql.Proofs.Delimited

/-!
# Cutting written names and strings

What becomes of names, strings and the words between them when their text is cut into lexemes again.
A name or a string gives its own lexeme exactly if it is clean.
-/

namespace DatasetSql.Statement

variable {g : Grammar}

/-! ## Steps -/

/-- The lexemes of some characters, whatever stands before them. -/
def Lexes (g : Grammar) (cs : List Char) (ls : List Lexeme) : Prop :=
  ∀ previous n, cs.length ≤ n → lexFrom g n previous cs = some ls

/-- What some characters can be cut into. -/
def CanLex (g : Grammar) (cs : List Char) (ls : List Lexeme) : Prop :=
  ∃ previous n, lexFrom g n previous cs = some ls

/-- The front of some characters is cut into lexemes, which leaves a rest. -/
structure Cuts (g : Grammar) (cs : List Char) (front : List Lexeme) (rest : List Char) : Prop where
  lexes {ls : List Lexeme} : Lexes g rest ls → Lexes g cs (front ++ ls)
  canLex {ls : List Lexeme} : CanLex g cs ls → ∃ tail, ls = front ++ tail ∧ CanLex g rest tail

theorem lexes_nil : Lexes g [] [] := by
  intro previous n _
  cases n <;> rfl

theorem canLex_nil {ls : List Lexeme} (h : CanLex g [] ls) : ls = [] := by
  obtain ⟨previous, n, h⟩ := h
  cases n <;> exact (Option.some.inj h).symm

/-- A text that is cut into lexemes with enough fuel is cut into them by the lexer. -/
theorem Lexes.lex_eq {s : String} {ls : List Lexeme} (h : Lexes g s.toList ls) :
    lex g s = some ls :=
  h none _ le_rfl

/-- Whatever the lexer gives is cut with some fuel. -/
theorem canLex_of_lex {s : String} {ls : List Lexeme} (h : lex g s = some ls) :
    CanLex g s.toList ls :=
  ⟨none, _, h⟩

/-- Cutting goes on after the first step. -/
theorem lexFrom_succ (n : Nat) (previous : Option Lexeme) (c : Char) (cs : List Char) :
    lexFrom g (n + 1) previous (c :: cs) = (nextLexeme g previous c cs).bind fun (l, rest) =>
      (lexFrom g n l rest).map (l.toList ++ ·) := by
  rw [lexFrom]
  cases nextLexeme g previous c cs with
  | none => rfl
  | some found => cases h : lexFrom g n found.1 found.2 <;> simp [h]

/-- The first step of cutting. -/
theorem CanLex.next {c : Char} {cs : List Char} {ls : List Lexeme} (h : CanLex g (c :: cs) ls) :
    ∃ previous l rest tail, nextLexeme g previous c cs = some (l, rest) ∧ ls = l.toList ++ tail ∧
      CanLex g rest tail := by
  obtain ⟨previous, n, h⟩ := h
  cases n with
  | zero => simp [lexFrom] at h
  | succ n =>
    rw [lexFrom_succ] at h
    obtain ⟨⟨l, rest⟩, hnext, h⟩ := Option.bind_eq_some_iff.1 h
    obtain ⟨tail, htail, rfl⟩ := Option.map_eq_some_iff.1 h
    exact ⟨previous, l, rest, tail, hnext, rfl, ⟨l, n, htail⟩⟩

/-- One step of the lexer cuts off its lexeme, if it leaves no more characters than it got. -/
theorem Cuts.of_next {c : Char} {cs rest : List Char} {l : Option Lexeme}
    (hlength : rest.length ≤ cs.length)
    (h : ∀ previous, nextLexeme g previous c cs = some (l, rest)) : Cuts g (c :: cs) l.toList rest := by
  refine ⟨fun hrest previous n hn => ?_, fun hls => ?_⟩
  · cases n with
    | zero => simp at hn
    | succ n =>
      have hn : rest.length ≤ n := hlength.trans (Nat.le_of_succ_le_succ hn)
      simp only [lexFrom_succ, h previous, Option.bind_some, hrest l n hn, Option.map_some]
  · obtain ⟨previous, l', rest', tail, hnext, rfl, htail⟩ := hls.next
    rw [h previous] at hnext
    obtain ⟨rfl, rfl⟩ := Prod.mk.inj (Option.some.inj hnext)
    exact ⟨tail, rfl, htail⟩

/-- What is cut off in two steps is cut off in one. -/
theorem Cuts.trans {cs rest₁ rest₂ : List Char} {front₁ front₂ : List Lexeme}
    (h₁ : Cuts g cs front₁ rest₁) (h₂ : Cuts g rest₁ front₂ rest₂) :
    Cuts g cs (front₁ ++ front₂) rest₂ := by
  refine ⟨fun hrest => ?_, fun hls => ?_⟩
  · rw [List.append_assoc]
    exact h₁.lexes (h₂.lexes hrest)
  · obtain ⟨tail₁, rfl, htail₁⟩ := h₁.canLex hls
    obtain ⟨tail₂, rfl, htail₂⟩ := h₂.canLex htail₁
    exact ⟨tail₂, (List.append_assoc ..).symm, htail₂⟩

theorem Cuts.refl (cs : List Char) : Cuts g cs [] cs :=
  ⟨id, fun h => ⟨_, rfl, h⟩⟩

/-! ## Blanks, symbols and words -/

theorem cuts_blank (cs : List Char) : Cuts g (' ' :: cs) [] cs :=
  .of_next (l := none) le_rfl fun _ => rfl

theorem cuts_comma (cs : List Char) : Cuts g (',' :: ' ' :: cs) [.symbol ","] cs := by
  refine Cuts.trans (.of_next (l := some (.symbol ",")) le_rfl fun previous => ?_) (cuts_blank cs)
  cases g <;> rfl

/-- A word with a blank after it. -/
theorem Cuts.of_word {c : Char} {t : List Char} {word : String}
    (h : ∀ previous cs, nextLexeme g previous c (t ++ ' ' :: cs) =
      some (some (bareWord word), ' ' :: cs)) (cs : List Char) :
    Cuts g (c :: t ++ ' ' :: cs) [bareWord word] cs := by
  refine Cuts.trans (.of_next (l := some (bareWord word)) ?_ fun previous => h previous cs)
    (cuts_blank cs)
  simp

theorem cuts_select (cs : List Char) : Cuts g ("SELECT ".toList ++ cs) [bareWord "SELECT"] cs := by
  refine Cuts.of_word (t := "ELECT".toList) (fun previous cs => ?_) cs
  cases g <;> rfl

theorem cuts_as (cs : List Char) : Cuts g (" AS ".toList ++ cs) [bareWord "AS"] cs := by
  refine (cuts_blank _).trans (Cuts.of_word (t := ['S']) (fun previous cs => ?_) cs)
  cases g <;> rfl

theorem cuts_from (cs : List Char) : Cuts g (" FROM ".toList ++ cs) [bareWord "FROM"] cs := by
  refine (cuts_blank _).trans (Cuts.of_word (t := "ROM".toList) (fun previous cs => ?_) cs)
  cases g <;> rfl

/-! ## Names -/

/-- An identifier between delimiters of a grammar. -/
structure Name (g : Grammar) where
  value : String
  quote : Char
  opens : g.opensIdent quote = true

/-- Names are delimited by double quotes, backticks or brackets. -/
theorem quote_cases {q : Char} (h : g.opensIdent q = true) : q = '"' ∨ q = '`' ∨ q = '[' := by
  cases g <;> simp only [Grammar.opensIdent, Bool.or_eq_true, beq_iff_eq] at h <;> tauto

namespace Name

/-- The identifier. -/
def ident (n : Name g) : Ident := ⟨n.value, some n.quote⟩

/-- The lexeme that stands for the name. -/
def lexeme (n : Name g) : Lexeme := .word n.ident ""

/-- What is written between the delimiters of a name; brackets are not escaped. -/
def inside (n : Name g) : List Char :=
  if n.quote = '[' then n.value.toList else escapeQuotes n.quote '\x00' false n.value.toList

/-- The delimiter after a name. -/
def closing (n : Name g) : Char := Dialect.closingQuote n.quote

/-- A name that is read as it was written: its text is, and it starts like an identifier where that
is asked for. -/
structure Clean (n : Name g) : Prop where
  text : if n.quote = '[' then ']' ∉ n.value.toList else Faithful n.quote false n.value.toList
  start : g.checksQuoted = true →
    (n.value.toList.dropWhile Text.isBlank).head?.any g.startsIdent = true

instance (n : Name g) : Decidable n.Clean :=
  decidable_of_iff
    ((if n.quote = '[' then ']' ∉ n.value.toList else Faithful n.quote false n.value.toList) ∧
      (g.checksQuoted = true → (n.value.toList.dropWhile Text.isBlank).head?.any g.startsIdent = true))
    ⟨fun h => ⟨h.1, h.2⟩, fun h => ⟨h.text, h.start⟩⟩

/-- The text of a name. -/
theorem toList_text (n : Name g) : n.ident.text.toList = n.quote :: n.inside ++ [n.closing] := by
  obtain ⟨value, q, h⟩ := n
  rcases quote_cases h with rfl | rfl | rfl
  · simp [ident, Ident.text, inside, closing, quoted, Dialect.closingQuote]
  · simp [ident, Ident.text, inside, closing, quoted, Dialect.closingQuote]
  · simp [ident, Ident.text, inside, closing, Dialect.closingQuote]

end Name

/-- What may follow a name or a string. -/
def Ends (cs : List Char) : Prop := ∀ c, cs.head? = some c → c = ' ' ∨ c = ',' ∨ c = '.'

theorem ends_nil : Ends [] := fun _ hc => nomatch hc

/-- What ends a name or a string does not go on with its delimiter. -/
theorem Ends.follows {cs : List Char} (h : Ends cs) {q : Char}
    (hq : q = '\'' ∨ q = '"' ∨ q = '`' ∨ q = ']') : Follows q cs := by
  intro c hc
  rcases h c hc with rfl | rfl | rfl <;> rcases hq with rfl | rfl | rfl | rfl <;> decide

namespace Name

variable {n : Name g} {rest : List Char}

/-- The text of a name is read back, and nothing after it, exactly if it is clean. -/
theorem readIdent_inside_iff (hrest : Ends rest) {r : List Char} :
    readIdent n.closing (n.inside ++ n.closing :: rest) = some (n.value.toList, r) ↔
      (if n.quote = '[' then ']' ∉ n.value.toList
        else Faithful n.quote false n.value.toList) ∧ r = rest := by
  obtain ⟨value, q, h⟩ := n
  rw [readIdent_eq_readString]
  rcases quote_cases h with rfl | rfl | rfl
  · exact readString_escapeQuotes_iff (.inr (.inl rfl)) (hrest.follows (.inr (.inl rfl)))
  · exact readString_escapeQuotes_iff (.inr (.inr rfl)) (hrest.follows (.inr (.inr (.inl rfl))))
  · exact readString_raw_iff (hrest.follows (.inr (.inr (.inr rfl)))).head?_ne

/-- Writing a text keeps its first character that is no blank. -/
theorem head?_dropWhile_escapeQuotes {q : Char} (hq : Text.isBlank q = false) (previous : Char)
    (s : List Char) : ((escapeQuotes q previous false s).dropWhile Text.isBlank).head? =
      (s.dropWhile Text.isBlank).head? := by
  induction s generalizing previous with
  | nil => rfl
  | cons c s ih =>
    by_cases hc : Text.isBlank c = true
    · have hcq : c ≠ q := fun heq => by simp [heq, hq] at hc
      rw [escapeQuotes_other hcq, List.dropWhile_cons_of_pos hc, List.dropWhile_cons_of_pos hc, ih]
    -- a character that is doubled still comes first
    · have hhead : ∃ cs, escapeQuotes q previous false (c :: s) = c :: cs := by
        rw [escapeQuotes, if_neg Bool.false_ne_true]
        split_ifs <;> exact ⟨_, rfl⟩
      obtain ⟨cs, hcs⟩ := hhead
      rw [hcs, List.dropWhile_cons_of_neg hc, List.dropWhile_cons_of_neg hc]
      rfl

/-- Doubling delimiters does not change the first character that is no blank. -/
theorem head?_dropWhile_inside (n : Name g) :
    (n.inside.dropWhile Text.isBlank).head? = (n.value.toList.dropWhile Text.isBlank).head? := by
  rw [inside]
  split_ifs with hq
  · rfl
  · refine head?_dropWhile_escapeQuotes ?_ _ _
    rcases quote_cases n.opens with h | h | h <;> rw [h] <;> rfl

theorem isBlank_closing (n : Name g) : Text.isBlank n.closing = false := by
  rw [closing]
  rcases quote_cases n.opens with h | h | h <;> rw [h] <;> rfl

/-- No name starts with a closing delimiter. -/
theorem startsIdent_closing (n : Name g) : g.startsIdent n.closing = false := by
  rw [closing]
  rcases quote_cases n.opens with h | h | h <;> rw [h] <;> cases g <;> rfl

/-- Whether a name is accepted depends on its value alone, in whatever way its delimiters are
written. -/
theorem acceptsQuoted_iff (n : Name g) {t : List Char}
    (ht : (t.dropWhile Text.isBlank).head? = (n.value.toList.dropWhile Text.isBlank).head?)
    (rest : List Char) :
    acceptsQuoted g (t ++ n.closing :: rest) = true ↔ (g.checksQuoted = true →
      (n.value.toList.dropWhile Text.isBlank).head?.any g.startsIdent = true) := by
  have hhead : ((t ++ n.closing :: rest).dropWhile Text.isBlank).head?.any g.startsIdent =
      (n.value.toList.dropWhile Text.isBlank).head?.any g.startsIdent := by
    rw [← ht, List.dropWhile_append]
    -- of a name that is all blanks, the delimiter behind it is looked at
    cases t.dropWhile Text.isBlank with
    | nil => simp [n.isBlank_closing, n.startsIdent_closing]
    | cons c cs => rfl
  rw [acceptsQuoted, hhead]
  cases g.checksQuoted <;> simp

/-- Where the grammar checks what is quoted, it looks for a character that may start a name behind
the blanks. -/
theorem acceptsQuoted_inside_iff (n : Name g) (rest : List Char) :
    acceptsQuoted g (n.inside ++ n.closing :: rest) = true ↔ (g.checksQuoted = true →
      (n.value.toList.dropWhile Text.isBlank).head?.any g.startsIdent = true) :=
  acceptsQuoted_iff n n.head?_dropWhile_inside rest

/-- Where a delimiter opens a name. -/
theorem nextLexeme_quote {q : Char} (h : g.opensIdent q = true) (previous : Option Lexeme)
    (cs : List Char) :
    nextLexeme g previous q cs =
      if acceptsQuoted g cs = true then
        (readIdent (Dialect.closingQuote q) cs).map fun (s, rest) =>
          (some (quotedWord q (String.ofList s)), rest)
      else some (some (.symbol (String.singleton q)), cs) := by
  have hmarker : cs.head?.bind (fun c => (marker? g q c).map (c, ·)) = none := by
    rcases quote_cases h with rfl | rfl | rfl <;> cases cs <;> rfl
  split_ifs with haccepts
  · rcases quote_cases h with rfl | rfl | rfl <;> simp [nextLexeme, hmarker, h, haccepts]
  · -- only one grammar looks into its names
    cases g with
    | redshift =>
      rcases quote_cases h with rfl | rfl | rfl
      · simp only [nextLexeme, hmarker, haccepts]
        rfl
      · cases h
      · simp only [nextLexeme, hmarker, haccepts]
        rfl
    | _ => exact absurd rfl haccepts

/-- A quoted name is its delimiter, its doubled inside and the closing delimiter. -/
theorem toList_text_append (n : Name g) (rest : List Char) :
    n.ident.text.toList ++ rest = n.quote :: (n.inside ++ n.closing :: rest) := by
  simp [toList_text]

/-- A dot before a name is a symbol. -/
theorem cuts_dot (n : Name g) (rest : List Char) :
    Cuts g ('.' :: (n.ident.text.toList ++ rest)) [.symbol "."] (n.ident.text.toList ++ rest) := by
  rw [toList_text_append]
  refine .of_next (l := some (.symbol ".")) le_rfl fun previous => ?_
  rcases quote_cases n.opens with h | h | h <;> rw [h] <;> cases g <;> rfl

/-- A clean name gives its lexeme. -/
theorem Clean.cuts (h : n.Clean) (hrest : Ends rest) :
    Cuts g (n.ident.text.toList ++ rest) [n.lexeme] rest := by
  have haccepts := (acceptsQuoted_inside_iff n rest).2 h.start
  have hread := (readIdent_inside_iff hrest).2 ⟨h.text, rfl⟩
  rw [toList_text_append]
  refine .of_next (l := some n.lexeme) (by simp; omega) fun previous => ?_
  rw [nextLexeme_quote n.opens, if_pos haccepts, ← closing, hread, Option.map_some]
  simp [lexeme, ident, quotedWord]

/-- A name that gives its lexeme is clean. -/
theorem clean_of_canLex (hrest : Ends rest) {i : Ident} (hi : i = n.ident) {k : String}
    {ls : List Lexeme} (h : CanLex g (n.ident.text.toList ++ rest) (.word i k :: ls)) : n.Clean := by
  subst hi
  rw [toList_text_append] at h
  obtain ⟨previous, l, r, tail, hnext, hls, -⟩ := h.next
  rw [nextLexeme_quote n.opens, ← closing] at hnext
  split_ifs at hnext with haccepts
  · obtain ⟨⟨s, r'⟩, hread, hfound⟩ := Option.map_eq_some_iff.1 hnext
    obtain ⟨rfl, rfl⟩ := Prod.mk.inj hfound
    obtain ⟨hword, -⟩ := List.cons.inj hls
    have hs : s = n.value.toList := by
      have hvalue : n.value = String.ofList s := congrArg Ident.value (Lexeme.word.inj hword).1
      rw [hvalue, String.toList_ofList]
    rw [hs] at hread
    exact ⟨((readIdent_inside_iff hrest).1 hread).1, (acceptsQuoted_inside_iff n rest).1 haccepts⟩
  -- a delimiter that opens no name is a symbol
  · obtain ⟨rfl, rfl⟩ := Prod.mk.inj (Option.some.inj hnext)
    cases (List.cons.inj hls).1

/-- So it is known where the next lexeme starts. -/
theorem clean_and_canLex (hrest : Ends rest) {i : Ident} (hi : i = n.ident) {k : String}
    {ls : List Lexeme} (h : CanLex g (n.ident.text.toList ++ rest) (.word i k :: ls)) :
    n.Clean ∧ CanLex g rest ls := by
  have hclean := clean_of_canLex hrest hi h
  obtain ⟨tail, hls, htail⟩ := (hclean.cuts hrest).canLex h
  obtain ⟨-, rfl⟩ := List.cons.inj hls
  exact ⟨hclean, htail⟩

end Name

/-! ## Strings -/

/-- A string that is read as it was written; it must not seem to open with three quotes. -/
structure CleanString (g : Grammar) (s : String) : Prop where
  text : Faithful '\'' g.escapesWithBackslash s.toList
  start : g.tripleQuotes = true → s.toList.head? ≠ some '\''

instance (g : Grammar) (s : String) : Decidable (CleanString g s) :=
  decidable_of_iff (Faithful '\'' g.escapesWithBackslash s.toList ∧
      (g.tripleQuotes = true → s.toList.head? ≠ some '\''))
    ⟨fun h => ⟨h.1, h.2⟩, fun h => ⟨h.text, h.start⟩⟩

/-- A string is written between single quotes. -/
theorem toList_string_append (s : String) (rest : List Char) :
    (Value.string s).text.toList ++ rest =
      '\'' :: (escapeQuotes '\'' '\x00' false s.toList ++ '\'' :: rest) := by
  simp [Value.text, quoted]

theorem nextLexeme_string (previous : Option Lexeme) (cs : List Char) :
    nextLexeme g previous '\'' cs = readPlain g '\'' ('\'' :: cs) := by
  cases cs <;> cases g <;> rfl

theorem stringLexeme_one (s : List Char) :
    stringLexeme '\'' 1 s = .literal (.string (String.ofList s)) := rfl

/-- Three quotes in a row open a string of another kind. -/
theorem readQuoted_three (escapes : Bool) (cs : List Char) :
    readQuoted true '\'' escapes ('\'' :: '\'' :: '\'' :: cs) =
      (readTriple '\'' escapes 0 [] cs).map (3, ·) := by
  simp [readQuoted]

/-- Otherwise the quote opens an ordinary string. -/
theorem readQuoted_one {t rest : List Char} (triples escapes : Bool) (hrest : rest.head? ≠ some '\'')
    (ht : triples = true → t.head? ≠ some '\'') :
    readQuoted triples '\'' escapes ('\'' :: (t ++ '\'' :: rest)) =
      (readString '\'' escapes (t ++ '\'' :: rest)).map (1, ·) := by
  cases triples with
  | false => rfl
  | true =>
    cases t with
    | nil =>
      -- nothing inside: two quotes are not taken for the first of three
      have hquotes : rest.takeWhile (· == '\'') = [] := by
        cases rest with
        | nil => rfl
        | cons c rest => exact List.takeWhile_cons_of_neg (by simpa using hrest)
      rw [List.nil_append, readString_close hrest]
      simp [readQuoted, hquotes]
    | cons c t =>
      have hc : c ≠ '\'' := fun heq => ht rfl (by rw [heq]; rfl)
      simp [readQuoted, hc]

/-- A string that was written as `t` is read back, and nothing after it, exactly if `t` is and three
quotes do not seem to open it. Here a writer puts a first quote down twice. -/
theorem readPlain_iff {s : String} {t rest r : List Char} {P : Prop}
    (hrest : rest.head? ≠ some '\'')
    (htwo : s.toList.head? = some '\'' → ∃ cs, t = '\'' :: '\'' :: cs)
    (hother : s.toList.head? ≠ some '\'' → t.head? ≠ some '\'')
    (hread : readString '\'' g.escapesWithBackslash (t ++ '\'' :: rest) = some (s.toList, r) ↔
      P ∧ r = rest) :
    readPlain g '\'' ('\'' :: (t ++ '\'' :: rest)) = some (some (.literal (.string s)), r) ↔
      (P ∧ (g.tripleQuotes = true → s.toList.head? ≠ some '\'')) ∧ r = rest := by
  by_cases hstart : g.tripleQuotes = true ∧ s.toList.head? = some '\''
  · -- the string is taken for one between three quotes
    obtain ⟨htriples, hhead⟩ := hstart
    obtain ⟨cs, rfl⟩ := htwo hhead
    refine iff_of_false (fun h => ?_) fun h => h.1.2 htriples hhead
    rw [readPlain, htriples, List.cons_append, List.cons_append, readQuoted_three, Option.map_map] at h
    obtain ⟨found, -, hfound⟩ := Option.map_eq_some_iff.1 h
    cases (Prod.mk.inj hfound).1
  · have hstart : g.tripleQuotes = true → s.toList.head? ≠ some '\'' := fun h h' => hstart ⟨h, h'⟩
    rw [readPlain, readQuoted_one _ _ hrest fun h => hother (hstart h), Option.map_map]
    constructor
    · intro h
      obtain ⟨⟨s', r'⟩, hs', hfound⟩ := Option.map_eq_some_iff.1 h
      obtain ⟨hlexeme, rfl⟩ := Prod.mk.inj hfound
      rw [stringLexeme_one] at hlexeme
      obtain rfl : String.ofList s' = s := by simpa using hlexeme
      rw [String.toList_ofList] at hread hstart
      obtain ⟨hP, rfl⟩ := hread.1 (by simpa using hs')
      exact ⟨⟨hP, by rwa [String.toList_ofList]⟩, rfl⟩
    · rintro ⟨⟨hP, -⟩, rfl⟩
      rw [hread.2 ⟨hP, rfl⟩]
      simp [stringLexeme_one]

/-- A string is read back, and nothing after it, exactly if it is clean. -/
theorem readPlain_string_iff {s : String} {rest r : List Char} (hrest : Follows '\'' rest) :
    readPlain g '\'' ('\'' :: (escapeQuotes '\'' '\x00' false s.toList ++ '\'' :: rest)) =
      some (some (.literal (.string s)), r) ↔ CleanString g s ∧ r = rest := by
  have hclean : CleanString g s ↔ Faithful '\'' g.escapesWithBackslash s.toList ∧
      (g.tripleQuotes = true → s.toList.head? ≠ some '\'') :=
    ⟨fun h => ⟨h.text, h.start⟩, fun h => ⟨h.1, h.2⟩⟩
  rw [hclean]
  refine readPlain_iff hrest.head?_ne (fun hhead => ?_) (fun hhead => ?_)
    (readString_escapeQuotes_iff (.inl rfl) hrest)
  -- a quote at the start of the string follows the opening one
  · obtain ⟨cs, hs⟩ : ∃ cs, s.toList = '\'' :: cs := List.head?_eq_some_iff.1 hhead
    rw [hs, escapeQuotes_first (by decide)]
    exact ⟨_, rfl⟩
  · cases hs : s.toList with
    | nil => simp [escapeQuotes]
    | cons c cs =>
      have hc : c ≠ '\'' := fun heq => hhead (by rw [hs, heq]; rfl)
      simpa [escapeQuotes_other hc] using hc

/-- A clean string is cut off as the literal that it was written from. -/
theorem CleanString.cuts {s : String} {rest : List Char} (h : CleanString g s) (hrest : Ends rest) :
    Cuts g ((Value.string s).text.toList ++ rest) [.literal (.string s)] rest := by
  rw [toList_string_append]
  refine .of_next (l := some (.literal (.string s))) (by simp; omega) fun previous => ?_
  rw [nextLexeme_string]
  exact (readPlain_string_iff (hrest.follows (.inl rfl))).2 ⟨h, rfl⟩

/-- What a quote opens is a literal. -/
theorem eq_literal_of_readPlain {q : Char} {cs rest : List Char} {l : Option Lexeme}
    (h : readPlain g q cs = some (l, rest)) : ∃ v, l = some (.literal v) := by
  obtain ⟨⟨n, s, r⟩, -, hfound⟩ := Option.map_eq_some_iff.1 h
  exact ⟨_, (Prod.mk.inj hfound).1.symm⟩

/-- A string that is read as the literal it was written from is clean. -/
theorem cleanString_of_canLex {s : String} {rest : List Char} (hrest : Ends rest) {ls : List Lexeme}
    (h : CanLex g ((Value.string s).text.toList ++ rest) (.literal (.string s) :: ls)) :
    CleanString g s := by
  rw [toList_string_append] at h
  obtain ⟨previous, l, r, tail, hnext, hls, -⟩ := h.next
  rw [nextLexeme_string] at hnext
  obtain ⟨v, rfl⟩ := eq_literal_of_readPlain hnext
  obtain ⟨hv, -⟩ := List.cons.inj hls
  rw [← hv] at hnext
  exact ((readPlain_string_iff (hrest.follows (.inl rfl))).1 hnext).1

/-! ## What names and strings open with -/

/-- The lexemes that the delimiter of a name can open; it stands for itself if no name follows. -/
inductive OpensName : Lexeme → Prop where
  | word (s : String) (q : Char) : OpensName (quotedWord q s)
  | symbol (q : Char) (h : q = '"' ∨ q = '`' ∨ q = '[') : OpensName (.symbol (String.singleton q))

/-- Whatever is cut from a quoted name first is what a name may open with. -/
theorem Name.canLex_opening {n : Name g} {rest : List Char} {ls : List Lexeme}
    (h : CanLex g (n.ident.text.toList ++ rest) ls) : ∃ l tail, ls = l :: tail ∧ OpensName l := by
  rw [toList_text_append] at h
  obtain ⟨previous, l, r, tail, hnext, rfl, -⟩ := h.next
  rw [nextLexeme_quote n.opens] at hnext
  split_ifs at hnext
  · obtain ⟨⟨s, r'⟩, -, hfound⟩ := Option.map_eq_some_iff.1 hnext
    obtain ⟨rfl, rfl⟩ := Prod.mk.inj hfound
    exact ⟨_, _, rfl, .word _ _⟩
  · obtain ⟨rfl, rfl⟩ := Prod.mk.inj (Option.some.inj hnext)
    exact ⟨_, _, rfl, .symbol _ (quote_cases n.opens)⟩

/-- What is cut from a string first is a literal. -/
theorem canLex_string_opening {s : String} {rest : List Char} {ls : List Lexeme}
    (h : CanLex g ((Value.string s).text.toList ++ rest) ls) : ∃ v tail, ls = .literal v :: tail := by
  rw [toList_string_append] at h
  obtain ⟨previous, l, r, tail, hnext, rfl, -⟩ := h.next
  rw [nextLexeme_string] at hnext
  obtain ⟨v, rfl⟩ := eq_literal_of_readPlain hnext
  exact ⟨v, tail, rfl⟩

end DatasetSql.Statement
