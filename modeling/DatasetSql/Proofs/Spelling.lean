import DatasetSql.Proofs.QuotedString
import DatasetSql.Proofs.Search
import Mathlib.Data.List.Find
import Mathlib.Tactic.Tauto

/-!
# Cutting emitted SQL

Emitted text falls into lexemes by the rules of its dialect, where identifiers stand between the
dialect's own delimiters and a marker before a string changes nothing inside it. Each spelling is
read back as its own lexemes, whatever follows, as long as that starts with a character that cannot
go on with it.
-/

namespace DatasetSql

open Statement

namespace Dialect

/-- Reads the next lexeme of emitted text. -/
def nextUnit (d : Dialect) (previous : Option Lexeme) (c : Char) (cs : List Char) : Option Found :=
  if c == d.quote then
    (readIdent (closingQuote c) cs).map fun (s, rest) =>
      (some (quotedWord c (String.ofList s)), rest)
  else if c == 'N' && cs.head? == some '\'' then
    (readString '\'' (Grammar.of (some d)).escapesWithBackslash (cs.drop 1)).map fun (s, rest) =>
      (some (.literal (.marked .national .single false (String.ofList s))), rest)
  else nextLexeme (.of (some d)) previous c cs

/-- Cuts emitted text into lexemes, each step leaving fewer characters. -/
def cutFrom (d : Dialect) : Nat → Option Lexeme → List Char → Option (List Lexeme)
  | _, _, [] => some []
  | 0, _, _ => none
  | fuel + 1, previous, c :: cs => do
    let (lexeme?, rest) ← d.nextUnit previous c cs
    let lexemes ← d.cutFrom fuel lexeme? rest
    return lexeme?.toList ++ lexemes

/-- The lexemes of an emitted text. -/
def cut (d : Dialect) (s : String) : Option (List Lexeme) :=
  d.cutFrom s.toList.length none s.toList

/-! ## Spellings -/

/-- The front of some characters is cut into lexemes, whatever the rest gives. -/
def Splits (d : Dialect) (cs : List Char) (front : List Lexeme) (rest : List Char) : Prop :=
  ∀ ls, (∀ previous n, rest.length ≤ n → d.cutFrom n previous rest = some ls) →
    ∀ previous n, cs.length ≤ n → d.cutFrom n previous cs = some (front ++ ls)

/-- Some characters are cut into lexemes if what follows them starts with a character of `f`. -/
def Reads (d : Dialect) (f : Char → Bool) (cs : List Char) (ls : List Lexeme) : Prop :=
  ∀ rest : List Char, (∀ c, rest.head? = some c → f c = true) → d.Splits (cs ++ rest) ls rest

variable {d : Dialect} {f f' : Char → Bool} {cs cs' rest : List Char} {ls ls' : List Lexeme}

/-- What is split off in two steps is split off in one. -/
theorem Splits.trans {rest' : List Char} (h : d.Splits cs ls rest) (h' : d.Splits rest ls' rest') :
    d.Splits cs (ls ++ ls') rest' := by
  intro tail htail previous n hn
  rw [List.append_assoc]
  exact h _ (h' tail htail) previous n hn

/-- One unit is split off, if it leaves no more characters than there were. -/
theorem Splits.of_next {c : Char} {l : Option Lexeme} (hlength : rest.length ≤ cs.length)
    (h : ∀ previous, d.nextUnit previous c cs = some (l, rest)) :
    d.Splits (c :: cs) l.toList rest := by
  intro tail htail previous n hn
  cases n with
  | zero => simp at hn
  | succ n =>
    have hn : rest.length ≤ n := by
      rw [List.length_cons] at hn
      omega
    simp [cutFrom, h previous, htail l n hn]

theorem Reads.nil (d : Dialect) (f : Char → Bool) : d.Reads f [] [] :=
  fun _ _ _ htail => htail

/-- What is read before some characters is read before fewer of them. -/
theorem Reads.mono (h : d.Reads f cs ls) (hf : ∀ c, f' c = true → f c = true) : d.Reads f' cs ls :=
  fun rest hrest => h rest fun c hc => hf c (hrest c hc)

/-- One spelling after another. -/
theorem Reads.append (h : d.Reads f cs ls) (h' : d.Reads f' cs' ls') (hne : cs' ≠ [])
    (hhead : ∀ c, cs'.head? = some c → f c = true) : d.Reads f' (cs ++ cs') (ls ++ ls') := by
  intro rest hrest
  rw [List.append_assoc]
  refine (h (cs' ++ rest) fun c hc => ?_).trans (h' rest hrest)
  rw [List.head?_append_of_ne_nil _ hne] at hc
  exact hhead c hc

/-- A text that is split up to its end is cut into its lexemes. -/
theorem Splits.cut_eq {s : String} (h : d.Splits s.toList ls []) : d.cut s = some ls := by
  have hnil : ∀ previous n, ([] : List Char).length ≤ n → d.cutFrom n previous [] = some [] := by
    intro previous n _
    cases n <;> rfl
  have hcut := h [] hnil none s.toList.length le_rfl
  rwa [List.append_nil] at hcut

/-- A spelling on its own. -/
theorem Reads.cut_eq {s : String} (h : d.Reads f s.toList ls) : d.cut s = some ls := by
  have hsplits := h [] (by simp)
  rw [List.append_nil] at hsplits
  exact hsplits.cut_eq

/-- A spelling that is one lexeme, or blank. -/
theorem Reads.of_next {c : Char} {l : Option Lexeme}
    (h : ∀ (rest : List Char) previous, (∀ c, rest.head? = some c → f c = true) →
      d.nextUnit previous c (cs ++ rest) = some (l, rest)) :
    d.Reads f (c :: cs) l.toList := by
  intro rest hrest
  rw [List.cons_append]
  refine .of_next ?_ fun previous => h rest previous hrest
  rw [List.length_append]
  omega

/-! ## Identifiers and strings -/

/-- A quoted identifier is read as one word, before anything but another quote. -/
theorem reads_quoteIdentifier (d : Dialect) (name : String) :
    d.Reads (fun c => c != closingQuote d.quote) (d.quoteIdentifier name).toList
      [quotedWord d.quote name] := by
  rw [quoteIdentifier, Text.toList_enclosed]
  refine .of_next (l := some (quotedWord d.quote name)) fun rest previous hrest => ?_
  have hhead : rest.head? ≠ some (closingQuote d.quote) := by
    intro hc
    simpa using hrest _ hc
  have hread : readIdent (closingQuote d.quote)
      (doubledChars (closingQuote d.quote) name.toList ++ closingQuote d.quote :: rest) =
        some (name.toList, rest) := by
    rw [readIdent_eq_readString]
    exact readString_doubledChars (by simp) hhead
  rw [nextUnit, if_pos (by simp), List.append_assoc, List.singleton_append, hread]
  simp

/-- The delimiter of identifiers is none of the characters that other spellings start with. -/
theorem ne_quote {c : Char} (hc : c ≠ '"' ∧ c ≠ '`' ∧ c ≠ '[') : (c == d.quote) = false := by
  obtain ⟨h₁, h₂, h₃⟩ := hc
  rw [beq_eq_false_iff_ne]
  cases d <;> assumption

/-- A quoted string is read as one literal, where a backslash escapes nothing. -/
theorem reads_quoteString (hd : (Grammar.of (some d)).escapesWithBackslash = false) (s : String) :
    d.Reads (fun c => c != '\'') (d.quoteString s).toList [.literal (d.stringValue s)] := by
  have htriples : (Grammar.of (some d)).tripleQuotes = false := by
    cases d <;> first | rfl | exact nomatch hd
  cases hmarked : d == .tsql && !isAscii s with
  | true =>
    rw [toList_quoteString_marked hmarked, stringValue, if_pos hmarked]
    refine .of_next (l := some (.literal (.marked .national .single false s))) fun rest previous hrest => ?_
    have hhead : rest.head? ≠ some '\'' := by
      intro hc
      simpa using hrest _ hc
    have hread : readString '\'' false (doubledChars '\'' s.toList ++ '\'' :: rest) =
        some (s.toList, rest) := readString_doubledChars (by simp) hhead
    rw [nextUnit, ne_quote (by decide), if_neg (by simp), if_pos (by simp), hd, List.cons_append,
      List.drop_one, List.tail_cons, List.append_assoc, List.singleton_append, hread]
    simp
  | false =>
    rw [toList_quoteString_unmarked hmarked, stringValue, if_neg (by simp [hmarked])]
    refine .of_next (l := some (.literal (.string s))) fun rest previous hrest => ?_
    have hhead : rest.head? ≠ some '\'' := by
      intro hc
      simpa using hrest _ hc
    rw [nextUnit, ne_quote (by decide), if_neg (by simp), if_neg (by simp), List.append_assoc,
      List.singleton_append, nextLexeme_unmarked_iff previous s hhead]
    simp [hd, htriples]

/-! ## Blanks and symbols -/

/-- The characters that no word, number or symbol goes on with. -/
def isBreak (c : Char) : Bool := c == ' ' || c == '\n' || c == ',' || c == '(' || c == ')'

theorem isBreak_iff {c : Char} :
    isBreak c = true ↔ c = ' ' ∨ c = '\n' ∨ c = ',' ∨ c = '(' ∨ c = ')' := by
  simp [isBreak, or_assoc]

theorem reads_blank (d : Dialect) {c : Char} (hc : c = ' ' ∨ c = '\n') :
    d.Reads (fun _ => true) [c] [] := by
  refine .of_next (l := none) fun rest previous _ => ?_
  rw [nextUnit, ne_quote (by rcases hc with rfl | rfl <;> decide), if_neg (by simp)]
  rcases hc with rfl | rfl <;> rfl

theorem reads_blanks (d : Dialect) (n : Nat) :
    d.Reads (fun _ => true) (List.replicate n ' ') [] := by
  intro rest hrest
  induction n with
  | zero => exact Reads.nil d (fun _ => true) rest hrest
  | succ n ih =>
    have hfirst := reads_blank d (.inl rfl) (List.replicate n ' ' ++ rest) fun _ _ => rfl
    exact hfirst.trans ih

/-- A character of an operator or of punctuation starts a symbol. -/
theorem nextLexeme_symbol (g : Grammar) (previous : Option Lexeme) {c : Char}
    (hc : c = ',' ∨ c = '(' ∨ c = ')' ∨ c = '*' ∨ c = '=' ∨ c = '<' ∨ c = '>' ∨ c = '|' ∨ c = '+')
    (cs : List Char) : nextLexeme g previous c cs = some (found (readSymbol g (c :: cs))) := by
  rcases hc with rfl | rfl | rfl | rfl | rfl | rfl | rfl | rfl | rfl <;>
    cases cs <;> cases g <;> rfl

/-- No symbol contains what may follow one. -/
theorem symbols_apart : ∀ s ∈ fixedSymbols ++ growingSymbols,
    s.toList.all (fun c => !(isBreak c || c.isDigit)) = true := by
  decide

/-- What ends a symbol is no character of an operator. -/
theorem isOperatorChar_apart {c : Char} (hc : (isBreak c || c.isDigit) = true) :
    isOperatorChar c = false := by
  have hoperators : "+-*/<>=~!@#%^&|`?".toList.all (fun x => !(isBreak x || x.isDigit)) = true := by
    decide
  rw [isOperatorChar, List.contains_eq_mem, decide_eq_false_iff_not]
  intro hmem
  have hapart := List.all_eq_true.1 hoperators c hmem
  rw [hc] at hapart
  exact nomatch hapart

/-- A prefix that does not have the next character ends before it. -/
theorem isPrefixOf_append {s sym rest : List Char} (h : ∀ c, rest.head? = some c → c ∉ s) :
    s.isPrefixOf (sym ++ rest) = s.isPrefixOf sym := by
  induction sym generalizing s with
  | nil =>
    cases s with
    | nil => simp
    | cons a s =>
      cases rest with
      | nil => rfl
      | cons c rest =>
        have hc : a ≠ c := fun heq => h c rfl (by simp [heq])
        simp [List.isPrefixOf, hc]
  | cons b sym ih =>
    cases s with
    | nil => simp
    | cons a s =>
      have hs : ∀ c, rest.head? = some c → c ∉ s :=
        fun c hc hmem => h c hc (List.mem_cons_of_mem a hmem)
      simp [List.isPrefixOf, ih hs]

/-- Which symbol is found depends only on the characters before a break or a digit. -/
theorem find?_symbol {symbols : List String} (hsymbols : symbols ⊆ fixedSymbols ++ growingSymbols)
    (sym : List Char) (hrest : ∀ c, rest.head? = some c → (isBreak c || c.isDigit) = true) :
    symbols.find? (fun s => s.toList.isPrefixOf (sym ++ rest)) =
      symbols.find? fun s => s.toList.isPrefixOf sym := by
  have hprefix : ∀ s ∈ symbols, s.toList.isPrefixOf (sym ++ rest) = s.toList.isPrefixOf sym := by
    intro s hs
    apply isPrefixOf_append
    intro c hc hmem
    have hapart := List.all_eq_true.1 (symbols_apart s (hsymbols hs)) c hmem
    rw [hrest c hc] at hapart
    exact nomatch hapart
  exact List.find?_congr hprefix

/-- A symbol that is the longest one at its own start. -/
def isSymbol (s : String) : Bool :=
  (fixedSymbols.find? fun t => t.toList.isPrefixOf s.toList).isNone &&
    match growingSymbols.find? fun t => t.toList.isPrefixOf s.toList with
    | some t => t == s
    | none => s.toList.length == 1

/-- A symbol is read up to its end, if what follows cannot make it longer. -/
theorem readSymbol_append (g : Grammar) {s : String} (hs : isSymbol s = true)
    (hrest : ∀ c, rest.head? = some c → (isBreak c || c.isDigit) = true) :
    readSymbol g (s.toList ++ rest) = (.symbol s, rest) := by
  have hdrop : (s.toList ++ rest).drop s.length = rest := by
    rw [← String.length_toList, List.drop_left]
  have hmore : rest.takeWhile isOperatorChar = [] := by
    cases rest with
    | nil => rfl
    | cons c rest =>
      rw [List.takeWhile_cons_of_neg]
      simp [isOperatorChar_apart (hrest c rfl)]
  have hfixed := find?_symbol (List.subset_append_left ..) s.toList hrest
  have hgrowing := find?_symbol (List.subset_append_right ..) s.toList hrest
  rw [isSymbol, Bool.and_eq_true, Option.isNone_iff_eq_none] at hs
  obtain ⟨hnone, hs⟩ := hs
  rw [readSymbol, hfixed, hgrowing, hnone]
  split at hs
  next t ht =>
    obtain rfl : t = s := eq_of_beq hs
    simp [ht, hdrop, hmore]
  next ht =>
    obtain ⟨c, hc⟩ := List.length_eq_one_iff.1 (eq_of_beq hs)
    have htext : String.ofList [c] = s := by rw [← hc, String.ofList_toList]
    rw [ht]
    simp [hc, htext]

/-- A minus sign that opens no comment. -/
theorem nextLexeme_minus {g : Grammar} (hg : g.hyphenatedNames = false) (previous : Option Lexeme)
    (hcs : cs.head? ≠ some '-') :
    nextLexeme g previous '-' cs = some (found (readSymbol g ('-' :: cs))) := by
  cases cs with
  | nil => cases g <;> first | rfl | exact nomatch hg
  | cons c cs =>
    have hc : c ≠ '-' := fun heq => hcs (by rw [heq]; rfl)
    have hother : marker? g '-' c = none ∧ g.opensIdent '-' = false := by
      cases g <;> exact ⟨rfl, rfl⟩
    simp [nextLexeme, isHyphen, hg, hc, hother]

/-- A slash that opens no comment and is not doubled. -/
theorem nextLexeme_slash (g : Grammar) (previous : Option Lexeme) (hstar : cs.head? ≠ some '*')
    (hslash : cs.head? ≠ some '/') :
    nextLexeme g previous '/' cs = some (found (readSymbol g ('/' :: cs))) := by
  cases cs with
  | nil => cases g <;> rfl
  | cons c cs =>
    have hc : c ≠ '*' ∧ c ≠ '/' :=
      ⟨fun heq => hstar (by rw [heq]; rfl), fun heq => hslash (by rw [heq]; rfl)⟩
    have hother : marker? g '/' c = none ∧ g.opensIdent '/' = false ∧ g.startsIdent '/' = false ∧
        Text.isBlank '/' = false := by
      cases g <;> exact ⟨rfl, rfl, rfl, rfl⟩
    simp [nextLexeme, hc, hother]

/-- The operators of emitted text. -/
def operators : List String := ["-", "/", "=", "<", ">", "<=", ">=", "||", "+"]

theorem isSymbol_operator : ∀ s ∈ operators, isSymbol s = true := by decide

/-- An operator; a minus sign may stand before a number. -/
theorem reads_operator (hd : (Grammar.of (some d)).escapesWithBackslash = false) {s : String}
    (hs : s ∈ operators) :
    d.Reads (fun c => isBreak c || c.isDigit) s.toList [.symbol s] := by
  have hhyphen : (Grammar.of (some d)).hyphenatedNames = false := by
    cases d <;> first | rfl | exact nomatch hd
  -- all that differs between the operators is the branch that reads them
  have hnext {c : Char} {cs : List Char} (hc : s.toList = c :: cs)
      (hquote : c ≠ '"' ∧ c ≠ '`' ∧ c ≠ '[') (hN : c ≠ 'N')
      (hbranch : ∀ rest previous, (∀ c, rest.head? = some c → (isBreak c || c.isDigit) = true) →
        nextLexeme (.of (some d)) previous c (cs ++ rest) =
          some (found (readSymbol (.of (some d)) (c :: (cs ++ rest))))) :
      d.Reads (fun c => isBreak c || c.isDigit) s.toList [.symbol s] := by
    rw [hc]
    refine .of_next (l := some (.symbol s)) fun rest previous hrest => ?_
    have hread := readSymbol_append (.of (some d)) (isSymbol_operator s hs) hrest
    rw [hc, List.cons_append] at hread
    rw [nextUnit, ne_quote hquote, if_neg (by simp), if_neg (by simp [hN]),
      hbranch rest previous hrest, hread]
    rfl
  have hapart {rest : List Char} {x : Char}
      (hrest : ∀ c, rest.head? = some c → (isBreak c || c.isDigit) = true)
      (hx : (isBreak x || x.isDigit) = false) : rest.head? ≠ some x := by
    intro heq
    rw [hrest x heq] at hx
    exact nomatch hx
  simp only [operators, List.mem_cons, List.not_mem_nil, or_false] at hs
  rcases hs with rfl | rfl | rfl | rfl | rfl | rfl | rfl | rfl | rfl
  · exact hnext rfl (by decide) (by decide) fun rest previous hrest =>
      nextLexeme_minus hhyphen _ (hapart hrest (by decide))
  · exact hnext rfl (by decide) (by decide) fun rest previous hrest =>
      nextLexeme_slash _ _ (hapart hrest (by decide)) (hapart hrest (by decide))
  all_goals
    exact hnext rfl (by decide) (by decide) fun rest previous _ => nextLexeme_symbol _ _ (by decide) _

/-- Commas, parentheses and stars are read whatever follows: no longer symbol starts with them. -/
theorem reads_punctuation (d : Dialect) {c : Char} (hc : c = ',' ∨ c = '(' ∨ c = ')' ∨ c = '*') :
    d.Reads (fun _ => true) [c] [.symbol (String.singleton c)] := by
  refine .of_next (l := some (.symbol (String.singleton c))) fun rest previous _ => ?_
  have hnone : ∀ s ∈ fixedSymbols ++ growingSymbols, s.toList.isPrefixOf (c :: rest) = false := by
    have hstart : ∀ s ∈ fixedSymbols ++ growingSymbols,
        s.toList.head?.any (fun a => a != c) = true := by
      rcases hc with rfl | rfl | rfl | rfl <;> decide
    intro s hs
    have hhead := hstart s hs
    cases hchars : s.toList with
    | nil => simp [hchars] at hhead
    | cons a cs =>
      have ha : a ≠ c := by simpa [hchars] using hhead
      simp [List.isPrefixOf, ha]
  have hfixed : fixedSymbols.find? (fun s => s.toList.isPrefixOf (c :: rest)) = none :=
    List.find?_eq_none.2 fun s hs => by simp [hnone s (List.mem_append_left _ hs)]
  have hgrowing : growingSymbols.find? (fun s => s.toList.isPrefixOf (c :: rest)) = none :=
    List.find?_eq_none.2 fun s hs => by simp [hnone s (List.mem_append_right _ hs)]
  have hother : (c ≠ '"' ∧ c ≠ '`' ∧ c ≠ '[') ∧ c ≠ 'N' := by
    rcases hc with rfl | rfl | rfl | rfl <;> decide
  have hsymbol : nextLexeme (.of (some d)) previous c rest =
      some (found (readSymbol (.of (some d)) (c :: rest))) :=
    nextLexeme_symbol _ _ (by tauto) _
  rw [nextUnit, ne_quote hother.1, if_neg (by simp), if_neg (by simp [hother.2]), List.nil_append,
    hsymbol, readSymbol, hfixed, hgrowing]
  rfl

/-- A dot is part of a number only if a digit follows. -/
theorem reads_dot (d : Dialect) : d.Reads (fun c => !c.isDigit) ['.'] [.symbol "."] := by
  refine .of_next (l := some (.symbol ".")) fun rest previous hrest => ?_
  have hspan : rest.span Char.isDigit = ([], rest) :=
    Text.span_append (s := []) (by simp) fun c hc => by simpa using hrest c hc
  have hdot : ('.' :: rest).span Char.isDigit = ([], '.' :: rest) :=
    Text.span_append (s := []) (by simp) fun c hc => by
      obtain rfl : '.' = c := by simpa using hc
      rfl
  have hnumber : readNumber (.of (some d)) ('.' :: rest) = (.symbol ".", rest) := by
    simp only [readNumber, hdot, readPoint, hspan]
    rfl
  have hnext : nextLexeme (.of (some d)) previous '.' rest =
      some (found (readNumber (.of (some d)) ('.' :: rest))) := by
    cases rest <;> cases d <;> rfl
  rw [nextUnit, ne_quote (by decide), if_neg (by simp), if_neg (by simp), List.nil_append, hnext,
    hnumber]
  rfl

/-! ## Words -/

/-- Whether a word may start with this character. -/
def startsWord (c : Char) : Bool := Text.isLetter c || c == '_'

/-- Whether a word may go on with this character. -/
def continuesWord (c : Char) : Bool := startsWord c || c.isDigit

/-- A plain word: letters, digits and underscores, no digit first. -/
def isWord (s : String) : Bool :=
  match s.toList with
  | [] => false
  | c :: cs => startsWord c && cs.all continuesWord

/-- A word starts with a letter or an underscore and goes on with these or digits. -/
theorem isWord_iff {s : String} :
    isWord s = true ↔
      ∃ c cs, s.toList = c :: cs ∧ startsWord c = true ∧ ∀ x ∈ cs, continuesWord x = true := by
  unfold isWord
  cases s.toList with
  | nil => simp
  | cons c cs => simp

/-- Words of ASCII characters stay words in upper case; elsewhere a letter may become several
characters, not all of them letters. -/
theorem isWord_upper {s : String} (hascii : isAscii s = true) (h : isWord s = true) :
    isWord (Text.upper s) = true := by
  have htable : ∀ n < 0x80, (startsWord (Char.ofNat n) → startsWord (Char.ofNat n).toUpper) ∧
      (continuesWord (Char.ofNat n) → continuesWord (Char.ofNat n).toUpper) := by
    decide +kernel
  have hsmall : ∀ c ∈ s.toList, c.toNat < 0x80 := by
    simpa [isAscii] using hascii
  have hupper : (Text.upper s).toList = s.toList.map Char.toUpper := by
    rw [Text.upper, String.toList_ofList, List.map_eq_flatMap]
    refine List.flatMap_congr fun c hc => ?_
    rw [Text.upperChar, if_pos (hsmall c hc)]
  obtain ⟨c, cs, hchars, hc, hcs⟩ := isWord_iff.1 h
  rw [hchars] at hupper hsmall
  rw [List.forall_mem_cons] at hsmall
  refine isWord_iff.2 ⟨c.toUpper, cs.map Char.toUpper, hupper, ?_, List.forall_mem_map.2 fun x hx => ?_⟩
  · have hfirst := (htable c.toNat hsmall.1).1
    rw [Char.ofNat_toNat] at hfirst
    exact hfirst hc
  · have hlater := (htable x.toNat (hsmall.2 x hx)).2
    rw [Char.ofNat_toNat] at hlater
    exact hlater (hcs x hx)

theorem ne_of_startsWord {c x : Char} (hc : startsWord c = true) (hx : startsWord x = false) :
    c ≠ x := by
  rintro rfl
  rw [hc] at hx
  exact nomatch hx

theorem digit_cases {c : Char} (hc : c.isDigit = true) : c = '0' ∨ c = '1' ∨ c = '2' ∨ c = '3' ∨
    c = '4' ∨ c = '5' ∨ c = '6' ∨ c = '7' ∨ c = '8' ∨ c = '9' := by
  have hrange : 48 ≤ c.toNat ∧ c.toNat ≤ 57 := by
    simpa [Char.isDigit, UInt32.le_iff_toNat_le] using hc
  simp only [← Char.toNat_inj]
  show c.toNat = 48 ∨ c.toNat = 49 ∨ c.toNat = 50 ∨ c.toNat = 51 ∨ c.toNat = 52 ∨ c.toNat = 53 ∨
    c.toNat = 54 ∨ c.toNat = 55 ∨ c.toNat = 56 ∨ c.toNat = 57
  omega

theorem not_isDigit_of_startsWord {c : Char} (hc : startsWord c = true) : c.isDigit = false := by
  by_contra hdigit
  rw [Bool.not_eq_false] at hdigit
  rcases digit_cases hdigit with rfl | rfl | rfl | rfl | rfl | rfl | rfl | rfl | rfl | rfl <;>
    exact absurd hc (by decide)

section

variable {g : Grammar}

/-- What starts a word starts an identifier of every grammar in which a backslash escapes
nothing. -/
theorem startsIdent_of_startsWord (hg : g.escapesWithBackslash = false) {c : Char}
    (hc : startsWord c = true) : g.startsIdent c = true := by
  rw [startsWord, Bool.or_eq_true] at hc
  cases g <;> simp only [Grammar.startsIdent, Bool.or_eq_true] <;> tauto

/-- What continues a word continues an identifier of such a grammar. -/
theorem continuesIdent_of_continuesWord (hg : g.escapesWithBackslash = false) {c : Char}
    (hc : continuesWord c = true) : g.continuesIdent c = true := by
  rw [continuesWord, startsWord, Bool.or_eq_true, Bool.or_eq_true] at hc
  cases g <;> simp only [Grammar.continuesIdent, Bool.or_eq_true] <;> tauto

/-- No break continues an identifier. -/
theorem continuesIdent_of_isBreak {c : Char} (hc : isBreak c = true) :
    g.continuesIdent c = false := by
  rcases isBreak_iff.1 hc with rfl | rfl | rfl | rfl | rfl <;> cases g <;> rfl

/-- A word is read up to the next break. -/
theorem nextLexeme_word (hg : g.escapesWithBackslash = false) (previous : Option Lexeme) {c : Char}
    {cs rest : List Char} (hc : startsWord c = true) (hcs : ∀ x ∈ cs, continuesWord x = true)
    (hrest : ∀ x, rest.head? = some x → isBreak x = true) :
    nextLexeme g previous c (cs ++ rest) =
      some (some (bareWord (String.ofList (c :: cs))), rest) := by
  -- neither a quote nor an ampersand comes next
  have hhead : ∀ x, (cs ++ rest).head? = some x → x ≠ '\'' ∧ x ≠ '"' ∧ x ≠ '&' := by
    intro x hx
    cases cs with
    | nil =>
      have hbreak := hrest x hx
      refine ⟨?_, ?_, ?_⟩ <;> rintro rfl <;> exact nomatch hbreak
    | cons y cs =>
      obtain rfl : y = x := Option.some.inj hx
      have hword := hcs y List.mem_cons_self
      refine ⟨?_, ?_, ?_⟩ <;> rintro rfl <;> exact absurd hword (by decide)
  have hmarker : (cs ++ rest).head?.bind (fun q => (marker? g c q).map (q, ·)) = none := by
    rw [Option.bind_eq_none_iff]
    intro q hq
    obtain ⟨hsingle, hdouble, -⟩ := hhead q hq
    rw [Option.map_eq_none_iff, marker?]
    split <;> simp [hsingle, hdouble]
  have hnumbered : ((cs ++ rest).take 2 == ['&', '\'']) = false := by
    rw [beq_eq_false_iff_ne]
    intro htake
    cases hcases : cs ++ rest with
    | nil => simp [hcases] at htake
    | cons x xs =>
      rw [hcases] at htake hhead
      exact (hhead x rfl).2.2 (List.cons.inj htake).1
  have hne (x : Char) (hx : startsWord x = false) : c ≠ x := ne_of_startsWord hc hx
  have hopens : g.opensIdent c = false := by
    have h₁ := hne '"' (by decide)
    have h₂ := hne '`' (by decide)
    have h₃ := hne '[' (by decide)
    cases g <;> simp [Grammar.opensIdent, h₁, h₂, h₃]
  have hdigit : c.isDigit = false := not_isDigit_of_startsWord hc
  have hspan : (cs ++ rest).span g.continuesIdent = (cs, rest) := by
    refine Text.span_append (fun x hx => ?_) fun x hx => ?_
    · exact continuesIdent_of_continuesWord hg (hcs x hx)
    · exact continuesIdent_of_isBreak (hrest x hx)
  have hword : readWord g [c] (cs ++ rest) = (bareWord (String.ofList (c :: cs)), rest) := by
    simp only [readWord, hspan]
    rfl
  have hblank : (c == ' ' || c == '\t' || c == '\n' || c == '\r') = false := by
    simp [hne ' ' (by decide), hne '\t' (by decide), hne '\n' (by decide), hne '\r' (by decide)]
  have hsingle : (c == '\'') = false := by simp [hne '\'' (by decide)]
  have hdouble : (c == '"') = false := by simp [hne '"' (by decide)]
  have hdot : (c == '.') = false := by simp [hne '.' (by decide)]
  simp only [nextLexeme, hblank, hmarker, hnumbered, hsingle, hdouble, hopens, hdigit, hdot,
    Bool.and_false, Bool.false_and, Bool.or_false, Bool.false_eq_true, if_false]
  split
  · exact absurd rfl (hne '-' (by decide))
  · exact absurd rfl (hne '-' (by decide))
  · exact absurd rfl (hne '/' (by decide))
  · exact absurd rfl (hne '/' (by decide))
  · exact absurd rfl (hne '#' (by decide))
  · exact absurd rfl (hne '@' (by decide))
  · exact absurd rfl (hne '?' (by decide))
  · rw [if_pos (startsIdent_of_startsWord hg hc), hword]
    rfl

end

/-- A word is read as itself before a break. -/
theorem reads_word (hd : (Grammar.of (some d)).escapesWithBackslash = false) {s : String}
    (hs : isWord s = true) : d.Reads isBreak s.toList [bareWord s] := by
  obtain ⟨c, cs, hchars, hc, hcs⟩ := isWord_iff.1 hs
  have htext : String.ofList (c :: cs) = s := by rw [← hchars, String.ofList_toList]
  rw [hchars]
  refine .of_next (l := some (bareWord s)) fun rest previous hrest => ?_
  -- an N in front of a quote would mark a literal
  have hN : (c == 'N' && (cs ++ rest).head? == some '\'') = false := by
    rw [Bool.and_eq_false_imp]
    intro _
    rw [beq_eq_false_iff_ne]
    intro hhead
    cases cs with
    | nil => exact absurd (hrest _ hhead) (by decide)
    | cons y cs =>
      obtain rfl : y = '\'' := Option.some.inj hhead
      exact absurd (hcs '\'' List.mem_cons_self) (by decide)
  have hquote : c ≠ '"' ∧ c ≠ '`' ∧ c ≠ '[' :=
    ⟨ne_of_startsWord hc (by decide), ne_of_startsWord hc (by decide),
      ne_of_startsWord hc (by decide)⟩
  rw [nextUnit, ne_quote hquote, if_neg (by simp), hN, if_neg (by simp),
    nextLexeme_word hd previous hc hcs hrest, htext]

/-! ## Numbers -/

/-- All characters are digits. -/
def Digits (cs : List Char) : Prop := ∀ c ∈ cs, c.isDigit = true

/-- What may follow the whole part of a number. -/
inductive IsFraction : List Char → Prop where
  | none : IsFraction []
  | point {ds : List Char} (hds : Digits ds) : IsFraction ('.' :: ds)

/-- What may end a number. -/
inductive IsExponent : List Char → Prop where
  | none : IsExponent []
  | mark {sign ds : List Char} (hsign : sign = [] ∨ sign = ['-']) (hds : Digits ds)
      (hne : ds ≠ []) : IsExponent ('e' :: (sign ++ ds))

/-- A number without a sign. -/
def IsNumeral (cs : List Char) : Prop :=
  ∃ whole fraction exponent, cs = whole ++ (fraction ++ exponent) ∧ whole ≠ [] ∧ Digits whole ∧
    IsFraction fraction ∧ IsExponent exponent

theorem readExponent_append {exponent : List Char} (h : IsExponent exponent)
    (hrest : ∀ c, rest.head? = some c → isBreak c = true) :
    readExponent (exponent ++ rest) = (exponent, rest) := by
  have hbreak : ∀ c, rest.head? = some c → c.isDigit = false ∧ c ≠ 'e' ∧ c ≠ 'E' := by
    intro c hc
    rcases isBreak_iff.1 (hrest c hc) with rfl | rfl | rfl | rfl | rfl <;> decide
  cases h with
  | none =>
    cases rest with
    | nil => rfl
    | cons c rest =>
      obtain ⟨-, he, hE⟩ := hbreak c rfl
      simp [readExponent, he, hE]
  | @mark sign ds hsign hds hne =>
    have hspan : (ds ++ rest).span Char.isDigit = (ds, rest) :=
      Text.span_append hds fun c hc => (hbreak c hc).1
    obtain ⟨x, xs, rfl⟩ := List.exists_cons_of_ne_nil hne
    -- the first digit is no second sign
    have hx : x ≠ '+' ∧ x ≠ '-' := by
      have hdigit := hds x List.mem_cons_self
      constructor <;> rintro rfl <;> exact absurd hdigit (by decide)
    rcases hsign with rfl | rfl
    · rw [List.cons_append] at hspan
      simp only [readExponent, List.nil_append, List.cons_append]
      split
      next heq => exact absurd (List.cons.inj heq).1 hx.1
      next heq => exact absurd (List.cons.inj heq).1 hx.2
      next =>
        rw [hspan]
        rfl
    · simp only [readExponent, List.cons_append, List.nil_append] at hspan ⊢
      rw [hspan]
      rfl

/-- A numeral is read up to the break behind it. -/
theorem readNumber_append {g : Grammar} (hg : g.numericIdents = false) (hcs : IsNumeral cs)
    (hrest : ∀ c, rest.head? = some c → isBreak c = true) :
    readNumber g (cs ++ rest) = (.literal (.number (String.ofList cs) false), rest) := by
  obtain ⟨whole, fraction, exponent, rfl, hne, hwhole, hfraction, hexponent⟩ := hcs
  have hexp := readExponent_append hexponent hrest
  -- what follows the digits of the mantissa, and what follows those before the point
  have hend : ∀ c, (exponent ++ rest).head? = some c → c = 'e' ∨ isBreak c = true := by
    intro c hc
    cases hexponent with
    | none => exact .inr (hrest c hc)
    | mark => exact .inl (Option.some.inj hc).symm
  have htail : ∀ c, (fraction ++ (exponent ++ rest)).head? = some c →
      c = '.' ∨ c = 'e' ∨ isBreak c = true := by
    intro c hc
    cases hfraction with
    | none => exact .inr (hend c hc)
    | point => exact .inl (Option.some.inj hc).symm
  have hspan : (whole ++ (fraction ++ (exponent ++ rest))).span Char.isDigit =
      (whole, fraction ++ (exponent ++ rest)) := by
    refine Text.span_append hwhole fun c hc => ?_
    rcases htail c hc with rfl | rfl | hbreak
    · rfl
    · rfl
    · rcases isBreak_iff.1 hbreak with rfl | rfl | rfl | rfl | rfl <;> rfl
  obtain ⟨point, ds, rfl, hds, hpoint⟩ : ∃ point ds, fraction = point ++ ds ∧ Digits ds ∧
      readPoint (fraction ++ (exponent ++ rest)) = (point, ds ++ (exponent ++ rest)) := by
    cases hfraction with
    | none =>
      refine ⟨[], [], rfl, (fun c hc => nomatch hc), ?_⟩
      rw [List.nil_append, readPoint]
      intro xs heq
      rcases hend '.' (by rw [heq]; rfl) with h | h <;> exact absurd h (by decide)
    | @point ds hds => exact ⟨['.'], ds, rfl, hds, rfl⟩
  have hspan' : (ds ++ (exponent ++ rest)).span Char.isDigit = (ds, exponent ++ rest) := by
    refine Text.span_append hds fun c hc => ?_
    rcases hend c hc with rfl | hbreak
    · rfl
    · rcases isBreak_iff.1 hbreak with rfl | rfl | rfl | rfl | rfl <;> rfl
  have hmantissa : whole ++ point ++ ds ≠ ['.'] := by
    obtain ⟨x, xs, rfl⟩ := List.exists_cons_of_ne_nil hne
    intro heq
    have hx := hwhole x List.mem_cons_self
    rw [(List.cons.inj heq).1] at hx
    exact absurd hx (by decide)
  rw [List.append_assoc, List.append_assoc]
  simp only [readNumber, hspan]
  split
  next heq =>
    rcases htail 'x' (by rw [heq]; rfl) with h | h | h <;> exact absurd h (by decide)
  next =>
    simp only [hpoint, hspan', hmantissa, hg, hexp, Bool.false_and, Bool.false_eq_true, if_false]
    split
    next => exact absurd (hrest 'L' rfl) (by decide)
    next => simp [List.append_assoc]

theorem nextLexeme_digit (g : Grammar) (previous : Option Lexeme) {c : Char} (hc : c.isDigit = true)
    (cs : List Char) : nextLexeme g previous c cs = some (found (readNumber g (c :: cs))) := by
  rcases digit_cases hc with rfl | rfl | rfl | rfl | rfl | rfl | rfl | rfl | rfl | rfl <;>
    cases cs <;> cases g <;> rfl

/-- The first character of a number. -/
theorem IsNumeral.exists_digit (h : IsNumeral cs) : ∃ c cs', cs = c :: cs' ∧ c.isDigit = true := by
  obtain ⟨whole, fraction, exponent, rfl, hne, hwhole, -, -⟩ := h
  obtain ⟨c, whole, rfl⟩ := List.exists_cons_of_ne_nil hne
  exact ⟨c, _, rfl, hwhole c List.mem_cons_self⟩

/-- A numeral is read as one number. -/
theorem reads_numeral (hd : (Grammar.of (some d)).escapesWithBackslash = false) {s : String}
    (hs : IsNumeral s.toList) : d.Reads isBreak s.toList [.literal (.number s false)] := by
  have hnumeric : (Grammar.of (some d)).numericIdents = false := by
    cases d <;> first | rfl | exact nomatch hd
  obtain ⟨c, cs, hchars, hc⟩ := hs.exists_digit
  have hother : (c ≠ '"' ∧ c ≠ '`' ∧ c ≠ '[') ∧ c ≠ 'N' := by
    rcases digit_cases hc with rfl | rfl | rfl | rfl | rfl | rfl | rfl | rfl | rfl | rfl <;> decide
  rw [hchars]
  refine .of_next (l := some (.literal (.number s false))) fun rest previous hrest => ?_
  have hread := readNumber_append hnumeric hs hrest
  rw [String.ofList_toList, hchars, List.cons_append] at hread
  rw [nextUnit, ne_quote hother.1, if_neg (by simp), if_neg (by simp [hother.2]),
    nextLexeme_digit _ _ hc, hread]
  rfl

/-- A number may have a sign. -/
theorem exists_reads_signed (hd : (Grammar.of (some d)).escapesWithBackslash = false) {s : String}
    (hs : IsNumeral s.toList) (negative : Bool) :
    ∃ ls, d.Reads isBreak ((if negative then "-" else "") ++ s).toList ls := by
  have hnumber := reads_numeral hd hs
  cases negative with
  | false => exact ⟨_, by simpa using hnumber⟩
  | true =>
    obtain ⟨c, cs, hchars, hc⟩ := hs.exists_digit
    have hminus : d.Reads (fun c => isBreak c || c.isDigit) "-".toList [.symbol "-"] :=
      reads_operator hd (by decide)
    rw [if_pos rfl, String.toList_append]
    refine ⟨_, hminus.append hnumber (by simp [hchars]) fun x hx => ?_⟩
    obtain rfl : c = x := by simpa [hchars] using hx
    simp [hc]

/-! ### How numbers are written -/

theorem digits_toString (n : Nat) : Digits (toString n).toList := by
  intro c hc
  rw [Nat.toString_eq_repr, Nat.repr_eq_ofList_toDigits, String.toList_ofList] at hc
  exact Nat.isDigit_of_mem_toDigits (by decide) le_rfl hc

theorem toString_ne_nil (n : Nat) : (toString n).toList ≠ [] := by
  rw [Nat.toString_eq_repr, Nat.repr_eq_ofList_toDigits, String.toList_ofList]
  exact Nat.toDigits_ne_nil

theorem Digits.append {cs cs' : List Char} (h : Digits cs) (h' : Digits cs') : Digits (cs ++ cs') :=
  List.forall_mem_append.2 ⟨h, h'⟩

theorem digits_zeros (n : Nat) : Digits (List.replicate n '0') := by
  intro c hc
  rw [List.eq_of_mem_replicate hc]
  rfl

theorem isNumeral_toString (n : Nat) : IsNumeral (toString n).toList :=
  ⟨_, [], [], by simp, toString_ne_nil n, digits_toString n, .none, .none⟩

open Numeric in
/-- Digits around a point are a numeral. -/
theorem isNumeral_positionalText {digits : List Char} (hne : digits ≠ []) (h : Digits digits)
    (point : Int) : IsNumeral (positionalText digits point).toList := by
  unfold positionalText
  dsimp only
  split_ifs with hlarge hmiddle
  · refine ⟨digits ++ List.replicate (point - digits.length).toNat '0', ['.', '0'], [], by simp, ?_,
      h.append (digits_zeros _), .point (digits_zeros 1), .none⟩
    simp [hne]
  · refine ⟨digits.take point.toNat, '.' :: digits.drop point.toNat, [], by simp, ?_,
      fun c hc => h c (List.mem_of_mem_take hc), .point fun c hc => h c (List.mem_of_mem_drop hc),
      .none⟩
    rw [Ne, List.take_eq_nil_iff]
    rintro (hzero | hnil)
    · omega
    · exact hne hnil
  · exact ⟨['0'], '.' :: (List.replicate (-point).toNat '0' ++ digits), [], by simp, by simp,
      digits_zeros 1, .point ((digits_zeros _).append h), .none⟩

open Numeric in
/-- Digits with an exponent are a numeral. -/
theorem isNumeral_exponentText {digits : List Char} (hne : digits ≠ []) (h : Digits digits)
    (point : Int) : IsNumeral (exponentText "" digits point).toList := by
  have hexponent : ∃ sign ds, (sign = [] ∨ sign = ['-']) ∧ Digits ds ∧ ds ≠ [] ∧
      (if 0 ≤ point - 1 then "" ++ toString (point - 1).toNat
        else "-" ++ toString (-(point - 1)).toNat).toList = sign ++ ds := by
    split_ifs
    · exact ⟨[], _, .inl rfl, digits_toString _, toString_ne_nil _, String.toList_append⟩
    · exact ⟨['-'], _, .inr rfl, digits_toString _, toString_ne_nil _, String.toList_append⟩
  obtain ⟨x, xs, rfl⟩ := List.exists_cons_of_ne_nil hne
  have hx : Digits [x] := List.forall_mem_singleton.2 (h x List.mem_cons_self)
  have hxs : Digits xs := fun c hc => h c (List.mem_cons_of_mem x hc)
  unfold exponentText
  dsimp only
  generalize (if 0 ≤ point - 1 then "" ++ toString (point - 1).toNat
    else "-" ++ toString (-(point - 1)).toNat) = exponent at hexponent ⊢
  obtain ⟨sign, ds, hsign, hds, hnil, htext⟩ := hexponent
  -- a single digit is written without a point
  cases xs with
  | nil => exact ⟨[x], [], _, by simp [htext], by simp, hx, .none, .mark hsign hds hnil⟩
  | cons y ys =>
    exact ⟨[x], '.' :: y :: ys, _, by simp [htext], by simp, hx, .point hxs, .mark hsign hds hnil⟩

/-- A whole number. -/
theorem exists_reads_int (hd : (Grammar.of (some d)).escapesWithBackslash = false) (n : Int) :
    ∃ ls, d.Reads isBreak (toString n).toList ls := by
  cases n with
  | ofNat n =>
    have hsigned := exists_reads_signed hd (isNumeral_toString n) false
    rwa [if_neg Bool.false_ne_true, String.empty_append] at hsigned
  | negSucc n => exact exists_reads_signed hd (isNumeral_toString (n + 1)) true

open Numeric in
/-- A floating-point number. -/
theorem exists_reads_float (hd : (Grammar.of (some d)).escapesWithBackslash = false) (x : Double) :
    ∃ ls, d.Reads isBreak (Emit.floatLayout.text x).toList ls := by
  have hbody : ∃ body : String, Emit.floatLayout.text x = (if x.negative then "-" else "") ++ body ∧
      IsNumeral body.toList := by
    unfold FloatLayout.text
    by_cases hzero : (x.mantissa == 0) = true
    · rw [if_pos hzero]
      exact ⟨"0.0", rfl, ['0'], ['.', '0'], [], rfl, by simp, digits_zeros 1,
        .point (digits_zeros 1), .none⟩
    · rw [if_neg hzero]
      refine ⟨_, rfl, ?_⟩
      split_ifs
      · exact isNumeral_positionalText (toString_ne_nil _) (digits_toString _) _
      · exact isNumeral_exponentText (toString_ne_nil _) (digits_toString _) _
  obtain ⟨body, htext, hbody⟩ := hbody
  rw [htext]
  exact exists_reads_signed hd hbody x.negative

end Dialect

end DatasetSql
