import DatasetSql.Proofs.Atoms
import DatasetSql.Proofs.Outcome
import DatasetSql.Proofs.Spelling
import Mathlib.Data.List.Chain

/-!
# The boundaries of tokens

Tokens are written one after the other, often without a blank between them. Whatever an expression
or a query is built of, each token still stands on its own: text that is cut into lexemes again
gives those of the tokens, one token after the other, with every name and every string as it was.
-/

namespace DatasetSql.Emit

open Dialect Statement

/-! ## Tokens and their neighbours -/

/-- Whether a token ends in a way that nothing can follow it up. -/
def Token.isOpen : Token → Bool
  | .space | .newline | .indent _ | .comma | .lparen | .rparen | .star | .mul => true
  | _ => false

/-- Whether a token starts with a character that ends what stands before it. -/
def Token.breaks : Token → Bool
  | .space | .newline | .comma | .lparen | .rparen => true
  | _ => false

/-- Whether one token may stand directly before another. Beyond blanks and punctuation, a dot may
join a name to another one or to a star. -/
def Token.fits : Token → Token → Bool
  | .ident _, .dot | .dot, .ident _ | .dot, .star => true
  | t, u => t.isOpen || u.breaks

/-- The characters that may follow a token. -/
def Token.follow : Token → Char → Bool
  | .ident _, c => isBreak c || c == '.'
  | .dot, c => !c.isDigit
  | t, c => t.isOpen || isBreak c

/-- A token that is spelled in words of the language. -/
def Token.IsPlain : Token → Prop
  | .functionName name => isWord (Text.upper name) = true
  | .raw sql => isWord sql = true ∨ ∃ d type, sql = typeName d type
  | _ => True

/-- Whether a token is spelled in words of the language whatever it carries. -/
def Token.isFixed : Token → Bool
  | .functionName _ | .raw _ => false
  | _ => true

/-- Tokens that carry no name of a function and no raw text are plain. -/
theorem isPlain_of_isFixed {ts : List Token} (h : ts.all Token.isFixed = true) :
    ∀ t ∈ ts, t.IsPlain := by
  intro t ht
  have hfixed := List.all_eq_true.1 h t ht
  cases t with
  | functionName | raw => exact nomatch hfixed
  | _ => trivial

/-- The lexemes of a token: a name gives its identifiers, a string its literal, and any other token
what its spelling is cut into. -/
def Token.lexemes (d : Dialect) : Token → List Lexeme
  | .ident name | .qualifiedIdent none name => [quotedWord d.quote name]
  | .qualifiedIdent (some q) name => [quotedWord d.quote q, .symbol ".", quotedWord d.quote name]
  | .litString s => [.literal (d.stringValue s)]
  | t => ((t.render d).toOption.bind d.cut).getD []

/-! ## Spellings of tokens -/

variable {d : Dialect}

theorem exists_quoteIdentifier (d : Dialect) (name : String) :
    ∃ cs, (d.quoteIdentifier name).toList = d.quote :: cs :=
  ⟨_, Text.toList_enclosed ..⟩

/-- A quoted name is read as one word, also before a dot. -/
theorem reads_name (d : Dialect) (name : String) :
    d.Reads (fun c => isBreak c || c == '.') (d.quoteIdentifier name).toList
      [quotedWord d.quote name] := by
  refine (reads_quoteIdentifier d name).mono fun c hc => ?_
  rw [Bool.or_eq_true, isBreak_iff, beq_iff_eq] at hc
  rcases hc with (rfl | rfl | rfl | rfl | rfl) | rfl <;> cases d <;> rfl

/-- A name with its qualifier is read as two words around a dot. -/
theorem reads_qualified (d : Dialect) (q name : String) :
    d.Reads isBreak (d.quoteIdentifier q ++ "." ++ d.quoteIdentifier name).toList
      [quotedWord d.quote q, .symbol ".", quotedWord d.quote name] := by
  obtain ⟨cs, hchars⟩ := exists_quoteIdentifier d name
  have hname : d.Reads isBreak (d.quoteIdentifier name).toList [quotedWord d.quote name] :=
    (reads_name d name).mono fun c hc => by rw [hc, Bool.true_or]
  have htail := (reads_dot d).append hname (by simp [hchars]) fun c hc => by
    rw [hchars] at hc
    obtain rfl : d.quote = c := Option.some.inj hc
    cases d <;> rfl
  rw [String.toList_append, String.toList_append, List.append_assoc]
  refine (reads_name d q).append htail (by simp) fun c hc => ?_
  obtain rfl : '.' = c := Option.some.inj hc
  rfl

/-- Every dialect spells the name of a function as a word, whether it has its own name for it or
not. -/
theorem isWord_functionName (d : Dialect) {name : String} (h : isWord (Text.upper name) = true) :
    isWord (Text.upper ((d.functionName? name).getD name)) = true := by
  have hnames : d.functionNames.all (fun p => isAscii p.2 && isWord p.2) = true := by
    cases d <;> decide +kernel
  cases hname : d.functionName? name with
  | none => exact h
  | some other =>
    rw [functionName?, List.lookup_eq_some_iff] at hname
    obtain ⟨before, after, hsplit, -⟩ := hname
    have hmem : (Text.upper name, other) ∈ d.functionNames := by
      rw [hsplit]
      exact List.mem_append_right before List.mem_cons_self
    have hother := List.all_eq_true.1 hnames _ hmem
    rw [Bool.and_eq_true] at hother
    exact isWord_upper hother.1 hother.2

section

variable (hd : (Grammar.of (some d)).escapesWithBackslash = false)

include hd

/-- Two words with a blank between them are read as these words. -/
theorem reads_words {s t : String} (hs : isWord s = true) (ht : isWord t = true) :
    d.Reads isBreak (s ++ " " ++ t).toList [bareWord s, bareWord t] := by
  obtain ⟨c, cs, hchars, -⟩ := isWord_iff.1 ht
  have hne : t.toList ≠ [] := by
    rw [hchars]
    exact List.cons_ne_nil c cs
  have hblank : d.Reads isBreak (' ' :: t.toList) [bareWord t] :=
    (reads_blank d (.inl rfl)).append (reads_word hd ht) hne fun _ _ => rfl
  rw [String.toList_append, String.toList_append, List.append_assoc]
  refine (reads_word hd hs).append hblank (by simp) fun c hc => ?_
  obtain rfl : ' ' = c := Option.some.inj hc
  rfl

/-- A word with something between parentheses. -/
theorem reads_applied {s t : String} {ls : List Lexeme} (hs : isWord s = true)
    (ht : d.Reads isBreak t.toList ls) :
    d.Reads isBreak (s ++ "(" ++ t ++ ")").toList
      ([bareWord s, .symbol "("] ++ ls ++ [Lexeme.symbol ")"]) := by
  have hclose : d.Reads isBreak (t.toList ++ [')']) (ls ++ [Lexeme.symbol ")"]) := by
    refine ht.append ((reads_punctuation d (by simp)).mono fun _ _ => rfl) (by simp) fun c hc => ?_
    obtain rfl : ')' = c := Option.some.inj hc
    rfl
  have hopen : d.Reads isBreak ('(' :: (t.toList ++ [')']))
      (.symbol "(" :: (ls ++ [Lexeme.symbol ")"])) :=
    (reads_punctuation d (by simp)).append hclose (by simp) fun _ _ => rfl
  have hall := (reads_word hd hs).append hopen (by simp) fun c hc => by
    obtain rfl : '(' = c := Option.some.inj hc
    rfl
  simpa using hall

/-- The types are words, some of them with a second word or with an argument. -/
theorem exists_reads_typeName (d' : Dialect) (type : ColumnType) :
    ∃ ls, d.Reads isBreak (typeName d' type).toList ls := by
  have htype : isWord (typeName d' type) = true ∨
      typeName d' type = "DOUBLE" ++ " " ++ "PRECISION" ∨
      typeName d' type = "NVARCHAR" ++ "(" ++ "MAX" ++ ")" ∨
      typeName d' type = "NUMBER" ++ "(" ++ "1" ++ ")" ∨
      typeName d' type = "NUMBER" ++ "(" ++ "19" ++ ")" ∨
      typeName d' type = "VARCHAR2" ++ "(" ++ "4000" ++ ")" := by
    -- there are only six shapes of type names, whatever the dialect
    cases d' <;> cases type <;> decide
  rcases htype with hword | htext | htext | htext | htext | htext
  · exact ⟨_, reads_word hd hword⟩
  · rw [htext]
    exact ⟨_, reads_words hd (by decide) (by decide)⟩
  · rw [htext]
    exact ⟨_, reads_applied hd (by decide) (reads_word hd (by decide))⟩
  · rw [htext]
    exact ⟨_, reads_applied hd (by decide) (reads_numeral hd (isNumeral_toString 1))⟩
  · rw [htext]
    exact ⟨_, reads_applied hd (by decide) (reads_numeral hd (isNumeral_toString 19))⟩
  · rw [htext]
    exact ⟨_, reads_applied hd (by decide) (reads_numeral hd (isNumeral_toString 4000))⟩

theorem exists_reads_booleanText (b : Bool) :
    ∃ ls, d.Reads isBreak (d.booleanText b).toList ls := by
  have htext : d.booleanText b = toString 0 ∨ d.booleanText b = toString 1 ∨
      isWord (d.booleanText b) = true := by
    cases d <;> cases b <;> decide
  rcases htext with htext | htext | hword
  · rw [htext]
    exact ⟨_, reads_numeral hd (isNumeral_toString 0)⟩
  · rw [htext]
    exact ⟨_, reads_numeral hd (isNumeral_toString 1)⟩
  · exact ⟨_, reads_word hd hword⟩

omit hd in
/-- What a spelling is cut into before any rest is what it is cut into alone. -/
theorem Token.reads_alone {t : Token} {own : String} (h : t.render d = .ok own) {f : Char → Bool}
    {ls : List Lexeme} (hreads : d.Reads f own.toList ls)
    (hlexemes : t.lexemes d = ((t.render d).toOption.bind d.cut).getD []) :
    d.Reads f own.toList (t.lexemes d) := by
  have hcut : t.lexemes d = ls := by
    rw [hlexemes, h]
    show (d.cut own).getD [] = ls
    rw [hreads.cut_eq, Option.getD_some]
  rwa [hcut]

/-- A token is read back as its own lexemes, if it is followed by a character that may follow it. -/
theorem Token.reads {t : Token} (hplain : t.IsPlain) {own : String} (h : t.render d = .ok own) :
    d.Reads t.follow own.toList (t.lexemes d) := by
  cases t with
  | ident name =>
    cases h
    exact reads_name d name
  | qualifiedIdent q name =>
    cases h
    cases q with
    | none => exact (reads_name d name).mono fun c hc => by rw [show isBreak c = true from hc]; rfl
    | some q => exact reads_qualified d q name
  | litString s =>
    cases h
    refine (reads_quoteString hd s).mono fun c hc => ?_
    rcases isBreak_iff.1 hc with rfl | rfl | rfl | rfl | rfl <;> rfl
  | space =>
    cases h
    exact reads_alone rfl (reads_blank d (c := ' ') (.inl rfl)) rfl
  | newline =>
    cases h
    exact reads_alone rfl (reads_blank d (c := '\n') (.inr rfl)) rfl
  | indent n =>
    cases h
    have hblanks := reads_blanks d (2 * n)
    rw [← String.toList_ofList (l := List.replicate (2 * n) ' ')] at hblanks
    exact reads_alone rfl hblanks rfl
  | comma =>
    cases h
    exact reads_alone rfl (reads_punctuation d (c := ',') (by decide)) rfl
  | lparen =>
    cases h
    exact reads_alone rfl (reads_punctuation d (c := '(') (by decide)) rfl
  | rparen =>
    cases h
    exact reads_alone rfl (reads_punctuation d (c := ')') (by decide)) rfl
  | star | mul =>
    cases h
    exact reads_alone rfl (reads_punctuation d (c := '*') (by decide)) rfl
  -- punctuation and blanks let anything follow; operators and words only a break
  | dot =>
    cases h
    exact reads_alone rfl (reads_dot d) rfl
  | eq | lt | gt | lte | gte | minus | div =>
    cases h
    refine (reads_alone rfl (reads_operator hd (by decide)) rfl).mono fun c hc => ?_
    rw [show isBreak c = true from hc, Bool.true_or]
  | concat =>
    cases h
    have hconcat : d.concatOperator ∈ operators := by cases d <;> decide
    refine (reads_alone rfl (reads_operator hd hconcat) rfl).mono fun c hc => ?_
    rw [show isBreak c = true from hc, Bool.true_or]
  | groupBy =>
    cases h
    exact reads_alone rfl (reads_words hd (s := "GROUP") (t := "BY") (by decide) (by decide)) rfl
  | orderBy =>
    cases h
    exact reads_alone rfl (reads_words hd (s := "ORDER") (t := "BY") (by decide) (by decide)) rfl
  | litInt n =>
    cases h
    obtain ⟨ls, hreads⟩ := exists_reads_int hd n
    exact reads_alone rfl hreads rfl
  | litFloat x =>
    cases x with
    | finite x =>
      cases h
      obtain ⟨ls, hreads⟩ := exists_reads_float hd x
      exact reads_alone rfl hreads rfl
    | infinite | nan => exact nomatch h
  | litBool b =>
    cases h
    obtain ⟨ls, hreads⟩ := exists_reads_booleanText hd b
    exact reads_alone rfl hreads rfl
  | litNull =>
    cases h
    exact reads_alone rfl (reads_word hd (s := "NULL") (by decide)) rfl
  | functionName name =>
    cases h
    exact reads_alone rfl (reads_word hd (isWord_functionName d hplain)) rfl
  | raw sql =>
    cases h
    rcases hplain with hword | ⟨d', type, rfl⟩
    · exact reads_alone rfl (reads_word hd hword) rfl
    · obtain ⟨ls, hreads⟩ := exists_reads_typeName hd d' type
      exact reads_alone rfl hreads rfl
  | _ =>
    cases h
    exact reads_alone rfl (reads_word hd (by decide)) rfl

end

/-! ## Sequences of tokens -/

/-- What follows a token starts as it may, or nothing that follows it matters. -/
theorem Token.follow_of_fits {t u : Token} (h : t.fits u = true) {own : String}
    (hown : u.render d = .ok own) :
    (∀ c, t.follow c = true) ∨ ∃ c cs, own.toList = c :: cs ∧ t.follow c = true := by
  by_cases hopen : t.isOpen = true
  · refine .inl fun c => ?_
    cases t <;> first | rfl | exact nomatch hopen
  · refine .inr ?_
    by_cases hbreaks : u.breaks = true
    -- the second token is punctuation or a blank, which ends whatever stands before it
    · have hstart : ∃ c cs, own.toList = c :: cs ∧ isBreak c = true := by
        cases u with
        | space | newline | comma | lparen | rparen =>
          cases hown
          exact ⟨_, [], rfl, rfl⟩
        | _ => exact nomatch hbreaks
      obtain ⟨c, cs, hchars, hc⟩ := hstart
      refine ⟨c, cs, hchars, ?_⟩
      have hdigit : c.isDigit = false := by
        rcases isBreak_iff.1 hc with rfl | rfl | rfl | rfl | rfl <;> rfl
      unfold Token.follow
      split <;> simp [hc, hdigit]
    -- otherwise the two are a name and a dot, or a dot and what it joins to the name
    · unfold Token.fits at h
      split at h
      · cases hown
        exact ⟨'.', [], rfl, rfl⟩
      · cases hown
        obtain ⟨cs, hchars⟩ := exists_quoteIdentifier d _
        exact ⟨d.quote, cs, hchars, by cases d <;> rfl⟩
      · cases hown
        exact ⟨'*', [], rfl, rfl⟩
      · simp [hopen, hbreaks] at h

/-- Plain tokens, each of which fits before the next one; for fixed tokens that is computed. -/
structure Sealed (ts : List Token) : Prop where
  plain : ∀ t ∈ ts, t.IsPlain := by exact isPlain_of_isFixed rfl
  chain : ts.IsChain fun t u => t.fits u = true := by exact of_decide_eq_true rfl

/-- Each token of a sequence that can be written can be written alone. -/
theorem exists_render_of_mem {ts : List Token} {text : String} (h : render d ts = .ok text) :
    ∀ t ∈ ts, ∃ own, t.render d = .ok own := by
  induction ts generalizing text with
  | nil => exact fun t ht => nomatch ht
  | cons t ts ih =>
    obtain ⟨own, hown, h⟩ := bind_eq_ok.1 h
    obtain ⟨rest, hrest, -⟩ := bind_eq_ok.1 h
    exact List.forall_mem_cons.2 ⟨⟨own, hown⟩, ih hrest⟩

/-- A text falls into the lexemes of its tokens, and into nothing else. -/
structure FallsInto (d : Dialect) (text : String) (ts : List Token) : Prop where
  /-- The lexemes of the text are those of its tokens, one token after the other. -/
  whole : d.cut text = some (ts.flatMap (Token.lexemes d))
  /-- The lexemes of a token are those of its own spelling. -/
  each : ∀ t ∈ ts, ∃ own, t.render d = .ok own ∧ d.cut own = some (t.lexemes d)

section

variable (hd : (Grammar.of (some d)).escapesWithBackslash = false) {ts us : List Token}

include hd

/-- The text of a sealed sequence is cut into the lexemes of its tokens, up to its end. -/
theorem Sealed.splits (h : Sealed ts) {text : String} (htext : render d ts = .ok text) :
    d.Splits text.toList (ts.flatMap (Token.lexemes d)) [] := by
  -- the first token is cut off if the rest starts with a character that may follow it
  induction ts generalizing text with
  | nil =>
    cases htext
    exact fun _ htail => htail
  | cons t ts ih =>
    obtain ⟨own, hown, htext⟩ := bind_eq_ok.1 htext
    obtain ⟨rest, hrest, htext⟩ := bind_eq_ok.1 htext
    cases htext
    have hreads := Token.reads hd (h.plain t List.mem_cons_self) hown
    have htail : Sealed ts := ⟨fun u hu => h.plain u (List.mem_cons_of_mem t hu), h.chain.tail⟩
    rw [String.toList_append, List.flatMap_cons]
    refine (hreads rest.toList fun c hc => ?_).trans (ih htail hrest)
    cases ts with
    | nil =>
      cases hrest
      exact nomatch hc
    | cons u ts =>
      obtain ⟨next, hnext, hrest⟩ := bind_eq_ok.1 hrest
      obtain ⟨others, -, hrest⟩ := bind_eq_ok.1 hrest
      cases hrest
      -- either anything may follow the token, or the next one starts with a character that may
      rcases Token.follow_of_fits h.chain.rel hnext with hany | ⟨c', cs, hchars, hc'⟩
      · exact hany c
      · rw [String.toList_append, hchars] at hc
        obtain rfl : c' = c := Option.some.inj hc
        exact hc'

/-- A sealed sequence falls into its tokens: no lexeme reaches from one into the next. -/
theorem Sealed.fallsInto (h : Sealed ts) {text : String} (htext : render d ts = .ok text) :
    FallsInto d text ts := by
  refine ⟨(h.splits hd htext).cut_eq, fun t ht => ?_⟩
  obtain ⟨own, hown⟩ := exists_render_of_mem htext t ht
  exact ⟨own, hown, (Token.reads hd (h.plain t ht) hown).cut_eq⟩

end

/-! ## Joining sequences -/

/-- A sequence that may come after any other: it is empty or starts with a break. -/
structure Trailing (ts : List Token) : Prop extends Sealed ts where
  starts : ∀ t ∈ ts.head?, t.breaks = true := by exact of_decide_eq_true rfl

/-- A sequence that may come before any other: it is not empty and ends with an open token. -/
structure Opening (ts : List Token) : Prop extends Sealed ts where
  ends : ∃ t ∈ ts.getLast?, t.isOpen = true := by exact ⟨_, rfl, rfl⟩

/-- A sequence that may stand between any other two. -/
structure Joint (ts : List Token) : Prop extends Trailing ts, Opening ts

section

variable {ts us mid : List Token}

/-- Sealed sequences are joined where the last token of one may stand before the first of the
other. -/
theorem Sealed.append (h : Sealed ts) (h' : Sealed us)
    (hjoint : ∀ t ∈ ts.getLast?, ∀ u ∈ us.head?, (t.isOpen || u.breaks) = true) :
    Sealed (ts ++ us) := by
  refine ⟨List.forall_mem_append.2 ⟨h.plain, h'.plain⟩, h.chain.append h'.chain ?_⟩
  intro t ht u hu
  unfold Token.fits
  split
  · rfl
  · rfl
  · rfl
  · exact hjoint t ht u hu

/-- What starts with a break may come after anything. -/
theorem Sealed.append_trailing (h : Sealed ts) (h' : Trailing us) : Sealed (ts ++ us) :=
  h.append h'.toSealed fun t _ u hu => by rw [h'.starts u hu, Bool.or_true]

/-- What ends with an open token may come before anything. -/
theorem Opening.append (h : Opening ts) (h' : Sealed us) : Sealed (ts ++ us) := by
  obtain ⟨last, hlast, hopen⟩ := h.ends
  refine h.toSealed.append h' fun t ht u _ => ?_
  obtain rfl : last = t := Option.mem_unique hlast ht
  rw [hopen, Bool.true_or]

theorem Opening.parens (h : Opening ts) (h' : Sealed us) : Sealed (ts ++ us ++ [Token.rparen]) :=
  (h.append h').append_trailing {}

theorem Joint.ne_nil (h : Joint mid) : mid ≠ [] := by
  rintro rfl
  obtain ⟨t, ht, -⟩ := h.ends
  exact nomatch ht

/-- Two sequences with a joint between them. -/
theorem Sealed.join (h : Sealed ts) (hmid : Joint mid) (h' : Sealed us) :
    Sealed (ts ++ mid ++ us) := by
  refine Opening.append ⟨h.append_trailing hmid.toTrailing, ?_⟩ h'
  rw [List.getLast?_append_of_ne_nil ts hmid.ne_nil]
  exact hmid.ends

theorem Trailing.append (h : Trailing ts) (h' : Trailing us) : Trailing (ts ++ us) := by
  refine ⟨h.append_trailing h', ?_⟩
  cases ts with
  | nil => exact h'.starts
  | cons t ts => exact h.starts

/-- A clause: some fixed tokens and what they announce. -/
theorem Joint.append (hmid : Joint mid) (h : Sealed us) : Trailing (mid ++ us) := by
  refine ⟨hmid.toOpening.append h, fun t ht => hmid.starts t ?_⟩
  rwa [List.head?_append_of_ne_nil mid hmid.ne_nil] at ht

end

/-- A list is sealed if its items are and a joint separates them. -/
theorem sealed_separated {sep : List Token} (hsep : Joint sep) {tss : List (List Token)}
    (h : ∀ ts ∈ tss, Sealed ts) : Sealed (separated sep tss) := by
  induction tss with
  | nil => exact {}
  | cons ts tss ih =>
    obtain ⟨hts, htss⟩ := List.forall_mem_cons.1 h
    cases tss with
    | nil => exact hts
    | cons ts' tss => exact hts.join hsep (ih htss)

theorem joint_commaSpace : Joint commaSpace := {}

theorem trailing_aliasTokens (asName : Option String) : Trailing (aliasTokens asName) := by
  cases asName <;> exact {}

/-- The page window of every dialect is sealed. -/
theorem sealed_pageClause (d : Dialect) (limit offset : Option Nat) :
    Sealed (pageClause d limit offset) := by
  cases d <;> cases limit <;> cases offset <;> exact {}

/-! ## Expressions and queries -/

/-- A part that is spelled in words of the language: function names are written in upper case. -/
def Atom.IsPlain : Atom → Prop
  | .literal _ => True
  | .function name => isWord (Text.upper name) = true
  | .type text => ∃ d type, text = typeName d type
  | .scan name => isWord name = true
  | .raw _ => False

section

variable (d : Dialect)

-- The parts of a tree never meet directly: between any two of them stands a joint, and what is left
-- out in the middle leaves a trailing sequence next to another one.
mutual

/-- An expression whose atoms are plain is written as a sealed sequence. The induction is on the
tree; the fixed tokens around its parts are joints. -/
theorem Expr.sealed_tokens (e : Expr) (h : ∀ a ∈ e.atoms, a.IsPlain) : Sealed (e.tokens d) := by
  cases e with
  | column table name => cases table <;> exact {}
  | star table => cases table <;> exact {}
  | raw sql => exact (h _ List.mem_cons_self).elim
  | literal l => cases l <;> exact {}
  | binary left op right =>
    obtain ⟨hleft, hright⟩ := List.forall_mem_append.1 h
    have hleft := left.sealed_tokens hleft
    have hright := right.sealed_tokens hright
    have hop : Joint [.space, op.token, .space] := by cases op <;> exact {}
    rw [Expr.tokens]
    split_ifs
    -- without an operator the operands are arguments of a call
    · have hconcat : isWord (Text.upper "CONCAT") = true := isWord_upper (by decide) (by decide)
      have hopening : Opening [.functionName "CONCAT", .lparen] :=
        { plain := List.forall_mem_cons.2 ⟨hconcat, isPlain_of_isFixed rfl⟩ }
      exact ((hopening.append hleft).join joint_commaSpace hright).append_trailing {}
    · exact hleft.join hop hright
  | function name args =>
    obtain ⟨hname, hargs⟩ := List.forall_mem_cons.1 h
    have hargs := sealed_separated joint_commaSpace (sealed_exprTokens args hargs)
    have hopening : Opening [.functionName name, .lparen] :=
      { plain := List.forall_mem_cons.2 ⟨hname, isPlain_of_isFixed rfl⟩ }
    exact hopening.parens hargs
  | cast operand type =>
    obtain ⟨hoperand, htype⟩ := List.forall_mem_append.1 h
    have hopening : Opening [.cast, .lparen] := {}
    -- the name of the type is the one raw token of an expression
    have hplain : ∀ t ∈ [Token.space, .as, .space] ++ [Token.raw type, .rparen], Token.IsPlain t :=
      List.forall_mem_append.2 ⟨isPlain_of_isFixed rfl,
        List.forall_mem_cons.2 ⟨.inr (htype _ List.mem_cons_self), isPlain_of_isFixed rfl⟩⟩
    have hclosing : Trailing [.space, .as, .space, .raw type, .rparen] := { plain := hplain }
    exact (hopening.append (operand.sealed_tokens hoperand)).append_trailing hclosing
  | case branches otherwise =>
    obtain ⟨hbranches, hotherwise⟩ := List.forall_mem_append.1 h
    have hopening : Sealed [.case] := {}
    exact ((hopening.append_trailing (trailing_branchTokens branches hbranches)).append_trailing
      (trailing_otherwiseTokens otherwise hotherwise)).append_trailing {}
  | inSubquery operand query negated =>
    obtain ⟨hoperand, hquery⟩ := List.forall_mem_append.1 h
    have hnot : Trailing (if negated then [Token.space, .not] else []) := by cases negated <;> exact {}
    have hin : Joint [.space, .inKw, .space, .lparen] := {}
    exact (((operand.sealed_tokens hoperand).append_trailing hnot).join hin
      (query.sealed_tokens hquery)).append_trailing {}
  | between operand low high negated =>
    obtain ⟨h, hhigh⟩ := List.forall_mem_append.1 h
    obtain ⟨hoperand, hlow⟩ := List.forall_mem_append.1 h
    have hnot : Trailing (if negated then [Token.space, .not] else []) := by cases negated <;> exact {}
    have hbetween : Joint [.space, .between, .space] := {}
    have hand : Joint [.space, .and, .space] := {}
    exact (((operand.sealed_tokens hoperand).append_trailing hnot).join hbetween
      (low.sealed_tokens hlow)).join hand (high.sealed_tokens hhigh)
  | paren inner =>
    have hopening : Opening [.lparen] := {}
    exact hopening.parens (inner.sealed_tokens h)
  | overAll function => exact (function.sealed_tokens h).append_trailing {}

theorem sealed_exprTokens (es : List Expr) (h : ∀ a ∈ listAtoms es, a.IsPlain) :
    ∀ ts ∈ exprTokens d es, Sealed ts := by
  cases es with
  | nil => exact fun ts hts => nomatch hts
  | cons e es =>
    obtain ⟨he, hes⟩ := List.forall_mem_append.1 h
    exact List.forall_mem_cons.2 ⟨e.sealed_tokens he, sealed_exprTokens es hes⟩

theorem trailing_branchTokens (bs : List (Expr × Expr)) (h : ∀ a ∈ branchAtoms bs, a.IsPlain) :
    Trailing (branchTokens d bs) := by
  match bs with
  | [] => exact {}
  | (test, value) :: bs =>
    obtain ⟨h, hbs⟩ := List.forall_mem_append.1 h
    obtain ⟨htest, hvalue⟩ := List.forall_mem_append.1 h
    have hwhen : Joint [.space, .when, .space] := {}
    have hthen : Joint [.space, .thenKw, .space] := {}
    have htest := hwhen.append (test.sealed_tokens htest)
    have hvalue := hthen.append (value.sealed_tokens hvalue)
    have hall := (htest.append hvalue).append (trailing_branchTokens bs hbs)
    rwa [← List.append_assoc] at hall

theorem trailing_otherwiseTokens (e : Option Expr) (h : ∀ a ∈ otherwiseAtoms e, a.IsPlain) :
    Trailing (otherwiseTokens d e) := by
  cases e with
  | none => exact {}
  | some e =>
    have helse : Joint [.space, .elseKw, .space] := {}
    exact helse.append (e.sealed_tokens h)

theorem sealed_selectTokens (items : List (Expr × Option String))
    (h : ∀ a ∈ selectAtoms items, a.IsPlain) : ∀ ts ∈ selectTokens d items, Sealed ts := by
  match items with
  | [] => exact fun ts hts => nomatch hts
  | (e, asName) :: items =>
    obtain ⟨he, hitems⟩ := List.forall_mem_append.1 h
    exact List.forall_mem_cons.2
      ⟨(e.sealed_tokens he).append_trailing (trailing_aliasTokens asName),
        sealed_selectTokens items hitems⟩

theorem trailing_joinTokens (js : List (TableRef × Expr)) (h : ∀ a ∈ joinAtoms js, a.IsPlain) :
    Trailing (joinTokens d js) := by
  match js with
  | [] => exact {}
  | (table, condition) :: js =>
    obtain ⟨hcondition, hjs⟩ := List.forall_mem_append.1 h
    have hjoin : Joint [.newline, .inner, .space, .join, .space,
      .qualifiedIdent table.qualifier table.table, .space, .on, .space] := {}
    exact (hjoin.append (condition.sealed_tokens hcondition)).append (trailing_joinTokens js hjs)

theorem sealed_sortTokens (keys : List (Expr × Option SortDirection))
    (h : ∀ a ∈ sortAtoms keys, a.IsPlain) : ∀ ts ∈ sortTokens d keys, Sealed ts := by
  match keys with
  | [] => exact fun ts hts => nomatch hts
  | (e, dir) :: keys =>
    obtain ⟨he, hkeys⟩ := List.forall_mem_append.1 h
    have hdir : Trailing (dir.elim [] fun dir => [.space, dir.token]) := by
      rcases dir with _ | _ | _ <;> exact {}
    exact List.forall_mem_cons.2
      ⟨(e.sealed_tokens he).append_trailing hdir, sealed_sortTokens keys hkeys⟩

theorem trailing_sourceTokens (t : Option TableExpr) (h : ∀ a ∈ sourceAtoms t, a.IsPlain) :
    Trailing (sourceTokens d t) := by
  cases t with
  | none => exact {}
  | some t =>
    have hfrom : Joint [.newline, .fromKw, .space] := {}
    exact hfrom.append (t.sealed_tokens h)

/-- A query whose atoms are plain is written as a sealed sequence. -/
theorem Query.sealed_tokens (q : Query) (h : ∀ a ∈ q.atoms, a.IsPlain) : Sealed (q.tokens d) := by
  obtain ⟨select, distinct, source, joins, groupBy, orderBy, page⟩ := q
  obtain ⟨h, horder⟩ := List.forall_mem_append.1 h
  obtain ⟨h, hgroup⟩ := List.forall_mem_append.1 h
  obtain ⟨h, hjoins⟩ := List.forall_mem_append.1 h
  obtain ⟨hselect, hsource⟩ := List.forall_mem_append.1 h
  have hseparator : Joint [.comma, .newline, .indent 1] := {}
  have hitems := sealed_separated hseparator (sealed_selectTokens select hselect)
  have hgroups := sealed_separated joint_commaSpace (sealed_exprTokens groupBy hgroup)
  have hkeys := sealed_separated joint_commaSpace (sealed_sortTokens orderBy horder)
  have hopening : Sealed ([Token.select] ++ (if distinct then [Token.space, .distinct] else [])) := by
    cases distinct <;> exact {}
  -- each clause after the first word starts with a break, so it may come after any other
  have hlist : Trailing ((if select.isEmpty then [] else [Token.newline, .indent 1]) ++
      separated [.comma, .newline, .indent 1] (selectTokens d select)) := by
    cases select with
    | nil => exact {}
    | cons item items =>
      have hindent : Joint [.newline, .indent 1] := {}
      exact hindent.append hitems
  have hgroupBy : Trailing (if groupBy.isEmpty then []
      else [Token.newline, .groupBy, .space] ++ separated commaSpace (exprTokens d groupBy)) := by
    split_ifs
    · exact {}
    · have hgroup : Joint [.newline, .groupBy, .space] := {}
      exact hgroup.append hgroups
  have horderBy : Trailing (if !orderBy.isEmpty then
      [Token.newline, .orderBy, .space] ++ separated commaSpace (sortTokens d orderBy)
      else if d.orderedOffset && page.isSome then placeholderOrder else []) := by
    split_ifs
    · have horder : Joint [.newline, .orderBy, .space] := {}
      exact horder.append hkeys
    · exact {}
    · exact {}
  have hpage : Trailing
      (page.elim [] fun (limit, offset) => .newline :: pageClause d limit offset) := by
    rcases page with _ | ⟨limit, offset⟩
    · exact {}
    · have hnewline : Joint [.newline] := {}
      exact hnewline.append (sealed_pageClause d limit offset)
  have hhead := hopening.append_trailing hlist
  rw [← List.append_assoc] at hhead
  exact ((((hhead.append_trailing (trailing_sourceTokens source hsource)).append_trailing
    (trailing_joinTokens joins hjoins)).append_trailing hgroupBy).append_trailing
      horderBy).append_trailing hpage

theorem TableExpr.sealed_tokens (t : TableExpr) (h : ∀ a ∈ t.atoms, a.IsPlain) :
    Sealed (t.tokens d) := by
  cases t with
  | table ref => exact {}
  | call name args asName =>
    obtain ⟨hname, hargs⟩ := List.forall_mem_cons.1 h
    have hargs := sealed_separated joint_commaSpace (sealed_exprTokens args hargs)
    have hopening : Opening [.raw name, .lparen] :=
      { plain := List.forall_mem_cons.2 ⟨.inl hname, isPlain_of_isFixed rfl⟩ }
    exact (hopening.parens hargs).append_trailing (trailing_aliasTokens asName)
  | subquery query asName =>
    have hopening : Opening [.lparen] := {}
    exact (hopening.parens (query.sealed_tokens h)).append_trailing
      (trailing_aliasTokens (some asName))

end

end

/-- Where strings have no backslash escapes, the text of an expression or a query falls into the
lexemes of its tokens: no name and no string runs on, and no two tokens become another lexeme or a
comment. -/
theorem sql_fallsInto (hd : (Grammar.of (some d)).escapesWithBackslash = false) :
    (∀ (e : Expr) (text : String), (∀ a ∈ e.atoms, a.IsPlain) → e.sql d = .ok text →
      FallsInto d text (e.tokens d)) ∧
    ∀ (q : Query) (text : String), (∀ a ∈ q.atoms, a.IsPlain) → q.sql d = .ok text →
      FallsInto d text (q.tokens d) :=
  ⟨fun e _ h htext => (e.sealed_tokens d h).fallsInto hd htext,
    fun q _ h htext => (q.sealed_tokens d h).fallsInto hd htext⟩

/-- What looks like the end of a name, of a string or like a comment is none. -/
theorem sql_fallsInto_comment :
    Dialect.tsql.cut "UPPER([t].[a]]--]) + N'é''/*'" =
        some [bareWord "UPPER", .symbol "(", quotedWord '[' "t", .symbol ".", quotedWord '[' "a]--",
          .symbol ")", .symbol "+", .literal (.marked .national .single false "é'/*")] ∧
      Dialect.postgres.cut "SELECT\n  \"a\"\"\" - -1\nFROM \"t\"" =
        some [bareWord "SELECT", quotedWord '"' "a\"", .symbol "-", .symbol "-",
          .literal (.number "1" false), bareWord "FROM", quotedWord '"' "t"] := by
  constructor
  · have hplain : ∀ a ∈ (Expr.binary (.function "upper" [.column (some "t") "a]--"]) .concat
        (.str "é'/*")).atoms, a.IsPlain := by
      have hupper : isWord (Text.upper "upper") = true := isWord_upper (by decide) (by decide)
      simp [Expr.atoms, listAtoms, Expr.str, Atom.IsPlain, hupper]
    rw [((sql_fallsInto rfl).1 _ _ hplain rfl).whole]
    rfl
  · have hplain : ∀ a ∈ (Query.ofSource [(.binary (.col "a\"") .minus (.int (-1)), none)]
        (.table ⟨none, "t"⟩) []).atoms, a.IsPlain := by
      simp [Query.ofSource, Query.atoms, selectAtoms, Expr.atoms, Expr.col, Expr.int, sourceAtoms,
        TableExpr.atoms, joinAtoms, listAtoms, sortAtoms, Atom.IsPlain]
    rw [((sql_fallsInto rfl).2 _ _ hplain rfl).whole]
    rfl

end DatasetSql.Emit
