import DatasetSql.Compile.Query
import DatasetSql.Proofs.Checked
import DatasetSql.Proofs.Names
import DatasetSql.Proofs.Search
import DatasetSql.Proofs.Spelling
import Mathlib

/-!
# What the text of a page window says

A page window is the last line of a query. The word after `LIMIT`, after `FETCH NEXT` or after
`FETCH FIRST` says how many rows are taken, and the word after `OFFSET` how many are left out. Counts
are unsigned words of 64 bits, which are written as signed ones: those of the upper half are written as
negative numbers, and all others are read back as they are.
-/

namespace DatasetSql

open Emit Numeric

namespace Text

/-! ## Words of a text -/

/-- The words that a text is joined of, with a blank between neighbours, are its words. -/
theorem words_joined {ws : List String} (h : ∀ w ∈ ws, IsWord w.toList) :
    words (joined " " ws) = ws := by
  rw [words_eq_iff]
  induction ws with
  | nil => exact .nil
  | cons w ws ih =>
    obtain ⟨hw, hws⟩ := List.forall_mem_cons.1 h
    cases ws with
    | nil =>
      rw [joined_singleton]
      exact .single hw
    | cons w' ws =>
      rw [joined_cons_cons]
      exact .word hw rfl (.blank rfl (ih hws))

/-- Words that are joined by blanks stand on one line. -/
theorem newline_notMem_joined {ws : List String} (h : ∀ w ∈ ws, IsWord w.toList) :
    '\n' ∉ (joined " " ws).toList := by
  have hword {w : String} (hw : IsWord w.toList) : '\n' ∉ w.toList := fun hmem =>
    Bool.noConfusion ((hw.2 _ hmem).symm.trans (show isBlank '\n' = true by decide))
  induction ws with
  | nil => exact List.not_mem_nil
  | cons w ws ih =>
    obtain ⟨hw, hws⟩ := List.forall_mem_cons.1 h
    cases ws with
    | nil =>
      rw [joined_singleton]
      exact hword hw
    | cons w' ws =>
      rw [joined_cons_cons, List.mem_append, List.mem_append, not_or, not_or]
      exact ⟨hword hw, by decide, ih hws⟩

/-- The last line of a text. -/
def lastLine (s : String) : String :=
  String.ofList (s.toList.reverse.takeWhile (· != '\n')).reverse

theorem lastLine_eq_self {line : String} (h : '\n' ∉ line.toList) : lastLine line = line := by
  have hall : ∀ c ∈ line.toList.reverse, (c != '\n') = true := bne_of_notMem (by simpa using h)
  rw [lastLine, List.takeWhile_eq_self_iff.2 hall, List.reverse_reverse, String.ofList_toList]

/-- The last line starts behind the last line break. -/
theorem lastLine_append (before : String) {line : String} (h : '\n' ∉ line.toList) :
    lastLine (before ++ "\n" ++ line) = line := by
  have hchars : (before ++ "\n" ++ line).toList.reverse =
      line.toList.reverse ++ '\n' :: before.toList.reverse := by simp
  rw [lastLine, hchars, List.takeWhile_append_of_pos, List.takeWhile_cons_of_neg (by decide),
    List.append_nil, List.reverse_reverse, String.ofList_toList]
  exact bne_of_notMem (by simpa using h)

end Text

/-! ## Reading a page window -/

namespace Emit

/-- The word after the first of some keywords. -/
def wordAfter (keys : List String) : List String → Option String
  | key :: word :: words => if key ∈ keys then some word else wordAfter keys (word :: words)
  | _ => none

/-- What a page window says: a part that is there says an unsigned number, unless it cannot be read as
one. -/
structure PageText where
  limit : Option (Option Nat)
  offset : Option (Option Nat)
deriving DecidableEq, Repr

/-- Reads a page window on the last line of a text. -/
def PageText.read (text : String) : PageText :=
  let words := Text.words (Text.lastLine text)
  { limit := (wordAfter ["LIMIT", "NEXT", "FIRST"] words).map String.toNat?
    offset := (wordAfter ["OFFSET"] words).map String.toNat? }

/-- The word that a count is written as. -/
def countText (n : Nat) : String := toString (Int.bmod n wordCount)

/-- The number that a written count is read back as. -/
def readBack? (n : Nat) : Option Nat := if n < signedBound then some n else none

section Count

variable (n : Nat)

/-- A count is written in digits, perhaps with a minus before them. -/
theorem toList_countText : ∃ m : Nat, (countText n).toList = (toString m).toList ∨
    (countText n).toList = '-' :: (toString m).toList := by
  unfold countText
  cases Int.bmod n wordCount with
  | ofNat m => exact ⟨m, .inl rfl⟩
  | negSucc m =>
    refine ⟨m + 1, .inr ?_⟩
    show ("-" ++ toString (m + 1)).toList = '-' :: (toString (m + 1)).toList
    rw [String.toList_append]
    rfl

/-- A count has only digits and a minus. -/
theorem mem_countText {c : Char} (hc : c ∈ (countText n).toList) : c = '-' ∨ c.isDigit = true := by
  obtain ⟨m, hchars | hchars⟩ := toList_countText n
  · rw [hchars] at hc
    exact .inr (Dialect.digits_toString m c hc)
  · rw [hchars, List.mem_cons] at hc
    exact hc.imp_right (Dialect.digits_toString m c)

/-- A count is one word. -/
theorem isWord_countText : Text.IsWord (countText n).toList := by
  constructor
  · obtain ⟨m, hchars | hchars⟩ := toList_countText n
    · rw [hchars]
      exact Dialect.toString_ne_nil m
    · rw [hchars]
      exact List.cons_ne_nil _ _
  · intro c hc
    rcases mem_countText n hc with rfl | hdigit
    · decide
    · rcases Dialect.digit_cases hdigit with rfl | rfl | rfl | rfl | rfl | rfl | rfl | rfl | rfl | rfl <;>
        decide

/-- No keyword is a count. -/
theorem countText_ne {key : String} (hkey : 'T' ∈ key.toList) : countText n ≠ key := by
  rintro rfl
  rcases mem_countText n hkey with h | h
  · exact absurd h (by decide)
  · exact absurd h (by decide)

variable {n}

theorem bmod_wordCount_of_lt (h : n < signedBound) : Int.bmod n wordCount = n := by
  have hbound : signedBound = 9223372036854775808 := rfl
  have hword : wordCount = 18446744073709551616 := rfl
  rw [hword, Int.bmod_def]
  omega

theorem bmod_wordCount_neg (h : signedBound ≤ n) (hn : n < wordCount) : Int.bmod n wordCount < 0 := by
  have hbound : signedBound = 9223372036854775808 := rfl
  have hword : wordCount = 18446744073709551616 := rfl
  rw [hword, Int.bmod_def]
  omega

/-- A count is read back if it is a signed word; otherwise it is written as a negative number. -/
theorem toNat?_countText (h : n < wordCount) : (countText n).toNat? = readBack? n := by
  unfold countText readBack?
  split_ifs with hsmall
  · rw [bmod_wordCount_of_lt hsmall, Int.toString_eq_repr]
    exact Nat.toNat?_repr n
  · obtain ⟨m, hm⟩ := Int.eq_negSucc_of_lt_zero (bmod_wordCount_neg (not_lt.1 hsmall) h)
    have hminus : '-' ∈ (toString (Int.negSucc m)).toList := by
      show '-' ∈ ("-" ++ toString (m + 1)).toList
      rw [String.toList_append]
      exact List.mem_cons_self
    rw [hm, String.toNat?_eq_none_iff, ← Bool.not_eq_true, String.isNat_iff]
    rintro ⟨-, hdigits, -⟩
    exact absurd (hdigits '-' hminus) (by decide)

end Count

/-! ## The words of a page window -/

/-- The word of a keyword or of an integer. -/
def Token.word : Token → String
  | .litInt n => toString n
  | t => t.keyword

/-- The offset that a dialect writes. -/
def writtenOffset (d : Dialect) (offset : Option Nat) : Option Nat :=
  if d.paging = .offsetFetch then some (offset.getD 0) else offset

/-- The part of a page window that takes rows, without blanks. -/
def takingTokens (d : Dialect) (n : Nat) : List Token :=
  match d.paging with
  | .limit => [.limit, countToken n]
  | .offsetFetch => [.fetch, .next, countToken n, .rows, .only]
  | .fetchFirst => [.fetch, .first, countToken n, .rows, .only]

/-- The part of a page window that leaves rows out, without blanks. -/
def skippingTokens (d : Dialect) (n : Nat) : List Token :=
  if d.paging = .limit then [.offset, countToken n] else [.offset, countToken n, .rows]

/-- A page window without blanks; only `LIMIT` stands before the offset. -/
def pageTokens (d : Dialect) (limit offset : Option Nat) : List Token :=
  let taking := limit.elim [] (takingTokens d)
  let skipping := (writtenOffset d offset).elim [] (skippingTokens d)
  if d.paging = .limit then taking ++ skipping else skipping ++ taking

section

variable (d : Dialect)

/-- Tokens with blanks between them are written as their words. -/
theorem render_intersperse {ts : List Token} (h : ∀ t ∈ ts, t.render d = .ok t.word) :
    render d (ts.intersperse .space) = .ok (Text.joined " " (ts.map Token.word)) := by
  induction ts with
  | nil => rfl
  | cons t ts ih =>
    obtain ⟨ht, hts⟩ := List.forall_mem_cons.1 h
    cases ts with
    | nil =>
      refine bind_eq_ok.2 ⟨t.word, ht, bind_eq_ok.2 ⟨"", rfl, ?_⟩⟩
      simp [Text.joined]
      rfl
    | cons t' ts =>
      have hwords : Text.joined " " ((t :: t' :: ts).map Token.word) =
          t.word ++ (" " ++ Text.joined " " ((t' :: ts).map Token.word)) := by
        simp [Text.joined, String.append_assoc]
      rw [hwords]
      exact bind_eq_ok.2 ⟨t.word, ht, bind_eq_ok.2 ⟨_, bind_eq_ok.2 ⟨" ", rfl, bind_eq_ok.2
        ⟨_, ih hts, rfl⟩⟩, rfl⟩⟩

variable {d} {limit offset : Option Nat}

/-- The window of every dialect is its words with blanks between them. -/
theorem pageClause_eq_intersperse :
    pageClause d limit offset = (pageTokens d limit offset).intersperse .space := by
  unfold pageClause pageTokens writtenOffset takingTokens skippingTokens
  cases d.paging <;> cases limit <;> cases offset <;> rfl

/-- What holds of counts and of the keywords holds of a page window. -/
theorem forall_mem_pageTokens {P : Token → Prop} (hcount : ∀ n, P (countToken n))
    (hkeyword : ∀ t ∈ [Token.limit, .offset, .fetch, .next, .first, .rows, .only], P t) :
    ∀ t ∈ pageTokens d limit offset, P t := by
  simp only [List.forall_mem_cons, List.not_mem_nil, false_imp_iff, implies_true, and_true] at hkeyword
  unfold pageTokens writtenOffset takingTokens skippingTokens
  cases d.paging <;> cases limit <;> cases offset <;> simp [hcount, hkeyword]

theorem word_countToken (n : Nat) : (countToken n).word = countText n := by
  rw [countToken, Token.word, countText]

theorem render_countToken (n : Nat) : (countToken n).render d = .ok (countToken n).word := by
  rw [countToken, Token.render, Token.word]

theorem render_pageClause : render d (pageClause d limit offset) =
    .ok (Text.joined " " ((pageTokens d limit offset).map Token.word)) := by
  rw [pageClause_eq_intersperse]
  refine render_intersperse d (forall_mem_pageTokens render_countToken fun t ht => ?_)
  simp only [List.mem_cons, List.not_mem_nil, or_false] at ht
  rcases ht with rfl | rfl | rfl | rfl | rfl | rfl | rfl <;> rfl

theorem words_of_keywords : Token.limit.word = "LIMIT" ∧ Token.offset.word = "OFFSET" ∧
    Token.fetch.word = "FETCH" ∧ Token.next.word = "NEXT" ∧ Token.first.word = "FIRST" ∧
    Token.rows.word = "ROWS" ∧ Token.only.word = "ONLY" :=
  ⟨rfl, rfl, rfl, rfl, rfl, rfl, rfl⟩

/-- The keywords and counts of a window are words. -/
theorem isWord_of_mem_pageTokens :
    ∀ w ∈ (pageTokens d limit offset).map Token.word, Text.IsWord w.toList := by
  refine List.forall_mem_map.2 (forall_mem_pageTokens (fun n => ?_) ?_)
  · rw [word_countToken]
    exact isWord_countText n
  · simp [words_of_keywords, Text.IsWord, Text.isBlank]

/-- The word after the keyword of the limit is its count, which is never a keyword itself. -/
theorem wordAfter_limit : wordAfter ["LIMIT", "NEXT", "FIRST"]
    ((pageTokens d limit offset).map Token.word) = limit.map countText := by
  have hlimit (n : Nat) : countText n ≠ "LIMIT" := countText_ne n (by decide +kernel)
  have hnext (n : Nat) : countText n ≠ "NEXT" := countText_ne n (by decide +kernel)
  have hfirst (n : Nat) : countText n ≠ "FIRST" := countText_ne n (by decide +kernel)
  unfold pageTokens writtenOffset takingTokens skippingTokens
  cases d.paging <;> cases limit <;> cases offset <;>
    simp [wordAfter, words_of_keywords, word_countToken, hlimit, hnext, hfirst]

/-- The word after `OFFSET` is its count. -/
theorem wordAfter_offset : wordAfter ["OFFSET"] ((pageTokens d limit offset).map Token.word) =
    (writtenOffset d offset).map countText := by
  have hoffset (n : Nat) : countText n ≠ "OFFSET" := countText_ne n (by decide +kernel)
  unfold pageTokens writtenOffset takingTokens skippingTokens
  cases d.paging <;> cases limit <;> cases offset <;>
    simp [wordAfter, words_of_keywords, word_countToken, hoffset]

/-- Counts are read back as they were given exactly if they are signed words. -/
theorem map_readBack?_eq_iff {count : Option Nat} :
    count.map readBack? = count.map some ↔ ∀ n ∈ count, n < signedBound := by
  cases count with
  | none => simp
  | some n => simp [readBack?]

/-- The offset that is written for none is a signed word. -/
theorem forall_mem_writtenOffset :
    (∀ n ∈ writtenOffset d offset, n < signedBound) ↔ ∀ n ∈ offset, n < signedBound := by
  have hzero : 0 < signedBound := by decide
  unfold writtenOffset
  split_ifs
  · cases offset <;> simp [hzero]
  · exact Iff.rfl

/-- The window is read back from the last line of a text. -/
theorem PageText.read_of_lastLine (hlimit : ∀ n ∈ limit, n < wordCount)
    (hoffset : ∀ n ∈ offset, n < wordCount) {text : String}
    (h : Text.lastLine text = Text.joined " " ((pageTokens d limit offset).map Token.word)) :
    PageText.read text = ⟨limit.map readBack?, (writtenOffset d offset).map readBack?⟩ := by
  -- a zero that is put in for a missing offset is small
  have hwritten : ∀ n ∈ writtenOffset d offset, n < wordCount := by
    unfold writtenOffset
    split_ifs
    · intro n hn
      cases Option.some.inj hn
      cases offset with
      | none => decide
      | some m => exact hoffset m rfl
    · exact hoffset
  have hread {count : Option Nat} (hcount : ∀ n ∈ count, n < wordCount) :
      (count.map countText).map String.toNat? = count.map readBack? := by
    rw [Option.map_map]
    exact Option.map_congr fun n hn => toNat?_countText (hcount n hn)
  rw [PageText.read, h, Text.words_joined isWord_of_mem_pageTokens, wordAfter_limit,
    wordAfter_offset]
  rw [hread hlimit, hread hwritten]

theorem lastLine_pageText :
    Text.lastLine (Text.joined " " ((pageTokens d limit offset).map Token.word)) =
      Text.joined " " ((pageTokens d limit offset).map Token.word) :=
  Text.lastLine_eq_self (Text.newline_notMem_joined isWord_of_mem_pageTokens)

/-- The text of two sequences is the text of the first and that of the second. -/
theorem render_append {ts us : List Token} {text : String} (h : render d (ts ++ us) = .ok text) :
    ∃ first rest, render d ts = .ok first ∧ render d us = .ok rest ∧ text = first ++ rest := by
  induction ts generalizing text with
  | nil => exact ⟨"", text, rfl, h, String.empty_append.symm⟩
  | cons t ts ih =>
    obtain ⟨own, hown, h⟩ := bind_eq_ok.1 h
    obtain ⟨whole, hwhole, h⟩ := bind_eq_ok.1 h
    obtain ⟨first, rest, hfirst, hrest, rfl⟩ := ih hwhole
    refine ⟨own ++ first, rest, bind_eq_ok.2 ⟨own, hown, bind_eq_ok.2 ⟨first, hfirst, rfl⟩⟩, hrest, ?_⟩
    cases h
    exact String.append_assoc.symm

/-- The page window of a query. -/
def Query.page : Query → Option (Option Nat × Option Nat)
  | .mk _ _ _ _ _ _ page => page

/-- The page window of a query is the last line of its text. -/
theorem Query.lastLine_of_sql {q : Query} {text : String} (h : q.sql d = .ok text)
    (hpage : q.page = some (limit, offset)) :
    Text.lastLine text = Text.joined " " ((pageTokens d limit offset).map Token.word) := by
  obtain ⟨before, hbefore⟩ :
      ∃ before, q.tokens d = before ++ .newline :: pageClause d limit offset := by
    cases q
    cases hpage
    exact ⟨_, by rw [Query.tokens]; rfl⟩
  rw [Query.sql, hbefore] at h
  obtain ⟨first, rest, -, hrest, rfl⟩ := render_append h
  obtain ⟨newline, hnewline, hrest⟩ := bind_eq_ok.1 hrest
  obtain ⟨clause, hclause, hrest⟩ := bind_eq_ok.1 hrest
  cases hnewline
  rw [render_pageClause] at hclause
  cases hclause
  cases hrest
  rw [← String.append_assoc]
  exact Text.lastLine_append first (Text.newline_notMem_joined isWord_of_mem_pageTokens)

end

end Emit

/-! ## Checked windows -/

namespace Statement

/-- The words behind the order of a checked statement that takes a count of rows. -/
def cappedWords (count : String) : Paging → List String
  | .limit => ["LIMIT", count]
  | .offsetFetch => ["OFFSET", "0", "ROWS", "FETCH", "FIRST", count, "ROWS", "ONLY"]
  | .fetchFirst => ["FETCH", "FIRST", count, "ROWS", "ONLY"]

/-- A query that takes a count of rows and has nothing else behind its order. -/
inductive Query.Capped (count : String) : Paging → Query → Prop
  | limit {recursive ctes body order unit} {e : Expr} (h : e.text = count) :
    Capped count .limit (.mk recursive ctes body order (some e) none unit [] none none "")
  | offsetFetch {recursive ctes body order} {zero e : Expr} (hzero : zero.text = "0")
      (h : e.text = count) :
    Capped count .offsetFetch
      (.mk recursive ctes body order none (some zero) .rows [] (some {}) (some e) "")
  | fetchFirst {recursive ctes body order unit} {e : Expr} (h : e.text = count) :
    Capped count .fetchFirst
      (.mk recursive ctes body order none none unit [] (some {}) (some e) "")

/-- The text of a query in front of its window. -/
def Query.front : Query → String
  | .mk recursive ctes body order .. =>
    (if ctes.isEmpty then ""
      else (if recursive then "WITH RECURSIVE " else "WITH ") ++ Text.joined ", " (cteTexts ctes) ++
        " ") ++
      body.text ++ if order.isEmpty then "" else " ORDER BY " ++ phraseText order

/-- The text of a query that takes a count of rows ends in the words that say so. -/
theorem Query.Capped.text_eq {count : String} {p : Paging} {q : Query} (h : q.Capped count p) :
    q.text = q.front ++ " " ++ Text.joined " " (cappedWords count p) := by
  rw [← String.toList_inj]
  cases h with
  | limit h =>
    simp [Query.text, Query.front, exprText?, optional, phraseText, cappedWords, Text.joined, h]
  | offsetFetch hzero h =>
    simp [Query.text, Query.front, exprText?, optional, phraseText, FetchStyle.text, OffsetUnit.text,
      cappedWords, Text.joined, hzero, h]
  | fetchFirst h =>
    simp [Query.text, Query.front, exprText?, optional, phraseText, FetchStyle.text, cappedWords,
      Text.joined, h]

end Statement

open Statement in
/-- The window of a checked statement says what the line that was checked says: the words differ only in
`FIRST`, which is written for `NEXT`. -/
theorem Emit.PageText.read_cappedWords (d : Dialect) {n : Nat} (hn : n < wordCount) :
    PageText.read (Text.joined " " (cappedWords (countText n) d.paging)) =
      ⟨some (readBack? n), (writtenOffset d none).map readBack?⟩ := by
  have hkeyword : ∀ w ∈ ["LIMIT", "OFFSET", "0", "ROWS", "FETCH", "FIRST", "ONLY"],
      Text.IsWord w.toList := by simp [Text.IsWord, Text.isBlank]
  have hcount := isWord_countText n
  have hword : ∀ w ∈ cappedWords (countText n) d.paging, Text.IsWord w.toList := by
    simp only [List.forall_mem_cons] at hkeyword
    cases d.paging <;> simp [cappedWords, hkeyword, hcount, -String.reduceToList]
  have hoffset : countText n ≠ "OFFSET" := countText_ne n (by decide +kernel)
  have hzero : readBack? 0 = String.toNat? "0" := (Nat.toNat?_repr 0).symm
  rw [PageText.read, Text.lastLine_eq_self (Text.newline_notMem_joined hword),
    Text.words_joined hword, writtenOffset]
  cases d.paging <;>
    simp [cappedWords, wordAfter, hoffset, toNat?_countText hn, hzero]

/-! ## Statements -/

namespace Schema

variable {s : Schema} {d : Dialect} {root : String} {q : Query}

theorem page_of_baseQuery (h : s.baseQuery d root = .ok q) : q.page = none := by
  obtain ⟨source, hsource, h⟩ := bind_eq_ok.1 h
  obtain ⟨items, hitems, h⟩ := bind_eq_ok.1 h
  obtain ⟨groups, hgroups, h⟩ := bind_eq_ok.1 h
  cases h
  rfl

/-- The limit of a schema is the window of its query. -/
theorem page_of_fullQuery {n : Nat} (hlimit : s.limit = some n) (h : s.fullQuery d root = .ok q) :
    q.page = some (some n, none) := by
  obtain ⟨base, hbase, h⟩ := bind_eq_ok.1 h
  have hpage := page_of_baseQuery hbase
  rw [hlimit] at h
  cases h
  cases base
  cases hpage
  rfl

/-- The number of first rows is the window of the preview, whatever limit the schema has. -/
theorem page_of_headQuery {rows : Nat} (h : s.headQuery d root rows = .ok q) :
    q.page = some (some rows, none) := by
  obtain ⟨base, hbase, h⟩ := bind_eq_ok.1 h
  have hpage := page_of_baseQuery hbase
  cases h
  cases base
  cases hpage
  rfl

/-- A statement is handed out exactly if its text is written and passes the check. -/
theorem finish_eq_ok {out : String} : finish d s q = .ok out ↔
    ∃ text, q.sql d = .ok text ∧ checkGenerated text d s.name = .ok out := by
  unfold finish
  cases q.sql d <;> simp

/-- A query is written with a page window that takes some rows, and the statement is checked. If the
check reads that window as the one of the whole statement, the statement that comes out of it ends in
the same window. -/
def WritesPage (d : Dialect) (s : Schema) (query : Except CompileError Query) (n : Nat)
    (out : String) : Prop :=
  let window : PageText := ⟨some (readBack? n), (writtenOffset d none).map readBack?⟩
  ∃ q text, query = .ok q ∧ q.page = some (some n, none) ∧ q.sql d = .ok text ∧
    checkGenerated text d s.name = .ok out ∧ PageText.read text = window ∧
    ∃ t, Statement.parseAll (.of d) text = .ok [t] ∧ out = (Statement.quoteNames d t).text ∧
      ∀ r, Statement.quoteNames d t = .query r → r.Capped (countText n) d.paging →
        ∃ front clause, out = front ++ " " ++ clause ∧ PageText.read clause = window

/-- A query with a window that is handed out writes this window. -/
theorem writesPage {n : Nat} (hn : n < wordCount) (hpage : q.page = some (some n, none))
    {query : Except CompileError Query} (hquery : query = .ok q) {out : String}
    (h : finish d s q = .ok out) : WritesPage d s query n out := by
  obtain ⟨text, htext, hchecked⟩ := finish_eq_ok.1 h
  obtain ⟨t, ht, hout⟩ := checkGenerated_eq_ok_iff.1 hchecked
  have hread := PageText.read_of_lastLine (by simpa using hn) (by simp)
    (Query.lastLine_of_sql htext hpage)
  refine ⟨q, text, hquery, hpage, htext, hchecked, hread, t, ht, hout, fun r hr hcapped => ?_⟩
  refine ⟨r.front, _, ?_, PageText.read_cappedWords d hn⟩
  rw [hout, hr]
  exact hcapped.text_eq

end Schema

open Schema in
/-- For every dialect and all counts that are unsigned words, the page window is written, and each part
of it is there exactly if its count is given, except that a dialect that fetches behind an offset always
writes one. A count is read back if it is a signed word, and not at all otherwise: so the window says
what was given exactly if all counts are signed words. The same is read from the text of every statement
that is generated from a schema with a limit, and of every preview; and it is read at the end of the
statement that is compiled, if the check takes that line for the window of the whole statement. -/
theorem Emit.PageText.read_written (d : Dialect) {limit offset : Option Nat}
    (hlimit : ∀ n ∈ limit, n < wordCount) (hoffset : ∀ n ∈ offset, n < wordCount) (s : Schema)
    (o : CompileOptions) :
    (∃ clause, render d (pageClause d limit offset) = .ok clause ∧
      PageText.read clause = ⟨limit.map readBack?, (writtenOffset d offset).map readBack?⟩ ∧
      (PageText.read clause = ⟨limit.map some, (writtenOffset d offset).map some⟩ ↔
        (∀ n ∈ limit, n < signedBound) ∧ ∀ n ∈ offset, n < signedBound)) ∧
    (∀ n ∈ s.limit, n < wordCount → ∀ out, s.compile o = .ok out →
      WritesPage (o.dialectFor s) s (s.fullQuery (o.dialectFor s) o.datasetRoot) n out) ∧
    ∀ rows, rows.getD o.headRows < wordCount → ∀ out, s.compileHead o rows = .ok out →
      WritesPage (o.dialectFor s) s
        (s.headQuery (o.dialectFor s) o.datasetRoot (rows.getD o.headRows)) (rows.getD o.headRows)
        out := by
  have hread := PageText.read_of_lastLine hlimit hoffset (lastLine_pageText (d := d))
  refine ⟨⟨_, render_pageClause, hread, ?_⟩, fun n hn hword out hout => ?_,
    fun rows hrows out hout => ?_⟩
  -- the zero put in for a missing offset is below the bound
  · rw [hread, PageText.mk.injEq, map_readBack?_eq_iff, map_readBack?_eq_iff,
      forall_mem_writtenOffset]
  · obtain ⟨q, hq, hout⟩ := bind_eq_ok.1 hout
    exact writesPage hword (page_of_fullQuery hn hq) hq hout
  · obtain ⟨q, hq, hout⟩ := bind_eq_ok.1 hout
    exact writesPage hrows (page_of_headQuery hq) hq hout

/-- A file of which ten rows are taken. -/
def tenRows : SchemaDraft :=
  SchemaDraft.make "s" (.file .csv "/data/x.csv") [.limit 10]

open Statement in
/-- A window written behind an offset is read back, and the ten rows of a limit are read at the end of
the statement that is compiled. -/
theorem Emit.PageText.read_written_ten :
    (∃ clause, render .tsql (pageClause .tsql (some 10) none) = .ok clause ∧
      PageText.read clause = ⟨some (some 10), some (some 0)⟩) ∧
    ∃ s text out, tenRows.build = .ok s ∧ s.compile {} = .ok out ∧
      checkGenerated text .duckdb s.name = .ok out ∧ PageText.read text = ⟨some (some 10), none⟩ ∧
      out = "SELECT * FROM read_csv('/data/x.csv') LIMIT 10" ∧
      ∃ front clause, out = front ++ " " ++ clause ∧
        PageText.read clause = ⟨some (some 10), none⟩ := by
  let written := "SELECT\n  *\nFROM read_csv('/data/x.csv')\nLIMIT 10"
  have hrun : tenRows.build.toOption.map (fun s => (s.limit, s.source.dialect,
      (s.fullQuery .duckdb ".").toOption.map fun q => (q.sql .duckdb).toOption,
      (s.compile {}).toOption)) = some (some 10, .duckdb, some (some written),
        some "SELECT * FROM read_csv('/data/x.csv') LIMIT 10") := by
    decide +kernel
  have hlex : lex (.of (some .duckdb)) written =
      some [bareWord "SELECT", .symbol "*", bareWord "FROM", bareWord "read_csv", .symbol "(",
        .literal (.string "/data/x.csv"), .symbol ")", bareWord "LIMIT",
        .literal (.number "10" false)] := by
    decide +kernel
  obtain ⟨s, hs, hfound⟩ := Option.map_eq_some_iff.1 hrun
  rw [toOption_eq_some] at hs
  simp only [Prod.mk.injEq, toOption_eq_some, Option.map_eq_some_iff] at hfound
  obtain ⟨hlimit, hdialect, ⟨q, hq, hsql⟩, hout⟩ := hfound
  have hten : ∀ n ∈ some 10, n < wordCount := fun n hn => by
    rw [← Option.some.inj hn]
    decide
  have hnone : ∀ n ∈ (none : Option Nat), n < wordCount := by simp
  obtain ⟨⟨clause, hclause, hread, -⟩, hcompiled, -⟩ :=
    PageText.read_written .tsql hten hnone s {}
  -- the theorem gives a query and its text; both are those of the run
  have hpage := hcompiled 10 hlimit (by decide) _ hout
  have hfor : CompileOptions.dialectFor {} s = .duckdb := hdialect
  rw [hfor] at hpage
  obtain ⟨q', text, hq', -, hsql', hchecked, hreadText, t, ht, htext, hend⟩ := hpage
  obtain rfl : q = q' := Except.ok.inj (hq.symm.trans hq')
  obtain rfl : written = text := Except.ok.inj (hsql.symm.trans hsql')
  obtain ⟨t', r, ht', hr, hcapped⟩ : ∃ t' r, parseAll (.of (some .duckdb)) written = .ok [t'] ∧
      quoteNames .duckdb t' = .query r ∧ r.Capped (countText 10) .limit :=
    ⟨_, _, (parseAll_of_lex hlex).trans rfl, rfl, .limit rfl⟩
  obtain rfl : t = t' := by simpa using ht.symm.trans ht'
  exact ⟨⟨clause, hclause, hread⟩, s, written, _, hs, hout, hchecked, hreadText, rfl,
    hend r hr hcapped⟩

/-- A file of which more rows are taken than a signed word counts. -/
def manyRows : SchemaDraft :=
  SchemaDraft.make "s" (.file .csv "/data/x.csv") [.limit 9223372036854775808]

/-- A limit that is no signed word is written as a negative number. -/
theorem Emit.PageText.limit_written_negative :
    render .duckdb (pageClause .duckdb (some 9223372036854775808) none) =
      .ok "LIMIT -9223372036854775808" ∧
    PageText.read "LIMIT -9223372036854775808" = ⟨some none, none⟩ ∧
    ∃ s, manyRows.build = .ok s ∧ s.compile {} =
      .ok "SELECT * FROM read_csv('/data/x.csv') LIMIT -9223372036854775808" := by
  refine ⟨by decide +kernel, ?_, ?_⟩
  · have hline : Text.lastLine "LIMIT -9223372036854775808" = Text.joined " "
        ((pageTokens .duckdb (some 9223372036854775808) none).map Token.word) := by decide +kernel
    have hnone : ∀ n ∈ (none : Option Nat), n < wordCount := by simp
    refine PageText.read_of_lastLine (fun n hn => ?_) hnone hline
    rw [← Option.some.inj hn]
    decide
  · have hrun : manyRows.build.toOption.map (fun s => (s.compile {}).toOption) =
        some (some "SELECT * FROM read_csv('/data/x.csv') LIMIT -9223372036854775808") := by
      decide +kernel
    obtain ⟨s, hs, hout⟩ := Option.map_eq_some_iff.1 hrun
    rw [toOption_eq_some] at hs hout
    exact ⟨s, hs, hout⟩

end DatasetSql
