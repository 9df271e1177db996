import Mathlib.Data.List.Forall2
import Mathlib.Data.List.TakeWhile
import DatasetSql.Schema.Basic

/-!
# Words, names and sort keys

Cutting a text into words is described by `Spaced`: words, each followed by a blank or by the end,
with blanks anywhere between them. A sort key is one word or a word and a direction, and is read
back from its own text. The name of a dataset is described by `Cleans`, character by character: it
has at most 64 characters, all of them small letters, digits and underscores, and cleaning it again
changes nothing.
-/

namespace DatasetSql.Text

/-! ## Words -/

/-- At least one character, and none of them blank. -/
def IsWord (w : List Char) : Prop := w ≠ [] ∧ ∀ c ∈ w, isBlank c = false

/-- Whether a text is at its end or goes on with a blank. -/
def AtBlank : List Char → Prop
  | [] => True
  | c :: _ => isBlank c = true

/-- A text in which words stand between blanks. -/
inductive Spaced : List Char → List (List Char) → Prop where
  | nil : Spaced [] []
  | blank {c : Char} {cs : List Char} {ws : List (List Char)} (hc : isBlank c = true)
      (rest : Spaced cs ws) : Spaced (c :: cs) ws
  | word {w cs : List Char} {ws : List (List Char)} (hw : IsWord w) (hcs : AtBlank cs)
      (rest : Spaced cs ws) : Spaced (w ++ cs) (w :: ws)

/-- The word under construction as the first of all words. -/
def closed : List Char × List (List Char) → List (List Char)
  | (word, done) => if word.isEmpty then done else word :: done

/-- The words of a list of characters, the first one apart. -/
def wordsFrom (cs : List Char) : List Char × List (List Char) := cs.foldr wordStep ([], [])

theorem words_eq (s : String) : words s = (closed (wordsFrom s.toList)).map String.ofList := rfl

theorem wordsFrom_blank {c : Char} (hc : isBlank c = true) (cs : List Char) :
    wordsFrom (c :: cs) = ([], closed (wordsFrom cs)) := by
  rw [wordsFrom, List.foldr_cons, ← wordsFrom, wordStep, if_pos hc]
  rfl

/-- At a blank no word is under construction. -/
theorem wordsFrom_atBlank {cs : List Char} (h : AtBlank cs) :
    wordsFrom cs = ([], closed (wordsFrom cs)) := by
  cases cs with
  | nil => rfl
  | cons c cs => rw [wordsFrom_blank h]; rfl

/-- Characters that are no blanks are put in front of the first word. -/
theorem wordsFrom_append {w : List Char} (hw : ∀ c ∈ w, isBlank c = false) (cs : List Char) :
    wordsFrom (w ++ cs) = (w ++ (wordsFrom cs).1, (wordsFrom cs).2) := by
  induction w with
  | nil => rfl
  | cons c w ih =>
    have hc : isBlank c = false := hw c List.mem_cons_self
    have hrest := ih fun x hx => hw x (List.mem_cons_of_mem c hx)
    rw [List.cons_append, wordsFrom, List.foldr_cons, ← wordsFrom, hrest, wordStep, hc]
    rfl

/-- The scan finds the words that blanks keep apart. -/
theorem Spaced.closed_wordsFrom {cs : List Char} {ws : List (List Char)} (h : Spaced cs ws) :
    closed (wordsFrom cs) = ws := by
  induction h with
  | nil => rfl
  | blank hc _ ih =>
    rw [wordsFrom_blank hc]
    exact ih
  | @word w cs ws hw hcs _ ih =>
    rw [wordsFrom_append hw.2, wordsFrom_atBlank hcs, ih, List.append_nil, closed,
      if_neg (by simpa using hw.1)]

/-- A character that is not blank starts a word or becomes the first of one. -/
theorem Spaced.cons_char {c : Char} (hc : isBlank c = false) {cs : List Char}
    {ws : List (List Char)} (h : Spaced cs ws) : ∃ ws', Spaced (c :: cs) ws' := by
  have hword : IsWord [c] := ⟨by simp, by simpa using hc⟩
  cases h with
  | nil => exact ⟨[[c]], .word hword trivial .nil⟩
  | blank hb rest => exact ⟨[c] :: ws, .word hword hb (.blank hb rest)⟩
  | @word w cs ws hw hcs rest =>
    have hlonger : IsWord (c :: w) := ⟨by simp, by simpa using ⟨hc, hw.2⟩⟩
    exact ⟨(c :: w) :: ws, .word hlonger hcs rest⟩

/-- Every text is made of words that blanks keep apart. -/
theorem exists_spaced (cs : List Char) : ∃ ws, Spaced cs ws := by
  induction cs with
  | nil => exact ⟨[], .nil⟩
  | cons c cs ih =>
    obtain ⟨ws, hws⟩ := ih
    cases hc : isBlank c with
    | true => exact ⟨ws, .blank hc hws⟩
    | false => exact hws.cons_char hc

/-- No word is empty or has a blank. -/
theorem Spaced.isWord {cs : List Char} {ws : List (List Char)} (h : Spaced cs ws) :
    ∀ w ∈ ws, IsWord w := by
  induction h with
  | nil => intro w hw; exact nomatch hw
  | blank _ _ ih => exact ih
  | word hw _ _ ih => exact List.forall_mem_cons.2 ⟨hw, ih⟩

theorem Spaced.single {w : List Char} (hw : IsWord w) : Spaced w [w] := by
  have h : Spaced (w ++ []) [w] := .word hw trivial .nil
  rwa [List.append_nil] at h

theorem Spaced.pair {v w : List Char} (hv : IsWord v) (hw : IsWord w) :
    Spaced (v ++ ' ' :: w) [v, w] :=
  .word hv rfl (.blank rfl (.single hw))

/-- A text is cut into exactly the words between its blanks. -/
theorem words_eq_iff {s : String} {ws : List String} :
    words s = ws ↔ Spaced s.toList (ws.map String.toList) := by
  have hback : (ws.map String.toList).map String.ofList = ws := by simp
  obtain ⟨found, hfound⟩ := exists_spaced s.toList
  rw [words_eq]
  constructor
  · rintro rfl
    rw [hfound.closed_wordsFrom]
    simpa using hfound
  · intro h
    rw [h.closed_wordsFrom, hback]

/-! ## Blanks around a text -/

/-- What is left of a text without the blanks around it: `core` stands between blanks, and neither
begins nor ends with one. -/
structure Trims (cs core : List Char) : Prop where
  around : ∃ before after, cs = before ++ (core ++ after) ∧
    (∀ c ∈ before, isBlank c = true) ∧ ∀ c ∈ after, isBlank c = true
  head : ∀ c, core.head? = some c → isBlank c = false
  last : ∀ c, core.getLast? = some c → isBlank c = false

/-- Blanks before a text that does not begin with one are all that is dropped. -/
theorem dropWhile_isBlank_append {before cs : List Char} (hbefore : ∀ c ∈ before, isBlank c = true)
    (hcs : ∀ c, cs.head? = some c → isBlank c = false) :
    (before ++ cs).dropWhile isBlank = cs := by
  rw [List.dropWhile_append_of_pos hbefore]
  cases cs with
  | nil => rfl
  | cons c cs =>
    rw [List.dropWhile_cons_of_neg]
    simp [hcs c rfl]

theorem isBlank_of_head?_dropWhile {cs : List Char} {c : Char}
    (h : (cs.dropWhile isBlank).head? = some c) : isBlank c = false := by
  have hnot := List.head?_dropWhile_not isBlank cs
  rw [h] at hnot
  simpa using hnot

/-- A trimmed text is what stands between the blanks. -/
theorem trims_trimChars (cs : List Char) : Trims cs (trimChars cs) := by
  -- the blanks before go first, those behind are the ones before the reversed rest
  have hfront := List.takeWhile_append_dropWhile (p := isBlank) (l := cs)
  generalize hrest : cs.dropWhile isBlank = rest at hfront
  have hback := List.takeWhile_append_dropWhile (p := isBlank) (l := rest.reverse)
  have htrim : trimChars cs = (rest.reverse.dropWhile isBlank).reverse := by rw [trimChars, hrest]
  have hsplit : trimChars cs ++ (rest.reverse.takeWhile isBlank).reverse = rest := by
    rw [htrim, ← List.reverse_append, hback, List.reverse_reverse]
  refine ⟨⟨cs.takeWhile isBlank, (rest.reverse.takeWhile isBlank).reverse, ?_, ?_, ?_⟩, ?_, ?_⟩
  · rw [hsplit, hfront]
  · exact fun c hc => List.mem_takeWhile_imp hc
  · exact fun c hc => List.mem_takeWhile_imp (List.mem_reverse.1 hc)
  · intro c hc
    have hhead : (cs.dropWhile isBlank).head? = some c := by
      rw [hrest, ← hsplit, List.head?_append, hc]
      rfl
    exact isBlank_of_head?_dropWhile hhead
  · intro c hc
    rw [htrim, List.getLast?_reverse] at hc
    exact isBlank_of_head?_dropWhile hc

/-- Only one text stands between the blanks, and trimming finds it. -/
theorem trimChars_eq_iff {cs core : List Char} : trimChars cs = core ↔ Trims cs core := by
  refine ⟨fun h => h ▸ trims_trimChars cs, ?_⟩
  rintro ⟨⟨before, after, rfl, hbefore, hafter⟩, hhead, hlast⟩
  have hbehind : ∀ c ∈ after.reverse, isBlank c = true := by simpa using hafter
  have hturned : ∀ c, core.reverse.head? = some c → isBlank c = false := by
    simpa [List.head?_reverse] using hlast
  have hrest : (before ++ (core ++ after)).dropWhile isBlank = (core ++ after).dropWhile isBlank :=
    List.dropWhile_append_of_pos hbefore
  rw [trimChars, hrest]
  cases core with
  | nil =>
    rw [List.nil_append, List.dropWhile_eq_nil_iff.2 hafter]
    rfl
  | cons c core =>
    have hc : ¬ isBlank c = true := by simp [hhead c rfl]
    rw [List.cons_append, List.dropWhile_cons_of_neg hc, ← List.cons_append, List.reverse_append,
      dropWhile_isBlank_append hbehind hturned, List.reverse_reverse]

end DatasetSql.Text

namespace DatasetSql

open Text (Spaced)

/-! ## Sort keys -/

namespace SortKey

/-- How a direction may be written. -/
def IsDirection (d : Emit.SortDirection) (word : String) : Prop :=
  match d with
  | .asc => Text.eqIgnoreCase word "asc" = true
  | .desc => Text.eqIgnoreCase word "desc" = true

/-- How a sort key may be written: as one word, or as a word and a direction. -/
inductive Written : SortKey → String → Prop where
  | plain {column entry : String} (h : Spaced entry.toList [column.toList]) :
    Written ⟨column, none⟩ entry
  | directed {column word entry : String} {d : Emit.SortDirection}
      (h : Spaced entry.toList [column.toList, word.toList]) (hd : IsDirection d word) :
    Written ⟨column, some d⟩ entry

/-- A word is read as a direction exactly if it is one up to the case of letters. -/
theorem direction?_eq_some_iff {word : String} {d : Emit.SortDirection} :
    direction? word = some d ↔ IsDirection d word := by
  unfold direction?
  split
  next hasc =>
    -- no word is both directions
    have hdesc : Text.eqIgnoreCase word "desc" = false := by
      have hword := eq_of_beq hasc
      rw [Text.eqIgnoreCase, hword]
      decide
    cases d <;> simp [IsDirection, hasc, hdesc]
  next hasc =>
    split
    next hdesc => cases d <;> simp [IsDirection, hasc, hdesc]
    next hdesc => cases d <;> simp [IsDirection, hasc, hdesc]

/-- An entry is read as a sort key exactly if it is one of the ways to write that key. -/
theorem read?_eq_some_iff {entry : String} {k : SortKey} :
    read? entry = some k ↔ k.Written entry := by
  constructor
  · intro h
    unfold read? at h
    split at h
    next column hwords =>
      cases h
      exact .plain (Text.words_eq_iff.1 hwords)
    next column word hwords =>
      obtain ⟨d, hd, rfl⟩ := Option.map_eq_some_iff.1 h
      exact .directed (Text.words_eq_iff.1 hwords) (direction?_eq_some_iff.1 hd)
    next => exact nomatch h
  · intro h
    cases h with
    | @plain column _ h =>
      have hwords : Text.words entry = [column] := Text.words_eq_iff.2 h
      rw [read?, hwords]
    | @directed column word _ d h hd =>
      have hwords : Text.words entry = [column, word] := Text.words_eq_iff.2 h
      rw [read?, hwords]
      simp [direction?_eq_some_iff.2 hd]

/-- The column of a sort key is a word. -/
theorem Written.isWord {k : SortKey} {entry : String} (h : k.Written entry) :
    Text.IsWord k.column.toList := by
  cases h with
  | plain h => exact h.isWord _ List.mem_cons_self
  | directed h _ => exact h.isWord _ List.mem_cons_self

/-- A column, a blank and a direction are two words. -/
theorem written_directed (word : String) {column text : String} {d : Emit.SortDirection}
    (hcolumn : Text.IsWord column.toList)
    (hword : word.toList.all (fun c => !Text.isBlank c) = true) (hne : word.toList ≠ [])
    (htext : text.toList = ' ' :: word.toList) (hd : IsDirection d word) :
    Written ⟨column, some d⟩ (column ++ text) := by
  have hchars : ∀ c ∈ word.toList, Text.isBlank c = false := by simpa using hword
  have hspaced := Spaced.pair hcolumn ⟨hne, hchars⟩
  rw [← htext, ← String.toList_append] at hspaced
  exact .directed hspaced hd

/-- The text of a sort key is one of the ways to write it. -/
theorem written_text {k : SortKey} (h : Text.IsWord k.column.toList) : k.Written k.text := by
  obtain ⟨column, direction⟩ := k
  match direction with
  | none => exact .plain (.single h)
  | some .asc => exact written_directed "ASC" h rfl nofun rfl rfl
  | some .desc => exact written_directed "DESC" h rfl nofun rfl rfl

end SortKey

/-! ## Names of datasets -/

/-- The characters of names are the small ASCII letters, the digits and the underscore. -/
theorem isNameChar_iff {c : Char} : isNameChar c = true ↔
    (97 ≤ c.toNat ∧ c.toNat ≤ 122) ∨ (48 ≤ c.toNat ∧ c.toNat ≤ 57) ∨ c = '_' := by
  simp only [isNameChar, Bool.or_eq_true, Bool.and_eq_true, decide_eq_true_eq, beq_iff_eq, or_assoc]
  rfl

/-- What may stand in the name of a dataset: a small letter, a digit or an underscore. -/
def InName (c : Char) : Prop := ('a' ≤ c ∧ c ≤ 'z') ∨ ('0' ≤ c ∧ c ≤ '9') ∨ c = '_'

/-- What a character becomes in the name of a dataset: any that may not stand in it is replaced by
an underscore. -/
inductive CleanedChar : Char → Char → Prop where
  | kept {c : Char} (h : InName c) : CleanedChar c c
  | replaced {c : Char} (h : ¬ InName c) : CleanedChar c '_'

/-- The name that a dataset gets: the trimmed text in lower case, its first 64 characters one by
one. -/
def Cleans (name clean : String) : Prop :=
  ∃ core, Text.Trims name.toList core ∧
    List.Forall₂ CleanedChar ((Text.lower (String.ofList core)).toList.take 64) clean.toList

/-- A character is cleaned to itself or to an underscore. -/
theorem cleanedChar_iff {c d : Char} :
    CleanedChar c d ↔ (if isNameChar c then c else '_') = d := by
  have hin : isNameChar c = true ↔ InName c := isNameChar_iff
  constructor
  · rintro (h | h)
    · exact if_pos (hin.2 h)
    · exact if_neg (mt hin.1 h)
  · rintro rfl
    split
    next h => exact .kept (hin.1 h)
    next h => exact .replaced (mt hin.2 h)

/-- Cleaning a name gives the only name that it becomes. -/
theorem cleans_iff {name clean : String} : Cleans name clean ↔ clean = cleanName name := by
  have hpointwise (cs : List Char) : List.Forall₂ CleanedChar cs clean.toList ↔
      cs.map (fun c => if isNameChar c then c else '_') = clean.toList := by
    rw [← List.forall₂_eq_eq_eq, List.forall₂_map_left_iff]
    exact ⟨.imp fun _ _ => cleanedChar_iff.1, .imp fun _ _ => cleanedChar_iff.2⟩
  simp only [Cleans, ← Text.trimChars_eq_iff, exists_eq_left', hpointwise]
  rw [cleanName, Text.trim, maxNameLength, ← List.map_take]
  constructor
  · intro h
    rw [h, String.ofList_toList]
  · rintro rfl
    rw [String.toList_ofList]

/-- A cleaned name has no other characters than those of names. -/
theorem isNameChar_of_mem_cleanName {name : String} {c : Char} (h : c ∈ (cleanName name).toList) :
    isNameChar c = true := by
  rw [cleanName, String.toList_ofList] at h
  obtain ⟨x, -, rfl⟩ := List.mem_map.1 (List.mem_of_mem_take h)
  by_cases hx : isNameChar x = true
  · rwa [if_pos hx]
  · rw [if_neg hx]
    rfl

/-- A cleaned name is no longer than allowed. -/
theorem length_cleanName (name : String) : (cleanName name).length ≤ maxNameLength := by
  rw [cleanName, String.length_ofList]
  exact List.length_take_le _ _

section NameChar

variable {c : Char} (hc : isNameChar c = true)

include hc

theorem isBlank_of_isNameChar : Text.isBlank c = false := by
  rcases isNameChar_iff.1 hc with ⟨hlow, hhigh⟩ | ⟨hlow, hhigh⟩ | rfl
  · simp [Text.isBlank]
    omega
  · simp [Text.isBlank]
    omega
  · decide

theorem toNat_lt_of_isNameChar : c.toNat < 0x80 := by
  rcases isNameChar_iff.1 hc with ⟨-, hhigh⟩ | ⟨-, hhigh⟩ | rfl
  · omega
  · omega
  · decide

theorem toLower_of_isNameChar : c.toLower = c := by
  have hupper : ¬ (65 ≤ c.toNat ∧ c.toNat ≤ 90) := by
    rcases isNameChar_iff.1 hc with ⟨hlow, -⟩ | ⟨-, hhigh⟩ | rfl
    · omega
    · omega
    · decide
  exact dif_neg hupper

end NameChar

/-- A name has no blanks around it. -/
theorem trim_of_isNameChar {name : String} (h : ∀ c ∈ name.toList, isNameChar c = true) :
    Text.trim name = name := by
  have hblank : ∀ c ∈ name.toList, Text.isBlank c = false :=
    fun c hc => isBlank_of_isNameChar (h c hc)
  have htrims : Text.Trims name.toList name.toList :=
    ⟨⟨[], [], by simp, by simp, by simp⟩, fun c hc => hblank c (List.mem_of_mem_head? hc),
      fun c hc => hblank c (List.mem_of_getLast? hc)⟩
  rw [Text.trim, Text.trimChars_eq_iff.2 htrims, String.ofList_toList]

/-- An ASCII text is lower-cased letter by letter. -/
theorem lowerFrom_of_ascii (before : List Char) {cs : List Char} (h : ∀ c ∈ cs, c.toNat < 0x80) :
    Text.lowerFrom before cs = cs.map Char.toLower := by
  induction cs generalizing before with
  | nil => rfl
  | cons c cs ih =>
    obtain ⟨hc, hcs⟩ := List.forall_mem_cons.1 h
    have hsigma : ¬ (c == 'Σ') = true := by
      rw [beq_iff_eq]
      rintro rfl
      exact absurd hc (by decide)
    rw [Text.lowerFrom, ih (c :: before) hcs, if_neg hsigma, Text.lowerChar, if_pos hc]
    rfl

/-- Characters of names are their own lower case. -/
theorem lowerFrom_of_isNameChar (before : List Char) {cs : List Char}
    (h : ∀ c ∈ cs, isNameChar c = true) : Text.lowerFrom before cs = cs := by
  rw [lowerFrom_of_ascii before fun c hc => toNat_lt_of_isNameChar (h c hc),
    List.map_congr_left fun c hc => toLower_of_isNameChar (h c hc), List.map_id']

/-- A name that has nothing to be cleaned stays as it is. -/
theorem cleanName_eq_self {name : String} (hchars : ∀ c ∈ name.toList, isNameChar c = true)
    (hlength : name.length ≤ maxNameLength) : cleanName name = name := by
  have hmap : name.toList.map (fun c => if isNameChar c then c else '_') = name.toList := by
    rw [List.map_congr_left fun c hc => if_pos (hchars c hc), List.map_id']
  rw [cleanName, trim_of_isNameChar hchars, Text.lower, lowerFrom_of_isNameChar [] hchars]
  rw [String.toList_ofList, hmap, List.take_of_length_le, String.ofList_toList]
  rwa [String.length_toList]

/-- Cleaning twice is cleaning once. -/
theorem cleanName_cleanName (name : String) : cleanName (cleanName name) = cleanName name :=
  cleanName_eq_self (fun _ => isNameChar_of_mem_cleanName) (length_cleanName name)

/-- A cleaned name becomes what the name became. -/
theorem cleans_cleanName {name clean : String} :
    Cleans (cleanName name) clean ↔ Cleans name clean := by
  rw [cleans_iff, cleans_iff, cleanName_cleanName]

end DatasetSql
