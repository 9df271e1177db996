import DatasetSql.Proofs.KeyOrder
import DatasetSql.Proofs.Toml.Words

/-!
# Values on one line are read back

What the writer puts on one line is read as a value that is seen as the same data, but for the order
of the keys, which a table does not have. The fuel that the reader needs is bounded by the length of
the text, and the nesting that it allows is that of the value.
-/

namespace DatasetSql

open Json (Data DistinctItems DistinctFields depthItems depthFields orderedItems orderedFields)
open Text (joined_singleton joined_cons_cons)

namespace Json

mutual

/-- All numbers in a value are those of a machine. -/
def Value.Machine : Value → Prop
  | .null | .bool _ | .string _ => True
  | .number n => n.Machine
  | .array xs => MachineItems xs
  | .object es => MachineFields es

/-- All numbers in a list of values are those of a machine. -/
def MachineItems : List Value → Prop
  | [] => True
  | x :: xs => x.Machine ∧ MachineItems xs

/-- All numbers in the values of some fields are those of a machine. -/
def MachineFields : List (String × Value) → Prop
  | [] => True
  | (_, v) :: es => v.Machine ∧ MachineFields es

end

/-- An entry is inserted alike before and after it is seen as data. -/
theorem dataFields_insertEntry (key : String) (v : Value) (es : List (String × Value)) :
    dataFields (insertEntry key v es) = Toml.insertField key v.data (dataFields es) := by
  induction es with
  | nil => rfl
  | cons e es ih =>
    obtain ⟨k, w⟩ := e
    unfold insertEntry
    rw [dataFields, Toml.insertField]
    by_cases h : key < k
    · rw [if_pos h, if_pos (by simpa using h)]
      rfl
    · rw [if_neg h, if_neg (by simpa using h), dataFields, ih]

end Json

namespace Toml

/-! ## Tables -/

/-- An assignment without a path gives an entry its value, but for the order of keys. -/
def Assigns (a : Assignment) (e : String × Json.Value) : Prop :=
  a.path = [] ∧ a.key = e.1 ∧ a.value.data = e.2.ordered.data

/-- Assignments with distinct keys, none of which is there yet, are added one after the other. -/
theorem assignAll_of_nodup {as : List Assignment} {entries : Entries}
    (hpath : ∀ a ∈ as, a.path = [])
    (hnodup : (entries.map (·.1) ++ as.map (·.key)).Nodup) :
    assignAll entries as = some (entries ++ as.map fun a => (a.key, .leaf a.value)) := by
  induction as generalizing entries with
  | nil => simp [assignAll]
  | cons a as ih =>
    obtain ⟨ha, has⟩ := List.forall_mem_cons.1 hpath
    -- a new key is put behind the others
    have hnew : a.key ∉ entries.map (·.1) := by
      intro hmem
      exact (List.nodup_append.1 hnodup).2.2 _ hmem a.key List.mem_cons_self rfl
    have hassign : assign entries a = some (entries ++ [(a.key, .leaf a.value)]) := by
      rw [assign, ha, update, addKey, Json.lookup_of_notMem hnew]
      rfl
    have hrest : (((entries ++ [(a.key, Node.leaf a.value)]).map (·.1)) ++
        as.map (·.key)).Nodup := by
      simpa using hnodup
    have hnext := ih has hrest
    rw [assignAll] at hnext ⊢
    rw [List.foldlM_cons, hassign, Option.bind_eq_bind, Option.bind_some, hnext]
    simp

/-- The entries of a table are seen by key, whatever their order. -/
theorem dataEntries_of_forall₂ {table : Table} {es : List (String × Json.Value)}
    (h : List.Forall₂ (fun t e => t.1 = e.1 ∧ t.2.data = e.2.ordered.data) table es) :
    dataEntries table = Json.dataFields (orderedFields es) := by
  induction h with
  | nil => rfl
  | @cons t e table es he _ ih =>
    obtain ⟨k, v⟩ := t
    obtain ⟨k', v'⟩ := e
    obtain ⟨hkey, hdata⟩ := he
    cases hkey
    rw [dataEntries, orderedFields, Json.dataFields_insertEntry, ih, hdata]

theorem valueEntries_eq_map (entries : Entries) :
    valueEntries entries = entries.map fun e => (e.1, e.2.value) := by
  induction entries with
  | nil => rfl
  | cons e entries ih =>
    obtain ⟨k, n⟩ := e
    rw [valueEntries, ih, List.map_cons]

/-- The entries that assignments make. -/
def leaves (as : List Assignment) : Entries := as.map fun a => (a.key, .leaf a.value)

variable {as : List Assignment} {es : List (String × Json.Value)}

theorem Assigns.keys (h : List.Forall₂ Assigns as es) : as.map (·.key) = es.map (·.1) := by
  induction h with
  | nil => rfl
  | cons ha _ ih => rw [List.map_cons, List.map_cons, ih, ha.2.1]

theorem Assigns.paths (h : List.Forall₂ Assigns as es) : ∀ a ∈ as, a.path = [] := by
  induction h with
  | nil => exact fun _ h => nomatch h
  | cons ha _ ih => exact List.forall_mem_cons.2 ⟨ha.1, ih⟩

/-- Assignments have the values of the entries that they were written for, in the order of their
keys. -/
theorem Assigns.values (h : List.Forall₂ Assigns as es) :
    List.Forall₂ (fun t e => t.1 = e.1 ∧ t.2.data = e.2.ordered.data)
      (valueEntries (leaves as)) es := by
  rw [valueEntries_eq_map, leaves, List.map_map, List.forall₂_map_left_iff]
  exact h.imp fun _ _ ha => ha.2

/-- Assignments with distinct keys make a table with their entries. -/
theorem assignAll_of_assigns (h : List.Forall₂ Assigns as es) (hnodup : (es.map (·.1)).Nodup) :
    assignAll [] as = some (leaves as) := by
  have hkeys : (([] : Entries).map (·.1) ++ as.map (·.key)).Nodup := by
    rw [Assigns.keys h]
    exact hnodup
  exact assignAll_of_nodup (Assigns.paths h) hkeys

/-- Assignments with different keys make the table of their entries. -/
theorem tableOf?_of_assigns (h : List.Forall₂ Assigns as es) (hnodup : (es.map (·.1)).Nodup) :
    ∃ table, tableOf? as = some table ∧
      (Value.table table).data = (Json.Value.object es).ordered.data := by
  refine ⟨valueEntries (leaves as), ?_, ?_⟩
  · rw [tableOf?, assignAll_of_assigns h hnodup]
    rfl
  · exact congrArg Data.record (dataEntries_of_forall₂ (Assigns.values h))

/-! ## First characters -/

/-- Whether a value may start with a character: it is no blank, starts no comment and closes
nothing. -/
def StartsValue (c : Char) : Prop := c ∉ [' ', '\t', '\n', '\r', '#', ']', '\x7d']

theorem startsValue_key {c : Char} (h : StartsKey c) : StartsValue c := by
  intro hmem
  fin_cases hmem <;> exact absurd h (by simp [StartsKey, isKeyChar])

/-- Nothing is skipped before a value. -/
theorem skipLines_of_startsValue {c : Char} (h : StartsValue c) (cs : List Char) :
    skipLines false (c :: cs) = some (c :: cs) := by
  simp only [StartsValue, List.mem_cons, not_or] at h
  rw [skipLines.eq_def]
  split <;> simp_all

theorem stringText_head (s : String) :
    ∃ c cs, (stringText s).toList = c :: cs ∧ (c = '"' ∨ c = '\'') := by
  have hbasic : ∃ cs, (basicText s.toList).toList = '"' :: cs := ⟨_, by simp [basicText]; rfl⟩
  have htriple (newline : Bool) (body : List Char) :
      ∃ cs, (tripleQuoted "\"\"\"" newline body).toList = '"' :: cs :=
    ⟨_, by simp [tripleQuoted]; rfl⟩
  have hsingle (newline : Bool) (body : List Char) :
      ∃ cs, (tripleQuoted "'''" newline body).toList = '\'' :: cs :=
    ⟨_, by simp [tripleQuoted]; rfl⟩
  unfold stringText
  extract_lets
  split_ifs
  · exact ⟨_, _, hbasic.choose_spec, .inl rfl⟩
  · exact ⟨'\'', _, by simp; rfl, .inr rfl⟩
  · exact ⟨_, _, (htriple _ _).choose_spec, .inl rfl⟩
  · exact ⟨_, _, (hsingle _ _).choose_spec, .inr rfl⟩
  · exact ⟨_, _, (htriple _ _).choose_spec, .inl rfl⟩
  · exact ⟨_, _, hbasic.choose_spec, .inl rfl⟩

theorem isWordChar_signText {negative : Bool} {cs : List Char} (h : NumberText cs) :
    ∀ c ∈ signText negative ++ cs, isWordChar c = true := by
  intro c hc
  rcases List.mem_append.1 hc with hmem | hmem
  · cases negative with
    | false => exact nomatch hmem
    | true =>
      rw [List.mem_singleton.1 hmem]
      rfl
  · rcases h.2 c hmem with hdigit | rfl
    · exact isWordChar_digit hdigit
    · rfl

/-- Whether the characters of a value are those of a word. -/
def IsWord (cs : List Char) : Prop := cs ≠ [] ∧ ∀ c ∈ cs, isWordChar c = true

theorem startsValue_word {c : Char} (h : isWordChar c = true) : StartsValue c := by
  intro hmem
  fin_cases hmem <;> exact absurd h (by decide)

/-- A word is read as its value. -/
theorem value?_word {word rest : List Char} {v : Value} (hword : IsWord word)
    (hv : wordValue? word = some v) (hrest : Closes rest) (fuel depth : Nat) :
    value? (fuel + 1) depth (word ++ rest) = some (v, rest) := by
  obtain ⟨hne, hword⟩ := hword
  have hhead {c : Char} {cs : List Char} (hc : isWordChar c = false) : word ++ rest ≠ c :: cs := by
    obtain ⟨d, word, rfl⟩ := List.exists_cons_of_ne_nil hne
    intro heq
    have hd := hword d List.mem_cons_self
    rw [(List.cons.inj heq).1, hc] at hd
    exact nomatch hd
  -- quotes and brackets are not characters of a word
  unfold value?
  split
  · next heq => exact absurd heq (hhead (by decide))
  · next heq => exact absurd heq (hhead (by decide))
  · next heq => exact absurd heq (hhead (by decide))
  · next heq => exact absurd heq (hhead (by decide))
  · rw [splitWord_append hword hrest]
    dsimp only
    rw [hv]
    rfl

theorem isWord_bool (b : Bool) : IsWord (if b then "true" else "false").toList := by
  cases b <;> exact ⟨by decide, List.all_eq_true.1 (by decide)⟩

/-- A number is one word. -/
theorem isWord_signText {negative : Bool} {cs : List Char} (h : NumberText cs) :
    IsWord (signText negative ++ cs) := by
  refine ⟨?_, isWordChar_signText h⟩
  intro hnil
  obtain ⟨c, hc, -⟩ := h.1
  rw [(List.append_eq_nil_iff.1 hnil).2] at hc
  exact nomatch hc

/-- A word starts a value. -/
theorem IsWord.head {cs : List Char} (h : IsWord cs) : ∃ c cs', cs = c :: cs' ∧ StartsValue c := by
  obtain ⟨c, cs, rfl⟩ := List.exists_cons_of_ne_nil h.1
  exact ⟨c, cs, rfl, startsValue_word (h.2 c List.mem_cons_self)⟩

/-- The text of a value starts with a character of its own. -/
theorem inlineText_head {v : Json.Value} (hv : v.Machine) {text : String}
    (h : inlineText? v = some text) : ∃ c cs, text.toList = c :: cs ∧ StartsValue c := by
  cases v with
  | null => exact nomatch h
  | bool b =>
    cases h
    exact (isWord_bool b).head
  | number n =>
    cases h
    obtain ⟨negative, cs, -, htext, hcs, -⟩ := decimal?_numberText hv
    rw [htext]
    exact (isWord_signText hcs).head
  | string s =>
    cases h
    obtain ⟨c, cs, heq, hc⟩ := stringText_head s
    refine ⟨c, cs, heq, ?_⟩
    rcases hc with rfl | rfl <;> simp [StartsValue]
  -- lists and tables start with their bracket
  | array items =>
    obtain ⟨parts, -, hparts⟩ := Option.bind_eq_some_iff.1 h
    cases hparts
    exact ⟨'[', _, by simp; rfl, by simp [StartsValue]⟩
  | object entries =>
    obtain ⟨parts, -, hparts⟩ := Option.bind_eq_some_iff.1 h
    cases hparts
    split_ifs
    · exact ⟨'\x7b', _, rfl, by simp [StartsValue]⟩
    · exact ⟨'\x7b', _, by simp; rfl, by simp [StartsValue]⟩

/-! ## Values -/

/-- Blanks before an item do not matter. -/
theorem items?_blank (fuel depth : Nat) (cs : List Char) :
    items? fuel depth (' ' :: cs) = items? fuel depth cs := by
  cases fuel with
  | zero => rw [items?, items?]
  | succ fuel =>
    rw [items?, items?]
    rfl

theorem inline?_blank (fuel depth : Nat) (cs : List Char) :
    inline? fuel depth (' ' :: cs) = inline? fuel depth cs := by
  cases fuel with
  | zero => rw [inline?, inline?]
  | succ fuel =>
    rw [inline?, inline?]
    rfl

/-- An item is read, and then what comes after it. -/
theorem items?_item {fuel depth : Nat} {c d : Char} {cs rest : List Char} {t : Value}
    (hc : StartsValue c) (h : value? fuel depth (c :: cs) = some (t, d :: rest))
    (hd : d = ',' ∨ d = ']') :
    items? (fuel + 1) depth (c :: cs) =
      if d = ',' then (items? fuel depth rest).map fun r => (t :: r.1, r.2)
      else some ([t], rest) := by
  rw [items?, skipLines_of_startsValue hc, Option.bind_eq_bind, Option.bind_some]
  split
  · next heq =>
    cases heq
    simp [StartsValue] at hc
  · rw [h]
    rcases hd with rfl | rfl
    · show ((items? fuel depth rest).bind fun r => some (t :: r.1, r.2)) = _
      rw [if_pos rfl]
      cases items? fuel depth rest <;> rfl
    · rfl

/-- The text of an entry is read as an assignment once its value is. -/
theorem assignment?_entryText {fuel depth : Nat} {rest : List Char} {v : Json.Value} {text : String}
    {t : Value} (key : String) (hv : v.Machine) (htext : inlineText? v = some text)
    (h : value? fuel depth (text.toList ++ rest) = some (t, rest)) :
    assignment? (fuel + 1) depth ((keyText key ++ " = " ++ text).toList ++ rest) =
      some (⟨[], key, t⟩, rest) := by
  obtain ⟨c, cs, hhead, hc⟩ := inlineText_head hv htext
  have hlist : (keyText key ++ " = " ++ text).toList ++ rest =
      (keyText key).toList ++ ' ' :: '=' :: ' ' :: (text.toList ++ rest) := by simp
  have hkey : key? ((keyText key).toList ++ ' ' :: '=' :: ' ' :: (text.toList ++ rest)) =
      some ([], key, '=' :: ' ' :: (text.toList ++ rest)) := by
    have hends : EndsKey (' ' :: '=' :: ' ' :: (text.toList ++ rest)) := by
      rintro d ⟨⟩
      rfl
    have hpath : pathText ([] ++ [key]) = keyText key := joined_singleton "." (keyText key)
    have hread := @keyFrom?_pathText [] key maxDepth (by decide) _ hends (by simp [skipBlanks])
    rw [hpath] at hread
    exact hread
  -- a value starts with no blank, so only one is skipped
  have hblank : skipBlanks (' ' :: (text.toList ++ rest)) = text.toList ++ rest := by
    have hdrop : skipBlanks (' ' :: (text.toList ++ rest)) = skipBlanks (text.toList ++ rest) :=
      List.dropWhile_cons_of_pos rfl
    simp only [StartsValue, List.mem_cons, not_or] at hc
    rw [hdrop, hhead]
    exact skipBlanks_of_head ⟨by simp [hc], by simp [hc]⟩
  rw [hlist, assignment?, hkey, Option.bind_eq_bind, Option.bind_some]
  show ((value? fuel depth (skipBlanks (' ' :: (text.toList ++ rest)))).bind fun r =>
    some ((⟨[], key, r.1⟩ : Assignment), r.2)) = _
  rw [hblank, h]
  rfl

/-- An entry is read, and then what comes after it. -/
theorem inline?_entry {fuel depth : Nat} {c d : Char} {cs rest rest' : List Char} {a : Assignment}
    (hc : StartsValue c) (h : assignment? fuel depth (c :: cs) = some (a, rest))
    (hrest : skipLines false rest = some (d :: rest')) (hd : d = ',' ∨ d = '\x7d') :
    inline? (fuel + 1) depth (c :: cs) =
      if d = ',' then (inline? fuel depth rest').map fun r => (a :: r.1, r.2)
      else some ([a], rest') := by
  rw [inline?, skipLines_of_startsValue hc, Option.bind_eq_bind, Option.bind_some]
  split
  · next heq =>
    cases heq
    simp [StartsValue] at hc
  · rw [h]
    show ((skipLines false rest).bind _) = _
    rw [hrest]
    rcases hd with rfl | rfl
    · show ((inline? fuel depth rest').bind fun r => some (a :: r.1, r.2)) = _
      rw [if_pos rfl]
      cases inline? fuel depth rest' <;> rfl
    · rfl

/-- The characters that are left give fuel for one more step. -/
theorem exists_fuel {cs : List Char} (hne : cs ≠ []) {fuel : Nat} (h : 2 * cs.length ≤ fuel) :
    ∃ fuel', fuel = fuel' + 1 := by
  have hpos := List.length_pos_iff.2 hne
  exact ⟨fuel - 1, by omega⟩

/-- A quote starts a string value. -/
theorem value?_quoted {c : Char} {cs rest text : List Char} (hc : c = '"' ∨ c = '\'')
    (h : quotedText? (c :: cs) = some (text, rest)) (fuel depth : Nat) :
    value? (fuel + 1) depth (c :: cs) = some (.string (String.ofList text), rest) := by
  rcases hc with rfl | rfl
  · rw [value?, h]
    rfl
  · rw [value?, h]
    rfl

/-- Only an empty array is written without items. -/
theorem eq_nil_of_inlineItems? {xs : List Json.Value} (h : inlineItems? xs = some []) : xs = [] := by
  cases xs with
  | nil => rfl
  | cons x xs =>
    obtain ⟨part, -, h⟩ := Option.bind_eq_some_iff.1 h
    obtain ⟨parts, -, h⟩ := Option.bind_eq_some_iff.1 h
    exact nomatch h

/-- Only an empty table is written without entries. -/
theorem eq_nil_of_inlineEntries? (h : inlineEntries? es = some []) : es = [] := by
  cases es with
  | nil => rfl
  | cons e es =>
    obtain ⟨part, -, h⟩ := Option.bind_eq_some_iff.1 h
    obtain ⟨parts, -, h⟩ := Option.bind_eq_some_iff.1 h
    exact nomatch h

open Json (MachineItems MachineFields)

mutual

/-- A value on one line is read back, but for the order of its keys, whatever closes it. -/
theorem value?_inlineText : ∀ {v : Json.Value} {text : String}, inlineText? v = some text →
    v.DistinctKeys → v.Machine → ∃ t : Value, t.data = v.ordered.data ∧
      ∀ (fuel depth : Nat) (rest : List Char), 2 * text.toList.length ≤ fuel → v.depth ≤ depth →
        Closes rest → value? fuel depth (text.toList ++ rest) = some (t, rest)
  | .null, _, h, _, _ => nomatch h
  | .bool b, _, h, _, _ => by
    cases h
    refine ⟨.boolean b, rfl, ?_⟩
    intro fuel depth rest hfuel _ hrest
    obtain ⟨fuel, rfl⟩ := exists_fuel (isWord_bool b).1 hfuel
    exact value?_word (isWord_bool b) (wordValue?_bool b) hrest fuel depth
  | .number n, _, h, _, hm => by
    cases h
    obtain ⟨negative, cs, t, htext, hcs, hread, hdata⟩ := decimal?_numberText hm
    have hword := @isWord_signText negative cs hcs
    refine ⟨t, hdata, ?_⟩
    intro fuel depth rest hfuel _ hrest
    rw [htext] at hfuel ⊢
    -- words need no more than one step of fuel
    obtain ⟨fuel, rfl⟩ := exists_fuel hword.1 hfuel
    exact value?_word hword ((wordValue?_signText hcs negative).trans hread) hrest fuel depth
  | .string s, _, h, _, _ => by
    cases h
    refine ⟨.string s, rfl, ?_⟩
    intro fuel depth rest hfuel _ hrest
    obtain ⟨c, cs, hhead, hc⟩ := stringText_head s
    have hread := quotedText?_stringText hrest.noQuote s
    rw [hhead] at hfuel hread ⊢
    obtain ⟨fuel, rfl⟩ := exists_fuel (by simp) hfuel
    simpa using value?_quoted hc hread fuel depth
  | .array xs, text, h, hd, hm => by
    obtain ⟨parts, hparts, htext⟩ := Option.bind_eq_some_iff.1 h
    cases htext
    obtain ⟨ts, hdata, hread⟩ := items?_inlineItems hparts hd hm
    refine ⟨.array ts, congrArg Data.list hdata, ?_⟩
    intro fuel depth rest hfuel hdepth _
    obtain ⟨fuel, rfl⟩ := exists_fuel (by simp) hfuel
    obtain ⟨depth, rfl⟩ := Nat.exists_eq_succ_of_ne_zero (Nat.ne_of_gt (Nat.zero_lt_of_lt hdepth))
    have htext : ("[" ++ Text.joined ", " parts ++ "]").toList ++ rest =
        '[' :: ((Text.joined ", " parts).toList ++ ']' :: rest) := by simp
    rw [htext, value?, if_neg (Nat.succ_ne_zero depth), Nat.succ_sub_one,
      hread fuel depth rest (by simp at hfuel ⊢; omega) (Nat.le_of_succ_le_succ hdepth)]
    rfl
  | .object es, text, h, hd, hm => by
    obtain ⟨parts, hparts, htext⟩ := Option.bind_eq_some_iff.1 h
    cases htext
    obtain ⟨as, has, hread⟩ := inline?_inlineEntries hparts hd.2 hm
    obtain ⟨table, htable, hdata⟩ := tableOf?_of_assigns has hd.1
    refine ⟨.table table, hdata, ?_⟩
    intro fuel depth rest hfuel hdepth _
    obtain ⟨depth, rfl⟩ := Nat.exists_eq_succ_of_ne_zero (Nat.ne_of_gt (Nat.zero_lt_of_lt hdepth))
    cases parts with
    | nil =>
      obtain ⟨fuel, rfl⟩ := Nat.exists_eq_add_of_le' (show 2 ≤ fuel from Nat.le_of_add_left_le hfuel)
      cases eq_nil_of_inlineEntries? hparts
      cases has
      cases htable
      show value? (fuel + 2) (depth + 1) ('\x7b' :: '\x7d' :: rest) = _
      rw [value?, if_neg (Nat.succ_ne_zero depth), inline?]
      rfl
    | cons part parts =>
      have htext : ("\x7b " ++ Text.joined ", " (part :: parts) ++ " \x7d").toList ++ rest =
          '\x7b' :: ' ' :: ((Text.joined ", " (part :: parts)).toList ++ ' ' :: '\x7d' :: rest) := by
        simp
      obtain ⟨fuel, rfl⟩ := exists_fuel (by simp) hfuel
      rw [List.isEmpty_cons, if_neg Bool.false_ne_true, htext, value?,
        if_neg (Nat.succ_ne_zero depth), Nat.succ_sub_one, inline?_blank,
        hread fuel depth rest (by simp at hfuel ⊢; omega) (Nat.le_of_succ_le_succ hdepth),
        Option.bind_eq_bind, Option.bind_some]
      dsimp only
      rw [htable]
      rfl

/-- The items of an array on a line are read back. -/
theorem items?_inlineItems : ∀ {xs : List Json.Value} {parts : List String},
    inlineItems? xs = some parts → DistinctItems xs → MachineItems xs →
      ∃ ts : List Value, dataItems ts = Json.dataItems (orderedItems xs) ∧
        ∀ (fuel depth : Nat) (rest : List Char),
          2 * (Text.joined ", " parts).toList.length + 1 ≤ fuel → depthItems xs ≤ depth →
            items? fuel depth ((Text.joined ", " parts).toList ++ ']' :: rest) = some (ts, rest)
  | [], _, h, _, _ => by
    cases h
    refine ⟨[], rfl, ?_⟩
    intro fuel depth rest hfuel _
    obtain ⟨fuel, rfl⟩ := Nat.exists_eq_succ_of_ne_zero (Nat.ne_of_gt (Nat.zero_lt_of_lt hfuel))
    simp [Text.joined, items?, skipLines]
  | x :: xs, _, h, hd, hm => by
    obtain ⟨part, hpart, h⟩ := Option.bind_eq_some_iff.1 h
    obtain ⟨parts, hparts, h⟩ := Option.bind_eq_some_iff.1 h
    cases h
    obtain ⟨t, hdata, hread⟩ := value?_inlineText hpart hd.1 hm.1
    obtain ⟨ts, hdatas, hreads⟩ := items?_inlineItems hparts hd.2 hm.2
    obtain ⟨c, cs, hhead, hc⟩ := inlineText_head hm.1 hpart
    refine ⟨t :: ts, by rw [dataItems, orderedItems, Json.dataItems, hdata, hdatas], ?_⟩
    intro fuel depth rest hfuel hdepth
    obtain ⟨fuel, rfl⟩ := Nat.exists_eq_succ_of_ne_zero (Nat.ne_of_gt (Nat.zero_lt_of_lt hfuel))
    obtain ⟨hx, hxs⟩ := max_le_iff.1 hdepth
    have hfuel := Nat.le_of_succ_le_succ hfuel
    -- behind the last item stands a bracket, behind others a comma and a blank
    cases parts with
    | nil =>
      rw [joined_singleton] at hfuel ⊢
      have hread := hread fuel depth (']' :: rest) hfuel hx (.bracket rest)
      cases eq_nil_of_inlineItems? hparts
      cases ts with
      | cons t' ts => exact nomatch hdatas
      | nil =>
        rw [hhead, List.cons_append] at hread ⊢
        exact (items?_item hc hread (.inr rfl)).trans (if_neg (by decide))
    | cons part' parts =>
      rw [joined_cons_cons] at hfuel ⊢
      simp only [List.length_append] at hfuel
      have hread := hread fuel depth
        (',' :: ' ' :: ((Text.joined ", " (part' :: parts)).toList ++ ']' :: rest)) (by omega)
        hx (.comma _)
      have htext : part.toList ++ (", ".toList ++ (Text.joined ", " (part' :: parts)).toList) ++
          ']' :: rest = part.toList ++
            ',' :: ' ' :: ((Text.joined ", " (part' :: parts)).toList ++ ']' :: rest) := by simp
      rw [htext]
      rw [hhead, List.cons_append] at hread ⊢
      rw [items?_item hc hread (.inl rfl), if_pos rfl, items?_blank,
        hreads fuel depth rest (by simp at hfuel ⊢; omega) hxs]
      rfl

/-- The entries of a table on a line are read back. -/
theorem inline?_inlineEntries : ∀ {es : List (String × Json.Value)} {parts : List String},
    inlineEntries? es = some parts → DistinctFields es → MachineFields es →
      ∃ as, List.Forall₂ Assigns as es ∧
        ∀ (fuel depth : Nat) (rest : List Char),
          2 * (Text.joined ", " parts).toList.length + 1 ≤ fuel → depthFields es ≤ depth →
            inline? fuel depth ((Text.joined ", " parts).toList ++ ' ' :: '\x7d' :: rest) =
              some (as, rest)
  | [], _, h, _, _ => by
    cases h
    refine ⟨[], .nil, ?_⟩
    intro fuel depth rest hfuel _
    obtain ⟨fuel, rfl⟩ := Nat.exists_eq_succ_of_ne_zero (Nat.ne_of_gt (Nat.zero_lt_of_lt hfuel))
    simp [Text.joined, inline?, skipLines]
  | (k, v) :: es, _, h, hd, hm => by
    obtain ⟨text, htext, h⟩ := Option.bind_eq_some_iff.1 h
    obtain ⟨parts, hparts, h⟩ := Option.bind_eq_some_iff.1 h
    cases h
    obtain ⟨t, hdata, hread⟩ := value?_inlineText htext hd.1 hm.1
    obtain ⟨as, has, hreads⟩ := inline?_inlineEntries hparts hd.2 hm.2
    refine ⟨⟨[], k, t⟩ :: as, .cons ⟨rfl, rfl, hdata⟩ has, ?_⟩
    intro fuel depth rest hfuel hdepth
    obtain ⟨hv, hes⟩ := max_le_iff.1 hdepth
    obtain ⟨c, cs, hkey, hc⟩ := keyText_head k
    have hstart (tail : List Char) : (keyText k ++ " = " ++ text).toList ++ tail =
        c :: (cs ++ " = ".toList ++ text.toList ++ tail) := by simp [hkey]
    have hlength : (keyText k ++ " = " ++ text).toList.length =
        (keyText k).toList.length + text.toList.length + 3 := by
      simp
      omega
    -- one step for the table, one for the entry
    obtain ⟨fuel, rfl⟩ : ∃ n, fuel = n + 2 := by
      refine Nat.exists_eq_add_of_le' ?_
      cases parts with
      | nil =>
        rw [joined_singleton] at hfuel
        omega
      | cons part parts =>
        rw [joined_cons_cons, List.length_append] at hfuel
        omega
    cases parts with
    | nil =>
      rw [joined_singleton] at hfuel ⊢
      have hread := hread fuel depth (' ' :: '\x7d' :: rest) (by omega) hv (.brace rest)
      have hread := assignment?_entryText k hm.1 htext hread
      cases eq_nil_of_inlineEntries? hparts
      cases has
      rw [hstart] at hread ⊢
      exact (inline?_entry (startsValue_key hc) hread rfl (.inr rfl)).trans (if_neg (by decide))
    | cons part parts =>
      rw [joined_cons_cons] at hfuel ⊢
      simp only [List.length_append] at hfuel
      have hread := hread fuel depth
        (',' :: ' ' :: ((Text.joined ", " (part :: parts)).toList ++ ' ' :: '\x7d' :: rest))
        (by omega) hv (.comma _)
      have hread := assignment?_entryText k hm.1 htext hread
      have htext : (keyText k ++ " = " ++ text).toList ++
          (", ".toList ++ (Text.joined ", " (part :: parts)).toList) ++ ' ' :: '\x7d' :: rest =
            (keyText k ++ " = " ++ text).toList ++ ',' :: ' ' ::
              ((Text.joined ", " (part :: parts)).toList ++ ' ' :: '\x7d' :: rest) := by simp
      rw [htext]
      rw [hstart] at hread ⊢
      rw [inline?_entry (startsValue_key hc) hread rfl (.inl rfl), if_pos rfl, inline?_blank,
        hreads (fuel + 1) depth rest (by simp at hfuel ⊢; omega) hes]
      rfl

end

end Toml

end DatasetSql
