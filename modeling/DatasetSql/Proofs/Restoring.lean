import DatasetSql.Proofs.Lexing
import DatasetSql.Proofs.Literals
import DatasetSql.Proofs.Outcome
import Mathlib.Data.Bool.AllAny

/-!
# Putting parameter markers back into a text

The inert name is replaced by the target's marker all over the text of a converted statement, string
literals included. A literal stays a literal of its kind, and the words between two literals stay
between them; but what is written in a literal changes where it holds the inert name.
-/

namespace DatasetSql.Text

variable {p r xs ys : List Char}

theorem replaceFrom_cons {c : Char} {s : List Char} (h : ¬ p <+: c :: s) :
    replaceFrom p r 0 (c :: s) = c :: replaceFrom p r 0 s := by
  rw [replaceFrom, if_neg (by simpa using h)]

/-- Replacing in a text is replacing in two parts of it, if no occurrence reaches from the first into
the second. -/
theorem replaceFrom_append_of_apart
    (h : ∀ before after, xs = before ++ after → p <+: after ++ ys → p <+: after) :
    replaceFrom p r 0 (xs ++ ys) = replaceFrom p r 0 xs ++ replaceFrom p r 0 ys := by
  -- characters skipped after an occurrence are counted down, so this is shown for any count
  suffices hskip : ∀ n, n ≤ xs.length →
      replaceFrom p r n (xs ++ ys) = replaceFrom p r n xs ++ replaceFrom p r 0 ys from
    hskip 0 (Nat.zero_le _)
  induction xs with
  | nil =>
    intro n hn
    rw [Nat.le_zero.1 hn, List.nil_append, replaceFrom, List.nil_append]
  | cons x xs ih =>
    have htail : ∀ before after, xs = before ++ after → p <+: after ++ ys → p <+: after :=
      fun before after hxs => h (x :: before) after (by rw [hxs, List.cons_append])
    intro n hn
    cases n with
    | succ n => exact ih htail n (Nat.le_of_succ_le_succ hn)
    | zero =>
      rw [List.cons_append, replaceFrom, replaceFrom]
      by_cases hp : p <+: x :: xs
      · have hall : p <+: x :: (xs ++ ys) := hp.trans (List.prefix_append (x :: xs) ys)
        -- an occurrence inside the first part is skipped inside it
        have hlength : p.length ≤ xs.length + 1 := hp.length_le
        rw [if_pos (List.isPrefixOf_iff_prefix.2 hall), if_pos (List.isPrefixOf_iff_prefix.2 hp),
          ih htail _ (by omega), List.append_assoc]
      · have hall : ¬ p <+: x :: (xs ++ ys) := fun hall => hp (h [] (x :: xs) rfl hall)
        rw [if_neg (by simpa using hall), if_neg (by simpa using hp),
          ih htail 0 (Nat.zero_le _), List.cons_append]

/-- No occurrence goes past a character that the pattern does not have. -/
theorem prefix_of_prefix_append_cons {c : Char} (hc : c ∉ p) (h : p <+: xs ++ c :: ys) :
    p <+: xs := by
  by_cases hlength : p.length ≤ xs.length
  · exact List.prefix_of_prefix_length_le h (List.prefix_append xs _) hlength
  · -- otherwise the character is one of the pattern
    have hxs : xs ++ [c] <+: xs ++ c :: ys := ⟨ys, (List.append_cons xs c ys).symm⟩
    have hshort : (xs ++ [c]).length ≤ p.length := by
      rw [List.length_append, List.length_singleton]
      omega
    have hp := List.prefix_of_prefix_length_le hxs h hshort
    exact absurd (hp.subset (List.mem_append_right xs List.mem_cons_self)) hc

/-- An occurrence that ends in a character ends before a text without this character. -/
theorem prefix_of_prefix_append {z : Char} (hz : z ∉ ys) (h : p ++ [z] <+: xs ++ ys) :
    p ++ [z] <+: xs := by
  by_cases hlength : (p ++ [z]).length ≤ xs.length
  · exact List.prefix_of_prefix_length_le h (List.prefix_append xs ys) hlength
  · obtain ⟨ws, hws⟩ := List.prefix_of_prefix_length_le (List.prefix_append xs ys) h (by omega)
    have hne : ws ≠ [] := by
      rintro rfl
      rw [← hws, List.append_nil] at hlength
      exact hlength le_rfl
    -- what is left of the occurrence ends in the character, too
    have hlast : ws.getLast? = some z := by
      rw [← List.getLast?_append_of_ne_nil xs hne, hws, List.getLast?_append, List.getLast?_singleton]
      rfl
    rw [← hws, List.prefix_append_right_inj] at h
    exact absurd (h.subset (List.mem_of_getLast? hlast)) hz

/-- A character that is not in the pattern keeps the replacements on its two sides apart. -/
theorem replaceFrom_append_cons {c : Char} (hc : c ∉ p) (hp : p ≠ []) (xs ys : List Char) :
    replaceFrom p r 0 (xs ++ c :: ys) = replaceFrom p r 0 xs ++ c :: replaceFrom p r 0 ys := by
  have hhead : ¬ p <+: c :: ys := by
    intro h
    have hnil : p <+: [] := prefix_of_prefix_append_cons hc h
    exact hp (List.prefix_nil.1 hnil)
  rw [replaceFrom_append_of_apart fun _ _ _ h => prefix_of_prefix_append_cons hc h]
  rw [replaceFrom_cons hhead]

end DatasetSql.Text

namespace DatasetSql.Statement

open Text (replaceFrom replaceAll replaceFrom_cons replaceFrom_append_cons
  replaceFrom_append_of_apart)

variable {p r : List Char} {q : Char}

/-! ## Replacing inside quotes -/

/-- Characters that a writer of strings puts down as they are, at least one. -/
structure Unescaped (q : Char) (p : List Char) : Prop where
  nonempty : p ≠ []
  quote : q ∉ p
  backslash : '\\' ∉ p

/-- Of the character before, a writer only asks whether it is a backslash. -/
theorem escapeQuotes_previous {a b : Char} (ha : a ≠ '\\') (hb : b ≠ '\\') (pair : Bool)
    (s : List Char) : escapeQuotes q a pair s = escapeQuotes q b pair s := by
  cases s with
  | nil => rfl
  | cons c s => simp [escapeQuotes, ha, hb]

/-- A pattern without quotes is written as it is, and what follows it is written as at the start. -/
theorem escapeQuotes_unescaped (hp : Unescaped q p) (previous : Char) (pair : Bool)
    (s : List Char) :
    escapeQuotes q previous pair (p ++ s) = p ++ escapeQuotes q '\x00' false s := by
  obtain ⟨hne, hquote, hbackslash⟩ := hp
  induction p generalizing previous pair with
  | nil => exact absurd rfl hne
  | cons c p ih =>
    rw [List.mem_cons, not_or] at hquote hbackslash
    rw [List.cons_append, escapeQuotes_other (Ne.symm hquote.1)]
    cases p with
    | nil =>
      rw [List.nil_append, escapeQuotes_previous (b := '\x00') (Ne.symm hbackslash.1) (by decide)]
      rfl
    | cons d p =>
      rw [ih c false (List.cons_ne_nil d p) hquote.2 hbackslash.2]
      rfl

/-- What begins a written text without quotes begins the text. -/
theorem prefix_of_prefix_escapeQuotes (hquote : q ∉ p) {previous : Char} {s : List Char}
    (h : p <+: escapeQuotes q previous false s) : p <+: s := by
  induction p generalizing previous s with
  | nil => exact List.nil_prefix
  | cons a p ih =>
    rw [List.mem_cons, not_or] at hquote
    cases s with
    | nil => exact absurd (List.prefix_nil.1 h) (List.cons_ne_nil a p)
    | cons c s =>
      by_cases hc : c = q
      · -- a quote is written first
        have hhead : ∃ cs, escapeQuotes q previous false (c :: s) = q :: cs := by
          rw [hc]
          unfold escapeQuotes
          split_ifs with _ _ <;> first | exact ⟨_, rfl⟩ | simp_all
        obtain ⟨cs, hcs⟩ := hhead
        rw [hcs, List.cons_prefix_cons] at h
        exact absurd h.1.symm hquote.1
      · rw [escapeQuotes_other hc, List.cons_prefix_cons] at h
        exact List.cons_prefix_cons.2 ⟨h.1, ih hquote.2 h.2⟩

theorem replaceFrom_cons_of_ne {c : Char} (hp : p ≠ []) (hc : c ∉ p) (s : List Char) :
    replaceFrom p r 0 (c :: s) = c :: replaceFrom p r 0 s :=
  replaceFrom_append_cons hc hp [] s

/-- Replacing in a text between quotes is replacing before it is written. -/
theorem replaceFrom_escapeQuotes (hp : Unescaped q p) (hr : Unescaped q r) (n : Nat) :
    ∀ s : List Char, s.length ≤ n → ∀ (previous : Char) (pair : Bool),
      replaceFrom p r 0 (escapeQuotes q previous pair s) =
        escapeQuotes q previous pair (replaceFrom p r 0 s) := by
  induction n with
  | zero =>
    intro s hs previous pair
    rw [List.eq_nil_of_length_eq_zero (Nat.le_zero.1 hs)]
    rfl
  | succ n ih =>
    intro s hs previous pair
    by_cases hstart : p <+: s
    · obtain ⟨t, rfl⟩ := hstart
      have ht : t.length ≤ n := by
        have hlength := List.length_pos_of_ne_nil hp.nonempty
        rw [List.length_append] at hs
        omega
      rw [escapeQuotes_unescaped hp, Template.replaceFrom_occurrence _ _ hp.nonempty,
        Template.replaceFrom_occurrence _ _ hp.nonempty, escapeQuotes_unescaped hr, ih t ht]
    · cases s with
      | nil => rfl
      | cons c s =>
        have hs' : s.length ≤ n := Nat.le_of_succ_le_succ hs
        rw [replaceFrom_cons hstart]
        by_cases hc : c = q
        · subst hc
          cases pair with
          | true => rw [escapeQuotes_second, escapeQuotes_second, ih s hs']
          | false =>
            by_cases hprevious : previous = '\\'
            · rw [hprevious, escapeQuotes_backslash, escapeQuotes_backslash,
                replaceFrom_cons_of_ne hp.nonempty hp.quote, ih s hs']
            · rw [escapeQuotes_first hprevious, escapeQuotes_first hprevious,
                replaceFrom_cons_of_ne hp.nonempty hp.quote,
                replaceFrom_cons_of_ne hp.nonempty hp.quote, ih s hs']
        · rw [escapeQuotes_other hc, escapeQuotes_other hc, replaceFrom_cons, ih s hs']
          -- an occurrence in what is written would be one in the text
          intro h
          rw [← @escapeQuotes_other q '\x00' c false hc] at h
          exact hstart (prefix_of_prefix_escapeQuotes hp.quote h)

/-- A writer that puts characters down one by one: a character stands for itself, or is written with
one before it that the pattern does not have and others that it does not begin with. -/
structure Encodes (enc : Char → List Char) (p r : List Char) : Prop where
  nonempty : p ≠ []
  pattern : ∀ c ∈ p, enc c = [c]
  replacement : ∀ c ∈ r, enc c = [c]
  others : ∀ c, enc c = [c] ∨ ∃ d w, enc c = d :: w ∧ d ∉ p ∧ ∀ a ∈ p.head?, a ∉ w

section

variable {enc : Char → List Char}

theorem flatMap_self {s : List Char} (h : ∀ c ∈ s, enc c = [c]) : s.flatMap enc = s := by
  induction s with
  | nil => rfl
  | cons c s ih =>
    obtain ⟨hc, hs⟩ := List.forall_mem_cons.1 h
    rw [List.flatMap_cons, hc, ih hs, List.singleton_append]

/-- What begins a written text as it stands begins the text. -/
theorem prefix_of_prefix_flatMap (h : ∀ c, enc c = [c] ∨ ∃ d w, enc c = d :: w ∧ d ∉ p)
    {s : List Char} (hstart : p <+: s.flatMap enc) : p <+: s := by
  induction p generalizing s with
  | nil => exact List.nil_prefix
  | cons a p ih =>
    cases s with
    | nil => exact absurd (List.prefix_nil.1 hstart) (List.cons_ne_nil a p)
    | cons c s =>
      rcases h c with hc | ⟨d, w, hc, hd⟩
      · rw [List.flatMap_cons, hc, List.singleton_append, List.cons_prefix_cons] at hstart
        have hrest : ∀ c, enc c = [c] ∨ ∃ d w, enc c = d :: w ∧ d ∉ p := by
          intro c
          rcases h c with hc | ⟨d, w, hc, hd⟩
          · exact .inl hc
          · exact .inr ⟨d, w, hc, fun hmem => hd (List.mem_cons_of_mem a hmem)⟩
        exact List.cons_prefix_cons.2 ⟨hstart.1, ih hrest hstart.2⟩
      · rw [List.flatMap_cons, hc, List.cons_append, List.cons_prefix_cons] at hstart
        exact absurd (hstart.1 ▸ List.mem_cons_self) hd

/-- Replacing in a text that is written character by character is replacing before it is written. -/
theorem replaceFrom_flatMap (h : Encodes enc p r) (n : Nat) :
    ∀ s : List Char, s.length ≤ n →
      replaceFrom p r 0 (s.flatMap enc) = (replaceFrom p r 0 s).flatMap enc := by
  have hothers : ∀ c, enc c = [c] ∨ ∃ d w, enc c = d :: w ∧ d ∉ p := by
    intro c
    rcases h.others c with hc | ⟨d, w, hc, hd, -⟩
    · exact .inl hc
    · exact .inr ⟨d, w, hc, hd⟩
  induction n with
  | zero =>
    intro s hs
    rw [List.eq_nil_of_length_eq_zero (Nat.le_zero.1 hs)]
    rfl
  | succ n ih =>
    intro s hs
    by_cases hstart : p <+: s
    · obtain ⟨t, rfl⟩ := hstart
      have ht : t.length ≤ n := by
        have hlength := List.length_pos_of_ne_nil h.nonempty
        rw [List.length_append] at hs
        omega
      rw [List.flatMap_append, flatMap_self h.pattern, Template.replaceFrom_occurrence _ _ h.nonempty,
        Template.replaceFrom_occurrence _ _ h.nonempty, List.flatMap_append,
        flatMap_self h.replacement, ih t ht]
    · cases s with
      | nil => rfl
      | cons c s =>
        have hs' : s.length ≤ n := Nat.le_of_succ_le_succ hs
        have hwritten : ¬ p <+: (c :: s).flatMap enc := fun h' =>
          hstart (prefix_of_prefix_flatMap hothers h')
        rw [replaceFrom_cons hstart, List.flatMap_cons, List.flatMap_cons, ← ih s hs']
        rcases h.others c with hc | ⟨d, w, hc, hd, hw⟩
        · rw [List.flatMap_cons, hc] at hwritten
          rw [hc]
          exact replaceFrom_cons hwritten
        · rw [hc]
          apply Template.replaceFrom_append
          -- no occurrence begins where the character is written
          intro before after hsplit hafter hbegins
          obtain ⟨a, p', rfl⟩ := List.exists_cons_of_ne_nil h.nonempty
          obtain ⟨b, after', rfl⟩ := List.exists_cons_of_ne_nil hafter
          rw [List.cons_append, List.cons_prefix_cons] at hbegins
          have hmem : a ∈ d :: w := by
            rw [hsplit, hbegins.1]
            exact List.mem_append_right before List.mem_cons_self
          rcases List.mem_cons.1 hmem with rfl | hmem
          · exact hd List.mem_cons_self
          · exact hw a rfl hmem

end

/-! ## Replacing around quotes -/

/-- A text that no occurrence goes into or out of, and what replacing makes of it. -/
def Bounded (p r xs xs' : List Char) : Prop :=
  ∀ before after, replaceFrom p r 0 (before ++ xs ++ after) =
    replaceFrom p r 0 before ++ xs' ++ replaceFrom p r 0 after

namespace Bounded

variable {xs xs' ys ys' : List Char}

/-- A single character outside of the pattern keeps the replacements on its two sides apart. -/
theorem char {c : Char} (hp : p ≠ []) (hc : c ∉ p) : Bounded p r [c] [c] := by
  intro before after
  simpa using replaceFrom_append_cons (r := r) hc hp before after

/-- Texts that no occurrence goes into or out of stay so one behind the other. -/
theorem append (hx : Bounded p r xs xs') (hy : Bounded p r ys ys') :
    Bounded p r (xs ++ ys) (xs' ++ ys') := by
  intro before after
  have hfront := hx before []
  rw [List.append_nil, replaceFrom, List.append_nil] at hfront
  rw [← List.append_assoc before, hy, hfront]
  simp only [List.append_assoc]

/-- Between two such texts, replacing is replacing there. -/
theorem enclose (hx : Bounded p r xs xs') (hy : Bounded p r ys ys') (body : List Char) :
    Bounded p r (xs ++ body ++ ys) (xs' ++ replaceFrom p r 0 body ++ ys') := by
  intro before after
  have hbody := hx before body
  rw [← List.append_assoc before, ← List.append_assoc before, hy, hbody]
  simp only [List.append_assoc]

/-- A marker before a quote: the pattern neither begins nor ends in it. -/
theorem marker {z c : Char} {us : List Char} (hz : z ∉ us) (hc : c ∉ p ++ [z]) :
    Bounded (p ++ [z]) r (us ++ [c]) (us ++ [c]) := by
  have hne : p ++ [z] ≠ [] := List.append_ne_nil_of_right_ne_nil p (List.cons_ne_nil z [])
  intro before after
  have hsplit : before ++ (us ++ [c]) ++ after = (before ++ us) ++ c :: after := by simp
  have hbefore : replaceFrom (p ++ [z]) r 0 (before ++ us) =
      replaceFrom (p ++ [z]) r 0 before ++ replaceFrom (p ++ [z]) r 0 us :=
    replaceFrom_append_of_apart fun _ _ _ h => Text.prefix_of_prefix_append hz h
  have hus : replaceFrom (p ++ [z]) r 0 us = us := by
    have hnone : ∀ b a : List Char, us = b ++ a → a ≠ [] → ¬ p ++ [z] <+: a ++ [] := by
      intro b a hsplit _ hbegins
      rw [List.append_nil] at hbegins
      have hmem : z ∈ a := hbegins.subset (List.mem_append_right p List.mem_cons_self)
      exact hz (hsplit ▸ List.mem_append_right b hmem)
    have h : replaceFrom (p ++ [z]) r 0 (us ++ []) = us ++ replaceFrom (p ++ [z]) r 0 [] :=
      Template.replaceFrom_append hnone
    rwa [List.append_nil, replaceFrom, List.append_nil] at h
  rw [hsplit, replaceFrom_append_cons hc hne, hbefore, hus]
  simp

end Bounded

/-- The literal with a change made to what is written in it. -/
def Value.mapContent (f : String → String) : Value → Value
  | .string s => .string (f s)
  | .doubleQuoted s => .doubleQuoted (f s)
  | .tripleQuoted q s => .tripleQuoted q (f s)
  | .marked mark q triple s => .marked mark q triple (f s)
  | .escaped s => .escaped (f s)
  | .numbered s => .numbered (f s)
  | .dollarQuoted tag s => .dollarQuoted (f tag) (f s)
  | .number text long => .number text long
  | .boolean b => .boolean b
  | .null => .null
  | .placeholder s => .placeholder s

/-- The content of a changed value is the changed content. -/
theorem Value.content?_mapContent (f : String → String) (v : Value) :
    (v.mapContent f).content? = v.content?.map f := by
  cases v <;> rfl

/-! ## The inert name in literals -/

/-- Hexadecimal text is made of sixteen digits. -/
theorem exists_digit_of_mem_toDigits {n : Nat} {c : Char} (h : c ∈ Nat.toDigits 16 n) :
    ∃ k < 16, c = k.digitChar := by
  induction n using Nat.strong_induction_on with
  | h n ih =>
    rw [Nat.toDigits_eq_if (by decide)] at h
    split_ifs at h with hn
    · exact ⟨n, hn, List.mem_singleton.1 h⟩
    · rcases List.mem_append.1 h with hfirst | hlast
      · exact ih (n / 16) (by omega) hfirst
      · exact ⟨n % 16, Nat.mod_lt n (by decide), List.mem_singleton.1 hlast⟩

/-- No hexadecimal digit is an underscore, so no escape is part of the inert name. -/
theorem underscore_notMem_hexDigits (width n : Nat) : '_' ∉ (hexDigits width n).toList := by
  rw [hexDigits, String.toList_ofList, List.mem_append]
  rintro (hzero | hdigit)
  · exact absurd (List.eq_of_mem_replicate hzero) (by decide)
  · obtain ⟨c, hc, hupper⟩ := List.mem_map.1 hdigit
    obtain ⟨k, hk, rfl⟩ := exists_digit_of_mem_toDigits hc
    have hdigits : ∀ k < 16, k.digitChar.toUpper ≠ '_' := by decide
    exact hdigits k hk hupper

open Conversion (inertMarker)

theorem toList_inertMarker : inertMarker.toList = "___PLACEHOLDER__".toList ++ ['_'] := rfl

theorem inertMarker_ne_nil : inertMarker.toList ≠ [] := by decide

/-- The inert name has no quote, whichever quote is meant. -/
theorem unescaped_inertMarker (hq : q = '\'' ∨ q = '"') : Unescaped q inertMarker.toList := by
  rcases hq with rfl | rfl <;> exact ⟨by decide, by decide, by decide⟩

theorem unescaped_placeholder (hq : q = '\'' ∨ q = '"') (d : Dialect) :
    Unescaped q d.placeholder.toList := by
  rcases hq with rfl | rfl <;> cases d <;> exact ⟨by decide, by decide, by decide⟩

/-- A word without an underscore does not start the inert name. -/
theorem head?_inertMarker_notMem {w : List Char} (h : '_' ∉ w) :
    ∀ a ∈ inertMarker.toList.head?, a ∉ w := by
  intro a ha
  rwa [← Option.some.inj ha]

/-- Escapes leave the inert name and every placeholder as they are. -/
theorem encodes_escapedChar (d : Dialect) :
    Encodes (fun c => (escapedChar c).toList) inertMarker.toList d.placeholder.toList where
  nonempty := inertMarker_ne_nil
  pattern := List.all_iff_forall_prop.1 (by decide)
  replacement := List.all_iff_forall_prop.1 (by cases d <;> decide)
  others c := by
    unfold escapedChar
    split
    · exact .inr ⟨'\\', ['\''], rfl, by decide, head?_inertMarker_notMem (by decide)⟩
    · exact .inr ⟨'\\', ['\\'], rfl, by decide, head?_inertMarker_notMem (by decide)⟩
    · exact .inr ⟨'\\', ['n'], rfl, by decide, head?_inertMarker_notMem (by decide)⟩
    · exact .inr ⟨'\\', ['t'], rfl, by decide, head?_inertMarker_notMem (by decide)⟩
    · exact .inr ⟨'\\', ['r'], rfl, by decide, head?_inertMarker_notMem (by decide)⟩
    · exact .inl (String.toList_singleton c)

theorem encodes_numberedChar (d : Dialect) :
    Encodes (fun c => (numberedChar c).toList) inertMarker.toList d.placeholder.toList where
  nonempty := inertMarker_ne_nil
  pattern := List.all_iff_forall_prop.1 (by decide)
  replacement := List.all_iff_forall_prop.1 (by cases d <;> decide)
  others c := by
    unfold numberedChar
    split_ifs
    · exact .inr ⟨'\'', ['\''], rfl, by decide, head?_inertMarker_notMem (by decide)⟩
    · exact .inr ⟨'\\', ['\\'], rfl, by decide, head?_inertMarker_notMem (by decide)⟩
    · exact .inl (String.toList_singleton c)
    · exact .inr ⟨'\\', (hexDigits 4 c.toNat).toList, String.toList_append, by decide,
        head?_inertMarker_notMem (underscore_notMem_hexDigits 4 c.toNat)⟩
    · refine .inr ⟨'\\', '+' :: (hexDigits 6 c.toNat).toList, String.toList_append, by decide,
        head?_inertMarker_notMem ?_⟩
      rw [List.mem_cons, not_or]
      exact ⟨by decide, underscore_notMem_hexDigits 6 c.toNat⟩

section

variable (d : Dialect)

/-- The text with the inert name replaced by the marker of a dialect. -/
def restored (s : String) : String := replaceAll inertMarker d.placeholder s

/-- Restoring replaces the inert name by the placeholder, from left to right. -/
theorem toList_restored (s : String) :
    (restored d s).toList = replaceFrom inertMarker.toList d.placeholder.toList 0 s.toList := by
  rw [restored, replaceAll, String.toList_ofList]

/-- Quotes keep the replacements inside of a literal apart from those around it. -/
theorem bounded_quoted (hq : q = '\'' ∨ q = '"') (s : String) :
    Bounded inertMarker.toList d.placeholder.toList (quoted q s).toList
      (quoted q (restored d s)).toList := by
  have hinert := unescaped_inertMarker hq
  have hquote := Bounded.char (r := d.placeholder.toList) hinert.nonempty hinert.quote
  have h := hquote.enclose hquote (escapeQuotes q '\x00' false s.toList)
  rw [replaceFrom_escapeQuotes hinert (unescaped_placeholder hq d) _ _ le_rfl] at h
  simpa [quoted, toList_restored] using h

theorem toList_joined_map {enc : Char → String} (cs : List Char) :
    (Text.joined "" (cs.map enc)).toList = cs.flatMap fun c => (enc c).toList := by
  induction cs with
  | nil => rfl
  | cons c cs ih =>
    rw [List.flatMap_cons, ← ih]
    cases cs <;> simp [Text.joined]

theorem Quote.char_notMem_inertMarker (q : Quote) : q.char ∉ inertMarker.toList := by
  cases q <;> decide

/-- No occurrence of the inert name goes into quotes or out of them. -/
theorem Quote.bounded_text (q : Quote) (triple : Bool) :
    Bounded inertMarker.toList d.placeholder.toList (q.text triple).toList
      (q.text triple).toList := by
  have hquote : Bounded inertMarker.toList d.placeholder.toList [q.char] [q.char] :=
    .char inertMarker_ne_nil q.char_notMem_inertMarker
  cases triple with
  | false => simpa [Quote.text] using hquote
  | true => simpa [Quote.text] using (hquote.append hquote).append hquote

/-- No occurrence of the inert name goes into letters without underscores before a quote. -/
theorem bounded_before {us : List Char} (hus : '_' ∉ us) (q : Quote) (triple : Bool) :
    Bounded inertMarker.toList d.placeholder.toList (us ++ (q.text triple).toList)
      (us ++ (q.text triple).toList) := by
  have hquote : Bounded inertMarker.toList d.placeholder.toList [q.char] [q.char] :=
    .char inertMarker_ne_nil q.char_notMem_inertMarker
  have hopen : Bounded inertMarker.toList d.placeholder.toList (us ++ [q.char]) (us ++ [q.char]) := by
    have hchar := q.char_notMem_inertMarker
    rw [toList_inertMarker] at hchar ⊢
    exact .marker hus hchar
  cases triple with
  | false => simpa [Quote.text] using hopen
  | true => simpa [Quote.text] using (hopen.append hquote).append hquote

/-- Where a string is written, replacing the inert name is replacing it in what the string says. -/
theorem Value.bounded_text {v : Value} (hv : v.content?.isSome = true) :
    Bounded inertMarker.toList d.placeholder.toList v.text.toList
      (v.mapContent (restored d)).text.toList := by
  have hclose := Quote.bounded_text d .single false
  cases v with
  | string s => exact bounded_quoted d (.inl rfl) s
  | doubleQuoted s => exact bounded_quoted d (.inr rfl) s
  | tripleQuoted q s =>
    have hquotes := q.bounded_text d true
    simpa [Value.text, Value.mapContent, toList_restored] using hquotes.enclose hquotes s.toList
  | marked mark q triple s =>
    have hmark : '_' ∉ mark.letter.toList := by cases mark <;> decide
    have hopen := bounded_before d hmark q triple
    simpa [Value.text, Value.mapContent, toList_restored] using
      hopen.enclose (q.bounded_text d triple) s.toList
  -- an escape writes the characters of the marker as they are and never puts an underscore in
  | escaped s =>
    have hopen := bounded_before d (show '_' ∉ ['E'] by decide) .single false
    have h := hopen.enclose hclose (s.toList.flatMap fun c => (escapedChar c).toList)
    rw [replaceFrom_flatMap (encodes_escapedChar d) _ _ le_rfl] at h
    simpa [Value.text, Value.mapContent, Quote.text, Quote.char, toList_joined_map,
      toList_restored] using h
  | numbered s =>
    have hopen := bounded_before d (show '_' ∉ ['U', '&'] by decide) .single false
    have h := hopen.enclose hclose (s.toList.flatMap fun c => (numberedChar c).toList)
    rw [replaceFrom_flatMap (encodes_numberedChar d) _ _ le_rfl] at h
    simpa [Value.text, Value.mapContent, Quote.text, Quote.char, toList_joined_map,
      toList_restored] using h
  | dollarQuoted tag s =>
    have hdollar : Bounded inertMarker.toList d.placeholder.toList ['$'] ['$'] :=
      .char inertMarker_ne_nil (by decide)
    have htag := hdollar.enclose hdollar tag.toList
    simpa [Value.text, Value.mapContent, toList_restored] using htag.enclose htag s.toList
  -- these have no content
  | number text long => exact absurd hv Bool.false_ne_true
  | boolean b => exact absurd hv Bool.false_ne_true
  | null => exact absurd hv Bool.false_ne_true
  | placeholder s => exact absurd hv Bool.false_ne_true

/-! ## The literals of a text -/

/-- The words before the first literal. -/
def openingWords : List Span → String
  | [] => ""
  | .words s :: xs => s ++ openingWords xs
  | .literal _ _ :: _ => ""

/-- Each literal with the words between it and the next one. -/
def strands : List Span → List (Value × String)
  | [] => []
  | .words _ :: xs => strands xs
  | .literal v _ :: xs => (v, openingWords xs) :: strands xs

/-- The text of words and of the literals after them, each with the words behind it. -/
def woven : String → List (Value × String) → String
  | opening, [] => opening
  | opening, (v, s) :: rest => opening ++ v.text ++ woven s rest

/-- What stands before the first literal stays there. -/
theorem woven_append (s opening : String) (rest : List (Value × String)) :
    woven (s ++ opening) rest = s ++ woven opening rest := by
  cases rest with
  | nil => rfl
  | cons x rest => simp only [woven, String.append_assoc]

/-- A text is woven of its literals and of the words between them. -/
theorem woven_strands (xs : List Span) : woven (openingWords xs) (strands xs) = spansText xs := by
  induction xs with
  | nil => rfl
  | cons x xs ih =>
    cases x with
    | words s => rw [openingWords, strands, woven_append, ih, spansText_cons, Span.text_words]
    | literal v _ => rw [openingWords, strands, woven, ih, String.empty_append]; rfl

theorem map_fst_strands (xs : List Span) : (strands xs).map (·.1) = literals xs := by
  induction xs with
  | nil => rfl
  | cons x xs ih =>
    cases x with
    | words s => exact ih
    | literal v _ => exact congrArg (v :: ·) ih

/-- Each of them is a string. -/
theorem isSome_content?_of_mem_strands {xs : List Span} :
    ∀ x ∈ strands xs, x.1.content?.isSome = true := by
  induction xs with
  | nil => exact List.forall_mem_nil _
  | cons x xs ih =>
    cases x with
    | words s => exact ih
    | literal v h => exact List.forall_mem_cons.2 ⟨h, ih⟩

/-- Replacing the inert name in a text is replacing it in each literal and between the literals. -/
theorem restored_woven (rest : List (Value × String))
    (h : ∀ x ∈ rest, x.1.content?.isSome = true)
    (opening : String) :
    restored d (woven opening rest) = woven (restored d opening)
      (rest.map fun x => (x.1.mapContent (restored d), restored d x.2)) := by
  induction rest generalizing opening with
  | nil => rfl
  | cons x rest ih =>
    obtain ⟨hx, hrest⟩ := List.forall_mem_cons.1 h
    have hbounded := Value.bounded_text d hx opening.toList (woven x.2 rest).toList
    rw [List.map_cons, woven, woven, ← ih hrest, ← String.toList_inj]
    simpa [toList_restored] using hbounded

end

/-- Two replacements that begin with different characters agree only where there is nothing to
replace. -/
theorem replaceFrom_eq_iff {a b : Char} {r' : List Char} (hab : a ≠ b) (hp : p ≠ [])
    (s : List Char) :
    replaceFrom p (a :: r) 0 s = replaceFrom p (b :: r') 0 s ↔ ¬ p <:+: s := by
  induction s with
  | nil => simpa [replaceFrom] using hp
  | cons c s ih =>
    by_cases hstart : p <+: c :: s
    · have hinfix : p <:+: c :: s := hstart.isInfix
      rw [replaceFrom, replaceFrom, if_pos (List.isPrefixOf_iff_prefix.2 hstart),
        if_pos (List.isPrefixOf_iff_prefix.2 hstart)]
      refine iff_of_false (fun h => ?_) (not_not_intro hinfix)
      exact hab (List.cons.inj h).1
    · rw [replaceFrom_cons hstart, replaceFrom_cons hstart, List.cons_inj_right, ih,
        List.infix_cons_iff, not_or]
      exact (and_iff_right hstart).symm

end DatasetSql.Statement
