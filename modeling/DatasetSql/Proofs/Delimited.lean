import DatasetSql.Statement.Lexer
import DatasetSql.Statement.Literal
import Mathlib.Data.List.Infix

/-!
# Texts between delimiters

A delimiter inside a text is written twice, and a reader takes two for one. The writer, though, takes
two delimiters in a row for one that is doubled already, and leaves a delimiter after a backslash
alone. So a text is read back exactly if no delimiter in it follows another or a backslash, and if it
has no backslash where backslashes escape (`readString_escapeQuotes_iff`).
-/

namespace DatasetSql.Statement

/-- A text as a reader expects it: every delimiter twice. -/
def doubledChars (q : Char) (s : List Char) : List Char :=
  s.flatMap fun c => if c = q then [c, c] else [c]

section Steps

variable {q : Char} {escapes : Bool}

/-- A delimiter that stands alone ends a string. -/
theorem readString_close {rest : List Char} (h : rest.head? ≠ some q) :
    readString q escapes (q :: rest) = some ([], rest) := by
  cases rest with
  | nil => simp [readString]
  | cons d cs =>
    have hd : d ≠ q := fun hd => h (by rw [hd, List.head?_cons])
    simp [readString, hd]

/-- A doubled delimiter inside of a string is one character of it. -/
theorem readString_pair (cs : List Char) :
    readString q escapes (q :: q :: cs) =
      (readString q escapes cs).map fun (s, rest) => (q :: s, rest) := by
  simp [readString]

theorem readString_plain {c : Char} (hc : c ≠ q) (he : ¬ (escapes = true ∧ c = '\\'))
    (cs : List Char) :
    readString q escapes (c :: cs) =
      (readString q escapes cs).map fun (s, rest) => (c :: s, rest) := by
  cases cs with
  | nil => simp [readString, hc]
  | cons d cs => simp [readString, hc, he]

/-- A backslash that escapes takes the next character with it. -/
theorem readString_escape (hq : q ≠ '\\') (d : Char) (cs : List Char) :
    readString q true ('\\' :: d :: cs) =
      (readString q true cs).map fun (s, rest) => (unescaped d :: s, rest) := by
  simp [readString, hq.symm]

theorem readIdent_eq_readString (closing : Char) (cs : List Char) :
    readIdent closing cs = readString closing false cs := by
  fun_induction readIdent closing cs with
  | case1 => rfl
  | case2 c hc => simp [readString, hc]
  | case3 c hc => simp [readString, hc]
  | case4 c d cs hc hd ih => simp [readString, hc, hd, ih]
  | case5 c d cs hc hd => simp [readString, hc, hd]
  | case6 c d cs hc ih => simp [readString, hc, ih]

end Steps

/-- A text that is written as a reader expects it is read back. -/
theorem readString_doubledChars {q : Char} {escapes : Bool} {s rest : List Char}
    (hs : escapes = true → '\\' ∉ s) (hrest : rest.head? ≠ some q) :
    readString q escapes (doubledChars q s ++ q :: rest) = some (s, rest) := by
  induction s with
  | nil => exact readString_close hrest
  | cons c s ih =>
    have ih := ih fun he hmem => hs he (List.mem_cons_of_mem c hmem)
    rw [doubledChars, List.flatMap_cons, List.append_assoc, ← doubledChars]
    split
    next hc =>
      rw [hc, List.cons_append, List.cons_append, List.nil_append, readString_pair, ih]
      rfl
    next hc =>
      have he : ¬ (escapes = true ∧ c = '\\') := fun ⟨he, hc⟩ => hs he (hc ▸ List.mem_cons_self)
      rw [List.cons_append, List.nil_append, readString_plain hc he, ih]
      rfl

/-! ## What the writer makes of delimiters -/

section Writer

variable {q : Char}

/-- Whoever writes a string keeps every character but the delimiter. -/
theorem escapeQuotes_other {previous c : Char} {pair : Bool} (hc : c ≠ q) (cs : List Char) :
    escapeQuotes q previous pair (c :: cs) = c :: escapeQuotes q c false cs := by
  simp [escapeQuotes, hc]

theorem escapeQuotes_second (previous : Char) (cs : List Char) :
    escapeQuotes q previous true (q :: cs) = escapeQuotes q q false cs := by
  simp [escapeQuotes]

/-- A delimiter behind a backslash is taken to be escaped already. -/
theorem escapeQuotes_backslash (cs : List Char) :
    escapeQuotes q '\\' false (q :: cs) = q :: escapeQuotes q '\\' false cs := by
  simp [escapeQuotes]

/-- A delimiter that starts a pair is doubled. -/
theorem escapeQuotes_first {previous : Char} (hp : previous ≠ '\\') (cs : List Char) :
    escapeQuotes q previous false (q :: cs) = q :: q :: escapeQuotes q q true cs := by
  simp [escapeQuotes, hp]

end Writer

/-- A reader that takes a character has it first in what it gives. -/
theorem map_cons_eq_some {x : Option Taken} {c : Char} {s rest : List Char}
    (h : x.map (fun (s, rest) => (c :: s, rest)) = some (s, rest)) :
    ∃ s', s = c :: s' ∧ x = some (s', rest) := by
  obtain ⟨⟨s', rest'⟩, hx, hs⟩ := Option.map_eq_some_iff.1 h
  obtain ⟨rfl, rfl⟩ := Prod.mk.inj hs
  exact ⟨s', rfl, hx⟩

/-- An escape gives a delimiter or a backslash only for itself. -/
theorem eq_of_unescaped {d c : Char} (hc : c = '\'' ∨ c = '"' ∨ c = '`' ∨ c = '\\')
    (h : unescaped d = c) : d = c := by
  unfold unescaped at h
  split at h <;> first | exact h | (subst h; revert hc; decide)

/-- What follows a text between delimiters. -/
def Follows (q : Char) (rest : List Char) : Prop :=
  ∀ c, rest.head? = some c → c ≠ q ∧ c ≠ '\\'

/-- What may follow a string does not start with its delimiter. -/
theorem Follows.head?_ne {q : Char} {rest : List Char} (h : Follows q rest) :
    rest.head? ≠ some q := fun hq => (h q hq).1 rfl

/-- What is read past the end of a text begins with neither a delimiter nor a backslash. -/
theorem Follows.not_read {q : Char} {escapes : Bool} {rest w r : List Char} (h : Follows q rest)
    (hw : ∀ c, w.head? = some c → c = q ∨ c = '\\') :
    readString q escapes rest ≠ some (w, r) := by
  intro hread
  cases rest with
  | nil => simp [readString] at hread
  | cons c cs =>
    obtain ⟨hq, hb⟩ := h c rfl
    rw [readString_plain hq fun he => hb he.2] at hread
    obtain ⟨w', rfl, -⟩ := map_cons_eq_some hread
    rcases hw c rfl with hc | hc
    · exact hq hc
    · exact hb hc

/-- The characters that a writer and a reader treat in a way of their own. -/
abbrev Special (q c : Char) : Prop := c = q ∨ c = '\\'

section Late

variable {q : Char} {escapes : Bool} {rest : List Char}

/-- Once a reader is behind the writer by some special characters `w`, it stays behind. Each character
that it gives is the first of those it owes, and each takes one or two characters of `y`, which it
owes from then on. -/
theorem not_read_late (hq : q = '\'' ∨ q = '"' ∨ q = '`') (hrest : Follows q rest) (n : Nat) :
    ∀ (y : List Char), y.length ≤ n → ∀ (previous : Char) (pair : Bool) (w r : List Char), w ≠ [] →
      (∀ c ∈ w, Special q c) →
      readString q escapes (escapeQuotes q previous pair y ++ q :: rest) ≠ some (w ++ y, r) := by
  have hqb : q ≠ '\\' := by rcases hq with rfl | rfl | rfl <;> decide
  have hunescaped {d c : Char} (hc : Special q c) (h : unescaped d = c) : d = c := by
    refine eq_of_unescaped ?_ h
    rcases hc with rfl | rfl
    · rcases hq with h | h | h
      · exact .inl h
      · exact .inr (.inl h)
      · exact .inr (.inr (.inl h))
    · exact .inr (.inr (.inr rfl))
  induction n with
  | zero =>
    intro y hy previous pair w r hw _ hread
    rw [List.length_eq_zero_iff.1 (Nat.le_zero.1 hy), escapeQuotes, List.nil_append,
      readString_close hrest.head?_ne] at hread
    simp only [List.append_nil, Option.some.injEq, Prod.mk.injEq] at hread
    exact hw hread.1.symm
  | succ n ih =>
    intro y hy previous pair w r hw hspecial hread
    obtain ⟨w₀, w, rfl⟩ := List.exists_cons_of_ne_nil hw
    have hw₀ : Special q w₀ := hspecial w₀ List.mem_cons_self
    have hrestw : ∀ c ∈ w, Special q c := fun c hc => hspecial c (List.mem_cons_of_mem w₀ hc)
    -- what is owed after some special characters of `y` were passed over
    have howed {y₁ : List Char} (hy₁ : y₁.length ≤ n) {a : List Char} (hne : a ≠ [])
        (ha : ∀ c ∈ a, Special q c) (previous : Char) (pair : Bool)
        (h : readString q escapes (escapeQuotes q previous pair y₁ ++ q :: rest) =
          some (w ++ (a ++ y₁), r)) : False := by
      rw [← List.append_assoc] at h
      refine ih y₁ hy₁ previous pair (w ++ a) r (List.append_ne_nil_of_right_ne_nil w hne) ?_ h
      exact List.forall_mem_append.2 ⟨hrestw, ha⟩
    have hpast {c : Char} (hc : Special q c) : readString q escapes rest ≠ some (w ++ [c], r) := by
      refine hrest.not_read fun b hb => ?_
      exact List.forall_mem_append.2 ⟨hrestw, by simpa using hc⟩ b (List.mem_of_head? hb)
    cases y with
    | nil =>
      rw [escapeQuotes, List.nil_append, readString_close hrest.head?_ne] at hread
      simp at hread
    | cons c y₁ =>
      have hy₁ : y₁.length ≤ n := Nat.le_of_succ_le_succ hy
      by_cases hc : c = q
      · subst hc
        cases pair with
        | true =>
          -- a second delimiter is not written at all
          rw [escapeQuotes_second] at hread
          refine ih y₁ hy₁ c false (w₀ :: w ++ [c]) r (by simp) ?_ (by simpa using hread)
          exact List.forall_mem_append.2 ⟨hspecial, by simp [Special]⟩
        | false =>
          by_cases hp : previous = '\\'
          · subst hp
            rw [escapeQuotes_backslash] at hread
            cases y₁ with
            | nil =>
              rw [escapeQuotes, List.cons_append, List.nil_append, readString_pair] at hread
              obtain ⟨s', hs, hread⟩ := map_cons_eq_some hread
              obtain ⟨-, rfl⟩ := List.cons.inj hs
              exact hpast (.inl rfl) hread
            | cons d y₂ =>
              by_cases hd : d = c
              · subst hd
                rw [escapeQuotes_backslash, List.cons_append, List.cons_append, readString_pair]
                  at hread
                obtain ⟨s', hs, hread⟩ := map_cons_eq_some hread
                obtain ⟨-, rfl⟩ := List.cons.inj hs
                exact howed (Nat.le_of_succ_le hy₁) (a := [d, d]) (by simp) (by simp [Special])
                  _ _ hread
              · rw [escapeQuotes_other hd, List.cons_append, readString_close (by simpa using hd)]
                  at hread
                simp at hread
          · rw [escapeQuotes_first hp, List.cons_append, List.cons_append, readString_pair] at hread
            obtain ⟨s', hs, hread⟩ := map_cons_eq_some hread
            obtain ⟨-, rfl⟩ := List.cons.inj hs
            exact howed hy₁ (a := [c]) (by simp) (by simp [Special]) _ _ hread
      · rw [escapeQuotes_other hc, List.cons_append] at hread
        by_cases he : escapes = true ∧ c = '\\'
        · obtain ⟨rfl, rfl⟩ := he
          cases y₁ with
          | nil =>
            rw [escapeQuotes, List.nil_append, readString_escape hqb] at hread
            obtain ⟨s', hs, hread⟩ := map_cons_eq_some hread
            obtain ⟨-, rfl⟩ := List.cons.inj hs
            exact hpast (.inr rfl) hread
          | cons d y₂ =>
            by_cases hd : d = q
            · subst hd
              rw [escapeQuotes_backslash, List.cons_append, readString_escape hqb] at hread
              obtain ⟨s', hs, hread⟩ := map_cons_eq_some hread
              obtain ⟨-, rfl⟩ := List.cons.inj hs
              exact howed (Nat.le_of_succ_le hy₁) (a := ['\\', d]) (by simp) (by simp [Special])
                _ _ hread
            · rw [escapeQuotes_other hd, List.cons_append, readString_escape hqb] at hread
              obtain ⟨s', hs, hread⟩ := map_cons_eq_some hread
              obtain ⟨hw₀', rfl⟩ := List.cons.inj hs
              have hd' : d = w₀ := hunescaped hw₀ hw₀'.symm
              have hd'' : d = '\\' := (hd' ▸ hw₀ : Special q d).resolve_left hd
              subst hd''
              exact howed (Nat.le_of_succ_le hy₁) (a := ['\\', '\\']) (by simp) (by simp [Special])
                _ _ hread
        · rw [readString_plain hc he] at hread
          obtain ⟨s', hs, hread⟩ := map_cons_eq_some hread
          obtain ⟨rfl, rfl⟩ := List.cons.inj hs
          have hc' : w₀ = '\\' := hw₀.resolve_left hc
          exact howed hy₁ (a := [w₀]) (by simp) (by simp [Special, hc']) _ _ hread

end Late

/-! ## Texts that are read back -/

/-- A text that is read back: no delimiter in it follows another or a backslash, and where
backslashes escape it has none. -/
structure Faithful (q : Char) (escapes : Bool) (s : List Char) : Prop where
  single : ¬ [q, q] <:+: s
  unguarded : ¬ ['\\', q] <:+: s
  plain : escapes = true → '\\' ∉ s

instance (q : Char) (escapes : Bool) (s : List Char) : Decidable (Faithful q escapes s) :=
  decidable_of_iff (¬ [q, q] <:+: s ∧ ¬ ['\\', q] <:+: s ∧ (escapes = true → '\\' ∉ s))
    ⟨fun h => ⟨h.1, h.2.1, h.2.2⟩, fun h => ⟨h.single, h.unguarded, h.plain⟩⟩

/-- A pair stands in a longer text at its head or in the rest. -/
theorem pair_infix_cons {a c q : Char} {s : List Char} :
    [a, q] <:+: c :: s ↔ a = c ∧ s.head? = some q ∨ [a, q] <:+: s := by
  rw [List.infix_cons_iff, List.cons_prefix_cons]
  cases s with
  | nil => simp
  | cons d s => simp [eq_comm]

section Faithful

variable {q : Char} {escapes : Bool} {rest : List Char}

/-- In a faithful text no delimiter follows a delimiter or a backslash. -/
theorem Faithful.apart {s : List Char} (h : Faithful q escapes s) (c : Char)
    (hc : [c, q] <:+: s) : ¬ Special q c := by
  rintro (rfl | rfl)
  · exact h.single hc
  · exact h.unguarded hc

/-- A faithful text stays faithful behind a character that neither pairs up with its head nor
escapes it. -/
theorem Faithful.cons {c : Char} {s : List Char} (h : Faithful q escapes s)
    (hnext : s.head? = some q → ¬ Special q c) (hc : ¬ (escapes = true ∧ c = '\\')) :
    Faithful q escapes (c :: s) := by
  have hapart (a : Char) (ha : [a, q] <:+: c :: s) : ¬ Special q a := by
    rcases pair_infix_cons.1 ha with ⟨rfl, hq⟩ | ha
    · exact hnext hq
    · exact h.apart a ha
  refine ⟨fun ha => hapart q ha (.inl rfl), fun ha => hapart '\\' ha (.inr rfl), fun he hmem => ?_⟩
  rcases List.mem_cons.1 hmem with hb | hmem
  · exact hc ⟨he, hb.symm⟩
  · exact h.plain he hmem

/-- Where no delimiter follows another or a backslash, all are doubled. -/
theorem escapeQuotes_eq_doubledChars {s : List Char} {previous : Char} {pair : Bool}
    (hhead : s.head? = some q → pair = false ∧ previous ≠ '\\')
    (hs : ∀ c, [c, q] <:+: s → ¬ Special q c) :
    escapeQuotes q previous pair s = doubledChars q s := by
  induction s generalizing previous pair with
  | nil => rfl
  | cons c s ih =>
    have htail : ∀ a, [a, q] <:+: s → ¬ Special q a := fun a ha => hs a (pair_infix_cons.2 (.inr ha))
    have hnext (h : s.head? = some q) : ¬ Special q c := hs c (pair_infix_cons.2 (.inl ⟨rfl, h⟩))
    rw [doubledChars, List.flatMap_cons, ← doubledChars]
    by_cases hc : c = q
    · subst hc
      obtain ⟨rfl, hp⟩ := hhead rfl
      rw [escapeQuotes_first hp, if_pos rfl]
      rw [ih (fun h => absurd (.inl rfl) (hnext h)) htail]
      rfl
    · rw [escapeQuotes_other hc, if_neg hc]
      rw [ih (fun h => ⟨rfl, fun hb => hnext h (.inr hb)⟩) htail]
      rfl

/-- A text that is read back has no delimiter after another or after a backslash. The reader would
fall behind the writer there. -/
theorem faithful_of_read (hq : q = '\'' ∨ q = '"' ∨ q = '`') (hrest : Follows q rest)
    {s r : List Char} {previous : Char} {pair : Bool}
    (h : readString q escapes (escapeQuotes q previous pair s ++ q :: rest) = some (s, r)) :
    (s.head? = some q → pair = false ∧ previous ≠ '\\') ∧ Faithful q escapes s := by
  have hqb : q ≠ '\\' := by rcases hq with rfl | rfl | rfl <;> decide
  have hlate (y : List Char) (previous : Char) (pair : Bool) (c : Char) (hc : Special q c) :
      readString q escapes (escapeQuotes q previous pair y ++ q :: rest) ≠ some (c :: y, r) :=
    not_read_late hq hrest y.length y le_rfl previous pair [c] r (by simp) (by simpa using hc)
  induction s generalizing previous pair with
  | nil => exact ⟨by simp, ⟨by simp, by simp, by simp⟩⟩
  | cons c s ih =>
    by_cases hc : c = q
    · subst hc
      cases pair with
      | true =>
        rw [escapeQuotes_second] at h
        exact absurd h (hlate s c false c (.inl rfl))
      | false =>
        by_cases hp : previous = '\\'
        · subst hp
          rw [escapeQuotes_backslash] at h
          cases s with
          | nil =>
            rw [escapeQuotes, List.cons_append, List.nil_append, readString_pair] at h
            obtain ⟨s', hs, h⟩ := map_cons_eq_some h
            obtain ⟨-, rfl⟩ := List.cons.inj hs
            exact absurd h (hrest.not_read (by simp))
          | cons d s =>
            by_cases hd : d = c
            · subst hd
              rw [escapeQuotes_backslash, List.cons_append, List.cons_append, readString_pair] at h
              obtain ⟨s', hs, h⟩ := map_cons_eq_some h
              obtain ⟨-, rfl⟩ := List.cons.inj hs
              exact absurd h (hlate s _ _ d (.inl rfl))
            · rw [escapeQuotes_other hd, List.cons_append, List.cons_append,
                readString_close (by simpa using hd)] at h
              simp at h
        · rw [escapeQuotes_first hp, List.cons_append, List.cons_append, readString_pair] at h
          obtain ⟨s', hs, h⟩ := map_cons_eq_some h
          obtain ⟨-, rfl⟩ := List.cons.inj hs
          obtain ⟨hhead, hfaithful⟩ := ih h
          refine ⟨fun _ => ⟨rfl, hp⟩, hfaithful.cons (fun hnext => ?_) fun hb => hqb hb.2⟩
          exact absurd (hhead hnext).1 (by decide)
    · refine ⟨fun hhead => absurd (Option.some.inj hhead) hc, ?_⟩
      rw [escapeQuotes_other hc, List.cons_append] at h
      by_cases he : escapes = true ∧ c = '\\'
      · obtain ⟨rfl, rfl⟩ := he
        -- the character after the backslash has to stand for a backslash
        have hnext (d : Char) (cs : List Char)
            (h : readString q true ('\\' :: d :: cs) = some ('\\' :: s, r)) :
            d = '\\' ∧ readString q true cs = some (s, r) := by
          rw [readString_escape hqb] at h
          obtain ⟨s', hs, h⟩ := map_cons_eq_some h
          obtain ⟨hd, rfl⟩ := List.cons.inj hs
          exact ⟨eq_of_unescaped (.inr (.inr (.inr rfl))) hd.symm, h⟩
        cases s with
        | nil => exact absurd (hnext q rest h).1 hqb
        | cons d s =>
          by_cases hd : d = q
          · subst hd
            rw [escapeQuotes_backslash] at h
            exact absurd (hnext d _ h).1 hqb
          · rw [escapeQuotes_other hd] at h
            obtain ⟨rfl, h⟩ := hnext d _ h
            exact absurd h (hlate s _ _ '\\' (.inr rfl))
      · rw [readString_plain hc he] at h
        obtain ⟨s', hs, h⟩ := map_cons_eq_some h
        obtain ⟨-, rfl⟩ := List.cons.inj hs
        obtain ⟨hhead, hfaithful⟩ := ih h
        refine hfaithful.cons (fun hnext hspecial => ?_) he
        exact (hhead hnext).2 (hspecial.resolve_left hc)

/-- A text is read back, and nothing after it, exactly if it is faithful. -/
theorem readString_escapeQuotes_iff (hq : q = '\'' ∨ q = '"' ∨ q = '`') (hrest : Follows q rest)
    {s r : List Char} :
    readString q escapes (escapeQuotes q '\x00' false s ++ q :: rest) = some (s, r) ↔
      Faithful q escapes s ∧ r = rest := by
  have hread (h : Faithful q escapes s) :
      readString q escapes (escapeQuotes q '\x00' false s ++ q :: rest) = some (s, rest) := by
    rw [escapeQuotes_eq_doubledChars (fun _ => ⟨rfl, by decide⟩) h.apart]
    exact readString_doubledChars h.plain hrest.head?_ne
  constructor
  · intro h
    have hfaithful := (faithful_of_read hq hrest h).2
    rw [hread hfaithful] at h
    exact ⟨hfaithful, ((Prod.mk.inj (Option.some.inj h)).2).symm⟩
  · rintro ⟨hfaithful, rfl⟩
    exact hread hfaithful

end Faithful

/-! ## Brackets -/

/-- What is read without escapes stood there with every delimiter doubled. -/
theorem eq_doubledChars_of_readString {q : Char} {cs s rest : List Char}
    (h : readString q false cs = some (s, rest)) : cs = doubledChars q s ++ q :: rest := by
  -- the cases are those of the reader: an end, a pair, a plain character
  fun_induction readString q false cs generalizing s with
  | case1 => simp at h
  | case2 c hc =>
    obtain ⟨rfl, rfl⟩ : [] = s ∧ [] = rest := by simpa using h
    rw [eq_of_beq hc]
    rfl
  | case3 => simp at h
  | case4 c d cs hc hd ih =>
    obtain ⟨s', rfl, hread⟩ := map_cons_eq_some h
    rw [eq_of_beq hc, eq_of_beq hd, ih hread]
    simp [doubledChars]
  | case5 c d cs hc hd =>
    obtain ⟨rfl, rfl⟩ : [] = s ∧ d :: cs = rest := by simpa using h
    rw [eq_of_beq hc]
    rfl
  | case6 c d cs hc he => simp at he
  | case7 c d cs hc he ih =>
    obtain ⟨s', rfl, hread⟩ := map_cons_eq_some h
    have hc : c ≠ q := fun heq => hc (by rw [heq, beq_self_eq_true])
    rw [ih hread]
    simp [doubledChars, hc]

/-- A text with doubled delimiters, after some more of them, is not the text itself. -/
theorem doubledChars_ne_self {q : Char} {s w r rest : List Char} (hrest : rest.head? ≠ some q)
    (hw : w ≠ []) (hq : ∀ c ∈ w, c = q) : w ++ doubledChars q s ++ q :: r ≠ s ++ q :: rest := by
  intro h
  induction s generalizing w with
  | nil =>
    obtain ⟨c, w, rfl⟩ := List.exists_cons_of_ne_nil hw
    obtain ⟨-, rfl⟩ := List.cons.inj h
    cases w with
    | nil => exact hrest rfl
    | cons d w => exact hrest (congrArg some (hq d (by simp)))
  | cons c s ih =>
    obtain ⟨d, w, rfl⟩ := List.exists_cons_of_ne_nil hw
    obtain ⟨rfl, h⟩ := List.cons.inj h
    obtain rfl : d = q := hq d List.mem_cons_self
    -- each delimiter of the text puts one more in front, so the surplus never shrinks
    have htwo : doubledChars d (d :: s) = [d, d] ++ doubledChars d s := by simp [doubledChars]
    refine ih (w := w ++ [d, d]) (by simp) (fun c hc => ?_) ?_
    · rcases List.mem_append.1 hc with hc | hc
      · exact hq c (List.mem_cons_of_mem d hc)
      · simpa using hc
    · rw [htwo] at h
      simpa using h

/-- A text between brackets is read back, and nothing after it, exactly if it has no closing one. -/
theorem readString_raw_iff {q : Char} {s r rest : List Char} (hrest : rest.head? ≠ some q) :
    readString q false (s ++ q :: rest) = some (s, r) ↔ q ∉ s ∧ r = rest := by
  have hdoubled {s : List Char} (h : q ∉ s) : doubledChars q s = s := by
    induction s with
    | nil => rfl
    | cons c s ih =>
      rw [List.mem_cons, not_or] at h
      rw [doubledChars, List.flatMap_cons, if_neg (Ne.symm h.1), ← doubledChars, ih h.2]
      rfl
  constructor
  · intro h
    have htext := eq_doubledChars_of_readString h
    have hs : q ∉ s := by
      intro hmem
      -- at the first delimiter inside, the text read would have one delimiter more
      obtain ⟨u, v, rfl, hu⟩ := List.eq_append_cons_of_mem hmem
      have hsplit : doubledChars q (u ++ q :: v) = u ++ (q :: q :: doubledChars q v) := by
        rw [doubledChars, List.flatMap_append, ← doubledChars, hdoubled hu]
        simp [doubledChars]
      rw [hsplit] at htext
      refine doubledChars_ne_self hrest (w := [q]) (s := v) (r := r) (by simp) (by simp) ?_
      simpa using htext.symm
    rw [hdoubled hs] at htext
    exact ⟨hs, ((List.cons.inj (List.append_cancel_left htext)).2).symm⟩
  · rintro ⟨hs, rfl⟩
    have hread : readString q false (doubledChars q s ++ q :: r) = some (s, r) :=
      readString_doubledChars (by simp) hrest
    rwa [hdoubled hs] at hread

end DatasetSql.Statement
