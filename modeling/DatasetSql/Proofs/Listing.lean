import DatasetSql.Proofs.Inversion
import DatasetSql.Proofs.PlainSelect

/-!
# Lists that are read back

Members of a list that are read back one by one are read back together, and only then.
-/

namespace DatasetSql.Statement.Parser

variable {g : Grammar} {α β : Type} {p : Parser β}

/-- How the members of a list are written, and which of them are read as they were written. -/
structure Form (α β : Type) where
  chars : α → List Char
  lexemes : α → List Lexeme
  tree : α → β
  Clean : α → Prop

/-- A reader reads back what is clean, and only that. Something is known of what follows it. -/
structure ReadBack (g : Grammar) (p : Parser β) (f : Form α β) (E : List Lexeme → Prop) : Prop where
  cuts {a : α} {rest : List Char} :
    f.Clean a → Ends rest → Cuts g (f.chars a ++ rest) (f.lexemes a) rest
  reads {a : α} {rest : List Lexeme} :
    f.Clean a → E rest → p (f.lexemes a ++ rest) = .ok (f.tree a, rest)
  clean {a : α} {rest : List Char} {ls t : List Lexeme} : Ends rest →
    CanLex g (f.chars a ++ rest) ls → p ls = .ok (f.tree a, t) → f.Clean a
  opens (a : α) (rest : List Lexeme) : endsList (f.lexemes a ++ rest).head? = false
  comma (ls : List Lexeme) : E (.symbol "," :: ls)

namespace ReadBack

variable {f : Form α β} {E : List Lexeme → Prop} (h : ReadBack g p f E) (trailing : Bool)

/-- Each member has a comma, so the lexemes are enough fuel for the list. -/
theorem length_le_moreLexemes (lexemes : α → List Lexeme) (as : List α) :
    as.length ≤ (moreLexemes lexemes as).length := by
  induction as with
  | nil => exact le_rfl
  | cons a as ih =>
    have hcons : moreLexemes lexemes (a :: as) =
        .symbol "," :: (lexemes a ++ moreLexemes lexemes as) := rfl
    rw [hcons, List.length_cons, List.length_cons, List.length_append]
    omega

include h

/-- A list of clean members is read back. -/
theorem separatedFrom_lexemes {rest : List Lexeme} (hrest : E rest)
    (hend : symbol "," rest = .ok (false, rest)) {m : Nat} {a : α} {as : List α}
    (hm : as.length < m) (has : ∀ b ∈ a :: as, f.Clean b) :
    separatedFrom trailing p m (f.lexemes a ++ (moreLexemes f.lexemes as ++ rest)) =
      .ok ((a :: as).map f.tree, rest) := by
  induction m generalizing a as with
  | zero => exact absurd hm (Nat.not_lt_zero _)
  | succ m ih =>
    obtain ⟨ha, has⟩ := List.forall_mem_cons.1 has
    unfold separatedFrom
    cases as with
    | nil =>
      have hnil : moreLexemes f.lexemes [] ++ rest = rest := rfl
      rw [hnil, bind_of_ok (h.reads ha hrest), bind_of_ok hend]
      rfl
    | cons b bs =>
      have hcons : moreLexemes f.lexemes (b :: bs) ++ rest =
          .symbol "," :: (f.lexemes b ++ (moreLexemes f.lexemes bs ++ rest)) := by
        simp [moreLexemes]
      -- the element, the comma, and the rest by induction
      rw [hcons, bind_of_ok (h.reads ha (h.comma _)), bind_of_ok rfl,
        if_pos rfl, bind_of_ok rfl, List.tail_cons, h.opens, Bool.and_false, if_neg Bool.false_ne_true,
        bind_of_ok (ih (Nat.lt_of_succ_lt_succ hm) has)]
      rfl

/-- A list that is read back has clean members. -/
theorem clean_of_separatedFrom {rest : List Char} (hrest : Ends rest) {m : Nat} {a : α} {as : List α}
    {ls t : List Lexeme} (hls : CanLex g (f.chars a ++ (moreChars f.chars as ++ rest)) ls)
    (hread : separatedFrom trailing p m ls = .ok ((a :: as).map f.tree, t)) :
    ∀ b ∈ a :: as, f.Clean b := by
  induction m generalizing a as ls with
  | zero => cases hread
  | succ m ih =>
    have hends := ends_moreChars hrest f.chars as
    obtain ⟨x, t₁, hx, hread⟩ := bind_eq_ok.1 hread
    have hxa : x = f.tree a := by
      obtain ⟨more, t₂, -, hread⟩ := bind_eq_ok.1 hread
      cases more with
      | false => exact (List.cons.inj (Prod.mk.inj (Except.ok.inj hread)).1).1
      | true =>
        obtain ⟨next, t₃, -, hread⟩ := bind_eq_ok.1 hread
        split_ifs at hread
        · exact (List.cons.inj (Prod.mk.inj (Except.ok.inj hread)).1).1
        · obtain ⟨xs, t₄, -, hread⟩ := bind_eq_ok.1 hread
          exact (List.cons.inj (Prod.mk.inj (Except.ok.inj hread)).1).1
    subst hxa
    have ha : f.Clean a := h.clean hends hls hx
    refine List.forall_mem_cons.2 ⟨ha, ?_⟩
    cases as with
    | nil => exact fun b hb => nomatch hb
    | cons b bs =>
      -- the first member is clean, so it is known where the second one starts
      obtain ⟨tail, rfl, htail⟩ := (h.cuts ha hends).canLex hls
      have hcons : moreChars f.chars (b :: bs) ++ rest =
          ',' :: ' ' :: (f.chars b ++ (moreChars f.chars bs ++ rest)) := by
        simp [moreChars]
      rw [hcons] at htail
      obtain ⟨tail', rfl, htail'⟩ := (cuts_comma _).canLex htail
      rw [List.singleton_append, h.reads ha (h.comma tail')] at hx
      obtain rfl : _ = t₁ := (Prod.mk.inj (Except.ok.inj hx)).2
      rw [bind_of_ok rfl, if_pos rfl] at hread
      obtain ⟨next, t₃, hnext, hread⟩ := bind_eq_ok.1 hread
      obtain ⟨-, rfl⟩ := Prod.mk.inj (Except.ok.inj hnext)
      split_ifs at hread
      · cases (List.cons.inj (Prod.mk.inj (Except.ok.inj hread)).1).2
      · obtain ⟨xs, t₄, hxs, hread⟩ := bind_eq_ok.1 hread
        obtain ⟨heq, rfl⟩ := Prod.mk.inj (Except.ok.inj hread)
        rw [(List.cons.inj heq).2] at hxs
        exact ih htail' hxs

/-- A list is read up to its end. -/
theorem separated_lexemes {rest : List Lexeme} (hrest : E rest)
    (hend : symbol "," rest = .ok (false, rest)) {a : α} {as : List α}
    (has : ∀ b ∈ a :: as, f.Clean b) :
    separated trailing p (f.lexemes a ++ (moreLexemes f.lexemes as ++ rest)) =
      .ok ((a :: as).map f.tree, rest) := by
  rw [separated, bind_of_ok rfl]
  refine h.separatedFrom_lexemes trailing hrest hend ?_ has
  have hlength := length_le_moreLexemes f.lexemes as
  rw [List.length_append, List.length_append]
  omega

/-- A list that is read as its members were written has clean members. -/
theorem clean_of_separated {rest : List Char} (hrest : Ends rest) {a : α} {as : List α}
    {ls t : List Lexeme} (hls : CanLex g (f.chars a ++ (moreChars f.chars as ++ rest)) ls)
    (hread : separated trailing p ls = .ok ((a :: as).map f.tree, t)) : ∀ b ∈ a :: as, f.Clean b := by
  rw [separated, bind_of_ok rfl] at hread
  exact h.clean_of_separatedFrom trailing hrest hls hread

end ReadBack

end DatasetSql.Statement.Parser
