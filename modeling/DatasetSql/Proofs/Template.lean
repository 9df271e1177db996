import DatasetSql.Text.Search
import Mathlib.Data.List.Basic

/-!
# Templates

A text with numbered holes. A text that depends on the names of some markers *prints* a list of
numbers if it is a template with these holes, in this order, whatever the names are
(`Template.Prints`). Putting a name in place of another that fills the holes is filling them with the
new name, as long as the old one does not begin anywhere else (`Template.replaceAll_fill`).
-/

namespace DatasetSql

/-- A piece of a template. -/
inductive Piece where
  | text (s : String)
  | hole (k : Nat)
deriving DecidableEq, Repr

/-- A text with numbered holes. -/
abbrev Template := List Piece

namespace Template

/-- The text with its holes filled. -/
def fill (names : Nat → String) : Template → String
  | [] => ""
  | .text s :: ps => s ++ fill names ps
  | .hole k :: ps => names k ++ fill names ps

/-- The numbers of the holes, from left to right. -/
def holes : Template → List Nat
  | [] => []
  | .text _ :: ps => holes ps
  | .hole k :: ps => k :: holes ps

theorem fill_append (names : Nat → String) (t u : Template) :
    fill names (t ++ u) = fill names t ++ fill names u := by
  induction t with
  | nil => exact (String.empty_append).symm
  | cons p t ih =>
    cases p with
    | text s => rw [List.cons_append, fill, ih, fill, String.append_assoc]
    | hole k => rw [List.cons_append, fill, ih, fill, String.append_assoc]

theorem holes_append (t u : Template) : holes (t ++ u) = holes t ++ holes u := by
  induction t with
  | nil => rfl
  | cons p t ih =>
    cases p with
    | text s => exact ih
    | hole k => exact congrArg (k :: ·) ih

/-! ## Texts that are templates -/

/-- The text is a template whose holes have these numbers, in this order. -/
def Prints (f : (Nat → String) → String) (ks : List Nat) : Prop :=
  ∃ t : Template, t.holes = ks ∧ ∀ names, f names = t.fill names

/-- A fixed text is a template without holes. -/
theorem Prints.text (s : String) : Prints (fun _ => s) [] :=
  ⟨[.text s], rfl, fun _ => (String.append_empty).symm⟩

theorem Prints.hole (k : Nat) : Prints (fun names => names k) [k] :=
  ⟨[.hole k], rfl, fun _ => (String.append_empty).symm⟩

/-- Texts that are templates make one together. -/
theorem Prints.append {f g : (Nat → String) → String} {ks ls : List Nat} (hf : Prints f ks)
    (hg : Prints g ls) : Prints (fun names => f names ++ g names) (ks ++ ls) := by
  obtain ⟨t, rfl, ht⟩ := hf
  obtain ⟨u, rfl, hu⟩ := hg
  refine ⟨t ++ u, holes_append t u, fun names => ?_⟩
  show f names ++ g names = fill names (t ++ u)
  rw [fill_append, ht names, hu names]

/-- A fixed text before a template. -/
theorem Prints.after {f : (Nat → String) → String} {ks : List Nat} (s : String) (hf : Prints f ks) :
    Prints (fun names => s ++ f names) ks := (Prints.text s).append hf

/-- A fixed text behind a template. -/
theorem Prints.before {f : (Nat → String) → String} {ks : List Nat} (hf : Prints f ks) (s : String) :
    Prints (fun names => f names ++ s) ks := by
  have h := hf.append (.text s)
  rwa [List.append_nil] at h

/-- The texts are templates; their holes, taken together, have these numbers. -/
def PrintsAll (f : (Nat → String) → List String) (ks : List Nat) : Prop :=
  ∃ ts : List Template, ts.flatMap holes = ks ∧ ∀ names, f names = ts.map (fill names)

theorem PrintsAll.nil : PrintsAll (fun _ => []) [] := ⟨[], rfl, fun _ => rfl⟩

theorem PrintsAll.cons {f : (Nat → String) → String} {g : (Nat → String) → List String}
    {ks ls : List Nat} (hf : Prints f ks) (hg : PrintsAll g ls) :
    PrintsAll (fun names => f names :: g names) (ks ++ ls) := by
  obtain ⟨t, rfl, ht⟩ := hf
  obtain ⟨ts, rfl, hts⟩ := hg
  refine ⟨t :: ts, rfl, fun names => ?_⟩
  show f names :: g names = (t :: ts).map (fill names)
  rw [ht names, hts names, List.map_cons]

/-- Separators between templates make one template. -/
theorem PrintsAll.joined {f : (Nat → String) → List String} {ks : List Nat} (sep : String)
    (hf : PrintsAll f ks) : Prints (fun names => Text.joined sep (f names)) ks := by
  obtain ⟨ts, rfl, hts⟩ := hf
  simp only [hts]
  clear hts
  induction ts with
  | nil => exact .text ""
  | cons t ts ih =>
    have ht : Prints (fun names => fill names t) t.holes := ⟨t, rfl, fun _ => rfl⟩
    cases ts with
    | nil =>
      rw [List.flatMap_cons, List.flatMap_nil, List.append_nil]
      simpa [Text.joined] using ht
    | cons u ts =>
      have h := (ht.before sep).append ih
      simpa [Text.joined] using h

/-- The text is left out whatever the names are, or it is a template whose holes have these
numbers. -/
inductive PrintsOption : ((Nat → String) → Option String) → List Nat → Prop
  | none : PrintsOption (fun _ => none) []
  | some {f : (Nat → String) → String} {ks : List Nat} (h : Prints f ks) :
    PrintsOption (fun names => some (f names)) ks

/-! ## The holes of a text are its own -/

/-- The characters and holes of a template. -/
def items : Template → List (Char ⊕ Nat)
  | [] => []
  | .text s :: ps => s.toList.map .inl ++ items ps
  | .hole k :: ps => .inr k :: items ps

/-- Characters with the holes between them filled. -/
def expand (names : Nat → List Char) (xs : List (Char ⊕ Nat)) : List Char :=
  xs.flatMap (Sum.elim (fun c => [c]) names)

theorem expand_append (names : Nat → List Char) (xs ys : List (Char ⊕ Nat)) :
    expand names (xs ++ ys) = expand names xs ++ expand names ys := List.flatMap_append

theorem expand_inl (names : Nat → List Char) (c : Char) (xs : List (Char ⊕ Nat)) :
    expand names (.inl c :: xs) = c :: expand names xs := rfl

theorem expand_inr (names : Nat → List Char) (k : Nat) (xs : List (Char ⊕ Nat)) :
    expand names (.inr k :: xs) = names k ++ expand names xs := rfl

/-- Filling a template fills its characters and holes one by one. -/
theorem toList_fill (names : Nat → List Char) (t : Template) :
    (t.fill fun k => String.ofList (names k)).toList = expand names t.items := by
  induction t with
  | nil => rfl
  | cons p t ih =>
    cases p with
    | text s =>
      have hs : expand names (s.toList.map .inl) = s.toList := by
        simp [expand, List.flatMap_map]
      rw [fill, String.toList_append, ih, items, expand_append, hs]
    | hole k =>
      rw [fill, String.toList_append, String.toList_ofList, ih]
      rfl

/-- The holes of a template are those among its items. -/
theorem holes_eq_filterMap (t : Template) : t.holes = t.items.filterMap Sum.getRight? := by
  induction t with
  | nil => rfl
  | cons p t ih =>
    cases p with
    | text s =>
      rw [holes, items, List.filterMap_append, List.filterMap_map, ih]
      simp
    | hole k => exact congrArg (k :: ·) ih

/-- A character is no hole: some name begins with another character. -/
theorem expand_inl_ne_inr (c : Char) (k : Nat) (xs ys : List (Char ⊕ Nat)) :
    ∃ names, expand names (.inl c :: xs) ≠ expand names (.inr k :: ys) := by
  obtain ⟨a, ha⟩ : ∃ a, a ≠ c := by
    by_cases hc : c = 'a'
    · exact ⟨'b', by rw [hc]; decide⟩
    · exact ⟨'a', Ne.symm hc⟩
  refine ⟨fun _ => [a], fun h => ?_⟩
  rw [expand_inl, expand_inr] at h
  exact ha (List.cons.inj h).1.symm

/-- Two lists of items with the same text for all names are the same list. Long names of a character
of their own tell the holes apart. -/
theorem items_eq_of_expand {xs ys : List (Char ⊕ Nat)}
    (h : ∀ names, expand names xs = expand names ys) : xs = ys := by
  induction xs generalizing ys with
  | nil =>
    cases ys with
    | nil => rfl
    | cons y ys => cases y <;> simpa [expand] using h fun _ => ['a']
  | cons x xs ih =>
    cases ys with
    | nil => cases x <;> simpa [expand] using h fun _ => ['a']
    | cons y ys =>
      match x, y with
      | .inl c, .inl e =>
        have hce : c = e := (List.cons.inj (h fun _ => [])).1
        rw [hce, ih fun names => (List.cons.inj (h names)).2]
      | .inl c, .inr k =>
        obtain ⟨names, hne⟩ := expand_inl_ne_inr c k xs ys
        exact absurd (h names) hne
      | .inr k, .inl c =>
        obtain ⟨names, hne⟩ := expand_inl_ne_inr c k ys xs
        exact absurd (h names).symm hne
      | .inr k, .inr l =>
        -- names that tell the two numbers apart
        have hkl : k = l := by
          by_contra hne
          have hnames := h fun j => if j = k then ['a'] else ['b']
          rw [expand_inr, expand_inr, if_pos rfl, if_neg (Ne.symm hne)] at hnames
          exact absurd (List.cons.inj hnames).1 (by decide)
        subst hkl
        have htail (names : Nat → List Char) : expand names xs = expand names ys := by
          have hnames := h names
          rw [expand_inr, expand_inr] at hnames
          exact List.append_cancel_left hnames
        rw [ih htail]

/-- A text is a template in one way only, up to how its pieces are cut. -/
theorem Prints.unique {f : (Nat → String) → String} {ks ls : List Nat} (hk : Prints f ks)
    (hl : Prints f ls) : ks = ls := by
  obtain ⟨t, rfl, ht⟩ := hk
  obtain ⟨u, rfl, hu⟩ := hl
  have hitems : t.items = u.items := by
    apply items_eq_of_expand
    intro names
    rw [← toList_fill, ← toList_fill, ← ht, ← hu]
  rw [holes_eq_filterMap, holes_eq_filterMap, hitems]

/-! ## Exchanging the name in the holes -/

/-- The pattern begins nowhere in the template but at the holes, when these are filled with it. -/
def Apart (pattern : String) : Template → Prop
  | [] => True
  | .text s :: ps =>
    (∀ before after : List Char, s.toList = before ++ after → after ≠ [] →
      ¬ pattern.toList <+: after ++ (fill (fun _ => pattern) ps).toList) ∧ Apart pattern ps
  | .hole _ :: ps => Apart pattern ps

/-- Behind a single character the pattern stays apart exactly if it does not start there. -/
theorem apart_singleton_cons {pattern : String} {c : Char} {t : Template} :
    Apart pattern (.text (String.singleton c) :: t) ↔
      ¬ pattern.toList <+: c :: (fill (fun _ => pattern) t).toList ∧ t.Apart pattern := by
  rw [Apart, String.toList_singleton]
  refine and_congr_left' ⟨fun h => h [] [c] rfl (List.cons_ne_nil c []), ?_⟩
  intro h before after hc hafter
  rcases List.append_eq_singleton_iff.1 hc.symm with ⟨-, rfl⟩ | ⟨-, rfl⟩
  · exact h
  · exact absurd rfl hafter

/-- Characters at which no occurrence begins are kept. -/
theorem replaceFrom_append {pattern replacement s rest : List Char}
    (h : ∀ before after : List Char, s = before ++ after → after ≠ [] →
      ¬ pattern <+: after ++ rest) :
    Text.replaceFrom pattern replacement 0 (s ++ rest) =
      s ++ Text.replaceFrom pattern replacement 0 rest := by
  induction s with
  | nil => rfl
  | cons c s ih =>
    have hc : ¬ pattern <+: c :: (s ++ rest) := h [] (c :: s) rfl (List.cons_ne_nil c s)
    rw [List.cons_append, Text.replaceFrom, if_neg (by simpa using hc)]
    rw [ih fun before after hs => h (c :: before) after (by rw [hs, List.cons_append])]
    rfl

/-- Characters of an occurrence are passed over. -/
theorem replaceFrom_skip (pattern replacement s rest : List Char) :
    Text.replaceFrom pattern replacement s.length (s ++ rest) =
      Text.replaceFrom pattern replacement 0 rest := by
  induction s with
  | nil => rfl
  | cons c s ih => exact ih

/-- An occurrence is replaced. -/
theorem replaceFrom_occurrence {pattern : List Char} (replacement rest : List Char)
    (h : pattern ≠ []) :
    Text.replaceFrom pattern replacement 0 (pattern ++ rest) =
      replacement ++ Text.replaceFrom pattern replacement 0 rest := by
  cases pattern with
  | nil => exact absurd rfl h
  | cons c cs =>
    have hprefix : (c :: cs).isPrefixOf (c :: (cs ++ rest)) = true := by
      rw [List.isPrefixOf_iff_prefix]
      exact List.prefix_append (c :: cs) rest
    rw [List.cons_append, Text.replaceFrom, if_pos hprefix]
    congr 1
    exact replaceFrom_skip (c :: cs) replacement cs rest

/-- Where an occurrence begins in the text before `rest`, the replacement shows. -/
theorem apart_of_replaceFrom {p r : Char} {pattern replacement s rest target : List Char}
    (hpr : p ≠ r)
    (h : Text.replaceFrom (p :: pattern) (r :: replacement) 0 (s ++ rest) = s ++ target) :
    (∀ before after : List Char, s = before ++ after → after ≠ [] →
      ¬ p :: pattern <+: after ++ rest) ∧
      Text.replaceFrom (p :: pattern) (r :: replacement) 0 rest = target := by
  induction s with
  | nil =>
    refine ⟨fun before after hs hafter => absurd ?_ hafter, h⟩
    exact (List.append_eq_nil_iff.1 hs.symm).2
  | cons c s ih =>
    rw [List.cons_append, Text.replaceFrom] at h
    split at h
    next hprefix =>
      -- the occurrence begins with `p`, which is kept on the right but replaced on the left
      have hc : p = c := by
        rw [List.isPrefixOf_iff_prefix] at hprefix
        exact (List.cons_prefix_cons.1 hprefix).1
      have hr : r = c := (List.cons.inj h).1
      exact absurd (hc.trans hr.symm) hpr
    next hprefix =>
      obtain ⟨hapart, hrest⟩ := ih (List.cons.inj h).2
      refine ⟨fun before after hs hafter => ?_, hrest⟩
      cases before with
      | nil =>
        rw [List.nil_append] at hs
        rw [← hs]
        simpa using hprefix
      | cons b before => exact hapart before after (List.cons.inj hs).2 hafter

/-- Replacing the name that fills the holes is filling them with the replacement, exactly if the name
begins nowhere else. -/
theorem replaceAll_fill_iff {p r : Char} {pattern replacement : List Char} (hpr : p ≠ r)
    (t : Template) :
    Text.replaceAll (String.ofList (p :: pattern)) (String.ofList (r :: replacement))
        (t.fill fun _ => String.ofList (p :: pattern)) =
        (t.fill fun _ => String.ofList (r :: replacement)) ↔
      t.Apart (String.ofList (p :: pattern)) := by
  rw [Text.replaceAll, ← String.toList_inj]
  simp only [String.toList_ofList]
  induction t with
  | nil => exact iff_of_true rfl trivial
  | cons piece t ih =>
    cases piece with
    | text s =>
      simp only [fill, String.toList_append, Apart, String.toList_ofList]
      constructor
      · intro h
        obtain ⟨hapart, hrest⟩ := apart_of_replaceFrom hpr h
        exact ⟨hapart, ih.1 hrest⟩
      · rintro ⟨hapart, ht⟩
        rw [replaceFrom_append hapart, ih.2 ht]
    | hole k =>
      simp only [fill, String.toList_append, Apart, String.toList_ofList]
      -- an occurrence at the front is replaced, whatever follows it
      rw [replaceFrom_occurrence _ _ (List.cons_ne_nil p pattern), List.append_cancel_left_eq]
      exact ih

/-! ## Cutting a text at a name -/

/-- Cuts a text at the occurrences of a nonempty pattern, which become holes with the numbers from
`k` on, once `skip` characters of the current occurrence have been passed over. -/
def cutFrom (pattern : List Char) : Nat → Nat → List Char → Template
  | _, _, [] => []
  | k, skip + 1, _ :: cs => cutFrom pattern k skip cs
  | k, 0, c :: cs =>
    if pattern.isPrefixOf (c :: cs) then .hole k :: cutFrom pattern (k + 1) (pattern.length - 1) cs
    else .text (String.singleton c) :: cutFrom pattern k 0 cs

/-- The template of a text whose holes are the occurrences of a pattern, numbered from the left. -/
def cut (pattern s : String) : Template := cutFrom pattern.toList 0 0 s.toList

theorem fill_cutFrom (pattern replacement : String) (cs : List Char) (k skip : Nat) :
    ((cutFrom pattern.toList k skip cs).fill fun _ => replacement) =
      String.ofList (Text.replaceFrom pattern.toList replacement.toList skip cs) := by
  induction cs generalizing k skip with
  | nil => rw [cutFrom, Text.replaceFrom]; rfl
  | cons c cs ih =>
    cases skip with
    | succ skip => exact ih k skip
    | zero =>
      rw [cutFrom, Text.replaceFrom]
      split
      · rw [fill, ih, String.ofList_append, String.ofList_toList]
      · rw [fill, ih, String.ofList_cons]

/-- Filling the holes of a cut text is replacing the pattern. -/
theorem fill_cut (pattern replacement s : String) :
    ((cut pattern s).fill fun _ => replacement) = Text.replaceAll pattern replacement s :=
  fill_cutFrom pattern replacement s.toList 0 0

/-- The holes of a cut text are numbered from left to right. -/
theorem holes_cut (pattern s : String) :
    (cut pattern s).holes = List.range (cut pattern s).holes.length := by
  suffices h : ∀ (cs : List Char) (k skip : Nat), (cutFrom pattern.toList k skip cs).holes =
      List.range' k (cutFrom pattern.toList k skip cs).holes.length by
    rw [List.range_eq_range']
    exact h s.toList 0 0
  intro cs
  induction cs with
  | nil => intro k skip; rw [cutFrom]; rfl
  | cons c cs ih =>
    intro k skip
    cases skip with
    | succ skip => exact ih k skip
    | zero =>
      rw [cutFrom]
      split
      · rw [holes, List.length_cons, List.range'_succ, ← ih]
      · exact ih k 0

end Template

end DatasetSql
