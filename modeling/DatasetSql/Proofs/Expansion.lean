import DatasetSql.Proofs.Outcome
import DatasetSql.Proofs.Search
import DatasetSql.Settings.Variables

/-!
# Replacing variables

A text is read from left to right as characters that stand for themselves and references to
variables, in one way only. The scan for references cuts it in the same places, so that each reference
is replaced by the value of its variable as it is, and the first segment without a value is the error.
-/

namespace DatasetSql

namespace Variables

/-! ## Segments -/

/-- A segment of a text. -/
inductive Segment where
  | plain (c : Char)
  | braced (name : List Char)
  | bare (name : List Char)
  /-- A `$` that no name follows. -/
  | dollar
  /-- A reference in braces that are not closed. -/
  | unclosed (name : List Char)

namespace Segment

/-- How a segment is written. -/
def text : Segment → List Char
  | plain c => [c]
  | braced name => '$' :: '\x7b' :: name ++ ['\x7d']
  | bare name => '$' :: name
  | dollar => ['$']
  | unclosed name => '$' :: '\x7b' :: name

/-- What a segment looks like that has a rest of the text behind it: names in braces end at the first
brace, names without braces are as long as possible. -/
def Fits (rest : List Char) : Segment → Prop
  | plain c => c ≠ '$'
  | braced name => '\x7d' ∉ name
  | bare name => name ≠ [] ∧ (∀ c ∈ name, isNameChar c = true) ∧
      ∀ c, rest.head? = some c → isNameChar c = false
  | dollar => ∀ c, rest.head? = some c → c ≠ '\x7b' ∧ isNameChar c = false
  | unclosed name => '\x7d' ∉ name ∧ rest = []

instance decidableFits (rest : List Char) : (seg : Segment) → Decidable (seg.Fits rest)
  | plain c => inferInstanceAs (Decidable (c ≠ '$'))
  | braced name => inferInstanceAs (Decidable ('\x7d' ∉ name))
  | bare name => decidable_of_iff (name ≠ [] ∧ name.all isNameChar = true ∧
      rest.head?.all (fun c => !isNameChar c) = true) (by cases rest <;> simp [Fits])
  | dollar => decidable_of_iff (rest.head?.all (fun c => c != '\x7b' && !isNameChar c) = true)
      (by cases rest <;> simp [Fits])
  | unclosed name => inferInstanceAs (Decidable ('\x7d' ∉ name ∧ rest = []))

/-- The variable that a segment refers to. -/
def name? : Segment → Option String
  | braced name | bare name => some (String.ofList name)
  | plain _ | dollar | unclosed _ => none

/-- What a segment stands for. -/
def value (env : Environment) : Segment → Except SettingsError (List Char)
  | plain c => .ok [c]
  | dollar => .ok ['$']
  | braced name | bare name =>
    match env.lookup (String.ofList name) with
    | some value => .ok value.toList
    | none => .error (.missingVariable (String.ofList name))
  | unclosed name =>
    .error (.invalidConfig ("unterminated variable reference '$\x7b" ++ String.ofList name ++ "'"))

/-- The piece that a segment is cut into. -/
def piece : Segment → Piece
  | plain c => .char c
  | dollar => .char '$'
  | braced name | bare name => .reference name
  | unclosed name => .unterminated name

end Segment

/-- A text consists of segments that fit. -/
inductive Splits : List Char → List Segment → Prop
  | nil : Splits [] []
  | cons {s rest : List Char} {seg : Segment} {segs : List Segment} (htext : s = seg.text ++ rest)
      (hfits : seg.Fits rest) (hrest : Splits rest segs) : Splits s (seg :: segs)

/-- No segment is empty, so a text has finitely many. -/
theorem Segment.text_ne_nil (seg : Segment) : seg.text ≠ [] := by
  cases seg <;> exact List.cons_ne_nil _ _

/-! ## One way to read a text -/

theorem isNameChar_brace : isNameChar '\x7b' = false := by decide +kernel

theorem isNameChar_dollar : isNameChar '$' = false := by decide +kernel

/-- The first segment of a text, and the rest. -/
def first : List Char → Option (Segment × List Char)
  | [] => none
  | c :: s =>
    if c ≠ '$' then some (.plain c, s)
    else if s.head? = some '\x7b' then
      match s.tail.span (· != '\x7d') with
      | (name, []) => some (.unclosed name, [])
      | (name, _ :: rest) => some (.braced name, rest)
    else
      match s.span isNameChar with
      | ([], rest) => some (.dollar, rest)
      | (name, rest) => some (.bare name, rest)

/-- The first segment of a text is determined by what follows it. -/
theorem first_eq {seg : Segment} {rest : List Char} (h : seg.Fits rest) :
    first (seg.text ++ rest) = some (seg, rest) := by
  cases seg with
  | plain c => exact if_pos h
  | braced name =>
    have hspan : (name ++ '\x7d' :: rest).span (· != '\x7d') = (name, '\x7d' :: rest) :=
      Text.span_append_of_notMem h fun c hc => (Option.some.inj hc).symm
    simp [first, Segment.text, -List.span_eq_takeWhile_dropWhile, hspan]
  | unclosed name =>
    obtain ⟨hname, rfl⟩ := h
    have hspan : (name ++ []).span (· != '\x7d') = (name, []) :=
      Text.span_append_of_notMem hname fun c hc => nomatch hc
    rw [List.append_nil] at hspan
    simp [first, Segment.text, -List.span_eq_takeWhile_dropWhile, hspan]
  -- a bare name is told from one in braces by its first character
  | bare name =>
    obtain ⟨hne, hname, hrest⟩ := h
    obtain ⟨c, name, rfl⟩ := List.exists_cons_of_ne_nil hne
    have hc : c ≠ '\x7b' := by
      rintro rfl
      exact absurd (hname _ List.mem_cons_self) (by simp [isNameChar_brace])
    have hspan := Text.span_append hname hrest
    rw [List.cons_append] at hspan
    simp [first, Segment.text, -List.span_eq_takeWhile_dropWhile, hspan, hc]
  | dollar =>
    have hhead : rest.head? ≠ some '\x7b' := fun hrest => (h _ hrest).1 rfl
    have hspan : rest.span isNameChar = ([], rest) :=
      Text.span_append (List.forall_mem_nil _) fun c hc => (h c hc).2
    simp [first, Segment.text, -List.span_eq_takeWhile_dropWhile, hspan, hhead]

/-- A text falls into segments in one way only. The induction is on the segments, each being the
first of what is left. -/
theorem Splits.unique {s : List Char} {segs segs' : List Segment} (h : Splits s segs)
    (h' : Splits s segs') : segs' = segs := by
  induction h generalizing segs' with
  | nil =>
    cases h' with
    | nil => rfl
    | cons htext => simp [Segment.text_ne_nil] at htext
  | @cons s rest seg segs htext hfits hrest ih =>
    cases h' with
    | nil => simp [Segment.text_ne_nil] at htext
    | @cons _ rest' seg' segs' htext' hfits' hrest' =>
      have hfirst := first_eq hfits
      rw [← htext, htext', first_eq hfits'] at hfirst
      cases hfirst
      rw [ih hrest']

/-- A text that is not empty starts with a segment. -/
theorem exists_segment (c : Char) (s : List Char) :
    ∃ seg rest, c :: s = Segment.text seg ++ rest ∧ seg.Fits rest := by
  by_cases hc : c = '$'
  · subst hc
    by_cases hbrace : s.head? = some '\x7b'
    · obtain ⟨s, rfl⟩ := List.head?_eq_some_iff.1 hbrace
      -- behind an opening brace, what counts is whether there is a closing one
      by_cases hclosed : '\x7d' ∈ s
      · obtain ⟨name, rest, rfl, hname⟩ := List.eq_append_cons_of_mem hclosed
        exact ⟨.braced name, rest, by simp [Segment.text], hname⟩
      · exact ⟨.unclosed s, [], by simp [Segment.text], hclosed, rfl⟩
    · have hwhole := List.takeWhile_append_dropWhile (p := isNameChar) (l := s)
      have hstop : ∀ c, (s.dropWhile isNameChar).head? = some c → isNameChar c = false := by
        intro c hc
        have hnot := List.head?_dropWhile_not isNameChar s
        rw [hc] at hnot
        simpa using hnot
      -- otherwise the name goes as far as its characters do; without any, the dollar stands alone
      by_cases hname : s.takeWhile isNameChar = []
      · rw [hname, List.nil_append] at hwhole
        refine ⟨.dollar, s, rfl, fun c hc => ⟨?_, hstop c (by rw [hwhole, hc])⟩⟩
        rintro rfl
        exact hbrace hc
      · refine ⟨.bare (s.takeWhile isNameChar), s.dropWhile isNameChar, ?_, hname, ?_, hstop⟩
        · rw [Segment.text, List.cons_append, hwhole]
        · exact fun c hc => List.mem_takeWhile_imp hc
  · exact ⟨.plain c, s, rfl, hc⟩

/-- Every text falls into segments. -/
theorem exists_splits (s : List Char) : ∃ segs, Splits s segs := by
  induction hn : s.length using Nat.strong_induction_on generalizing s with
  | h n ih =>
    cases s with
    | nil => exact ⟨[], .nil⟩
    | cons c s =>
      obtain ⟨seg, rest, htext, hfits⟩ := exists_segment c s
      have hpos : 0 < seg.text.length := List.length_pos_of_ne_nil seg.text_ne_nil
      have hlt : rest.length < n := by
        rw [← hn, htext, List.length_append]
        omega
      obtain ⟨segs, hrest⟩ := ih _ hlt rest rfl
      exact ⟨seg :: segs, .cons htext hfits hrest⟩

/-- A text without a dollar falls into its characters. -/
theorem splits_plain {s : List Char} (h : '$' ∉ s) : Splits s (s.map .plain) := by
  induction s with
  | nil => exact .nil
  | cons c s ih =>
    rw [List.mem_cons, not_or] at h
    exact .cons rfl (Ne.symm h.1) (ih h.2)

/-- Braces that are not closed reach to the end of the text. -/
theorem Splits.eq_nil_of_unclosed {s name : List Char} {before after : List Segment}
    (h : Splits s (before ++ .unclosed name :: after)) : after = [] := by
  induction before generalizing s with
  | nil =>
    obtain _ | ⟨-, ⟨-, rfl⟩, hrest⟩ := h
    exact hrest.unique .nil ▸ rfl
  | cons seg before ih =>
    obtain _ | ⟨-, -, hrest⟩ := h
    exact ih hrest

/-! ## Cutting into pieces -/

/-- A name in braces ends at the first closing one. -/
theorem pieces_braced {name : List Char} (h : '\x7d' ∉ name) (read rest : List Char) :
    pieces (.braced read) (name ++ '\x7d' :: rest) =
      .reference (read.reverse ++ name) :: pieces .outside rest := by
  induction name generalizing read with
  | nil => simp [pieces]
  | cons c name ih =>
    rw [List.mem_cons, not_or] at h
    simp [pieces, Ne.symm h.1, ih h.2]

/-- Braces that are never closed take the rest of the text. -/
theorem pieces_unclosed {name : List Char} (h : '\x7d' ∉ name) (read : List Char) :
    pieces (.braced read) name = [.unterminated (read.reverse ++ name)] := by
  induction name generalizing read with
  | nil => simp [pieces]
  | cons c name ih =>
    rw [List.mem_cons, not_or] at h
    simp [pieces, Ne.symm h.1, ih h.2]

/-- A bare name ends before the first character that is not one of a name. -/
theorem pieces_bare {name rest : List Char} (hname : ∀ c ∈ name, isNameChar c = true)
    (hrest : ∀ c, rest.head? = some c → isNameChar c = false) (read : List Char) :
    pieces (.bare read) (name ++ rest) =
      .reference (read.reverse ++ name) :: pieces .outside rest := by
  induction name generalizing read with
  | nil =>
    cases rest with
    | nil => simp [pieces]
    | cons c rest =>
      have hc : isNameChar c = false := hrest c rfl
      by_cases hdollar : c = '$' <;> simp [pieces, hc, hdollar, isNameChar_dollar]
  | cons c name ih =>
    obtain ⟨hc, hname⟩ := List.forall_mem_cons.1 hname
    simp [pieces, hc, ih hname]

/-- The scanner gives the piece of the first segment and goes on behind it. -/
theorem pieces_segment {seg : Segment} {rest : List Char} (h : seg.Fits rest) :
    pieces .outside (seg.text ++ rest) = seg.piece :: pieces .outside rest := by
  cases seg with
  | plain c =>
    have hc : c ≠ '$' := h
    simp [Segment.text, Segment.piece, pieces, hc]
  | braced name => simp [Segment.text, Segment.piece, pieces, pieces_braced h]
  | unclosed name =>
    obtain ⟨hname, rfl⟩ := h
    simp [Segment.text, Segment.piece, pieces, pieces_unclosed hname]
  | bare name =>
    obtain ⟨hne, hname, hrest⟩ := h
    obtain ⟨c, name, rfl⟩ := List.exists_cons_of_ne_nil hne
    obtain ⟨hc, hname⟩ := List.forall_mem_cons.1 hname
    have hbrace : c ≠ '\x7b' := by
      rintro rfl
      exact absurd hc (by simp [isNameChar_brace])
    simp [Segment.text, Segment.piece, pieces, hc, hbrace, pieces_bare hname hrest]
  | dollar =>
    cases rest with
    | nil => rfl
    | cons c rest =>
      obtain ⟨hbrace, hc⟩ := h c rfl
      -- behind a lone dollar another one may stand
      by_cases hdollar : c = '$' <;>
        simp [Segment.text, Segment.piece, pieces, hc, hbrace, hdollar, isNameChar_dollar]

/-- The scanner cuts a text into the pieces of its segments. -/
theorem Splits.pieces_eq {s : List Char} {segs : List Segment} (h : Splits s segs) :
    pieces .outside s = segs.map Segment.piece := by
  induction h with
  | nil => rfl
  | cons htext hfits _ ih => rw [htext, pieces_segment hfits, ih, List.map_cons]

/-! ## Values -/

/-- A piece is resolved to the value of its segment. -/
theorem Segment.resolve_piece (env : Environment) (seg : Segment) :
    seg.piece.resolve env = seg.value env := by
  cases seg <;> rfl

/-- The values of all pieces are joined, or the first error is given. -/
theorem resolveAll_eq (env : Environment) (segs : List Segment) :
    resolveAll env (segs.map Segment.piece) = List.flatten <$> segs.mapM (Segment.value env) := by
  induction segs with
  | nil => rfl
  | cons seg segs ih =>
    rw [List.map_cons, resolveAll, ih, seg.resolve_piece, List.mapM_cons]
    cases seg.value env with
    | error e => rfl
    | ok text => cases segs.mapM (Segment.value env) <;> rfl

end Variables

open Variables

/-- A text is expanded segment by segment, from left to right. -/
theorem expandVariables_eq (env : Environment) {s : String} {segs : List Segment}
    (h : Splits s.toList segs) : expandVariables env s =
      (fun texts => String.ofList texts.flatten) <$> segs.mapM (Segment.value env) := by
  rw [expandVariables, h.pieces_eq, resolveAll_eq]
  cases segs.mapM (Segment.value env) <;> rfl

/-- The expansion succeeds exactly if every segment has a value, and gives these values one after
the other. -/
theorem expandVariables_eq_ok {env : Environment} {s result : String} {segs : List Segment}
    (h : Splits s.toList segs) : expandVariables env s = .ok result ↔ ∃ texts,
      List.Forall₂ (fun seg text => seg.value env = .ok text) segs texts ∧
        result.toList = texts.flatten := by
  rw [expandVariables_eq env h]
  constructor
  · intro hok
    obtain ⟨texts, htexts, hresult⟩ := bind_eq_ok.1 hok
    cases hresult
    exact ⟨texts, mapM_eq_ok.1 htexts, String.toList_ofList⟩
  · rintro ⟨texts, htexts, hresult⟩
    rw [mapM_eq_ok.2 htexts, ← String.ofList_toList (s := result), hresult]
    rfl

/-- The error is that of the leftmost segment without a value. -/
theorem expandVariables_eq_error {env : Environment} {s : String} {segs : List Segment}
    {e : SettingsError} (h : Splits s.toList segs) : expandVariables env s = .error e ↔
      ∃ before seg after, segs = before ++ seg :: after ∧
        (∀ x ∈ before, ∃ text, x.value env = .ok text) ∧ seg.value env = .error e := by
  rw [← mapM_eq_error, expandVariables_eq env h]
  cases segs.mapM (Segment.value env) with
  | error e' => constructor <;> (intro herror; cases herror; rfl)
  | ok texts => exact iff_of_false (fun herror => nomatch herror) fun herror => nomatch herror

/-- A text without a dollar is expanded to itself. -/
theorem expandVariables_plain (env : Environment) {s : String} (h : '$' ∉ s.toList) :
    expandVariables env s = .ok s := by
  rw [expandVariables_eq_ok (splits_plain h)]
  refine ⟨s.toList.map fun c => [c], ?_, ?_⟩
  · rw [List.forall₂_map_left_iff, List.forall₂_map_right_iff, List.forall₂_same]
    exact fun c _ => rfl
  · rw [← List.flatMap_def, List.flatMap_singleton']

/-- Only braces that are not closed make a text invalid. -/
theorem Variables.Segment.value_eq_invalid {env : Environment} {seg : Segment} {message : String}
    (h : seg.value env = .error (.invalidConfig message)) : ∃ name, seg = .unclosed name := by
  cases seg with
  | plain | dollar => exact nomatch h
  | unclosed name => exact ⟨name, rfl⟩
  | braced name | bare name =>
    cases hlookup : env.lookup (String.ofList name) <;> simp [Segment.value, hlookup] at h

/-- A variable that a segment with a value refers to is set. -/
theorem Variables.Segment.lookup_of_value {env : Environment} {seg : Segment} {text : List Char}
    (h : seg.value env = .ok text) : ∀ name ∈ seg.name?, env.lookup name ≠ none := by
  intro name hname hnone
  cases seg with
  | plain | dollar | unclosed => exact nomatch hname
  | braced name' | bare name' =>
    cases hname
    simp [Segment.value, hnone] at h

/-- A text is read in one way as segments. It becomes the texts of their values one after another, as
they are; if one has no value, the first such segment is the error. So a text without a `$` stays what
it is, and braces that are not closed are the error only if each variable before them is set. -/
theorem expandVariables_reading (env : Environment) (s : String) :
    ∃ segs, (∀ segs', Splits s.toList segs' ↔ segs' = segs) ∧
      (∀ result, expandVariables env s = .ok result ↔ ∃ texts,
        List.Forall₂ (fun seg text => seg.value env = .ok text) segs texts ∧
          result.toList = texts.flatten) ∧
      (∀ e, expandVariables env s = .error e ↔ ∃ before seg after,
        segs = before ++ seg :: after ∧ (∀ x ∈ before, ∃ text, x.value env = .ok text) ∧
          seg.value env = .error e) ∧
      ('$' ∉ s.toList → expandVariables env s = .ok s) ∧
      ∀ message, expandVariables env s = .error (.invalidConfig message) → ∃ before name,
        segs = before ++ [.unclosed name] ∧
          ∀ seg ∈ before, ∀ x ∈ seg.name?, env.lookup x ≠ none := by
  obtain ⟨segs, hsplits⟩ := exists_splits s.toList
  refine ⟨segs, fun segs' => ⟨hsplits.unique, fun h => h ▸ hsplits⟩,
    fun result => expandVariables_eq_ok hsplits, fun e => expandVariables_eq_error hsplits,
    expandVariables_plain env, fun message hmessage => ?_⟩
  obtain ⟨before, seg, after, rfl, hbefore, hseg⟩ := (expandVariables_eq_error hsplits).1 hmessage
  obtain ⟨name, rfl⟩ := Segment.value_eq_invalid hseg
  -- what is not closed goes on to the end of the text
  cases hsplits.eq_nil_of_unclosed
  refine ⟨before, name, rfl, fun seg hseg => ?_⟩
  obtain ⟨text, htext⟩ := hbefore seg hseg
  exact Segment.lookup_of_value htext

/-- A value that looks like a reference stays what it is, and a `$` before a reference is lone. A
variable that is not set is the error although braces behind it are not closed. -/
theorem expandVariables_reading_mixed :
    Splits "$A$B-$$\x7bA\x7d".toList
        [.bare ['A'], .bare ['B'], .plain '-', .dollar, .braced ['A']] ∧
      expandVariables [("A", "$B"), ("B", "b")] "$A$B-$$\x7bA\x7d" = .ok "$Bb-$$B" ∧
      Splits "$A$C$\x7bB".toList [.bare ['A'], .bare ['C'], .unclosed ['B']] ∧
      expandVariables [("A", "$B"), ("B", "b")] "$A$C$\x7bB" = .error (.missingVariable "C") := by
  have hset : Splits "$A$B-$$\x7bA\x7d".toList
      [.bare ['A'], .bare ['B'], .plain '-', .dollar, .braced ['A']] := by
    refine .cons rfl ?_ (.cons rfl ?_ (.cons rfl ?_ (.cons rfl ?_ (.cons rfl ?_ .nil)))) <;>
      decide +kernel
  have hunset : Splits "$A$C$\x7bB".toList [.bare ['A'], .bare ['C'], .unclosed ['B']] := by
    refine .cons rfl ?_ (.cons rfl ?_ (.cons rfl ?_ .nil)) <;> decide +kernel
  refine ⟨hset, ?_, hunset, ?_⟩
  · obtain ⟨segs, hsegs, hok, -⟩ :=
      expandVariables_reading [("A", "$B"), ("B", "b")] "$A$B-$$\x7bA\x7d"
    obtain rfl := (hsegs _).1 hset
    -- the value of a variable is not looked into again
    refine (hok _).2 ⟨[['$', 'B'], ['b'], ['-'], ['$'], ['$', 'B']], ?_, rfl⟩
    refine .cons rfl (.cons rfl (.cons rfl (.cons rfl (.cons rfl .nil))))
  · obtain ⟨segs, hsegs, -, herror, -⟩ :=
      expandVariables_reading [("A", "$B"), ("B", "b")] "$A$C$\x7bB"
    obtain rfl := (hsegs _).1 hunset
    refine (herror _).2 ⟨[.bare ['A']], .bare ['C'], [.unclosed ['B']], rfl, ?_, rfl⟩
    exact List.forall_mem_singleton.2 ⟨['$', 'B'], rfl⟩

end DatasetSql
