import DatasetSql.Compile.Path
import Mathlib.Data.List.Basic
import Mathlib.Logic.Relation

/-!
# Where paths lead

A path is shortened a part at a time: blank parts and single dots vanish, a double dot takes back the
name before it, and below the root it vanishes too. In whatever order this is done, the same names are
left. The resolved path is these names, so resolving it again changes nothing, and a path that goes on
behind a slash can be followed from where its first part leads.
-/

namespace DatasetSql

namespace Path

/-! ## Shortening -/

/-- A part that names something. -/
structure IsName (part : List Char) : Prop where
  ne_blank : part ≠ []
  ne_dot : part ≠ ['.']
  ne_dots : part ≠ ['.', '.']

/-- Parts of a path that lead to the same place as others that are fewer. -/
inductive Shortens : List (List Char) → List (List Char) → Prop
  | blank (before after : List (List Char)) : Shortens (before ++ [] :: after) (before ++ after)
  | dot (before after : List (List Char)) : Shortens (before ++ ['.'] :: after) (before ++ after)
  | back (before after : List (List Char)) {name : List Char} (hname : IsName name) :
      Shortens (before ++ name :: ['.', '.'] :: after) (before ++ after)
  /-- Above the root there is nothing. -/
  | top (after : List (List Char)) : Shortens (['.', '.'] :: after) after

/-- Parts come down to names by being shortened. -/
def Resolves (parts names : List (List Char)) : Prop :=
  Relation.ReflTransGen Shortens parts names ∧ ∀ name ∈ names, IsName name

/-- Shortening leaves out parts and adds none. -/
theorem Shortens.sublist {parts parts' : List (List Char)} (h : Shortens parts parts') :
    parts'.Sublist parts := by
  cases h with
  | blank before after | dot before after =>
    exact (List.Sublist.refl before).append (List.sublist_cons_self _ after)
  | back before after =>
    exact (List.Sublist.refl before).append (.cons _ (List.sublist_cons_self _ after))
  | top after => exact List.sublist_cons_self _ _

/-- The names that are left stood there from the start, in the same order. -/
theorem Resolves.sublist {parts names : List (List Char)} (h : Resolves parts names) :
    names.Sublist parts := by
  obtain ⟨hreach, -⟩ := h
  induction hreach with
  | refl => exact List.Sublist.refl _
  | tail _ hshortens ih => exact hshortens.sublist.trans ih

/-! ## Following parts -/

@[simp] theorem step_blank (place : List (List Char)) : step place [] = place := by
  simp [step]

@[simp] theorem step_dot (place : List (List Char)) : step place ['.'] = place := by
  simp [step]

@[simp] theorem step_dots (place : List (List Char)) : step place ['.', '.'] = place.tail := by
  simp [step]

theorem step_name {name : List Char} (h : IsName name) (place : List (List Char)) :
    step place name = name :: place := by
  rw [step, if_neg (by simp [h.ne_blank, h.ne_dot]), if_neg h.ne_dots]

/-- A part is empty, a dot, two dots or a name. -/
theorem isName_or (part : List Char) :
    part = [] ∨ part = ['.'] ∨ part = ['.', '.'] ∨ IsName part := by
  by_contra! h
  obtain ⟨hblank, hdot, hdots, hname⟩ := h
  exact hname ⟨hblank, hdot, hdots⟩

/-- Shortened parts lead to the same place. -/
theorem Shortens.foldl_eq {parts parts' : List (List Char)} (h : Shortens parts parts') :
    parts.foldl step [] = parts'.foldl step [] := by
  cases h with
  | blank | dot | top => simp
  | back before after hname => simp [step_name hname]

/-- Names alone lead down one after the other. -/
theorem foldl_names {names : List (List Char)} (h : ∀ name ∈ names, IsName name)
    (place : List (List Char)) : names.foldl step place = names.reverse ++ place := by
  induction names generalizing place with
  | nil => rfl
  | cons name names ih =>
    obtain ⟨hname, hnames⟩ := List.forall_mem_cons.1 h
    rw [List.foldl_cons, step_name hname, ih hnames]
    simp

/-- Following parts from a place shortens the names of that place and the parts behind them. -/
theorem resolves_foldl (parts : List (List Char)) {place : List (List Char)}
    (hplace : ∀ name ∈ place, IsName name) :
    Resolves (place.reverse ++ parts) (parts.foldl step place).reverse := by
  induction parts generalizing place with
  | nil =>
    rw [List.append_nil, List.foldl_nil]
    exact ⟨.refl, by simpa using hplace⟩
  | cons part parts ih =>
    rw [List.foldl_cons]
    rcases isName_or part with rfl | rfl | rfl | hname
    · obtain ⟨hreach, hnames⟩ := ih hplace
      rw [step_blank]
      exact ⟨.head (.blank _ _) hreach, hnames⟩
    · obtain ⟨hreach, hnames⟩ := ih hplace
      rw [step_dot]
      exact ⟨.head (.dot _ _) hreach, hnames⟩
    · rw [step_dots]
      -- a double dot takes back the last name, if there is one
      cases place with
      | nil =>
        obtain ⟨hreach, hnames⟩ := ih hplace
        exact ⟨.head (.top _) hreach, hnames⟩
      | cons name place =>
        obtain ⟨hname, hplace'⟩ := List.forall_mem_cons.1 hplace
        obtain ⟨hreach, hnames⟩ := ih hplace'
        rw [List.reverse_cons, List.append_assoc, List.singleton_append]
        exact ⟨.head (.back _ _ hname) hreach, hnames⟩
    · have h := ih (List.forall_mem_cons.2 ⟨hname, hplace⟩)
      rw [List.reverse_cons, List.append_assoc, List.singleton_append] at h
      rwa [step_name hname]

/-- However parts are shortened, they come down to the names where following them ends. -/
theorem resolves_iff {parts names : List (List Char)} :
    Resolves parts names ↔ names = (parts.foldl step []).reverse := by
  constructor
  · rintro ⟨hreach, hnames⟩
    have hfold : parts.foldl step [] = names.foldl step [] := by
      induction hreach using Relation.ReflTransGen.head_induction_on with
      | refl => rfl
      | head hshortens _ ih => exact hshortens.foldl_eq.trans ih
    rw [hfold, foldl_names hnames, List.append_nil, List.reverse_reverse]
  · rintro rfl
    exact resolves_foldl parts (List.forall_mem_nil _)

/-! ## Parts of a text -/

theorem split_eq (s : List Char) : split s = s.splitOn '/' := by
  induction s with
  | nil => rfl
  | cons c s ih =>
    rw [List.splitOn_cons_eq_if_modifyHead, split, ih]
    cases h : s.splitOn '/' with
    | nil => exact absurd h (List.splitOn_ne_nil _ _)
    | cons => rfl

theorem slash_notMem {s part : List Char} (h : part ∈ s.splitOn '/') : '/' ∉ part := by
  induction s generalizing part with
  | nil =>
    rw [List.splitOn_nil, List.mem_singleton] at h
    simp [h]
  | cons c s ih =>
    rw [List.splitOn_cons_eq_if_modifyHead] at h
    by_cases hc : c = '/'
    · rw [if_pos (beq_iff_eq.2 hc), List.mem_cons] at h
      obtain rfl | h := h
      · simp
      · exact ih h
    -- the character joins the first part, the others stay
    · rw [if_neg (by simpa using hc)] at h
      cases hs : s.splitOn '/' with
      | nil => exact absurd hs (List.splitOn_ne_nil _ _)
      | cons first parts =>
        rw [hs] at h ih
        obtain rfl | h := List.mem_cons.1 h
        · simpa [Ne.symm hc] using ih List.mem_cons_self
        · exact ih (List.mem_cons_of_mem _ h)

/-- The parts of a path below a root; an absolute path is below no other root. -/
def below (root path : List Char) : List (List Char) :=
  if path.head? = some '/' then path.splitOn '/' else root.splitOn '/' ++ path.splitOn '/'

theorem below_of_absolute {path : List Char} (h : path.head? = some '/') (root : List Char) :
    below root path = path.splitOn '/' :=
  if_pos h

/-- A relative path starts at the root. -/
theorem below_of_relative {path : List Char} (h : path.head? ≠ some '/') (root : List Char) :
    below root path = root.splitOn '/' ++ path.splitOn '/' :=
  if_neg h

/-- A path is resolved by following its parts from the root. -/
theorem resolve_join (root path : List Char) :
    resolve (join root path) = ((below root path).foldl step []).reverse := by
  unfold resolve join below
  rw [split_eq]
  split_ifs with habsolute hends
  · rfl
  · -- the part behind the last slash of the root is blank
    rw [Bool.or_eq_true, List.isEmpty_iff, decide_eq_true_iff] at hends
    obtain rfl | hlast := hends
    · simp [List.splitOn_nil]
    · obtain ⟨root', rfl⟩ := List.getLast?_eq_some_iff.1 hlast
      rw [List.append_assoc, List.singleton_append, List.splitOn_append_cons_self,
        List.splitOn_append_cons_self]
      simp [List.splitOn_nil]
  · rw [List.splitOn_append_cons_self]

/-- What stands behind a slash is followed last. -/
theorem below_append {path : List Char} (hpath : path ≠ []) (root rest : List Char) :
    below root (path ++ '/' :: rest) = below root path ++ rest.splitOn '/' := by
  obtain ⟨c, path, rfl⟩ := List.exists_cons_of_ne_nil hpath
  unfold below
  rw [List.splitOn_append_cons_self, List.cons_append, List.head?_cons, List.head?_cons]
  split_ifs
  · rfl
  · rw [List.append_assoc]

theorem Resolves.slash_notMem {root path : List Char} {names : List (List Char)}
    (h : Resolves (below root path) names) : ∀ name ∈ names, '/' ∉ name := by
  intro name hname
  have hmem : name ∈ below root path := h.sublist.subset hname
  unfold below at hmem
  split_ifs at hmem
  · exact Path.slash_notMem hmem
  · rcases List.mem_append.1 hmem with hroot | hpath
    · exact Path.slash_notMem hroot
    · exact Path.slash_notMem hpath

/-! ## The text of a place -/

theorem render_eq (names : List (List Char)) : render names = '/' :: ['/'].intercalate names := by
  cases names with
  | nil => rfl
  | cons name names =>
    show (name :: names).flatMap ('/' :: ·) = _
    induction names generalizing name with
    | nil => simp
    | cons name' names ih =>
      rw [List.flatMap_cons, ih]
      simp [List.intercalate_cons_cons]

/-- The text of a place has a blank part before the names, and for the root also behind it. -/
theorem foldl_splitOn_render {names : List (List Char)} (hnames : ∀ name ∈ names, IsName name)
    (hslash : ∀ name ∈ names, '/' ∉ name) :
    ((render names).splitOn '/').foldl step [] = names.reverse := by
  rw [render_eq, List.splitOn_cons_eq_if_modifyHead, if_pos (beq_self_eq_true _), List.foldl_cons,
    step_blank]
  by_cases hempty : names = []
  · rw [hempty]
    simp [List.splitOn_nil]
  · rw [List.splitOn_intercalate _ hslash hempty, foldl_names hnames, List.append_nil]

/-- Only the top ends in a slash. -/
theorem getLast?_render_iff {names : List (List Char)} (hnames : ∀ name ∈ names, IsName name)
    (hslash : ∀ name ∈ names, '/' ∉ name) :
    (render names).getLast? = some '/' ↔ render names = ['/'] := by
  refine ⟨fun hlast => ?_, fun h => by rw [h]; rfl⟩
  obtain rfl | ⟨names, name, rfl⟩ := names.eq_nil_or_concat'
  · rfl
  · -- the last character is the last one of a name
    have hname : name ∈ names ++ [name] := by simp
    have hrender : render (names ++ [name]) = names.flatMap ('/' :: ·) ++ '/' :: name := by
      simp [render]
    obtain ⟨c, rest, hcons⟩ := List.exists_cons_of_ne_nil (hnames name hname).ne_blank
    rw [hrender, hcons, List.getLast?_append_cons, List.getLast?_cons_cons, ← hcons] at hlast
    exact absurd (List.mem_of_getLast? hlast) (hslash name hname)

end Path

/-! ## Resolved paths -/

/-- A path is resolved to the text of the place that its parts lead to. -/
theorem resolvePath?_eq_some {root path : String} (h : root ≠ "" ∨ path ≠ "") :
    resolvePath? root path = some (String.ofList (Path.render
      ((Path.below root.toList path.toList).foldl Path.step []).reverse)) := by
  have hjoined : Path.join root.toList path.toList ≠ [] := by
    have h' : root.toList ≠ [] ∨ path.toList ≠ [] := by simpa using h
    unfold Path.join
    split_ifs
    · intro hpath
      simp_all
    · simpa [or_iff_not_imp_left] using h'
    · simp
  rw [resolvePath?, if_neg (by simpa using hjoined), Path.resolve_join]

/-- What a path comes down to: names, and the text of their place. -/
structure IsPlace (parts names : List (List Char)) (result : String) : Prop where
  toList_eq : result.toList = Path.render names
  resolves : Path.Resolves parts names
  slash_notMem : ∀ name ∈ names, '/' ∉ name

namespace IsPlace

variable {parts names : List (List Char)} {result : String} (h : IsPlace parts names result)

include h

/-- A resolved path is absolute. -/
theorem absolute : result.toList.head? = some '/' := by
  rw [h.toList_eq, Path.render_eq]
  rfl

theorem ne_empty : result ≠ "" := by
  rintro rfl
  exact nomatch h.absolute

/-- Following the parts of the result leads where the parts of the path lead. -/
theorem foldl_splitOn : (result.toList.splitOn '/').foldl Path.step [] = names.reverse := by
  rw [h.toList_eq]
  exact Path.foldl_splitOn_render h.resolves.2 h.slash_notMem

/-- A resolved path ends in a slash only if it is the top. -/
theorem getLast?_iff : result.toList.getLast? = some '/' ↔ result = "/" := by
  rw [h.toList_eq, Path.getLast?_render_iff h.resolves.2 h.slash_notMem, ← h.toList_eq,
    ← String.toList_inj]
  rfl

/-- A resolved path is resolved, below every root. -/
theorem resolvePath?_again (root : String) : resolvePath? root result = some result := by
  rw [resolvePath?_eq_some (.inr h.ne_empty), Path.below_of_absolute h.absolute, h.foldl_splitOn,
    List.reverse_reverse, ← h.toList_eq, String.ofList_toList]

/-- A path that goes on behind a slash is followed from the place that its front leads to. -/
theorem resolvePath?_append {root path : String} (hpath : path ≠ "")
    (hparts : parts = Path.below root.toList path.toList) {b : String}
    (hb : b.toList.head? ≠ some '/') :
    resolvePath? root (path ++ "/" ++ b) = resolvePath? result b := by
  have hlong : path ++ "/" ++ b ≠ "" := by simp [hpath]
  have htoList : (path ++ "/" ++ b).toList = path.toList ++ '/' :: b.toList := by simp
  have hfold : parts.foldl Path.step [] = names.reverse := by
    rw [Path.resolves_iff.1 h.resolves, List.reverse_reverse]
  rw [resolvePath?_eq_some (.inr hlong), resolvePath?_eq_some (.inl h.ne_empty), htoList,
    Path.below_append (by simpa using hpath), Path.below_of_relative hb, List.foldl_append,
    List.foldl_append, h.foldl_splitOn, ← hparts, hfold]

end IsPlace

/-- Unless the root and the path are both empty, the path is resolved to the text of a place. -/
theorem exists_isPlace {root path : String} (h : root ≠ "" ∨ path ≠ "") :
    ∃ result names, resolvePath? root path = some result ∧
      IsPlace (Path.below root.toList path.toList) names result := by
  have hresolves : Path.Resolves (Path.below root.toList path.toList)
      ((Path.below root.toList path.toList).foldl Path.step []).reverse := Path.resolves_iff.2 rfl
  exact ⟨_, _, resolvePath?_eq_some h, String.toList_ofList, hresolves, hresolves.slash_notMem⟩

/-- A path below an absolute root is resolved by its text. It is a slash before the names that the
parts of root and path come down to, with a slash between neighbours; it depends on no root if it is
absolute, is resolved as it stands, and is where a longer path continues. -/
theorem resolvePath?_lexical {root path : String} (hroot : root.toList.head? = some '/')
    (hpath : path ≠ "") :
    ∃ result names, resolvePath? root path = some result ∧
      (∀ names', Path.Resolves (Path.below root.toList path.toList) names' ↔ names' = names) ∧
      result.toList = '/' :: ['/'].intercalate names ∧
      (∀ name ∈ names, Path.IsName name ∧ '/' ∉ name) ∧
      (result.toList.getLast? = some '/' ↔ result = "/") ∧
      (path.toList.head? = some '/' → ∀ root', resolvePath? root' path = some result) ∧
      (∀ root', resolvePath? root' result = some result) ∧
      ∀ b : String, b.toList.head? ≠ some '/' →
        resolvePath? root (path ++ "/" ++ b) = resolvePath? result b := by
  have hroot' : root ≠ "" := by
    rintro rfl
    exact nomatch hroot
  obtain ⟨result, names, hresult, hplace⟩ := exists_isPlace (.inl hroot')
  refine ⟨result, names, hresult, fun names' => ?_, ?_, ?_, hplace.getLast?_iff, fun hpath' root' => ?_,
    hplace.resolvePath?_again, fun b hb => hplace.resolvePath?_append hpath rfl hb⟩
  · rw [Path.resolves_iff, ← Path.resolves_iff.1 hplace.resolves]
  · rw [hplace.toList_eq, Path.render_eq]
  · exact fun name hname => ⟨hplace.resolves.2 name hname, hplace.slash_notMem name hname⟩
  -- an absolute path is not put below the root
  · rw [← hresult, resolvePath?_eq_some (.inr hpath), resolvePath?_eq_some (.inr hpath),
      Path.below_of_absolute hpath', Path.below_of_absolute hpath']

/-- A path that climbs to the root and goes on, and what a longer one leads to from there. -/
theorem resolvePath?_lexical_climbing :
    resolvePath? "/srv//./data" "../../..//x/./" = some "/x" ∧
      resolvePath? "/elsewhere" "/x" = some "/x" ∧
      resolvePath? "/srv//./data" "../../..//x/.//../../y" = resolvePath? "/x" "../../y" := by
  obtain ⟨result, -, hresult, -, -, -, -, -, hagain, hlonger⟩ :=
    @resolvePath?_lexical "/srv//./data" "../../..//x/./" (by decide) (by decide)
  have hx : resolvePath? "/srv//./data" "../../..//x/./" = some "/x" := by decide +kernel
  cases hresult.symm.trans hx
  exact ⟨hx, hagain "/elsewhere", hlonger "../../y" (by decide)⟩

end DatasetSql
