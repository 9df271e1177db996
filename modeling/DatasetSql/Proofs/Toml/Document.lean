import DatasetSql.Proofs.Toml.Sections

/-!
# Documents are read back

The text of an object is read as a table that is seen as the same data, but for the order of the
keys: each line as the assignment or the header that it was written for, and each section as what it
adds to the table around it.
-/

namespace DatasetSql.Toml

open Json (DistinctItems DistinctFields MachineItems MachineFields depthItems depthFields)
open Text (joined_singleton joined_cons_cons)

/-! ## Lines -/

/-- What lines are read as. There are no more lines than characters. -/
def Reads (cs : List Char) (body : List Assignment) (secs : List Section) : Prop :=
  ∀ fuel, cs.length < fuel → lines? fuel cs = some (body, secs)

section Lines

variable {rest : List Char} {body : List Assignment} {secs : List Section}

theorem Reads.nil : Reads [] [] [] := by
  intro fuel hfuel
  obtain ⟨fuel, rfl⟩ := Nat.exists_eq_succ_of_ne_zero (Nat.ne_of_gt hfuel)
  rfl

/-- An empty line adds nothing. -/
theorem Reads.blank (h : Reads rest body secs) : Reads ('\n' :: rest) body secs := by
  intro fuel hfuel
  have hlines : lines? fuel ('\n' :: rest) = lines? fuel rest := by
    cases fuel with
    | zero => rfl
    | succ fuel =>
      rw [lines?, lines?]
      rfl
  rw [hlines]
  exact h fuel (Nat.lt_of_succ_lt hfuel)

/-- A byte order mark is no part of a line. -/
theorem lines?_mark (fuel : Nat) (cs : List Char) : lines? fuel ('\ufeff' :: cs) = none := by
  -- a mark is no blank and starts no comment, section or key
  have hpart : keyPart? ('\ufeff' :: cs) = none := by
    have hspan : ('\ufeff' :: cs).span isKeyChar = ([], '\ufeff' :: cs) :=
      List.span_eq_takeWhile_dropWhile _ _
    rw [keyPart?, hspan]
    · rfl
    · exact fun rest h => absurd (List.cons.inj h).1 (by decide)
    · exact fun rest h => absurd (List.cons.inj h).1 (by decide)
  have hblank : skipBlanks ('\ufeff' :: cs) = '\ufeff' :: cs := rfl
  have hkey : key? ('\ufeff' :: cs) = none := by
    rw [key?, maxDepth, keyFrom?, hblank, hpart]
    rfl
  have hassign (fuel : Nat) : assignment? fuel maxDepth ('\ufeff' :: cs) = none := by
    cases fuel with
    | zero => rw [assignment?]
    | succ fuel =>
      rw [assignment?, hkey]
      rfl
  cases fuel with
  | zero => rfl
  | succ fuel =>
    have hline : skipLines false ('\ufeff' :: cs) = some ('\ufeff' :: cs) := rfl
    rw [lines?, hline, Option.bind_eq_bind, Option.bind_some]
    show (assignment? _ maxDepth ('\ufeff' :: cs)).bind _ = none
    rw [hassign]
    rfl

/-- What is read starts with no byte order mark. -/
theorem Reads.dropMark (h : Reads rest body secs) : dropMark rest = rest := by
  unfold Toml.dropMark
  split
  · next cs =>
    have hread := h _ (Nat.lt_succ_self _)
    rw [lines?_mark] at hread
    exact nomatch hread
  · rfl

/-- A line that starts a key is an assignment. -/
theorem lines?_assignment {fuel : Nat} {c : Char} {cs rest : List Char} {a : Assignment}
    (hc : StartsKey c)
    (h : assignment? (2 * (c :: cs).length + 4) maxDepth (c :: cs) = some (a, '\n' :: rest)) :
    lines? (fuel + 1) (c :: cs) = (lines? fuel rest).map fun r => (a :: r.1, r.2) := by
  rw [lines?, skipLines_of_startsValue (startsValue_key hc), Option.bind_eq_bind, Option.bind_some]
  split
  · next heq => exact nomatch heq
  · next heq =>
    cases heq
    simp [StartsKey, isKeyChar] at hc
  · rw [h]
    show ((lines? fuel rest).bind fun r => some (a :: r.1, r.2)) = _
    cases lines? fuel rest <;> rfl

/-- Lines are read as assignments, whatever lines follow. -/
def LinesAs (text : String) (as : List Assignment) : Prop :=
  ∀ rest body secs, Reads rest body secs → Reads (text.toList ++ rest) (as ++ body) secs

/-- The line of an entry is read as an assignment. -/
theorem linesAs_entry (k : String) {v : Json.Value} {text : String}
    (htext : inlineText? v = some text) (hd : v.DistinctKeys) (hm : v.Machine)
    (hdepth : v.depth ≤ maxDepth) :
    ∃ a, Assigns a (k, v) ∧ LinesAs (keyText k ++ " = " ++ text ++ "\n") [a] := by
  obtain ⟨t, hdata, hread⟩ := value?_inlineText htext hd hm
  refine ⟨⟨[], k, t⟩, ⟨rfl, rfl, hdata⟩, ?_⟩
  intro rest body secs h fuel hfuel
  obtain ⟨fuel, rfl⟩ := Nat.exists_eq_succ_of_ne_zero (Nat.ne_of_gt (Nat.zero_lt_of_lt hfuel))
  have hrest : rest.length < fuel := by
    simp at hfuel
    omega
  have hline : (keyText k ++ " = " ++ text ++ "\n").toList ++ rest =
      (keyText k ++ " = " ++ text).toList ++ '\n' :: rest := by simp
  have hlength : text.toList.length ≤
      ((keyText k ++ " = " ++ text).toList ++ '\n' :: rest).length := by
    simp
    omega
  -- the fuel of a line grows with its text
  have hread := hread (2 * ((keyText k ++ " = " ++ text).toList ++ '\n' :: rest).length + 3)
    maxDepth ('\n' :: rest) (by omega) hdepth (.line rest)
  have hread := assignment?_entryText k hm htext hread
  obtain ⟨c, cs, hkey, hc⟩ := keyText_head k
  have hstart : (keyText k ++ " = " ++ text).toList ++ '\n' :: rest =
      c :: (cs ++ " = ".toList ++ text.toList ++ '\n' :: rest) := by simp [hkey]
  rw [hline]
  rw [hstart] at hread ⊢
  rw [lines?_assignment hc hread, h fuel hrest]
  rfl

/-- The lines of the entries without sections are read as assignments. -/
theorem linesAs_bodyText {es : List (String × Json.Value)} {text : String}
    (htext : bodyText? es = some text) (hd : DistinctFields es) (hm : MachineFields es)
    (hdepth : depthFields es ≤ maxDepth) :
    ∃ as, List.Forall₂ Assigns as (es.filter fun e => !hasSections e.2) ∧
      (text.isEmpty = true → as = []) ∧ LinesAs text as := by
  induction es generalizing text with
  | nil =>
    cases htext
    exact ⟨[], .nil, fun _ => rfl, fun _ _ _ h => h⟩
  | cons e es ih =>
    obtain ⟨k, v⟩ := e
    obtain ⟨later, hlater, htext⟩ := Option.bind_eq_some_iff.1 htext
    obtain ⟨hv, hes⟩ := max_le_iff.1 hdepth
    obtain ⟨as, has, hempty, hread⟩ := ih hlater hd.2 hm.2 hes
    -- values with sections of their own are left to them
    cases hsections : hasSections v with
    | true =>
      rw [hsections, if_pos rfl] at htext
      cases htext
      have hfilter : ((k, v) :: es).filter (fun e => !hasSections e.2) =
          es.filter fun e => !hasSections e.2 := List.filter_cons_of_neg (by simp [hsections])
      rw [hfilter]
      exact ⟨as, has, hempty, hread⟩
    | false =>
      rw [hsections, if_neg Bool.false_ne_true] at htext
      obtain ⟨line, hline, htext⟩ := Option.bind_eq_some_iff.1 htext
      cases htext
      have hfilter : ((k, v) :: es).filter (fun e => !hasSections e.2) =
          (k, v) :: es.filter fun e => !hasSections e.2 :=
        List.filter_cons_of_pos (by simp [hsections])
      obtain ⟨a, ha, hfirst⟩ := linesAs_entry k hline hd.1 hm.1 hv
      rw [hfilter]
      refine ⟨a :: as, .cons ha has, fun h => by simp at h, ?_⟩
      intro rest body secs h
      rw [String.toList_append, List.append_assoc]
      exact hfirst _ _ _ (hread _ _ _ h)

/-- A path starts with a key. -/
theorem pathText_head (path : List String) (key : String) :
    ∃ c cs, (pathText (path ++ [key])).toList = c :: cs ∧ StartsKey c := by
  cases path with
  | nil =>
    obtain ⟨c, cs, heq, hc⟩ := keyText_head key
    exact ⟨c, cs, by rw [← heq]; exact congrArg String.toList (joined_singleton "." _), hc⟩
  | cons k path =>
    obtain ⟨c, cs, heq, hc⟩ := keyText_head k
    refine ⟨c, cs ++ '.' :: (pathText (path ++ [key])).toList, ?_, hc⟩
    cases path <;> simp [pathText, Text.joined, heq]

/-- A path is read up to the bracket behind it. -/
theorem key?_pathText {path : List String} (hpath : path.length < maxDepth) (key : String)
    (rest : List Char) :
    key? ((pathText (path ++ [key])).toList ++ ']' :: rest) = some (path, key, ']' :: rest) := by
  have hends : EndsKey (']' :: rest) := by
    rintro c ⟨⟩
    rfl
  have hblank : skipBlanks (']' :: rest) = ']' :: rest := rfl
  have hread := keyFrom?_pathText path key hpath hends (by simp [hblank])
  rwa [hblank] at hread

/-- The text of a header. -/
def headerText (repeated : Bool) (path : List String) : String :=
  if repeated then "[[" ++ pathText path ++ "]]\n" else "[" ++ pathText path ++ "]\n"

/-- A header is read as the section that it was written for. -/
theorem header?_headerText {path : List String} (hpath : path.length < maxDepth) (key : String)
    (repeated : Bool) (rest : List Char) :
    ∃ cs, (headerText repeated (path ++ [key])).toList ++ rest = '[' :: cs ∧
      header? cs = some (⟨repeated, path, key, []⟩, rest) := by
  cases repeated with
  | true =>
    refine ⟨'[' :: ((pathText (path ++ [key])).toList ++ ']' :: ']' :: '\n' :: rest), ?_, ?_⟩
    · simp [headerText]
    · rw [header?, key?_pathText hpath]
      rfl
  | false =>
    refine ⟨(pathText (path ++ [key])).toList ++ ']' :: '\n' :: rest, ?_, ?_⟩
    · simp [headerText]
    · have hkey := key?_pathText hpath key ('\n' :: rest)
      obtain ⟨c, cs, heq, hc⟩ := pathText_head path key
      rw [heq, List.cons_append] at hkey ⊢
      -- a key does not start with a bracket, so one bracket is not read as two
      unfold header?
      split
      · next heq =>
        cases heq
        simp [StartsKey, isKeyChar] at hc
      · rw [hkey]
        rfl

/-- A header takes the assignments up to the next one. -/
theorem Reads.header (h : Reads rest body secs) {path : List String}
    (hpath : path.length < maxDepth) (key : String) (repeated : Bool) :
    Reads ((headerText repeated (path ++ [key])).toList ++ rest) []
      (⟨repeated, path, key, body⟩ :: secs) := by
  intro fuel hfuel
  obtain ⟨cs, heq, hread⟩ := header?_headerText hpath key repeated rest
  obtain ⟨fuel, rfl⟩ := Nat.exists_eq_succ_of_ne_zero (Nat.ne_of_gt (Nat.zero_lt_of_lt hfuel))
  have hrest : rest.length < fuel := by
    have hlong : 0 < (headerText repeated (path ++ [key])).toList.length := by
      cases repeated <;> simp [headerText]
    rw [List.length_append] at hfuel
    omega
  have hline : skipLines false ('[' :: cs) = some ('[' :: cs) :=
    skipLines_of_startsValue (by simp [StartsValue]) cs
  rw [heq, lines?, hline, Option.bind_eq_bind, Option.bind_some]
  show ((header? cs).bind fun r => (lines? fuel r.2).bind fun q =>
    some (([] : List Assignment), { r.1 with body := q.1 } :: q.2)) = _
  rw [hread, Option.bind_some, h fuel hrest]
  rfl

end Lines

/-! ## Sections -/

/-- Parts of a document, with empty lines between them, are read as sections. -/
def ReadsParts (parts : List String) (secs : List Section) : Prop :=
  Reads (Text.joined "\n" parts).toList [] secs

/-- Parts are read as sections, whatever parts follow. -/
def ReadsAs (parts : List String) (secs : List Section) : Prop :=
  ∀ parts' secs', ReadsParts parts' secs' → ReadsParts (parts ++ parts') (secs ++ secs')

theorem ReadsAs.nil : ReadsAs [] [] := fun _ _ h => h

/-- Sections are read one behind the other. -/
theorem ReadsAs.append {parts parts' : List String} {secs secs' : List Section}
    (h : ReadsAs parts secs) (h' : ReadsAs parts' secs') :
    ReadsAs (parts ++ parts') (secs ++ secs') := by
  intro more secs'' hmore
  rw [List.append_assoc, List.append_assoc]
  exact h _ _ (h' _ _ hmore)

/-- A part is followed by nothing or by an empty line. -/
theorem ReadsParts.tail {parts : List String} {secs : List Section} (h : ReadsParts parts secs)
    (part : String) :
    ∃ rest, (Text.joined "\n" (part :: parts)).toList = part.toList ++ rest ∧ Reads rest [] secs := by
  cases parts with
  | nil => exact ⟨[], by simp [joined_singleton], h⟩
  | cons part' parts => exact ⟨_, joined_cons_cons "\n" part part' parts, h.blank⟩

/-- A part that is a header and lines is read as a section. -/
theorem readsAs_header {path : List String} (hpath : path.length < maxDepth) (key : String)
    (repeated : Bool) {text : String} {as : List Assignment} (h : LinesAs text as) :
    ReadsAs [headerText repeated (path ++ [key]) ++ text] [⟨repeated, path, key, as⟩] := by
  intro parts secs hparts
  obtain ⟨rest, htext, hrest⟩ := hparts.tail (headerText repeated (path ++ [key]) ++ text)
  have hread := (h _ _ _ hrest).header hpath key repeated
  rw [List.append_nil] at hread
  rw [ReadsParts, List.singleton_append, htext, String.toList_append, List.append_assoc]
  exact hread

/-- A table has a header and its lines, unless it holds nothing but sections. -/
theorem ownSection?_eq {path : List String} (hne : path ≠ []) {repeated : Bool}
    {es : List (String × Json.Value)} {parts : List String}
    (h : ownSection? path repeated es = some parts) :
    ∃ text, bodyText? es = some text ∧
      (parts = [headerText repeated path ++ text] ∨
        repeated = false ∧ text.isEmpty = true ∧ es.any (hasSections ·.2) = true ∧ parts = []) := by
  obtain ⟨text, htext, h⟩ := Option.bind_eq_some_iff.1 h
  have hpath : ¬ path.isEmpty = true := by simpa using hne
  rw [if_neg hpath] at h
  refine ⟨text, htext, ?_⟩
  cases repeated with
  | true =>
    cases h
    exact .inl rfl
  | false =>
    rw [if_neg Bool.false_ne_true] at h
    -- a table with nothing but sections gets no header
    split_ifs at h with hempty
    · cases h
      rw [Bool.and_eq_true] at hempty
      exact .inr ⟨rfl, hempty.1, hempty.2, rfl⟩
    · cases h
      exact .inl rfl

/-- A value that fits on a line needs no section. -/
theorem sections?_of_not_hasSections {v : Json.Value} (h : hasSections v = false)
    (path : List String) : sections? path false v = some [] := by
  cases v with
  | array xs => rw [sections?, if_neg (by simp [h])]
  | object es => exact nomatch h
  | _ => rfl

/-- What stands under a key is put under the path to it. -/
theorem map_under_header (repeated : Bool) (path : List String) (k : String)
    (as : List Assignment) (secs : List Section) :
    ((⟨repeated, [], k, as⟩ : Section) :: secs.map (·.under [k])).map (·.under path) =
      [⟨repeated, path, k, as⟩] ++ secs.map (·.under (path ++ [k])) := by
  rw [List.map_cons, List.map_map]
  simp only [Function.comp_def, Section.under_under]
  simp [Section.under]

/-- The lines and the sections of an object make its table. -/
theorem exists_makes {es : List (String × Json.Value)} {text : String}
    (htext : bodyText? es = some text) (hd : (Json.Value.object es).DistinctKeys)
    (hm : MachineFields es) (hdepth : depthFields es ≤ maxDepth) {secs : List Section}
    (h : Fills secs (es.filter fun e => hasSections e.2)) :
    ∃ as, Makes as secs es ∧ (text.isEmpty = true → as = []) ∧ LinesAs text as := by
  obtain ⟨as, has, hempty, hlines⟩ := linesAs_bodyText htext hd.2 hm hdepth
  exact ⟨as, h.makes has hd.1, hempty, hlines⟩

mutual

/-- The sections of an entry add it to the table around it, and are read as what they are. -/
theorem sections?_adds : ∀ {v : Json.Value} {path : List String} {k : String} {parts : List String},
    sections? (path ++ [k]) false v = some parts → hasSections v = true → v.DistinctKeys →
      v.Machine → path.length + v.depth ≤ maxDepth →
        ∃ secs, Adds secs (k, v) ∧ ReadsAs parts (secs.map (·.under path))
  | .null, _, _, _, _, hs, _, _, _ => nomatch hs
  | .bool _, _, _, _, _, hs, _, _, _ => nomatch hs
  | .number _, _, _, _, _, hs, _, _, _ => nomatch hs
  | .string _, _, _, _, _, hs, _, _, _ => nomatch hs
  | .array xs, path, k, parts, h, hs, hd, hm, hdepth => by
    rw [sections?, if_pos hs] at h
    simp only [hasSections, Bool.and_eq_true, Bool.not_eq_true', List.isEmpty_eq_false_iff] at hs
    have hdepth : path.length + depthItems xs + 1 ≤ maxDepth := hdepth
    obtain ⟨secs, hextends, hread⟩ := itemSections?_extends h hs.2 hd hm (by omega)
    exact ⟨secs, hextends.adds hs.1, hread⟩
  | .object es, path, k, parts, h, hs, hd, hm, hdepth => by
    obtain ⟨own, hown, h⟩ := Option.bind_eq_some_iff.1 h
    obtain ⟨inside, hinside, h⟩ := Option.bind_eq_some_iff.1 h
    cases h
    have hdepth : path.length + depthFields es + 1 ≤ maxDepth := hdepth
    obtain ⟨secs, hfills, hread⟩ := entrySections?_fills hinside hd.2 hm
      (by rw [List.length_append, List.length_singleton]; omega)
    obtain ⟨text, htext, hown⟩ := ownSection?_eq (by simp) hown
    obtain ⟨as, hmakes, hempty, hlines⟩ := exists_makes htext hd hm (by omega) hfills
    -- without a header of its own the table is implied by the sections inside
    rcases hown with rfl | ⟨-, htext, hany, rfl⟩
    · refine ⟨_, hmakes.header k, ?_⟩
      rw [map_under_header]
      exact (readsAs_header (by omega) k false hlines).append hread
    · cases hempty htext
      have hne : es.filter (fun e => hasSections e.2) ≠ [] := by
        obtain ⟨e, he, hhas⟩ := List.any_eq_true.1 hany
        exact List.ne_nil_of_mem (List.mem_filter.2 ⟨he, hhas⟩)
      have hnodup : ((es.filter fun e => hasSections e.2).map (·.1)).Nodup :=
        hd.1.sublist (List.filter_sublist.map _)
      refine ⟨_, hmakes.implied (hfills.ne_nil hnodup hne) k, ?_⟩
      rw [List.map_map]
      simp only [Function.comp_def, Section.under_under]
      exact hread

/-- The sections that are written for the entries of a table are read back and fill it. The
induction is on the entries, and inside of each on its value. -/
theorem entrySections?_fills : ∀ {es : List (String × Json.Value)} {path : List String}
    {parts : List String}, entrySections? path es = some parts → DistinctFields es →
      MachineFields es → path.length + depthFields es ≤ maxDepth →
        ∃ secs, Fills secs (es.filter fun e => hasSections e.2) ∧
          ReadsAs parts (secs.map (·.under path))
  | [], _, _, h, _, _, _ => by
    cases h
    exact ⟨[], .nil, .nil⟩
  | (k, v) :: es, path, _, h, hd, hm, hdepth => by
    obtain ⟨own, hown, h⟩ := Option.bind_eq_some_iff.1 h
    obtain ⟨later, hlater, h⟩ := Option.bind_eq_some_iff.1 h
    cases h
    have hdepth : path.length + max v.depth (depthFields es) ≤ maxDepth := hdepth
    obtain ⟨secs', hfills, hreads⟩ := entrySections?_fills hlater hd.2 hm.2 (by omega)
    -- only values with sections of their own add any
    cases hsections : hasSections v with
    | true =>
      obtain ⟨secs, hadds, hread⟩ := sections?_adds hown hsections hd.1 hm.1 (by omega)
      have hfilter : ((k, v) :: es).filter (fun e => hasSections e.2) =
          (k, v) :: es.filter fun e => hasSections e.2 := List.filter_cons_of_pos hsections
      rw [hfilter]
      refine ⟨secs ++ secs', hadds.cons hfills, ?_⟩
      rw [List.map_append]
      exact hread.append hreads
    | false =>
      have hfilter : ((k, v) :: es).filter (fun e => hasSections e.2) =
          es.filter fun e => hasSections e.2 := List.filter_cons_of_neg (by simp [hsections])
      rw [sections?_of_not_hasSections hsections] at hown
      cases hown
      rw [hfilter]
      exact ⟨secs', hfills, hreads⟩

/-- The sections that are written for an array of tables are read back, and each extends the array
by its table. -/
theorem itemSections?_extends : ∀ {xs : List Json.Value} {path : List String} {k : String}
    {parts : List String}, itemSections? (path ++ [k]) xs = some parts → xs.all isTable = true →
      DistinctItems xs → MachineItems xs → path.length + depthItems xs ≤ maxDepth →
        ∃ secs, Extends secs k xs ∧ ReadsAs parts (secs.map (·.under path))
  | [], _, _, _, h, _, _, _, _ => by
    cases h
    exact ⟨[], .nil _, .nil⟩
  | .null :: _, _, _, _, _, hs, _, _, _ => nomatch hs
  | .bool _ :: _, _, _, _, _, hs, _, _, _ => nomatch hs
  | .number _ :: _, _, _, _, _, hs, _, _, _ => nomatch hs
  | .string _ :: _, _, _, _, _, hs, _, _, _ => nomatch hs
  | .array _ :: _, _, _, _, _, hs, _, _, _ => nomatch hs
  | .object es :: xs, path, k, _, h, hs, hd, hm, hdepth => by
    obtain ⟨table, htable, h⟩ := Option.bind_eq_some_iff.1 h
    obtain ⟨later, hlater, h⟩ := Option.bind_eq_some_iff.1 h
    cases h
    obtain ⟨own, hown, htable⟩ := Option.bind_eq_some_iff.1 htable
    obtain ⟨inside, hinside, htable⟩ := Option.bind_eq_some_iff.1 htable
    cases htable
    have hdepth : path.length + max (depthFields es + 1) (depthItems xs) ≤ maxDepth := hdepth
    obtain ⟨secs, hfills, hread⟩ := entrySections?_fills hinside hd.1.2 hm.1
      (by rw [List.length_append, List.length_singleton]; omega)
    obtain ⟨secs', hextends, hreads⟩ := itemSections?_extends hlater hs hd.2 hm.2 (by omega)
    obtain ⟨text, htext, hown⟩ := ownSection?_eq (by simp) hown
    obtain ⟨as, hmakes, -, hlines⟩ := exists_makes htext hd.1 hm.1 (by omega) hfills
    -- an item of a list always has its header
    rcases hown with rfl | ⟨hrepeated, -⟩
    · refine ⟨_, hmakes.cons hextends, ?_⟩
      rw [List.map_append, map_under_header]
      exact ((readsAs_header (by omega) k true hlines).append hread).append hreads
    · exact nomatch hrepeated

end

/-! ## Documents -/

/-- The text of an object is read back as the same data, but for the order of the keys. -/
theorem parse?_render {es : List (String × Json.Value)} {text : String}
    (h : render? (.object es) = some text) (hd : (Json.Value.object es).DistinctKeys)
    (hm : (Json.Value.object es).Machine) (hdepth : depthFields es ≤ maxDepth) :
    ∃ table, parse? text = some table ∧
      (Value.table table).data = (Json.Value.object es).ordered.data := by
  obtain ⟨parts, hparts, h⟩ := Option.bind_eq_some_iff.1 h
  cases h
  obtain ⟨own, hown, hparts⟩ := Option.bind_eq_some_iff.1 hparts
  obtain ⟨inside, hinside, hparts⟩ := Option.bind_eq_some_iff.1 hparts
  cases hparts
  obtain ⟨body, hbody, hown⟩ := Option.bind_eq_some_iff.1 hown
  obtain ⟨secs, hfills, hread⟩ := entrySections?_fills hinside hd.2 hm (by simpa using hdepth)
  obtain ⟨as, ⟨inner, entries, has, hfold, hdata⟩, hempty, hlines⟩ :=
    exists_makes hbody hd hm hdepth hfills
  -- the paths of a document start at its root
  have hunder : secs.map (·.under []) = secs := List.map_id' secs
  have hsections : ReadsParts inside secs := by
    have hall := hread [] [] .nil
    rwa [List.append_nil, List.append_nil, hunder] at hall
  have hreads : Reads (Text.joined "\n" (own ++ inside)).toList as secs := by
    rw [List.isEmpty_nil, if_pos rfl] at hown
    -- no text is written for a body without lines
    split_ifs at hown with hbody
    · cases hown
      rw [hempty hbody]
      exact hsections
    · cases hown
      obtain ⟨rest, htext, hrest⟩ := hsections.tail body
      have hall := hlines _ _ _ hrest
      rw [List.append_nil] at hall
      rw [List.singleton_append, htext]
      exact hall
  refine ⟨valueEntries entries, ?_, hdata⟩
  have hlines := hreads _ (Nat.lt_succ_self _)
  rw [parse?, hreads.dropMark, hlines, Option.bind_eq_bind, Option.bind_some]
  show documentOf? as secs = _
  rw [documentOf?, has, Option.bind_eq_bind, Option.bind_some, hfold]
  rfl

end DatasetSql.Toml
