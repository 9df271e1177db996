import DatasetSql.Proofs.Transparency

/-!
# The literals of a converted statement

The returned text is the text of the converted statement with the target's marker in the place of each
inert name, in string literals as well as between them. A literal stays a literal of its kind. What is
written in it is what the input has there exactly if that *survives*: it is transparent, and has no
marker if the target's marker is another one (`Conversion.restored_hidden_iff`).
-/

namespace DatasetSql

namespace Template

/-! ## Counting characters -/

/-- Each hole adds the characters that it is filled with. -/
theorem count_fill (a : Char) (s : String) (t : Template) :
    (t.fill fun _ => s).toList.count a =
      (t.fill fun _ => "").toList.count a + t.holes.length * s.toList.count a := by
  induction t with
  | nil => simp [fill, holes]
  | cons p t ih =>
    cases p with
    | text u =>
      simp only [fill, holes, String.toList_append, List.count_append, ih]
      omega
    | hole k =>
      simp only [fill, holes, String.toList_append, List.count_append, ih, List.length_cons,
        Nat.succ_mul, String.toList_empty, List.count_nil]
      omega

/-- Each occurrence takes the characters of the pattern away and adds those of the replacement. -/
theorem count_replaceAll (a : Char) {p : String} (hp : p.toList ≠ []) (r s : String) :
    (Text.replaceAll p r s).toList.count a + (cut p s).holes.length * p.toList.count a =
      s.toList.count a + (cut p s).holes.length * r.toList.count a := by
  have hself : Text.replaceAll p p s = s := by
    rw [Text.replaceAll, Text.replaceFrom_self hp, List.drop_zero, String.ofList_toList]
  have hpattern := count_fill a p (cut p s)
  have hreplacement := count_fill a r (cut p s)
  rw [fill_cut, hself] at hpattern
  rw [fill_cut] at hreplacement
  omega

/-- Without holes, it does not matter what they are filled with. -/
theorem fill_congr_of_holes {t : Template} (h : t.holes = []) (names names' : Nat → String) :
    t.fill names = t.fill names' := by
  induction t with
  | nil => rfl
  | cons p t ih =>
    cases p with
    | text s => rw [fill, fill, ih h]
    | hole k => exact absurd h (List.cons_ne_nil k _)

end Template

open Statement

/-- What is written in the string literals of a statement, in order. -/
def Statement.contents (s : Statement) : List String := s.strings.filterMap Value.content?

end DatasetSql

namespace DatasetSql.Conversion

open Statement

/-! ## What becomes of a content -/

/-- What the parser sees of a literal in the input: its markers are put out of sight. -/
def hidden (content : String) : String := Text.replaceAll sourceMarker inertMarker content

/-- What a literal says when the inert names in it, from the left, are taken for markers. -/
def written (content : String) : String := Text.replaceAll inertMarker sourceMarker content

/-- What is written in a literal of the input, and comes back as it was: no marker in it is taken for
the end of an inert name, and it has no marker at all if the target's is another one. -/
def Survives (target : Dialect) (content : String) : Prop :=
  Transparent content ∧ (target = .duckdb → ¬ sourceMarker.toList <:+: content.toList)

instance (target : Dialect) (content : String) : Decidable (Survives target content) :=
  inferInstanceAs (Decidable (_ ∧ _))

/-- Restoring gives what is read from the left, exactly if the target has the marker of the input or
the content has no inert name. -/
theorem restored_eq_written_iff (d : Dialect) (content : String) :
    restored d content = written content ↔
      (d = .duckdb → ¬ inertMarker.toList <:+: content.toList) := by
  by_cases hd : d = .duckdb
  · subst hd
    rw [restored, written, Text.replaceAll, Text.replaceAll, String.ofList_inj]
    exact (replaceFrom_eq_iff (by decide) inertMarker_ne_nil content.toList).trans
      ⟨fun h _ => h, fun h => h rfl⟩
  · refine iff_of_true ?_ fun h => absurd h hd
    rw [restored, placeholder_eq_sourceMarker hd, written]

/-- Hiding the markers changes a content exactly if it has one. -/
theorem hidden_eq_self_iff {content : String} :
    hidden content = content ↔ ¬ sourceMarker.toList <:+: content.toList := by
  have hself := replaceAll_sourceMarker content
  nth_rewrite 2 [← hself]
  rw [hidden, Text.replaceAll, Text.replaceAll, String.ofList_inj]
  exact replaceFrom_eq_iff (by decide) (by decide) content.toList

/-- Putting the markers of DuckDB back changes a content exactly if it has the inert name. -/
theorem restored_duckdb_eq_self_iff {content : String} :
    restored .duckdb content = content ↔ ¬ inertMarker.toList <:+: content.toList := by
  have hself : Text.replaceAll inertMarker inertMarker content = content := by
    rw [Text.replaceAll, Text.replaceFrom_self inertMarker_ne_nil, List.drop_zero,
      String.ofList_toList]
  nth_rewrite 2 [← hself]
  rw [restored, Text.replaceAll, Text.replaceAll, String.ofList_inj]
  exact replaceFrom_eq_iff (by decide) inertMarker_ne_nil content.toList

/-- A marker is lost where the target has another one: its percent sign does not come back. -/
theorem sourceMarker_notInfix_of_restored {content : String}
    (h : restored .duckdb (hidden content) = content) :
    ¬ sourceMarker.toList <:+: content.toList := by
  have hhide := Template.count_replaceAll '%' (p := sourceMarker) (by decide) inertMarker content
  have hback := Template.count_replaceAll '%' (p := inertMarker) inertMarker_ne_nil
    Dialect.duckdb.placeholder (hidden content)
  have hsource : sourceMarker.toList.count '%' = 1 := by decide
  have hinert : inertMarker.toList.count '%' = 0 := by decide
  have hquestion : Dialect.duckdb.placeholder.toList.count '%' = 0 := by decide
  rw [← restored, h, hinert, hquestion] at hback
  rw [← hidden, hsource, hinert] at hhide
  have hnone : (Template.cut sourceMarker content).holes = [] := by
    rw [← List.length_eq_zero_iff]
    omega
  rw [← hidden_eq_self_iff, hidden, ← Template.fill_cut]
  rw [Template.fill_congr_of_holes hnone _ fun _ => sourceMarker, Template.fill_cut,
    replaceAll_sourceMarker]

/-- What is written in a literal of the input comes back exactly if it survives. -/
theorem restored_hidden_iff (target : Dialect) (content : String) :
    restored target (hidden content) = content ↔ Survives target content := by
  obtain ⟨hmarked, hback, -⟩ := convertSql_transparent_iff content target
  by_cases hd : target = .duckdb
  · subst hd
    constructor
    · intro h
      have hnone := sourceMarker_notInfix_of_restored h
      have hinert : ¬ inertMarker.toList <:+: content.toList := by
        rw [hidden_eq_self_iff.2 hnone] at h
        exact restored_duckdb_eq_self_iff.1 h
      -- what is taken for the end of an inert name has a marker in it
      have hends : ∀ x ∈ falseEnds, sourceMarker.toList <:+: x.toList := by decide +kernel
      exact ⟨⟨hinert, fun x hx hinfix => hnone ((hends x hx).trans hinfix)⟩, fun _ => hnone⟩
    · rintro ⟨⟨hinert, -⟩, hsource⟩
      rw [hidden_eq_self_iff.2 (hsource rfl)]
      exact restored_duckdb_eq_self_iff.2 hinert
  · rw [hmarked hd] at hback
    exact hback.trans ⟨fun h => ⟨h, fun h' => absurd h' hd⟩, And.left⟩

/-- A literal is what a grammar finds at the start of a text; the rest is left. -/
def Opens (g : Grammar) (text : List Char) (v : Value) (rest : List Char) : Prop :=
  ∃ c cs, text = c :: cs ∧ ∀ previous, nextLexeme g previous c cs = some (some (.literal v), rest)

/-- A text opens with a string exactly if that string is clean. -/
theorem opens_string_iff {g : Grammar} {content : String} {rest : List Char}
    (hrest : Follows '\'' rest) :
    Opens g ((Value.string content).text.toList ++ rest) (.string content) rest ↔
      CleanString g content := by
  rw [toList_string_append]
  constructor
  · rintro ⟨c, cs, htext, hnext⟩
    obtain ⟨rfl, rfl⟩ := List.cons.inj htext
    have h := hnext none
    rw [nextLexeme_string] at h
    exact ((readPlain_string_iff hrest).1 h).1
  · intro h
    refine ⟨_, _, rfl, fun previous => ?_⟩
    rw [nextLexeme_string]
    exact (readPlain_string_iff hrest).2 ⟨h, rfl⟩

/-- The contents of changed values are the changed contents. -/
theorem filterMap_content?_map (f : String → String) (vs : List Value) :
    (vs.map (Value.mapContent f)).filterMap Value.content? =
      (vs.filterMap Value.content?).map f := by
  rw [List.filterMap_map, List.map_filterMap]
  exact List.filterMap_congr fun v _ => Value.content?_mapContent f v

/-- A text that is read is converted to a text with literals of the statement. Each literal is of the
kind it was, and the inert name in it is replaced by the target's marker, as it is between literals.
If the target has `LIMIT`, or if every query keeps its literals in order, then they are the literals
of the statement in the same order. Where these are the literals of the input with their markers put
out of sight, the contents in the input come back exactly if each of them survives. The contents that
are read from the left in the statement come back exactly if the target has the marker of the input or
none of them has an inert name; that they are those of the input is not said. A plain string that is
written is read by the target's grammar as the string that it is, exactly if it is clean there. -/
theorem convertSql_literals {sql : String} {source : Option Dialect} {s : Statement}
    (hread : readOne (Text.replaceAll sourceMarker inertMarker sql) source = .ok s)
    (target : Dialect) :
    let spans := (s.converted target).spans
    let output := (strands spans).map fun x =>
      (x.1.mapContent (restored target), restored target x.2)
    convertSql sql target source = .ok (woven (restored target (openingWords spans)) output) ∧
    (output.map (·.1)).Subperm (s.strings.map (Value.mapContent (restored target))) ∧
    (target.acceptsLimit = true ∨ (∀ q ∈ s.gather writtenQueries, q.KeepsLiterals) →
      output.map (·.1) = s.strings.map (Value.mapContent (restored target)) ∧
      (∀ inputs : List String, s.contents = inputs.map hidden →
        (output.filterMap (·.1.content?) = inputs ↔ ∀ c ∈ inputs, Survives target c)) ∧
      (output.filterMap (·.1.content?) = s.contents.map written ↔
        (target = .duckdb → ∀ c ∈ s.contents, ¬ inertMarker.toList <:+: c.toList))) ∧
    ∀ (content : String) (rest : List Char), Follows '\'' rest →
      (Opens (.of (some target)) ((Value.string content).text.toList ++ rest) (.string content)
          rest ↔
        CleanString (.of (some target)) content) := by
  intro spans output
  have hkept := s.kept_converted target
  have hliterals : output.map (·.1) = (literals spans).map (Value.mapContent (restored target)) := by
    rw [← map_fst_strands, List.map_map, List.map_map]
    rfl
  refine ⟨?_, ?_, fun horder => ?_, fun content rest hrest => opens_string_iff hrest⟩
  -- the text is woven of its literals and the words between them, and restored piece by piece
  · have htext : (s.converted target).text = woven (openingWords spans) (strands spans) := by
      rw [woven_strands]
      exact (Statement.spansText_spans _).symm
    have hrestored := restored_woven target (strands spans) isSome_content?_of_mem_strands
      (openingWords spans)
    rw [← htext] at hrestored
    rw [convertSql_of_readOne hread target, ← hrestored]
    rfl
  · rw [hliterals]
    obtain ⟨vs, hperm, hsub⟩ := hkept.subperm
    exact ⟨_, hperm.map _, hsub.map _⟩
  -- only a limit moved behind its offset changes the order
  · have hsame : literals spans = s.strings := by
      apply hkept.eq
      intro hfetching
      rcases horder with hlimit | hkeeps
      · rw [hlimit] at hfetching
        exact absurd hfetching (by decide)
      · exact hkeeps
    rw [hsame] at hliterals
    have hcontents : output.filterMap (·.1.content?) = s.contents.map (restored target) := by
      have hmap : output.filterMap (·.1.content?) =
          (output.map (·.1)).filterMap Value.content? :=
        (List.filterMap_map (f := Prod.fst) (g := Value.content?) (l := output)).symm
      rw [hmap, hliterals, filterMap_content?_map]
      rfl
    refine ⟨hliterals, fun inputs hinputs => ?_, ?_⟩
    -- the list is kept exactly if each of its members is
    · have hself := List.map_inj_left (f := restored target ∘ hidden) (g := id) (l := inputs)
      rw [List.map_id] at hself
      rw [hcontents, hinputs, List.map_map, hself]
      exact forall₂_congr fun c _ => restored_hidden_iff target c
    · rw [hcontents, List.map_inj_left]
      constructor
      · exact fun h hd c hc => (restored_eq_written_iff target c).1 (h c hc) hd
      · exact fun h c hc => (restored_eq_written_iff target c).2 fun hd => h hd c hc

/-- A percent sign alone is no marker, and underscores alone are no inert name: these contents survive
where a marker next to them is replaced. -/
theorem convertSql_literals_percent :
    let sql := "SELECT 'it''s 5 %', %s FROM t WHERE a LIKE '___PLACEHOLDER' LIMIT 5"
    let inputs := ["it's 5 %", "___PLACEHOLDER"]
    ∃ s, readOne (Text.replaceAll sourceMarker inertMarker sql) none = .ok s ∧
      s.contents = inputs.map hidden ∧ (∀ c ∈ inputs, Survives .duckdb c) ∧
      (strands (s.converted .duckdb).spans).filterMap
          (fun x => (x.1.mapContent (restored .duckdb)).content?) = inputs ∧
      ¬ Survives .postgres "___PLACEHOLDER%s" := by
  intro sql inputs
  have hrun : (readOne (Text.replaceAll sourceMarker inertMarker sql) none).toOption.map
      Statement.contents = some (inputs.map hidden) := by decide +kernel
  obtain ⟨s, hs, hcontents⟩ := Option.map_eq_some_iff.1 hrun
  rw [toOption_eq_some] at hs
  obtain ⟨-, hkept, -⟩ := (convertSql_literals hs .duckdb).2.2.1 (.inl rfl)
  have hsurvive : ∀ c ∈ inputs, Survives .duckdb c := by decide +kernel
  have hsame := (hkept inputs hcontents).2 hsurvive
  rw [List.filterMap_map] at hsame
  exact ⟨s, hs, hcontents, hsurvive, hsame, by decide +kernel⟩

/-- What is written in the string literals of a text. -/
def textContents (d : Option Dialect) (sql : String) : Option (List String) :=
  (lex (.of d) sql).map fun ls => ls.filterMap fun
    | .literal v => v.content?
    | _ => none

/-- A pattern that ends in the letters of a marker becomes another one. -/
theorem convertSql_changes_literal :
    let sql := "SELECT * FROM t WHERE name LIKE 'a%s'"
    let output := "SELECT * FROM t WHERE name LIKE 'a?'"
    ¬ inertMarker.toList <:+: sql.toList ∧ (readOne sql none).isOk = true ∧
      convertSql sql .duckdb none = .ok output ∧ textContents none sql = some ["a%s"] ∧
      textContents (some .duckdb) output = some ["a?"] := by
  intro sql output
  have houtput : (convertSql sql .duckdb none).toOption = some output := by decide +kernel
  exact ⟨by decide +kernel, by decide +kernel, toOption_eq_some.1 houtput, by decide +kernel,
    by decide +kernel⟩

end DatasetSql.Conversion
