import DatasetSql.Proofs.Compilation
import DatasetSql.Proofs.Reloading
import DatasetSql.Proofs.Toml.Document

/-!
# Saving schemas in TOML

A schema that is saved in TOML and loaded again is the same but for the order of keys: the reader's
tables have their keys in the order of their texts. The order of parameters does not matter, but the
order of a mapping is that of the branches it compiles to, so the schema is the same exactly if its
mappings were in that order before.
-/

namespace DatasetSql

open Json (Value DistinctItems DistinctFields MachineItems MachineFields depthItems depthFields)

/-! ## Values that are read back -/

namespace Json

/-- The items of an array have distinct keys exactly if each has. -/
theorem distinctItems_iff {xs : List Value} : DistinctItems xs ↔ ∀ x ∈ xs, x.DistinctKeys := by
  induction xs with
  | nil => exact iff_of_true trivial fun _ h => nomatch h
  | cons x xs ih => rw [DistinctItems, ih, List.forall_mem_cons]

/-- The numbers of an array fit the machine exactly if those of each item do. -/
theorem machineItems_iff {xs : List Value} : MachineItems xs ↔ ∀ x ∈ xs, x.Machine := by
  induction xs with
  | nil => exact iff_of_true trivial fun _ h => nomatch h
  | cons x xs ih => rw [MachineItems, ih, List.forall_mem_cons]

theorem machineFields_iff {es : List (String × Value)} :
    MachineFields es ↔ ∀ e ∈ es, e.2.Machine := by
  induction es with
  | nil => exact iff_of_true trivial (List.forall_mem_nil _)
  | cons e es ih => rw [MachineFields, ih, List.forall_mem_cons]

/-- An array is as shallow as each of its items is. -/
theorem depthItems_le_iff {xs : List Value} {n : Nat} :
    depthItems xs ≤ n ↔ ∀ x ∈ xs, x.depth ≤ n := by
  induction xs with
  | nil => exact iff_of_true (Nat.zero_le n) (List.forall_mem_nil _)
  | cons x xs ih => rw [depthItems, max_le_iff, ih, List.forall_mem_cons]

theorem depthFields_le_iff {es : List (String × Value)} {n : Nat} :
    depthFields es ≤ n ↔ ∀ e ∈ es, e.2.depth ≤ n := by
  induction es with
  | nil => exact iff_of_true (Nat.zero_le n) (List.forall_mem_nil _)
  | cons e es ih => rw [depthFields, max_le_iff, ih, List.forall_mem_cons]

/-- What is read back of a value that is nested at most so deep: every key is there once, and every
number is one of a machine. -/
structure Value.Readable (n : Nat) (v : Value) : Prop where
  distinct : v.DistinctKeys
  machine : v.Machine
  depth : v.depth ≤ n

variable {n : Nat}

/-- What can be read at a depth can be read where more is allowed. -/
theorem Value.Readable.mono {m : Nat} {v : Value} (h : v.Readable n) (hle : n ≤ m) : v.Readable m :=
  { h with depth := Nat.le_trans h.depth hle }

theorem readable_string (s : String) : (Value.string s).Readable n :=
  ⟨trivial, trivial, Nat.zero_le n⟩

theorem readable_bool (b : Bool) : (Value.bool b).Readable n := ⟨trivial, trivial, Nat.zero_le n⟩

/-- An array of readable values is readable one level up. -/
theorem readable_array {xs : List Value} (h : ∀ x ∈ xs, x.Readable n) :
    (Value.array xs).Readable (n + 1) where
  distinct := distinctItems_iff.2 fun x hx => (h x hx).distinct
  machine := machineItems_iff.2 fun x hx => (h x hx).machine
  depth := Nat.succ_le_succ (depthItems_le_iff.2 fun x hx => (h x hx).depth)

/-- An object of readable values with different keys is readable one level up. -/
theorem readable_object {es : List (String × Value)} (hnodup : (es.map (·.1)).Nodup)
    (h : ∀ e ∈ es, e.2.Readable n) : (Value.object es).Readable (n + 1) where
  distinct := ⟨hnodup, distinctFields_iff.2 fun e he => (h e he).distinct⟩
  machine := machineFields_iff.2 fun e he => (h e he).machine
  depth := Nat.succ_le_succ (depthFields_le_iff.2 fun e he => (h e he).depth)

end Json

/-! ## Documents as values -/

namespace Encode

open Json (readable_string readable_bool readable_array readable_object)

/-- Whether the value of a field is read back, if there is one. -/
def Readable (n : Nat) (f : String × Option Value) : Prop := ∀ v, f.2 = some v → v.Readable n

variable {n : Nat} {α : Type} {write : α → Value} {key : String}

theorem readable_some {v : Value} (h : v.Readable n) : Readable n (key, some v) := by
  rintro _ ⟨⟩
  exact h

theorem readable_map {o : Option α} (h : ∀ a, o = some a → (write a).Readable n) :
    Readable n (key, o.map write) := by
  intro v hv
  obtain ⟨a, ha, rfl⟩ := Option.map_eq_some_iff.1 hv
  exact h a ha

theorem readable_items {xs : List α} (h : ∀ x ∈ xs, (write x).Readable n) :
    Readable (n + 1) (key, items write xs) := by
  cases xs with
  | nil => exact fun _ h => nomatch h
  | cons x xs =>
    refine readable_some (readable_array ?_)
    intro v hv
    obtain ⟨x, hx, rfl⟩ := List.mem_map.1 hv
    exact h x hx

/-- An object is read back if the fields are that it may have. -/
theorem readable_present {fields : List (String × Option Value)}
    (hnodup : (fields.map (·.1)).Nodup) (h : ∀ f ∈ fields, Readable n f) :
    (Value.object (present fields)).Readable (n + 1) := by
  refine readable_object ((keys_present fields).nodup hnodup) ?_
  intro e he
  obtain ⟨f, hf, heq⟩ := List.mem_filterMap.1 he
  obtain ⟨v, hv, rfl⟩ := Option.map_eq_some_iff.1 heq
  exact h f hf v hv

theorem readable_nat {m : Nat} (h : m < Numeric.wordCount) : (nat m).Readable n := by
  refine ⟨trivial, ⟨?_, by exact_mod_cast h⟩, Nat.zero_le n⟩
  omega

theorem readable_texts (o : Option String) : Readable n (key, o.map .string) :=
  readable_map fun _ _ => readable_string _

theorem readable_column (c : Column) : (column c).Readable (n + 1) := by
  rw [column_eq_present]
  refine readable_present (by simp) ?_
  simp only [List.cons_append, List.nil_append, List.forall_mem_cons]
  exact ⟨readable_some (readable_string _), readable_some (readable_string _), readable_texts _,
    readable_texts _, readable_texts _, fun _ h => nomatch h⟩

theorem readable_connection {c : Connection} (hport : ∀ p, c.port = some p → p ≤ 65535) :
    (connection c).Readable (n + 1) := by
  have hword (p : Nat) (h : p ≤ 65535) : p < Numeric.wordCount := Nat.lt_of_le_of_lt h (by decide)
  rw [connection_eq_present]
  refine readable_present (by simp) ?_
  simp only [List.cons_append, List.nil_append, List.forall_mem_cons]
  exact ⟨readable_some (readable_string _),
    readable_map fun p hp => readable_nat (hword p (hport p hp)), readable_texts _,
    readable_texts _, readable_some (readable_string _), readable_texts _, fun _ h => nomatch h⟩

theorem readable_link (l : Link) : (link l).Readable (n + 1) := by
  rw [link_eq_present]
  refine readable_present (by simp) ?_
  simp only [List.cons_append, List.nil_append, List.forall_mem_cons]
  exact ⟨readable_texts _, readable_texts _, readable_some (readable_string _),
    readable_some (readable_string _), fun _ h => nomatch h⟩

theorem readable_source {s : SourceDocument}
    (hport : ∀ c, s.connection = some c → ∀ p, c.port = some p → p ≤ 65535) :
    (source s).Readable (n + 2) := by
  rw [source_eq_present]
  refine readable_present (by simp) ?_
  simp only [List.cons_append, List.nil_append, List.forall_mem_cons]
  exact ⟨readable_some (readable_string _), readable_texts _, readable_texts _,
    readable_map fun c hc => readable_connection (hport c hc), fun _ h => nomatch h⟩

/-- A transformation is as readable as its parameters are. -/
theorem readable_transformation {t : TransformationDocument} (h : t.params.Readable n) :
    (transformation t).Readable (n + 1) := by
  rw [transformation_eq_present]
  refine readable_present (by simp) ?_
  simp only [List.forall_mem_cons]
  exact ⟨readable_some (readable_string _), readable_some h, fun _ h => nomatch h⟩

/-- A document is read back if its parameters are. -/
theorem readable_value {d : SchemaDocument} (h : d.Fits)
    (hparams : ∀ t ∈ d.transformations, t.params.Readable n) (hn : 1 ≤ n) :
    d.value.Readable (n + 3) := by
  obtain ⟨n, rfl⟩ := Nat.exists_eq_add_of_le' hn
  rw [value_eq_present]
  refine readable_present (by simp) ?_
  simp only [List.cons_append, List.nil_append, List.forall_mem_cons]
  refine ⟨readable_some (readable_string _), readable_texts _,
    readable_map fun m hm => readable_nat (h.limit m hm), ?_,
    readable_items fun _ _ => readable_string _, readable_items fun _ _ => readable_string _,
    readable_map fun s hs => readable_source (h.port s hs),
    readable_items fun c _ => readable_column c, readable_items fun l _ => readable_link l,
    readable_items fun t ht => readable_transformation (hparams t ht), fun _ h => nomatch h⟩
  cases d.view with
  | false => exact fun _ h => nomatch h
  | true => exact readable_some (readable_bool true)

end Encode

/-! ## Schemas -/

namespace Schema

/-- What the compiler looks at in a transformation. -/
def essentials (ts : List Transformation) : List (Option String × Rule) :=
  ts.map fun t => (t.column, t.rule)

section Essentials

variable {s : Schema} {ts : List Transformation} (h : essentials ts = essentials s.transformations)

include h

/-- An item depends on the essentials of the transformations alone. -/
theorem selectItem_congr (d : Dialect) :
    selectItem d { s with transformations := ts } = selectItem d s := by
  have hrules (ts : List Transformation) (column : String) :
      (ts.filter (·.targets column)).map (·.rule) =
        ((essentials ts).filter fun k => k.1.any (Text.eqIgnoreCase · column)).map (·.2) := by
    rw [essentials, List.filter_map, List.map_map]
    rfl
  funext c
  unfold selectItem applyTransformations
  simp only [hrules, h]

theorem distinct_congr : { s with transformations := ts }.distinct = s.distinct := by
  have hkinds (ts : List Transformation) : ts.any (·.kind == .removeDuplicates) =
      (essentials ts).any fun k => k.2.kind == .removeDuplicates := by
    rw [essentials, List.any_map]
    rfl
  show ts.any _ = s.transformations.any _
  rw [hkinds, hkinds, h]

/-- The query depends on the essentials of the transformations alone. -/
theorem baseQuery_congr (d : Dialect) (root : String) :
    { s with transformations := ts }.baseQuery d root = s.baseQuery d root := by
  unfold baseQuery selectList
  rw [selectItem_congr h, distinct_congr h]
  rfl

/-- Transformations of the same columns by the same rules are compiled to the same statements. -/
theorem statements_congr (o : CompileOptions) (rows : Option Nat) :
    { s with transformations := ts }.statements o rows = s.statements o rows := by
  unfold statements compile compileHead compileCount fullQuery headQuery countQuery
  simp only [baseQuery_congr h, distinct_congr h]
  rfl

end Essentials

/-- Mappings that are in the order of their keys already are kept, and so is all that the compiler
looks at. -/
theorem essentials_ordered {s : Schema} (hmade : ∀ t ∈ s.transformations, t.Made)
    (h : ∀ t ∈ s.transformations, Json.InKeyOrder t.rule.mapping) :
    essentials s.ordered.transformations = essentials s.transformations := by
  rw [essentials, essentials, ordered, List.map_map]
  refine List.map_congr_left fun t ht => ?_
  rw [Function.comp_apply, Transformation.ordered,
    (Rule.ordered_eq_self_iff (hmade t ht).nodup_mapping).2 (h t ht)]

end Schema

/-- A schema that was made in steps and has been saved in TOML is loaded with its mappings and
parameters in the order of their keys. That is an equal schema exactly if every mapping was in that
order, and then it compiles to the same statements. -/
theorem SchemaDraft.parse_tomlText {name : String} {source : DatasetSource} {steps : List Step}
    {s : Schema} {text : String} (hsource : source.Storable)
    (hsteps : ∀ step ∈ steps, step.Storable) (hbuild : (make name source steps).build = .ok s)
    (hnumbers : ∀ t ∈ s.transformations, MachineFields t.params)
    (hdepth : ∀ t ∈ s.transformations, (Value.object t.params).depth + 2 ≤ Toml.maxDepth)
    (htext : s.document.tomlText = .ok text) :
    Schema.parse .toml text = .ok s.ordered ∧
      (s.ordered.same s = true ↔ ∀ t ∈ s.transformations, Json.InKeyOrder t.rule.mapping) ∧
      (s.ordered.same s = true →
        ∀ o rows, s.ordered.statements o rows = s.statements o rows) := by
  obtain ⟨hstorable, hagain⟩ := storable_and_checked hsource hsteps hbuild
  -- parameters stand two tables deep in a document
  have hparams : ∀ t ∈ s.document.transformations, t.params.Readable (Toml.maxDepth - 2) := by
    intro document hdocument
    obtain ⟨t, ht, rfl⟩ := List.mem_map.1 hdocument
    exact ⟨(hstorable.made t ht).distinctKeys, hnumbers t ht, Nat.le_sub_of_add_le (hdepth t ht)⟩
  have hreadable := Encode.readable_value hstorable.fits hparams (by decide)
  have hrender : Toml.render? s.document.value = some text := by
    unfold SchemaDocument.tomlText at htext
    cases hrender : Toml.render? s.document.value with
    | none =>
      rw [hrender] at htext
      exact nomatch htext
    | some rendered =>
      rw [hrender] at htext
      exact congrArg some (Except.ok.inj htext)
  obtain ⟨table, htable, hdata⟩ := Toml.parse?_render hrender hreadable.distinct hreadable.machine
    (Nat.le_of_succ_le_succ hreadable.depth)
  -- the text holds the document with its keys in order, so the ordered schema is read
  have hdecode := Schema.decode_ordered hstorable fun t ht =>
    Nat.le_trans (Nat.le_sub_of_add_le (hdepth t ht)) (by decide)
  have hdocument : SchemaDocument.parse .toml text = .ok s.ordered.document := by
    show SchemaDocument.parseToml text = _
    rw [SchemaDocument.parseToml, htable]
    show (Decode.schema? .toml _ (Toml.Value.table table).data).elim _ _ = _
    rw [hdata]
    show (Decode.schema? .toml _ s.document.value.ordered.data).elim _ _ = _
    rw [hdecode]
    rfl
  have hschema := Schema.toSchema_document (Schema.storable_ordered hstorable).made
    (Schema.build_ordered hagain)
  have hsame := Schema.same_ordered_iff hstorable.made
  refine ⟨bind_eq_ok.2 ⟨_, hdocument, hschema⟩, hsame, fun horder o rows => ?_⟩
  exact Schema.statements_congr (Schema.essentials_ordered hstorable.made (hsame.1 horder)) o rows

/-- Grades written as numbers. -/
def Transformation.graded (grades : List (String × Int)) : Transformation :=
  ⟨some "grade", .mapValues (grades.map fun g => (g.1, .int g.2)),
    [("column", .string "grade"),
      ("mapping", .object (grades.map fun g => (g.1, .number (.int g.2))))]⟩

/-- The steps that make a schema of graded rows. -/
def SchemaDraft.gradedSteps (grades : List (String × Int)) : List Step :=
  [.columns [{ name := "grade", type := .string }], .transformations [.graded grades], .limit 3]

/-- A schema with a mapping is written and read again with the same statements. -/
theorem SchemaDraft.parse_tomlText_graded :
    let source := DatasetSource.file .csv "data/grades.csv"
    let steps := gradedSteps [("a", 1), ("b", 2)]
    source.Storable ∧ (∀ step ∈ steps, step.Storable) ∧
      ∃ s text, (make "Grades" source steps).build = .ok s ∧
        (∀ t ∈ s.transformations, MachineFields t.params) ∧
        (∀ t ∈ s.transformations, (Value.object t.params).depth + 2 ≤ Toml.maxDepth) ∧
        s.document.tomlText = .ok text ∧ Schema.parse .toml text = .ok s.ordered ∧
        s.ordered.same s = true ∧ s.ordered.statements {} none = s.statements {} none := by
  intro source steps
  have hsource : source.Storable := trivial
  have hmade : (Transformation.graded [("a", 1), ("b", 2)]).Made := by
    let params := (Transformation.graded [("a", 1), ("b", 2)]).params
    refine ⟨"map_values", .object params, ⟨?_, trivial, ⟨?_, trivial, trivial, trivial⟩, trivial⟩, rfl⟩
    · decide
    · decide
  have hsteps : ∀ step ∈ steps, step.Storable := by
    simp only [steps, gradedSteps, List.forall_mem_cons]
    refine ⟨trivial, ?_, ?_, fun _ h => nomatch h⟩
    · intro t ht
      rw [List.mem_singleton.1 ht]
      exact hmade
    · show 3 < Numeric.wordCount
      decide
  have hrun : ((make "Grades" source steps).build.toOption.bind fun s =>
      s.document.tomlText.toOption).isSome = true := by decide +kernel
  obtain ⟨text, hrun⟩ := Option.isSome_iff_exists.1 hrun
  obtain ⟨s, hbuild, htext⟩ := Option.bind_eq_some_iff.1 hrun
  rw [toOption_eq_some] at hbuild htext
  have hts : s.transformations = [.graded [("a", 1), ("b", 2)]] :=
    (build_eq_ok_iff_becomes.1 hbuild).2.transformations
  have hnumbers : ∀ t ∈ s.transformations, MachineFields t.params := by
    rw [hts, List.forall_mem_singleton]
    exact ⟨trivial, ⟨⟨by decide, by decide⟩, ⟨by decide, by decide⟩, trivial⟩, trivial⟩
  have hdepth : ∀ t ∈ s.transformations,
      (Value.object t.params).depth + 2 ≤ Toml.maxDepth := by
    rw [hts, List.forall_mem_singleton]
    decide
  obtain ⟨hparse, hsame, hstatements⟩ :=
    parse_tomlText hsource hsteps hbuild hnumbers hdepth htext
  -- the keys of the mapping are in order already
  have horder : s.ordered.same s = true := by
    rw [hsame, hts, List.forall_mem_singleton]
    show ["a", "b"].Pairwise (· < ·)
    decide
  exact ⟨hsource, hsteps, s, text, hbuild, hnumbers, hdepth, htext, hparse, horder,
    hstatements horder {} none⟩

/-- A mapping that is not in the order of its keys is loaded in that order. -/
theorem SchemaDraft.parse_tomlText_reorders :
    ∃ s text s', (make "Grades" (.file .csv "data/grades.csv")
        (gradedSteps [("b", 2), ("a", 1)])).build = .ok s ∧
      s.document.tomlText = .ok text ∧ Schema.parse .toml text = .ok s' ∧
      s.transformations.map (·.rule) = [.mapValues [("b", .int 2), ("a", .int 1)]] ∧
      s'.transformations.map (·.rule) = [.mapValues [("a", .int 1), ("b", .int 2)]] ∧
      s'.same s = false := by
  have hrun : ((make "Grades" (.file .csv "data/grades.csv")
      (gradedSteps [("b", 2), ("a", 1)])).build.toOption.bind fun s =>
      s.document.tomlText.toOption.bind fun text => (Schema.parse .toml text).toOption.map fun s' =>
        (s.transformations.map (·.rule), s'.transformations.map (·.rule), s'.same s)) =
      some ([.mapValues [("b", .int 2), ("a", .int 1)]],
        [.mapValues [("a", .int 1), ("b", .int 2)]], false) := by decide +kernel
  obtain ⟨s, hbuild, hrun⟩ := Option.bind_eq_some_iff.1 hrun
  obtain ⟨text, htext, hrun⟩ := Option.bind_eq_some_iff.1 hrun
  obtain ⟨s', hparse, hrun⟩ := Option.map_eq_some_iff.1 hrun
  simp only [Prod.mk.injEq] at hrun
  rw [toOption_eq_some] at hbuild htext hparse
  exact ⟨s, text, s', hbuild, htext, hparse, hrun⟩

end DatasetSql
