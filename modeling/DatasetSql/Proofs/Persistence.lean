import DatasetSql.Proofs.Acceptance
import DatasetSql.Proofs.Encoding

/-!
# Saving and loading schemas

Loading runs every check again, so a saved schema comes back only because its cleaned name is clean,
its sort keys are read from their own texts, its rules are made again from the parameters they were
made of, and its joins are planned as before. The result is that loading what was saved gives the
same schema, for every schema that can be made.
-/

namespace DatasetSql

open Json (Value)

/-! ## Transformations -/

namespace Params

/-- Every rule that comes out is of one kind. -/
def OfKind (kind : TransformationKind) (x : Result Rule) : Prop := ∀ r, x = .ok r → r.kind = kind

variable {kind : TransformationKind} {α : Type}

theorem OfKind.ok {r : Rule} (h : r.kind = kind) : OfKind kind (.ok r) := by
  intro r' hr
  cases hr
  exact h

theorem OfKind.error {e : SchemaError} : OfKind kind (.error e) := fun _ hr => nomatch hr

/-- What is of a kind stays so behind other steps. -/
theorem OfKind.bind {x : Result α} {f : α → Result Rule} (h : ∀ a, OfKind kind (f a)) :
    OfKind kind (x >>= f) := by
  intro r hr
  obtain ⟨a, -, ha⟩ := bind_eq_ok.1 hr
  exact h a r ha

theorem OfKind.ite {c : Prop} [Decidable c] {x y : Result Rule} (hx : OfKind kind x)
    (hy : OfKind kind y) : OfKind kind (if c then x else y) := by
  by_cases hc : c
  · rwa [if_pos hc]
  · rwa [if_neg hc]

theorem padRule_ofKind (p : Params) : OfKind .pad p.padRule :=
  .bind fun _ => .bind fun _ => .ite .error (.bind fun _ => .ok rfl)

theorem clipRule_ofKind (p : Params) : OfKind .clip p.clipRule := by
  refine .bind fun lower => .bind fun upper => ?_
  match lower, upper with
  | none, none => exact .error
  | some _, some _ => exact .ite .error (.ok rfl)
  | none, some _ => exact .ok rfl
  | some _, none => exact .ok rfl

theorem binRule_ofKind (p : Params) : OfKind .bin p.binRule := by
  refine .bind fun edges => .bind fun labels => ?_
  cases labels with
  | array items => exact .bind fun _ => .ite .error (.ok rfl)
  | null | bool | number | string | object => exact .error

theorem renameRule_ofKind (p : Params) : OfKind .rename p.renameRule :=
  .bind fun _ => .ite .error (.ok rfl)

/-- A rule is of the kind it was made for. -/
theorem rule_ofKind (p : Params) : OfKind p.kind p.rule := by
  obtain ⟨kind, entries⟩ := p
  cases kind with
  | anonymize | toLowercase | toUppercase | strip | toNumeric | normalize | standardize
  | validateEmail => exact .ok rfl
  | roundNumbers | scale | formatDate | toDatetime | fillNa | extract | mapValues
  | encodeCategorical | normalizePhone | removeDuplicates | ensurePositive =>
    exact .bind fun _ => .ok rfl
  | convertTimezone | replace | truncate | validateDateRange | validateForeignKey
  | standardizeCategories => exact .bind fun _ => .bind fun _ => .ok rfl
  | pad => exact padRule_ofKind _
  | clip => exact clipRule_ofKind _
  | bin => exact binRule_ofKind _
  | rename => exact renameRule_ofKind _

end Params

/-- The name of a kind is read back as that kind. -/
theorem TransformationKind.read_name (kind : TransformationKind) : read kind.name = .ok kind := by
  cases kind <;> rfl

namespace Transformation

/-- A transformation keeps the parameters it was made of; none are the same as no parameters. -/
theorem ofKind_eq_ok {kind : TransformationKind} {params : Value} {t : Transformation} :
    ofKind kind params = .ok t ↔
      (params = .object t.params ∨ params = .null ∧ t.params = []) ∧
        Params.column ⟨kind, t.params⟩ = .ok t.column ∧
        Params.rule ⟨kind, t.params⟩ = .ok t.rule := by
  -- the parameters are settled first, and what follows reads only their entries
  have hread (entries : List (String × Value)) : (do
      let column ← Params.column ⟨kind, entries⟩
      let rule ← Params.rule ⟨kind, entries⟩
      return ({ column, rule, params := entries } : Transformation)) = Except.ok t ↔
        entries = t.params ∧ Params.column ⟨kind, t.params⟩ = .ok t.column ∧
          Params.rule ⟨kind, t.params⟩ = .ok t.rule := by
    constructor
    · intro h
      obtain ⟨column, hcolumn, h⟩ := bind_eq_ok.1 h
      obtain ⟨rule, hrule, h⟩ := bind_eq_ok.1 h
      cases h
      exact ⟨rfl, hcolumn, hrule⟩
    · rintro ⟨rfl, hcolumn, hrule⟩
      exact bind_eq_ok.2 ⟨_, hcolumn, bind_eq_ok.2 ⟨_, hrule, rfl⟩⟩
  cases params with
  | object entries => exact (hread entries).trans (by simp)
  | null => exact (hread []).trans (by simp [eq_comm])
  | bool | number | string | array => exact iff_of_false (fun h => nomatch h) (by simp)

/-- A transformation that is made from a kind is of that kind. -/
theorem kind_of_ofKind {kind : TransformationKind} {params : Value} {t : Transformation}
    (h : ofKind kind params = .ok t) : t.kind = kind :=
  Params.rule_ofKind ⟨kind, t.params⟩ t.rule (ofKind_eq_ok.1 h).2.2

/-- Made from the name of a kind and parameters in which no object repeats a key. -/
def Made (t : Transformation) : Prop :=
  ∃ name params, params.DistinctKeys ∧ read name params = .ok t

/-- A transformation is made again from its own document. -/
theorem Made.read_document {t : Transformation} (h : t.Made) :
    read t.document.type t.document.params = .ok t := by
  obtain ⟨name, params, -, hread⟩ := h
  obtain ⟨kind, -, hkind⟩ := bind_eq_ok.1 hread
  -- the stored parameters are an object even if it was made of none
  have hmade := (ofKind_eq_ok.1 hkind).2
  have hagain : ofKind kind (.object t.params) = .ok t := ofKind_eq_ok.2 ⟨.inl rfl, hmade⟩
  have hname : TransformationKind.read t.kind.name = .ok kind := by
    rw [kind_of_ofKind hkind]
    exact kind.read_name
  exact bind_eq_ok.2 ⟨kind, hname, hagain⟩

/-- The parameters of a transformation repeat no key. -/
theorem Made.distinctKeys {t : Transformation} (h : t.Made) :
    t.document.params.DistinctKeys := by
  obtain ⟨name, params, hdistinct, hread⟩ := h
  obtain ⟨kind, -, hkind⟩ := bind_eq_ok.1 hread
  rcases (ofKind_eq_ok.1 hkind).1 with rfl | ⟨-, hempty⟩
  · exact hdistinct
  · rw [document, hempty]
    exact ⟨List.nodup_nil, trivial⟩

end Transformation

/-! ## Sources -/

theorem FileFormat.ofName?_name (format : FileFormat) : ofName? format.name = some format := by
  cases format <;> rfl

theorem Engine.ofName?_name (engine : Engine) : ofName? engine.name = some engine := by
  cases engine <;> rfl

/-- No engine has the name of a file format. -/
theorem FileFormat.ofName?_engine (engine : Engine) : ofName? engine.name = none := by
  cases engine <;> rfl

/-- A source is found again in the flat form that it has in a document. -/
theorem Schema.datasetSource_document (s : Schema) : s.document.datasetSource = .ok s.source := by
  unfold SchemaDocument.datasetSource Schema.document
  cases s.source with
  | file format path =>
    show SourceDocument.toSource _ _ = _
    simp only [SourceDocument.toSource, FileFormat.ofName?_name]
  | relational engine connection table =>
    show SourceDocument.toSource _ _ = _
    simp only [SourceDocument.toSource, FileFormat.ofName?_engine, Engine.ofName?_name]
  | view links => rfl

/-! ## Schemas -/

/-- The draft that a schema is checked from when it is loaded. -/
def Schema.draft (s : Schema) : SchemaDraft where
  name := s.name
  source := s.source
  description := s.description
  columns := s.columns
  transformations := s.transformations
  groupBy := s.groupBy
  orderBy := s.orderBy.map (·.text)
  limit := s.limit

/-- A schema that its draft builds is built again from its document. -/
theorem Schema.toSchema_document {s : Schema} (h : ∀ t ∈ s.transformations, t.Made)
    (hbuild : s.draft.build = .ok s) : s.document.toSchema = .ok s := by
  have hmade : s.document.transformations.mapM (fun t => Transformation.read t.type t.params) =
      .ok s.transformations := by
    rw [mapM_eq_ok]
    show List.Forall₂ _ (s.transformations.map (·.document)) s.transformations
    rw [List.forall₂_map_left_iff, List.forall₂_same]
    intro t ht
    exact (h t ht).read_document
  exact bind_eq_ok.2 ⟨_, s.datasetSource_document, bind_eq_ok.2 ⟨_, hmade, hbuild⟩⟩

/-- The column of a sort key that was written is a word. -/
theorem SortKey.isWord_of_forall₂ {entries : List String} {keys : List SortKey}
    (h : List.Forall₂ (fun entry k => SortKey.Written k entry) entries keys) :
    ∀ k ∈ keys, Text.IsWord k.column.toList := by
  induction h with
  | nil => intro k hk; exact nomatch hk
  | cons hk _ ih => exact List.forall_mem_cons.2 ⟨hk.isWord, ih⟩

namespace SchemaDraft

/-- The draft with its name cleaned, its sort keys written anew and another description. -/
def rewritten (b : SchemaDraft) (keys : List SortKey) (description : Option String) : SchemaDraft :=
  { b with name := cleanName b.name, description, orderBy := keys.map (·.text) }

section Rewritten

variable {b : SchemaDraft} {keys : List SortKey} (hkeys : ∀ k ∈ keys, Text.IsWord k.column.toList)
  (description : Option String)

include hkeys

/-- A draft stays valid if its name is cleaned and its sort keys are written anew. -/
theorem Valid.rewritten (h : b.Valid) : (b.rewritten keys description).Valid := by
  unfold SchemaDraft.rewritten
  exact {
    name := by
      obtain ⟨clean, hclean, hfirst⟩ := h.name
      exact ⟨clean, cleans_cleanName.2 hclean, hfirst⟩
    limit := h.limit
    columnNames := h.columnNames
    columnsDiffer := h.columnsDiffer
    expressions := h.expressions
    groups := h.groups
    targets := h.targets
    order := by
      intro entry hentry
      obtain ⟨k, hk, rfl⟩ := List.mem_map.1 hentry
      exact ⟨k, k.written_text (hkeys k hk)⟩
    source := h.source }

/-- The draft of a schema becomes that schema. -/
theorem Becomes.rewritten {plan : Option ViewPlan} (hplan : Planned b.columns b.source plan) :
    (b.rewritten keys description).Becomes
      ((b.frozen keys plan).setDescription description) := by
  have horder : List.Forall₂ (fun entry k => SortKey.Written k entry) (keys.map (·.text)) keys := by
    rw [List.forall₂_map_left_iff, List.forall₂_same]
    intro k hk
    exact k.written_text (hkeys k hk)
  unfold SchemaDraft.rewritten
  refine becomes_iff.2 ⟨keys, horder, plan, hplan, ?_⟩
  simp only [frozen, Schema.setDescription, cleanName_cleanName]

end Rewritten

/-- A schema that came out of a draft passes every check again, and so does the same schema with
another description. -/
theorem build_draft {b : SchemaDraft} {s : Schema} (h : b.build = .ok s)
    (description : Option String) :
    (s.setDescription description).draft.build = .ok (s.setDescription description) := by
  obtain ⟨hvalid, hbecomes⟩ := build_eq_ok_iff_becomes.1 h
  obtain ⟨keys, hwritten, plan, hplan, rfl⟩ := becomes_iff.1 hbecomes
  -- a column that was read from an entry is one word, so the text of its key is read again
  have hkeys := SortKey.isWord_of_forall₂ hwritten
  have hdraft : ((b.frozen keys plan).setDescription description).draft =
      b.rewritten keys description := rfl
  rw [hdraft, build_eq_ok_iff_becomes]
  exact ⟨hvalid.rewritten hkeys description, Becomes.rewritten hkeys description hplan⟩

end SchemaDraft

/-! ## Made in steps -/

/-- A source whose port is a number of 16 bits. -/
def DatasetSource.Storable : DatasetSource → Prop
  | .relational _ connection _ => ∀ n, connection.port = some n → n ≤ 65535
  | .file _ _ | .view _ => True

/-- What the numbers and the transformations of a schema are: a limit of 64 bits, a port of 16 bits,
and transformations that were made from parameters. -/
structure Storable (limit : Option Nat) (source : DatasetSource)
    (transformations : List Transformation) : Prop where
  limit : ∀ n, limit = some n → n < Numeric.wordCount
  source : source.Storable
  made : ∀ t ∈ transformations, t.Made

namespace SchemaDraft

/-- What is given in a step is storable. -/
def Step.Storable : Step → Prop
  | .limit rows => rows < Numeric.wordCount
  | .transformations ts => ∀ t ∈ ts, t.Made
  | .description _ | .columns _ | .groupBy _ | .orderBy _ => True

/-- Whether everything in a draft can be stored. -/
def Storable (b : SchemaDraft) : Prop := DatasetSql.Storable b.limit b.source b.transformations

/-- A call of the builder keeps a draft storable. -/
theorem Storable.step {b : SchemaDraft} {step : Step} (h : b.Storable) (hstep : step.Storable) :
    (b.step step).Storable := by
  cases step with
  | limit rows =>
    have hlimit : ∀ n, some rows = some n → n < Numeric.wordCount := by
      rintro n ⟨⟩
      exact hstep
    exact ⟨hlimit, h.source, h.made⟩
  | transformations ts =>
    have hmade : ∀ t ∈ b.transformations ++ ts, t.Made := by
      intro t ht
      rcases List.mem_append.1 ht with hold | hnew
      · exact h.made t hold
      · exact hstep t hnew
    exact ⟨h.limit, h.source, hmade⟩
  | description | columns | groupBy | orderBy => exact ⟨h.limit, h.source, h.made⟩

/-- All calls, one after the other, keep a draft storable. -/
theorem Storable.run {b : SchemaDraft} {steps : List Step} (h : b.Storable)
    (hsteps : ∀ step ∈ steps, step.Storable) : (steps.foldl SchemaDraft.step b).Storable := by
  induction steps generalizing b with
  | nil => exact h
  | cons step steps ih =>
    obtain ⟨hstep, hrest⟩ := List.forall_mem_cons.1 hsteps
    exact ih (h.step hstep) hrest

/-- A draft that is made in storable steps is storable. -/
theorem storable_make {name : String} {source : DatasetSource} {steps : List Step}
    (hsource : source.Storable) (hsteps : ∀ step ∈ steps, step.Storable) :
    (make name source steps).Storable := by
  have hstart : Storable { name, source } :=
    ⟨fun n hn => (nomatch hn), hsource, fun t ht => (nomatch ht)⟩
  exact hstart.run hsteps

end SchemaDraft

/-- The last description counts. -/
theorem Schema.foldl_setDescription (s : Schema) (descriptions : List (Option String)) :
    ∃ d, descriptions.foldl setDescription s = s.setDescription d := by
  induction descriptions generalizing s with
  | nil => exact ⟨s.description, rfl⟩
  | cons d descriptions ih => exact ih (s.setDescription d)

/-- The numbers of a storable schema fit into its document. -/
theorem Storable.fits {s : Schema} (h : Storable s.limit s.source s.transformations) :
    s.document.Fits where
  limit := h.limit
  port := by
    intro document hdocument connection hconnection
    have hsource := h.source
    -- a port is that of a connection, which only tables have
    change s.source.document? = some document at hdocument
    cases hs : s.source with
    | file format path =>
      rw [hs] at hdocument
      cases hdocument
      exact nomatch hconnection
    | view links =>
      rw [hs] at hdocument
      exact nomatch hdocument
    | relational engine c table =>
      rw [hs] at hdocument hsource
      cases hdocument
      cases hconnection
      exact hsource
  params := by
    intro t ht
    obtain ⟨t, hmem, rfl⟩ := List.mem_map.1 ht
    exact (h.made t hmem).distinctKeys

/-- A schema that was made in steps, whatever its description was changed to, is saved as a document
that describes it exactly, and the document is read back from its JSON value: loading what was saved
gives the same schema. -/
theorem SchemaDraft.load_saved {name : String} {source : DatasetSource} {steps : List Step}
    {made : Schema} (hsource : source.Storable) (hsteps : ∀ step ∈ steps, step.Storable)
    (hbuild : (make name source steps).build = .ok made) (descriptions : List (Option String)) :
    let s := descriptions.foldl Schema.setDescription made
    s.document.toSchema = .ok s ∧
      SchemaDocument.ofValue s.document.value = .ok s.document ∧
      (SchemaDocument.ofValue s.document.value >>= SchemaDocument.toSchema) = .ok s := by
  intro s
  obtain ⟨d, hd⟩ := made.foldl_setDescription descriptions
  have hs : s = made.setDescription d := hd
  -- what a build keeps is what the steps put in
  have hstorable : DatasetSql.Storable s.limit s.source s.transformations := by
    have hbecomes := (build_eq_ok_iff_becomes.1 hbuild).2
    rw [hs]
    show DatasetSql.Storable made.limit made.source made.transformations
    rw [hbecomes.limit, hbecomes.source, hbecomes.transformations]
    exact storable_make hsource hsteps
  have hagain : s.draft.build = .ok s := by
    rw [hs]
    exact build_draft hbuild d
  have hschema : s.document.toSchema = .ok s := Schema.toSchema_document hstorable.made hagain
  have hvalue := SchemaDocument.ofValue_value hstorable.fits
  exact ⟨hschema, hvalue, bind_eq_ok.2 ⟨s.document, hvalue, hschema⟩⟩

/-- Doubles the totals of a view. -/
def Transformation.doubled : Transformation :=
  ⟨some "orders.total", .scale (.int 2),
    [("column", .string "orders.total"), ("factor", .number (.int 2))]⟩

theorem Transformation.doubled_made : doubled.Made := by
  refine ⟨"scale", .object doubled.params, ⟨?_, trivial, trivial, trivial⟩, rfl⟩
  decide

/-- The steps that make a view of two joined tables, with a rule, a sort key and a limit. -/
def SchemaDraft.viewSteps : List Step :=
  [.columns [{ name := "orders.total", type := .float, expression := some "total + 1" },
      { name := "customers.name", type := .string }],
    .transformations [.doubled], .orderBy ["customers.name  desc"], .limit 10]

/-- A view with a transformation and sort keys is loaded from what was saved. -/
theorem SchemaDraft.load_saved_view :
    let source := DatasetSource.view [{ source := "orders.customer", target := "customers.id" }]
    source.Storable ∧ (∀ step ∈ viewSteps, step.Storable) ∧
      ∃ made, (make "Orders 2" source viewSteps).build = .ok made ∧
        (SchemaDocument.ofValue (made.setDescription (some "open")).document.value >>=
          SchemaDocument.toSchema) = .ok (made.setDescription (some "open")) := by
  intro source
  have hsource : source.Storable := trivial
  have hsteps : ∀ step ∈ viewSteps, step.Storable := by
    simp only [viewSteps, List.forall_mem_cons]
    refine ⟨trivial, ?_, trivial, ?_, fun _ h => nomatch h⟩
    · intro t ht
      rw [List.mem_singleton.1 ht]
      exact Transformation.doubled_made
    · show 10 < Numeric.wordCount
      decide
  have hbuild : (make "Orders 2" source viewSteps).build.toOption.isSome = true := by
    decide +kernel
  obtain ⟨made, hmade⟩ := Option.isSome_iff_exists.1 hbuild
  rw [toOption_eq_some] at hmade
  exact ⟨hsource, hsteps, made, hmade, (load_saved hsource hsteps hmade [some "open"]).2.2⟩

end DatasetSql
