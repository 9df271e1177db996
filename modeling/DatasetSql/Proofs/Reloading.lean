import DatasetSql.Proofs.KeyOrder
import DatasetSql.Proofs.Persistence

/-!
# Rules in the order of their keys

Parameters that were put in the order of their keys give the same rule, but for the mappings of
values and of categories, whose entries are then in that order, too. A schema whose transformations
are so changed passes the same checks.
-/

namespace DatasetSql

open Json (Data Value InKeyOrder byKey orderedFields)
open Emit (Literal)

/-! ## Parameters -/

/-- A rule with its mapping in the order of the keys. -/
def Rule.ordered : Rule → Rule
  | .mapValues mapping => .mapValues (byKey mapping)
  | .standardizeCategories mapping caseSensitive =>
    .standardizeCategories (byKey mapping) caseSensitive
  | r => r

namespace Params

/-- The parameters in the order of their keys. -/
def ordered (p : Params) : Params := { p with entries := orderedFields p.entries }

/-- What one reader gives, another one gives in a changed form. -/
def Gives {α β : Type} (f : α → β) (x : Result α) (y : Result β) : Prop :=
  ∀ a, x = .ok a → y = .ok (f a)

section Gives

variable {α α' β β' : Type} {f : α → α'} {g : β → β'}

theorem Gives.ok {a : α} : Gives f (.ok a) (.ok (f a)) := by
  rintro _ ⟨⟩
  rfl

theorem Gives.error {e : SchemaError} {y : Result α'} : Gives f (.error e) y :=
  fun _ h => nomatch h

/-- Steps give the same one after the other, if each of them does. -/
theorem Gives.bind {x : Result α} {y : Result α'} {k : α → Result β} {l : α' → Result β'}
    (h : Gives f x y) (hk : ∀ a, Gives g (k a) (l (f a))) : Gives g (x >>= k) (y >>= l) := by
  intro b hb
  obtain ⟨a, ha, hka⟩ := bind_eq_ok.1 hb
  exact bind_eq_ok.2 ⟨f a, h a ha, hk a b hka⟩

/-- A choice gives the same if both branches do. -/
theorem Gives.ite {c : Prop} [Decidable c] {x x' : Result α} {y y' : Result α'} (h : Gives f x y)
    (h' : Gives f x' y') : Gives f (if c then x else x') (if c then y else y') := by
  by_cases hc : c
  · rwa [if_pos hc, if_pos hc]
  · rwa [if_neg hc, if_neg hc]

/-- A list is read to the same results if each element is. -/
theorem Gives.mapM {k : α → Result β} {l : α' → Result β} (h : ∀ a, Gives id (k a) (l (f a)))
    (xs : List α) : Gives id (xs.mapM k) ((xs.map f).mapM l) := by
  intro ys hys
  rw [mapM_eq_ok] at hys ⊢
  rw [List.forall₂_map_left_iff]
  exact hys.imp fun x y hxy => h x y hxy

end Gives

/-- Scalars have no fields that could be put in order. -/
theorem scalarLiteral_ordered (v : Value) : scalarLiteral v.ordered = scalarLiteral v := by
  cases v <;> rfl

theorem literal_gives (p : Params) (name : String) (v : Value) :
    Gives id (p.literal name v) (p.ordered.literal name v.ordered) := by
  unfold literal
  rw [scalarLiteral_ordered]
  cases scalarLiteral v with
  | ok l => exact .ok
  | error message => exact .error

/-- An entry of a mapping is read alike in both orders. -/
theorem mappingEntry_gives (p : Params) (name : String) (entry : String × Value) :
    Gives id (p.mappingEntry name entry)
      (p.ordered.mappingEntry name (entry.1, entry.2.ordered)) := by
  unfold mappingEntry
  rw [scalarLiteral_ordered]
  cases scalarLiteral entry.2 with
  | ok l => exact .ok
  | error message => exact .error

/-- An entry of a mapping keeps its key. -/
theorem mappingEntry_key {p : Params} {name : String} {entry : String × Value}
    {l : String × Literal} (h : p.mappingEntry name entry = .ok l) : l.1 = entry.1 := by
  unfold mappingEntry at h
  split at h
  · cases h
    rfl
  · exact nomatch h

section Distinct

variable {p : Params} (h : (p.entries.map (·.1)).Nodup) (name : String)

include h

/-- A parameter is found in both orders, since no key stands there twice. -/
theorem present_ordered : p.ordered.present name = (p.present name).map Value.ordered := by
  unfold present ordered
  rw [Json.lookup_orderedFields h]
  rcases p.entries.lookup name with _ | v
  · rfl
  · cases v <;> rfl

/-- A required parameter is read alike in both orders. -/
theorem required_gives : Gives Value.ordered (p.required name) (p.ordered.required name) := by
  unfold required
  rw [present_ordered h]
  cases p.present name with
  | none => exact .error
  | some v => exact .ok

theorem optionalString_gives :
    Gives id (p.optionalString name) (p.ordered.optionalString name) := by
  unfold optionalString
  rw [present_ordered h]
  rcases p.present name with _ | v
  · exact .ok
  · cases v with
    | string s => exact .ok
    | null | bool | number | array | object => exact .error

theorem requiredString_gives :
    Gives id (p.requiredString name) (p.ordered.requiredString name) := by
  refine (required_gives h name).bind fun v => ?_
  cases v with
  | string s => exact .ok
  | null | bool | number | array | object => exact .error

theorem optionalBool_gives (default : Bool) :
    Gives id (p.optionalBool name default) (p.ordered.optionalBool name default) := by
  unfold optionalBool
  rw [present_ordered h]
  rcases p.present name with _ | v
  · exact .ok
  · cases v with
    | bool b => exact .ok
    | null | string | number | array | object => exact .error

theorem optionalInt_gives : Gives id (p.optionalInt name) (p.ordered.optionalInt name) := by
  unfold optionalInt
  rw [present_ordered h]
  rcases p.present name with _ | v
  · exact .ok
  · cases v with
    | number n =>
      dsimp only [Option.map_some, Value.ordered]
      cases n.int64? with
      | some i => exact .ok
      | none => exact .error
    | null | bool | string | array | object => exact .error

theorem positiveInt_gives : Gives id (p.positiveInt name) (p.ordered.positiveInt name) := by
  refine (optionalInt_gives h name).bind fun i => ?_
  cases i with
  | some i => exact .ite .ok .error
  | none => exact .error

theorem optionalNumber_gives :
    Gives id (p.optionalNumber name) (p.ordered.optionalNumber name) := by
  unfold optionalNumber
  rw [present_ordered h]
  rcases p.present name with _ | v
  · exact .ok
  · cases v with
    | number n =>
      exact Gives.bind (literal_gives p name (.number n)) fun _ => Gives.ok
    | null | bool | string | array | object => exact .error

theorem requiredNumber_gives :
    Gives id (p.requiredNumber name) (p.ordered.requiredNumber name) := by
  refine (optionalNumber_gives h name).bind fun l => ?_
  cases l with
  | some l => exact .ok
  | none => exact .error

theorem requiredScalar_gives :
    Gives id (p.requiredScalar name) (p.ordered.requiredScalar name) := by
  have hlookup : p.ordered.entries.lookup name = (p.entries.lookup name).map Value.ordered :=
    Json.lookup_orderedFields h name
  unfold requiredScalar
  rw [hlookup]
  cases p.entries.lookup name with
  | none => exact .error
  | some v => exact literal_gives p name v

theorem optionalStrings_gives :
    Gives id (p.optionalStrings name) (p.ordered.optionalStrings name) := by
  unfold optionalStrings
  rw [present_ordered h]
  rcases p.present name with _ | v
  · exact .ok
  · cases v with
    | array items =>
      show Gives id _ ((Json.orderedItems items).mapM _)
      rw [Json.orderedItems_eq_map]
      refine .mapM (fun v => ?_) items
      cases v with
      | string s => exact .ok
      | null | bool | number | array | object => exact .error
    | null | bool | number | string | object => exact .error

/-- A mapping comes out in the order of its keys. -/
theorem requiredMapping_gives :
    Gives byKey (p.requiredMapping name) (p.ordered.requiredMapping name) := by
  refine (required_gives h name).bind fun v => ?_
  cases v with
  | object entries =>
    have hempty : (orderedFields entries).isEmpty = entries.isEmpty := by
      have hlength := (Json.orderedFields_perm entries).length_eq
      rw [List.length_map] at hlength
      rw [Bool.eq_iff_iff, List.isEmpty_iff_length_eq_zero, List.isEmpty_iff_length_eq_zero,
        hlength]
    show Gives byKey _ (if (orderedFields entries).isEmpty then _ else _)
    rw [hempty]
    refine .ite .error fun m hm => ?_
    -- entry by entry, the mapping is the same; only then are the entries put in order
    have hentries := Gives.mapM (mappingEntry_gives p name) entries m hm
    rw [mapM_eq_ok] at hentries
    rw [Json.orderedFields_eq_byKey, mapM_eq_ok]
    exact Json.byKey_forall₂ (fun e l he => (mappingEntry_key he).symm) hentries
  | null | bool | number | string | array => exact .error

/-! ## Rules -/

theorem side_gives : Gives id p.side p.ordered.side := by
  refine (optionalString_gives h "side").bind fun s => ?_
  show Gives id _ _
  unfold id
  split
  · exact .ok
  · exact .ok
  · exact .ok
  · exact .error

/-- Padding is read alike in both orders. -/
theorem padRule_gives : Gives Rule.ordered p.padRule p.ordered.padRule := by
  refine (side_gives h).bind fun side => (optionalString_gives h "pad_char").bind fun padChar => ?_
  exact .ite .error ((positiveInt_gives h "width").bind fun width => .ok)

theorem clipRule_gives : Gives Rule.ordered p.clipRule p.ordered.clipRule := by
  refine (optionalNumber_gives h "lower").bind fun lower =>
    (optionalNumber_gives h "upper").bind fun upper => ?_
  match lower, upper with
  | none, none => exact .error
  | some _, some _ => exact .ite .error .ok
  | none, some _ => exact .ok
  | some _, none => exact .ok

theorem edges_gives : Gives id p.edges p.ordered.edges := by
  refine (required_gives h "bins").bind fun v => ?_
  cases v with
  | array items =>
    show Gives id (_ >>= _) ((Json.orderedItems items).mapM _ >>= _)
    rw [Json.orderedItems_eq_map]
    refine (Gives.mapM (fun v => ?_) items).bind fun edges => .ite .error (.ite .error .ok)
    cases v with
    | number n => exact literal_gives p "bins" (.number n)
    | null | bool | string | array | object => exact .error
  | null | bool | number | string | object => exact .error

theorem binRule_gives : Gives Rule.ordered p.binRule p.ordered.binRule := by
  refine (edges_gives h).bind fun edges => (required_gives h "labels").bind fun v => ?_
  cases v with
  | array items =>
    show Gives Rule.ordered (_ >>= _) ((Json.orderedItems items).mapM _ >>= _)
    rw [Json.orderedItems_eq_map]
    exact (Gives.mapM (literal_gives p "labels") items).bind fun labels => .ite .error .ok
  | null | bool | number | string | object => exact .error

theorem renameRule_gives : Gives Rule.ordered p.renameRule p.ordered.renameRule :=
  (requiredString_gives h "new_name").bind fun _ => .ite .error .ok

/-- The rule that comes out has its mapping in order. -/
theorem rule_gives : Gives Rule.ordered p.rule p.ordered.rule := by
  obtain ⟨kind, entries⟩ := p
  cases kind with
  | anonymize | toLowercase | toUppercase | strip | toNumeric | normalize | standardize
  | validateEmail => exact .ok
  | roundNumbers => exact (optionalInt_gives h _).bind fun _ => .ok
  | scale => exact (requiredNumber_gives h _).bind fun _ => .ok
  | formatDate | extract => exact (requiredString_gives h _).bind fun _ => .ok
  | toDatetime | normalizePhone => exact (optionalString_gives h _).bind fun _ => .ok
  | fillNa | encodeCategorical => exact (requiredScalar_gives h _).bind fun _ => .ok
  | mapValues => exact (requiredMapping_gives h _).bind fun _ => .ok
  | removeDuplicates => exact (optionalStrings_gives h _).bind fun _ => .ok
  | ensurePositive => exact (optionalBool_gives h _ _).bind fun _ => .ok
  | convertTimezone | replace | validateDateRange | validateForeignKey =>
    exact (requiredString_gives h _).bind fun _ => (requiredString_gives h _).bind fun _ => .ok
  | truncate =>
    exact (positiveInt_gives h _).bind fun _ => (optionalBool_gives h _ _).bind fun _ => .ok
  | standardizeCategories =>
    exact (requiredMapping_gives h _).bind fun _ => (optionalBool_gives h _ _).bind fun _ => .ok
  | pad => exact padRule_gives h
  | clip => exact clipRule_gives h
  | bin => exact binRule_gives h
  | rename => exact renameRule_gives h

theorem column_gives : Gives id p.column p.ordered.column := by
  have hcheck (column : Option String) : Gives id
      (if column.any Text.isBlankText then p.invalid "column" "must not be empty" else .ok column)
      (if column.any Text.isBlankText then p.ordered.invalid "column" "must not be empty"
        else .ok column) := .ite .error .ok
  have hrequired : Gives id (some <$> p.requiredString "column")
      (some <$> p.ordered.requiredString "column") :=
    Gives.bind (requiredString_gives h "column") fun _ => Gives.ok
  exact .ite (hrequired.bind hcheck) ((optionalString_gives h "column").bind hcheck)

end Distinct

end Params

/-! ## Mappings of rules -/

/-- The mapping of a rule, if it has one. -/
def Rule.mapping : Rule → List (String × Literal)
  | .mapValues mapping | .standardizeCategories mapping _ => mapping
  | _ => []

theorem Rule.kind_ordered (r : Rule) : r.ordered.kind = r.kind := by
  cases r <;> rfl

theorem Rule.ordered_eq_removeDuplicates {r : Rule} {columns : List String}
    (h : r.ordered = .removeDuplicates columns) : r = .removeDuplicates columns := by
  cases r <;> first | exact h | exact nomatch h

/-- A rule stays as it is exactly if its mapping is in the order of its keys. -/
theorem Rule.ordered_eq_self_iff {r : Rule} (h : (r.mapping.map (·.1)).Nodup) :
    r.ordered = r ↔ InKeyOrder r.mapping := by
  rw [← Json.byKey_eq_self_iff h]
  cases r with
  | mapValues mapping => exact Rule.mapValues.injEq _ _ ▸ Iff.rfl
  | standardizeCategories mapping caseSensitive =>
    show standardizeCategories (byKey mapping) _ = _ ↔ byKey mapping = mapping
    rw [Rule.standardizeCategories.injEq, and_iff_left rfl]
  | _ => exact iff_of_true rfl rfl

namespace Params

/-- A parameter that is present is one of the entries. -/
theorem mem_of_present {p : Params} {name : String} {v : Value} (h : p.present name = some v) :
    (name, v) ∈ p.entries := by
  have hlookup : p.entries.lookup name = some v := by
    unfold present at h
    split at h
    · exact nomatch h
    · exact h
  obtain ⟨before, after, heq, -⟩ := List.lookup_eq_some_iff.1 hlookup
  rw [heq]
  simp

/-- A mapping has the keys of the object that it was read from. -/
theorem keys_of_mapM {p : Params} {name : String} {entries : List (String × Value)}
    {m : List (String × Literal)} (h : entries.mapM (p.mappingEntry name) = .ok m) :
    m.map (·.1) = entries.map (·.1) := by
  rw [mapM_eq_ok] at h
  induction h with
  | nil => rfl
  | cons he _ ih => rw [List.map_cons, List.map_cons, ih, mappingEntry_key he]

/-- The keys of a mapping are those of an object among the parameters. -/
theorem nodup_of_requiredMapping {p : Params} {name : String} {m : List (String × Literal)}
    (hp : Json.DistinctFields p.entries) (h : p.requiredMapping name = .ok m) :
    (m.map (·.1)).Nodup := by
  obtain ⟨v, hv, h⟩ := bind_eq_ok.1 h
  have hpresent : p.present name = some v := by
    unfold required at hv
    split at hv
    · cases hv
      assumption
    · exact nomatch hv
  have hdistinct := Json.distinctFields_iff.1 hp _ (mem_of_present hpresent)
  cases v with
  | object entries =>
    dsimp only at h
    split at h
    · exact nomatch h
    · rw [keys_of_mapM h]
      exact hdistinct.1
  | null | bool | number | string | array => exact nomatch h

/-- No mapping of a rule repeats a key. -/
theorem nodup_rule_mapping {p : Params} {r : Rule} (hp : Json.DistinctFields p.entries)
    (h : p.rule = .ok r) : (r.mapping.map (·.1)).Nodup := by
  have hkind := p.rule_ofKind r h
  obtain ⟨kind, entries⟩ := p
  -- only two kinds of rules have a mapping
  cases r with
  | mapValues mapping =>
    cases hkind
    obtain ⟨m, hm, h⟩ := bind_eq_ok.1 h
    cases h
    exact nodup_of_requiredMapping hp hm
  | standardizeCategories mapping caseSensitive =>
    cases hkind
    obtain ⟨m, hm, h⟩ := bind_eq_ok.1 h
    obtain ⟨c, -, h⟩ := bind_eq_ok.1 h
    cases h
    exact nodup_of_requiredMapping hp hm
  | _ => exact List.nodup_nil

end Params

/-! ## Transformations -/

namespace Transformation

/-- A transformation with its mapping and its parameters in the order of their keys. -/
def ordered (t : Transformation) : Transformation :=
  { t with rule := t.rule.ordered, params := orderedFields t.params }

theorem kind_ordered (t : Transformation) : t.ordered.kind = t.kind := t.rule.kind_ordered

variable {t : Transformation}

/-- What parameters make, they make in another order. -/
theorem Made.read_ordered (h : t.Made) :
    read t.kind.name (.object (orderedFields t.params)) = .ok t.ordered := by
  obtain ⟨kind, hkind, hread⟩ := bind_eq_ok.1 h.read_document
  obtain ⟨-, hcolumn, hrule⟩ := ofKind_eq_ok.1 hread
  have hnodup : (t.params.map (·.1)).Nodup := h.distinctKeys.1
  refine bind_eq_ok.2 ⟨kind, hkind, ofKind_eq_ok.2 ⟨.inl rfl, ?_, ?_⟩⟩
  · exact Params.column_gives (p := ⟨kind, t.params⟩) hnodup _ hcolumn
  · exact Params.rule_gives (p := ⟨kind, t.params⟩) hnodup _ hrule

/-- A transformation can be made from its ordered parameters. -/
theorem Made.ordered (h : t.Made) : t.ordered.Made :=
  ⟨_, _, h.distinctKeys.ordered, h.read_ordered⟩

/-- The mapping of a transformation repeats no key. -/
theorem Made.nodup_mapping (h : t.Made) : (t.rule.mapping.map (·.1)).Nodup := by
  obtain ⟨kind, -, hread⟩ := bind_eq_ok.1 h.read_document
  exact Params.nodup_rule_mapping (p := ⟨kind, t.params⟩) h.distinctKeys.2
    (ofKind_eq_ok.1 hread).2.2

/-- Only the mapping of a rule can be told from the one it was before. -/
theorem Made.same_ordered_iff (h : t.Made) :
    t.ordered.same t = true ↔ InKeyOrder t.rule.mapping := by
  have hparams : (Value.object (orderedFields t.params)).same (.object t.params) = true :=
    Json.Value.same_ordered h.distinctKeys
  rw [← Rule.ordered_eq_self_iff h.nodup_mapping, same]
  show (t.column == t.column && t.rule.ordered == t.rule && _) = true ↔ _
  rw [beq_self_eq_true, Bool.true_and, Bool.and_eq_true, beq_iff_eq]
  exact and_iff_left hparams

end Transformation

/-! ## Schemas -/

namespace Schema

/-- A schema with the mappings and the parameters of its transformations in the order of their
keys. -/
def ordered (s : Schema) : Schema :=
  { s with transformations := s.transformations.map (·.ordered) }

variable {s : Schema}

theorem storable_ordered (h : Storable s.limit s.source s.transformations) :
    Storable s.ordered.limit s.ordered.source s.ordered.transformations where
  limit := h.limit
  source := h.source
  made := by
    intro t ht
    obtain ⟨t, hmem, rfl⟩ := List.mem_map.1 ht
    exact (h.made t hmem).ordered

/-- The order of parameters and mappings is not checked. -/
theorem build_ordered (h : s.draft.build = .ok s) : s.ordered.draft.build = .ok s.ordered := by
  rw [SchemaDraft.build_eq_ok_iff_becomes] at h ⊢
  obtain ⟨hvalid, hbecomes⟩ := h
  refine ⟨{ hvalid with targets := ?_ }, { hbecomes with transformations := rfl }⟩
  intro hcolumns t ht
  obtain ⟨t, hmem, rfl⟩ := List.mem_map.1 ht
  obtain ⟨hcolumn, hnames⟩ := hvalid.targets hcolumns t hmem
  exact ⟨hcolumn, fun names hrule => hnames names (Rule.ordered_eq_removeDuplicates hrule)⟩

/-- Ordering the parameters leaves all transformations as they are exactly if each mapping is in
order. -/
theorem sameTransformations_ordered_iff {ts : List Transformation} (h : ∀ t ∈ ts, t.Made) :
    sameTransformations (ts.map (·.ordered)) ts = true ↔ ∀ t ∈ ts, InKeyOrder t.rule.mapping := by
  induction ts with
  | nil => exact iff_of_true rfl fun _ h => nomatch h
  | cons t ts ih =>
    obtain ⟨ht, hts⟩ := List.forall_mem_cons.1 h
    rw [List.map_cons, sameTransformations, Bool.and_eq_true, ht.same_ordered_iff, ih hts,
      List.forall_mem_cons]

/-- Equality of schemas tells mappings in another order apart, and nothing else. -/
theorem same_ordered_iff (h : ∀ t ∈ s.transformations, t.Made) :
    s.ordered.same s = true ↔ ∀ t ∈ s.transformations, InKeyOrder t.rule.mapping := by
  rw [← sameTransformations_ordered_iff h]
  simp [same, ordered]

end Schema

/-- A transformation whose document is seen in the order of its keys is read in that order. -/
theorem Transformation.Made.decode_ordered {t : Transformation} (h : t.Made)
    (hdepth : (Value.object t.params).depth ≤ SchemaDocument.paramsDepth) :
    Decode.transformation? .toml (some SchemaDocument.paramsDepth)
      (Encode.transformation t.document).ordered.data = some t.ordered.document := by
  have hallowed : Json.Allows (some SchemaDocument.paramsDepth)
      (Value.object t.params).ordered.depth := by
    rintro bound ⟨⟩
    rw [Json.Value.depth_ordered]
    exact hdepth
  have hparams := Json.value?_data h.distinctKeys.ordered hallowed
  rw [Decode.transformation?_see sees_ordered hparams, document, document, t.kind_ordered]
  rfl

/-- A document that is seen in the order of its keys describes the schema in that order. -/
theorem Schema.decode_ordered {s : Schema} (h : Storable s.limit s.source s.transformations)
    (hdepth : ∀ t ∈ s.transformations,
      (Value.object t.params).depth ≤ SchemaDocument.paramsDepth) :
    Decode.schema? .toml (some SchemaDocument.paramsDepth) s.document.value.ordered.data =
      some s.ordered.document := by
  have hts : List.Forall₂ (fun t t' => Decode.transformation? .toml
      (some SchemaDocument.paramsDepth) (Encode.transformation t).ordered.data = some t')
      s.document.transformations s.ordered.document.transformations := by
    show List.Forall₂ _ (s.transformations.map (·.document))
      ((s.transformations.map (·.ordered)).map (·.document))
    rw [List.map_map, List.forall₂_map_left_iff, List.forall₂_map_right_iff, List.forall₂_same]
    exact fun t ht => (h.made t ht).decode_ordered (hdepth t ht)
  exact Decode.schema?_see sees_ordered h.fits hts

/-- A schema that was made in steps can be stored and passes every check again. -/
theorem SchemaDraft.storable_and_checked {name : String} {source : DatasetSource}
    {steps : List Step} {s : Schema} (hsource : source.Storable)
    (hsteps : ∀ step ∈ steps, step.Storable) (hbuild : (make name source steps).build = .ok s) :
    DatasetSql.Storable s.limit s.source s.transformations ∧ s.draft.build = .ok s := by
  have hbecomes := (build_eq_ok_iff_becomes.1 hbuild).2
  refine ⟨?_, build_draft hbuild s.description⟩
  rw [hbecomes.limit, hbecomes.source, hbecomes.transformations]
  exact storable_make hsource hsteps

end DatasetSql
