import DatasetSql.Proofs.Outcome
import DatasetSql.Schema.Decode
import DatasetSql.Schema.Encode
import Mathlib.Data.List.Nodup

/-!
# Documents as JSON values

A value in which no object repeats a key is seen as data without loss. A record whose fields were
written in the order of their names, some of them left out, is read back field by field, and so is
a whole document.
-/

namespace DatasetSql

open Json (Data Value)

/-! ## Values as data -/

namespace Json

mutual

/-- No object in a value has a key twice. -/
def Value.DistinctKeys : Value → Prop
  | .null | .bool _ | .number _ | .string _ => True
  | .array xs => DistinctItems xs
  | .object es => (es.map (·.1)).Nodup ∧ DistinctFields es

/-- No object in a list of values has a key twice. -/
def DistinctItems : List Value → Prop
  | [] => True
  | x :: xs => x.DistinctKeys ∧ DistinctItems xs

/-- No object in the values of some fields has a key twice. -/
def DistinctFields : List (String × Value) → Prop
  | [] => True
  | (_, v) :: es => v.DistinctKeys ∧ DistinctFields es

end

theorem lookup_of_notMem {α : Type} {key : String} {entries : List (String × α)}
    (h : key ∉ entries.map (·.1)) : entries.lookup key = none := by
  rw [List.lookup_eq_none_iff]
  intro p hp
  rw [bne_iff_ne]
  rintro rfl
  exact h (List.mem_map_of_mem hp)

theorem put_of_notMem {α : Type} {key : String} {value : α} {entries : List (String × α)}
    (h : key ∉ entries.map (·.1)) : put key value entries = entries ++ [(key, value)] := by
  induction entries with
  | nil => rfl
  | cons e entries ih =>
    obtain ⟨k, v⟩ := e
    simp only [List.map_cons, List.mem_cons, not_or] at h
    have hne : ¬ (k == key) = true := by
      simpa using Ne.symm h.1
    rw [put, if_neg hne, ih h.2]
    rfl

/-- Entries whose keys all differ are kept as they are. -/
theorem ofPairs_of_nodup {α : Type} {pairs : List (String × α)} (h : (pairs.map (·.1)).Nodup) :
    ofPairs pairs = pairs := by
  -- the entries so far stand before the pairs that are still to be put
  suffices hall : ∀ (rest entries : List (String × α)), ((entries ++ rest).map (·.1)).Nodup →
      rest.foldl (fun es p => put p.1 p.2 es) entries = entries ++ rest from hall pairs [] h
  intro rest
  induction rest with
  | nil =>
    intro entries _
    exact (List.append_nil entries).symm
  | cons p rest ih =>
    intro entries hnodup
    have hassoc : entries ++ p :: rest = (entries ++ [p]) ++ rest := by simp
    have hnew : p.1 ∉ entries.map (·.1) := by
      rw [List.map_append, List.map_cons] at hnodup
      intro hmem
      exact (List.nodup_append.1 hnodup).2.2 p.1 hmem p.1 List.mem_cons_self rfl
    rw [hassoc] at hnodup
    rw [List.foldl_cons, put_of_notMem hnew, hassoc]
    exact ih (entries ++ [p]) hnodup

mutual

/-- How many arrays and objects are nested in a value. -/
def Value.depth : Value → Nat
  | .null | .bool _ | .number _ | .string _ => 0
  | .array xs => depthItems xs + 1
  | .object es => depthFields es + 1

/-- The depth of the deepest of some values. -/
def depthItems : List Value → Nat
  | [] => 0
  | x :: xs => max x.depth (depthItems xs)

/-- The depth of the deepest value of some fields. -/
def depthFields : List (String × Value) → Nat
  | [] => 0
  | (_, v) :: es => max v.depth (depthFields es)

end

/-- Whether a limit, if there is one, lets a value of some depth pass. -/
def Allows (limit : Option Nat) (depth : Nat) : Prop := ∀ bound, limit = some bound → depth ≤ bound

theorem allows_none (depth : Nat) : Allows none depth :=
  fun bound h => absurd h (Option.some_ne_none bound).symm

/-- A limit allows whatever is less deep. -/
theorem Allows.mono {limit : Option Nat} {m n : Nat} (h : Allows limit n) (hle : m ≤ n) :
    Allows limit m := fun bound hbound => Nat.le_trans hle (h bound hbound)

/-- Inside an array or an object, the limit is one less. -/
theorem Allows.inside {limit : Option Nat} {depth : Nat} (h : Allows limit (depth + 1)) :
    limit ≠ some 0 ∧ Allows (limit.map (· - 1)) depth := by
  constructor
  · rintro rfl
    exact absurd (h 0 rfl) (Nat.not_succ_le_zero depth)
  · intro bound hbound
    obtain ⟨n, hn, rfl⟩ := Option.map_eq_some_iff.1 hbound
    exact Nat.le_sub_one_of_lt (h n hn)

mutual

/-- Within the limit, the value of what is seen of a value is that value. -/
theorem value?_data : ∀ {v : Value} {limit : Option Nat}, v.DistinctKeys → Allows limit v.depth →
    v.data.value? limit = some v
  | .null, _, _, _ => rfl
  | .bool _, _, _, _ => rfl
  | .number _, _, _, _ => rfl
  | .string _, _, _, _ => rfl
  | .array xs, limit, h, hlimit => by
    obtain ⟨hlimit, hinside⟩ := hlimit.inside
    rw [Value.data, Data.value?, if_neg hlimit, valueItems?_dataItems h hinside]
    rfl
  | .object es, limit, h, hlimit => by
    obtain ⟨hlimit, hinside⟩ := hlimit.inside
    rw [Value.data, Data.value?, if_neg hlimit, valueFields?_dataFields h.2 hinside,
      Option.map_some, ofPairs_of_nodup h.1]

/-- The items of an array are read back, if they are as deep as the limit allows. -/
theorem valueItems?_dataItems : ∀ {xs : List Value} {limit : Option Nat}, DistinctItems xs →
    Allows limit (depthItems xs) → valueItems? limit (dataItems xs) = some xs
  | [], _, _, _ => rfl
  | x :: xs, limit, h, hlimit => by
    rw [dataItems, valueItems?, value?_data h.1 (hlimit.mono (Nat.le_max_left _ _)),
      valueItems?_dataItems h.2 (hlimit.mono (Nat.le_max_right _ _))]
    rfl

theorem valueFields?_dataFields : ∀ {es : List (String × Value)} {limit : Option Nat},
    DistinctFields es → Allows limit (depthFields es) →
      valueFields? limit (dataFields es) = some es
  | [], _, _, _ => rfl
  | (k, v) :: es, limit, h, hlimit => by
    rw [dataFields, valueFields?, value?_data h.1 (hlimit.mono (Nat.le_max_left _ _)),
      valueFields?_dataFields h.2 (hlimit.mono (Nat.le_max_right _ _))]
    rfl

end

theorem dataItems_eq_map (xs : List Value) : dataItems xs = xs.map Value.data := by
  induction xs with
  | nil => rfl
  | cons x xs ih => rw [dataItems, ih, List.map_cons]

theorem dataFields_eq_map (es : List (String × Value)) :
    dataFields es = es.map fun e => (some e.1, e.2.data) := by
  induction es with
  | nil => rfl
  | cons e es ih =>
    obtain ⟨k, v⟩ := e
    rw [dataFields, ih, List.map_cons]

end Json

/-! ## Fields -/

namespace Encode

/-- The fields that are there. -/
def present (fields : List (String × Option Value)) : List (String × Value) :=
  fields.filterMap fun f => f.2.map fun v => (f.1, v)

/-- The fields that are present in a list are those of its parts. -/
theorem present_append (fs gs : List (String × Option Value)) :
    present (fs ++ gs) = present fs ++ present gs := List.filterMap_append

theorem present_some (key : String) (v : Value) (fs : List (String × Option Value)) :
    present ((key, some v) :: fs) = (key, v) :: present fs := rfl

/-- A field that may be missing is one that may be present. -/
theorem optional_eq_present {α : Type} (key : String) (write : α → Value) (o : Option α) :
    optional key write o = present [(key, o.map write)] := by
  cases o <;> rfl

/-- The items of a list, if there are any. -/
def items {α : Type} (write : α → Value) : List α → Option Value
  | [] => none
  | x :: xs => some (.array ((x :: xs).map write))

/-- A list that is left out when it is empty is a field that may be present. -/
theorem nonEmpty_eq_present {α : Type} (key : String) (write : α → Value) (xs : List α) :
    nonEmpty key write xs = present [(key, items write xs)] := by
  cases xs <;> rfl

theorem column_eq_present (c : Column) : column c = .object (present (
    [("name", some (.string c.name)), ("type", some (.string c.type.name))] ++
      [("expression", c.expression.map .string)] ++ [("alias", c.asName.map .string)] ++
      [("description", c.description.map .string)])) := by
  simp only [column, optional_eq_present, present_append]
  rfl

theorem connection_eq_present (c : Connection) : connection c = .object (present (
    [("host", some (.string c.host))] ++ [("port", c.port.map nat)] ++
      [("user", c.user.map .string)] ++ [("password", c.password.map .string)] ++
      [("database", some (.string c.database))] ++ [("schema", c.schema.map .string)])) := by
  simp only [connection, optional_eq_present, present_append]
  rfl

theorem link_eq_present (l : Link) : link l = .object (present (
    [("name", l.name.map .string)] ++ [("description", l.description.map .string)] ++
      [("from", some (.string l.source)), ("to", some (.string l.target))])) := by
  simp only [link, optional_eq_present, present_append]
  rfl

theorem source_eq_present (s : SourceDocument) : source s = .object (present (
    [("type", some (.string s.type))] ++ [("path", s.path.map .string)] ++
      [("table", s.table.map .string)] ++ [("connection", s.connection.map connection)])) := by
  simp only [source, optional_eq_present, present_append]
  rfl

theorem transformation_eq_present (t : TransformationDocument) : transformation t =
    .object (present [("type", some (.string t.type)), ("params", some t.params)]) := rfl

/-- A document is written as its fields, of which those that say nothing are left out. -/
theorem value_eq_present (d : SchemaDocument) : d.value = .object (present (
    [("name", some (.string d.name))] ++ [("description", d.description.map .string)] ++
      [("limit", d.limit.map nat)] ++ [("view", if d.view then some (.bool true) else none)] ++
      [("group_by", items .string d.groupBy)] ++ [("order_by", items .string d.orderBy)] ++
      [("source", d.source.map source)] ++ [("columns", items column d.columns)] ++
      [("relations", items link d.relations)] ++
      [("transformations", items transformation d.transformations)])) := by
  have hview : (if d.view then [("view", Value.bool true)] else []) =
      present [("view", if d.view then some (.bool true) else none)] := by
    cases d.view <;> rfl
  simp only [SchemaDocument.value, optional_eq_present, nonEmpty_eq_present, hview, present_append]
  rfl

/-- The fields that are present keep their order. -/
theorem keys_present (fields : List (String × Option Value)) :
    ((present fields).map (·.1)).Sublist (fields.map (·.1)) := by
  induction fields with
  | nil => exact .slnil
  | cons f fields ih =>
    obtain ⟨key, v⟩ := f
    cases v with
    | none => exact ih.cons key
    | some v => exact ih.cons_cons key

/-- A field is found with its value exactly if it is present. -/
theorem lookup_present {fields : List (String × Option Value)} (h : (fields.map (·.1)).Nodup)
    {key : String} {v : Option Value} (hmem : (key, v) ∈ fields) :
    (present fields).lookup key = v := by
  induction fields with
  | nil => exact nomatch hmem
  | cons f fields ih =>
    obtain ⟨k, w⟩ := f
    obtain ⟨hk, hrest⟩ := List.nodup_cons.1 h
    rcases List.mem_cons.1 hmem with heq | hlater
    · cases heq
      -- no later field has this key
      have hnone : (present fields).lookup key = none :=
        Json.lookup_of_notMem fun hmem => hk ((keys_present fields).subset hmem)
      cases v with
      | none => exact hnone
      | some v => rw [present_some, List.lookup_cons_self]
    · have hne : key ≠ k := by
        rintro rfl
        exact hk (List.mem_map.2 ⟨(key, v), hlater, rfl⟩)
      cases w with
      | none => exact ih hrest hlater
      | some w =>
        rw [present_some, List.lookup_cons, beq_eq_false_iff_ne.2 hne]
        exact ih hrest hlater

end Encode

/-! ## Ways to see a value -/

/-- A way to see values as data: leaves and arrays as they are, and the fields of an object in any
order. A format that keeps the order of fields has one, and a format that does not has another. -/
structure Sees (see : Value → Data) : Prop where
  bool : ∀ b, see (.bool b) = .bool b
  number : ∀ n, see (.number n) = .number (some n)
  string : ∀ s, see (.string s) = .text (some s)
  array : ∀ xs, see (.array xs) = .list (xs.map see)
  object : ∀ es, ∃ fields, see (.object es) = .record fields ∧
    fields.Perm (es.map fun e => (some e.1, see e.2))

/-- A value is seen as the data that it is. -/
theorem sees_data : Sees Value.data where
  bool := fun _ => rfl
  number := fun _ => rfl
  string := fun _ => rfl
  array := fun xs => by rw [Value.data, Json.dataItems_eq_map]
  object := fun es => ⟨_, by rw [Value.data, Json.dataFields_eq_map], .refl _⟩

/-- Fields with distinct keys are found in any order. -/
theorem lookup_perm {α β : Type} [BEq α] [LawfulBEq α] {xs ys : List (α × β)} (h : xs.Perm ys)
    (hnodup : (ys.map (·.1)).Nodup) (key : α) : xs.lookup key = ys.lookup key := by
  induction h with
  | nil => rfl
  | cons e _ ih => rw [List.lookup_cons, List.lookup_cons, ih (List.nodup_cons.1 hnodup).2]
  | swap e e' xs =>
    obtain ⟨k, v⟩ := e
    obtain ⟨k', v'⟩ := e'
    have hne : k ≠ k' := by
      rintro rfl
      exact (List.nodup_cons.1 hnodup).1 List.mem_cons_self
    simp only [List.lookup_cons]
    by_cases hk : key = k
    · rw [hk, beq_self_eq_true, beq_eq_false_iff_ne.2 hne]
    · rw [beq_eq_false_iff_ne.2 hk]
  | trans hxy hyz ihxy ihyz =>
    rw [ihxy ((hyz.map _).nodup_iff.2 hnodup), ihyz hnodup]

/-- Looking up after keys and values were changed alike, where different keys stay different. -/
theorem lookup_map {κ κ' α β : Type} [BEq κ] [LawfulBEq κ] [BEq κ'] [LawfulBEq κ'] {f : κ → κ'}
    (hf : f.Injective) (g : α → β) (key : κ) (es : List (κ × α)) :
    (es.map fun e => (f e.1, g e.2)).lookup (f key) = (es.lookup key).map g := by
  induction es with
  | nil => rfl
  | cons e es ih =>
    obtain ⟨k, v⟩ := e
    rw [List.map_cons, List.lookup_cons, List.lookup_cons, ih]
    by_cases hk : key = k
    · rw [hk, beq_self_eq_true, beq_self_eq_true]
      rfl
    · rw [beq_eq_false_iff_ne.2 hk, beq_eq_false_iff_ne.2 (hf.ne hk)]

namespace Decode

open Encode (present)

variable {see : Value → Data} (hsee : Sees see) {format : DocumentFormat}

include hsee

/-- A record is read field by field from the fields of it that are there. -/
theorem fields?_present {names : List String} {fields : List (String × Option Value)} {v : Value}
    (hv : v = .object (present fields)) (hnames : fields.map (·.1) = names) (h : names.Nodup) :
    fields? format names (see v) = some (fields.map fun f => f.2.map see) := by
  subst hnames hv
  obtain ⟨seen, hseen, hperm⟩ := hsee.object (present fields)
  have hkeys : (seen.map (·.1)).Perm (((present fields).map (·.1)).map some) := by
    have hmap := hperm.map (·.1)
    rwa [List.map_map] at hmap ⊢
  have hnodup : (((present fields).map (·.1)).map some).Nodup :=
    ((Encode.keys_present fields).nodup h).map fun _ _ => Option.some.inj
  have hnone : (seen.map (·.1)).contains none = false := by
    rw [hkeys.contains_eq]
    simp
  -- no field is given twice, so the reader does not reject the record
  have hrepeated : (fields.map (·.1)).any (isRepeated (seen.map (·.1))) = false := by
    rw [List.any_eq_false]
    intro name _
    have hcount := List.nodup_iff_count_le_one.1 (hkeys.nodup_iff.2 hnodup) (some name)
    simpa [isRepeated] using hcount
  rw [hseen, fields?]
  simp only [hnone, hrepeated, Bool.or_self, Bool.false_eq_true, if_false]
  rw [List.map_map]
  congr 1
  apply List.map_congr_left
  intro f hf
  have hdistinct : (((present fields).map fun e => (some e.1, see e.2)).map (·.1)).Nodup := by
    rwa [List.map_map] at hnodup ⊢
  rw [Function.comp, lookup_perm hperm hdistinct,
    lookup_map fun _ _ => Option.some.inj, Encode.lookup_present h hf]

/-! ## Leaves and lists -/

omit hsee in
/-- A field that may be missing is read back as it was written. -/
theorem optional?_map {α : Type} {read? : Data → Option α} {write : α → Value} {o : Option α}
    (hread : ∀ a, o = some a → read? (see (write a)) = some a)
    (hnull : ∀ a, see (write a) ≠ .null) :
    optional? read? ((o.map write).map see) = some o := by
  cases o with
  | none => rfl
  | some a =>
    have ha := hread a rfl
    rw [Option.map_some, Option.map_some, optional?, ha]
    · rfl
    · exact hnull a

theorem string?_see (s : String) : string? (see (.string s)) = some s := by
  rw [hsee.string]
  rfl

theorem object_ne_null (es : List (String × Value)) : see (.object es) ≠ .null := by
  obtain ⟨seen, hseen, -⟩ := hsee.object es
  rw [hseen]
  exact fun h => nomatch h

theorem optional?_string (o : Option String) :
    optional? string? ((o.map Value.string).map see) = some o := by
  refine optional?_map (fun s _ => string?_see hsee s) fun s => ?_
  rw [hsee.string]
  exact fun h => nomatch h

/-- The items of a list are read one by one; what is read of an item need not be what was written. -/
theorem list?_see {α : Type} {item? : Data → Option α} {write : α → Value} {xs ys : List α}
    (h : List.Forall₂ (fun x y => item? (see (write x)) = some y) xs ys) :
    list? item? (see (.array (xs.map write))) = some ys := by
  rw [hsee.array, list?]
  induction h with
  | nil => rfl
  | cons hx _ ih =>
    simp only [List.map_cons, List.mapM_cons, hx, ih]
    rfl

/-- A list that was left out when empty is read back, item by item. -/
theorem defaulted?_items {α : Type} {item? : Data → Option α} {write : α → Value} {xs ys : List α}
    (h : List.Forall₂ (fun x y => item? (see (write x)) = some y) xs ys) :
    defaulted? [] (list? item?) ((Encode.items write xs).map see) = some ys := by
  cases h with
  | nil => rfl
  | cons hx hxs => exact list?_see hsee (.cons hx hxs)

/-- A number that is in range is read back. -/
theorem natUpTo?_nat {bound n : Nat} (h : n ≤ bound) :
    natUpTo? bound (see (Encode.nat n)) = some n := by
  simp [Encode.nat, hsee.number, natUpTo?, Json.Number.nat?, h]

theorem nat_ne_null (n : Nat) : see (Encode.nat n) ≠ .null := by
  rw [Encode.nat, hsee.number]
  exact fun h => nomatch h

/-! ## Records -/

theorem columnType?_name (t : ColumnType) :
    columnType? format (see (.string t.name)) = some t := by
  rw [hsee.string]
  cases t <;> rfl

/-- A column is read back as it was written. -/
theorem column?_see (c : Column) : column? format (see (Encode.column c)) = some c := by
  rw [column?, fields?_present hsee (Encode.column_eq_present c)]
  · simp only [List.cons_append, List.nil_append, List.map_cons, List.map_nil, Option.map_some,
      Option.bind_eq_bind, Option.bind_some, string?_see hsee, columnType?_name hsee,
      optional?_string hsee]
    rfl
  · rfl
  · decide

/-- A connection is read back as it was written, since its port is one. -/
theorem connection?_see {c : Connection} (hport : ∀ n, c.port = some n → n ≤ 65535) :
    connection? format (see (Encode.connection c)) = some c := by
  have hread : optional? port? ((c.port.map Encode.nat).map see) = some c.port :=
    optional?_map (fun n hn => natUpTo?_nat hsee (hport n hn)) (nat_ne_null hsee)
  rw [connection?, fields?_present hsee (Encode.connection_eq_present c)]
  · simp only [List.cons_append, List.nil_append, List.map_cons, List.map_nil, Option.map_some,
      Option.bind_eq_bind, Option.bind_some, string?_see hsee, optional?_string hsee, hread]
    rfl
  · rfl
  · decide

theorem link?_see (l : Link) : link? format (see (Encode.link l)) = some l := by
  rw [link?, fields?_present hsee (Encode.link_eq_present l)]
  · simp only [List.cons_append, List.nil_append, List.map_cons, List.map_nil, Option.map_some,
      Option.bind_eq_bind, Option.bind_some, string?_see hsee, optional?_string hsee]
    rfl
  · rfl
  · decide

/-- A source is read back as it was written. -/
theorem source?_see {s : SourceDocument}
    (hport : ∀ c, s.connection = some c → ∀ n, c.port = some n → n ≤ 65535) :
    source? format (see (Encode.source s)) = some s := by
  have hread : optional? (connection? format)
      ((s.connection.map Encode.connection).map see) = some s.connection :=
    optional?_map (fun c hc => connection?_see hsee (hport c hc)) fun _ => object_ne_null hsee _
  rw [source?, fields?_present hsee (Encode.source_eq_present s)]
  · simp only [List.cons_append, List.nil_append, List.map_cons, List.map_nil, Option.map_some,
      Option.bind_eq_bind, Option.bind_some, string?_see hsee, optional?_string hsee, hread]
    rfl
  · rfl
  · decide

/-- A transformation is read with the parameters that are read of its parameters. -/
theorem transformation?_see {t : TransformationDocument} {limit : Option Nat} {params : Value}
    (h : (see t.params).value? limit = some params) :
    transformation? format limit (see (Encode.transformation t)) = some { t with params } := by
  rw [transformation?, fields?_present hsee (Encode.transformation_eq_present t)]
  · simp only [List.map_cons, List.map_nil, Option.map_some, Option.bind_eq_bind, Option.bind_some,
      string?_see hsee, defaulted?, h]
    rfl
  · rfl
  · decide

end Decode

/-! ## Documents -/

/-- The numbers of a document fit their words, and no object in it repeats a key. -/
structure SchemaDocument.Fits (d : SchemaDocument) : Prop where
  limit : ∀ n, d.limit = some n → n < Numeric.wordCount
  port : ∀ s, d.source = some s → ∀ c, s.connection = some c → ∀ n, c.port = some n → n ≤ 65535
  params : ∀ t ∈ d.transformations, t.params.DistinctKeys

namespace Decode

open Encode (present items)

/-- A document is read with the transformations that are read of its transformations. -/
theorem schema?_see {see : Value → Data} (hsee : Sees see) {format : DocumentFormat}
    {paramsLimit : Option Nat} {d : SchemaDocument} {ts : List TransformationDocument} (h : d.Fits)
    (hts : List.Forall₂ (fun t t' => transformation? format paramsLimit
      (see (Encode.transformation t)) = some t') d.transformations ts) :
    schema? format paramsLimit (see d.value) = some { d with transformations := ts } := by
  -- a false flag and an empty list are left out, and their defaults are the same
  have hlimit : optional? word? ((d.limit.map Encode.nat).map see) = some d.limit :=
    optional?_map (fun n hn => natUpTo?_nat hsee (Nat.le_sub_one_of_lt (h.limit n hn)))
      (nat_ne_null hsee)
  have hflag : defaulted? false bool?
      ((if d.view then some (Value.bool true) else none).map see) = some d.view := by
    cases d.view
    · rfl
    · rw [if_pos rfl, Option.map_some, hsee.bool]
      rfl
  have htexts : ∀ xs : List String,
      defaulted? [] (list? string?) ((items Value.string xs).map see) = some xs :=
    fun _ => defaulted?_items hsee (List.forall₂_same.2 fun s _ => string?_see hsee s)
  have hsource : optional? (source? format) ((d.source.map Encode.source).map see) =
      some d.source :=
    optional?_map (fun s hs => source?_see hsee (h.port s hs)) fun _ => object_ne_null hsee _
  have hcolumns : defaulted? [] (list? (column? format))
      ((items Encode.column d.columns).map see) = some d.columns :=
    defaulted?_items hsee (List.forall₂_same.2 fun c _ => column?_see hsee c)
  have hlinks : defaulted? [] (list? (link? format))
      ((items Encode.link d.relations).map see) = some d.relations :=
    defaulted?_items hsee (List.forall₂_same.2 fun l _ => link?_see hsee l)
  have hsteps : defaulted? [] (list? (transformation? format paramsLimit))
      ((items Encode.transformation d.transformations).map see) = some ts :=
    defaulted?_items hsee hts
  rw [schema?, fields?_present hsee (Encode.value_eq_present d)]
  · simp only [List.cons_append, List.nil_append, List.map_cons, List.map_nil, Option.map_some,
      Option.bind_eq_bind, Option.bind_some, string?_see hsee, optional?_string hsee, hlimit, hflag,
      htexts, hsource, hcolumns, hlinks, hsteps]
    rfl
  · rfl
  · decide

end Decode

/-- A document that fits is read back from its value. -/
theorem SchemaDocument.ofValue_value {d : SchemaDocument} (h : d.Fits) :
    ofValue d.value = .ok d := by
  have hts : ∀ t ∈ d.transformations,
      Decode.transformation? .json none (Encode.transformation t).data = some t :=
    fun t ht => Decode.transformation?_see sees_data
      (Json.value?_data (h.params t ht) (Json.allows_none _))
  rw [ofValue, Decode.schema?_see sees_data h (List.forall₂_same.2 hts)]
  rfl

end DatasetSql
