import Dataflow.Proofs.Registration

/-!
# What building the entries anew comes to

Building the entries anew (`Metadata.rebuild`) takes a list of queries for the whole truth.  The
entries are set one after the other, so of a name that stands in the list more than once the first
place counts and the last entry; an id is drawn at each place whose name had none, also where the
entry that gets it is replaced later on.

Of what was there before, nothing counts but the ids, and of a query nothing but its name and the
query to which its attribute sends the data.

What an entry consists of and which id a name had are said here field by field, in `IsEntry` and
`HadId`, without the functions that make entries and look ids up; `isEntry_newEntry` and
`hadId_iff` connect the two.  A run over the list is followed from its end: the last query of a name
is the one that decides, and the queries in front of it count only by the ids drawn for them.
-/

set_option autoImplicit false

namespace Dataflow
namespace Metadata

open Mashup (WideQuery)

/-! ## Entries and ids -/

/-- The fields of the entry of a query: its id, its name, whether it is loaded, and that it is
hidden if it is. -/
structure IsEntry (fields : Fields) (name id : WideText) (defaults : Defaults) (hidden : Prop) :
    Prop where
  /-- The id. -/
  id : Fields.get? fields (wide "queryId") = some (.string id)
  /-- The name. -/
  name : Fields.get? fields (wide "queryName") = some (.string name)
  /-- Whether it is loaded is a default. -/
  loadEnabled : Fields.get? fields (wide "loadEnabled") = some (.bool defaults.loadEnabled)
  /-- A hidden query is said to be. -/
  isHidden : hidden → Fields.get? fields (wide "isHidden") = some (.bool true)
  /-- Of any other nothing is said. -/
  isShown : ¬hidden → Fields.get? fields (wide "isHidden") = none
  /-- There are no other fields. -/
  only : ∀ key ∈ Fields.keys fields,
    key ∈ [wide "queryId", wide "queryName", wide "loadEnabled", wide "isHidden"]
  /-- No field stands twice. -/
  nodup : (Fields.keys fields).Nodup

/-- The name had an entry that is an object with an id that is something, and this is its text. -/
def HadId (m : Metadata) (name id : WideText) : Prop :=
  ∃ entries entry value, Fields.get? m entriesKey = some (.object entries) ∧
    Fields.get? entries name = some (.object entry) ∧
    Fields.get? entry (wide "queryId") = some value ∧ value.isTruthy = true ∧ id = value.display

/-- The name had an id. -/
def HadAnyId (m : Metadata) (name : WideText) : Prop := ∃ id, HadId m name id

theorem isEntry_newEntry (name id : WideText) (defaults : Defaults) (hidden : Bool) :
    ∃ fields, newEntry name id defaults hidden = .object fields ∧
      IsEntry fields name id defaults (hidden = true) := by
  have hthree : [wide "queryId", wide "queryName", wide "loadEnabled"].Nodup := by decide
  have hfour : [wide "queryId", wide "queryName", wide "loadEnabled", wide "isHidden"].Nodup := by
    decide
  refine ⟨_, rfl, ?_⟩
  cases hidden with
  | false => exact ⟨rfl, rfl, rfl, nofun, fun _ => rfl, by simp [Fields.keys], hthree⟩
  | true => exact ⟨rfl, rfl, rfl, fun _ => rfl, fun h => absurd rfl h, by simp [Fields.keys], hfour⟩

theorem hadId_iff {m : Metadata} {name id : WideText} :
    HadId m name id ↔ idOf? (Fields.get? m.entriesOf name) = some id := by
  constructor
  · rintro ⟨entries, entry, value, hentries, hentry, hvalue, htruthy, rfl⟩
    rw [entriesOf, hentries]
    simp only [hentry, idOf?, hvalue, htruthy, if_true]
  · intro h
    rw [idOf?.eq_def] at h
    split at h
    · rename_i entry hentry
      split at h
      · rename_i value hvalue
        split at h
        · rename_i htruthy
          rw [entriesOf] at hentry
          split at hentry
          · rename_i entries hentries
            exact ⟨entries, entry, value, hentries, hentry, hvalue, htruthy,
              (Option.some.inj h).symm⟩
          · cases hentry
        · cases h
      · cases h
    · cases h

theorem hadAnyId_iff {m : Metadata} {name : WideText} :
    HadAnyId m name ↔ (idOf? (Fields.get? m.entriesOf name)).isSome = true := by
  rw [Option.isSome_iff_exists]
  exact exists_congr fun _ => hadId_iff

instance (m : Metadata) (name : WideText) : Decidable (HadAnyId m name) :=
  decidable_of_iff _ hadAnyId_iff.symm

/-! ## The ids that are drawn -/

/-- For how many of some queries an id is drawn: for those whose names had none. -/
def draws (m : Metadata) (queries : List WideQuery) : Nat :=
  queries.countP fun q => decide ¬HadAnyId m q.name

section

variable {m : Metadata} {hidden : List WideText} {defaults : Defaults}

/-- A query takes over the id of its name, or gets the next one. -/
theorem idFor_cases (m : Metadata) (ids : IdSupply) (q : WideQuery) :
    (HadId m q.name (idFor m.entriesOf ids q).1 ∨
        ¬HadAnyId m q.name ∧ (idFor m.entriesOf ids q).1 = ids.id ids.drawn) ∧
      (idFor m.entriesOf ids q).2 =
        ⟨ids.id, ids.drawn + if decide (¬HadAnyId m q.name) = true then 1 else 0⟩ := by
  rw [idFor]
  cases hold : idOf? (Fields.get? m.entriesOf q.name) with
  | some id =>
    have hhad : HadId m q.name id := hadId_iff.2 hold
    have hany : HadAnyId m q.name := ⟨id, hhad⟩
    exact ⟨.inl hhad, by simp [hany]⟩
  | none =>
    have hnot : ¬HadAnyId m q.name := by
      rw [hadAnyId_iff, hold]
      exact Bool.false_ne_true
    exact ⟨.inr ⟨hnot, rfl⟩, by simp [hnot, IdSupply.draw]⟩

variable {previous : Fields}

/-- A list of queries in two pieces. -/
theorem rebuildEntries_append (entries : Fields) (ids : IdSupply) (front back : List WideQuery) :
    rebuildEntries previous hidden defaults entries ids (front ++ back) =
      rebuildEntries previous hidden defaults
        (rebuildEntries previous hidden defaults entries ids front).1
        (rebuildEntries previous hidden defaults entries ids front).2 back := by
  induction front generalizing entries ids with
  | nil => rfl
  | cons q front ih => rw [List.cons_append, rebuildEntries_cons, rebuildEntries_cons, ih]

/-- An id is drawn for each query whose name had none. -/
theorem rebuildEntries_snd (entries : Fields) (ids : IdSupply) (queries : List WideQuery) :
    (rebuildEntries m.entriesOf hidden defaults entries ids queries).2 =
      ⟨ids.id, ids.drawn + draws m queries⟩ := by
  induction queries generalizing entries ids with
  | nil => rfl
  | cons q queries ih =>
    rw [rebuildEntries_cons, ih, (idFor_cases m ids q).2, draws, draws, List.countP_cons,
      Nat.add_assoc, Nat.add_comm (List.countP _ _)]

/-- Queries of other names leave an entry alone. -/
theorem get?_rebuildEntries_other {key : WideText} {queries : List WideQuery}
    (h : ∀ q ∈ queries, q.name ≠ key) (entries : Fields) (ids : IdSupply) :
    Fields.get? (rebuildEntries previous hidden defaults entries ids queries).1 key =
      Fields.get? entries key := by
  induction queries generalizing entries ids with
  | nil => rfl
  | cons q queries ih =>
    obtain ⟨hq, hqueries⟩ := List.forall_mem_cons.1 h
    rw [rebuildEntries_cons, ih hqueries]
    exact Fields.get?_set_other (Ne.symm hq) _

/-- **The last query of a name decides about its entry.** -/
theorem get?_rebuildEntries_last {front back : List WideQuery} {q : WideQuery}
    (hlast : ∀ p ∈ back, p.name ≠ q.name) (entries : Fields) (ids : IdSupply) :
    Fields.get? (rebuildEntries m.entriesOf hidden defaults entries ids (front ++ q :: back)).1
        q.name =
      some (newEntry q.name (idFor m.entriesOf ⟨ids.id, ids.drawn + draws m front⟩ q).1 defaults
        (hidden.contains (WideText.fold q.name))) := by
  rw [rebuildEntries_append, rebuildEntries_cons, get?_rebuildEntries_other hlast,
    rebuildEntries_snd]
  exact Fields.get?_set_self _ _ _

/-- Of the old entries only the ids count, and of the queries only the names. -/
theorem rebuildEntries_congr {previous' : Fields} {queries queries' : List WideQuery}
    (hnames : queries'.map WideQuery.name = queries.map WideQuery.name)
    (hids : ∀ q ∈ queries, idOf? (Fields.get? previous' q.name) =
      idOf? (Fields.get? previous q.name)) (entries : Fields) (ids : IdSupply) :
    rebuildEntries previous' hidden defaults entries ids queries' =
      rebuildEntries previous hidden defaults entries ids queries := by
  induction queries generalizing queries' entries ids with
  | nil =>
    rw [List.map_nil, List.map_eq_nil_iff] at hnames
    subst hnames
    rfl
  | cons q queries ih =>
    obtain ⟨hq, hqueries⟩ := List.forall_mem_cons.1 hids
    cases queries' with
    | nil => cases hnames
    | cons q' queries' =>
      rw [List.map_cons, List.map_cons, List.cons.injEq] at hnames
      obtain ⟨hname, hnames⟩ := hnames
      have hfor : idFor previous' ids q' = idFor previous ids q := by
        rw [idFor, idFor, hname, hq]
      rw [rebuildEntries_cons, rebuildEntries_cons, hfor, hname, ih hnames hqueries]

end

/-! ## Metadata -/

section

variable {m m' : Metadata} {queries queries' : List WideQuery} {defaults : Defaults}

theorem destinations_congr
    (h : queries'.map (fun q => Mashup.Wide.destination? (some q.attr)) =
      queries.map fun q => Mashup.Wide.destination? (some q.attr)) :
    destinations queries' = destinations queries := by
  have hfilter : ∀ qs : List WideQuery,
      qs.filterMap (fun q => Mashup.Wide.destination? (some q.attr)) =
        (qs.map fun q => Mashup.Wide.destination? (some q.attr)).filterMap id := fun qs => by
    rw [List.filterMap_map]
    rfl
  rw [destinations, destinations, hfilter, hfilter, h]

/-- The attribute of some query sends the data to a name, whatever its case. -/
def IsReferenced (queries : List WideQuery) (name : WideText) : Prop :=
  ∃ p ∈ queries, ∃ target, Mashup.Wide.destination? (some p.attr) = some target ∧
    WideText.fold target = WideText.fold name

/-- Metadata has exactly the entries of a list of queries. -/
structure IsExact (m m' : Metadata) (queries : List WideQuery) (defaults : Defaults)
    (ids : IdSupply) : Prop where
  /-- The entries are there. -/
  stored : Fields.get? m' entriesKey = some (.object m'.entriesOf)
  /-- They have the names of the queries, each once, in the order in which they first stand. -/
  keys : Fields.keys m'.entriesOf = (queries.map WideQuery.name).eraseDups
  /-- The last query of a name decides about its entry.  The id is that which the name had, or else
  the one behind those drawn for the queries in front; the query is hidden when it is
  referenced. -/
  entries : ∀ front q back, queries = front ++ q :: back → (∀ p ∈ back, p.name ≠ q.name) →
    ∃ fields id, Fields.get? m'.entriesOf q.name = some (.object fields) ∧
      IsEntry fields q.name id defaults (IsReferenced queries q.name) ∧
      (HadId m q.name id ∨ ¬HadAnyId m q.name ∧ id = ids.id (ids.drawn + draws m front))
  /-- Of the other fields, only the locale is added. -/
  fields : KeepsFields m m' defaults

theorem isExact_rebuild (m : Metadata) (queries : List WideQuery) (defaults : Defaults)
    (ids : IdSupply) : IsExact m (m.rebuild queries defaults ids).1 queries defaults ids := by
  obtain ⟨entries, hentries, heq⟩ := rebuild_eq (Prod.eta (m.rebuild queries defaults ids)).symm
  rw [entriesOf_withLocale] at hentries
  have hfst : (rebuildEntries m.entriesOf (destinations queries) defaults [] ids queries).1 =
      entries := congrArg Prod.fst hentries
  refine ⟨?_, ?_, fun front q back hsplit hlast => ?_, ?_⟩
  · rw [heq, entriesOf_set, Fields.get?_set_self]
  · obtain ⟨entries', hget, hkeys⟩ := keys_rebuild (Prod.eta (m.rebuild queries defaults ids)).symm
    rw [entriesOf, hget, hkeys, namesOf]
  · have hreferenced : (destinations queries).contains (WideText.fold q.name) = true ↔
        IsReferenced queries q.name := contains_destinations_iff
    obtain ⟨fields, hnew, hentry⟩ := isEntry_newEntry q.name
      (idFor m.entriesOf ⟨ids.id, ids.drawn + draws m front⟩ q).1 defaults
      ((destinations queries).contains (WideText.fold q.name))
    rw [hreferenced] at hentry
    refine ⟨fields, _, ?_, hentry, (idFor_cases m ⟨ids.id, ids.drawn + draws m front⟩ q).1⟩
    have hget : Fields.get? (rebuildEntries m.entriesOf (destinations queries) defaults [] ids
        (front ++ q :: back)).1 q.name = some _ := get?_rebuildEntries_last hlast [] ids
    rw [← hsplit, hfst] at hget
    rw [heq, entriesOf_set, hget, hnew]
  · rw [heq]
    exact keepsFields_set_entries m _ defaults

theorem rebuild_snd (m : Metadata) (queries : List WideQuery) (defaults : Defaults)
    (ids : IdSupply) :
    (m.rebuild queries defaults ids).2 = ⟨ids.id, ids.drawn + draws m queries⟩ := by
  obtain ⟨entries, hentries, -⟩ := rebuild_eq (Prod.eta (m.rebuild queries defaults ids)).symm
  rw [entriesOf_withLocale] at hentries
  rw [← congrArg Prod.snd hentries, rebuildEntries_snd]

/-- Nothing counts but the names, the destinations and the old ids. -/
theorem rebuild_congr (hnames : queries'.map WideQuery.name = queries.map WideQuery.name)
    (hdestinations : queries'.map (fun q => Mashup.Wide.destination? (some q.attr)) =
      queries.map fun q => Mashup.Wide.destination? (some q.attr))
    (hids : ∀ q ∈ queries, ∀ id, HadId m' q.name id ↔ HadId m q.name id) (ids : IdSupply) :
    (m'.rebuild queries' defaults ids).1.entriesOf = (m.rebuild queries defaults ids).1.entriesOf ∧
      (m'.rebuild queries' defaults ids).2 = (m.rebuild queries defaults ids).2 := by
  have hsame : ∀ q ∈ queries, idOf? (Fields.get? m'.entriesOf q.name) =
      idOf? (Fields.get? m.entriesOf q.name) := by
    refine fun q hq => Option.ext fun id => ?_
    have hid := hids q hq id
    rwa [hadId_iff, hadId_iff] at hid
  obtain ⟨entries, hentries, heq⟩ := rebuild_eq (Prod.eta (m.rebuild queries defaults ids)).symm
  obtain ⟨entries', hentries', heq'⟩ :=
    rebuild_eq (Prod.eta (m'.rebuild queries' defaults ids)).symm
  rw [entriesOf_withLocale] at hentries
  rw [entriesOf_withLocale, destinations_congr hdestinations, rebuildEntries_congr hnames hsame,
    hentries] at hentries'
  obtain ⟨rfl, hsupply⟩ := Prod.mk.inj hentries'
  rw [heq, heq', entriesOf_set, entriesOf_set]
  exact ⟨rfl, hsupply.symm⟩

/-- **Building anew gives exactly the entries of a list of queries**, and draws an id for each query
whose name had none.  The entries depend on nothing but the names, the destinations and the old
ids. -/
theorem rebuild_exact (m : Metadata) (queries : List WideQuery) (defaults : Defaults)
    (ids : IdSupply) :
    IsExact m (m.rebuild queries defaults ids).1 queries defaults ids ∧
      (m.rebuild queries defaults ids).2 = ⟨ids.id, ids.drawn + draws m queries⟩ ∧
      ∀ (m' : Metadata) (queries' : List WideQuery),
        queries'.map WideQuery.name = queries.map WideQuery.name →
        queries'.map (fun q => Mashup.Wide.destination? (some q.attr)) =
          queries.map (fun q => Mashup.Wide.destination? (some q.attr)) →
        (∀ q ∈ queries, ∀ id, HadId m' q.name id ↔ HadId m q.name id) →
        (m'.rebuild queries' defaults ids).1.entriesOf =
            (m.rebuild queries defaults ids).1.entriesOf ∧
          (m'.rebuild queries' defaults ids).2 = (m.rebuild queries defaults ids).2 :=
  ⟨isExact_rebuild m queries defaults ids, rebuild_snd m queries defaults ids,
    fun _ _ hnames hdestinations hids => rebuild_congr hnames hdestinations hids ids⟩

end

/-- Metadata with entries of several kinds: one whose id is no string, one that is no object, one
whose id is nothing, and one that no query has. -/
def scatteredMetadata : Metadata :=
  [(wide "version", .int 3), (entriesKey, .object
    [(wide "A", .object [(wide "queryId", .bool true), (wide "note", .null)]),
      (wide "B", .string (wide "text")),
      (wide "C", .object [(wide "queryId", .int 0)]),
      (wide "Gone", .object [(wide "queryId", .string (wide "old"))])])]

/-- A query that sends its data to another one in another spelling, and stands in the list twice. -/
def scatteredQueries : List WideQuery :=
  [⟨wide "C", wide "1", wide "[DataDestinations = \x7b[QueryName = \"a\"]\x7d]"⟩,
    ⟨wide "A", wide "2", []⟩, ⟨wide "B", wide "3", []⟩, ⟨wide "C", wide "4", []⟩]

/-- Other metadata with the same ids, all of them strings. -/
def sparseMetadata : Metadata :=
  [(entriesKey, .object [(wide "A", .object [(wide "queryId", .string (wide "True"))])])]

theorem rebuild_exact_scattered :
    let ids := IdSupply.ofSequence fun n => List.replicate n (.scalar 'i')
    let recoded := scatteredQueries.map fun q => { q with code := wide "0" }
    IsExact scatteredMetadata (scatteredMetadata.rebuild scatteredQueries .standard ids).1
        scatteredQueries .standard ids ∧
      (scatteredMetadata.rebuild scatteredQueries .standard ids).1.entriesOf =
        [(wide "C", .object [(wide "queryId", .string (wide "ii")),
            (wide "queryName", .string (wide "C")), (wide "loadEnabled", .bool false)]),
          (wide "A", .object [(wide "queryId", .string (wide "True")),
            (wide "queryName", .string (wide "A")), (wide "loadEnabled", .bool false),
            (wide "isHidden", .bool true)]),
          (wide "B", .object [(wide "queryId", .string (wide "i")),
            (wide "queryName", .string (wide "B")), (wide "loadEnabled", .bool false)])] ∧
      (scatteredMetadata.rebuild scatteredQueries .standard ids).2.drawn = 3 ∧
      (sparseMetadata.rebuild recoded .standard ids).1.entriesOf =
        (scatteredMetadata.rebuild scatteredQueries .standard ids).1.entriesOf := by
  intro ids recoded
  obtain ⟨hexact, hdrawn, hcongr⟩ :=
    rebuild_exact scatteredMetadata scatteredQueries .standard ids
  refine ⟨hexact, rfl, by rw [hdrawn]; decide +kernel,
    (hcongr sparseMetadata recoded rfl rfl fun q hq id => ?_).1⟩
  have hids : ∀ q ∈ scatteredQueries, idOf? (Fields.get? sparseMetadata.entriesOf q.name) =
      idOf? (Fields.get? scatteredMetadata.entriesOf q.name) := by decide +kernel
  rw [hadId_iff, hadId_iff, hids q hq]

end Metadata
end Dataflow
