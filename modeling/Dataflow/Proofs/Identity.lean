import Dataflow.Proofs.Calls
import Dataflow.Proofs.Issuing

/-!
# No two queries share an id

An id is drawn at three places: for a query that is registered, for the query to which it sends its
data, and for a name without an id when the entries are built anew.  All other edits carry ids over.
From a supply that never gives the same id twice, this keeps apart what has different names: each
entry has an id that was drawn, an id that is drawn next was never given to anyone, and an id that
is carried over stays with its name.  `Metadata.AreDistinct` is this invariant.

Building anew is where it takes care.  Old ids and new ones end up side by side, names may be
repeated, and names that are dropped leave their ids behind.  The entries built so far are compared
with the old ones: they have the same id wherever both know a name, and never the id of another,
which is what `Metadata.Continues` says.

The edits are given as data, `Metadata.Edit`, so that `Registry.ids_of_run` can speak of a run of
them.
-/

set_option autoImplicit false

namespace Dataflow

/-- A supply whose ids are not empty, and of which no two are the same. -/
structure IdSupply.IsFresh (ids : IdSupply) : Prop where
  /-- There is something in each. -/
  ne_nil : ∀ n, ids.id n ≠ []
  /-- None is given twice. -/
  injective : Function.Injective ids.id

theorem IdSupply.IsFresh.of_id_eq {ids ids' : IdSupply} (h : ids.IsFresh) (heq : ids'.id = ids.id) :
    ids'.IsFresh where
  ne_nil := heq ▸ h.ne_nil
  injective := heq ▸ h.injective

namespace Metadata

/-! ## Entries that bear a name and an id -/

/-- The name of the field for the name. -/
def nameKey : WideText := wide "queryName"

/-- An entry bears a name and an id. -/
def Bears (entry : Json) (name id : WideText) : Prop :=
  ∃ fields, entry = .object fields ∧ Fields.get? fields nameKey = some (.string name) ∧
    Fields.get? fields idKey = some (.string id)

theorem bears_newEntry (name id : WideText) (defaults : Defaults) (hidden : Bool) :
    Bears (newEntry name id defaults hidden) name id :=
  ⟨_, rfl, rfl, rfl⟩

/-- Entries that bear their names, and ids that were drawn, each a different one. -/
structure AreDistinct (ids : IdSupply) (entries : Fields) : Prop where
  /-- No name stands twice. -/
  nodup : (Fields.keys entries).Nodup
  /-- Each entry bears its name and an id that was drawn. -/
  bears : ∀ key entry, Fields.get? entries key = some entry →
    ∃ n < ids.drawn, Bears entry key (ids.id n)
  /-- No id stands twice. -/
  apart : ∀ key key' id, idAt? entries key = some id → idAt? entries key' = some id → key = key'

section

variable {ids ids' : IdSupply} {entries previous : Fields} {key : WideText}

theorem areDistinct_nil (ids : IdSupply) : AreDistinct ids [] where
  nodup := List.nodup_nil
  bears _ _ h := nomatch h
  apart _ _ _ h := nomatch h

namespace AreDistinct

/-- More may have been drawn. -/
theorem mono (h : AreDistinct ids entries) (hid : ids'.id = ids.id)
    (hdrawn : ids.drawn ≤ ids'.drawn) : AreDistinct ids' entries where
  nodup := h.nodup
  bears key entry hget := by
    obtain ⟨n, hn, hbears⟩ := h.bears key entry hget
    exact ⟨n, Nat.lt_of_lt_of_le hn hdrawn, hid ▸ hbears⟩
  apart := h.apart

/-- A name has no id, or one that was drawn and that is taken over. -/
theorem id_cases (h : AreDistinct ids entries) (hids : ids.IsFresh) (key : WideText) :
    (idAt? entries key = none ∧ idOf? (Fields.get? entries key) = none) ∨
      ∃ n < ids.drawn, idAt? entries key = some (.string (ids.id n)) ∧
        idOf? (Fields.get? entries key) = some (ids.id n) := by
  cases hget : Fields.get? entries key with
  | none => exact .inl ⟨by rw [idAt?, hget]; rfl, rfl⟩
  | some entry =>
    obtain ⟨n, hn, fields, rfl, -, hid⟩ := h.bears key entry hget
    have hat : idAt? entries key = some (.string (ids.id n)) := by
      rw [idAt?, hget]
      exact hid
    exact .inr ⟨n, hn, hat, hget ▸ idOf?_of_idAt? (hids.ne_nil n) hat⟩

/-- The next id was never given to anyone. -/
theorem ne_next (h : AreDistinct ids entries) (hids : ids.IsFresh) (key : WideText) :
    idAt? entries key ≠ some (.string (ids.id ids.drawn)) := by
  intro hnext
  rcases h.id_cases hids key with ⟨hnone, -⟩ | ⟨n, hn, hat, -⟩
  · rw [hnone] at hnext
    cases hnext
  · have hsame := Json.string.inj (Option.some.inj (hat.symm.trans hnext))
    exact absurd (hids.injective hsame) (Nat.ne_of_lt hn)

/-- An entry is set whose id no other name has. -/
theorem set (h : AreDistinct ids entries) {entry : Json} {n : Nat} (hn : n < ids.drawn)
    (hentry : Bears entry key (ids.id n))
    (hfree : ∀ other, idAt? entries other = some (.string (ids.id n)) → other = key) :
    AreDistinct ids (Fields.set entries key entry) where
  nodup := Fields.nodup_keys_set h.nodup key entry
  bears other value hget := by
    by_cases hother : other = key
    · rw [hother, Fields.get?_set_self] at hget
      exact ⟨n, hn, hother ▸ Option.some.inj hget ▸ hentry⟩
    · rw [Fields.get?_set_other hother] at hget
      exact h.bears other value hget
  apart := by
    obtain ⟨fields, rfl, -, hid⟩ := hentry
    intro one two id hone htwo
    by_cases hone' : one = key <;> by_cases htwo' : two = key
    · exact hone'.trans htwo'.symm
    · rw [hone', idAt?_set_self, hid] at hone
      rw [idAt?_set_other htwo'] at htwo
      exact hone'.trans (hfree two (htwo.trans hone.symm)).symm
    · rw [htwo', idAt?_set_self, hid] at htwo
      rw [idAt?_set_other hone'] at hone
      exact (hfree one (hone.trans htwo.symm)).trans htwo'.symm
    · rw [idAt?_set_other hone'] at hone
      rw [idAt?_set_other htwo'] at htwo
      exact h.apart one two id hone htwo

/-- **A new entry with the next id is set.** -/
theorem draw (h : AreDistinct ids entries) (hids : ids.IsFresh) (name : WideText)
    (defaults : Defaults)
    (hidden : Bool) :
    AreDistinct ids.draw.2
      (Fields.set entries name (newEntry name ids.draw.1 defaults hidden)) :=
  (h.mono ids.id_draw (Nat.le_succ _)).set (Nat.lt_succ_self ids.drawn)
    (bears_newEntry name _ defaults hidden) fun other hother => absurd hother (h.ne_next hids other)

end AreDistinct

/-! ## An entry that is changed -/

/-- A change of an entry that leaves its name and its id as they are. -/
def SparesIdentity (change : Fields → Fields) : Prop :=
  ∀ fields, Fields.get? (change fields) nameKey = Fields.get? fields nameKey ∧
    Fields.get? (change fields) idKey = Fields.get? fields idKey

theorem sparesIdentity_set {other : WideText} (hname : nameKey ≠ other) (hid : idKey ≠ other)
    (value : Json) : SparesIdentity (Fields.set · other value) :=
  fun _ => ⟨Fields.get?_set_other hname value, Fields.get?_set_other hid value⟩

theorem sparesIdentity_setIfMissing {other : WideText} (hname : nameKey ≠ other)
    (hid : idKey ≠ other) (value : Json) : SparesIdentity (Fields.setIfMissing · other value) :=
  fun _ => ⟨Fields.get?_setIfMissing_other hname value, Fields.get?_setIfMissing_other hid value⟩

theorem sparesIdentity_setAll {new : Fields} (hname : nameKey ∉ Fields.keys new)
    (hid : idKey ∉ Fields.keys new) : SparesIdentity (Fields.setAll · new) := by
  induction new with
  | nil => exact fun fields => ⟨rfl, rfl⟩
  | cons f new ih =>
    obtain ⟨hname, hnames⟩ := not_or.1 (mt List.mem_cons.2 hname)
    obtain ⟨hid, hids⟩ := not_or.1 (mt List.mem_cons.2 hid)
    intro fields
    obtain ⟨hname', hid'⟩ := ih hnames hids (Fields.set fields f.1 f.2)
    obtain ⟨hset, hset'⟩ := sparesIdentity_set hname hid f.2 fields
    exact ⟨hname'.trans hset, hid'.trans hset'⟩

theorem sparesIdentity_patch (p : Patch) : SparesIdentity (Fields.setAll · p.fields) := by
  have hkeys : ∀ key ∈ Fields.keys p.fields,
      key ∈ [wide "loadEnabled", wide "isHidden", wide "destinationSettings"] := by
    intro key hkey
    obtain ⟨f, hf, rfl⟩ := List.mem_map.1 hkey
    exact List.mem_map_of_mem (f := Prod.fst) (List.mem_filter.1 hf).1
  exact sparesIdentity_setAll (mt (hkeys _) (by decide)) (mt (hkeys _) (by decide))

/-- **An entry is changed, and all ids stay where they are.** -/
theorem AreDistinct.amend (h : AreDistinct ids entries) {fields : Fields}
    (hget : Fields.get? entries key = some (.object fields)) {change : Fields → Fields}
    (hchange : SparesIdentity change) :
    AreDistinct ids (Fields.set entries key (.object (change fields))) ∧
      ∀ other, idAt? (Fields.set entries key (.object (change fields))) other =
        idAt? entries other := by
  obtain ⟨n, hn, fields', heq, hname, hid⟩ := h.bears key _ hget
  obtain rfl := Json.object.inj heq
  obtain ⟨hname', hid'⟩ := hchange fields
  have hat : idAt? entries key = some (.string (ids.id n)) := by
    rw [idAt?, hget]
    exact hid
  refine ⟨h.set hn ⟨change fields, rfl, hname'.trans hname, hid'.trans hid⟩
    fun other hother => h.apart other key _ hother hat, fun other => ?_⟩
  by_cases hother : other = key
  · rw [hother, idAt?_set_self, hid', hid, hat]
  · rw [idAt?_set_other hother]

/-! ## Entering a name -/

/-- Entries that keep all ids that were there. -/
def KeepsIds (entries entries' : Fields) : Prop :=
  ∀ key id, idAt? entries key = some id → idAt? entries' key = some id

/-- **Entering a name keeps entries distinct and all ids where they are.** -/
theorem enter_distinct {change : Fields → Fields} (hchange : SparesIdentity change) {hidden : Bool}
    (h : AreDistinct ids entries) (hids : ids.IsFresh) {name : WideText} {defaults : Defaults}
    {entries' : Fields} (heq : enter change hidden entries name defaults ids = (entries', ids')) :
    AreDistinct ids' entries' ∧ KeepsIds entries entries' ∧ ids'.id = ids.id := by
  rcases enter_cases heq with ⟨entry, hentry, rfl, rfl⟩ | ⟨hnone, rfl, rfl⟩
  · obtain ⟨hdistinct, hsame⟩ := h.amend hentry hchange
    exact ⟨hdistinct, fun key id hid => (hsame key).trans hid, rfl⟩
  · refine ⟨h.draw hids name defaults hidden, fun key id hid => ?_, rfl⟩
    by_cases hkey : key = name
    · -- the name would have an entry that is an object
      obtain ⟨fields, hfields, -⟩ := Option.bind_eq_some_iff.1 hid
      obtain ⟨entry, hentry, hobject⟩ := Option.bind_eq_some_iff.1 hfields
      cases entry <;> cases hobject
      exact absurd (hkey ▸ hentry) (hnone fields)
    · rw [idAt?_set_other hkey, hid]

theorem touch_distinct (h : AreDistinct ids entries) (hids : ids.IsFresh) {name : WideText}
    {defaults : Defaults} {entries' : Fields}
    (heq : touch entries name defaults ids = (entries', ids')) :
    AreDistinct ids' entries' ∧ KeepsIds entries entries' ∧ ids'.id = ids.id :=
  enter_distinct (sparesIdentity_setIfMissing (by decide) (by decide) _) h hids
    (touch_eq_enter ▸ heq)

theorem hide_distinct (h : AreDistinct ids entries) (hids : ids.IsFresh) {name : WideText}
    {defaults : Defaults} {entries' : Fields}
    (heq : hide entries name defaults ids = (entries', ids')) :
    AreDistinct ids' entries' ∧ KeepsIds entries entries' ∧ ids'.id = ids.id :=
  enter_distinct (sparesIdentity_set (by decide) (by decide) _) h hids (hide_eq_enter ▸ heq)

/-! ## Building anew -/

/-- Entries go on from previous ones: a name that both know has the same id in both, and no name
has the id that another one had. -/
structure Continues (previous entries : Fields) : Prop where
  /-- A name has the id that it had. -/
  same : ∀ key id id', idAt? previous key = some id → idAt? entries key = some id' → id' = id
  /-- An id is with the name that had it. -/
  apart : ∀ key key' id, idAt? previous key = some id → idAt? entries key' = some id → key' = key

theorem continues_nil (previous : Fields) : Continues previous [] where
  same _ _ _ _ h := nomatch h
  apart _ _ _ _ h := nomatch h

/-- An entry is set with the id that the name had, if it had one, and that no other name had. -/
theorem Continues.set (h : Continues previous entries) {fields : Fields} (id : Json)
    (hid : Fields.get? fields idKey = some id)
    (hold : ∀ old, idAt? previous key = some old → id = old)
    (hfree : ∀ other, idAt? previous other = some id → key = other) :
    Continues previous (Fields.set entries key (.object fields)) where
  same other old new hprevious hnew := by
    by_cases hother : other = key
    · subst hother
      rw [idAt?_set_self, hid] at hnew
      exact Option.some.inj hnew ▸ hold old hprevious
    · rw [idAt?_set_other hother] at hnew
      exact h.same other old new hprevious hnew
  apart one two other hprevious hset := by
    by_cases htwo : two = key
    · subst htwo
      rw [idAt?_set_self, hid] at hset
      exact hfree one (hprevious.trans hset.symm)
    · rw [idAt?_set_other htwo] at hset
      exact h.apart one two other hprevious hset

/-- **Entries that are built anew are distinct and go on from the previous ones.** -/
theorem rebuildEntries_distinct {hidden : List WideText} {defaults : Defaults}
    {queries : List Mashup.WideQuery} {entries' : Fields} (hprevious : AreDistinct ids previous)
    (h : AreDistinct ids entries) (hcontinues : Continues previous entries) (hids : ids.IsFresh)
    (heq : rebuildEntries previous hidden defaults entries ids queries = (entries', ids')) :
    AreDistinct ids' entries' ∧ Continues previous entries' ∧ ids'.id = ids.id := by
  induction queries generalizing entries ids with
  | nil =>
    obtain ⟨rfl, rfl⟩ := Prod.mk.inj heq
    exact ⟨h, hcontinues, rfl⟩
  | cons q queries ih =>
    rw [rebuildEntries_cons, idFor] at heq
    rcases hprevious.id_cases hids q.name with ⟨hnone, hdraw⟩ | ⟨n, hn, hold, htake⟩
    · -- there is no id to take over, so the next one is drawn
      simp only [hdraw] at heq
      have hdistinct := h.draw hids q.name defaults (hidden.contains (WideText.fold q.name))
      have hnext : Continues previous (Fields.set entries q.name
          (newEntry q.name ids.draw.1 defaults (hidden.contains (WideText.fold q.name)))) := by
        refine hcontinues.set (.string ids.draw.1) rfl (fun old hold => ?_) fun other hother =>
          absurd hother (hprevious.ne_next hids other)
        rw [hnone] at hold
        cases hold
      have hmore : AreDistinct ids.draw.2 previous :=
        hprevious.mono ids.id_draw (Nat.le_succ ids.drawn)
      obtain ⟨hlast, hgoes, hafter⟩ := ih hmore hdistinct hnext (hids.of_id_eq ids.id_draw) heq
      exact ⟨hlast, hgoes, hafter.trans ids.id_draw⟩
    · simp only [htake] at heq
      have hsame : ∀ other, idAt? previous other = some (.string (ids.id n)) →
          q.name = other := fun other hother => hprevious.apart _ other _ hold hother
      have hdistinct := h.set hn
        (bears_newEntry q.name (ids.id n) defaults (hidden.contains (WideText.fold q.name)))
        fun other hother => hcontinues.apart _ other _ hold hother
      refine ih hprevious hdistinct (hcontinues.set (.string (ids.id n)) rfl (fun old hprev => ?_)
        hsame) hids heq
      exact Option.some.inj (hold.symm.trans hprev)

/-! ## Either change of the entries -/

/-- A name among distinct entries has an id that was drawn. -/
theorem AreDistinct.idAt?_of_mem (h : AreDistinct ids entries) (hkey : key ∈ Fields.keys entries) :
    ∃ n < ids.drawn, idAt? entries key = some (.string (ids.id n)) := by
  obtain ⟨entry, hget⟩ :=
    Option.ne_none_iff_exists'.1 (mt Fields.get?_eq_none_iff.1 (not_not.2 hkey))
  obtain ⟨n, hn, fields, rfl, -, hid⟩ := h.bears key entry hget
  refine ⟨n, hn, ?_⟩
  rw [idAt?, hget]
  exact hid

/-- Names that are there in both have the same ids in both. -/
def AgreeOnIds (m m' : Metadata) : Prop :=
  ∀ key ∈ m.registered, key ∈ m'.registered → idAt? m'.entriesOf key = idAt? m.entriesOf key

variable {m m' : Metadata}

theorem KeepsIds.agreeOnIds (h : KeepsIds m.entriesOf m'.entriesOf)
    (hm : AreDistinct ids m.entriesOf) : AgreeOnIds m m' := by
  intro key hkey _
  obtain ⟨n, -, hid⟩ := hm.idAt?_of_mem hkey
  rw [h key _ hid, hid]

theorem Continues.agreeOnIds (h : Continues m.entriesOf m'.entriesOf)
    (hm : AreDistinct ids m.entriesOf) (hm' : AreDistinct ids' m'.entriesOf) : AgreeOnIds m m' := by
  intro key hkey hkey'
  obtain ⟨n, -, hid⟩ := hm.idAt?_of_mem hkey
  obtain ⟨n', -, hid'⟩ := hm'.idAt?_of_mem hkey'
  rw [hid', hid, h.same key _ _ hid hid']

/-- **Registering keeps entries distinct and all ids where they are.** -/
theorem register_distinct {name : WideText} {destination : Option WideText} {defaults : Defaults}
    (h : AreDistinct ids m.entriesOf) (hids : ids.IsFresh)
    (heq : m.register name destination defaults ids = (m', ids')) :
    AreDistinct ids' m'.entriesOf ∧ KeepsIds m.entriesOf m'.entriesOf ∧ ids'.id = ids.id := by
  obtain ⟨touched, after, entries, htouch, rfl, hrest⟩ := register_cases heq
  obtain ⟨htouched, hkeeps, hafter⟩ := touch_distinct h hids htouch
  rw [entriesOf_set]
  rcases hrest with ⟨-, rfl, rfl⟩ | ⟨target, -, hhide⟩
  · exact ⟨htouched, hkeeps, hafter⟩
  · obtain ⟨hhidden, hkeeps', hlast⟩ := hide_distinct htouched (hids.of_id_eq hafter) hhide
    exact ⟨hhidden, fun key id hid => hkeeps' key id (hkeeps key id hid), hlast.trans hafter⟩

/-- **Either change keeps entries distinct**, and a name that stays has the same id. -/
theorem Change.apply_distinct {c : Change} {defaults : Defaults} (h : AreDistinct ids m.entriesOf)
    (hids : ids.IsFresh) (heq : c.apply m defaults ids = (m', ids')) :
    AreDistinct ids' m'.entriesOf ∧ AgreeOnIds m m' ∧ ids'.id = ids.id := by
  cases c with
  | register name attr =>
    obtain ⟨hdistinct, hkeeps, hid⟩ := register_distinct h hids heq
    exact ⟨hdistinct, hkeeps.agreeOnIds h, hid⟩
  | rebuild queries =>
    obtain ⟨entries, hentries, rfl⟩ := rebuild_eq heq
    rw [entriesOf_withLocale] at hentries
    obtain ⟨hdistinct, hcontinues, hid⟩ :=
      rebuildEntries_distinct h (areDistinct_nil ids) (continues_nil m.entriesOf) hids hentries
    rw [← entriesOf_set (m.withLocale defaults) entries] at hdistinct hcontinues
    exact ⟨hdistinct, hcontinues.agreeOnIds h hdistinct, hid⟩

/-! ## Other edits -/

/-- What is there for the entries, if anything is, is an object. -/
def HoldsEntries (m : Metadata) : Prop :=
  ∀ value, Fields.get? m entriesKey = some value → ∃ entries, value = .object entries

theorem holdsEntries_set (m : Metadata) (entries : Fields) :
    HoldsEntries (Fields.set m entriesKey (.object entries)) := by
  intro value hvalue
  rw [Fields.get?_set_self] at hvalue
  exact ⟨entries, (Option.some.inj hvalue).symm⟩

theorem Change.apply_holdsEntries {c : Change} {defaults : Defaults}
    (heq : c.apply m defaults ids = (m', ids')) : HoldsEntries m' := by
  cases c with
  | register name attr =>
    obtain ⟨touched, after, entries, -, rfl, -⟩ := register_cases heq
    exact holdsEntries_set _ entries
  | rebuild queries =>
    obtain ⟨entries, -, rfl⟩ := rebuild_eq heq
    exact holdsEntries_set _ entries

/-- **A patch keeps entries distinct and all ids where they are.** -/
theorem patch_distinct {name : WideText} {p : Patch} (h : AreDistinct ids m.entriesOf)
    (heq : m.patch name p = .ok m') :
    AreDistinct ids m'.entriesOf ∧ AgreeOnIds m m' ∧ HoldsEntries m' := by
  rw [patch] at heq
  split at heq
  · rename_i entries hentries
    split at heq
    · rename_i fields hfields
      obtain rfl := Except.ok.inj heq
      have hof : m.entriesOf = entries := by rw [entriesOf, hentries]
      obtain ⟨hdistinct, hsame⟩ := (hof ▸ h).amend hfields (sparesIdentity_patch p)
      rw [AgreeOnIds, entriesOf_set, hof]
      exact ⟨hdistinct, fun key _ _ => hsame key, holdsEntries_set m _⟩
    · cases heq
  · cases heq

/-- What stands for the entries is not touched by connections. -/
theorem get?_connect_entries (m : Metadata) (bindings : List Binding) (defaults : Defaults) :
    Fields.get? (m.connect bindings defaults) entriesKey = Fields.get? m entriesKey := by
  have hlocale : entriesKey ≠ localeKey := by decide
  have hconnections : entriesKey ≠ connectionsKey := by decide
  rw [connect, Fields.get?_set_other hconnections, withLocale,
    Fields.get?_setIfMissing_other hlocale]

theorem entriesOf_connect (m : Metadata) (bindings : List Binding) (defaults : Defaults) :
    (m.connect bindings defaults).entriesOf = m.entriesOf := by
  rw [entriesOf, entriesOf, get?_connect_entries]

end

/-! ## Edits -/

/-- An edit of the metadata with all its arguments. -/
inductive Edit where
  /-- A query is registered, or the entries are built anew. -/
  | change (c : Change) (defaults : Defaults)
  /-- An entry is patched. -/
  | patch (name : WideText) (p : Patch)
  /-- Connections are listed. -/
  | connect (bindings : List Binding) (defaults : Defaults)

/-- Metadata whose entries bear their names and ids, no id twice. -/
structure HasDistinctIds (m : Metadata) : Prop where
  /-- What is there for the entries is an object. -/
  holds : HoldsEntries m
  /-- No name stands twice. -/
  nodup : m.registered.Nodup
  /-- Each entry is an object with its name and an id. -/
  bears : ∀ f ∈ m.entriesOf, ∃ id, id ≠ [] ∧ Bears f.2 f.1 id
  /-- No two names have the same id. -/
  apart : ∀ key key' id, idAt? m.entriesOf key = some id → idAt? m.entriesOf key' = some id →
    key = key'

end Metadata

/-- Metadata and the supply of ids for its entries. -/
structure Registry where
  /-- The metadata. -/
  metadata : Metadata
  /-- The supply. -/
  ids : IdSupply

namespace Registry

open Metadata

/-- The registry of no metadata. -/
def empty (ids : IdSupply) : Registry := ⟨[], ids⟩

/-- The registry after an edit; an edit that fails leaves it as it was. -/
def edit (r : Registry) : Edit → Except Failure Metadata × Registry
  | .change c defaults =>
    let (m, ids) := c.apply r.metadata defaults r.ids
    (.ok m, ⟨m, ids⟩)
  | .patch name p =>
    match r.metadata.patch name p with
    | .ok m => (.ok m, { r with metadata := m })
    | .error failure => (.error failure, r)
  | .connect bindings defaults =>
    let m := r.metadata.connect bindings defaults
    (.ok m, { r with metadata := m })

/-- A registry of distinct entries, with ids that are still to be given. -/
structure IsSound (r : Registry) : Prop where
  /-- New ids are new. -/
  fresh : r.ids.IsFresh
  /-- What is there for the entries is an object. -/
  holds : HoldsEntries r.metadata
  /-- The entries are distinct. -/
  distinct : AreDistinct r.ids r.metadata.entriesOf

theorem isSound_empty {ids : IdSupply} (hids : ids.IsFresh) : (empty ids).IsSound where
  fresh := hids
  holds _ h := nomatch h
  distinct := areDistinct_nil ids

variable {r : Registry}

theorem IsSound.hasDistinctIds (h : r.IsSound) : r.metadata.HasDistinctIds where
  holds := h.holds
  nodup := h.distinct.nodup
  bears f hf := by
    obtain ⟨n, -, hbears⟩ := h.distinct.bears f.1 f.2 (Fields.get?_of_mem h.distinct.nodup hf)
    exact ⟨r.ids.id n, h.fresh.ne_nil n, hbears⟩
  apart := h.distinct.apart

/-- **One edit keeps a registry sound**, and each name that stays has the same id. -/
theorem IsSound.edit (h : r.IsSound) (e : Edit) :
    (r.edit e).2.IsSound ∧ AgreeOnIds r.metadata (r.edit e).2.metadata := by
  cases e with
  | change c defaults =>
    obtain ⟨m, ids, heq⟩ : ∃ m ids, c.apply r.metadata defaults r.ids = (m, ids) := ⟨_, _, rfl⟩
    obtain ⟨hdistinct, hagree, hid⟩ := c.apply_distinct h.distinct h.fresh heq
    simp only [Registry.edit, heq]
    exact ⟨⟨h.fresh.of_id_eq hid, c.apply_holdsEntries heq, hdistinct⟩, hagree⟩
  | patch name p =>
    rw [Registry.edit]
    split
    · rename_i m hm
      obtain ⟨hdistinct, hagree, hholds⟩ := patch_distinct h.distinct hm
      exact ⟨⟨h.fresh, hholds, hdistinct⟩, hagree⟩
    · exact ⟨h, fun key _ _ => rfl⟩
  | connect bindings defaults =>
    have hentries := entriesOf_connect r.metadata bindings defaults
    refine ⟨⟨h.fresh, fun value hvalue => ?_, ?_⟩, fun key _ _ => ?_⟩
    · exact h.holds value (get?_connect_entries r.metadata bindings defaults ▸ hvalue)
    · exact hentries.symm ▸ h.distinct
    · exact congrArg (idAt? · key) hentries

/-- **In a run of edits, ids are distinct and stay with their names.** -/
theorem ids_of_run {ids : IdSupply} (hids : ids.IsFresh) (edits : List Edit) :
    ∀ e ∈ trace edit (empty ids) edits,
      e.after.metadata.HasDistinctIds ∧ AgreeOnIds e.before.metadata e.after.metadata := by
  refine forall_mem_trace_of_invariant (I := IsSound) (fun r e h => ?_) (isSound_empty hids) edits
  obtain ⟨hsound, hagree⟩ := h.edit e
  exact ⟨⟨hsound.hasDistinctIds, hagree⟩, hsound⟩

/-- Ids of growing length. -/
def sampleIds : IdSupply := .ofSequence fun n => List.replicate (n + 1) (.scalar 'i')

/-- A query that sends its data to another one, which is patched; connections, of which the entries
know nothing; and other queries in the place of these, some of them twice. -/
def sampleEdits : List Edit :=
  [.change (.register (wide "Orders")
      (some (wide "[DataDestinations = \x7b[QueryName = \"Out\"]\x7d]"))) .standard,
    .patch (wide "Out") ⟨some true, none, none⟩,
    .patch (wide "orders") ⟨some true, none, none⟩,
    .connect [⟨wide "c1", wide "Web", wide "example.com", none⟩] .standard,
    .change (.rebuild [⟨wide "New", [], []⟩, ⟨wide "Out", [], []⟩, ⟨wide "New", [], []⟩,
      ⟨wide "Out", [], []⟩]) .standard,
    .change (.register (wide "Orders") none) .standard]

theorem ids_of_run_sampleEdits :
    sampleIds.IsFresh ∧
      (∀ e ∈ trace edit (empty sampleIds) sampleEdits,
        e.after.metadata.HasDistinctIds ∧ AgreeOnIds e.before.metadata e.after.metadata) ∧
      (final edit (empty sampleIds) sampleEdits).metadata.registered =
        [wide "New", wide "Out", wide "Orders"] ∧
      (final edit (empty sampleIds) sampleEdits).ids.drawn = 5 := by
  have hfresh : sampleIds.IsFresh := by
    refine ⟨fun n => List.cons_ne_nil _ _, fun n k hsame => ?_⟩
    have hlength := congrArg List.length hsame
    simpa [sampleIds, IdSupply.ofSequence] using hlength
  exact ⟨hfresh, ids_of_run hfresh sampleEdits, by decide +kernel, by decide +kernel⟩

end Registry

end Dataflow
