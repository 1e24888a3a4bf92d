import Dataflow.Proofs.Calls
import Dataflow.Proofs.Storage
import Dataflow.Proofs.Wide
import Mathlib.Data.List.Forall2

/-!
# When the two stores do the same

A store in memory keeps a definition as it is, and a store in a folder keeps a JSON file of it.
There is one thing that such a file cannot say: that a high and a low half of a surrogate pair stand
next to each other and are not one character.  A definition with such neighbours in a string can
only be put in place from outside, and then the two stores have different definitions from there on.

`interchangeable_iff` says that this is the only way in which they can be told apart.  In a run that
puts no such definition in place each step answers the same value or fails in the same kind of way
on both, whatever services are called, and afterwards every key has the same definition.

The two stores are related by what can be fetched from them, and a definition that is fetched is
joined (`Desk.Alike`).  An edit keeps that relation (`Desk.Alike.edit`), since it writes only
payloads and known paths and both stores keep what is joined.  In the other direction, what is
fetched from a folder has been read from a text, so it is joined, and the store in memory can only
agree with it if what was put there was joined as well.
-/

set_option autoImplicit false

namespace Dataflow

/-- What a caller sees of an outcome: the value, or the kind of the failure. -/
def seen {α : Type} (outcome : Except Failure α) : Except Failure.Kind α :=
  outcome.mapError Failure.kind

/-- What is seen of two outcomes stays the same when their values are carried on. -/
theorem seen_map {α β : Type} {x y : Except Failure α} (h : seen x = seen y) (f : α → β) :
    seen (x.map f) = seen (y.map f) := by
  have hmap : ∀ z : Except Failure α, seen (z.map f) = (seen z).map f := by
    intro z
    cases z <;> rfl
  rw [hmap, hmap, h]

/-- Outcomes that are seen as the same are the same value, or failures of one kind. -/
theorem seen_cases {α : Type} {x y : Except Failure α} (h : seen x = seen y) :
    (∃ a, x = .ok a ∧ y = .ok a) ∨
      ∃ f g, x = .error f ∧ y = .error g ∧ f.kind = g.kind := by
  cases x with
  | ok a =>
    cases y with
    | ok b =>
      obtain rfl := Except.ok.inj h
      exact .inl ⟨a, rfl, rfl⟩
    | error g => cases h
  | error f =>
    cases y with
    | ok b => cases h
    | error g => exact .inr ⟨f, g, rfl, rfl, Except.error.inj h⟩

/-! ## What an edit writes -/

namespace Definition

variable {d r : Definition}

theorem IsJoined.setPayload (hd : d.IsJoined) {path payload : WideText}
    (hpath : Json.IsJoined path) (hpayload : Json.IsJoined payload) :
    (d.setPayload path payload).IsJoined := by
  obtain ⟨parts⟩ := d
  have hparts : ∀ p ∈ parts, p.IsJoined := hd
  show ∀ p ∈ setPayloadIn path payload parts, p.IsJoined
  clear hd
  induction parts with
  | nil => exact List.forall_mem_singleton.2 ⟨hpath, hpayload, Json.isJoined_widen _⟩
  | cons p rest ih =>
    obtain ⟨hp, hrest⟩ := List.forall_mem_cons.1 hparts
    rw [setPayloadIn]
    split
    · exact List.forall_mem_cons.2 ⟨⟨hp.path, hpayload, hp.payloadType⟩, hrest⟩
    · exact List.forall_mem_cons.2 ⟨hp, ih hrest⟩

theorem isJoined_path (role : Role) : Json.IsJoined role.path := by
  cases role <;> exact Json.isJoined_widen _

theorem IsJoined.setText (hd : d.IsJoined) (role : Role) (t : Text) :
    (d.setText role.path t).IsJoined :=
  hd.setPayload (isJoined_path role) (Json.isJoined_widen _)

theorem IsJoined.setMetadata (hd : d.IsJoined) {m : Metadata} (h : d.setMetadata m = .ok r) :
    r.IsJoined := by
  obtain ⟨payload, hpayload, rfl⟩ := setMetadata_eq_ok_iff.1 h
  obtain ⟨t, -, rfl⟩ := Payload.exists_of_encodeWide (Payload.encodeJson_eq_ok_iff.1 hpayload).2
  exact hd.setText .queryMetadata t

section

variable {defaults : Defaults} {ids ids' : IdSupply}

theorem IsJoined.addQuery (hd : d.IsJoined) {name code : WideText}
    {attr sectionAttr : Option WideText}
    (h : d.addQuery name code attr sectionAttr defaults ids = (.ok r, ids')) : r.IsJoined := by
  obtain ⟨_, u, _, -, -, -, hset⟩ := exists_of_addQuery h
  exact (hd.setText .mashup u).setMetadata hset

theorem IsJoined.replaceDocument (hd : d.IsJoined) {document : WideText}
    {queries : List Mashup.WideQuery}
    (h : d.replaceDocument document queries defaults ids = (.ok r, ids')) : r.IsJoined := by
  obtain ⟨t, _, -, -, hset⟩ := exists_of_setDocument h
  exact (hd.setText .mashup t).setMetadata hset

end

end Definition

/-- A change that leaves the strings joined. -/
def KeepsJoined (change : Definition → IdSupply → Except Failure Definition × IdSupply) : Prop :=
  ∀ d ids r ids', change d ids = (.ok r, ids') → d.IsJoined → r.IsJoined

/-- What a service makes of a definition is joined. -/
theorem ServiceCall.keepsJoined {c : ServiceCall}
    {change : Definition → IdSupply → Except Failure Definition × IdSupply}
    (h : c.Edits change) : KeepsJoined change := by
  intro d ids r ids' hr hd
  cases h with
  | addQuery => exact hd.addQuery hr
  | addConnections => exact hd.setMetadata (Prod.mk.inj hr).1
  | saveDocument => exact hd.replaceDocument hr
  | patchQuery =>
    obtain ⟨_, m, -, -, hset⟩ := Definition.patchQuery_eq_ok_iff.1 (Prod.mk.inj hr).1
    exact hd.setMetadata hset

/-- **An edit goes through** when its change does and what comes of it is joined. -/
theorem Desk.exists_edit {σ : Type} [DefinitionStore σ] [KeepingStore σ] {desk : Desk σ}
    {workspace dataflow : Text} {d r : Definition} {ids : IdSupply}
    (change : Definition → IdSupply → Except Failure Definition × IdSupply)
    (haccepts : KeepingStore.Accepts desk.store workspace dataflow)
    (hfetch : DefinitionStore.fetch desk.store workspace dataflow = .ok d)
    (hchange : change d desk.ids = (.ok r, ids)) (hr : r.IsJoined) :
    ∃ store, desk.edit workspace dataflow change = (.ok r, ⟨store, ids⟩) ∧
      Replaces KeepingStore.Accepts desk.store store workspace dataflow r := by
  obtain ⟨store, hpersist, hreplaces⟩ := KeepingStore.exists_persist haccepts hr
  refine ⟨store, ?_, hreplaces⟩
  rw [edit, hfetch]
  simp only [hchange, hpersist]

/-! ## Stores that are alike -/

section

variable {σ τ : Type} [DefinitionStore σ] [DefinitionStore τ] [KeepingStore σ] [KeepingStore τ]
  {keys : Text → Text → Prop}

/-- Two stores take some keys, have the same under each of them, and it is joined. -/
structure Alike (keys : Text → Text → Prop) (s : σ) (t : τ) : Prop where
  /-- The keys are taken. -/
  accepts : ∀ workspace dataflow, keys workspace dataflow →
    KeepingStore.Accepts s workspace dataflow ∧ KeepingStore.Accepts t workspace dataflow
  /-- The same is fetched. -/
  fetch : ∀ workspace dataflow, keys workspace dataflow →
    seen (DefinitionStore.fetch s workspace dataflow) =
      seen (DefinitionStore.fetch t workspace dataflow)
  /-- What is fetched is joined. -/
  joined : ∀ workspace dataflow d, keys workspace dataflow →
    DefinitionStore.fetch s workspace dataflow = .ok d → d.IsJoined

/-- Stores stay alike when one definition is written in both. -/
theorem Alike.replaces {s s' : σ} {t t' : τ} (h : Alike keys s t) {workspace dataflow : Text}
    {d : Definition} (hd : d.IsJoined)
    (hs : Replaces KeepingStore.Accepts s s' workspace dataflow d)
    (ht : Replaces KeepingStore.Accepts t t' workspace dataflow d) : Alike keys s' t' := by
  refine ⟨fun w x hkey => ?_, fun w x hkey => ?_, fun w x found hkey hfound => ?_⟩
  · rw [hs.accepts_iff, ht.accepts_iff]
    exact h.accepts w x hkey
  · by_cases hself : (w, x) = (workspace, dataflow)
    · obtain ⟨rfl, rfl⟩ := Prod.mk.inj hself
      rw [hs.fetch_self, ht.fetch_self]
    · obtain ⟨hkeys, hkeyt⟩ := h.accepts w x hkey
      rw [hs.fetch_other w x hkeys hself, ht.fetch_other w x hkeyt hself]
      exact h.fetch w x hkey
  · by_cases hself : (w, x) = (workspace, dataflow)
    · obtain ⟨rfl, rfl⟩ := Prod.mk.inj hself
      rw [hs.fetch_self] at hfound
      exact Except.ok.inj hfound ▸ hd
    · rw [hs.fetch_other w x (h.accepts w x hkey).1 hself] at hfound
      exact h.joined w x found hkey hfound

/-- Two desks with stores that are alike, and the same ids to come. -/
structure Desk.Alike (keys : Text → Text → Prop) (a : Desk σ) (b : Desk τ) : Prop where
  store : Dataflow.Alike keys a.store b.store
  ids : a.ids = b.ids

namespace Desk

variable {a : Desk σ} {b : Desk τ} {workspace dataflow : Text}

/-- **An edit is answered alike by two desks**, and leaves them alike. -/
theorem Alike.edit (h : a.Alike keys b) (hkey : keys workspace dataflow)
    {change : Definition → IdSupply → Except Failure Definition × IdSupply}
    (hchange : KeepsJoined change) :
    seen (a.edit workspace dataflow change).1 = seen (b.edit workspace dataflow change).1 ∧
      (a.edit workspace dataflow change).2.Alike keys (b.edit workspace dataflow change).2 := by
  rcases seen_cases (h.store.fetch workspace dataflow hkey) with
    ⟨d, ha, hb⟩ | ⟨f, g, ha, hb, hkind⟩
  · obtain ⟨r, ids, hr⟩ : ∃ r ids, change d a.ids = (r, ids) := ⟨_, _, rfl⟩
    have hr' : change d b.ids = (r, ids) := h.ids ▸ hr
    cases r with
    | error failure =>
      rw [Desk.edit, Desk.edit, ha, hb]
      simp only [hr, hr']
      exact ⟨trivial, h.store, rfl⟩
    | ok updated =>
      have hjoined := hchange d a.ids updated ids hr (h.store.joined workspace dataflow d hkey ha)
      obtain ⟨haccepts, haccepts'⟩ := h.store.accepts workspace dataflow hkey
      obtain ⟨s, hs, hreplaces⟩ := exists_edit change haccepts ha hr hjoined
      obtain ⟨t, ht, hreplaces'⟩ := exists_edit change haccepts' hb hr' hjoined
      rw [hs, ht]
      exact ⟨rfl, h.store.replaces hjoined hreplaces hreplaces', rfl⟩
  · rw [Desk.edit, Desk.edit, ha, hb]
    exact ⟨congrArg Except.error hkind, h⟩

/-- **A call is answered alike by two desks**, and leaves them alike. -/
theorem Alike.run (h : a.Alike keys b) (c : ServiceCall) (hkey : keys c.key.1 c.key.2) :
    seen (c.run a).1 = seen (c.run b).1 ∧ (c.run a).2.Alike keys (c.run b).2 := by
  rw [c.run_eq_carryOut, c.run_eq_carryOut]
  cases hplan : c.plan with
  | reply answer => exact ⟨rfl, h⟩
  | look => exact ⟨seen_map (seen_map (h.store.fetch _ _ hkey) _) _, h⟩
  | edit change success =>
    obtain ⟨hanswer, halike⟩ := h.edit hkey
      (ServiceCall.keepsJoined (ServiceCall.edits_of_plan hplan))
    exact ⟨seen_map hanswer success, halike⟩

end Desk

end

/-! ## Memory and disk -/

/-- A step of a run: a definition is put in place from outside, or a service is called. -/
inductive Step where
  | put (workspace dataflow : Text) (d : Definition)
  | call (c : ServiceCall)

namespace Step

/-- The workspace and the dataflow that a step is about. -/
def key : Step → Text × Text
  | put workspace dataflow _ => (workspace, dataflow)
  | call c => c.key

/-- In no string of a definition that is put in place a high half of a surrogate pair stands in
front of a low one. -/
def HasNoPair : Step → Prop
  | put _ _ d => ∀ p ∈ d.parts, ∀ s ∈ [p.path, p.payload, p.payloadType],
    s.IsChain fun x y => ¬Json.IsPair x y
  | call _ => True

theorem hasNoPair_put_iff {workspace dataflow : Text} {d : Definition} :
    (put workspace dataflow d).HasNoPair ↔ d.IsJoined := by
  refine forall₂_congr fun p _ => ?_
  simp only [List.forall_mem_cons, ← Json.isJoined_iff_isChain]
  exact ⟨fun ⟨hpath, hpayload, htype, _⟩ => ⟨hpath, hpayload, htype⟩,
    fun ⟨hpath, hpayload, htype⟩ => ⟨hpath, hpayload, htype, by simp⟩⟩

/-- A step on a store in memory; what is put there is not counted. -/
def inMemory (desk : Desk MemoryStore) :
    Step → Except Failure (Option ServiceAnswer) × Desk MemoryStore
  | put workspace dataflow d =>
    (.ok none, { desk with store := desk.store.put workspace dataflow d })
  | call c => (c.run desk).map (Except.map some) id

/-- A step on a store in a folder. -/
def onDisk (desk : Desk DiskStore) :
    Step → Except Failure (Option ServiceAnswer) × Desk DiskStore
  | put workspace dataflow d =>
    match DefinitionStore.persist desk.store workspace dataflow d with
    | .error failure => (.error failure, desk)
    | .ok store => (.ok none, { desk with store })
  | call c => (c.run desk).map (Except.map some) id

/-- **A step without a pair does the same on both stores**, and leaves them alike. -/
theorem alike {keys : Text → Text → Prop} {a : Desk MemoryStore} {b : Desk DiskStore}
    (h : a.Alike keys b) {s : Step} (hs : s.HasNoPair) (hkey : keys s.key.1 s.key.2) :
    seen (s.inMemory a).1 = seen (s.onDisk b).1 ∧
      (s.inMemory a).2.Alike keys (s.onDisk b).2 := by
  cases s with
  | put workspace dataflow d =>
    have hjoined := hasNoPair_put_iff.1 hs
    obtain ⟨store, hpersist, hreplaces⟩ :=
      KeepingStore.exists_persist (h.store.accepts workspace dataflow hkey).2 hjoined
    have hmemory := a.store.replaces_put workspace dataflow d
    simp only [inMemory, onDisk, hpersist]
    exact ⟨trivial, h.store.replaces hjoined hmemory hreplaces, h.ids⟩
  | call c =>
    obtain ⟨hanswer, halike⟩ := h.run c hkey
    exact ⟨seen_map hanswer some, halike⟩

end Step

/-- A key of two names. -/
def IsKey (workspace dataflow : Text) : Prop :=
  DiskStore.isName workspace = true ∧ DiskStore.isName dataflow = true

/-- Two steps that were answered alike, and after which the same is fetched under every key. -/
structure SameStep (m : Event Step (Except Failure (Option ServiceAnswer)) (Desk MemoryStore))
    (d : Event Step (Except Failure (Option ServiceAnswer)) (Desk DiskStore)) : Prop where
  /-- The same value, or failures of one kind. -/
  answer : seen m.answer = seen d.answer
  /-- The same definition, or none, under every key. -/
  fetch : ∀ workspace dataflow, IsKey workspace dataflow →
    seen (DefinitionStore.fetch m.after.store workspace dataflow) =
      seen (DefinitionStore.fetch d.after.store workspace dataflow)

/-- **A step that does the same on both stores has no pair**: what is read from the folder has
none, and the store in memory has what was put there. -/
theorem SameStep.hasNoPair {a : Desk MemoryStore} {b : Desk DiskStore} {s : Step}
    (hkey : IsKey s.key.1 s.key.2)
    (h : SameStep (eventOf Step.inMemory a s) (eventOf Step.onDisk b s)) : s.HasNoPair := by
  cases s with
  | put workspace dataflow d =>
    have hput : DefinitionStore.fetch (a.store.put workspace dataflow d) workspace dataflow =
        .ok d := (a.store.replaces_put workspace dataflow d).fetch_self
    have hsame := h.fetch workspace dataflow hkey
    rw [show (eventOf Step.inMemory a (.put workspace dataflow d)).after.store =
      a.store.put workspace dataflow d from rfl] at hsame
    rcases seen_cases hsame with ⟨r, hmemory, hdisk⟩ | ⟨failure, _, hmemory, -, -⟩
    · obtain rfl := Except.ok.inj (hput.symm.trans hmemory)
      exact Step.hasNoPair_put_iff.2 (DiskStore.isJoined_of_read hdisk)
    · rw [hput] at hmemory
      cases hmemory
  | call c => trivial

/-- Empty stores have nothing under any key. -/
theorem alike_empty {root : Path} (hroot : '\x00' ∉ root.toText) (ids : IdSupply) :
    Desk.Alike IsKey (⟨MemoryStore.empty, ids⟩ : Desk MemoryStore)
      (⟨⟨root, .empty⟩, ids⟩ : Desk DiskStore) := by
  have hplace : ∀ workspace dataflow, IsKey workspace dataflow →
      ∃ place, DiskStore.placeFor ⟨root, .empty⟩ workspace dataflow = .ok place :=
    fun _ _ hkey => DiskStore.exists_placeFor hroot hkey.1 hkey.2
  refine ⟨⟨fun w x hkey => ⟨trivial, hplace w x hkey⟩, fun w x hkey => ?_,
    fun w x d hkey hd => by cases hd⟩, rfl⟩
  obtain ⟨place, hplace⟩ := hplace w x hkey
  have hmemory : DefinitionStore.fetch MemoryStore.empty w x = .error (.missingDefinition w x) :=
    rfl
  have hdisk : DefinitionStore.fetch (DiskStore.mk root .empty) w x =
      .error (.missingFile place) := by
    show DiskStore.read _ w x = _
    rw [DiskStore.read, hplace]
    rfl
  rw [hmemory, hdisk]
  rfl

/-- From stores that are alike, the runs are the same up to the first step with a pair. -/
theorem Desk.Alike.forall₂_trace_iff {a : Desk MemoryStore} {b : Desk DiskStore}
    (h : a.Alike IsKey b) {steps : List Step} (hkeys : ∀ s ∈ steps, IsKey s.key.1 s.key.2) :
    List.Forall₂ SameStep (trace Step.inMemory a steps) (trace Step.onDisk b steps) ↔
      ∀ s ∈ steps, s.HasNoPair := by
  induction steps generalizing a b with
  | nil => exact iff_of_true .nil fun s hs => absurd hs List.not_mem_nil
  | cons s steps ih =>
    obtain ⟨hkey, hkeys⟩ := List.forall_mem_cons.1 hkeys
    rw [trace, trace, List.forall₂_cons, List.forall_mem_cons]
    constructor
    · rintro ⟨hsame, hrest⟩
      have hs := hsame.hasNoPair hkey
      exact ⟨hs, (ih (Step.alike h hs hkey).2 hkeys).1 hrest⟩
    · rintro ⟨hs, hsteps⟩
      obtain ⟨hanswer, halike⟩ := Step.alike h hs hkey
      exact ⟨⟨hanswer, halike.store.fetch⟩, (ih halike hkeys).2 hsteps⟩

/-- **The two stores are interchangeable as long as no pair is put in place.**  From empty stores
on, and with the same ids to come, every step does the same on both, and every key has the same
definition after it, exactly when no definition that is put in place has the two halves of a
surrogate pair next to each other. -/
theorem interchangeable_iff {root : Path} (hroot : '\x00' ∉ root.toText) (ids : IdSupply)
    {steps : List Step} (hkeys : ∀ s ∈ steps, IsKey s.key.1 s.key.2) :
    List.Forall₂ SameStep (trace Step.inMemory ⟨MemoryStore.empty, ids⟩ steps)
        (trace Step.onDisk ⟨⟨root, .empty⟩, ids⟩ steps) ↔
      ∀ s ∈ steps, s.HasNoPair :=
  (alike_empty hroot ids).forall₂_trace_iff hkeys

/-- A part whose path has a carriage return, a character beyond the first plane and half of a
pair. -/
def sampleParts : List Part :=
  [⟨[.scalar '\r', .scalar '\x7f', .scalar '😀', .surrogate 3], wide "é\"\\", inlineBase64⟩]

/-- A definition that is not there yet, is put in place, gets a query, and has no entry for
another one. -/
def sampleSteps : List Step :=
  [.call (.view (text "w") (text "d")),
    .put (text "w") (text "d") ⟨sampleParts⟩,
    .call (.addQuery (text "w") (text "d") (wide "A") (wide "let x = 1 in x") none none .standard),
    .call (.patchQuery (text "w") (text "d") (wide "B") ⟨some true, none, none⟩)]

theorem interchangeable_iff_sampleSteps :
    (trace Step.inMemory ⟨MemoryStore.empty, .ofSequence fun _ => wide "id"⟩ sampleSteps).map
        (fun e => (seen e.answer).toOption.isSome) = [false, true, true, false] ∧
      List.Forall₂ SameStep
        (trace Step.inMemory ⟨MemoryStore.empty, .ofSequence fun _ => wide "id"⟩ sampleSteps)
        (trace Step.onDisk ⟨⟨Path.ofText (text "store"), .empty⟩, .ofSequence fun _ => wide "id"⟩
          sampleSteps) := by
  have hkey : IsKey (text "w") (text "d") := ⟨rfl, rfl⟩
  have hkeys : ∀ s ∈ sampleSteps, IsKey s.key.1 s.key.2 := by
    simp only [sampleSteps, List.forall_mem_cons]
    exact ⟨hkey, hkey, hkey, hkey, by simp⟩
  have hjoined : (Definition.mk sampleParts).IsJoined :=
    List.forall_mem_singleton.2 ⟨rfl, Json.isJoined_widen _, Json.isJoined_widen _⟩
  have hpairs : ∀ s ∈ sampleSteps, s.HasNoPair := by
    simp only [sampleSteps, List.forall_mem_cons]
    exact ⟨trivial, Step.hasNoPair_put_iff.2 hjoined, trivial, trivial, by simp⟩
  exact ⟨by decide +kernel, (interchangeable_iff (by decide) _ hkeys).2 hpairs⟩

/-- A definition with a path of two halves that make a pair. -/
def pairedDefinition : Definition :=
  ⟨[⟨[.surrogate 0x3D, .surrogate 0x600], [], inlineBase64⟩]⟩

/-- The same with the character of the pair. -/
def joinedDefinition : Definition := ⟨[⟨wide "😀", [], inlineBase64⟩]⟩

/-- **The folder gives back another definition than was put there**, and the store in memory does
not. -/
theorem not_interchangeable_pairedDefinition :
    let step : Step := .put (text "w") (text "d") pairedDefinition
    let memory : Desk MemoryStore := ⟨MemoryStore.empty, .ofSequence fun _ => wide "id"⟩
    let disk : Desk DiskStore :=
      ⟨⟨Path.ofText (text "store"), .empty⟩, .ofSequence fun _ => wide "id"⟩
    DefinitionStore.fetch (step.inMemory memory).2.store (text "w") (text "d") =
        .ok pairedDefinition ∧
      DefinitionStore.fetch (step.onDisk disk).2.store (text "w") (text "d") =
        .ok joinedDefinition ∧
      ¬List.Forall₂ SameStep (trace Step.inMemory memory [step])
        (trace Step.onDisk disk [step]) := by
  intro step memory disk
  have hmemory : DefinitionStore.fetch (step.inMemory memory).2.store (text "w") (text "d") =
      .ok pairedDefinition := rfl
  have hfetched : (DefinitionStore.fetch (step.onDisk disk).2.store (text "w")
      (text "d")).toOption = some joinedDefinition := by decide +kernel
  have hdisk : DefinitionStore.fetch (step.onDisk disk).2.store (text "w") (text "d") =
      .ok joinedDefinition := by
    cases hr : DefinitionStore.fetch (step.onDisk disk).2.store (text "w") (text "d") with
    | error failure =>
      rw [hr] at hfetched
      cases hfetched
    | ok d =>
      rw [hr] at hfetched
      exact congrArg Except.ok (Option.some.inj hfetched)
  refine ⟨hmemory, hdisk, fun h => ?_⟩
  obtain ⟨hsame, -⟩ := List.forall₂_cons.1 h
  have hfetch := hsame.fetch (text "w") (text "d") ⟨rfl, rfl⟩
  simp only [eventOf, hmemory, hdisk] at hfetch
  exact absurd (Except.ok.inj hfetch) (by decide)

end Dataflow
