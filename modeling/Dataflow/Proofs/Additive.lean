import Dataflow.Proofs.Registration

/-!
# Registering adds, and disturbs nothing

Registering a query touches two entries, its own and that of the query to which its data goes; the
two may be one.  An entry that is there and is an object loses nothing: its own gets what it does
not say about loading, and the other is hidden.  Everything else stays what it is and where it is.
`Keeps` says so of some names, and it composes, so that two entries are no harder than one.

Both changes leave an entry alone that they have been made to, and the second of them does not undo
the first.  So a query that is registered once more finds its entries as it would leave them, and no
id is drawn.  `register_adds_once` is both halves in one.
-/

set_option autoImplicit false

namespace Dataflow
namespace Metadata

/-! ## Entries of other names -/

/-- The entries of all but some names stay what they are, all entries stay where they are, and what
comes behind them has one of the names. -/
structure Keeps (names : List WideText) (entries entries' : Fields) : Prop where
  /-- Entries of other names stay. -/
  others : ∀ (i : Nat) (f : WideText × Json), entries[i]? = some f → f.1 ∉ names →
    entries'[i]? = some f
  /-- New entries come behind, and have one of the names. -/
  places : ∃ added, Fields.keys entries' = Fields.keys entries ++ added ∧ ∀ key ∈ added, key ∈ names

theorem Keeps.trans {names : List WideText} {entries entries' entries'' : Fields}
    (h : Keeps names entries entries') (h' : Keeps names entries' entries'') :
    Keeps names entries entries'' where
  others i f hf hname := h'.others i f (h.others i f hf hname) hname
  places := by
    obtain ⟨added, hkeys, hadded⟩ := h.places
    obtain ⟨added', hkeys', hadded'⟩ := h'.places
    exact ⟨added ++ added', by rw [hkeys', hkeys, List.append_assoc],
      List.forall_mem_append.2 ⟨hadded, hadded'⟩⟩

theorem keeps_set {names : List WideText} (entries : Fields) {key : WideText} (h : key ∈ names)
    (entry : Json) : Keeps names entries (Fields.set entries key entry) where
  others i f hf hname := Fields.getElem?_set_other hf (fun heq => hname (heq ▸ h)) entry
  places := by
    rw [Fields.keys_set]
    split
    · exact ⟨[], (List.append_nil _).symm, List.forall_mem_nil _⟩
    · exact ⟨[key], rfl, List.forall_mem_singleton.2 h⟩

/-! ## Entering a name -/

/-- The fields of an entry with what they do not say about loading. -/
def loaded (defaults : Defaults) (fields : Fields) : Fields :=
  Fields.setIfMissing fields (wide "loadEnabled") (.bool defaults.loadEnabled)

/-- The fields of an entry that is hidden. -/
def concealed (fields : Fields) : Fields := Fields.set fields (wide "isHidden") (.bool true)

section

variable {entries : Fields} {name : WideText} {defaults : Defaults} {ids : IdSupply}
  {change : Fields → Fields} {hidden : Bool}

/-- Entering a name sets its entry, and an entry is an object. -/
theorem enter_fst_eq (change : Fields → Fields) (hidden : Bool) (entries : Fields) (name : WideText)
    (defaults : Defaults) (ids : IdSupply) :
    ∃ fields, (enter change hidden entries name defaults ids).1 =
        Fields.set entries name (.object fields) ∧
      ((∃ old, Fields.get? entries name = some (.object old) ∧ fields = change old) ∨
        .object fields = newEntry name ids.draw.1 defaults hidden) := by
  rcases enter_cases (Prod.eta (enter change hidden entries name defaults ids)).symm with
    ⟨old, hold, heq, -⟩ | ⟨-, heq, -⟩
  · exact ⟨change old, heq, .inl ⟨old, hold, rfl⟩⟩
  · exact ⟨_, heq, .inr rfl⟩

theorem enter_keeps {names : List WideText} (h : name ∈ names) :
    Keeps names entries (enter change hidden entries name defaults ids).1 := by
  obtain ⟨fields, heq, -⟩ := enter_fst_eq change hidden entries name defaults ids
  rw [heq]
  exact keeps_set entries h _

theorem get?_enter_object {fields : Fields}
    (h : Fields.get? entries name = some (.object fields)) :
    Fields.get? (enter change hidden entries name defaults ids).1 name =
      some (.object (change fields)) := by
  rw [enter]
  simp only [h, Fields.get?_set_self]

theorem get?_enter_other {key : WideText} (h : key ≠ name) :
    Fields.get? (enter change hidden entries name defaults ids).1 key =
      Fields.get? entries key := by
  obtain ⟨fields, heq, -⟩ := enter_fst_eq change hidden entries name defaults ids
  rw [heq, Fields.get?_set_other h]

/-- An entry that would be changed to what it is stays, and no id is drawn. -/
theorem enter_of_unchanged {fields : Fields}
    (h : Fields.get? entries name = some (.object fields))
    (hsame : change fields = fields) :
    enter change hidden entries name defaults ids = (entries, ids) := by
  rw [enter]
  simp only [h, hsame, Fields.set_of_get? h]

/-! ## When there is nothing to do -/

/-- An entry is an object that says whether its query is loaded. -/
def IsLoaded (entries : Fields) (name : WideText) : Prop :=
  ∃ fields, Fields.get? entries name = some (.object fields) ∧
    wide "loadEnabled" ∈ Fields.keys fields

/-- An entry is an object that says that its query is hidden. -/
def IsConcealed (entries : Fields) (name : WideText) : Prop :=
  ∃ fields, Fields.get? entries name = some (.object fields) ∧
    Fields.get? fields (wide "isHidden") = some (.bool true)

theorem touch_of_loaded (h : IsLoaded entries name) :
    touch entries name defaults ids = (entries, ids) := by
  obtain ⟨fields, hfields, hmem⟩ := h
  exact enter_of_unchanged hfields (Fields.setIfMissing_of_mem hmem _)

theorem hide_of_concealed (h : IsConcealed entries name) :
    hide entries name defaults ids = (entries, ids) := by
  obtain ⟨fields, hfields, hhidden⟩ := h
  exact enter_of_unchanged hfields (Fields.set_of_get? hhidden)

theorem isLoaded_touch (entries : Fields) (name : WideText) (defaults : Defaults) (ids : IdSupply) :
    IsLoaded (touch entries name defaults ids).1 name := by
  obtain ⟨fields, heq, hfields⟩ := enter_fst_eq (loaded defaults) false entries name defaults ids
  refine ⟨fields, (congrArg (Fields.get? · _) heq).trans (Fields.get?_set_self _ _ _), ?_⟩
  rcases hfields with ⟨old, -, rfl⟩ | hnew
  · rw [loaded]
    rcases Fields.setIfMissing_cases old (wide "loadEnabled") (.bool defaults.loadEnabled) with
      ⟨hmem, hold⟩ | ⟨-, hset⟩
    · rwa [hold]
    · rw [hset, Fields.mem_keys_set]
      exact .inr rfl
  · obtain rfl := Json.object.inj hnew
    simp [Fields.keys]

theorem isConcealed_hide (entries : Fields) (name : WideText) (defaults : Defaults)
    (ids : IdSupply) :
    IsConcealed (hide entries name defaults ids).1 name := by
  obtain ⟨fields, heq, hfields⟩ := enter_fst_eq concealed true entries name defaults ids
  refine ⟨fields, (congrArg (Fields.get? · _) heq).trans (Fields.get?_set_self _ _ _), ?_⟩
  rcases hfields with ⟨old, -, rfl⟩ | hnew
  · exact Fields.get?_set_self _ _ _
  · obtain rfl := Json.object.inj hnew
    rfl

/-- Hiding a query takes nothing away that an entry says about loading. -/
theorem IsLoaded.hide (h : IsLoaded entries name) (target : WideText) (defaults : Defaults)
    (ids : IdSupply) : IsLoaded (hide entries target defaults ids).1 name := by
  obtain ⟨fields, hfields, hmem⟩ := h
  by_cases heq : name = target
  · subst heq
    exact ⟨concealed fields, get?_enter_object hfields, Fields.mem_keys_set.2 (.inl hmem)⟩
  · exact ⟨fields, (get?_enter_other heq).trans hfields, hmem⟩

end

/-! ## Registering a query -/

/-- The names of a query and of the query to which its data goes. -/
def involved (name : WideText) (destination : Option WideText) : List WideText :=
  name :: destination.toList

/-- What registering a query does to metadata that is there: its two entries lose nothing, and all
else stays. -/
structure Adds (m m' : Metadata) (name : WideText) (destination : Option WideText)
    (defaults : Defaults) :
    Prop where
  /-- The entries are there. -/
  stored : Fields.get? m' entriesKey = some (.object m'.entriesOf)
  /-- Entries of other names stay what they are and where they are. -/
  keeps : Keeps (involved name destination) m.entriesOf m'.entriesOf
  /-- The entry of the query gets what it does not say about loading; a query that sends its data
  to itself is hidden. -/
  query : ∀ fields, Fields.get? m.entriesOf name = some (.object fields) →
    Fields.get? m'.entriesOf name = some (.object
      (if destination = some name then concealed (loaded defaults fields)
        else loaded defaults fields))
  /-- The entry of the destination is hidden. -/
  target : ∀ target fields, destination = some target → target ≠ name →
    Fields.get? m.entriesOf target = some (.object fields) →
    Fields.get? m'.entriesOf target = some (.object (concealed fields))
  /-- Of the other fields, only the locale is added. -/
  fields : KeepsFields m m' defaults

section

variable {m : Metadata} {name : WideText} {destination : Option WideText} {defaults : Defaults}
  {ids : IdSupply}

/-- What registering comes to when the destination, if there is one, has a name. -/
theorem register_fst_eq (m : Metadata) (name : WideText) (h : destination ≠ some [])
    (defaults : Defaults) (ids : IdSupply) :
    ∃ entries, (m.register name destination defaults ids).1 =
        Fields.set (m.withLocale defaults) entriesKey (.object entries) ∧
      ((destination = none ∧ entries = (touch m.entriesOf name defaults ids).1) ∨
        ∃ target, destination = some target ∧ entries =
          (hide (touch m.entriesOf name defaults ids).1 target defaults
            (touch m.entriesOf name defaults ids).2).1) := by
  obtain ⟨touched, after, entries, htouch, hm, hrest⟩ :=
    register_cases (Prod.eta (m.register name destination defaults ids)).symm
  have hfilter : destination.filter (fun target => !target.isEmpty) = destination := by
    rcases destination with _ | ⟨_ | ⟨c, rest⟩⟩
    · rfl
    · exact absurd rfl h
    · rfl
  rw [hfilter] at hrest
  refine ⟨entries, hm, ?_⟩
  rw [htouch]
  rcases hrest with ⟨hnone, heq, -⟩ | ⟨target, hsome, hhide⟩
  · exact .inl ⟨hnone, heq⟩
  · exact .inr ⟨target, hsome, (congrArg Prod.fst hhide).symm⟩

/-- **Registering disturbs nothing.** -/
theorem adds_register (h : destination ≠ some []) :
    Adds m (m.register name destination defaults ids).1 name destination defaults := by
  obtain ⟨entries, heq, hentries⟩ := register_fst_eq m name h defaults ids
  have htouch : Keeps (involved name destination) m.entriesOf
      (touch m.entriesOf name defaults ids).1 := enter_keeps List.mem_cons_self
  have hloaded : ∀ fields, Fields.get? m.entriesOf name = some (.object fields) →
      Fields.get? (touch m.entriesOf name defaults ids).1 name =
        some (.object (loaded defaults fields)) := fun fields hfields => get?_enter_object hfields
  rw [heq]
  refine ⟨?_, ?_, fun fields hfields => ?_, fun target fields hdestination hne hfields => ?_,
    keepsFields_set_entries m _ defaults⟩
  · rw [entriesOf_set, Fields.get?_set_self]
  · rw [entriesOf_set]
    rcases hentries with ⟨-, rfl⟩ | ⟨target, rfl, rfl⟩
    · exact htouch
    · exact htouch.trans (enter_keeps (List.mem_cons_of_mem _ List.mem_cons_self))
  · rw [entriesOf_set]
    rcases hentries with ⟨rfl, rfl⟩ | ⟨target, rfl, rfl⟩
    · exact hloaded fields hfields
    · by_cases hself : target = name
      · subst hself
        rw [if_pos rfl]
        exact get?_enter_object (hloaded fields hfields)
      · rw [if_neg fun hsome => hself (Option.some.inj hsome)]
        exact (get?_enter_other (Ne.symm hself)).trans (hloaded fields hfields)
  · rw [entriesOf_set]
    rcases hentries with ⟨hnone, -⟩ | ⟨target', hsome, rfl⟩
    · rw [hnone] at hdestination
      cases hdestination
    · obtain rfl : target' = target := Option.some.inj (hsome.symm.trans hdestination)
      exact get?_enter_object ((get?_enter_other hne).trans hfields)

/-- **Registering a query again changes nothing**, and no id is drawn. -/
theorem register_register (h : destination ≠ some []) (other : IdSupply) :
    (m.register name destination defaults ids).1.register name destination defaults other =
      ((m.register name destination defaults ids).1, other) := by
  obtain ⟨entries, heq, hentries⟩ := register_fst_eq m name h defaults ids
  have hset : Fields.set (Fields.set (m.withLocale defaults) entriesKey (.object entries))
      entriesKey (.object entries) =
        Fields.set (m.withLocale defaults) entriesKey (.object entries) :=
    Fields.set_of_get? (Fields.get?_set_self _ _ _)
  have hloaded := isLoaded_touch m.entriesOf name defaults ids
  rw [heq, register, withLocale_set_entries, entriesOf_set]
  rcases hentries with ⟨rfl, rfl⟩ | ⟨target, rfl, rfl⟩
  · rw [touch_of_loaded hloaded]
    exact congrArg (·, other) hset
  · have hboth := hloaded.hide target defaults (touch m.entriesOf name defaults ids).2
    have hconcealed := isConcealed_hide (touch m.entriesOf name defaults ids).1 target defaults
      (touch m.entriesOf name defaults ids).2
    rw [touch_of_loaded hboth]
    cases target with
    | nil => exact absurd rfl h
    | cons c rest =>
      simp only [hide_of_concealed hconcealed]
      exact congrArg (·, other) hset

/-- **Registering adds to metadata, whatever this looks like, and disturbs nothing in it.**  Done
again with the same names and defaults, it changes nothing and draws no id. -/
theorem register_adds_once (m : Metadata) (name : WideText) (h : destination ≠ some [])
    (defaults : Defaults) (ids : IdSupply) :
    Adds m (m.register name destination defaults ids).1 name destination defaults ∧
      ∀ other, (m.register name destination defaults ids).1.register name destination defaults
        other = ((m.register name destination defaults ids).1, other) :=
  ⟨adds_register h, register_register h⟩

end

/-- The numbers as ids. -/
def countedIds : IdSupply := .ofSequence fun n => Text.widen (decimal n)

/-- Metadata with entries of several kinds, of which only the first and the last are objects. -/
def mixedMetadata : Metadata :=
  [(wide "version", .int 3), (entriesKey, .object
    [(wide "A", .object [(wide "queryId", .int 7), (wide "note", .null)]),
      (wide "B", .string (wide "text")), (wide "C", .null),
      (wide "Out", .object [(wide "isHidden", .bool false), (wide "loadEnabled", .bool true)])])]

theorem register_adds_once_mixedMetadata :
    some (wide "Out") ≠ some [] ∧
      Adds mixedMetadata
        (mixedMetadata.register (wide "A") (some (wide "Out")) .standard countedIds).1
        (wide "A") (some (wide "Out")) .standard ∧
      (mixedMetadata.register (wide "A") (some (wide "Out")) .standard countedIds).1 =
        [(wide "version", .int 3), (entriesKey, .object
          [(wide "A", .object [(wide "queryId", .int 7), (wide "note", .null),
              (wide "loadEnabled", .bool false)]),
            (wide "B", .string (wide "text")), (wide "C", .null),
            (wide "Out", .object
              [(wide "isHidden", .bool true), (wide "loadEnabled", .bool true)])]),
          (localeKey, .string (wide "en-US"))] := by
  have hdestination : some (wide "Out") ≠ some [] := by decide
  have h := register_adds_once mixedMetadata (wide "A") hdestination .standard countedIds
  exact ⟨hdestination, h.1, rfl⟩

end Metadata
end Dataflow
