import Dataflow.Proofs.Listing
import Dataflow.Proofs.Registration

/-!
# Listing connections only appends

Each binding is looked up in a list that grows while the bindings are gone through.  What the
look-up finds in a list it finds in every longer one, because it asks whether some entry is the
right one (`Connection.Lists.of_longer`).  Two things follow.  A binding whose turn has come is
listed from then on, whether it was found or its entry was appended.  And when all of some bindings
are listed, going through them again, in any selection and order, appends nothing.

Entries of the list may be anything.  They are only asked for their ids, and stay what they are.
`Metadata.Enlists` says all this of the metadata as a whole, and `Metadata.connect_appends_once`
proves it.
-/

set_option autoImplicit false

namespace Dataflow

namespace Connection

variable {connections : List Json} {bindings : List Binding} {b : Binding}

/-! ## A list that grows -/

/-- The binding is listed, in whichever form. -/
def Lists (connections : List Json) (b : Binding) : Prop :=
  isListed connections b.id (storedId b.id b.cluster) = true

/-- What is listed stays listed. -/
theorem Lists.of_longer {longer : List Json} (h : Lists connections b)
    (hlonger : connections <+: longer) : Lists longer b := by
  obtain ⟨more, rfl⟩ := hlonger
  rw [Lists, isListed_append, show isListed connections b.id _ = true from h, Bool.true_or]

/-- The entry of a binding lists it. -/
theorem lists_concat_entryOf (connections : List Json) (b : Binding) :
    Lists (connections ++ [entryOf b]) b := by
  have hentry : isEntryOf b.id (storedId b.id b.cluster) (entryOf b) = true :=
    (isEntryOf_entryOf_iff b b.cluster).2 (.inr (.inr rfl))
  rw [Lists, isListed_append, isListed, isListed, List.any_cons, hentry, Bool.true_or, Bool.or_true]

/-! ## One binding -/

/-- A binding is listed once its turn has come. -/
theorem lists_enlist (connections : List Json) (b : Binding) : Lists (enlist connections b) b := by
  rw [enlist]
  split
  · assumption
  · exact lists_concat_entryOf connections b

/-- Nothing is done for a binding that is listed. -/
theorem enlist_of_lists (h : Lists connections b) : enlist connections b = connections := if_pos h

/-! ## Several bindings -/

theorem prefix_foldl_enlist (connections : List Json) (bindings : List Binding) :
    connections <+: bindings.foldl enlist connections := by
  rw [foldl_enlist]
  exact List.prefix_append _ _

/-- **All bindings are listed in the end.** -/
theorem lists_foldl_enlist (connections : List Json) (bindings : List Binding) :
    ∀ b ∈ bindings, Lists (bindings.foldl enlist connections) b := by
  induction bindings generalizing connections with
  | nil => exact fun b hb => absurd hb List.not_mem_nil
  | cons b rest ih =>
    refine List.forall_mem_cons.2 ⟨?_, ih _⟩
    exact (lists_enlist connections b).of_longer (prefix_foldl_enlist _ rest)

/-- **Nothing is done for bindings that are all listed.** -/
theorem foldl_enlist_of_lists (h : ∀ b ∈ bindings, Lists connections b) :
    bindings.foldl enlist connections = connections := by
  induction bindings with
  | nil => rfl
  | cons b rest ih =>
    obtain ⟨hb, hrest⟩ := List.forall_mem_cons.1 h
    rw [List.foldl_cons, enlist_of_lists hb, ih hrest]

/-! ## The bindings whose entries are new -/

theorem admitted_sublist (connections : List Json) (bindings : List Binding) :
    (admitted connections bindings).Sublist bindings := by
  induction bindings generalizing connections with
  | nil => exact .slnil
  | cons b rest ih =>
    rw [admitted]
    split
    · exact (ih connections).cons b
    · exact (ih _).cons_cons b

/-- A binding that gets an entry is not listed by anything in front of this. -/
theorem not_lists_of_admitted {front behind : List Binding}
    (h : admitted connections bindings = front ++ b :: behind) :
    ¬Lists (connections ++ front.map entryOf) b := by
  induction bindings generalizing connections front with
  | nil => simp [admitted] at h
  | cons c rest ih =>
    rw [admitted] at h
    split at h
    · exact ih h
    · rename_i hc
      cases front with
      | nil =>
        obtain ⟨rfl, -⟩ := List.cons.inj h
        rw [List.map_nil, List.append_nil]
        exact hc
      | cons d front =>
        obtain ⟨rfl, htail⟩ := List.cons.inj h
        rw [List.map_cons, List.append_cons]
        exact ih htail

end Connection

/-! ## Metadata -/

namespace Metadata

open Connection

/-- What listing connections does to metadata that is there. -/
structure Enlists (m m' : Metadata) (bindings : List Binding) (defaults : Defaults) : Prop where
  /-- There is a list of connections. -/
  stored : Fields.get? m' connectionsKey = some (.array m'.connectionsOf)
  /-- It is the list that was there, with the entries of some of the bindings behind it, in their
  order; none of these was listed by what is in front of its entry. -/
  appended : ∃ added : List Binding, added.Sublist bindings ∧
    m'.connectionsOf = m.connectionsOf ++ added.map entryOf ∧
    ∀ front b behind, added = front ++ b :: behind →
      ¬Lists (m.connectionsOf ++ front.map entryOf) b
  /-- All bindings are listed. -/
  listed : ∀ b ∈ bindings, Lists m'.connectionsOf b
  /-- Another field has the value it had. -/
  others : ∀ key, key ≠ connectionsKey → key ≠ localeKey → Fields.get? m' key = Fields.get? m key
  /-- The locale is the one that was there, if one was. -/
  locale : Fields.get? m' localeKey =
    some ((Fields.get? m localeKey).getD (.string (Text.widen defaults.locale)))
  /-- All fields stay where they are. -/
  places : Fields.keys m <+: Fields.keys m'

variable {m : Metadata} {bindings : List Binding} {defaults : Defaults}

/-- What listing connections comes to. -/
theorem connect_eq_set (m : Metadata) (bindings : List Binding) (defaults : Defaults) :
    m.connect bindings defaults = Fields.set (m.withLocale defaults) connectionsKey
      (.array (bindings.foldl enlist m.connectionsOf)) := by
  rw [connect, connectionsOf_withLocale]

/-- **Listing connections appends to their list and leaves the other fields alone.** -/
theorem enlists_connect (m : Metadata) (bindings : List Binding) (defaults : Defaults) :
    Enlists m (m.connect bindings defaults) bindings defaults where
  stored := by rw [connectionsOf_connect, connect_eq_set, Fields.get?_set_self]
  appended := by
    refine ⟨admitted m.connectionsOf bindings, admitted_sublist _ _, ?_, fun _ _ _ h => ?_⟩
    · rw [connectionsOf_connect, foldl_enlist]
    · exact not_lists_of_admitted h
  listed := by
    rw [connectionsOf_connect]
    exact lists_foldl_enlist m.connectionsOf bindings
  others key hconnections hlocale := by
    rw [connect_eq_set, get?_set_withLocale m _ defaults hconnections hlocale]
  locale := by rw [connect_eq_set, locale_set_withLocale m _ defaults (by decide)]
  places := by
    rw [connect_eq_set]
    exact keys_prefix_set_withLocale m _ defaults

/-- **Listing connections that are listed changes nothing**, whatever the defaults are then. -/
theorem connect_connect {again : List Binding} (h : ∀ b ∈ again, b ∈ bindings) (other : Defaults) :
    (m.connect bindings defaults).connect again other = m.connect bindings defaults := by
  have hnothing : again.foldl enlist (m.connect bindings defaults).connectionsOf =
      (m.connect bindings defaults).connectionsOf :=
    foldl_enlist_of_lists fun b hb => (enlists_connect m bindings defaults).listed b (h b hb)
  have hlocale : (m.connect bindings defaults).withLocale other = m.connect bindings defaults := by
    rw [connect_eq_set, withLocale_set (by decide)]
  rw [connect_eq_set _ again, hnothing, hlocale]
  exact Fields.set_of_get? (enlists_connect m bindings defaults).stored

/-- **Listing connections appends, and does so once**: done again with bindings of the same call,
it changes nothing. -/
theorem connect_appends_once (m : Metadata) (bindings : List Binding) (defaults : Defaults) :
    Enlists m (m.connect bindings defaults) bindings defaults ∧
      ∀ again, (∀ b ∈ again, b ∈ bindings) → ∀ other,
        (m.connect bindings defaults).connect again other = m.connect bindings defaults :=
  ⟨enlists_connect m bindings defaults, fun _ h => connect_connect h⟩

/-- Connections of several kinds: only the last three have an id, which is nothing, a number and a
list. -/
def mixedConnections : List Json :=
  [.null, .string (wide "b"), .object [(wide "kind", .string (wide "Web"))],
    .object [(wide "connectionId", .null)], .object [(wide "connectionId", .int 7)],
    .object [(wide "connectionId", .array [.bool true])]]

/-- Bindings of which two are listed among them, two are new, and one is found in the entry of
another. -/
def sampleBindings : List Binding :=
  [⟨wide "7", wide "SQL", wide "srv;db", none⟩, ⟨wide "b", wide "Web", wide "https://x", none⟩,
    ⟨[], wide "Web", wide "https://y", some (wide "g")⟩,
    ⟨wide "a", wide "SQL", wide "srv;a", some (wide "g")⟩, ⟨wide "a", wide "SQL", [], none⟩]

theorem connect_appends_once_mixedConnections :
    let m : Metadata := [(connectionsKey, .array mixedConnections), (wide "version", .int 3)]
    let added : List Binding := [⟨wide "b", wide "Web", wide "https://x", none⟩,
      ⟨wide "a", wide "SQL", wide "srv;a", some (wide "g")⟩]
    let again := sampleBindings.reverse
    (∀ b ∈ again, b ∈ sampleBindings) ∧
      m.connect sampleBindings .standard =
        [(connectionsKey, .array (mixedConnections ++ added.map entryOf)), (wide "version", .int 3),
          (localeKey, .string (wide "en-US"))] ∧
      Enlists m (m.connect sampleBindings .standard) sampleBindings .standard ∧
      (m.connect sampleBindings .standard).connect again ⟨text "fr-FR", true⟩ =
        m.connect sampleBindings .standard := by
  intro m added again
  have hagain : ∀ b ∈ again, b ∈ sampleBindings := fun b hb => List.mem_reverse.1 hb
  have hadded : admitted mixedConnections sampleBindings = added := by decide +kernel
  have hlisted : sampleBindings.foldl enlist m.connectionsOf =
      mixedConnections ++ added.map entryOf := by
    rw [foldl_enlist]
    exact congrArg (fun l => mixedConnections ++ l.map entryOf) hadded
  obtain ⟨henlists, honce⟩ := connect_appends_once m sampleBindings .standard
  refine ⟨hagain, ?_, henlists, honce again hagain _⟩
  rw [connect_eq_set, hlisted]
  rfl

end Metadata
end Dataflow
