import Dataflow.Proofs.Listing

/-!
# Which entries an id is found in

An ordinary id has no quote in it, and a composite id shows it as it is.  So it can be told from an
entry whose connection the entry lists, with or without a cluster, and a search for an ordinary id
finds the entries of that id and no others (`Connection.isListed_iff_eq`).  The clusters do not
matter, neither the one in the entry nor the one that is asked for, and neither do the other fields
of the entry.
-/

set_option autoImplicit false

namespace Dataflow
namespace Connection

variable {id other : WideText}

theorem IsOrdinary.quote_not_mem (h : IsOrdinary id) : quotePoint ∉ id :=
  fun hmem => Bool.false_ne_true (h quotePoint hmem)

/-- A composite id has quotes in it, so it is no ordinary id. -/
theorem IsOrdinary.ne_composite (h : IsOrdinary id) {cluster : WideText} (hcluster : cluster ≠ [])
    (other : WideText) : id ≠ storedId other (some cluster) := by
  rintro rfl
  refine h.quote_not_mem ?_
  have hhead : quotePoint ∈ compositeHead := by decide
  rw [storedId_some hcluster]
  exact List.mem_append_left _ hhead

/-- Nothing is found in an ordinary id, since what is searched for has quotes around it. -/
theorem IsOrdinary.not_idFragment_infix (h : IsOrdinary id) (other : WideText) :
    ¬idFragment other <:+: id := by
  intro hfound
  have hhead : quotePoint ∈ idFragment other := List.mem_cons_self
  exact h.quote_not_mem (hfound.subset hhead)

/-- **What is searched for is found in the composite ids of one connection**, whatever their
cluster. -/
theorem idFragment_infix_composite_iff (hid : IsOrdinary id) {cluster : WideText}
    (hcluster : cluster ≠ []) (other : WideText) :
    idFragment other <:+: storedId id (some cluster) ↔ id = other := by
  rw [idFragment_infix_storedId_iff hcluster, Json.escaped_of_isOrdinary hid]
  constructor
  · rintro ⟨rest, hrest⟩
    -- behind the id there is one quote, so it is the one that is searched for
    have hsplit : id ++ quotePoint :: wide "\x7d" = other ++ quotePoint :: rest := by
      rw [List.append_cons other, hrest]
      rfl
    exact ((List.append_cons_inj_of_notMem hid.quote_not_mem (by decide)).1 hsplit).1
  · rintro rfl
    exact ⟨wide "\x7d", by rw [List.append_assoc]; rfl⟩

/-- A stored id belongs to one ordinary id. -/
theorem eq_of_storedId_eq (hid : IsOrdinary id) (hother : IsOrdinary other)
    {cluster cluster' : Option WideText} (h : storedId id cluster = storedId other cluster') :
    id = other := by
  rcases storedId_cases id cluster with hbare | ⟨c, hc, rfl⟩ <;>
    rcases storedId_cases other cluster' with hbare' | ⟨c', hc', rfl⟩
  · rw [← hbare, h, hbare']
  · exact absurd (hbare.symm.trans h) (hid.ne_composite hc' other)
  · exact absurd (hbare'.symm.trans h.symm) (hother.ne_composite hc id)
  · refine (idFragment_infix_composite_iff hid hc other).1 ?_
    rw [h]
    exact (idFragment_infix_composite_iff hother hc' other).2 rfl

/-- What is compared with the id that an entry lists. -/
theorem isEntryOf_object {entry : Fields} {listed : WideText}
    (hentry : Fields.get? entry (wide "connectionId") = some (.string listed))
    (id stored : WideText) :
    isEntryOf id stored (.object entry) = true ↔
      listed = id ∨ listed = stored ∨ idFragment id <:+: listed := by
  have hlisted : listedId? (.object entry) = some listed := by
    simp only [listedId?, hentry, Json.display]
  simp only [isEntryOf, hlisted, Bool.or_eq_true, beq_iff_eq, Text.occursIn_iff, or_assoc]

/-- **An ordinary id is found in the entries of that id**, and in no others, with whatever clusters
they are listed and looked for. -/
theorem isListed_iff_eq (hid : IsOrdinary id) (hother : IsOrdinary other)
    (cluster cluster' : Option WideText) {entry : Fields}
    (hentry : Fields.get? entry (wide "connectionId") = some (.string (storedId id cluster))) :
    isListed [.object entry] other (storedId other cluster') = true ↔ id = other := by
  rw [isListed, List.any_cons, List.any_nil, Bool.or_false, isEntryOf_object hentry]
  constructor
  · rcases storedId_cases id cluster with hbare | ⟨c, hc, rfl⟩
    · rintro (h | h | h)
      · exact hbare.symm.trans h
      · exact eq_of_storedId_eq hid hother h
      · rw [hbare] at h
        exact absurd h (hid.not_idFragment_infix other)
    · rintro (h | h | h)
      · exact absurd h.symm (hother.ne_composite hc id)
      · exact eq_of_storedId_eq hid hother h
      · exact (idFragment_infix_composite_iff hid hc other).1 h
  · rintro rfl
    rcases storedId_cases id cluster with hbare | ⟨c, hc, rfl⟩
    · exact .inl hbare
    · exact .inr (.inr ((idFragment_infix_composite_iff hid hc id).2 rfl))

/-- A cluster that looks like the end of a composite id. -/
def misleadingCluster : WideText := wide "g\",\"DatasourceId\":\"web 2\""

/-- An entry of such a cluster. -/
def misleadingEntry : Fields :=
  [(wide "kind", .string (wide "SQL")),
    (wide "connectionId", .string (storedId (wide "sales-1") (some misleadingCluster)))]

theorem isListed_iff_eq_misleadingEntry :
    IsOrdinary (wide "sales-1") ∧ IsOrdinary (wide "web 2") ∧
      isListed [.object misleadingEntry] (wide "sales-1")
        (storedId (wide "sales-1") (some [.surrogate 0, .scalar '\\'])) = true ∧
      isListed [.object misleadingEntry] (wide "web 2") (storedId (wide "web 2") none) = false := by
  have hsales : IsOrdinary (wide "sales-1") := by decide
  have hweb : IsOrdinary (wide "web 2") := by decide
  have hentry : Fields.get? misleadingEntry (wide "connectionId") = some (.string
      (storedId (wide "sales-1") (some misleadingCluster))) := rfl
  refine ⟨hsales, hweb, (isListed_iff_eq hsales hsales _ _ hentry).2 rfl, ?_⟩
  rw [Bool.eq_false_iff, Ne, isListed_iff_eq hsales hweb _ none hentry]
  decide

end Connection
end Dataflow
