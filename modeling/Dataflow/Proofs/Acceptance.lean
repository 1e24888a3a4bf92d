import Dataflow.Proofs.Balance
import Dataflow.Proofs.Interchange
import Dataflow.Proofs.Issuing

/-!
# What is written is accepted

Queries are written, call by call, into a definition that has no parts yet.  Every call goes
through, the document that comes of them is valid (`Mashup.isValid_upserts`), and saving it as a
whole is no more than to write it down once more: it is taken, it has one query for each name, and
each of them has the id that it was given when it was written.

A state of such a run is known by what it has in its store, `Desk.HasWritten`.  The document is that
of the calls so far, the metadata can be written and all its entries have ids, and there is one for
each call.  A call adds itself to this and takes no id away (`Desk.HasWritten.write`), and neither
does the save at the end.  `saved_of_written` puts the steps together, from the definition without
parts to the one that was saved.
-/

set_option autoImplicit false

namespace Dataflow

/-! ## Calls that are taken -/

namespace Mashup

/-- A call whose name and code are not blank, and whose pieces are plain and balanced. -/
structure Call.IsAcceptable (c : Call) : Prop where
  /-- There is a name. -/
  name : Text.allBlank c.name = false
  /-- There is code. -/
  code : Text.allBlank c.code = false
  /-- The pieces leave nothing open and look like no heading. -/
  plain : c.IsPlain
  /-- The code is balanced. -/
  balanced : IsBalanced (letBlock c.code)
  /-- So is an attribute. -/
  attr : ∀ a, Attribute.given? c.attr = some a → IsBalanced a

theorem Call.IsAcceptable.isSound {c : Call} (h : c.IsAcceptable) : c.query.IsSound where
  writable := h.plain.isWritable
  code := h.balanced
  attr := by
    rw [Call.query]
    cases ha : Attribute.given? c.attr with
    | none => exact .nil
    | some a => exact h.attr a ha

variable {calls : List Call}

/-- The queries of the document are those that were recorded. -/
theorem queries_upserts_of_isPlain (h : ∀ c ∈ calls, c.IsPlain) (hne : calls ≠ []) :
    queries (upserts calls) = recorded calls := by
  rw [upserts_eq_render h hne, queries_render (forall_mem_recorded fun c hc => (h c hc).isWritable)]

theorem queries_upserts_eq (h : ∀ c ∈ calls, c.IsAcceptable) (hne : calls ≠ []) :
    queries (upserts calls) = recorded calls :=
  queries_upserts_of_isPlain (fun c hc => (h c hc).plain) hne

/-- **A document that acceptable calls write is valid.** -/
theorem isValid_upserts (h : ∀ c ∈ calls, c.IsAcceptable) (hne : calls ≠ []) :
    (inspect (upserts calls)).isValid = true := by
  rw [upserts_eq_render (fun c hc => (h c hc).plain) hne]
  exact isValid_inspect_render (recorded_ne_nil hne)
    (forall_mem_recorded fun c hc => (h c hc).isSound)

end Mashup

/-! ## Writing -/

/-- A call to write a query, and what to write where the metadata has nothing. -/
structure Writing where
  /-- The call. -/
  call : Mashup.Call
  /-- What is written where there is nothing. -/
  defaults : Defaults

namespace Desk

variable {σ : Type} [DefinitionStore σ]

/-- Write a query into a stored definition. -/
def write (workspace dataflow : Text) (desk : Desk σ) (w : Writing) :
    Except Failure Definition × Desk σ :=
  desk.addQuery workspace dataflow (Text.widen w.call.name) (Text.widen w.call.code)
    (w.call.attr.map Text.widen) none w.defaults

variable [KeepingStore σ] {workspace dataflow : Text} {desk : Desk σ} {d : Definition}

/-- What is known of a desk when some calls have written into a definition without parts. -/
structure HasWritten (workspace dataflow : Text) (calls : List Mashup.Call) (desk : Desk σ)
    (d : Definition) : Prop where
  /-- The store takes the definition. -/
  accepts : KeepingStore.Accepts desk.store workspace dataflow
  /-- It has it. -/
  fetch : DefinitionStore.fetch desk.store workspace dataflow = .ok d
  /-- Its strings are joined. -/
  joined : d.IsJoined
  /-- Its document is that of the calls. -/
  document : d.document = .ok (Mashup.upserts calls)
  /-- Its metadata can be written, with an id in each entry. -/
  orderly : d.metadata.IsOrderly
  /-- New ids can be written. -/
  ids : desk.ids.IsProper
  /-- The queries have ids. -/
  issued : ∀ c ∈ calls, ∃ id, id ≠ [] ∧ d.queryId? c.name = some (.string id)

/-- In a definition, the query of a call has the id that it had in the answer to it. -/
def KeepsId (d : Definition) (e : Event Writing (Except Failure Definition) (Desk σ)) : Prop :=
  ∃ r id, e.answer = .ok r ∧ id ≠ [] ∧ r.queryId? e.call.call.name = some (.string id) ∧
    d.queryId? e.call.call.name = some (.string id)

namespace HasWritten

variable {calls : List Mashup.Call}

/-- Nothing is written yet. -/
theorem of_empty (haccepts : KeepingStore.Accepts desk.store workspace dataflow)
    (hfetch : DefinitionStore.fetch desk.store workspace dataflow = .ok .empty)
    (hids : desk.ids.IsProper) : HasWritten workspace dataflow [] desk .empty where
  accepts := haccepts
  fetch := hfetch
  joined := List.forall_mem_nil _
  document := rfl
  orderly := Metadata.isOrderly_nil
  ids := hids
  issued := List.forall_mem_nil _

/-- **An acceptable call is carried out** and takes no id away. -/
theorem write (h : HasWritten workspace dataflow calls desk d) {w : Writing}
    (hw : w.call.IsAcceptable) :
    ∃ r desk', desk.write workspace dataflow w = (.ok r, desk') ∧
      HasWritten workspace dataflow (calls ++ [w.call]) desk' r ∧
      ∀ name id, d.queryId? name = some id → r.queryId? name = some id := by
  obtain ⟨r, ids, hadd, hdocument, horderly, hids, hkeeps, hissued⟩ :=
    Definition.exists_addQuery h.document h.orderly h.ids w.call.name w.call.code w.call.attr none
      w.defaults
  have hjoined : r.IsJoined := h.joined.addQuery hadd
  obtain ⟨store, hedit, hreplaces⟩ := exists_edit
    (fun d ids => d.addQuery (Text.widen w.call.name) (Text.widen w.call.code)
      (w.call.attr.map Text.widen) none w.defaults ids) h.accepts h.fetch hadd hjoined
  refine ⟨r, ⟨store, ids⟩, ?_, ⟨(hreplaces.accepts_iff _ _).2 h.accepts, hreplaces.fetch_self,
    hjoined, ?_, horderly, h.ids.of_id_eq hids, fun c hc => ?_⟩, hkeeps⟩
  · rw [Desk.write, addQuery, WideText.all_isBlank_widen, WideText.all_isBlank_widen, hw.name,
      hw.code]
    exact hedit
  · rw [hdocument, Mashup.upserts_append]
  · rcases List.mem_append.1 hc with hc | hc
    · obtain ⟨id, hne, hid⟩ := h.issued c hc
      exact ⟨id, hne, hkeeps _ _ hid⟩
    · obtain rfl := List.mem_singleton.1 hc
      rwa [Mashup.Name.plain_eq_self hw.plain.unquoted] at hissued

/-- **Acceptable calls are all carried out**, and the ids that they give last until the end. -/
theorem run (h : HasWritten workspace dataflow calls desk d) {ws : List Writing}
    (hws : ∀ w ∈ ws, w.call.IsAcceptable) :
    ∃ r, HasWritten workspace dataflow (calls ++ ws.map Writing.call)
        (final (Desk.write workspace dataflow) desk ws) r ∧
      (∀ name id, d.queryId? name = some id → r.queryId? name = some id) ∧
      ∀ e ∈ trace (Desk.write workspace dataflow) desk ws, KeepsId r e := by
  induction ws generalizing desk d calls with
  | nil =>
    rw [List.map_nil, List.append_nil]
    exact ⟨d, h, fun _ _ hid => hid, List.forall_mem_nil _⟩
  | cons w ws ih =>
    obtain ⟨hw, hws⟩ := List.forall_mem_cons.1 hws
    obtain ⟨first, desk', hwrite, hfirst, hkeeps⟩ := h.write hw
    obtain ⟨id, hne, hid⟩ := hfirst.issued w.call (by simp)
    obtain ⟨r, hr, hlast, hevents⟩ := ih hfirst hws
    have hdesk : (desk.write workspace dataflow w).2 = desk' := congrArg Prod.snd hwrite
    have hanswer : (desk.write workspace dataflow w).1 = .ok first := congrArg Prod.fst hwrite
    rw [List.append_assoc, List.singleton_append, ← List.map_cons, ← hdesk] at hr
    refine ⟨r, hr, fun name id hname => hlast _ _ (hkeeps _ _ hname), ?_⟩
    rw [trace, hdesk]
    exact List.forall_mem_cons.2 ⟨⟨first, id, hanswer, hne, hid, hlast _ _ hid⟩, hevents⟩

/-- **The document that was written can be saved**, and no id of a query changes. -/
theorem save (h : HasWritten workspace dataflow calls desk d) (hne : calls ≠ [])
    (hcalls : ∀ c ∈ calls, c.IsAcceptable) (defaults : Defaults) :
    ∃ saved desk', desk.saveDocument workspace dataflow (Text.widen (Mashup.upserts calls)) false
        defaults = (.ok ⟨.saved, Mashup.inspect (Mashup.upserts calls),
          (Mashup.recorded calls).map Mashup.Query.widen⟩, desk') ∧
      DefinitionStore.fetch desk'.store workspace dataflow = .ok saved ∧
      ∀ c ∈ calls, saved.queryId? c.name = d.queryId? c.name := by
  have hids : ∀ q ∈ Mashup.recorded calls, ∃ id, id ≠ [] ∧
      d.queryId? q.name = some (.string id) := Mashup.forall_mem_recorded h.issued
  obtain ⟨saved, ids, hreplace, -, hkeeps⟩ := Definition.exists_replaceDocument h.orderly hids
    (Mashup.upserts calls) defaults desk.ids
  obtain ⟨store, hedit, hreplaces⟩ := exists_edit (fun d ids =>
      d.replaceDocument (Text.widen (Mashup.upserts calls))
        ((Mashup.recorded calls).map Mashup.Query.widen) defaults ids)
    h.accepts h.fetch hreplace (h.joined.replaceDocument hreplace)
  refine ⟨saved, ⟨store, ids⟩, ?_, hreplaces.fetch_self, fun c hc => ?_⟩
  · have hfilled : ((Mashup.recorded calls).map Mashup.Query.widen).isEmpty = false := by
      simpa using Mashup.recorded_ne_nil hne
    rw [saveDocument, WideText.outline_widen, Mashup.isValid_upserts hcalls hne,
      Mashup.Wide.queries_widen, Mashup.queries_upserts_eq hcalls hne]
    simp only [Bool.not_true, Bool.false_eq_true, if_false, hfilled, hedit]
  · have hname : c.name ∈ (Mashup.recorded calls).map Mashup.Query.name := by
      rw [Mashup.map_name_recorded]
      simpa using ⟨c, hc, rfl⟩
    obtain ⟨q, hq, heq⟩ := List.mem_map.1 hname
    rw [← heq, hkeeps q hq]

end HasWritten

/-- **What is written is accepted.**  Acceptable calls on a definition without parts leave a
document that is valid.  Saving it goes through, there is one query for each name, and it has the id
that it was given by each call that wrote it. -/
theorem saved_of_written (haccepts : KeepingStore.Accepts desk.store workspace dataflow)
    (hfetch : DefinitionStore.fetch desk.store workspace dataflow = .ok .empty)
    (hids : desk.ids.IsProper) {ws : List Writing} (hne : ws ≠ [])
    (hws : ∀ w ∈ ws, w.call.IsAcceptable) (defaults : Defaults) :
    ∃ written document saved desk',
      DefinitionStore.fetch (final (Desk.write workspace dataflow) desk ws).store workspace
        dataflow = .ok written ∧
      written.document = .ok document ∧
      (Mashup.inspect document).isValid = true ∧
      (final (Desk.write workspace dataflow) desk ws).saveDocument workspace dataflow
        (Text.widen document) false defaults = (.ok ⟨.saved, Mashup.inspect document,
          (Mashup.queries document).map Mashup.Query.widen⟩, desk') ∧
      (Mashup.queries document).map Mashup.Query.name =
        (ws.map fun w => w.call.name).eraseDups ∧
      DefinitionStore.fetch desk'.store workspace dataflow = .ok saved ∧
      ∀ e ∈ trace (Desk.write workspace dataflow) desk ws, KeepsId saved e := by
  obtain ⟨written, hwritten, -, hevents⟩ := (HasWritten.of_empty haccepts hfetch hids).run hws
  rw [List.nil_append] at hwritten
  have hcalls : ∀ c ∈ ws.map Writing.call, c.IsAcceptable := List.forall_mem_map.2 hws
  have hne' : ws.map Writing.call ≠ [] := mt List.map_eq_nil_iff.1 hne
  have hqueries := Mashup.queries_upserts_eq hcalls hne'
  obtain ⟨saved, desk', hsave, hsaved, hkeeps⟩ := hwritten.save hne' hcalls defaults
  refine ⟨written, Mashup.upserts (ws.map Writing.call), saved, desk', hwritten.fetch,
    hwritten.document, Mashup.isValid_upserts hcalls hne', ?_, ?_, hsaved, fun e he => ?_⟩
  · rw [hqueries, hsave]
  · rw [hqueries, Mashup.map_name_recorded, List.map_map]
    rfl
  · obtain ⟨r, id, hanswer, hid, hgiven, hlast⟩ := hevents e he
    have hcall : e.call.call ∈ ws.map Writing.call := by
      have hmem := List.mem_map_of_mem (f := Event.call) he
      rw [map_call_trace] at hmem
      exact List.mem_map_of_mem hmem
    exact ⟨r, id, hanswer, hid, hgiven, by rw [hkeeps _ hcall, hlast]⟩

/-- A query, the one to which its data will go, and the first again, with an attribute that says
so; a name and a comment have brackets that are not closed. -/
def sampleWritings : List Writing :=
  [⟨⟨text "Orders", text "let a = \"];\" in a", none⟩, .standard⟩,
    ⟨⟨text "Out (1", text " 1 // (one", some (text "  ")⟩, .standard⟩,
    ⟨⟨text "Orders", text "let b = [c = 2] in b",
        some (text "[DataDestinations = \x7b[QueryName = \"Out (1\"]\x7d]\n")⟩,
      ⟨text "de-DE", false⟩⟩]

theorem isAcceptable_sampleWritings : ∀ w ∈ sampleWritings, w.call.IsAcceptable := by
  have hattr : Mashup.Attribute.given?
      (some (text "[DataDestinations = \x7b[QueryName = \"Out (1\"]\x7d]\n")) =
        some (text "[DataDestinations = \x7b[QueryName = \"Out (1\"]\x7d]") := by decide +kernel
  simp only [sampleWritings, List.forall_mem_cons]
  refine ⟨⟨by decide, by decide,
      ⟨by decide, by decide, by decide +kernel, by decide +kernel, nofun⟩,
      by decide +kernel, nofun⟩,
    ⟨by decide, by decide, ⟨by decide, by decide, by decide +kernel, by decide +kernel, nofun⟩,
      by decide +kernel, nofun⟩,
    ⟨by decide, by decide, ⟨by decide, by decide, by decide +kernel, by decide +kernel, ?_⟩,
      by decide +kernel, ?_⟩, List.forall_mem_nil _⟩
  · rw [hattr]
    rintro a ⟨rfl⟩
    decide +kernel
  · rw [hattr]
    rintro a ⟨rfl⟩
    decide +kernel

theorem saved_of_written_sampleWritings :
    let desk : Desk MemoryStore :=
      ⟨MemoryStore.empty.put (text "w") (text "d") .empty, .random 7⟩
    ∃ written document saved desk',
      DefinitionStore.fetch (final (Desk.write (text "w") (text "d")) desk sampleWritings).store
        (text "w") (text "d") = .ok written ∧
      written.document = .ok document ∧
      (Mashup.inspect document).isValid = true ∧
      (final (Desk.write (text "w") (text "d")) desk sampleWritings).saveDocument (text "w")
        (text "d") (Text.widen document) false .standard =
          (.ok ⟨.saved, Mashup.inspect document,
            (Mashup.queries document).map Mashup.Query.widen⟩, desk') ∧
      (Mashup.queries document).map Mashup.Query.name = [text "Orders", text "Out (1"] ∧
      DefinitionStore.fetch desk'.store (text "w") (text "d") = .ok saved ∧
      ∀ e ∈ trace (Desk.write (text "w") (text "d")) desk sampleWritings, KeepsId saved e := by
  intro desk
  have haccepts : KeepingStore.Accepts desk.store (text "w") (text "d") := trivial
  have hfetch : DefinitionStore.fetch desk.store (text "w") (text "d") = .ok .empty := rfl
  have hids : desk.ids.IsProper := IdSupply.isProper_random 7
  exact saved_of_written haccepts hfetch hids (by decide) isAcceptable_sampleWritings .standard

end Desk
end Dataflow
