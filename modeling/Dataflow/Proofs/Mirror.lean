import Dataflow.Proofs.Calls
import Dataflow.Proofs.Registration
import Dataflow.Proofs.Replacing
import Dataflow.Store.Basic

/-!
# Whether the metadata mirrors the document

The entries of the metadata should be those of the queries of the document, and of the queries to
which some query was said to send its data; then the definition `Mirrors` its targets.  A run of
service calls keeps the two in step by two separate ways: a document that is saved gives the entries
their names, but a query that is added is written into the text by `upsert` and registered by the
name in the call.

So the mirror depends on the text alone.  It is kept through a run if every query that is added
`Settles`, which means that the names that are read from the document afterwards are those of before
and that of the query.  It is kept only if they settle, up to names that are targets anyway.
`mirrors_run` has both directions, each by a lemma about one request.

Calls need not settle: an attribute is found backwards by brackets alone, and a new declaration may
come to stand in a comment.  They do on documents of declarations that stand by themselves, when the
pieces that are given leave nothing open.
-/

set_option autoImplicit false

namespace Dataflow

/-! ## Runs -/

/-- A store that gives back what was persisted last. -/
class LawfulStore (σ : Type) [DefinitionStore σ] : Prop where
  /-- What was persisted is fetched. -/
  fetch_persist : ∀ {s s' : σ} {workspace dataflow : Text} {d : Definition},
    DefinitionStore.persist s workspace dataflow d = .ok s' →
      DefinitionStore.fetch s' workspace dataflow = .ok d

instance : LawfulStore MemoryStore where
  fetch_persist {s s' workspace dataflow d} h := by
    obtain rfl := Except.ok.inj h
    have hput : (s.put workspace dataflow d).definition? workspace dataflow = some d :=
      s.definition?_put_self workspace dataflow d
    simp only [DefinitionStore.fetch]
    exact (congrArg (fun found => match found with
      | some d => Except.ok d
      | none => Except.error (Failure.missingDefinition workspace dataflow)) hput)

/-- A call to a service that may change a definition. -/
inductive Request where
  | addQuery (name code : WideText) (attr sectionAttr : Option WideText) (defaults : Defaults)
  | addConnections (requests : List ConnectionRequest) (lookup : Option ClusterLookup)
      (defaults : Defaults)
  | saveDocument (document : WideText) (validateOnly : Bool) (defaults : Defaults)
  | patchQuery (name : WideText) (patch : Patch)

namespace Request

/-- The query to which the query in a call sends its data. -/
def target? : Request → Option WideText
  | addQuery _ _ attr _ _ => Mashup.Wide.target? attr
  | _ => none

/-- In the settings of a patch no object has a name twice. -/
def NamesOnce : Request → Prop
  | patchQuery _ patch => patch.NamesOnce
  | _ => True

/-- What a call makes of a definition when it goes through. -/
def Makes (d d' : Definition) : Request → Prop
  | addQuery name code attr sectionAttr defaults => ∃ ids ids',
      d.addQuery name code attr sectionAttr defaults ids = (.ok d', ids')
  | addConnections requests lookup defaults =>
      d.connect (requests.map (ConnectionRequest.bind lookup)) defaults = .ok d'
  | saveDocument document _ defaults => ∃ ids ids',
      d.replaceDocument document (Mashup.Wide.queries document) defaults ids = (.ok d', ids')
  | patchQuery name patch => d.patchQuery name patch = .ok d'

/-- The call of a service for a dataflow. -/
def call (workspace dataflow : Text) : Request → ServiceCall
  | addQuery name code attr sectionAttr defaults =>
      .addQuery workspace dataflow name code attr sectionAttr defaults
  | addConnections requests lookup defaults =>
      .addConnections workspace dataflow requests lookup defaults
  | saveDocument document validateOnly defaults =>
      .saveDocument workspace dataflow document validateOnly defaults
  | patchQuery name patch => .patchQuery workspace dataflow name patch

theorem key_call (r : Request) (workspace dataflow : Text) :
    (r.call workspace dataflow).key = (workspace, dataflow) := by cases r <;> rfl

/-- What an edit comes to is what the call makes of the definition. -/
theorem makes_of_edits {r : Request} {workspace dataflow : Text}
    {change : Definition → IdSupply → Except Failure Definition × IdSupply}
    (h : (r.call workspace dataflow).Edits change) {d d' : Definition} {ids ids' : IdSupply}
    (hchange : change d ids = (.ok d', ids')) : r.Makes d d' := by
  cases r with
  | addQuery name code attr sectionAttr defaults =>
    cases h
    exact ⟨ids, ids', hchange⟩
  | addConnections requests lookup defaults =>
    cases h
    exact (Prod.mk.inj hchange).1
  | saveDocument document validateOnly defaults =>
    cases h
    exact ⟨ids, ids', hchange⟩
  | patchQuery name patch =>
    cases h
    exact (Prod.mk.inj hchange).1

end Request

/-- The targets of some calls. -/
def targets (requests : List Request) : List WideText := requests.filterMap Request.target?

namespace Desk

variable {σ : Type} [DefinitionStore σ] {workspace dataflow : Text}

/-- The desk after a call. -/
def serve (desk : Desk σ) (workspace dataflow : Text) : Request → Desk σ
  | .addQuery name code attr sectionAttr defaults =>
    (desk.addQuery workspace dataflow name code attr sectionAttr defaults).2
  | .addConnections requests lookup defaults =>
    (desk.addConnections workspace dataflow requests lookup defaults).2
  | .saveDocument document validateOnly defaults =>
    (desk.saveDocument workspace dataflow document validateOnly defaults).2
  | .patchQuery name patch => (desk.patchQuery workspace dataflow name patch).2

/-- The desk after some calls. -/
def run (desk : Desk σ) (workspace dataflow : Text) (requests : List Request) : Desk σ :=
  requests.foldl (fun desk r => desk.serve workspace dataflow r) desk

theorem run_append (desk : Desk σ) (requests : List Request) (r : Request) :
    desk.run workspace dataflow (requests ++ [r]) =
      (desk.run workspace dataflow requests).serve workspace dataflow r := by
  rw [run, List.foldl_append]
  rfl

/-- A definition is stored for a dataflow. -/
def Holds (desk : Desk σ) (workspace dataflow : Text) (d : Definition) : Prop :=
  DefinitionStore.fetch desk.store workspace dataflow = .ok d

theorem Holds.unique {desk : Desk σ} {d d' : Definition} (h : desk.Holds workspace dataflow d)
    (h' : desk.Holds workspace dataflow d') : d = d' := Except.ok.inj (h.symm.trans h')

/-- The desk after a call is the one after the service for the dataflow. -/
theorem serve_eq_run (desk : Desk σ) (r : Request) :
    desk.serve workspace dataflow r = ((r.call workspace dataflow).run desk).2 := by
  cases r <;> rfl

/-- A call that is carried out is an edit; otherwise it leaves the desk as it was. -/
theorem serve_cases (desk : Desk σ) (r : Request) :
    desk.serve workspace dataflow r = desk ∨
      ∃ change, desk.serve workspace dataflow r = (desk.edit workspace dataflow change).2 ∧
        ∀ d ids d' ids', change d ids = (.ok d', ids') → r.Makes d d' := by
  rw [serve_eq_run, ServiceCall.run_eq_carryOut, r.key_call]
  cases hplan : (r.call workspace dataflow).plan with
  | reply answer => exact .inl rfl
  | look => exact .inl rfl
  | edit change success =>
    refine .inr ⟨change, rfl, fun d ids d' ids' h => ?_⟩
    exact Request.makes_of_edits (ServiceCall.edits_of_plan hplan) h

variable [LawfulStore σ]

/-- An edit leaves the definition as it was or stores what the change makes of it. -/
theorem edit_holds {desk : Desk σ} {d : Definition} (h : desk.Holds workspace dataflow d)
    (change : Definition → IdSupply → Except Failure Definition × IdSupply) :
    (desk.edit workspace dataflow change).2.Holds workspace dataflow d ∨
      ∃ d' ids', (desk.edit workspace dataflow change).2.Holds workspace dataflow d' ∧
        change d desk.ids = (.ok d', ids') := by
  have hfetch : DefinitionStore.fetch desk.store workspace dataflow = .ok d := h
  rw [edit, hfetch]
  obtain ⟨result, ids', hchange⟩ : ∃ result ids', change d desk.ids = (result, ids') :=
    ⟨_, _, rfl⟩
  simp only [hchange]
  cases result with
  | error failure => exact .inl h
  | ok d' =>
    simp only
    cases hpersist : DefinitionStore.persist desk.store workspace dataflow d' with
    | error failure => exact .inl h
    | ok store => exact .inr ⟨d', ids', LawfulStore.fetch_persist hpersist, rfl⟩

/-- **A call leaves the definition as it was, or stores what it makes of it.** -/
theorem serve_holds {desk : Desk σ} {d : Definition} (h : desk.Holds workspace dataflow d)
    (r : Request) :
    (desk.serve workspace dataflow r).Holds workspace dataflow d ∨
      ∃ d', (desk.serve workspace dataflow r).Holds workspace dataflow d' ∧ r.Makes d d' := by
  rcases desk.serve_cases r with heq | ⟨change, heq, hmakes⟩
  · rw [heq]
    exact .inl h
  · rw [heq]
    refine (edit_holds h change).imp_right ?_
    rintro ⟨d', ids', hholds, hchange⟩
    exact ⟨d', hholds, hmakes d desk.ids d' ids' hchange⟩

end Desk

/-! ## The mirror -/

/-- The names of the queries of a document. -/
def Mashup.namesIn (t : Text) : List WideText :=
  (Mashup.queries t).map fun q => Text.widen q.name

/-- The names that have an entry are those of the queries in the document and some of those in
`seen`. -/
structure Definition.Mirrors (seen : List WideText) (d : Definition) : Prop where
  /-- Every query has an entry. -/
  registered : ∀ name ∈ Mashup.namesIn d.mashup, name ∈ d.registered
  /-- Every entry has a reason. -/
  known : ∀ name ∈ d.registered, name ∈ Mashup.namesIn d.mashup ∨ name ∈ seen

namespace Request

/-- After the query of a call was written into a document, the names in it are those of before and
that of the query, those in `apart` not counted. -/
def Settles (apart : List WideText) (t : Text) : Request → Prop
  | addQuery name code attr sectionAttr _ =>
      ∀ u, Mashup.Wide.upsert t name code attr sectionAttr = Text.widen u → ∀ n, n ∉ apart →
        (n ∈ Mashup.namesIn u ↔ n ∈ Mashup.namesIn t ∨ n = Mashup.Wide.plain name)
  | _ => True

/-- How a call changes the document and the names that have an entry. -/
def Changes (d d' : Definition) : Request → Prop
  | addQuery name code attr sectionAttr _ =>
      Mashup.Wide.upsert d.mashup name code attr sectionAttr = Text.widen d'.mashup ∧
        ∀ key, key ∈ d'.registered ↔ key ∈ d.registered ∨ key = Mashup.Wide.plain name ∨
          Mashup.Wide.target? attr = some key
  | saveDocument document _ _ =>
      document = Text.widen d'.mashup ∧
        ∀ key, key ∈ d'.registered ↔ key ∈ Mashup.namesIn d'.mashup
  | _ => d'.mashup = d.mashup ∧ d'.registered = d.registered

section

variable {d d' : Definition} {r : Request}

theorem Makes.changes (h : r.Makes d d') (hr : r.NamesOnce) (hd : d.document = .ok d.mashup) :
    d'.document = .ok d'.mashup ∧ r.Changes d d' := by
  have hsame : d'.document = d.document → d'.mashup = d.mashup :=
    fun heq => Definition.mashup_of_document (heq.trans hd)
  cases r with
  | addQuery name code attr sectionAttr defaults =>
    obtain ⟨ids, ids', h⟩ := h
    obtain ⟨t, u, ht, hu, hupsert, hkeys⟩ := Definition.addQuery_eq_ok h
    obtain rfl : t = d.mashup := Except.ok.inj (ht.symm.trans hd)
    obtain rfl := Definition.mashup_of_document hu
    exact ⟨hu, hupsert, hkeys⟩
  | addConnections requests lookup defaults =>
    obtain ⟨hdocument, hkeys⟩ := Definition.connect_eq_ok h
    exact ⟨by rw [hdocument, hd, hsame hdocument], hsame hdocument, hkeys⟩
  | saveDocument document validateOnly defaults =>
    obtain ⟨ids, ids', h⟩ := h
    obtain ⟨t, rfl, ht, hkeys⟩ := Definition.saveDocument_eq_ok h
    obtain rfl := Definition.mashup_of_document ht
    refine ⟨ht, rfl, fun key => ?_⟩
    rw [hkeys, Mashup.Wide.queries_widen, List.map_map]
    rfl
  | patchQuery name patch =>
    obtain ⟨hdocument, hkeys⟩ := Definition.patchQuery_eq_ok hr h
    exact ⟨by rw [hdocument, hd, hsame hdocument], hsame hdocument, hkeys⟩

/-- **One call keeps the mirror** if its query settles. -/
theorem Changes.mirrors {seen seen' : List WideText} (h : r.Changes d d') (hd : d.Mirrors seen)
    (hsettles : r.Settles [] d.mashup) (hseen : ∀ name ∈ seen, name ∈ seen')
    (htarget : ∀ name, r.target? = some name → name ∈ seen') : d'.Mirrors seen' := by
  -- when neither the document nor the entries change
  have hsame : d'.mashup = d.mashup ∧ d'.registered = d.registered → d'.Mirrors seen' := by
    rintro ⟨hmashup, hregistered⟩
    refine ⟨fun name hname => ?_, fun name hname => ?_⟩
    · rw [hmashup] at hname
      rw [hregistered]
      exact hd.registered name hname
    · rw [hregistered] at hname
      rw [hmashup]
      exact (hd.known name hname).imp_right (hseen name)
  cases r with
  | addQuery name code attr sectionAttr defaults =>
    obtain ⟨hupsert, hkeys⟩ := h
    have hnames : ∀ n, n ∈ Mashup.namesIn d'.mashup ↔
        n ∈ Mashup.namesIn d.mashup ∨ n = Mashup.Wide.plain name :=
      fun n => hsettles d'.mashup hupsert n List.not_mem_nil
    refine ⟨fun n hn => (hkeys _).2 ?_, fun n hn => ?_⟩
    · exact ((hnames n).1 hn).imp (hd.registered n) .inl
    · rcases (hkeys n).1 hn with hold | hname | hsome
      · exact (hd.known n hold).imp (fun hn => (hnames n).2 (.inl hn)) (hseen n)
      · exact .inl ((hnames n).2 (.inr hname))
      · exact .inr (htarget n hsome)
  | addConnections requests lookup defaults => exact hsame h
  | saveDocument document validateOnly defaults =>
    obtain ⟨-, hkeys⟩ := h
    exact ⟨fun name => (hkeys name).2, fun name hname => .inl ((hkeys name).1 hname)⟩
  | patchQuery name patch => exact hsame h

/-- **A query settles if the mirror is kept**, targets apart. -/
theorem Changes.settles {seen seen' apart : List WideText} (h : r.Changes d d')
    (hd : d.Mirrors seen) (hd' : d'.Mirrors seen') (hseen : ∀ name ∈ seen, name ∈ apart)
    (hseen' : ∀ name ∈ seen', name ∈ apart)
    (htarget : ∀ name, r.target? = some name → name ∈ apart) : r.Settles apart d.mashup := by
  cases r with
  | addQuery name code attr sectionAttr defaults =>
    obtain ⟨hupsert, hkeys⟩ := h
    intro u hu n hn
    obtain rfl := Text.widen_injective (hupsert.symm.trans hu)
    constructor
    · intro hmem
      rcases (hkeys n).1 (hd'.registered n hmem) with hold | hname | hsome
      · exact .inl ((hd.known n hold).resolve_right fun hmem => hn (hseen n hmem))
      · exact .inr hname
      · exact absurd (htarget n hsome) hn
    · intro hmem
      have hkey : n ∈ d'.registered :=
        (hkeys n).2 (hmem.imp (hd.registered n) .inl)
      exact (hd'.known n hkey).resolve_right fun hmem => hn (hseen' n hmem)
  | addConnections requests lookup defaults => trivial
  | saveDocument document validateOnly defaults => trivial
  | patchQuery name patch => trivial

end

end Request

/-! ## Calls on documents in slots -/

/-- A call that adds a query whose pieces leave nothing open, without an attribute for the section,
or that saves a document in slots. -/
def Request.IsPlain : Request → Prop
  | addQuery name code attr sectionAttr _ => sectionAttr = none ∧
      ∃ c : Mashup.Call, name = Text.widen c.name ∧ code = Text.widen c.code ∧
        attr = c.attr.map Text.widen ∧ c.IsPlain
  | saveDocument document _ _ => ∃ t, document = Text.widen t ∧ Mashup.LaidOut t
  | _ => True

/-- No document, or one in slots. -/
def Mashup.IsShaped (t : Text) : Prop := t = [] ∨ Mashup.LaidOut t

/-- What a call writes into a document when it has no halves. -/
theorem Mashup.upsert_of_widen {t u : Text} {c : Call}
    (h : Wide.upsert t (Text.widen c.name) (Text.widen c.code) (c.attr.map Text.widen) none =
      Text.widen u) : u = upsert t c.name c.code c.attr none :=
  Text.widen_injective (h.symm.trans (Wide.upsert_widen t c.name c.code c.attr none))

/-- **A plain call settles** on a document in slots. -/
theorem Request.IsPlain.settles {r : Request} (h : r.IsPlain) {t : Text} (ht : Mashup.IsShaped t) :
    r.Settles [] t := by
  cases r with
  | addQuery name code attr sectionAttr defaults =>
    obtain ⟨rfl, c, rfl, rfl, rfl, hc⟩ := h
    intro u hu n _
    obtain rfl := Mashup.upsert_of_widen hu
    have hrecord : Mashup.queries (Mashup.upsert t c.name c.code c.attr none) =
        Mashup.record (Mashup.queries t) c.query := by
      rcases ht with rfl | ht
      · rw [Mashup.upsert_nil hc, Mashup.queries_render]
        · rfl
        · exact List.forall_mem_singleton.2 hc.isWritable
      · exact (ht.upsert hc).2
    have hnames : Mashup.namesIn (Mashup.upsert t c.name c.code c.attr none) =
        ((Mashup.record (Mashup.queries t) c.query).map Mashup.Query.name).map Text.widen := by
      rw [Mashup.namesIn, hrecord, List.map_map]
      rfl
    have hbefore : Mashup.namesIn t =
        ((Mashup.queries t).map Mashup.Query.name).map Text.widen := by
      rw [Mashup.namesIn, List.map_map]
      rfl
    have hname : c.query.name = c.name := rfl
    rw [hnames, hbefore, Mashup.map_name_record, hname, Mashup.Wide.plain_widen,
      Mashup.Name.plain_eq_self hc.unquoted]
    split
    · rename_i hmem
      exact (or_iff_left_of_imp fun heq => heq ▸ List.mem_map_of_mem hmem).symm
    · rw [List.map_append, List.mem_append, List.map_singleton, List.mem_singleton]
  | addConnections requests lookup defaults => trivial
  | saveDocument document validateOnly defaults => trivial
  | patchQuery name patch => trivial

/-- A plain call leaves a document in slots. -/
theorem Request.IsPlain.isShaped {r : Request} (h : r.IsPlain) {d d' : Definition}
    (hchanges : r.Changes d d') (hd : Mashup.IsShaped d.mashup) : Mashup.IsShaped d'.mashup := by
  cases r with
  | addQuery name code attr sectionAttr defaults =>
    obtain ⟨rfl, c, rfl, rfl, rfl, hc⟩ := h
    rw [Mashup.upsert_of_widen hchanges.1]
    rcases hd with hnil | hd
    · rw [hnil]
      exact .inr (Mashup.laidOut_upsert_nil hc)
    · exact .inr (hd.upsert hc).1
  | addConnections requests lookup defaults => rwa [hchanges.1]
  | saveDocument document validateOnly defaults =>
    obtain ⟨t, rfl, ht⟩ := h
    obtain rfl := Text.widen_injective hchanges.1
    exact .inr ht
  | patchQuery name patch => rwa [hchanges.1]

/-! ## Runs that keep the mirror -/

section

variable {σ : Type} [DefinitionStore σ] {workspace dataflow : Text}

/-- Throughout a run a definition is stored whose metadata mirrors its document. -/
def Desk.MirrorsThroughout (desk : Desk σ) (workspace dataflow : Text)
    (requests : List Request) : Prop :=
  ∀ before, before <+: requests → ∃ d,
    (desk.run workspace dataflow before).Holds workspace dataflow d ∧
      d.document = .ok d.mashup ∧ d.Mirrors (targets before)

/-- Each query that a run writes into a document settles there. -/
def Desk.SettlesThroughout (desk : Desk σ) (workspace dataflow : Text) (requests : List Request)
    (apart : List WideText) : Prop :=
  ∀ before r d d', before ++ [r] <+: requests →
    (desk.run workspace dataflow before).Holds workspace dataflow d →
    (desk.run workspace dataflow (before ++ [r])).Holds workspace dataflow d' → r.Makes d d' →
    r.Settles apart d.mashup

variable [LawfulStore σ]

/-- The last of the first calls is among those of the run. -/
theorem last_mem_of_run {before requests : List Request} {r : Request}
    (h : before ++ [r] <+: requests) : r ∈ requests :=
  h.subset (List.mem_append_right before (List.mem_singleton_self r))

/-- What holds of no document and is kept by every change of the run holds of what is stored. -/
theorem Desk.run_invariant {desk : Desk σ} (hempty : desk.Holds workspace dataflow .empty)
    {requests : List Request} (hrequests : ∀ r ∈ requests, r.NamesOnce)
    {P : List Request → Definition → Prop} (hinit : P [] .empty)
    (hskip : ∀ before r d, before ++ [r] <+: requests → P before d → P (before ++ [r]) d)
    (hstep : ∀ before r d d', before ++ [r] <+: requests →
      (desk.run workspace dataflow before).Holds workspace dataflow d →
      (desk.run workspace dataflow (before ++ [r])).Holds workspace dataflow d' →
      r.Makes d d' → r.Changes d d' → P before d → P (before ++ [r]) d')
    {before : List Request} (hbefore : before <+: requests) :
    ∃ d, (desk.run workspace dataflow before).Holds workspace dataflow d ∧
      d.document = .ok d.mashup ∧ P before d := by
  induction before using List.reverseRecOn with
  | nil => exact ⟨.empty, hempty, rfl, hinit⟩
  | append_singleton before r ih =>
    obtain ⟨d, hholds, hdocument, hp⟩ := ih ((List.prefix_append before [r]).trans hbefore)
    have hserve := Desk.serve_holds hholds r
    rw [← Desk.run_append] at hserve
    rcases hserve with hsame | ⟨d', hholds', hmakes⟩
    · exact ⟨d, hsame, hdocument, hskip before r d hbefore hp⟩
    · have hr := hrequests r (last_mem_of_run hbefore)
      obtain ⟨hdocument', hchanges⟩ := hmakes.changes hr hdocument
      exact ⟨d', hholds', hdocument',
        hstep before r d d' hbefore hholds hholds' hmakes hchanges hp⟩

/-- The targets of the first calls are among those of the run. -/
theorem mem_targets_of_prefix {before requests : List Request} (h : before <+: requests)
    {name : WideText} (hname : name ∈ targets before) : name ∈ targets requests := by
  obtain ⟨rest, rfl⟩ := h
  rw [targets, List.filterMap_append]
  exact List.mem_append_left _ hname

theorem mem_targets_last {before : List Request} {r : Request} {name : WideText}
    (h : r.target? = some name) : name ∈ targets (before ++ [r]) :=
  List.mem_filterMap.2 ⟨r, List.mem_append_right _ (List.mem_singleton_self r), h⟩

theorem Definition.mirrors_empty : Definition.empty.Mirrors [] where
  registered _ hname := absurd hname List.not_mem_nil
  known _ hkey := absurd hkey List.not_mem_nil

theorem Definition.Mirrors.mono {seen seen' : List WideText} {d : Definition} (h : d.Mirrors seen)
    (hseen : ∀ name ∈ seen, name ∈ seen') : d.Mirrors seen' where
  registered := h.registered
  known name hname := (h.known name hname).imp_right (hseen name)

variable {desk : Desk σ} {requests : List Request}

/-- If every query settles, the mirror is kept. -/
theorem Desk.SettlesThroughout.mirrors (h : desk.SettlesThroughout workspace dataflow requests [])
    (hempty : desk.Holds workspace dataflow .empty) (hrequests : ∀ r ∈ requests, r.NamesOnce) :
    desk.MirrorsThroughout workspace dataflow requests := by
  intro before hbefore
  have hmono : ∀ (before : List Request) (r : Request), ∀ name ∈ targets before,
      name ∈ targets (before ++ [r]) :=
    fun before r name => mem_targets_of_prefix (List.prefix_append before [r])
  exact Desk.run_invariant hempty hrequests (P := fun before d => d.Mirrors (targets before))
    Definition.mirrors_empty
    (fun before r d _ hd => hd.mono (hmono before r))
    (fun before r d d' hwithin hholds hholds' hmakes hchanges hd =>
      hchanges.mirrors hd (h before r d d' hwithin hholds hholds' hmakes) (hmono before r)
        fun name => mem_targets_last)
    hbefore

omit [LawfulStore σ] in
/-- If the mirror is kept, every query settles. -/
theorem Desk.MirrorsThroughout.settles (h : desk.MirrorsThroughout workspace dataflow requests)
    (hrequests : ∀ r ∈ requests, r.NamesOnce) :
    desk.SettlesThroughout workspace dataflow requests (targets requests) := by
  intro before r d d' hwithin hholds hholds' hmakes
  have hbefore : before <+: requests := (List.prefix_append before [r]).trans hwithin
  obtain ⟨_, hsame, hdocument, hd⟩ := h before hbefore
  obtain rfl := hholds.unique hsame
  obtain ⟨_, hsame', -, hd'⟩ := h (before ++ [r]) hwithin
  obtain rfl := hholds'.unique hsame'
  obtain ⟨-, hchanges⟩ := hmakes.changes (hrequests r (last_mem_of_run hwithin)) hdocument
  exact hchanges.settles hd hd' (fun name => mem_targets_of_prefix hbefore)
    (fun name => mem_targets_of_prefix hwithin)
    fun name htarget => mem_targets_of_prefix hwithin (mem_targets_last htarget)

/-- Plain calls settle, since they keep the document in slots. -/
theorem Desk.settlesThroughout_of_plain (hplain : ∀ r ∈ requests, r.IsPlain)
    (hempty : desk.Holds workspace dataflow .empty) (hrequests : ∀ r ∈ requests, r.NamesOnce) :
    desk.SettlesThroughout workspace dataflow requests [] := by
  have hlast : ∀ before r, before ++ [r] <+: requests → r.IsPlain :=
    fun before r hwithin => hplain r (last_mem_of_run hwithin)
  intro before r d d' hwithin hholds _ _
  obtain ⟨_, hsame, -, hshaped⟩ := Desk.run_invariant hempty hrequests
    (P := fun _ d => Mashup.IsShaped d.mashup) (.inl rfl)
    (fun _ _ _ _ hd => hd)
    (fun before r d d' hwithin _ _ _ hchanges hd => (hlast before r hwithin).isShaped hchanges hd)
    ((List.prefix_append before [r]).trans hwithin)
  obtain rfl := hholds.unique hsame
  exact (hlast before r hwithin).settles hshaped

/-- **When the metadata mirrors the document.**  From the empty definition on, the metadata mirrors
the document throughout a run if every query that is added settles.  It does only if they settle,
the targets apart.  It does when the calls are plain. -/
theorem mirrors_run (hempty : desk.Holds workspace dataflow .empty)
    (hrequests : ∀ r ∈ requests, r.NamesOnce) :
    (desk.SettlesThroughout workspace dataflow requests [] →
        desk.MirrorsThroughout workspace dataflow requests) ∧
      (desk.MirrorsThroughout workspace dataflow requests →
        desk.SettlesThroughout workspace dataflow requests (targets requests)) ∧
      ((∀ r ∈ requests, r.IsPlain) → desk.MirrorsThroughout workspace dataflow requests) :=
  ⟨fun h => h.mirrors hempty hrequests, fun h => h.settles hrequests,
    fun h => (Desk.settlesThroughout_of_plain h hempty hrequests).mirrors hempty hrequests⟩

end

/-! ## Two runs -/

/-- A desk over a store in memory with an empty definition. -/
def sampleDesk : Desk MemoryStore :=
  ⟨MemoryStore.empty.put (text "w") (text "d") .empty, .ofSequence fun _ => wide "id"⟩

/-- The names of the queries in the document that a desk has, and those that have an entry. -/
def Desk.names (desk : Desk MemoryStore) : Option (List WideText × List WideText) :=
  (DefinitionStore.fetch desk.store (text "w") (text "d")).toOption.map
    fun d => (Mashup.namesIn d.mashup, d.registered)

theorem Desk.names_of_holds {desk : Desk MemoryStore} {d : Definition}
    (h : desk.Holds (text "w") (text "d") d) :
    desk.names = some (Mashup.namesIn d.mashup, d.registered) := by
  have hfetch : DefinitionStore.fetch desk.store (text "w") (text "d") = .ok d := h
  rw [Desk.names, hfetch]
  rfl

/-- A document that is saved, one of its queries that is written again and given a target, and the
target that is patched. -/
def sampleRequests : List Request :=
  [.saveDocument (Text.widen (Mashup.layOut Mashup.defaultHeader
      [(Mashup.Call.query ⟨text "A", text "let x = \"];\" in x", none⟩).slot (text "\r\n\r\n"),
        (Mashup.Call.query ⟨text "B", text "let x = A in x", none⟩).slot (text " ")]
      (text "\r\n")))
      false .standard,
    .addQuery (wide "A") (wide "let x = 2 in x")
      (some (wide "[DataDestinations = \x7b[QueryName = \"T\"]\x7d]")) none .standard,
    .patchQuery (wide "T") ⟨none, none, some [(wide "kind", .string (wide "Lakehouse"))]⟩]

theorem isPlain_sampleRequests : ∀ r ∈ sampleRequests, r.IsPlain := by
  have hattr : Mashup.Attribute.given?
        (some (text "[DataDestinations = \x7b[QueryName = \"T\"]\x7d]")) =
      some (text "[DataDestinations = \x7b[QueryName = \"T\"]\x7d]") := by decide +kernel
  simp only [sampleRequests, List.forall_mem_cons, List.not_mem_nil, false_imp_iff, implies_true,
    and_true]
  refine ⟨⟨_, rfl, .mk Mashup.isHead_defaultHeader (by decide) ?_ (by decide)⟩,
    ⟨rfl, ⟨text "A", text "let x = 2 in x",
      some (text "[DataDestinations = \x7b[QueryName = \"T\"]\x7d]")⟩, rfl, rfl, rfl,
      by decide, by decide, by decide +kernel, by decide +kernel, ?_⟩, trivial⟩
  · refine List.forall_mem_cons.2 ⟨(Mashup.Call.IsPlain.isWritable ?_).slot_isGood (by decide),
      List.forall_mem_singleton.2 ((Mashup.Call.IsPlain.isWritable ?_).slot_isGood (by decide))⟩
    · exact ⟨by decide, by decide, by decide +kernel, by decide +kernel, nofun⟩
    · exact ⟨by decide, by decide, by decide +kernel, by decide +kernel, nofun⟩
  · rw [hattr]
    rintro a ⟨rfl⟩
    decide +kernel

theorem mirrors_run_sampleRequests :
    sampleDesk.Holds (text "w") (text "d") .empty ∧ (∀ r ∈ sampleRequests, r.NamesOnce) ∧
      sampleDesk.MirrorsThroughout (text "w") (text "d") sampleRequests ∧
      (sampleDesk.run (text "w") (text "d") sampleRequests).names =
        some ([wide "A", wide "B"], [wide "A", wide "B", wide "T"]) := by
  have hempty : sampleDesk.Holds (text "w") (text "d") .empty := rfl
  have hrequests : ∀ r ∈ sampleRequests, r.NamesOnce := by
    simp only [sampleRequests, List.forall_mem_cons]
    refine ⟨trivial, trivial, ?_, List.forall_mem_nil _⟩
    rintro settings ⟨rfl⟩
    exact .object (by decide) (List.forall_mem_singleton.2 (.string _))
  exact ⟨hempty, hrequests,
    (mirrors_run hempty hrequests).2.2 isPlain_sampleRequests, by decide +kernel⟩

/-- A document with a comment in front of a query, and the query written again. -/
def commentedRequests : List Request :=
  [.saveDocument (Text.widen Mashup.commentedDocument) false .standard,
    .addQuery (wide "A") (wide "let y = 2 in y") none none .standard]

/-- The new declaration is written into the comment, and the entry has no reason any more. -/
theorem not_mirrors_commentedRun :
    ¬sampleDesk.MirrorsThroughout (text "w") (text "d") commentedRequests := by
  intro h
  obtain ⟨d, hholds, -, hd⟩ := h commentedRequests (List.prefix_refl _)
  have hnames : (sampleDesk.run (text "w") (text "d") commentedRequests).names =
      some ([], [wide "A"]) := by decide +kernel
  obtain ⟨hnone, hregistered⟩ :=
    Prod.mk.inj (Option.some.inj ((Desk.names_of_holds hholds).symm.trans hnames))
  have hkey : wide "A" ∈ d.registered := hregistered ▸ List.mem_singleton_self _
  have hname := hd.known _ hkey
  rw [hnone] at hname
  exact hname.elim List.not_mem_nil List.not_mem_nil

end Dataflow
