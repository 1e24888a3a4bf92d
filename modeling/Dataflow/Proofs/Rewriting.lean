import Dataflow.Proofs.Reencoding
import Dataflow.Proofs.Resaving

/-!
# What an edit leaves alone

An edit reads the parts that it needs and writes at most two: the document, and behind it the
metadata.  Each time it writes the first part of a role, or appends one when there is none.  The
second write goes to what the first one left, though its content was computed from the definition
before either.

Both writes are of one kind, `Rewrites`, which says everything about the parts but the payloads
that are written.  Writes for different roles do not get in each other's way, because neither
changes where the first part of another role stands.
-/

set_option autoImplicit false

namespace Dataflow

namespace Role

/-- All but the payload of a part that is appended for a role. -/
def frame (role : Role) : WideText × WideText := (role.path, inlineBase64)

theorem key_injective {role other : Role} (h : role.key = other.key) : role = other := by
  have hother := ofPath?_eq_some_iff.2 ((lower_path role).trans h)
  rw [ofPath?_eq_some_iff.2 (lower_path role)] at hother
  exact Option.some.inj hother

end Role

namespace Definition

variable {d e r : Definition} {role : Role}

/-! ## Where the parts of the roles stand -/

/-- The index of the first part of a role. -/
def seat? (d : Definition) (role : Role) : Option Nat :=
  d.parts.findIdx? fun p => p.isAt role.path

theorem seat?_cons_of_isAt {p : Part} (hp : p.isAt role.path = true) (rest : List Part) :
    seat? ⟨p :: rest⟩ role = some 0 := by
  rw [seat?, List.findIdx?_cons, if_pos hp]

theorem seat?_cons_of_not_isAt {p : Part} (hp : ¬p.isAt role.path = true) (rest : List Part) :
    seat? ⟨p :: rest⟩ role = (seat? ⟨rest⟩ role).map (· + 1) := by
  rw [seat?, List.findIdx?_cons, if_neg hp]
  rfl

theorem seat?_eq_none_iff : d.seat? role = none ↔ d.part? role.path = none := by
  rw [seat?, List.findIdx?_eq_none_iff, part?, List.find?_eq_none]
  simp only [Bool.not_eq_true]

/-- Where a part stands is a matter of the paths. -/
theorem seat?_eq (d : Definition) (role : Role) :
    d.seat? role = (d.parts.map Part.frame).findIdx? fun f => f.1.lower == role.key := by
  rw [seat?, List.findIdx?_map]
  refine congrArg (List.findIdx? · d.parts) (funext fun p => ?_)
  rw [Part.isAt, Role.lower_path]
  rfl

/-- Parts of other roles that are appended move no seat. -/
theorem seat?_of_frames {appended : List Role} (hrole : role ∉ appended)
    (h : r.parts.map Part.frame = d.parts.map Part.frame ++ appended.map Role.frame) :
    r.seat? role = d.seat? role := by
  have hnone : (appended.map Role.frame).findIdx? (fun f => f.1.lower == role.key) = none := by
    rw [List.findIdx?_eq_none_iff]
    intro f hf
    obtain ⟨other, hother, rfl⟩ := List.mem_map.1 hf
    refine beq_false_of_ne fun heq => hrole ?_
    rw [Role.frame, Role.lower_path] at heq
    exact Role.key_injective heq ▸ hother
  rw [seat?_eq, seat?_eq, h, List.findIdx?_append, hnone, Option.map_none, Option.or_none]

/-! ## Rewriting -/

/-- The parts of some roles are written anew.  For each role this is its first part; when there is
none, one is appended.  All else stays. -/
structure Rewrites (roles : List Role) (d r : Definition) : Prop where
  /-- Paths and encodings stay, and parts are appended for the roles that had none. -/
  frames : r.parts.map Part.frame = d.parts.map Part.frame ++
    (roles.filter fun role => (d.seat? role).isNone).map Role.frame
  /-- Of the parts that there were, only the first of a role may have another payload. -/
  payloads : ∀ (i : Nat) (p : Part), d.parts[i]? = some p →
    (∀ role ∈ roles, d.seat? role ≠ some i) → r.parts[i]? = some p

theorem Rewrites.seat?_other {roles : List Role} (h : d.Rewrites roles r) (hrole : role ∉ roles) :
    r.seat? role = d.seat? role :=
  seat?_of_frames (fun hmem => hrole (List.mem_filter.1 hmem).1) h.frames

/-- When no role lacks a part, none is appended. -/
theorem Rewrites.map_frame {roles : List Role} (h : d.Rewrites roles r)
    (hseat : ∀ role ∈ roles, d.seat? role ≠ none) :
    r.parts.map Part.frame = d.parts.map Part.frame := by
  have hnone : roles.filter (fun role => (d.seat? role).isNone) = [] := by
    rw [List.filter_eq_nil_iff]
    exact fun role hrole hlacks => hseat role hrole (Option.isNone_iff_eq_none.1 hlacks)
  rw [h.frames, hnone, List.map_nil, List.append_nil]

/-- **Writing the payload of a role rewrites its part.** -/
theorem rewrites_setPayload (d : Definition) (role : Role) (payload : WideText) :
    d.Rewrites [role] (d.setPayload role.path payload) := by
  obtain ⟨parts⟩ := d
  rw [setPayload]
  induction parts with
  | nil => exact ⟨rfl, fun i p hi => by cases hi⟩
  | cons p rest ih =>
    rw [setPayloadIn]
    by_cases hp : p.isAt role.path = true
    · have hseat := seat?_cons_of_isAt hp rest
      rw [if_pos hp]
      refine ⟨by simp [hseat, Part.frame], fun i q hi hother => ?_⟩
      cases i with
      | zero => exact absurd hseat (hother role List.mem_cons_self)
      | succ i => exact hi
    · have hseat := seat?_cons_of_not_isAt hp rest
      rw [if_neg hp]
      refine ⟨?_, fun i q hi hother => ?_⟩
      · have hlacks : (seat? ⟨p :: rest⟩ role).isNone = (seat? ⟨rest⟩ role).isNone := by
          rw [hseat, Option.isNone_map]
        have hframes := ih.frames
        simp only [List.filter_cons, List.filter_nil] at hframes ⊢
        rw [List.map_cons, hframes, hlacks, List.map_cons, List.cons_append]
      · cases i with
        | zero => exact hi
        | succ i =>
          refine ih.payloads i q hi fun other hmem heq => hother other hmem ?_
          obtain rfl := List.mem_singleton.1 hmem
          rw [hseat, heq]
          rfl

/-- **Two writes for different roles are one write for them all.** -/
theorem Rewrites.append {roles roles' : List Role} (h : d.Rewrites roles e)
    (h' : e.Rewrites roles' r) (hdisjoint : ∀ role ∈ roles', role ∉ roles) :
    d.Rewrites (roles ++ roles') r := by
  have hseat : ∀ role ∈ roles', e.seat? role = d.seat? role :=
    fun role hrole => h.seat?_other (hdisjoint role hrole)
  constructor
  · have hlacks : roles'.filter (fun role => (e.seat? role).isNone) =
        roles'.filter fun role => (d.seat? role).isNone :=
      List.filter_congr fun role hrole => by rw [hseat role hrole]
    rw [h'.frames, h.frames, hlacks, List.filter_append, List.map_append, List.append_assoc]
  · intro i p hi hother
    refine h'.payloads i p (h.payloads i p hi fun role hrole => ?_) fun role hrole => ?_
    · exact hother role (List.mem_append_left _ hrole)
    · rw [hseat role hrole]
      exact hother role (List.mem_append_right _ hrole)

/-! ## The edits -/

/-- An edit with all its arguments. -/
inductive Edit where
  | addQuery (name code : WideText) (attr sectionAttr : Option WideText) (defaults : Defaults)
  | connect (bindings : List Binding) (defaults : Defaults)
  | replaceDocument (document : WideText) (queries : List Mashup.WideQuery) (defaults : Defaults)
  | patchQuery (name : WideText) (patch : Patch)

/-- The roles whose parts an edit writes, in the order in which it appends them. -/
def Edit.roles : Edit → List Role
  | addQuery .. => [.mashup, .queryMetadata]
  | connect .. => [.queryMetadata]
  | replaceDocument .. => [.mashup, .queryMetadata]
  | patchQuery .. => [.queryMetadata]

/-- What an edit makes of a definition, with the ids that it leaves. -/
def edit (d : Definition) (ids : IdSupply) : Edit → Except Failure Definition × IdSupply
  | .addQuery name code attr sectionAttr defaults =>
    d.addQuery name code attr sectionAttr defaults ids
  | .connect bindings defaults => (d.connect bindings defaults, ids)
  | .replaceDocument document queries defaults => d.replaceDocument document queries defaults ids
  | .patchQuery name patch => (d.patchQuery name patch, ids)

/-- Metadata is written to its own part. -/
theorem rewrites_setMetadata {m : Metadata} (h : d.setMetadata m = .ok r) :
    d.Rewrites [.queryMetadata] r := by
  obtain ⟨payload, -, rfl⟩ := setMetadata_eq_ok_iff.1 h
  exact d.rewrites_setPayload .queryMetadata payload

/-- A document with metadata behind it is written to the two parts. -/
theorem rewrites_setDocument {document : WideText} {change : Metadata.Change} {defaults : Defaults}
    {ids : IdSupply} (h : (d.setDocument document change defaults ids).1 = .ok r) :
    d.Rewrites [.mashup, .queryMetadata] r := by
  obtain ⟨t, m, -, -, hset⟩ := exists_of_setDocument (Prod.ext h rfl)
  exact (d.rewrites_setPayload .mashup (Payload.encodeText t)).append (rewrites_setMetadata hset)
    (by decide)

/-- A patch writes metadata that was read, so there is a part for it. -/
theorem patchQuery_cases {name : WideText} {patch : Patch} (h : d.patchQuery name patch = .ok r) :
    d.seat? .queryMetadata ≠ none ∧ ∃ m, d.setMetadata m = .ok r := by
  obtain ⟨fields, m, hfields, -, hset⟩ := patchQuery_eq_ok_iff.1 h
  refine ⟨fun hnone => ?_, m, hset⟩
  rw [fields?, text?, seat?_eq_none_iff.1 hnone] at hfields
  cases hfields

/-- **An edit rewrites the parts of its own roles and no other**, and a patch appends none. -/
theorem rewrites_of_edit {ids : IdSupply} {change : Edit} (h : (d.edit ids change).1 = .ok r) :
    d.Rewrites change.roles r ∧ ∀ name patch, change = .patchQuery name patch →
      r.parts.map Part.frame = d.parts.map Part.frame := by
  cases change with
  | addQuery name code attr sectionAttr defaults =>
    rw [Definition.edit, addQuery] at h
    split at h
    · cases h
    · refine ⟨rewrites_setDocument h, fun _ _ hpatch => ?_⟩
      cases hpatch
  | connect bindings defaults =>
    refine ⟨rewrites_setMetadata h, fun _ _ hpatch => ?_⟩
    cases hpatch
  | replaceDocument document queries defaults =>
    refine ⟨rewrites_setDocument h, fun _ _ hpatch => ?_⟩
    cases hpatch
  | patchQuery name patch =>
    obtain ⟨hseat, m, hset⟩ := patchQuery_cases h
    have hrewrites := rewrites_setMetadata hset
    refine ⟨hrewrites, fun _ _ _ => hrewrites.map_frame fun role hrole => ?_⟩
    obtain rfl := List.mem_singleton.1 hrole
    exact hseat

/-- A definition with two documents, the first under a path in capitals, and no metadata. -/
def twiceWritten : Definition :=
  ⟨[⟨wide "notes.txt", wide "#", wide "Plain"⟩,
    ⟨wide "MASHUP.PQ", wide "c2hhcmVkIEEgPSAxOw==", wide "inline"⟩,
    ⟨wide "mashup.pq", wide "#", inlineBase64⟩]⟩

/-- A query that is added to it. -/
def sampleEdit : Edit := .addQuery (wide "B") (wide "2") none none .standard

theorem rewrites_of_edit_twiceWritten :
    ∃ r, (twiceWritten.edit (.ofSequence fun _ => wide "q") sampleEdit).1 = .ok r ∧
      r.parts.map Part.path =
        [wide "notes.txt", wide "MASHUP.PQ", wide "mashup.pq", wide "queryMetadata.json"] ∧
      r.parts[0]? = twiceWritten.parts[0]? ∧ r.parts[2]? = twiceWritten.parts[2]? := by
  have hedit : (twiceWritten.edit (.ofSequence fun _ => wide "q")
      sampleEdit).1.toOption.isSome = true := by decide +kernel
  obtain ⟨r, hr⟩ := Option.isSome_iff_exists.1 hedit
  have h := eq_ok_of_toOption hr
  obtain ⟨hrewrites, -⟩ := rewrites_of_edit h
  refine ⟨r, h, ?_, ?_, ?_⟩
  · have hpaths := congrArg (List.map Prod.fst) hrewrites.frames
    rw [List.map_map] at hpaths
    exact hpaths
  · exact hrewrites.payloads 0 _ rfl (by decide)
  · exact hrewrites.payloads 2 _ rfl (by decide)

end Definition
end Dataflow
