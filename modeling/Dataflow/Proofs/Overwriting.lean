import Dataflow.Proofs.Resaving
import Dataflow.Proofs.Viewing

/-!
# Setting the fields of a view

A view can be changed before it is encoded.  Encoding walks through the parts and writes each field
that is set to the first part of its role (`View.encodeParts_eq_ok`), so what that part held before
does not matter: it may have been empty, or something that could not be decoded.  But nothing is
written for a role that no part has.  A field that is set comes back just when there is a part for
it, which is `View.view_encode_overwritten`.
-/

set_option autoImplicit false

namespace Dataflow
namespace View

/-! ## Encoding -/

/-- The payload of the first part of a role when one more part stands in front. -/
theorem map_payload_firstOf_cons {role : Role} {p q : Part} {parts out : List Part}
    {payload : Part → WideText} (hpath : q.path = p.path)
    (hself : Role.ofPath? p.path = some role → q.payload = payload p)
    (hrest : Role.ofPath? p.path ≠ some role →
      (firstOf role out).map Part.payload = (firstOf role parts).map payload) :
    (firstOf role (q :: out)).map Part.payload = (firstOf role (p :: parts)).map payload := by
  by_cases hrole : Role.ofPath? p.path = some role
  · rw [firstOf_cons_self hrole, firstOf_cons_self (hpath ▸ hrole)]
    exact congrArg some (hself hrole)
  · rw [firstOf_cons_other hrole, firstOf_cons_other (hpath ▸ hrole), hrest hrole]

/-- **Encoding puts the payload of each field into the first part of its role.** -/
theorem encodeParts_eq_ok {v : View} {payloads : Role → Option WideText}
    (h : ∀ role, v.payload? role = (payloads role).map .ok) (seen : List Role)
    (parts : List Part) :
    ∃ out, v.encodeParts seen parts = .ok out ∧ ∀ role ∉ seen,
      (firstOf role out).map Part.payload =
        (firstOf role parts).map fun p => (payloads role).getD p.payload := by
  induction parts generalizing seen with
  | nil => exact ⟨[], rfl, fun role _ => rfl⟩
  | cons p rest ih =>
    rw [encodeParts]
    cases hrole : Role.ofPath? p.path with
    | none =>
      obtain ⟨out, hout, hfirst⟩ := ih seen
      refine ⟨p :: out, by simp only [hout]; rfl, fun role hnot => ?_⟩
      exact map_payload_firstOf_cons rfl (by simp [hrole]) fun _ => hfirst role hnot
    | some r =>
      by_cases hseen : r ∈ seen
      · obtain ⟨out, hout, hfirst⟩ := ih seen
        refine ⟨p :: out, by simp only [if_pos hseen, hout]; rfl, fun role hnot => ?_⟩
        refine map_payload_firstOf_cons rfl (fun hself => ?_) fun _ => hfirst role hnot
        rw [hrole] at hself
        exact absurd (Option.some.inj hself ▸ hseen) hnot
      · obtain ⟨out, hout, hfirst⟩ := ih (r :: seen)
        refine ⟨{ p with payload := (payloads r).getD p.payload } :: out, ?_, fun role hnot => ?_⟩
        · simp only [if_neg hseen, h r, hout]
          cases payloads r <;> rfl
        · refine map_payload_firstOf_cons rfl (fun hself => ?_) fun hother => hfirst role ?_
          · rw [hrole] at hself
            rw [Option.some.inj hself]
          · rw [hrole] at hother
            exact List.not_mem_cons_of_ne_of_not_mem (fun heq => hother (congrArg some heq.symm))
              hnot

/-! ## Decoding again -/

/-- What is read from a payload that was written is there just when there was a part for it. -/
theorem eq_map_of_payload {α : Type} {d e : Definition} {path payload : WideText} {a : α}
    {found : Option α}
    (h : (e.part? path).map Part.payload = (d.part? path).map fun _ => payload)
    (hnone : e.part? path = none → found = none)
    (hsome : (e.part? path).map Part.payload = some payload → found = some a) :
    found = (d.part? path).map fun _ => a := by
  cases hpart : d.part? path with
  | none =>
    rw [hpart] at h
    exact hnone (Option.map_eq_none_iff.1 h)
  | some p =>
    rw [hpart] at h
    exact hsome h

/-- What an encoding writes for each role when all the fields of a view are set. -/
def payloadOf (document metadata platform : WideText) : Role → WideText
  | .mashup => document
  | .queryMetadata => metadata
  | .platform => platform

/-- The view with all its fields set. -/
def overwrite (v : View) (document : Text) (metadata platform : Fields) : View :=
  { v with mashup := some document, queryMetadata := some metadata, platform := some platform }

/-- **What is set in a view comes back from the parts that there are**, whatever they held. -/
theorem view_encode_overwritten (d : Definition) {document : Text} (hdocument : document ≠ [])
    {metadata platform : Fields} (hmetadata : (Json.object metadata).Tidy Json.IsText)
    (hplatform : (Json.object platform).Tidy Json.IsText) :
    ∃ e, (d.view.overwrite document metadata platform).encode = .ok e ∧
      e.view.mashup = (d.part? Role.mashup.path).map (fun _ => document) ∧
      e.view.queryMetadata = (d.part? Role.queryMetadata.path).map (fun _ => metadata) ∧
      e.view.platform = (d.part? Role.platform.path).map fun _ => platform := by
  obtain ⟨mpayload, hm⟩ := Payload.exists_encodeJson hmetadata
  obtain ⟨ppayload, hp⟩ := Payload.exists_encodeJson hplatform
  let payloads role := some (payloadOf (Payload.encodeText document) mpayload ppayload role)
  have hpayloads : ∀ role, (d.view.overwrite document metadata platform).payload? role =
      (payloads role).map .ok := by
    intro role
    cases role with
    | mashup => rfl
    | queryMetadata => exact congrArg some hm
    | platform => exact congrArg some hp
  obtain ⟨out, hout, hfirst⟩ := encodeParts_eq_ok hpayloads [] d.parts
  have hparts : (d.view.overwrite document metadata platform).parts = d.parts :=
    parts_ofParts d.parts [] d.parts
  have hpart : ∀ role, ((Definition.mk out).part? role.path).map Part.payload =
      (d.part? role.path).map fun p => (payloads role).getD p.payload := by
    intro role
    rw [← firstOf_eq_part?, ← firstOf_eq_part?]
    exact hfirst role List.not_mem_nil
  refine ⟨⟨out⟩, by rw [encode, hparts, hout]; rfl, ?_, ?_, ?_⟩
  · rw [Definition.mashup_view]
    exact eq_map_of_payload (hpart .mashup) Definition.text?_of_part?_eq_none
      (Definition.text?_of_payload hdocument)
  · rw [Definition.queryMetadata_view]
    exact eq_map_of_payload (hpart .queryMetadata) Definition.fields?_of_part?_eq_none
      (Definition.fields?_of_payload (hmetadata.mono fun _ _ => trivial) hm)
  · rw [Definition.platform_view]
    exact eq_map_of_payload (hpart .platform) Definition.fields?_of_part?_eq_none
      (Definition.fields?_of_payload (hplatform.mono fun _ _ => trivial) hp)

/-- A document whose part is empty, the metadata under a path in capitals behind one that is no
base64, and no part for the platform. -/
def hollowDefinition : Definition :=
  ⟨[⟨wide "mashup.pq", [], inlineBase64⟩,
    ⟨wide "queryMetadata.json", wide "#", inlineBase64⟩,
    ⟨wide "QUERYMETADATA.JSON", wide "e30=", inlineBase64⟩]⟩

/-- Fields that are set in a view of it. -/
def sampleFields : Fields := [(wide "a", .string (wide "b"))]

theorem tidy_sampleFields : (Json.object sampleFields).Tidy Json.IsText :=
  Json.Tidy.emptyObject.set (Json.isText_wide "a") (.string (Json.isText_wide "b"))

theorem view_encode_overwritten_hollowDefinition :
    ∃ e, (hollowDefinition.view.overwrite (text "shared A = 1;") sampleFields []).encode = .ok e ∧
      e.view.mashup = some (text "shared A = 1;") ∧ e.view.queryMetadata = some sampleFields ∧
      e.view.platform = none :=
  view_encode_overwritten hollowDefinition (by decide) tidy_sampleFields .emptyObject

/-- **Without parts nothing that is set comes back.** -/
theorem not_view_encode_overwritten_empty :
    ¬∃ e, (Definition.empty.view.overwrite (text "shared A = 1;") [] []).encode = .ok e ∧
      e.view.mashup = some (text "shared A = 1;") ∧ e.view.queryMetadata = some [] ∧
      e.view.platform = some [] := by
  rintro ⟨e, hencode, hmashup, -, -⟩
  obtain rfl : Definition.empty = e := Except.ok.inj hencode
  cases hmashup

end View
end Dataflow
