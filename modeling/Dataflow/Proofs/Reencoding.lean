import Dataflow.Definition.View
import Dataflow.Proofs.Payload

/-!
# Encoding a decoded definition

Decoding goes through the parts once and encoding goes through them again, each with its own list of
the roles that occurred.  The two lists agree, so the field that encoding finds for a part is the
one that decoding took from it, and the two passes are one, `recodeParts`: the first part of each
role has its content written anew, and all others are copied.

Content that was written anew reads back as the same content.  So a second round changes nothing,
and the parts that no field of the view stands for, the `Part.IsForeign` ones, have come through
both: `encode_view_stable`.
-/

set_option autoImplicit false

namespace Dataflow

/-! ## The role of a part -/

namespace Role

theorem ofPath?_eq_some_iff {path : WideText} {role : Role} :
    ofPath? path = some role ↔ path.lower = role.key := by
  have hkey : ∀ r r' : Role, r.key = r'.key → r = r' := by
    intro r r'
    cases r <;> cases r' <;> decide
  constructor
  · intro h
    simpa using List.find?_some h
  · intro h
    cases hfound : ofPath? path with
    | none =>
      have hnone := List.find?_eq_none.1 hfound role (by cases role <;> simp)
      exact absurd (beq_iff_eq.2 h) hnone
    | some r =>
      have hr : path.lower = r.key := by simpa using List.find?_some hfound
      rw [hkey r role (hr.symm.trans h)]

end Role

theorem Part.isAt_path_iff {p : Part} {role : Role} :
    p.isAt role.path = true ↔ Role.ofPath? p.path = some role := by
  rw [Role.ofPath?_eq_some_iff, Part.isAt, Role.lower_path, beq_iff_eq]

/-! ## One part -/

/-- The role that a content belongs to. -/
def Content.role : Content → Role
  | mashup _ => .mashup
  | queryMetadata _ => .queryMetadata
  | platform _ => .platform

/-- The payload of a content. -/
def Content.payload : Content → Except Payload.EncodeFault WideText
  | mashup document => .ok (Payload.encodeText document)
  | queryMetadata fields => Payload.encodeJson (.object fields)
  | platform fields => Payload.encodeJson (.object fields)

/-- The content of a text in a role. -/
def Content.ofText? (role : Role) (t : Text) : Option Content :=
  match role with
  | .mashup => some (.mashup t)
  | .queryMetadata => (Payload.readObject t).toOption.map .queryMetadata
  | .platform => (Payload.readObject t).toOption.map .platform

/-- The payload that the content of a part in a role gets, if the part can be decoded. -/
def Part.recoded (p : Part) (role : Role) : Option (Except Payload.EncodeFault WideText) :=
  (p.content role).toOption.map Content.payload

theorem Content.role_of_ofText? {role : Role} {t : Text} {c : Content}
    (h : ofText? role t = some c) : c.role = role := by
  cases role with
  | mashup =>
    cases h
    rfl
  | queryMetadata =>
    obtain ⟨fields, -, rfl⟩ := Option.map_eq_some_iff.1 h
    rfl
  | platform =>
    obtain ⟨fields, -, rfl⟩ := Option.map_eq_some_iff.1 h
    rfl

/-- **The payload of a content reads back as that content.** -/
theorem Content.exists_of_payload {role : Role} {t : Text} {c : Content} {payload : WideText}
    (hc : ofText? role t = some c) (hpayload : c.payload = .ok payload) :
    ∃ u, payload = Payload.encodeText u ∧ ofText? role u = some c := by
  have hobject : ∀ {fields : Fields}, (Payload.readObject t).toOption = some fields →
      Payload.encodeJson (.object fields) = .ok payload →
      ∃ u, payload = Payload.encodeText u ∧ Payload.readObject u = .ok fields := by
    intro fields hread hencode
    have htidy := Json.tidy_of_read (Payload.readObject_eq_ok_iff.1 (eq_ok_of_toOption hread))
    obtain ⟨u, hu, hread⟩ := Payload.exists_of_encodeJson htidy hencode
    exact ⟨u, hu, Payload.readObject_eq_ok_iff.2 hread⟩
  cases role with
  | mashup =>
    cases hc
    exact ⟨t, (Except.ok.inj hpayload).symm, rfl⟩
  | queryMetadata =>
    obtain ⟨fields, hread, rfl⟩ := Option.map_eq_some_iff.1 hc
    obtain ⟨u, hu, hfields⟩ := hobject hread hpayload
    exact ⟨u, hu, by rw [ofText?, hfields]; rfl⟩
  | platform =>
    obtain ⟨fields, hread, rfl⟩ := Option.map_eq_some_iff.1 hc
    obtain ⟨u, hu, hfields⟩ := hobject hread hpayload
    exact ⟨u, hu, by rw [ofText?, hfields]; rfl⟩

/-- What a part says is what its text says. -/
theorem Part.toOption_content (p : Part) (role : Role) :
    (p.content role).toOption = if p.payload = [] then none else
      (Payload.decode p.payload).toOption.bind (Content.ofText? role) := by
  rw [Part.content]
  by_cases hempty : p.payload = []
  · rw [if_pos hempty, if_pos (List.isEmpty_iff.2 hempty)]
    rfl
  · rw [if_neg hempty, if_neg (fun h => hempty (List.isEmpty_iff.1 h))]
    cases Payload.decode p.payload with
    | error fault => rfl
    | ok t =>
      cases role with
      | mashup => rfl
      | queryMetadata =>
        cases hread : Payload.readObject t <;> simp [Content.ofText?, hread, Except.toOption]
      | platform =>
        cases hread : Payload.readObject t <;> simp [Content.ofText?, hread, Except.toOption]

theorem Part.content_role {p : Part} {role : Role} {c : Content} (h : p.content role = .ok c) :
    c.role = role := by
  have hsome : (p.content role).toOption = some c := by rw [h]; rfl
  rw [Part.toOption_content] at hsome
  split at hsome
  · cases hsome
  · obtain ⟨t, -, hc⟩ := Option.bind_eq_some_iff.1 hsome
    exact Content.role_of_ofText? hc

/-- **A part with its content written anew stays as it is**: either it is empty now, or it has the
same content. -/
theorem Part.recoded_recoded {p : Part} {role : Role} {payload : WideText}
    (h : p.recoded role = some (.ok payload)) :
    Part.recoded { p with payload } role = none ∨
      Part.recoded { p with payload } role = some (.ok payload) := by
  obtain ⟨c, hc, hpayload⟩ := Option.map_eq_some_iff.1 h
  rw [Part.toOption_content] at hc
  split at hc
  · cases hc
  · obtain ⟨t, -, hc⟩ := Option.bind_eq_some_iff.1 hc
    obtain ⟨u, rfl, hu⟩ := Content.exists_of_payload hc hpayload
    rw [Part.recoded, Part.toOption_content]
    split
    · exact .inl rfl
    · refine .inr ?_
      have hdecode := Payload.decode_encodeText u
      rw [hdecode]
      exact (congrArg (Option.map Content.payload) hu).trans (congrArg some hpayload)

/-! ## The two passes are one -/

namespace View

/-- The content that a view has for a role, if the field is set. -/
def content? (v : View) : Role → Option Content
  | .mashup => v.mashup.map .mashup
  | .queryMetadata => v.queryMetadata.map .queryMetadata
  | .platform => v.platform.map .platform

/-- The payload of a role is that of its content. -/
theorem payload?_eq (v : View) (role : Role) :
    v.payload? role = (v.content? role).map Content.payload := by
  cases role <;> rw [payload?, content?, Option.map_map] <;> rfl

theorem content?_withContent (v : View) (c : Content) (role : Role) :
    (v.withContent c).content? role = if role = c.role then some c else v.content? role := by
  cases c <;> cases role <;> rfl

theorem content?_withDiagnostic (v : View) (d : Diagnostic) (role : Role) :
    (v.withDiagnostic d).content? role = v.content? role := by
  cases role <;> rfl

/-- The first part of a role. -/
def firstOf (role : Role) (parts : List Part) : Option Part :=
  parts.find? fun p => Role.ofPath? p.path = some role

theorem firstOf_cons_self {p : Part} {role : Role} (h : Role.ofPath? p.path = some role)
    (rest : List Part) : firstOf role (p :: rest) = some p :=
  List.find?_cons_of_pos (decide_eq_true h)

theorem firstOf_cons_other {p : Part} {role : Role} (h : Role.ofPath? p.path ≠ some role)
    (rest : List Part) : firstOf role (p :: rest) = firstOf role rest :=
  List.find?_cons_of_neg (by simpa using h)

/-- Decoding takes the field of a role from the first part of that role. -/
theorem content?_ofParts (all : List Part) (seen : List Role) (parts : List Part) (role : Role) :
    (ofParts all seen parts).content? role =
      if role ∈ seen then none
      else (firstOf role parts).bind fun p => (p.content role).toOption := by
  induction parts generalizing seen with
  | nil =>
    rw [ofParts]
    split <;> cases role <;> rfl
  | cons p rest ih =>
    rw [ofParts]
    cases hrole : Role.ofPath? p.path with
    | none =>
      rw [firstOf_cons_other (by rw [hrole]; exact nofun)]
      exact ih seen
    | some r =>
      by_cases hr : r = role
      · subst hr
        rw [firstOf_cons_self hrole]
        by_cases hseen : r ∈ seen
        · simp only [if_pos hseen, content?_withDiagnostic, ih seen]
        · have hrest : (ofParts all (r :: seen) rest).content? r = none := by
            rw [ih, if_pos List.mem_cons_self]
          simp only [if_neg hseen, Option.bind_some]
          cases hcontent : p.content r with
          | ok c => simp only [content?_withContent, if_pos (Part.content_role hcontent).symm]; rfl
          | error d => simp only [content?_withDiagnostic, hrest]; rfl
      · -- a part of another role changes nothing, whether it is the first of that role or not
        have hmem : role ∈ r :: seen ↔ role ∈ seen := by simp [Ne.symm hr]
        rw [firstOf_cons_other (by rw [hrole]; exact fun h => hr (Option.some.inj h))]
        by_cases hseen : r ∈ seen
        · simp only [if_pos hseen, content?_withDiagnostic, ih seen]
        · simp only [if_neg hseen]
          cases hcontent : p.content r with
          | ok c =>
            have hc : role ≠ c.role := fun h => hr (h.trans (Part.content_role hcontent)).symm
            simp only [content?_withContent, if_neg hc, ih, hmem]
          | error d => simp only [content?_withDiagnostic, ih, hmem]

/-- The payload that encoding finds is that of the first part of the role, written anew. -/
theorem payload?_ofParts (all : List Part) {seen : List Role} (parts : List Part) {role : Role}
    (h : role ∉ seen) :
    (ofParts all seen parts).payload? role = (firstOf role parts).bind (Part.recoded · role) := by
  rw [payload?_eq, content?_ofParts, if_neg h, Option.map_bind]
  rfl

end View

/-- The part with its content written anew, if it is the first of its role and can be decoded; the
roles in `seen` occurred before. -/
def Part.recode (seen : List Role) (p : Part) : Except Payload.EncodeFault Part :=
  match Role.ofPath? p.path with
  | none => .ok p
  | some role =>
    if role ∈ seen then .ok p
    else
      match p.recoded role with
      | none => .ok p
      | some result => result.map fun payload => { p with payload }

/-- The roles that occurred when those in `seen` did and the part did. -/
def Part.seenBehind (seen : List Role) (p : Part) : List Role :=
  (Role.ofPath? p.path).toList ++ seen

/-- Some parts, each with its content written anew. -/
def recodeParts (seen : List Role) : List Part → Except Payload.EncodeFault (List Part)
  | [] => .ok []
  | p :: rest =>
    match p.recode seen with
    | .error fault => .error fault
    | .ok q => (recodeParts (p.seenBehind seen) rest).map (q :: ·)

namespace View

/-- Only the roles that did not occur matter. -/
theorem encodeParts_congr (v : View) {seen seen' : List Role}
    (h : ∀ role, role ∈ seen ↔ role ∈ seen') (parts : List Part) :
    v.encodeParts seen parts = v.encodeParts seen' parts := by
  induction parts generalizing seen seen' with
  | nil => rfl
  | cons p rest ih =>
    have hcons : ∀ role r : Role, r ∈ role :: seen ↔ r ∈ role :: seen' := by
      intro role r
      rw [List.mem_cons, List.mem_cons, h r]
    rw [encodeParts, encodeParts]
    cases Role.ofPath? p.path with
    | none => simp only [ih h]
    | some role => simp only [h role, ih h, ih (hcons role)]

/-- Encoding finds for each part what decoding took from it. -/
theorem encodeParts_eq_recodeParts {v : View} {seen : List Role} {parts : List Part}
    (h : ∀ role, role ∉ seen →
      v.payload? role = (firstOf role parts).bind (Part.recoded · role)) :
    v.encodeParts seen parts = recodeParts seen parts := by
  induction parts generalizing seen with
  | nil => rfl
  | cons p rest ih =>
    rw [encodeParts, recodeParts, Part.recode, Part.seenBehind]
    cases hrole : Role.ofPath? p.path with
    | none =>
      have hrest : v.encodeParts seen rest = recodeParts seen rest := by
        refine ih fun role hseen => ?_
        rw [h role hseen, firstOf_cons_other (by rw [hrole]; exact nofun)]
      simp only [hrest, Option.toList_none, List.nil_append]
    | some r =>
      have hother : ∀ role, role ≠ r → firstOf role (p :: rest) = firstOf role rest :=
        fun role hne => firstOf_cons_other
          (by rw [hrole]; exact fun h => hne (Option.some.inj h).symm) rest
      have hrest : v.encodeParts (r :: seen) rest = recodeParts (r :: seen) rest := by
        refine ih fun role hnot => ?_
        rw [List.mem_cons, not_or] at hnot
        rw [h role hnot.2, hother role hnot.1]
      by_cases hseen : r ∈ seen
      · have hsame : v.encodeParts seen rest = v.encodeParts (r :: seen) rest := by
          refine v.encodeParts_congr (fun role => ?_) rest
          rw [List.mem_cons, or_iff_right_of_imp (fun heq => heq ▸ hseen)]
        simp only [if_pos hseen, hsame, hrest, Option.toList_some, List.singleton_append]
      · have hfirst : v.payload? r = p.recoded r := by
          rw [h r hseen, firstOf_cons_self hrole, Option.bind_some]
        cases hrecoded : p.recoded r with
        | none =>
          simp only [if_neg hseen, hfirst, hrecoded, hrest, Option.toList_some,
            List.singleton_append]
        | some result =>
          cases result with
          | error fault => simp only [if_neg hseen, hfirst, hrecoded, Except.map]
          | ok payload =>
            simp only [if_neg hseen, hfirst, hrecoded, hrest, Option.toList_some,
              List.singleton_append, Except.map]

theorem parts_ofParts (all : List Part) (seen : List Role) (parts : List Part) :
    (ofParts all seen parts).parts = all := by
  have hcontent : ∀ (v : View) (c : Content), (v.withContent c).parts = v.parts := by
    intro v c
    cases c <;> rfl
  have hdiagnostic : ∀ (v : View) (d : Diagnostic), (v.withDiagnostic d).parts = v.parts :=
    fun _ _ => rfl
  induction parts generalizing seen with
  | nil => rfl
  | cons p rest ih =>
    rw [ofParts]
    split
    · exact ih seen
    · split
      · rw [hdiagnostic, ih]
      · split
        · rw [hcontent, ih]
        · rw [hdiagnostic, ih]

end View

/-- **Decoding and encoding are one pass over the parts.** -/
theorem Definition.encode_view (d : Definition) :
    d.view.encode = (recodeParts [] d.parts).map Definition.mk := by
  rw [View.encode, Definition.view, View.parts_ofParts, View.encodeParts_eq_recodeParts]
  exact fun role hseen => View.payload?_ofParts d.parts d.parts hseen

/-! ## One step of the pass -/

namespace Part

variable {p q : Part} {seen : List Role}

/-- What one step does: it copies the part, or puts the payload of its content in the place of its
payload. -/
theorem recode_cases (h : p.recode seen = .ok q) :
    q = p ∨ ∃ role payload, Role.ofPath? p.path = some role ∧ role ∉ seen ∧
      p.recoded role = some (.ok payload) ∧ q = { p with payload } := by
  rw [recode.eq_def] at h
  split at h
  · exact .inl (Except.ok.inj h).symm
  · rename_i role hrole
    split at h
    · exact .inl (Except.ok.inj h).symm
    · rename_i hseen
      split at h
      · exact .inl (Except.ok.inj h).symm
      · rename_i result hrecoded
        cases result with
        | error fault => cases h
        | ok payload =>
          exact .inr ⟨role, payload, hrole, hseen, hrecoded, (Except.ok.inj h).symm⟩

/-- What stays of a part: all but its payload. -/
def frame (p : Part) : WideText × WideText := (p.path, p.payloadType)

theorem frame_recode (h : p.recode seen = .ok q) : q.frame = p.frame := by
  obtain rfl | ⟨role, payload, -, -, -, rfl⟩ := recode_cases h
  · rfl
  · rfl

theorem seenBehind_recode (h : p.recode seen = .ok q) : q.seenBehind seen = p.seenBehind seen := by
  have hpath : q.path = p.path := congrArg Prod.fst (frame_recode h)
  rw [seenBehind, seenBehind, hpath]

/-- A second step changes nothing. -/
theorem recode_recode (h : p.recode seen = .ok q) : q.recode seen = .ok q := by
  obtain rfl | ⟨role, payload, hrole, hseen, hrecoded, rfl⟩ := recode_cases h
  · exact h
  · rw [recode, hrole]
    simp only [if_neg hseen]
    rcases recoded_recoded hrecoded with hnone | hsome
    · rw [hnone]
    · rw [hsome]
      rfl

/-- A part that a step copies when the roles in `seen` occurred before. -/
def IsCopied (seen : List Role) (p : Part) : Prop :=
  ∀ role, Role.ofPath? p.path = some role → role ∈ seen ∨ p.recoded role = none

theorem IsCopied.recode_eq (hp : p.IsCopied seen) (h : p.recode seen = .ok q) : q = p := by
  obtain rfl | ⟨role, payload, hrole, hseen, hrecoded, -⟩ := recode_cases h
  · rfl
  · have hnone := (hp role hrole).resolve_left hseen
    rw [hnone] at hrecoded
    cases hrecoded

end Part

/-! ## The whole pass -/

section

variable {seen : List Role} {parts out : List Part}

theorem recodeParts_cons_eq_ok {p : Part} (h : recodeParts seen (p :: parts) = .ok out) :
    ∃ q rest, p.recode seen = .ok q ∧ recodeParts (p.seenBehind seen) parts = .ok rest ∧
      out = q :: rest := by
  rw [recodeParts] at h
  cases hstep : p.recode seen with
  | error fault =>
    rw [hstep] at h
    cases h
  | ok q =>
    simp only [hstep] at h
    cases hrest : recodeParts (p.seenBehind seen) parts with
    | error fault =>
      rw [hrest] at h
      cases h
    | ok rest =>
      rw [hrest] at h
      exact ⟨q, rest, rfl, rfl, (Except.ok.inj h).symm⟩

theorem map_frame_recodeParts (h : recodeParts seen parts = .ok out) :
    out.map Part.frame = parts.map Part.frame := by
  induction parts generalizing seen out with
  | nil =>
    cases h
    rfl
  | cons p parts ih =>
    obtain ⟨q, rest, hstep, hrest, rfl⟩ := recodeParts_cons_eq_ok h
    rw [List.map_cons, List.map_cons, Part.frame_recode hstep, ih hrest]

/-- A second pass changes nothing. -/
theorem recodeParts_recodeParts (h : recodeParts seen parts = .ok out) :
    recodeParts seen out = .ok out := by
  induction parts generalizing seen out with
  | nil =>
    cases h
    rfl
  | cons p parts ih =>
    obtain ⟨q, rest, hstep, hrest, rfl⟩ := recodeParts_cons_eq_ok h
    have hagain := ih hrest
    rw [recodeParts, Part.recode_recode hstep]
    simp only [Part.seenBehind_recode hstep, hagain]
    rfl

/-- The roles that occur in some parts. -/
def rolesOf (parts : List Part) : List Role := parts.filterMap fun p => Role.ofPath? p.path

/-- A part that its step copies is in its place afterwards. -/
theorem getElem?_recodeParts (h : recodeParts seen parts = .ok out) {i : Nat} {p : Part}
    (hi : parts[i]? = some p) (hp : p.IsCopied (rolesOf (parts.take i) ++ seen)) :
    out[i]? = some p := by
  induction parts generalizing seen out i with
  | nil => cases hi
  | cons first parts ih =>
    obtain ⟨q, rest, hstep, hrest, rfl⟩ := recodeParts_cons_eq_ok h
    cases i with
    | zero =>
      obtain rfl : first = p := Option.some.inj hi
      exact congrArg some (Part.IsCopied.recode_eq hp hstep)
    | succ i =>
      refine ih hrest hi fun role hrole => (hp role hrole).imp_left fun hmem => ?_
      rw [Part.seenBehind]
      rw [List.take_succ_cons, rolesOf, List.filterMap_cons] at hmem
      simp only [List.mem_append] at hmem ⊢
      cases hfirst : Role.ofPath? first.path with
      | none =>
        rw [hfirst] at hmem
        simpa [rolesOf] using hmem
      | some r =>
        rw [hfirst] at hmem
        simp only [List.mem_cons, Option.toList_some] at hmem ⊢
        rcases hmem with (rfl | hmem) | hmem
        · exact .inr (.inl (.inl rfl))
        · exact .inl hmem
        · exact .inr (.inr hmem)

end

/-! ## Foreign parts -/

/-- A part behind some others that no field of the view stands for. -/
inductive Part.IsForeign (before : List Part) (p : Part) : Prop where
  /-- Its path has no meaning. -/
  | unknown (h : ∀ role : Role, p.isAt role.path = false)
  /-- An earlier part has its role. -/
  | repeated (role : Role) (q : Part) (hq : q ∈ before) (hfirst : q.isAt role.path = true)
      (h : p.isAt role.path = true)
  /-- There is nothing in it. -/
  | emptyPayload (h : p.payload = [])
  /-- It is no base64. -/
  | notBase64 (fault : Base64.DecodeFault)
      (h : Base64.decode p.payload.removeBlanks = .error fault)
  /-- It is no text. -/
  | notUtf8 (bytes : Bytes) (fault : Utf8.DecodeFault)
      (hbytes : Base64.decode p.payload.removeBlanks = .ok bytes)
      (h : Utf8.decode bytes = .error fault)
  /-- It should be a JSON object and is none. -/
  | notObject (role : Role) (hrole : role ≠ .mashup) (hat : p.isAt role.path = true) (t : Text)
      (ht : Payload.decode p.payload = .ok t)
      (h : ∀ fields, Json.read t ≠ .ok (.object fields))

/-- Nothing is taken from a payload that has no text. -/
theorem Part.recoded_of_error {p : Part} {fault : Payload.Fault}
    (h : Payload.decode p.payload = .error fault) (role : Role) : p.recoded role = none := by
  rw [recoded, toOption_content, h]
  split <;> rfl

theorem Part.recoded_of_not_object {p : Part} {role : Role} (hrole : role ≠ .mashup) {t : Text}
    (ht : Payload.decode p.payload = .ok t) (h : ∀ fields, Json.read t ≠ .ok (.object fields)) :
    p.recoded role = none := by
  have hread : (Payload.readObject t).toOption = none := by
    cases hread : Payload.readObject t with
    | error fault => rfl
    | ok fields => exact absurd (Payload.readObject_eq_ok_iff.1 hread) (h fields)
  have hcontent : Content.ofText? role t = none := by
    cases role with
    | mashup => exact absurd rfl hrole
    | queryMetadata => rw [Content.ofText?, hread, Option.map_none]
    | platform => rw [Content.ofText?, hread, Option.map_none]
  rw [recoded, toOption_content, ht]
  split
  · rfl
  · exact congrArg (Option.map Content.payload) hcontent

theorem Part.IsForeign.isCopied {p : Part} {before : List Part} (hp : p.IsForeign before) :
    p.IsCopied (rolesOf before) := by
  intro role hrole
  cases hp with
  | unknown h =>
    have hat := Part.isAt_path_iff.2 hrole
    rw [h role] at hat
    cases hat
  | repeated r q hq hfirst h =>
    have hr : r = role := by
      have := Part.isAt_path_iff.1 h
      rw [hrole] at this
      exact (Option.some.inj this).symm
    subst hr
    exact .inl (List.mem_filterMap.2 ⟨q, hq, Part.isAt_path_iff.1 hfirst⟩)
  | emptyPayload h =>
    refine .inr ?_
    rw [recoded, toOption_content, if_pos h]
    rfl
  | notBase64 fault h =>
    have hdecode : Payload.decode p.payload = .error (.base64 fault) := by
      rw [Payload.decode, h]
    exact .inr (recoded_of_error hdecode role)
  | notUtf8 bytes fault hbytes h =>
    have hdecode : Payload.decode p.payload = .error (.utf8 fault) := by
      simp only [Payload.decode, hbytes, h]
    exact .inr (recoded_of_error hdecode role)
  | notObject r hr hat t ht h =>
    have hr' : r = role := by
      have := Part.isAt_path_iff.1 hat
      rw [hrole] at this
      exact (Option.some.inj this).symm
    subst hr'
    exact .inr (recoded_of_not_object hr ht h)

/-- **Encoding what was decoded is stable and passes foreign parts through.** -/
theorem encode_view_stable {d e : Definition} (h : d.view.encode = .ok e) :
    e.view.encode = .ok e ∧
      e.parts.map Part.frame = d.parts.map Part.frame ∧
      ∀ (i : Nat) (p : Part), d.parts[i]? = some p → p.IsForeign (d.parts.take i) →
        e.parts[i]? = some p := by
  rw [Definition.encode_view] at h
  cases hpass : recodeParts [] d.parts with
  | error fault =>
    rw [hpass] at h
    cases h
  | ok out =>
    rw [hpass] at h
    obtain rfl : Definition.mk out = e := Except.ok.inj h
    refine ⟨?_, map_frame_recodeParts hpass, fun i p hi hp => ?_⟩
    · rw [Definition.encode_view, recodeParts_recodeParts hpass]
      rfl
    · refine getElem?_recodeParts hpass hi ?_
      rw [List.append_nil]
      exact hp.isCopied

/-- Metadata with a blank in its object, and another such part under a path in capitals. -/
def spacedDefinition : Definition :=
  ⟨[⟨wide "queryMetadata.json", wide "eyB9", inlineBase64⟩,
    ⟨wide "QUERYMETADATA.JSON", wide "eyB9", inlineBase64⟩]⟩

/-- The definition without the blank. -/
def compactDefinition : Definition :=
  ⟨[⟨wide "queryMetadata.json", wide "e30=", inlineBase64⟩,
    ⟨wide "QUERYMETADATA.JSON", wide "eyB9", inlineBase64⟩]⟩

theorem encode_view_stable_spacedDefinition :
    spacedDefinition.view.encode = .ok compactDefinition ∧
      compactDefinition.view.encode = .ok compactDefinition ∧
      compactDefinition.parts[1]? = spacedDefinition.parts[1]? := by
  have hencode : spacedDefinition.view.encode = .ok compactDefinition := by rfl
  obtain ⟨hstable, -, hforeign⟩ := encode_view_stable hencode
  refine ⟨hencode, hstable, hforeign 1 _ rfl ?_⟩
  exact .repeated .queryMetadata _ List.mem_cons_self (by decide) (by decide)

end Dataflow
