import Dataflow.Proofs.Reencoding

/-!
# What a view shows

There are two ways to the content of a known part.  A view walks through all parts, keeps the roles
that occurred, and has five ways out for each part; an edit looks up the first part at one path.
The walk fills the field of a role from the first part of that role and from no other, so the two
find the same (`View.content?_view`).

The walk also leaves nothing unsaid.  Each part with a known path either fills a field that was
still empty or adds a diagnostic, and no other part does anything.  So fields and diagnostics
together are as many as the parts with a known path (`View.account_ofParts`).
-/

set_option autoImplicit false

namespace Dataflow

/-! ## The fields -/

/-- The first part of a role is the part that is looked up at its path. -/
theorem View.firstOf_eq_part? (d : Definition) (role : Role) :
    firstOf role d.parts = d.part? role.path := by
  have hsame : (fun p : Part => decide (Role.ofPath? p.path = some role)) =
      fun p => p.isAt role.path := by
    funext p
    rw [Bool.eq_iff_iff, decide_eq_true_iff, Part.isAt_path_iff]
  rw [firstOf, hsame, Definition.part?]

/-- **A view has the content of the text that is read at the path of a role.** -/
theorem View.content?_view (d : Definition) (role : Role) :
    d.view.content? role = (d.text? role.path).bind (Content.ofText? role) := by
  rw [Definition.view, content?_ofParts, if_neg List.not_mem_nil, firstOf_eq_part?,
    Definition.text?]
  cases d.part? role.path with
  | none => rfl
  | some p =>
    rw [Option.bind_some, Part.toOption_content]
    by_cases hempty : p.payload = []
    · rw [if_pos hempty]
      simp only [hempty, List.isEmpty_nil, if_true, Option.bind_none]
    · have hfull : ¬p.payload.isEmpty = true := mt List.isEmpty_iff.1 hempty
      simp only [if_neg hempty, if_neg hfull]

namespace Definition

theorem mashup_view (d : Definition) : d.view.mashup = d.text? Role.mashup.path := by
  have hsome : Content.ofText? .mashup = some ∘ Content.mashup := rfl
  have h := View.content?_view d .mashup
  rw [View.content?, hsome, ← Option.map_eq_bind] at h
  exact Option.map_injective (fun _ _ heq => Content.mashup.inj heq) h

/-- The object at a path is that of the text at the path. -/
theorem map_fields? {α : Type} (d : Definition) (path : WideText) (f : Fields → α) :
    (d.fields? path).map f =
      (d.text? path).bind fun t => (Payload.readObject t).toOption.map f := by
  rw [fields?]
  cases d.text? path <;> rfl

theorem queryMetadata_view (d : Definition) :
    d.view.queryMetadata = d.fields? Role.queryMetadata.path :=
  Option.map_injective (fun _ _ heq => Content.queryMetadata.inj heq)
    ((View.content?_view d .queryMetadata).trans (d.map_fields? _ _).symm)

theorem platform_view (d : Definition) : d.view.platform = d.fields? Role.platform.path :=
  Option.map_injective (fun _ _ heq => Content.platform.inj heq)
    ((View.content?_view d .platform).trans (d.map_fields? _ _).symm)

end Definition

/-! ## The account -/

/-- Whether a part lies at one of the three known paths. -/
def Part.isKnown (p : Part) : Bool :=
  [Role.mashup, .queryMetadata, .platform].any fun role => p.isAt role.path

theorem Part.isKnown_eq (p : Part) : p.isKnown = (Role.ofPath? p.path).isSome := by
  have hat : ∀ role : Role, p.isAt role.path = (p.path.lower == role.key) := by
    intro role
    rw [isAt, Role.lower_path]
  rw [isKnown, Role.ofPath?, List.isSome_find?]
  simp only [hat]

namespace View

/-- How many of the three fields are set. -/
def filled (v : View) : Nat :=
  v.mashup.isSome.toNat + v.queryMetadata.isSome.toNat + v.platform.isSome.toNat

/-- A content fills a field that was empty. -/
theorem filled_withContent {v : View} {c : Content} (h : v.content? c.role = none) :
    (v.withContent c).filled = v.filled + 1 := by
  cases c with
  | mashup document =>
    have hnone : v.mashup = none := Option.map_eq_none_iff.1 h
    simp only [withContent, filled, hnone, Option.isSome_some, Option.isSome_none, Bool.toNat_true,
      Bool.toNat_false]
    omega
  | queryMetadata fields =>
    have hnone : v.queryMetadata = none := Option.map_eq_none_iff.1 h
    simp only [withContent, filled, hnone, Option.isSome_some, Option.isSome_none, Bool.toNat_true,
      Bool.toNat_false]
    omega
  | platform fields =>
    have hnone : v.platform = none := Option.map_eq_none_iff.1 h
    simp only [withContent, filled, hnone, Option.isSome_some, Option.isSome_none, Bool.toNat_true,
      Bool.toNat_false]

/-- A content says nothing about what could not be decoded. -/
theorem diagnostics_withContent (v : View) (c : Content) :
    (v.withContent c).diagnostics = v.diagnostics := by
  cases c <;> rfl

/-- What a view says about parts: the diagnostics and the fields that are set. -/
def account (v : View) : Nat := v.diagnostics.length + v.filled

theorem account_withContent {v : View} {c : Content} (h : v.content? c.role = none) :
    (v.withContent c).account = v.account + 1 := by
  rw [account, account, diagnostics_withContent, filled_withContent h, Nat.add_assoc]

theorem account_withDiagnostic (v : View) (d : Diagnostic) :
    (v.withDiagnostic d).account = v.account + 1 := Nat.succ_add ..

/-- **Each known part is accounted for once**, by a diagnostic or by a field. -/
theorem account_ofParts (all : List Part) (seen : List Role) (parts : List Part) :
    (ofParts all seen parts).account = parts.countP Part.isKnown := by
  induction parts generalizing seen with
  | nil => rfl
  | cons p rest ih =>
    rw [ofParts]
    cases hrole : Role.ofPath? p.path with
    | none =>
      have hunknown : ¬p.isKnown = true := by rw [p.isKnown_eq, hrole]; exact Bool.false_ne_true
      rw [List.countP_cons_of_neg hunknown]
      exact ih seen
    | some role =>
      have hknown : p.isKnown = true := by rw [p.isKnown_eq, hrole]; rfl
      rw [List.countP_cons_of_pos hknown]
      by_cases hseen : role ∈ seen
      · simp only [if_pos hseen, account_withDiagnostic, ih seen]
      · simp only [if_neg hseen]
        cases hcontent : p.content role with
        | ok c =>
          -- the parts behind leave the field empty, since its role occurred
          have hnone : (ofParts all (role :: seen) rest).content? c.role = none := by
            rw [Part.content_role hcontent, content?_ofParts, if_pos List.mem_cons_self]
          simp only [account_withContent hnone, ih]
        | error d => simp only [account_withDiagnostic, ih]

end View

/-- **A view shows what is read at the known paths, and accounts for every part there.** -/
theorem Definition.view_reads_known_parts (d : Definition) :
    d.view.mashup = d.text? Role.mashup.path ∧
      d.view.queryMetadata = d.fields? Role.queryMetadata.path ∧
      d.view.platform = d.fields? Role.platform.path ∧
      d.view.diagnostics.length + d.view.filled = d.parts.countP Part.isKnown :=
  ⟨d.mashup_view, d.queryMetadata_view, d.platform_view, View.account_ofParts d.parts [] d.parts⟩

end Dataflow
