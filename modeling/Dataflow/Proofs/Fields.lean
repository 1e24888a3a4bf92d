import Dataflow.Json.Basic
import Mathlib.Data.List.Induction

/-!
# Fields of an object

An object keeps its fields in a list, and each edit of a field is one pass over that list.  The
names tell what an edit does to the order: a name that is there stays where it is, and another one
goes to the end (`keys_set`).  Everything that is said of edited objects elsewhere is said in terms
of their names and of what is found under a name, since two lists with the same names, each once,
and the same values are one (`eq_of_keys_of_get?`).
-/

set_option autoImplicit false

namespace Dataflow
namespace Fields

variable {fields : Fields} {key : WideText}

/-! ## One field -/

theorem get?_eq_none_iff : get? fields key = none ↔ key ∉ keys fields := by
  induction fields with
  | nil => simp [get?, keys]
  | cons f rest ih =>
    obtain ⟨k, v⟩ := f
    by_cases h : k = key
    · simp [get?, keys, h]
    · simp only [keys] at ih
      simp [get?, keys, h, ih, Ne.symm h]

theorem mem_of_get? {value : Json} (h : get? fields key = some value) :
    (key, value) ∈ fields := by
  induction fields with
  | nil => cases h
  | cons f rest ih =>
    obtain ⟨k, v⟩ := f
    by_cases hk : k = key
    · rw [get?, if_pos hk] at h
      rw [hk, Option.some.inj h]
      exact List.mem_cons_self
    · rw [get?, if_neg hk] at h
      exact List.mem_cons_of_mem _ (ih h)

/-- A field whose name stands only once is found by it. -/
theorem get?_of_mem (h : (keys fields).Nodup) {f : WideText × Json} (hf : f ∈ fields) :
    get? fields f.1 = some f.2 := by
  induction fields with
  | nil => cases hf
  | cons g rest ih =>
    obtain ⟨k, v⟩ := g
    obtain ⟨hnot, hrest⟩ := List.nodup_cons.1 h
    rcases List.mem_cons.1 hf with rfl | hmem
    · exact if_pos rfl
    · have hname : f.1 ∈ keys rest := List.mem_map_of_mem hmem
      have hne : k ≠ f.1 := fun heq => hnot (heq ▸ hname)
      rw [get?, if_neg hne, ih hrest hmem]

/-- A new name goes to the end. -/
theorem set_of_not_mem (h : key ∉ keys fields) (value : Json) :
    set fields key value = fields ++ [(key, value)] := by
  induction fields with
  | nil => rfl
  | cons f rest ih =>
    obtain ⟨k, v⟩ := f
    simp only [keys, List.map_cons, List.mem_cons, not_or] at h
    rw [set, if_neg (Ne.symm h.1), ih h.2]
    rfl

/-- A name that is there stays where it is. -/
theorem keys_set_of_mem (h : key ∈ keys fields) (value : Json) :
    keys (set fields key value) = keys fields := by
  induction fields with
  | nil => cases h
  | cons f rest ih =>
    obtain ⟨k, v⟩ := f
    by_cases hk : k = key
    · rw [set, if_pos hk]
      rfl
    · have hrest : key ∈ keys rest := (List.mem_cons.1 h).resolve_left (Ne.symm hk)
      rw [set, if_neg hk]
      exact congrArg (k :: ·) (ih hrest)

theorem keys_set (fields : Fields) (key : WideText) (value : Json) :
    keys (set fields key value) =
      if key ∈ keys fields then keys fields else keys fields ++ [key] := by
  split
  · rename_i h
    exact keys_set_of_mem h value
  · rename_i h
    rw [set_of_not_mem h, keys, List.map_append]
    rfl

theorem keys_prefix_set (fields : Fields) (key : WideText) (value : Json) :
    keys fields <+: keys (set fields key value) := by
  rw [keys_set]
  split
  · exact List.prefix_refl _
  · exact List.prefix_append _ _

theorem mem_keys_set {other : WideText} {value : Json} :
    other ∈ keys (set fields key value) ↔ other ∈ keys fields ∨ other = key := by
  rw [keys_set]
  split
  · rename_i h
    exact (or_iff_left_of_imp fun heq => heq ▸ h).symm
  · rw [List.mem_append, List.mem_singleton]

theorem nodup_keys_set (h : (keys fields).Nodup) (key : WideText) (value : Json) :
    (keys (set fields key value)).Nodup := by
  rw [keys_set]
  split
  · exact h
  · rename_i hkey
    rw [List.nodup_append]
    refine ⟨h, by simp, ?_⟩
    rintro x hx y hy rfl
    rw [List.mem_singleton] at hy
    exact hkey (hy ▸ hx)

theorem mem_of_mem_set {value : Json} {f : WideText × Json} (h : f ∈ set fields key value) :
    f ∈ fields ∨ f = (key, value) := by
  induction fields with
  | nil => exact .inr (List.mem_singleton.1 h)
  | cons g rest ih =>
    obtain ⟨k, v⟩ := g
    by_cases hk : k = key
    · rw [set, if_pos hk] at h
      rcases List.mem_cons.1 h with rfl | h
      · exact .inr (hk ▸ rfl)
      · exact .inl (List.mem_cons_of_mem _ h)
    · rw [set, if_neg hk] at h
      rcases List.mem_cons.1 h with rfl | h
      · exact .inl List.mem_cons_self
      · exact (ih h).imp_left (List.mem_cons_of_mem _)

/-- Fields with other names stay. -/
theorem mem_set_of_mem {f : WideText × Json} (h : f ∈ fields) (hne : f.1 ≠ key) (value : Json) :
    f ∈ set fields key value := by
  induction fields with
  | nil => cases h
  | cons g rest ih =>
    obtain ⟨k, v⟩ := g
    rw [set]
    rcases List.mem_cons.1 h with rfl | h
    · rw [if_neg hne]
      exact List.mem_cons_self
    · split
      · exact List.mem_cons_of_mem _ h
      · exact List.mem_cons_of_mem _ (ih h)

/-- A field that gets the value it has stays as it is. -/
theorem set_of_get? {value : Json} (h : get? fields key = some value) :
    set fields key value = fields := by
  induction fields with
  | nil => cases h
  | cons f rest ih =>
    obtain ⟨k, v⟩ := f
    by_cases hk : k = key
    · rw [get?, if_pos hk] at h
      rw [set, if_pos hk, Option.some.inj h]
    · rw [get?, if_neg hk] at h
      rw [set, if_neg hk, ih h]

/-- A field with another name stays where it is. -/
theorem getElem?_set_other {i : Nat} {f : WideText × Json} (h : fields[i]? = some f)
    (hne : f.1 ≠ key) (value : Json) : (set fields key value)[i]? = some f := by
  induction fields generalizing i with
  | nil => cases h
  | cons g rest ih =>
    obtain ⟨k, v⟩ := g
    cases i with
    | zero =>
      obtain rfl : (k, v) = f := Option.some.inj h
      rw [set, if_neg hne]
      rfl
    | succ i =>
      rw [List.getElem?_cons_succ] at h
      rw [set]
      split
      · exact h
      · exact ih h

/-! ## Several fields -/

theorem setAll_cons (fields : Fields) (f : WideText × Json) (new : Fields) :
    setAll fields (f :: new) = setAll (set fields f.1 f.2) new := rfl

/-- New names go to the end in their order. -/
theorem setAll_of_nodup {new : Fields} (h : (keys (fields ++ new)).Nodup) :
    setAll fields new = fields ++ new := by
  induction new generalizing fields with
  | nil => exact (List.append_nil fields).symm
  | cons f new ih =>
    have hassoc : fields ++ f :: new = (fields ++ [f]) ++ new := (List.append_cons fields f new)
    have hf : f.1 ∉ keys fields := by
      intro hmem
      rw [keys, List.map_append, List.nodup_append] at h
      exact h.2.2 f.1 hmem f.1 List.mem_cons_self rfl
    rw [setAll_cons, set_of_not_mem hf, hassoc]
    exact ih (hassoc ▸ h)

/-- An object whose text names each field once has those fields. -/
theorem ofPairs_of_nodup (h : (keys fields).Nodup) : ofPairs fields = fields := by
  have hnew : (keys ([] ++ fields)).Nodup := h
  exact setAll_of_nodup hnew

theorem nodup_keys_setAll {new : Fields} (h : (keys fields).Nodup) :
    (keys (setAll fields new)).Nodup := by
  induction new generalizing fields with
  | nil => exact h
  | cons f new ih => exact ih (nodup_keys_set h f.1 f.2)

theorem nodup_keys_ofPairs (pairs : Fields) : (keys (ofPairs pairs)).Nodup :=
  nodup_keys_setAll List.nodup_nil

theorem mem_of_mem_setAll {new : Fields} {f : WideText × Json} (h : f ∈ setAll fields new) :
    f ∈ fields ∨ f ∈ new := by
  induction new generalizing fields with
  | nil => exact .inl h
  | cons g new ih =>
    rcases ih h with h | h
    · rcases mem_of_mem_set h with h | rfl
      · exact .inl h
      · exact .inr List.mem_cons_self
    · exact .inr (List.mem_cons_of_mem g h)

theorem mem_of_mem_ofPairs {pairs : Fields} {f : WideText × Json} (h : f ∈ ofPairs pairs) :
    f ∈ pairs := (mem_of_mem_setAll h).resolve_left List.not_mem_nil

/-- Of repeated names the first place counts. -/
theorem keys_ofPairs (pairs : Fields) : keys (ofPairs pairs) = (keys pairs).eraseDups := by
  induction pairs using List.reverseRecOn with
  | nil => rfl
  | append_singleton pairs f ih =>
    have hset : ofPairs (pairs ++ [f]) = set (ofPairs pairs) f.1 f.2 := List.foldl_append
    have hkeys : keys (pairs ++ [f]) = keys pairs ++ [f.1] := List.map_append
    rw [hset, keys_set, ih, hkeys, List.eraseDups_append]
    generalize keys pairs = names
    by_cases hf : f.1 ∈ names
    · simp [hf, List.removeAll]
    · simp [hf, List.removeAll, List.eraseDups_cons]

/-! ## What an object is known by -/

/-- The order of the names and the value of each are all there is to an object. -/
theorem eq_of_keys_of_get? {other : Fields} (hkeys : keys fields = keys other)
    (hnodup : (keys fields).Nodup)
    (h : ∀ key ∈ keys fields, get? fields key = get? other key) : fields = other := by
  induction fields generalizing other with
  | nil => exact (List.map_eq_nil_iff.1 hkeys.symm).symm
  | cons f rest ih =>
    cases other with
    | nil => cases hkeys
    | cons g others =>
      obtain ⟨k, v⟩ := f
      obtain ⟨k', v'⟩ := g
      obtain ⟨hk, hrest⟩ := List.cons.inj hkeys
      obtain rfl : k = k' := hk
      obtain ⟨hnot, hnodup⟩ := List.nodup_cons.1 hnodup
      have hv := h k List.mem_cons_self
      rw [get?, if_pos rfl, get?, if_pos rfl] at hv
      rw [Option.some.inj hv, ih hrest hnodup]
      intro key hkey
      have hne : k ≠ key := fun heq => hnot (heq ▸ hkey)
      have hsame := h key (List.mem_cons_of_mem k hkey)
      rwa [get?, if_neg hne, get?, if_neg hne] at hsame

/-- Fields that agree on a name give it that value. -/
theorem get?_setAll {new : Fields} {value : Json}
    (hnew : ∀ f ∈ new, f.1 = key → f.2 = value)
    (h : key ∈ keys new ∨ get? fields key = some value) :
    get? (setAll fields new) key = some value := by
  induction new generalizing fields with
  | nil => exact h.resolve_left List.not_mem_nil
  | cons f new ih =>
    rw [setAll_cons]
    refine ih (fun g hg => hnew g (List.mem_cons_of_mem f hg)) ?_
    by_cases hf : f.1 = key
    · have hvalue := hnew f List.mem_cons_self hf
      rw [hf, hvalue]
      exact .inr (get?_set_self fields key value)
    · rw [get?_set_other (Ne.symm hf)]
      exact h.imp_left fun hmem => (List.mem_cons.1 hmem).resolve_left (Ne.symm hf)

/-- Fields taken from an object, each of its names once or more in their order, make that object. -/
theorem ofPairs_eq {pairs : Fields} (hnodup : (keys fields).Nodup)
    (hkeys : (keys pairs).eraseDups = keys fields)
    (h : ∀ f ∈ pairs, get? fields f.1 = some f.2) : ofPairs pairs = fields := by
  have hsame : keys (ofPairs pairs) = keys fields := (keys_ofPairs pairs).trans hkeys
  refine eq_of_keys_of_get? hsame (hsame ▸ hnodup) fun key hkey => ?_
  rw [keys_ofPairs, List.mem_eraseDups] at hkey
  obtain ⟨f, hf, rfl⟩ := List.mem_map.1 hkey
  rw [h f hf]
  refine get?_setAll (fun g hg hname => ?_) (.inl hkey)
  have hg := h g hg
  rw [hname, h f hf] at hg
  exact (Option.some.inj hg).symm

/-! ## A field that may be there -/

theorem setIfMissing_of_mem (h : key ∈ keys fields) (value : Json) :
    setIfMissing fields key value = fields := by
  rw [setIfMissing, if_pos]
  rw [has, Option.isSome_iff_ne_none, Ne, get?_eq_none_iff]
  exact fun hnot => hnot h

theorem setIfMissing_of_not_mem (h : key ∉ keys fields) (value : Json) :
    setIfMissing fields key value = set fields key value := by
  rw [setIfMissing, if_neg, set_of_not_mem h]
  rw [has, get?_eq_none_iff.2 h]
  exact Bool.false_ne_true

/-- Either nothing happens or the field is set. -/
theorem setIfMissing_cases (fields : Fields) (key : WideText) (value : Json) :
    (key ∈ keys fields ∧ setIfMissing fields key value = fields) ∨
      (key ∉ keys fields ∧ setIfMissing fields key value = set fields key value) := by
  by_cases h : key ∈ keys fields
  · exact .inl ⟨h, setIfMissing_of_mem h value⟩
  · exact .inr ⟨h, setIfMissing_of_not_mem h value⟩

/-- All fields stay. -/
theorem mem_setIfMissing_of_mem {f : WideText × Json} (h : f ∈ fields) (key : WideText)
    (value : Json) : f ∈ setIfMissing fields key value := by
  rw [setIfMissing]
  split
  · exact h
  · exact List.mem_append_left _ h

/-- Another field stays as it is. -/
theorem get?_setIfMissing_other {other : WideText} (h : key ≠ other) (value : Json) :
    get? (setIfMissing fields other value) key = get? fields key := by
  rcases setIfMissing_cases fields other value with ⟨-, heq⟩ | ⟨-, heq⟩
  · rw [heq]
  · rw [heq, get?_set_other h]

end Fields
end Dataflow
