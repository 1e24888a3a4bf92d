import Dataflow.Metadata.Connection
import Dataflow.Proofs.Fields
import Mathlib.Data.List.Basic

/-!
# A connection is listed once

A connection is looked up before it is listed: an entry is its entry if it has the id, or the same
composite id, or if the id stands in its composite id as the value of `DatasourceId`.  The last test
compares texts.  A composite id shows the id of its connection as JSON has it, with escapes, but it
is searched for as it is.  So an entry with a cluster is found again under another cluster, or
without one, just when the id has nothing to escape.  Such ids are `Connection.IsOrdinary`, and
`Metadata.listed_once_iff` says that they, and no others, are listed once whatever is asked.

The search could also find too much.  It does not: what is searched for has quotes around it, and in
a composite id all quotes but eight have a backslash in front, which is what `IsMasked` is about.
-/

set_option autoImplicit false

namespace Dataflow

/-! ## Escapes -/

/-- The quote around a string. -/
def quotePoint : CodePoint := .scalar '"'

/-- The backslash of an escape. -/
def backslashPoint : CodePoint := .scalar '\\'

/-- Whether a code point is visible ASCII or a blank, and neither a quote nor a backslash. -/
def CodePoint.isOrdinary : CodePoint → Bool
  | .scalar c => 0x20 ≤ c.toNat && c.toNat < 0x7F && c != '"' && c != '\\'
  | .surrogate _ => false

namespace Json

theorem quote_not_mem_numberEscape (n : Nat) : '"' ∉ numberEscape n := by
  have hdigits : ∀ c ∈ hexadecimal 4 n, c ≠ '"' := forall_mem_hexadecimal (by decide) 4 n
  have hall : ∀ c ∈ numberEscape n, c ≠ '"' :=
    List.forall_mem_cons.2 ⟨by decide, List.forall_mem_cons.2 ⟨by decide, hdigits⟩⟩
  exact fun hmem => hall _ hmem rfl

/-- What stands for a point that is not ordinary: a backslash, and no quote but the point. -/
structure IsEscape (p : CodePoint) (rest : WideText) : Prop where
  /-- A backslash is doubled. -/
  backslash : p = backslashPoint → rest = [backslashPoint]
  /-- A quote is the only thing behind its backslash. -/
  quote : quotePoint ∈ rest → rest = [quotePoint]

theorem isEscape_widen {p : CodePoint} {t : Text} (hp : p ≠ backslashPoint) (ht : '"' ∉ t) :
    IsEscape p (Text.widen t) where
  backslash h := absurd h hp
  quote h := by
    obtain ⟨c, hc, heq⟩ := List.mem_map.1 h
    exact absurd (CodePoint.scalar.inj heq ▸ hc) ht

theorem isEscape_numberEscape {p : CodePoint} (hp : p ≠ backslashPoint) (n : Nat) :
    ∃ rest, Text.widen (numberEscape n) = backslashPoint :: rest ∧ IsEscape p rest :=
  ⟨_, rfl, isEscape_widen hp fun hmem =>
    quote_not_mem_numberEscape n (List.mem_cons_of_mem _ hmem)⟩

theorem isEscape_numberEscapes {p : CodePoint} (hp : p ≠ backslashPoint) (n k : Nat) :
    ∃ rest, Text.widen (numberEscape n ++ numberEscape k) = backslashPoint :: rest ∧
      IsEscape p rest := by
  refine ⟨_, rfl, isEscape_widen hp fun hmem => ?_⟩
  rcases List.mem_append.1 hmem with hmem | hmem
  · exact quote_not_mem_numberEscape n (List.mem_cons_of_mem _ hmem)
  · exact quote_not_mem_numberEscape k hmem

/-- **A point is written as it is, if it is ordinary, and otherwise behind a backslash.** -/
theorem escapePoint_cases (p : CodePoint) :
    (p.isOrdinary = true ∧ escapePoint true p = [p]) ∨
      (p.isOrdinary = false ∧ ∃ rest, escapePoint true p = backslashPoint :: rest ∧
        IsEscape p rest) := by
  cases p with
  | surrogate half => exact .inr ⟨rfl, isEscape_numberEscape (p := .surrogate half) nofun _⟩
  | scalar c =>
    rw [escapePoint]
    obtain ⟨t, ht⟩ : ∃ t, t = escapeChar true c := ⟨_, rfl⟩
    rw [← ht]
    rw [escapeChar] at ht
    by_cases hquote : c = '"'
    · rw [if_pos hquote] at ht
      subst hquote ht
      exact .inr ⟨rfl, _, rfl, nofun, fun _ => rfl⟩
    rw [if_neg hquote] at ht
    by_cases hbackslash : c = '\\'
    · rw [if_pos hbackslash] at ht
      subst hbackslash ht
      exact .inr ⟨rfl, _, rfl, fun _ => rfl, by decide⟩
    rw [if_neg hbackslash] at ht
    have hne : CodePoint.scalar c ≠ backslashPoint := fun h => hbackslash (CodePoint.scalar.inj h)
    -- the five other escapes of one letter
    iterate 5
      rcases eq_ite_iff.1 ht with ⟨h, ht⟩ | ⟨-, ht⟩
      · subst h ht
        exact .inr ⟨rfl, _, rfl, isEscape_widen (t := [_]) hne (by decide)⟩
    simp only [true_and] at ht
    split at ht
    · rename_i hlow
      subst ht
      refine .inr ⟨?_, isEscape_numberEscape hne _⟩
      simp only [CodePoint.isOrdinary, Nat.not_le.2 hlow, decide_false, Bool.false_and]
    rename_i hlow
    split at ht
    · rename_i hhigh
      have hnot : CodePoint.isOrdinary (.scalar c) = false := by
        simp only [CodePoint.isOrdinary, Nat.not_lt.2 hhigh, decide_false, Bool.and_false,
          Bool.false_and]
      refine .inr ⟨hnot, ?_⟩
      split at ht
      · exact ht ▸ isEscape_numberEscape hne _
      · exact ht ▸ isEscape_numberEscapes hne _ _
    · rename_i hhigh
      subst ht
      refine .inl ⟨?_, rfl⟩
      simp [CodePoint.isOrdinary, hquote, hbackslash, Nat.not_lt.1 hlow, Nat.not_le.1 hhigh]

/-- A string as it stands between its quotes in ASCII. -/
def escaped (s : WideText) : WideText := s.flatMap (escapePoint true)

theorem escaped_cons (p : CodePoint) (s : WideText) :
    escaped (p :: s) = escapePoint true p ++ escaped s := rfl

/-- A string of ordinary points stands there as it is. -/
theorem escaped_of_isOrdinary {s : WideText} (h : ∀ p ∈ s, p.isOrdinary = true) :
    escaped s = s := by
  induction s with
  | nil => rfl
  | cons p s ih =>
    obtain ⟨hp, hs⟩ := List.forall_mem_cons.1 h
    rcases escapePoint_cases p with ⟨-, heq⟩ | ⟨hnot, -⟩
    · rw [escaped_cons, heq, ih hs, List.singleton_append]
    · rw [hp] at hnot
      cases hnot

theorem length_le_escaped (s : WideText) : s.length ≤ (escaped s).length := by
  induction s with
  | nil => exact Nat.le_refl 0
  | cons p s ih =>
    have hp : 1 ≤ (escapePoint true p).length := by
      rcases escapePoint_cases p with ⟨-, heq⟩ | ⟨-, rest, heq, -⟩
      · rw [heq]
        exact Nat.le_refl 1
      · rw [heq]
        exact Nat.succ_le_succ (Nat.zero_le _)
    rw [escaped_cons, List.length_append, List.length_cons, Nat.add_comm]
    exact Nat.add_le_add hp ih

/-! ### Quotes with backslashes in front -/

/-- Each quote has a backslash in front. -/
def IsMasked (s : WideText) : Prop :=
  ∀ u v, s = u ++ quotePoint :: v → u.getLast? = some backslashPoint

theorem IsMasked.append {s t : WideText} (hs : IsMasked s) (ht : IsMasked t) :
    IsMasked (s ++ t) := by
  intro u v heq
  rcases List.append_eq_append_iff.1 heq with ⟨w, rfl, htail⟩ | ⟨w, hhead, htail⟩
  · rw [List.getLast?_append, ht w v htail]
    rfl
  · cases w with
    | nil =>
      -- the quote would be the first point of the second text
      cases ht [] v htail.symm
    | cons p w =>
      obtain ⟨rfl, -⟩ := List.cons.inj htail
      exact hs u w hhead

theorem isMasked_escapePoint (p : CodePoint) : IsMasked (escapePoint true p) := by
  intro u v heq
  rcases escapePoint_cases p with ⟨hp, hself⟩ | ⟨-, rest, hrest, hescape⟩
  · rw [hself] at heq
    cases u with
    | nil =>
      obtain ⟨rfl, -⟩ := List.cons.inj heq
      cases hp
    | cons q u => cases u <;> cases (List.cons.inj heq).2
  · rw [hrest] at heq
    cases u with
    | nil => cases (List.cons.inj heq).1
    | cons q u =>
      obtain ⟨rfl, htail⟩ := List.cons.inj heq
      obtain rfl := hescape.quote (htail ▸ List.mem_append_right u List.mem_cons_self)
      cases u with
      | nil => rfl
      | cons r u => cases u <;> cases (List.cons.inj htail).2

theorem isMasked_escaped (s : WideText) : IsMasked (escaped s) := by
  induction s with
  | nil => exact fun u v heq => absurd heq.symm (by simp [escaped])
  | cons p s ih => exact (isMasked_escapePoint p).append ih

/-- A quote without a backslash in front is not in a masked text, but behind it. -/
theorem IsMasked.prefix_of_quote {s t u v : WideText} (hs : IsMasked s)
    (hu : u.getLast? ≠ some backslashPoint) (heq : u ++ quotePoint :: v = s ++ t) :
    ∃ w, u = s ++ w ∧ w ++ quotePoint :: v = t := by
  rcases List.append_eq_append_iff.1 heq with ⟨w, rfl, htail⟩ | ⟨w, hhead, htail⟩
  · cases w with
    | nil => exact ⟨[], by rw [List.append_nil, List.append_nil], htail⟩
    | cons p w =>
      obtain ⟨rfl, -⟩ := List.cons.inj htail
      exact absurd (hs u w rfl) hu
  · exact ⟨w, hhead, htail.symm⟩

/-! ### A string in front of its escaped form -/

theorem not_prefix_backslashes (s t : WideText) (n : Nat) :
    ¬s ++ [quotePoint] <+: List.replicate (n + 1) backslashPoint ++ (escaped s ++ t) := by
  induction s generalizing n with
  | nil =>
    intro h
    cases (List.cons_prefix_cons.1 h).1
  | cons p s ih =>
    intro h
    obtain ⟨rfl, hs⟩ := List.cons_prefix_cons.1 h
    refine ih (n + 1) ?_
    have htwo : List.replicate (n + 1 + 1) backslashPoint =
        List.replicate n backslashPoint ++ [backslashPoint, backslashPoint] := by
      rw [List.replicate_succ', List.replicate_succ', List.append_assoc]
      rfl
    rw [htwo, List.append_assoc]
    exact hs

/-- **A string with a quote behind it stands at the front of its escaped form just when there is
nothing to escape.** -/
theorem isOrdinary_of_prefix {s t : WideText} (h : s ++ [quotePoint] <+: escaped s ++ t) :
    ∀ p ∈ s, p.isOrdinary = true := by
  induction s with
  | nil => exact fun p hp => absurd hp List.not_mem_nil
  | cons p s ih =>
    rcases escapePoint_cases p with ⟨hp, heq⟩ | ⟨-, rest, heq, hescape⟩
    · rw [escaped_cons, heq] at h
      exact List.forall_mem_cons.2 ⟨hp, ih (List.cons_prefix_cons.1 h).2⟩
    · rw [escaped_cons, heq] at h
      obtain ⟨rfl, hs⟩ := List.cons_prefix_cons.1 h
      rw [hescape.backslash rfl] at hs
      exact absurd hs (not_prefix_backslashes s t 0)

end Json

/-! ## Composite ids -/

namespace Connection

/-- An id of ordinary points. -/
def IsOrdinary (id : WideText) : Prop := ∀ p ∈ id, p.isOrdinary = true

instance (id : WideText) : Decidable (IsOrdinary id) :=
  List.decidableBAll (fun p : CodePoint => p.isOrdinary = true) id

/-- What a composite id begins with. -/
def compositeHead : WideText := wide "\x7b\"ClusterId\":\""

/-- What stands between the cluster and the id. -/
def compositeMiddle : WideText := wide "\",\"DatasourceId\":\""

/-- What a composite id ends with. -/
def compositeEnd : WideText := wide "\"\x7d"

/-- How a composite id is made up. -/
theorem storedId_some {cluster : WideText} (hcluster : cluster ≠ []) (id : WideText) :
    storedId id (some cluster) = compositeHead ++ (Json.escaped cluster ++
      (compositeMiddle ++ (Json.escaped id ++ compositeEnd))) := by
  cases cluster with
  | nil => exact absurd rfl hcluster
  | cons p cluster =>
    have hprint : storedId id (some (p :: cluster)) = Json.print .compact
        (.object [(wide "ClusterId", .string (p :: cluster)), (wide "DatasourceId", .string id)]) :=
      rfl
    rw [hprint]
    simp only [Json.print, Json.printAt, Json.printFields, Json.printString, Json.Layout.compact,
      Json.Layout.lineStart, List.append_assoc, List.nil_append]
    rfl

/-- What the search for an id begins with, up to the last letter. -/
def fragmentStem : WideText := wide "\"DatasourceI"

/-- The last letter of the name in front of an id. -/
def stemEnd : CodePoint := .scalar 'd'

/-- The colon behind the name. -/
def colonPoint : CodePoint := .scalar ':'

theorem idFragment_eq (id : WideText) :
    idFragment id = (fragmentStem ++ [stemEnd]) ++ quotePoint :: colonPoint :: quotePoint ::
      (id ++ [quotePoint]) := rfl

theorem getLast?_of_append {s t : WideText} {p : CodePoint} (h : (s ++ t).getLast? = some p)
    (hs : s.getLast? ≠ some p) : t.getLast? = some p := by
  rw [List.getLast?_append] at h
  cases ht : t.getLast? with
  | none =>
    rw [ht] at h
    exact absurd h hs
  | some q =>
    rw [ht] at h
    exact h

/-- Behind the cluster the name in front of an id is found once, as no quote of the id has the last
letter of the name in front. -/
theorem eq_of_compositeMiddle {w r id : WideText} (hend : w.getLast? = some stemEnd)
    (h : w ++ quotePoint :: colonPoint :: quotePoint :: r =
      compositeMiddle ++ (Json.escaped id ++ compositeEnd)) :
    r = Json.escaped id ++ compositeEnd := by
  rcases List.append_eq_append_iff.1 h with ⟨x, hmiddle, htail⟩ | ⟨x, rfl, htail⟩
  · obtain ⟨w, rfl⟩ := List.getLast?_eq_some_iff.1 hend
    have hsplit : wide "\",\"DatasourceI" ++ stemEnd :: wide "\":\"" = w ++ stemEnd :: x := by
      rw [← List.append_cons] at hmiddle
      exact hmiddle
    obtain ⟨-, -, rfl⟩ := (List.append_cons_inj_of_notMem (by decide) (by decide)).1 hsplit
    exact (List.cons.inj (List.cons.inj (List.cons.inj htail).2).2).2
  · -- behind the id there is only one quote more
    have hlast := getLast?_of_append hend (by decide)
    obtain ⟨y, -, hy⟩ := (Json.isMasked_escaped id).prefix_of_quote
      (by rw [hlast]; decide) htail.symm
    have hlength := congrArg List.length hy
    simp only [List.length_append, List.length_cons, compositeEnd, wide, Text.widen,
      List.length_map] at hlength
    have hend : ("\"\x7d".toList).length = 2 := rfl
    omega

/-- The name and the quote in front of an id are found in a composite id only in front of its own
id: all other quotes are masked, or have something else beside them. -/
theorem eq_of_composite {s r cluster id : WideText}
    (h : s ++ ((fragmentStem ++ [stemEnd]) ++ quotePoint :: colonPoint :: quotePoint :: r) =
      compositeHead ++ (Json.escaped cluster ++
        (compositeMiddle ++ (Json.escaped id ++ compositeEnd)))) :
    r = Json.escaped id ++ compositeEnd := by
  obtain ⟨u, hu⟩ : ∃ u, u = s ++ (fragmentStem ++ [stemEnd]) := ⟨_, rfl⟩
  have hlast : u.getLast? = some stemEnd := by
    rw [hu, ← List.append_assoc, List.getLast?_concat]
  rw [← List.append_assoc, ← hu] at h
  -- the quote behind the name is not in the head of the composite id
  obtain ⟨v, rfl, hv⟩ : ∃ v, u = compositeHead ++ v ∧
      v ++ quotePoint :: colonPoint :: quotePoint :: r = Json.escaped cluster ++
        (compositeMiddle ++ (Json.escaped id ++ compositeEnd)) := by
    rcases List.append_eq_append_iff.1 h with ⟨w, hhead, -⟩ | ⟨v, hv, htail⟩
    · have hinfix : fragmentStem <:+: compositeHead :=
        ⟨s, [stemEnd] ++ w, by rw [hhead, hu]; simp only [List.append_assoc]⟩
      exact absurd (Text.occursIn_iff.2 hinfix) (by decide)
    · exact ⟨v, hv, htail.symm⟩
  have hlast := getLast?_of_append hlast (by decide)
  -- nor in the cluster
  obtain ⟨w, rfl, hw⟩ := (Json.isMasked_escaped cluster).prefix_of_quote
    (by rw [hlast]; decide) hv
  cases hend : w.getLast? with
  | none =>
    -- the quote behind the cluster has a comma behind it
    rw [List.getLast?_eq_none_iff.1 hend] at hw
    cases congrArg (fun t : WideText => t[1]?) hw
  | some p =>
    obtain rfl : p = stemEnd := by
      rw [List.getLast?_append, hend] at hlast
      exact Option.some.inj hlast
    exact eq_of_compositeMiddle hend hw

/-- **An id is found in a composite id just where it stands there.** -/
theorem idFragment_infix_storedId_iff {cluster : WideText} (hcluster : cluster ≠ [])
    (id other : WideText) :
    idFragment other <:+: storedId id (some cluster) ↔
      other ++ [quotePoint] <+: Json.escaped id ++ compositeEnd := by
  rw [storedId_some hcluster, idFragment_eq]
  constructor
  · rintro ⟨s, t, h⟩
    rw [List.append_assoc s, List.append_assoc (fragmentStem ++ [stemEnd])] at h
    exact ⟨t, eq_of_composite h⟩
  · rintro ⟨t, ht⟩
    refine ⟨compositeHead ++ (Json.escaped cluster ++ wide "\","), t, ?_⟩
    have hmiddle : compositeMiddle = wide "\"," ++ ((fragmentStem ++ [stemEnd]) ++
        [quotePoint, colonPoint, quotePoint]) := rfl
    rw [← ht, hmiddle]
    simp only [List.append_assoc, List.cons_append, List.nil_append]

/-- An id is listed as it is, or with a cluster. -/
theorem storedId_cases (id : WideText) (cluster : Option WideText) :
    storedId id cluster = id ∨ ∃ c, c ≠ [] ∧ cluster = some c := by
  cases cluster with
  | none => exact .inl rfl
  | some c =>
    cases c with
    | nil => exact .inl rfl
    | cons p c => exact .inr ⟨p :: c, List.cons_ne_nil p c, rfl⟩

/-- A composite id is longer than the id in it. -/
theorem storedId_some_ne {cluster : WideText} (hcluster : cluster ≠ []) (id : WideText) :
    storedId id (some cluster) ≠ id := by
  intro heq
  have hlength := congrArg List.length heq
  have hescaped := Json.length_le_escaped id
  have hend : compositeEnd.length = 2 := rfl
  rw [storedId_some hcluster] at hlength
  simp only [List.length_append] at hlength
  omega

/-- When the entry of a binding is that of an id. -/
theorem isEntryOf_entryOf (id stored : WideText) (b : Binding) :
    isEntryOf id stored (entryOf b) =
      (storedId b.id b.cluster == id || storedId b.id b.cluster == stored ||
        Text.occursIn (idFragment id) (storedId b.id b.cluster)) := rfl

/-- **Which entries of an id are found under it**: those of ordinary ids, those without a cluster,
and those that are listed in the same way. -/
theorem isEntryOf_entryOf_iff (b : Binding) (cluster : Option WideText) :
    isEntryOf b.id (storedId b.id cluster) (entryOf b) = true ↔
      IsOrdinary b.id ∨ storedId b.id b.cluster = b.id ∨
        storedId b.id b.cluster = storedId b.id cluster := by
  rw [isEntryOf_entryOf, Bool.or_eq_true, Bool.or_eq_true, beq_iff_eq, beq_iff_eq,
    Text.occursIn_iff, or_comm]
  rcases storedId_cases b.id b.cluster with hbare | ⟨c, hc, hcluster⟩
  · simp only [hbare, true_or, or_true]
  · rw [hcluster, idFragment_infix_storedId_iff hc]
    refine or_congr_left ⟨Json.isOrdinary_of_prefix, fun hid => ?_⟩
    exact ⟨[.scalar '\x7d'], by rw [Json.escaped_of_isOrdinary hid, List.append_assoc]; rfl⟩

/-! ## Bindings that are listed -/

/-- The bindings that are not listed when their turn comes. -/
def admitted : List Json → List Binding → List Binding
  | _, [] => []
  | connections, b :: rest =>
    if isListed connections b.id (storedId b.id b.cluster) then admitted connections rest
    else b :: admitted (connections ++ [entryOf b]) rest

/-- Their entries go to the end of the list, one after the other. -/
theorem foldl_enlist (connections : List Json) (bindings : List Binding) :
    bindings.foldl enlist connections =
      connections ++ (admitted connections bindings).map entryOf := by
  induction bindings generalizing connections with
  | nil => exact (List.append_nil connections).symm
  | cons b rest ih =>
    rw [List.foldl_cons, enlist, admitted]
    split
    · exact ih connections
    · rw [ih, List.map_cons, List.append_assoc, List.singleton_append]

theorem isListed_append (connections more : List Json) (id stored : WideText) :
    isListed (connections ++ more) id stored =
      (isListed connections id stored || isListed more id stored) := List.any_append

/-- What is listed was not there before. -/
theorem isListed_of_mem_admitted {connections : List Json} {bindings : List Binding} {b : Binding}
    (h : b ∈ admitted connections bindings) :
    isListed connections b.id (storedId b.id b.cluster) = false := by
  induction bindings generalizing connections with
  | nil => cases h
  | cons c rest ih =>
    rw [admitted] at h
    split at h
    · exact ih h
    · rename_i hc
      rcases List.mem_cons.1 h with rfl | h
      · exact Bool.eq_false_iff.2 hc
      · have hlater := ih h
        rw [isListed_append, Bool.or_eq_false_iff] at hlater
        exact hlater.1

/-- **No binding is listed that has an entry among those listed before it.** -/
theorem pairwise_admitted (connections : List Json) (bindings : List Binding) :
    (admitted connections bindings).Pairwise fun b later =>
      isEntryOf later.id (storedId later.id later.cluster) (entryOf b) = false := by
  induction bindings generalizing connections with
  | nil => exact .nil
  | cons b rest ih =>
    rw [admitted]
    split
    · exact ih connections
    · refine List.pairwise_cons.2 ⟨fun later hlater => ?_, ih _⟩
      have hnot := isListed_of_mem_admitted hlater
      rw [isListed_append, Bool.or_eq_false_iff] at hnot
      simpa [isListed] using hnot.2

/-- No two bindings are listed under the same stored id. -/
theorem nodup_storedId_admitted (connections : List Json) (bindings : List Binding) :
    ((admitted connections bindings).map fun b => storedId b.id b.cluster).Nodup := by
  rw [List.Nodup, List.pairwise_map]
  refine (pairwise_admitted connections bindings).imp fun {b later} hnot hsame => ?_
  rw [isEntryOf_entryOf, beq_iff_eq.2 hsame, Bool.or_true, Bool.true_or] at hnot
  cases hnot

/-- When no two items in order have a property, it is counted at most once. -/
theorem countP_le_one_of_pairwise {α : Type} {l : List α} {p : α → Bool}
    (h : l.Pairwise fun x y => p x = true → p y = false) : l.countP p ≤ 1 := by
  induction l with
  | nil => exact Nat.zero_le 1
  | cons x l ih =>
    obtain ⟨hx, hl⟩ := List.pairwise_cons.1 h
    cases hp : p x with
    | true =>
      have hnone : l.countP p = 0 := List.countP_eq_zero.2 fun y hy => by simp [hx y hy hp]
      exact Nat.le_of_eq ((List.countP_cons_of_pos hp).trans (congrArg (· + 1) hnone))
    | false =>
      rw [List.countP_cons_of_neg (by simp [hp])]
      exact ih hl

/-- An ordinary id is listed once. -/
theorem countP_admitted_le {id : WideText} (hid : IsOrdinary id) (connections : List Json)
    (bindings : List Binding) :
    (admitted connections bindings).countP (fun b => b.id == id) ≤ 1 := by
  refine countP_le_one_of_pairwise ((pairwise_admitted connections bindings).imp ?_)
  intro b later hnot hb
  obtain rfl := beq_iff_eq.1 hb
  refine beq_eq_false_iff_ne.2 fun hsame => ?_
  rw [hsame, (isEntryOf_entryOf_iff b later.cluster).2 (.inl hid)] at hnot
  cases hnot

/-- Any other id is listed twice if it is asked for with a cluster and then without. -/
theorem admitted_of_not_isOrdinary {id cluster : WideText} (hid : ¬IsOrdinary id)
    (hcluster : cluster ≠ []) (kind path : WideText) :
    admitted [] [⟨id, kind, path, some cluster⟩, ⟨id, kind, path, none⟩] =
      [⟨id, kind, path, some cluster⟩, ⟨id, kind, path, none⟩] := by
  have hlonger := storedId_some_ne hcluster id
  have hnot : isListed [entryOf ⟨id, kind, path, some cluster⟩] id (storedId id none) = false := by
    rw [isListed, List.any_cons, List.any_nil, Bool.or_false, Bool.eq_false_iff]
    intro hentry
    rcases (isEntryOf_entryOf_iff ⟨id, kind, path, some cluster⟩ none).1 hentry with h | h | h
    · exact hid h
    · exact hlonger h
    · exact hlonger h
  rw [admitted, if_neg (by exact Bool.false_ne_true), admitted, List.nil_append,
    if_neg (Bool.eq_false_iff.1 hnot), admitted]

end Connection

/-! ## Runs -/

namespace Metadata

open Connection

/-- The metadata after some calls, each with bindings and defaults. -/
def connectAll (m : Metadata) (calls : List (List Binding × Defaults)) : Metadata :=
  calls.foldl (fun m c => m.connect c.1 c.2) m

theorem connectionsOf_withLocale (m : Metadata) (defaults : Defaults) :
    (m.withLocale defaults).connectionsOf = m.connectionsOf := by
  have hother : connectionsKey ≠ localeKey := by decide
  rw [connectionsOf, connectionsOf, withLocale, Fields.get?_setIfMissing_other hother]

theorem connectionsOf_connect (m : Metadata) (bindings : List Binding) (defaults : Defaults) :
    (m.connect bindings defaults).connectionsOf = bindings.foldl enlist m.connectionsOf := by
  rw [connect, connectionsOf, Fields.get?_set_self, connectionsOf_withLocale]

/-- Calls one after the other list what all their bindings together do. -/
theorem connectionsOf_connectAll (m : Metadata) (calls : List (List Binding × Defaults)) :
    (m.connectAll calls).connectionsOf =
      (calls.flatMap Prod.fst).foldl enlist m.connectionsOf := by
  induction calls generalizing m with
  | nil => rfl
  | cons c calls ih =>
    rw [List.flatMap_cons, List.foldl_append, ← connectionsOf_connect m c.1 c.2]
    exact ih _

/-- **Ordinary ids, and no others, are listed once whatever is asked.**  The connections are the
entries of the bindings that are listed, each with a stored id of its own. -/
theorem listed_once_iff {m : Metadata} (hm : m.connectionsOf = []) :
    (∀ calls, (m.connectAll calls).connectionsOf =
        (admitted [] (calls.flatMap Prod.fst)).map entryOf ∧
      ((admitted [] (calls.flatMap Prod.fst)).map fun b => storedId b.id b.cluster).Nodup) ∧
      ∀ id, (∀ calls : List (List Binding × Defaults),
          (admitted [] (calls.flatMap Prod.fst)).countP (fun b => b.id == id) ≤ 1) ↔
        IsOrdinary id := by
  refine ⟨fun calls => ⟨?_, nodup_storedId_admitted [] _⟩,
    fun id => ⟨fun h => ?_, fun hid calls => countP_admitted_le hid [] _⟩⟩
  · rw [connectionsOf_connectAll, hm, foldl_enlist, List.nil_append]
  · by_contra hid
    have hcluster : wide "c" ≠ [] := by decide
    have htwice := h [([⟨id, [], [], some (wide "c")⟩, ⟨id, [], [], none⟩], .standard)]
    rw [List.flatMap_singleton, admitted_of_not_isOrdinary hid hcluster] at htwice
    simp at htwice

/-- An id without a cluster, with one and with another one, and a second id in between. -/
def sampleConnectCalls : List (List Binding × Defaults) :=
  [([⟨wide "sales-1", wide "SQL", wide "srv;sales", none⟩,
      ⟨wide "b", wide "Web", wide "https://x", some (wide "g\"\\")⟩], .standard),
    ([⟨wide "sales-1", wide "SQL", wide "srv;sales", some (wide "gateway")⟩], .standard),
    ([⟨wide "b", wide "Web", wide "https://x", none⟩,
      ⟨wide "sales-1", wide "SQL", wide "srv;sales", some (wide "other")⟩], .standard)]

theorem listed_once_iff_sampleConnectCalls :
    let m : Metadata := [(localeKey, .string (wide "fr-FR")), (connectionsKey, .bool true)]
    let listed := admitted [] (sampleConnectCalls.flatMap Prod.fst)
    m.connectionsOf = [] ∧
      (m.connectAll sampleConnectCalls).connectionsOf = listed.map entryOf ∧
      listed.map Binding.id = [wide "sales-1", wide "b"] ∧
      listed.countP (fun b => b.id == wide "sales-1") ≤ 1 := by
  intro m listed
  have hm : m.connectionsOf = [] := by decide
  obtain ⟨hlisted, honce⟩ := listed_once_iff hm
  have hordinary : IsOrdinary (wide "sales-1") := by decide
  exact ⟨hm, (hlisted sampleConnectCalls).1, by decide +kernel,
    (honce (wide "sales-1")).2 hordinary sampleConnectCalls⟩

/-- An id with a letter beyond ASCII, with a cluster and then without. -/
def accentedCalls : List (List Binding × Defaults) :=
  [([⟨wide "caf\u00e9", wide "SQL", wide "srv;sales", some (wide "gateway")⟩], .standard),
    ([⟨wide "caf\u00e9", wide "SQL", wide "srv;sales", none⟩], .standard)]

/-- The composite id shows the letter by number, so the id is not found in it and is listed a
second time. -/
theorem not_listed_once_accentedCalls :
    connectionsOf (connectAll [] accentedCalls) =
        [entryOf ⟨wide "caf\u00e9", wide "SQL", wide "srv;sales", some (wide "gateway")⟩,
          entryOf ⟨wide "caf\u00e9", wide "SQL", wide "srv;sales", none⟩] ∧
      ¬(admitted [] (accentedCalls.flatMap Prod.fst)).countP
        (fun b => b.id == wide "caf\u00e9") ≤ 1 := by
  have hlisted : admitted [] (accentedCalls.flatMap Prod.fst) =
      accentedCalls.flatMap Prod.fst := by decide +kernel
  refine ⟨?_, by rw [hlisted]; decide⟩
  rw [connectionsOf_connectAll, foldl_enlist]
  exact congrArg (List.map entryOf) hlisted

end Metadata

end Dataflow
