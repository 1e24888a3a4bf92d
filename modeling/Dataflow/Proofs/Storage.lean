import Dataflow.Proofs.Payload
import Dataflow.Store.Basic
import Dataflow.Store.Disk

/-!
# What a store keeps

A store in a folder writes a definition as JSON in ASCII, each string with its halves of surrogate
pairs by number, and reads it again through UTF-8, the line ends of a text file, and the rule for
a wrapping object.  Nothing of this changes a definition whose strings are joined, as those of every
definition that comes from a text are.  Different keys have different files, so a definition that
is written is fetched under its own key, and all other keys are left alone.

## What is here

* `Json.printed_print` — what a stored file is made of.
* `Definition.IsJoined`, and `Definition.isJoined_of_read`: where such definitions come from.
* `DiskStore.ofBytes_toBytes` — **a definition reads back from its file.**
* `DiskStore.placeFor_injective` — **different keys have different files**, and
  `DiskStore.exists_placeFor`: which have one.
* `Replaces`, `KeepingStore`: a store that keeps what it takes, with both stores as instances.
-/

set_option autoImplicit false

namespace Dataflow

/-! ## The characters of a stored file -/

/-- Whether a character is visible ASCII, a blank or a line feed. -/
def isPrinted (c : Char) : Bool := c == '\n' || (0x20 ≤ c.toNat && c.toNat < 0x7F)

/-- A wide text of such characters. -/
def Printed (w : WideText) : Prop := ∀ p ∈ w, ∃ c, p = .scalar c ∧ isPrinted c = true

theorem Printed.append {v w : WideText} (hv : Printed v) (hw : Printed w) : Printed (v ++ w) :=
  fun p hp => (List.mem_append.1 hp).elim (hv p) (hw p)

theorem printed_widen {t : Text} (h : ∀ c ∈ t, isPrinted c = true) : Printed (Text.widen t) := by
  intro p hp
  obtain ⟨c, hc, rfl⟩ := List.mem_map.1 hp
  exact ⟨c, rfl, h c hc⟩

theorem printed_wide {s : String} (h : s.toList.all isPrinted = true) : Printed (wide s) :=
  printed_widen (List.all_eq_true.1 h)

theorem Printed.exists_widen {w : WideText} (h : Printed w) :
    ∃ t, w = Text.widen t ∧ ∀ c ∈ t, isPrinted c = true := by
  induction w with
  | nil => exact ⟨[], rfl, fun c hc => absurd hc List.not_mem_nil⟩
  | cons p w ih =>
    obtain ⟨⟨c, rfl, hc⟩, hw⟩ := List.forall_mem_cons.1 h
    obtain ⟨t, rfl, ht⟩ := ih hw
    exact ⟨c :: t, rfl, List.forall_mem_cons.2 ⟨hc, ht⟩⟩

namespace Json

/-! ### Numbers -/

theorem isPrinted_of_isDigit {c : Char} (h : isDigit c = true) : isPrinted c = true := by
  simp only [isDigit, Bool.and_eq_true, decide_eq_true_eq] at h
  simp only [isPrinted, Bool.or_eq_true, Bool.and_eq_true, decide_eq_true_eq]
  omega

theorem isPrinted_decimal (n : Nat) : ∀ c ∈ decimal n, isPrinted c = true :=
  fun c hc => isPrinted_of_isDigit (allDigits_decimal n c hc)

theorem isPrinted_zeros (count : Nat) : ∀ c ∈ List.replicate count '0', isPrinted c = true :=
  fun c hc => isPrinted_of_isDigit (allDigits_zeros count c hc)

theorem isPrinted_signedDecimal (n : Int) : ∀ c ∈ signedDecimal n, isPrinted c = true := by
  rw [signedDecimal]
  split
  · exact List.forall_mem_cons.2 ⟨rfl, isPrinted_decimal _⟩
  · exact isPrinted_decimal _

theorem isPrinted_exponentText (power : Int) : ∀ c ∈ exponentText power, isPrinted c = true := by
  rw [exponentText]
  refine List.forall_mem_cons.2 ⟨by split <;> rfl, ?_⟩
  split
  · exact List.forall_mem_cons.2 ⟨rfl, isPrinted_decimal _⟩
  · exact isPrinted_decimal _

theorem isPrinted_layOut (style : FloatStyle) (digits : Nat) (power : Int) :
    ∀ c ∈ style.layOut digits power, isPrinted c = true := by
  have hdigits : ∀ c ∈ if digits = 0 then decimal digits
      else ((decimal digits).reverse.dropWhile (· == '0')).reverse, isPrinted c = true := by
    intro c hc
    refine isPrinted_decimal digits c ?_
    split at hc
    · exact hc
    · exact List.mem_reverse.1 ((List.dropWhile_sublist _).mem (List.mem_reverse.1 hc))
  rw [FloatStyle.layOut]
  simp only
  generalize (if digits = 0 then decimal digits
    else ((decimal digits).reverse.dropWhile (· == '0')).reverse) = ds at hdigits
  have hexponent := isPrinted_exponentText (power + (decimal digits).length - 1)
  split
  · split
    · simp only [List.forall_mem_append]
      exact ⟨⟨List.all_eq_true.1 (by decide), isPrinted_zeros _⟩, hdigits⟩
    · simp only [List.forall_mem_append]
      refine ⟨⟨⟨fun c hc => hdigits c (List.mem_of_mem_take hc), isPrinted_zeros _⟩,
        List.all_eq_true.1 rfl⟩, ?_⟩
      split
      · exact List.all_eq_true.1 rfl
      · exact fun c hc => hdigits c (List.mem_of_mem_drop hc)
  · split
    · simp only [List.forall_mem_cons] at hdigits ⊢
      exact ⟨hdigits.1, rfl, hexponent⟩
    · simp only [List.forall_mem_cons, List.forall_mem_append] at hdigits ⊢
      exact ⟨⟨hdigits.1, rfl, hdigits.2⟩, rfl, hexponent⟩
    · simp

theorem isPrinted_render (x : Double) : ∀ c ∈ x.render numberStyle, isPrinted c = true := by
  cases x with
  | nan => exact List.all_eq_true.1 (by decide)
  | infinite negative => cases negative <;> exact List.all_eq_true.1 (by decide)
  | finite negative m =>
    rw [Double.render, List.forall_mem_append]
    exact ⟨by cases negative <;> exact List.all_eq_true.1 rfl, isPrinted_layOut _ _ _⟩

/-! ### Strings -/

theorem isPrinted_hexadecimal (width n : Nat) :
    ∀ c ∈ hexadecimal width n, isPrinted c = true :=
  forall_mem_hexadecimal (by decide) width n

theorem isPrinted_numberEscape (n : Nat) : ∀ c ∈ numberEscape n, isPrinted c = true :=
  List.forall_mem_cons.2 ⟨rfl, List.forall_mem_cons.2 ⟨rfl, isPrinted_hexadecimal 4 n⟩⟩

theorem isPrinted_ite {p : Prop} [Decidable p] {s t : Text} (hs : ∀ c ∈ s, isPrinted c = true)
    (ht : ¬p → ∀ c ∈ t, isPrinted c = true) : ∀ c ∈ if p then s else t, isPrinted c = true := by
  split
  · exact hs
  · exact ht ‹_›

theorem isPrinted_escapeChar (c : Char) : ∀ x ∈ escapeChar true c, isPrinted x = true := by
  rw [escapeChar]
  -- the seven escapes of one letter
  iterate 7 refine isPrinted_ite (List.all_eq_true.1 rfl) fun _ => ?_
  simp only [true_and]
  refine isPrinted_ite (isPrinted_numberEscape _) fun hlow => ?_
  split
  · refine isPrinted_ite (isPrinted_numberEscape _) fun _ => ?_
    rw [List.forall_mem_append]
    exact ⟨isPrinted_numberEscape _, isPrinted_numberEscape _⟩
  · rename_i hhigh
    rw [List.forall_mem_singleton, isPrinted]
    simp only [Bool.or_eq_true, Bool.and_eq_true, decide_eq_true_eq]
    omega

theorem printed_printString (s : WideText) : Printed (printString true s) := by
  refine ((printed_wide (by decide)).append fun p hp => ?_).append (printed_wide (by decide))
  obtain ⟨q, -, hp⟩ := List.mem_flatMap.1 hp
  cases q with
  | scalar c => exact printed_widen (isPrinted_escapeChar c) p hp
  | surrogate half => exact printed_widen (isPrinted_numberEscape _) p hp

/-! ### Values -/

theorem printed_lineStart (level : Nat) : Printed (Layout.stored.lineStart level) := by
  refine printed_widen (List.forall_mem_cons.2 ⟨rfl, fun c hc => ?_⟩)
  rw [List.eq_of_mem_replicate hc]
  rfl

theorem printed_comma : Printed (wide Layout.stored.comma) := printed_wide (by decide)

theorem printed_colon : Printed (wide Layout.stored.colon) := printed_wide (by decide)

mutual

theorem printed_printAt (level : Nat) : (v : Json) → Printed (printAt .stored level v)
  | .null => printed_wide (by decide)
  | .bool true => printed_wide (by decide)
  | .bool false => printed_wide (by decide)
  | .int n => printed_widen (isPrinted_signedDecimal n)
  | .float x => printed_widen (isPrinted_render x)
  | .string s => printed_printString s
  | .array [] => printed_wide (by decide)
  | .array (item :: rest) =>
    (((((printed_wide (by decide)).append (printed_lineStart _)).append
      (printed_printAt (level + 1) item)).append (printed_printItems (level + 1) rest)).append
      (printed_lineStart _)).append (printed_wide (by decide))
  | .object [] => printed_wide (by decide)
  | .object ((key, value) :: rest) =>
    (((((((printed_wide (by decide)).append (printed_lineStart _)).append
      (printed_printString key)).append printed_colon).append
      (printed_printAt (level + 1) value)).append (printed_printFields (level + 1) rest)).append
      (printed_lineStart _)).append (printed_wide (by decide))

theorem printed_printItems (level : Nat) :
    (items : List Json) → Printed (printItems .stored level items)
  | [] => fun _ hp => absurd hp List.not_mem_nil
  | item :: rest =>
    ((printed_comma.append (printed_lineStart _)).append (printed_printAt level item)).append
      (printed_printItems level rest)

theorem printed_printFields (level : Nat) :
    (fields : Fields) → Printed (printFields .stored level fields)
  | [] => fun _ hp => absurd hp List.not_mem_nil
  | (key, value) :: rest =>
    ((((printed_comma.append (printed_lineStart _)).append (printed_printString key)).append
      printed_colon).append (printed_printAt level value)).append (printed_printFields level rest)

end

/-- **A value is stored in ASCII**, with no control character but line feeds. -/
theorem printed_print (v : Json) : Printed (v.print .stored) := printed_printAt 0 v

/-- What is written by number reads back if it is joined. -/
theorem Layout.stored_isReadable : stored.IsReadable IsJoined where
  comma := ⟨[], rfl, fun c hc => absurd hc List.not_mem_nil⟩
  colon := ⟨[' '], rfl, by simp [AllSpace, isSpace]⟩
  joined _ _ hs _ := hs

end Json

/-! ## Definitions that read back -/

/-- The strings of a part are joined. -/
structure Part.IsJoined (p : Part) : Prop where
  path : Json.IsJoined p.path
  payload : Json.IsJoined p.payload
  payloadType : Json.IsJoined p.payloadType

/-- The strings of a definition are joined. -/
def Definition.IsJoined (d : Definition) : Prop := ∀ p ∈ d.parts, p.IsJoined

/-- A text has no halves that could be joined. -/
theorem Json.isJoined_widen (t : Text) : Json.IsJoined (Text.widen t) := by
  induction t with
  | nil => rfl
  | cons c t ih => exact congrArg (CodePoint.scalar c :: ·) ih

theorem Part.tidy_toJson {p : Part} (hp : p.IsJoined) : p.toJson.Tidy Json.IsJoined := by
  have hkeys : [wide "path", wide "payload", wide "payloadType"].Nodup := by decide
  refine .object hkeys ?_ ?_
  · simp only [List.forall_mem_cons]
    exact ⟨Json.isJoined_widen _, Json.isJoined_widen _, Json.isJoined_widen _, by simp⟩
  · simp only [List.forall_mem_cons]
    exact ⟨.string hp.path, .string hp.payload, .string hp.payloadType, by simp⟩

theorem Definition.tidy_toJson {d : Definition} (hd : d.IsJoined) :
    d.toJson.Tidy Json.IsJoined := by
  have hkeys : [wide "parts"].Nodup := by decide
  refine .object hkeys ?_ ?_
  · rw [List.forall_mem_singleton]
    exact Json.isJoined_widen _
  · rw [List.forall_mem_singleton]
    exact .array (List.forall_mem_map.2 fun p hp => Part.tidy_toJson (hd p hp))

theorem Part.listOfJson_map_toJson (index : Nat) (parts : List Part) :
    Part.listOfJson index (parts.map Part.toJson) = .ok parts := by
  induction parts generalizing index with
  | nil => rfl
  | cons p parts ih =>
    have hpart : Part.ofJson [.field "parts", .item index] p.toJson = .ok p := rfl
    rw [List.map_cons, Part.listOfJson, hpart, ih]
    rfl

/-- A definition is the one that its value gives. -/
theorem Definition.ofJson_toJson (d : Definition) : Definition.ofJson d.toJson = .ok d := by
  have hparts : Definition.ofJson d.toJson =
      (Part.listOfJson 0 (d.parts.map Part.toJson)).map Definition.mk := rfl
  rw [hparts, Part.listOfJson_map_toJson]
  rfl

/-! ### Where they come from -/

namespace Shape

theorem both_eq_ok {α β : Type} {a : Checked α} {b : Checked β} {r : α × β}
    (h : both a b = .ok r) : a = .ok r.1 ∧ b = .ok r.2 := by
  cases a with
  | error problems => cases h
  | ok x =>
    cases b with
    | error problems => cases h
    | ok y =>
      cases h
      exact ⟨rfl, rfl⟩

theorem map_eq_ok {α β : Type} {f : α → β} {a : Checked α} {y : β} (h : a.map f = .ok y) :
    ∃ x, a = .ok x ∧ f x = y := by
  cases a with
  | error problems => cases h
  | ok x => exact ⟨x, rfl, Except.ok.inj h⟩

variable {good : WideText → Prop} {place : List Step} {fields : Fields}

theorem tidy_of_field? (h : (Json.object fields).Tidy good) {spellings : List String}
    {name : String} {v : Json} (hfield : field? fields spellings = some (name, v)) :
    v.Tidy good := by
  induction spellings with
  | nil => cases hfield
  | cons spelling more ih =>
    rw [field?] at hfield
    split at hfield
    · rename_i value hvalue
      cases hfield
      exact h.of_get? hvalue
    · exact ih hfield

theorem good_of_asString {v : Json} (h : v.Tidy good) {s : WideText}
    (hs : asString place v = .ok s) : good s := by
  cases h <;> cases hs
  assumption

theorem fields_of_asFields {expected : Expected} {v : Json} (h : v.Tidy good)
    (hfields : asFields place expected v = .ok fields) : (Json.object fields).Tidy good := by
  cases h <;> cases hfields
  constructor <;> assumption

theorem items_of_asItems {v : Json} (h : v.Tidy good) {items : List Json}
    (hitems : asItems place v = .ok items) : ∀ item ∈ items, item.Tidy good := by
  cases h <;> cases hitems
  assumption

end Shape

section

variable {good : WideText → Prop} {place : List Shape.Step} {fields : Fields}

theorem Part.good_of_stringField (h : (Json.object fields).Tidy good) {spellings : List String}
    {default s : WideText} (hdefault : good default)
    (hs : Part.stringField place fields spellings default = .ok s) : good s := by
  rw [Part.stringField] at hs
  split at hs
  · rename_i name value hfield
    exact Shape.good_of_asString (Shape.tidy_of_field? h hfield) hs
  · cases hs
    exact hdefault

theorem Part.good_of_pathField (h : (Json.object fields).Tidy good) {s : WideText}
    (hs : Part.pathField place fields = .ok s) : good s := by
  rw [Part.pathField] at hs
  split at hs
  · rename_i name value hfield
    exact Shape.good_of_asString (Shape.tidy_of_field? h hfield) hs
  · cases hs

end

theorem Part.isJoined_of_ofJson {place : List Shape.Step} {v : Json} (h : v.Tidy Json.IsJoined)
    {p : Part} (hp : Part.ofJson place v = .ok p) : p.IsJoined := by
  rw [Part.ofJson] at hp
  split at hp
  · cases hp
  · rename_i fields hfields
    have hobject := Shape.fields_of_asFields h hfields
    obtain ⟨r, hr, rfl⟩ := Shape.map_eq_ok hp
    obtain ⟨hpath, hrest⟩ := Shape.both_eq_ok hr
    obtain ⟨hpayload, htype⟩ := Shape.both_eq_ok hrest
    exact ⟨good_of_pathField hobject hpath,
      good_of_stringField hobject (Json.isJoined_widen []) hpayload,
      good_of_stringField hobject (Json.isJoined_widen _) htype⟩

theorem Part.isJoined_of_listOfJson {index : Nat} {items : List Json}
    (h : ∀ v ∈ items, v.Tidy Json.IsJoined) {parts : List Part}
    (hparts : Part.listOfJson index items = .ok parts) : ∀ p ∈ parts, p.IsJoined := by
  induction items generalizing index parts with
  | nil =>
    cases hparts
    exact fun p hp => absurd hp List.not_mem_nil
  | cons v items ih =>
    obtain ⟨r, hr, rfl⟩ := Shape.map_eq_ok hparts
    obtain ⟨hfirst, hrest⟩ := Shape.both_eq_ok hr
    obtain ⟨hv, hitems⟩ := List.forall_mem_cons.1 h
    exact List.forall_mem_cons.2 ⟨isJoined_of_ofJson hv hfirst, ih hitems hrest⟩

theorem Definition.isJoined_of_ofJson {v : Json} (htidy : v.Tidy Json.IsJoined) {d : Definition}
    (hd : Definition.ofJson v = .ok d) : d.IsJoined := by
  rw [Definition.ofJson] at hd
  split at hd
  · cases hd
  · rename_i fields hfields
    split at hd
    · cases hd
      exact fun p hp => absurd hp List.not_mem_nil
    · rename_i name list hfield
      have hlist := Shape.tidy_of_field? (Shape.fields_of_asFields htidy hfields) hfield
      split at hd
      · cases hd
      · rename_i items hitems
        obtain ⟨parts, hparts, rfl⟩ := Shape.map_eq_ok hd
        exact Part.isJoined_of_listOfJson (Shape.items_of_asItems hlist hitems) hparts

/-! ## Files -/

/-- A text without carriage returns has its line ends already. -/
theorem Folder.unifyLines_of_printed {t : Text} (h : ∀ c ∈ t, isPrinted c = true) :
    unifyLines t = t := by
  fun_induction unifyLines t with
  | case1 => rfl
  | case2 rest ih => exact absurd (h '\r' (by simp)) (by decide)
  | case3 rest hne ih => exact absurd (h '\r' (by simp)) (by decide)
  | case4 c rest _ _ ih => rw [ih fun x hx => h x (List.mem_cons_of_mem c hx)]

namespace DiskStore

theorem tidy_unwrap {good : WideText → Prop} {v : Json} (h : v.Tidy good) :
    (unwrap v).Tidy good := by
  rw [unwrap.eq_def]
  split
  · split
    · rename_i inner hinner
      split
      · exact h
      · exact h.of_get? hinner
    · exact h
  · exact h

/-- **A definition that comes from a file is joined**, since two halves that meet in a text are one
character. -/
theorem isJoined_of_ofBytes {bytes : Bytes} {d : Definition} (h : ofBytes bytes = .ok d) :
    d.IsJoined := by
  rw [ofBytes] at h
  split at h
  · cases h
  · split at h
    · cases h
    · rename_i v hread
      split at h
      · cases h
      · rename_i r hr
        obtain rfl := Except.ok.inj h
        exact Definition.isJoined_of_ofJson (tidy_unwrap (Json.tidy_of_read hread)) hr

theorem isJoined_of_read {s : DiskStore} {workspace dataflow : Text} {d : Definition}
    (h : s.read workspace dataflow = .ok d) : d.IsJoined := by
  rw [read] at h
  split at h
  · cases h
  · split at h
    · cases h
    · exact isJoined_of_ofBytes h

/-- **A definition reads back from its file.** -/
theorem ofBytes_toBytes {d : Definition} (hd : d.IsJoined) :
    ∃ bytes, toBytes d = .ok bytes ∧ ofBytes bytes = .ok d := by
  obtain ⟨t, ht, hprinted⟩ := (Json.printed_print d.toJson).exists_widen
  have hall : ∀ c ∈ t ++ ['\n'], isPrinted c = true :=
    List.forall_mem_append.2 ⟨hprinted, List.all_eq_true.1 rfl⟩
  have hbytes : toBytes d = .ok (Utf8.encode (t ++ ['\n'])) := by
    have hwide : d.toJson.print .stored ++ wide "\n" = Text.widen (t ++ ['\n']) := by
      rw [ht, Text.widen_append]
      rfl
    rw [toBytes, hwide, Utf8.encodeWide_widen]
  have htext : Folder.textOf (Utf8.encode (t ++ ['\n'])) = .ok (t ++ ['\n']) := by
    rw [Folder.textOf, Utf8.decode_encode]
    exact congrArg Except.ok (Folder.unifyLines_of_printed hall)
  have hread : Json.read (t ++ ['\n']) = .ok d.toJson :=
    Json.read_print_append Json.Layout.stored_isReadable (Definition.tidy_toJson hd) ht
      (by simp [Json.AllSpace, Json.isSpace])
  have hunwrap : unwrap d.toJson = d.toJson := rfl
  refine ⟨_, hbytes, ?_⟩
  rw [ofBytes, htext]
  simp only [hread, hunwrap, Definition.ofJson_toJson]

/-! ## Places -/

/-- The text of the path of a file two levels below a directory. -/
theorem toText_child_child (root : Path) (directory file : Text) :
    ((root.child directory).child file).toText =
      root.root ++ root.names.flatMap (· ++ ['/']) ++ directory ++ '/' :: file := by
  obtain ⟨slashes, names⟩ := root
  have hjoin : List.intercalate ['/'] (names ++ [directory] ++ [file]) =
      names.flatMap (· ++ ['/']) ++ directory ++ '/' :: file := by
    induction names with
    | nil => simp [List.intercalate]
    | cons name names ih =>
      have hcons : List.intercalate ['/'] (name :: names ++ [directory] ++ [file]) =
          name ++ ['/'] ++ List.intercalate ['/'] (names ++ [directory] ++ [file]) := by
        cases names <;> simp [List.intercalate]
      rw [hcons, ih]
      simp
  have htext : ((Path.child ⟨slashes, names⟩ directory).child file).toText =
      slashes ++ List.intercalate ['/'] (names ++ [directory] ++ [file]) := by
    rw [Path.toText.eq_def]
    split
    · rename_i hnames
      exact absurd hnames (by simp [Path.child])
    · rfl
  rw [htext, hjoin]
  simp

/-- Two texts that go on with their first `c` are equal up to there and behind it. -/
theorem eq_of_append_cons {c : Char} {s s' t t' : Text} (hs : c ∉ s) (hs' : c ∉ s')
    (h : s ++ c :: t = s' ++ c :: t') : s = s' ∧ t = t' := by
  induction s generalizing s' with
  | nil =>
    cases s' with
    | nil => exact ⟨rfl, (List.cons.inj h).2⟩
    | cons x s' => exact absurd (List.mem_cons.2 (.inl (List.cons.inj h).1)) hs'
  | cons x s ih =>
    cases s' with
    | nil => exact absurd (List.mem_cons.2 (.inl (List.cons.inj h).1.symm)) hs
    | cons y s' =>
      obtain ⟨rfl, hrest⟩ := List.cons.inj h
      obtain ⟨rfl, rfl⟩ := ih (fun hc => hs (List.mem_cons_of_mem x hc))
        (fun hc => hs' (List.mem_cons_of_mem x hc)) hrest
      exact ⟨rfl, rfl⟩

theorem not_mem_of_isIdentifier {id : Text} (h : isIdentifier id = true) : '/' ∉ id := by
  simp only [isIdentifier, Bool.and_eq_true, Bool.not_eq_true', List.contains_eq_mem,
    decide_eq_false_iff_not] at h
  exact h.1.1.1.2

/-- The place of a definition, by the parts of its path. -/
theorem exists_of_placeFor {s : DiskStore} {workspace dataflow place : Text}
    (h : s.placeFor workspace dataflow = .ok place) :
    '/' ∉ workspace ∧ place = s.root.root ++ s.root.names.flatMap (· ++ ['/']) ++ workspace ++
      '/' :: (dataflow ++ text ".json") := by
  rw [placeFor] at h
  split at h
  · cases h
  · rename_i path hpath
    split at h
    · cases h
    · cases h
      rw [pathFor] at hpath
      split at hpath
      · cases hpath
      · rename_i hworkspace
        split at hpath
        · cases hpath
        · cases hpath
          exact ⟨not_mem_of_isIdentifier (by simpa using hworkspace), toText_child_child _ _ _⟩

/-- **Different keys have different files.** -/
theorem placeFor_injective {s : DiskStore} {workspace dataflow workspace' dataflow' place : Text}
    (h : s.placeFor workspace dataflow = .ok place)
    (h' : s.placeFor workspace' dataflow' = .ok place) :
    (workspace, dataflow) = (workspace', dataflow') := by
  obtain ⟨hslash, hplace⟩ := exists_of_placeFor h
  obtain ⟨hslash', hplace'⟩ := exists_of_placeFor h'
  rw [hplace, List.append_assoc (_ ++ _), List.append_assoc (_ ++ _),
    List.append_cancel_left_eq] at hplace'
  obtain ⟨hworkspace, hdataflow⟩ := eq_of_append_cons hslash hslash' hplace'
  rw [hworkspace, List.append_cancel_right hdataflow]

/-- Whether a text can be a name in the file system: an identifier without null characters. -/
def isName (id : Text) : Bool := isIdentifier id && !id.contains '\x00'

/-- A character of a name in a path is one of its text. -/
theorem mem_intercalate {names : List Text} {name : Text} (h : name ∈ names) {c : Char}
    (hc : c ∈ name) : c ∈ List.intercalate ['/'] names := by
  induction names with
  | nil => cases h
  | cons first names ih =>
    cases names with
    | nil =>
      obtain rfl := List.mem_singleton.1 h
      simpa [List.intercalate] using hc
    | cons second names =>
      have hcons : List.intercalate ['/'] (first :: second :: names) =
          first ++ ['/'] ++ List.intercalate ['/'] (second :: names) := by
        simp [List.intercalate]
      rw [hcons]
      rcases List.mem_cons.1 h with rfl | h
      · exact List.mem_append_left _ (List.mem_append_left _ hc)
      · exact List.mem_append_right _ (ih h)

/-- A character that is not in the text of a directory is not in front of what lies below it. -/
theorem not_mem_front {root : Path} {c : Char} (hslash : c ≠ '/') (hc : c ∉ root.toText) :
    c ∉ root.root ++ root.names.flatMap (· ++ ['/']) := by
  obtain ⟨slashes, names⟩ := root
  rw [Path.toText.eq_def] at hc
  split at hc
  · rename_i hroot hnames
    cases hroot
    cases hnames
    simp
  · rw [List.mem_append, not_or] at hc
    rw [List.mem_append, not_or]
    refine ⟨hc.1, fun hmem => hc.2 ?_⟩
    obtain ⟨name, hname, hmem⟩ := List.mem_flatMap.1 hmem
    rcases List.mem_append.1 hmem with hmem | hmem
    · exact mem_intercalate hname hmem
    · exact absurd (List.mem_singleton.1 hmem) hslash

/-- Names have a place below a directory. -/
theorem exists_placeFor {s : DiskStore} (hroot : '\x00' ∉ s.root.toText)
    {workspace dataflow : Text} (hworkspace : isName workspace = true)
    (hdataflow : isName dataflow = true) :
    ∃ place, s.placeFor workspace dataflow = .ok place := by
  simp only [isName, Bool.and_eq_true, Bool.not_eq_true', List.contains_eq_mem,
    decide_eq_false_iff_not] at hworkspace hdataflow
  have hpath : s.pathFor workspace dataflow =
      .ok ((s.root.child workspace).child (dataflow ++ text ".json")) := by
    rw [pathFor, hworkspace.1, hdataflow.1]
    rfl
  have hnone : '\x00' ∉ ((s.root.child workspace).child (dataflow ++ text ".json")).toText := by
    rw [toText_child_child]
    have hfront := not_mem_front (by decide) hroot
    have hending : '\x00' ∉ text ".json" := by decide
    simp only [List.mem_append, List.mem_cons, not_or] at hfront ⊢
    exact ⟨⟨hfront, hworkspace.2⟩, by decide, hdataflow.2, hending⟩
  rw [placeFor, hpath]
  simp only [List.contains_eq_mem, hnone, decide_false, Bool.false_eq_true, if_false]
  exact ⟨_, rfl⟩

end DiskStore

/-! ## Stores that keep what they take -/

/-- What becomes of a store when a definition is written under a key: it is fetched there, and
under the other keys that are taken nothing changes. -/
structure Replaces {σ : Type} [DefinitionStore σ] (accepts : σ → Text → Text → Prop) (s s' : σ)
    (workspace dataflow : Text) (d : Definition) : Prop where
  /-- What was written is fetched. -/
  fetch_self : DefinitionStore.fetch s' workspace dataflow = .ok d
  /-- Other keys keep what they have. -/
  fetch_other : ∀ workspace' dataflow', accepts s workspace' dataflow' →
    (workspace', dataflow') ≠ (workspace, dataflow) →
      DefinitionStore.fetch s' workspace' dataflow' = DefinitionStore.fetch s workspace' dataflow'
  /-- The same keys are taken. -/
  accepts_iff : ∀ workspace' dataflow',
    accepts s' workspace' dataflow' ↔ accepts s workspace' dataflow'

/-- A store that keeps joined definitions under the keys that it takes. -/
class KeepingStore (σ : Type) [DefinitionStore σ] where
  /-- The keys that the store takes. -/
  Accepts : σ → (workspace dataflow : Text) → Prop
  /-- Persisting goes through and replaces. -/
  exists_persist : ∀ {s : σ} {workspace dataflow : Text} {d : Definition},
    Accepts s workspace dataflow → d.IsJoined →
      ∃ s', DefinitionStore.persist s workspace dataflow d = .ok s' ∧
        Replaces Accepts s s' workspace dataflow d

namespace MemoryStore

theorem fetch_eq (s : MemoryStore) (workspace dataflow : Text) :
    DefinitionStore.fetch s workspace dataflow =
      match s.definition? workspace dataflow with
      | some d => .ok d
      | none => .error (.missingDefinition workspace dataflow) := rfl

/-- A definition that is put into memory replaces the one with its key. -/
theorem replaces_put (s : MemoryStore) (workspace dataflow : Text) (d : Definition) :
    Replaces (fun _ _ _ => True) s (s.put workspace dataflow d) workspace dataflow d where
  fetch_self := by rw [fetch_eq, definition?_put_self]
  fetch_other _ _ _ h := by rw [fetch_eq, fetch_eq, definition?_put_other s h]
  accepts_iff _ _ := Iff.rfl

/-- A store in memory takes every key. -/
instance : KeepingStore MemoryStore where
  Accepts _ _ _ := True
  exists_persist {s workspace dataflow d} _ _ :=
    ⟨_, rfl, ⟨(s.replaces_put workspace dataflow d).fetch_self,
      (s.replaces_put workspace dataflow d).fetch_other, fun _ _ => Iff.rfl⟩⟩

end MemoryStore

namespace DiskStore

/-- A store in a folder takes the keys that have a place. -/
instance : KeepingStore DiskStore where
  Accepts s workspace dataflow := ∃ place, s.placeFor workspace dataflow = .ok place
  exists_persist {s workspace dataflow d} haccepts hd := by
    obtain ⟨place, hplace⟩ := haccepts
    obtain ⟨bytes, hbytes, hread⟩ := ofBytes_toBytes hd
    have hsame : ∀ workspace' dataflow',
        placeFor { s with folder := s.folder.write place bytes } workspace' dataflow' =
          s.placeFor workspace' dataflow' := fun _ _ => rfl
    have hwrite : s.write workspace dataflow d =
        .ok { s with folder := s.folder.write place bytes } := by
      rw [write, hplace]
      simp only [hbytes]
    refine ⟨_, hwrite, ?_, ?_, fun _ _ => Iff.rfl⟩
    · have hfetch : read { s with folder := s.folder.write place bytes } workspace dataflow =
          .ok d := by
        rw [read, hsame, hplace]
        simp only [Folder.bytes?_write_self, hread]
      exact hfetch
    · rintro workspace' dataflow' ⟨place', hplace'⟩ hkey
      have hne : place' ≠ place := by
        rintro rfl
        exact hkey (placeFor_injective hplace' hplace)
      have hfetch : read { s with folder := s.folder.write place bytes } workspace' dataflow' =
          read s workspace' dataflow' := by
        rw [read, read, hsame, hplace']
        simp only [Folder.bytes?_write_other _ hne]
      exact hfetch

end DiskStore
end Dataflow
