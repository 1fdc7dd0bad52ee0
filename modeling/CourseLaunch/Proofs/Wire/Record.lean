import CourseLaunch.Proofs.Wire.Codec
import CourseLaunch.Wire.Record
/-!
# Records that come back from the wire

A record that is written names each of its fields once, so that each field finds its own value
again. A field that is not written has the default that stands in for it.
-/

namespace CourseLaunch.Wire
open Json Codec

variable {α β : Type} {s rest : Source}

/-- What makes a field come back: what is not written is the default, and a default that is written
comes back. -/
structure Field.Lawful (f : Field α) : Prop where
  codec : f.codec.Lawful
  omitted : ∀ x, f.omits x → f.default? = some x
  default : ∀ x, f.default? = some x → f.omits x = false → ∀ depth, f.codec.Returns depth x

namespace Fields

/-- The names under which the fields are written. -/
def names : {α : Type} → Fields α → List String
  | _, .nil => []
  | _, .cons f rest => f.name :: rest.names

/-- Whether every field is lawful and no name means an earlier field. -/
def Lawful : {α : Type} → Fields α → Prop
  | _, .nil => True
  | _, .cons f rest => f.Lawful ∧ (∀ name ∈ rest.names, f.accepts name = false) ∧ rest.Lawful

/-- Whether the values that are written come back. -/
def Returns (depth : Nat) : {α : Type} → Fields α → α → Prop
  | _, .nil, _ => True
  | _, .cons f rest, (x, y) =>
    (f.omits x = false → f.codec.Returns depth x) ∧ rest.Returns depth y

/-- What was found for a field and for those behind it. -/
def slot (f : Field α) {fs : Fields β} (first : Option α) (others : fs.Slots) :
    (cons f fs).Slots :=
  (first, others)

@[simp]
theorem first_slot (f : Field α) {fs : Fields β} (first : Option α) (others : fs.Slots) :
    (slot f first others).first = first := rfl

@[simp]
theorem others_slot (f : Field α) {fs : Fields β} (first : Option α) (others : fs.Slots) :
    (slot f first others).others = others := rfl

/-- The values that are written, as found when they are read again. -/
def filled : {α : Type} → (fs : Fields α) → α → fs.Slots
  | _, .nil, _ => ()
  | _, .cons f rest, (x, y) => slot f (if f.omits x then none else some x) (rest.filled y)

/-- Whether the values that were found come back. -/
def Sound (depth : Nat) : {α : Type} → (fs : Fields α) → fs.Slots → Prop
  | _, .nil, _ => True
  | _, .cons f rest, slots =>
    (∀ x, slots.first = some x → (f.codec.write x).isWhole → f.codec.Returns depth x) ∧
      rest.Sound depth slots.others

theorem mem_write_name {fs : Fields α} {x : α} {field : String × Json}
    (known : field ∈ fs.write x) : field.1 ∈ fs.names := by
  induction fs with
  | nil => cases known
  | cons f rest ih =>
    obtain ⟨x, y⟩ := x
    rw [write] at known
    split at known
    · exact .tail _ (ih known)
    · rcases List.mem_cons.mp known with rfl | later
      · exact .head _
      · exact .tail _ (ih later)

/-- The fields of a record that are whole. -/
theorem whole_cons {f : Field α} {fs : Fields β} {x : α} {y : β}
    (whole : ∀ field ∈ (cons f fs).write (x, y), field.2.isWhole) :
    (f.omits x = false → (f.codec.write x).isWhole) ∧ ∀ field ∈ fs.write y, field.2.isWhole := by
  rw [write] at whole
  split at whole
  case isTrue omitted => exact ⟨fun written => absurd omitted (by simp [written]), whole⟩
  case isFalse =>
    exact ⟨fun _ => whole _ (.head _), fun field known => whole field (.tail _ known)⟩

/-! ### What was found -/

theorem sound_vacant (fs : Fields α) (depth : Nat) : fs.Sound depth fs.vacant := by
  induction fs with
  | nil => trivial
  | cons f rest ih => exact ⟨nofun, ih⟩

/-- Defaults come back. -/
theorem returns_absent {fs : Fields α} (lawful : fs.Lawful) {label : String} {index depth : Nat}
    {x : α} (made : fs.absent label index = .ok x) : fs.Returns depth x := by
  induction fs generalizing index with
  | nil => trivial
  | cons f rest ih =>
    obtain ⟨field, _, others⟩ := lawful
    rw [absent] at made
    rcases default : f.default? with _ | value
    · rw [default] at made
      cases made
    · rw [default] at made
      obtain ⟨y, more, rfl⟩ := map_eq_ok_iff.mp made
      exact ⟨fun written => field.default value default written depth, ih others more⟩

/-- When what was found comes back, so does the record that it makes. -/
theorem returns_complete {fs : Fields α} (lawful : fs.Lawful) {depth : Nat} {slots : fs.Slots}
    {x : α} (sound : fs.Sound depth slots) (made : fs.complete slots = .ok x)
    (whole : ∀ field ∈ fs.write x, field.2.isWhole) : fs.Returns depth x := by
  induction fs with
  | nil => trivial
  | cons f rest ih =>
    obtain ⟨field, _, others⟩ := lawful
    obtain ⟨first, more⟩ := sound
    rw [complete] at made
    rcases found : slots.first.or f.default? with _ | value
    · rw [found] at made
      cases made
    · rw [found] at made
      obtain ⟨y, completed, rfl⟩ := map_eq_ok_iff.mp made
      obtain ⟨whole, wholes⟩ := whole_cons whole
      refine ⟨fun written => ?_, ih others more completed wholes⟩
      rcases own : slots.first with _ | other
      · rw [own, Option.none_or] at found
        exact field.default value found written depth
      · rw [own, Option.some_or] at found
        cases found
        exact first value own (whole written)

/-- A record is complete when all that is written of it was found. -/
theorem complete_filled {fs : Fields α} (lawful : fs.Lawful) (x : α) :
    fs.complete (fs.filled x) = .ok x := by
  induction fs with
  | nil => rfl
  | cons f rest ih =>
    obtain ⟨x, y⟩ := x
    obtain ⟨field, _, others⟩ := lawful
    have first : (if f.omits x then none else some x).or f.default? = some x := by
      split
      case isTrue omitted => exact field.omitted x omitted
      case isFalse => rfl
    rw [complete]
    simp only [filled, first_slot, others_slot, first]
    rw [ih others]
    rfl

/-! ### Reading objects -/

/-- Reads the value of any key: that of a field, or one that is skipped. -/
def recordEntry (fs : Fields α) (depth : Nat) (slots : fs.Slots) (key : String) : Reader fs.Slots :=
  (fs.entry? depth key slots).getD (skipField slots)

theorem skipField_mapValue {σ τ : Type} (acc : σ) (f : σ → τ) (s : Source) :
    skipField (f acc) s = Outcome.mapValue (skipField acc s) f := by
  rw [skipField, skipField]
  rcases skipColon s with e | r
  · rfl
  · dsimp only
    rcases skipValue [] r.1 with e | r' <;> rfl

/-- The key of another field does not touch the first one. -/
theorem recordEntry_other {f : Field α} {fs : Fields β} {key : String}
    (other : f.accepts key = false) (depth : Nat) (a : Option α) (slots : fs.Slots) (s : Source) :
    (cons f fs).recordEntry depth (slot f a slots) key s =
      Outcome.mapValue (fs.recordEntry depth slots key s) (slot f a) := by
  simp only [recordEntry, entry?, other, Bool.false_eq_true, if_false, first_slot, others_slot]
  rcases known : fs.entry? depth key slots with _ | r
  · exact skipField_mapValue slots (slot f a) s
  · rfl

/-- A key of the first field fills its slot. -/
theorem recordEntry_own {f : Field α} {fs : Fields β} {key : String} (own : f.accepts key)
    (depth : Nat) (others : fs.Slots) (s : Source) :
    (cons f fs).recordEntry depth (slot f none others) key s =
      Outcome.mapValue (readField (f.codec.read depth) s) fun x => slot f (some x) others := by
  simp only [recordEntry, entry?, own, if_true, first_slot, Option.getD_some, Option.isSome_none,
    Bool.false_eq_true, if_false]
  rfl

/-- A key that does not mean the first field is left to the others. -/
theorem reads_recordEntry_other {f : Field α} {fs : Fields β} {key : String} {depth : Nat}
    {slots slots' : fs.Slots} {cs : List Char} (other : f.accepts key = false) (a : Option α)
    (reads : Reads (fs.recordEntry depth slots key) cs slots') :
    Reads ((cons f fs).recordEntry depth (slot f a slots) key) cs (slot f a slots') := by
  intro rest stops
  rw [recordEntry_other other]
  exact Outcome.gives_mapValue.mpr ⟨slots', reads rest stops, rfl⟩

/-- The value of the first field is read under its own name. -/
theorem reads_recordEntry_own {f : Field α} {fs : Fields β} {key : String} {depth : Nat}
    {cs : List Char} {x : α} (own : f.accepts key) (others : fs.Slots)
    (reads : Reads (f.codec.read depth) cs x) :
    Reads ((cons f fs).recordEntry depth (slot f none others) key) (':' :: cs)
      (slot f (some x) others) := by
  intro rest stops
  rw [recordEntry_own own]
  exact Outcome.gives_mapValue.mpr ⟨x, reads_readField reads rest stops, rfl⟩

/-- A record is read from an object when its entries leave it complete. -/
theorem gives_readObject_iff {fs : Fields α} {depth : Nat} {x : α} :
    Outcome.Gives (fs.readObject depth s) x rest ↔
      ∃ slots, (readEntries (fs.recordEntry depth) true fs.vacant s).Gives slots rest ∧
        fs.complete slots = .ok x := by
  have entries : (fun slots key => (fs.entry? depth key slots).getD (skipField slots)) =
      fs.recordEntry depth := rfl
  rw [readObject, entries]
  rcases readEntries (fs.recordEntry depth) true fs.vacant s with e | ⟨slots, r⟩
  · simp
  · dsimp only
    rcases made : fs.complete slots with cause | y
    · simp [made]
    · simp only [Outcome.gives_ok]
      constructor
      · rintro ⟨rfl, rfl⟩
        exact ⟨slots, ⟨rfl, rfl⟩, made⟩
      · rintro ⟨_, ⟨rfl, rfl⟩, made'⟩
        exact ⟨Except.ok.inj (made.symm.trans made'), rfl⟩

/-- What is read for a key keeps all that was found sound. -/
theorem sound_recordEntry {fs : Fields α} (lawful : fs.Lawful) {depth : Nat} {key : String}
    {slots slots' : fs.Slots} (sound : fs.Sound depth slots)
    (given : Outcome.Gives (fs.recordEntry depth slots key s) slots' rest) :
    fs.Sound depth slots' := by
  induction fs generalizing s rest with
  | nil => trivial
  | cons f fs ih =>
    obtain ⟨field, _, others⟩ := lawful
    cases own : f.accepts key with
    | false =>
      have same : slots = slot f slots.first slots.others := rfl
      rw [same, recordEntry_other own] at given
      obtain ⟨others', read, rfl⟩ := Outcome.gives_mapValue.mp given
      exact ⟨sound.1, ih others sound.2 read⟩
    | true =>
      simp only [recordEntry, entry?, own, if_true, Option.getD_some] at given
      split at given
      · exact absurd given Outcome.not_gives_stop
      · obtain ⟨x, value, rfl⟩ := Outcome.gives_mapValue.mp given
        obtain ⟨q, _, read⟩ := gives_readField_iff.mp value
        refine ⟨fun y found => ?_, sound.2⟩
        cases found
        exact field.codec.of_read read

/-- Keys of the other fields leave what was found for the first one. -/
theorem entered_others {f : Field α} {fs : Fields β} {depth : Nat} {slots last : fs.Slots}
    {fields : List (String × Json)} (other : ∀ field ∈ fields, f.accepts field.1 = false)
    (h : Entered (fs.recordEntry depth) slots fields last) (a : Option α) :
    Entered ((cons f fs).recordEntry depth) (slot f a slots) fields (slot f a last) := by
  induction h with
  | done slots => exact .done _
  | @next slots slots' last key value fields one others ih =>
    exact .next (reads_recordEntry_other (other (key, value) (.head _)) a one)
      (ih fun field known => other field (.tail _ known))

theorem accepts_name (f : Field α) : f.accepts f.name := by simp [Field.accepts]

/-- The fields that are written fill the slots with the values of the record. -/
theorem entered_write {fs : Fields α} (lawful : fs.Lawful) {depth : Nat} {x : α}
    (returns : fs.Returns depth x) :
    Entered (fs.recordEntry depth) fs.vacant (fs.write x) (fs.filled x) := by
  induction fs with
  | nil => exact .done _
  | cons f fs ih =>
    obtain ⟨x, y⟩ := x
    obtain ⟨field, apart, others⟩ := lawful
    obtain ⟨first, more⟩ := returns
    have later : ∀ a, Entered ((cons f fs).recordEntry depth) (slot f a fs.vacant) (fs.write y)
        (slot f a (fs.filled y)) :=
      entered_others (fun field known => apart _ (mem_write_name known)) (ih others more)
    rw [write, filled]
    split
    case isTrue => exact later none
    case isFalse written =>
      have returns := first (by simpa using written)
      exact .next (reads_recordEntry_own (accepts_name f) fs.vacant returns.reads) (later (some x))

/-! ### Making records from values -/

theorem put_other {f : Field α} {fs : Fields β} {key : String} (other : f.accepts key = false)
    (origin : Origin) (value : Json) (a : Option α) (slots : fs.Slots) :
    (cons f fs).put origin key value (slot f a slots) =
      (fs.put origin key value slots).map (slot f a) := by
  rw [put, other]
  rfl

/-- A value that is put into its slot returns, if the others do. -/
theorem sound_put {fs : Fields α} (lawful : fs.Lawful) {depth : Nat} {origin : Origin}
    {key : String} {value : Json} {slots slots' : fs.Slots} (nested : value.Nested depth)
    (sound : fs.Sound depth slots) (made : fs.put origin key value slots = .ok slots') :
    fs.Sound depth slots' := by
  induction fs with
  | nil => trivial
  | cons f fs ih =>
    obtain ⟨field, _, others⟩ := lawful
    cases own : f.accepts key with
    | false =>
      have same : slots = slot f slots.first slots.others := rfl
      rw [same, put_other own] at made
      obtain ⟨others', put, rfl⟩ := map_eq_ok_iff.mp made
      exact ⟨sound.1, ih others sound.2 put⟩
    | true =>
      rw [put, if_pos own] at made
      split at made
      · cases made
      · obtain ⟨x, fitted, rfl⟩ := map_eq_ok_iff.mp made
        refine ⟨fun y found => ?_, sound.2⟩
        cases found
        exact field.codec.of_fit fitted nested

/-- Keys of the other fields leave what was found for the first one. -/
theorem foldlM_put_others {f : Field α} {fs : Fields β} {origin : Origin}
    {fields : List (String × Json)} (other : ∀ field ∈ fields, f.accepts field.1 = false)
    (a : Option α) (slots : fs.Slots) :
    fields.foldlM (fun slots field => (cons f fs).put origin field.1 field.2 slots)
        (slot f a slots) =
      (fields.foldlM (fun slots field => fs.put origin field.1 field.2 slots) slots).map
        (slot f a) := by
  induction fields generalizing slots with
  | nil => rfl
  | cons field fields ih =>
    rw [List.foldlM_cons, List.foldlM_cons, put_other (other field (.head _))]
    rcases fs.put origin field.1 field.2 slots with cause | slots'
    · rfl
    · exact ih (fun field known => other field (.tail _ known)) slots'

/-- Putting in all that is written fills the slots. -/
theorem foldlM_put_write {fs : Fields α} (lawful : fs.Lawful) {depth : Nat} {x : α}
    (returns : fs.Returns depth x) (origin : Origin) :
    (fs.write x).foldlM (fun slots field => fs.put origin field.1 field.2 slots) fs.vacant =
      .ok (fs.filled x) := by
  induction fs with
  | nil => rfl
  | cons f fs ih =>
    obtain ⟨x, y⟩ := x
    obtain ⟨field, apart, others⟩ := lawful
    obtain ⟨first, more⟩ := returns
    -- no other field of the record has the name of the first one, so its slot stays what it is
    have later : ∀ a, (fs.write y).foldlM
        (fun slots field => (cons f fs).put origin field.1 field.2 slots) (slot f a fs.vacant) =
          .ok (slot f a (fs.filled y)) := by
      intro a
      rw [foldlM_put_others fun field known => apart _ (mem_write_name known), ih others more]
      rfl
    rw [write, filled]
    split
    case isTrue => exact later none
    case isFalse written =>
      have one : (cons f fs).put origin f.name (f.codec.write x) (cons f fs).vacant =
          .ok (slot f (some x) fs.vacant) := by
        rw [put, if_pos (accepts_name f), if_neg (by simp [vacant, Slots.first]),
          (first (by simpa using written)).fits origin]
        rfl
      rw [List.foldlM_cons, one]
      exact later (some x)

/-! ### Arrays -/

/-- A record that is read from a list returns as an object. -/
theorem returns_readOrdered {fs : Fields α} (lawful : fs.Lawful) {label : String}
    {depth index : Nat} {x : α}
    (given : Outcome.Gives (fs.readOrdered label depth index s) x rest)
    (whole : ∀ field ∈ fs.write x, field.2.isWhole) : fs.Returns depth x := by
  induction fs generalizing index s rest with
  | nil => trivial
  | cons f fs ih =>
    rw [readOrdered] at given
    split at given
    · exact absurd given Outcome.not_gives_error
    · rcases made : (cons f fs).absent label index with cause | y
      · rw [made] at given
        exact absurd given Outcome.not_gives_stop
      · rw [made] at given
        obtain ⟨rfl, _⟩ := Outcome.gives_ok.mp given
        exact returns_absent lawful made
    · obtain ⟨y, mid, first, later⟩ := Outcome.gives_andThen.mp (Outcome.gives_outcome.mp given)
      obtain ⟨z, more, rfl⟩ := Outcome.gives_mapValue.mp later
      obtain ⟨field, _, others⟩ := lawful
      obtain ⟨whole, wholes⟩ := whole_cons whole
      exact ⟨fun written => field.codec.of_read first (whole written), ih others more wholes⟩

/-- A record that is made from a list returns as an object. -/
theorem returns_fitOrdered {fs : Fields α} (lawful : fs.Lawful) {label : String}
    {origin : Origin} {depth index : Nat} {items left : List Json} {x : α}
    (made : fs.fitOrdered label origin index items = .ok (x, left))
    (nested : ∀ j ∈ items, j.Nested depth) (whole : ∀ field ∈ fs.write x, field.2.isWhole) :
    fs.Returns depth x := by
  induction fs generalizing index items with
  | nil => trivial
  | cons f fs ih =>
    rcases items with _ | ⟨item, items⟩
    · obtain ⟨y, absent, same⟩ := map_eq_ok_iff.mp made
      cases same
      exact returns_absent lawful absent
    · obtain ⟨y, first, made⟩ := bind_eq_ok_iff.mp made
      obtain ⟨⟨z, more⟩, others, made⟩ := bind_eq_ok_iff.mp made
      cases made
      obtain ⟨field, _, lawful⟩ := lawful
      obtain ⟨whole, wholes⟩ := whole_cons whole
      exact ⟨fun written => field.codec.of_fit first (nested item (.head _)) (whole written),
        ih lawful others (fun j known => nested j (.tail _ known)) wholes⟩

/-- A record that was made from a value comes back. -/
theorem returns_fit {fs : Fields α} (lawful : fs.Lawful) {label : String} {origin : Origin}
    {depth : Nat} {j : Json} {x : α} (made : fs.fit label origin j = .ok x)
    (nested : j.Nested depth) (whole : ∀ field ∈ fs.write x, field.2.isWhole) :
    ∃ inner, depth = inner + 1 ∧ fs.Returns inner x := by
  cases j with
  | object fields =>
    obtain ⟨inner, rfl, within⟩ := nested_object_iff.mp nested
    obtain ⟨slots, put, made⟩ := bind_eq_ok_iff.mp made
    have sound : fs.Sound inner slots :=
      foldlM_keeps (fun _ f _ known sound put => sound_put lawful (within f known) sound put)
        (sound_vacant fs inner) put
    exact ⟨inner, rfl, returns_complete lawful sound made whole⟩
  | array items =>
    obtain ⟨inner, rfl, within⟩ := nested_array_iff.mp nested
    rw [fit] at made
    split at made
    · cases made
    · rename_i found
      cases made
      exact ⟨inner, rfl, returns_fitOrdered lawful found within whole⟩
    · cases made
  | _ => cases made

/-- The value that is written for a record makes the record. -/
theorem fit_write {fs : Fields α} (lawful : fs.Lawful) {depth : Nat} {x : α}
    (returns : fs.Returns depth x) (label : String) (origin : Origin) :
    fs.fit label origin (.object (fs.write x)) = .ok x := by
  rw [fit, fitObject, foldlM_put_write lawful returns origin]
  exact complete_filled lawful x

theorem nested_write {fs : Fields α} {depth : Nat} {x : α} (returns : fs.Returns depth x) :
    ∀ field ∈ fs.write x, field.2.Nested depth := by
  induction fs with
  | nil => nofun
  | cons f fs ih =>
    obtain ⟨x, y⟩ := x
    obtain ⟨first, more⟩ := returns
    rw [write]
    split
    case isTrue => exact ih more
    case isFalse written =>
      intro field known
      rcases List.mem_cons.mp known with rfl | later
      · exact (first (by simpa using written)).nested
      · exact ih more field later

end Fields

/-! ### The codec -/

section Codec

variable {fs : Fields α} {name : String} {depth : Nat} {x : α}

/-- Reads a record in front of which there are no blanks. -/
def readRecord (name : String) (fs : Fields α) (depth : Nat) : Reader α := fun s =>
  let label := "struct " ++ name
  match s with
  | .char '[' :: rest =>
    readBracket '[' label depth
      (fs.readOrdered (label ++ " with " ++ Fields.elements fs.count) · 0) (.char '[' :: rest)
  | s => readBracket '\x7b' label depth fs.readObject s

theorem read_record (name : String) (fs : Fields α) (depth : Nat) :
    (record name fs).read depth = blankThen (readRecord name fs depth) := rfl

theorem readRecord_object (other : s.head? ≠ some (.char '[')) :
    readRecord name fs depth s =
      readBracket '\x7b' ("struct " ++ name) depth fs.readObject s := by
  rw [readRecord]
  rintro rest rfl
  exact other rfl

/-- An object is read as the record that its entries fill. -/
theorem reads_record {inner : Nat} {fields : List (String × Json)} {slots : fs.Slots}
    (entered : Entered (fs.recordEntry inner) fs.vacant fields slots)
    (made : fs.complete slots = .ok x) :
    Reads ((record name fs).read (inner + 1)) (chars (.object fields)) x := by
  rw [read_record]
  refine reads_blankThen (c := '\x7b') rfl rfl fun rest stops => ?_
  rw [of_chars_object, readRecord_object (by simp)]
  refine gives_readBracket_iff.mpr ⟨_, inner, skipBlank_cons rfl, rfl, ?_⟩
  exact Fields.gives_readObject_iff.mpr ⟨_, entered.readEntries rest, made⟩

theorem returns_record (lawful : fs.Lawful) {inner : Nat} (returns : fs.Returns inner x) :
    (record name fs).Returns (inner + 1) x where
  nested := nested_object_iff.mpr ⟨inner, rfl, Fields.nested_write returns⟩
  reads := reads_record (Fields.entered_write lawful returns) (Fields.complete_filled lawful x)
  fits := Fields.fit_write lawful returns ("struct " ++ name)

/-- A record that was read comes back. -/
theorem returns_readRecord (lawful : fs.Lawful)
    (given : Outcome.Gives (readRecord name fs depth s) x rest)
    (whole : ∀ field ∈ fs.write x, field.2.isWhole) :
    ∃ inner, depth = inner + 1 ∧ fs.Returns inner x := by
  unfold readRecord at given
  split at given
  · obtain ⟨behind, inner, _, rfl, ordered⟩ := gives_readBracket_iff.mp given
    exact ⟨inner, rfl, Fields.returns_readOrdered lawful ordered whole⟩
  · obtain ⟨behind, inner, _, rfl, object⟩ := gives_readBracket_iff.mp given
    obtain ⟨slots, entries, made⟩ := Fields.gives_readObject_iff.mp object
    have sound : fs.Sound inner slots :=
      readEntries_keeps (fun _ _ _ _ _ sound read => Fields.sound_recordEntry lawful sound read)
        (Fields.sound_vacant fs inner) entries
    exact ⟨inner, rfl, Fields.returns_complete lawful sound made whole⟩

/-- Records are lawful when their fields are. -/
theorem lawful_record (lawful : fs.Lawful) : (record name fs).Lawful where
  of_read given whole := by
    rw [read_record, gives_blankThen_iff] at given
    obtain ⟨inner, rfl, returns⟩ := returns_readRecord lawful given (isWhole_object.mp whole)
    exact returns_record lawful returns
  of_fit made nested whole := by
    obtain ⟨inner, rfl, returns⟩ := Fields.returns_fit lawful made nested (isWhole_object.mp whole)
    exact returns_record lawful returns
  null_read _ := nofun
  null_fit _ := nofun

end Codec

end CourseLaunch.Wire
