import CourseLaunch.Json.Value
import CourseLaunch.Proofs.Json.Sorted
import Mathlib.Data.String.Basic
/-!
# Values and their canonical form

A value is nested to a depth, and its numbers may all be whole. In its canonical form the keys of
every object ascend. The canonical form of a value is its own canonical form, and it is nested no
deeper than the value.
-/

namespace CourseLaunch.Json

/-- Induction over a value and the values in it. -/
@[elab_as_elim]
theorem induction {P : Json → Prop} (null : P .null) (bool : ∀ b, P (.bool b))
    (number : ∀ n, P (.number n)) (string : ∀ s, P (.string s))
    (array : ∀ items, (∀ j ∈ items, P j) → P (.array items))
    (object : ∀ fields, (∀ f ∈ fields, P f.2) → P (.object fields)) (j : Json) : P j := by
  refine @Json.rec P (fun items => ∀ j ∈ items, P j) (fun fields => ∀ f ∈ fields, P f.2)
    (fun f => P f.2) null bool number string array object ?_ ?_ ?_ ?_ ?_ j
  · simp
  · intro item items first rest j known
    rcases List.mem_cons.mp known with rfl | later
    · exact first
    · exact rest j later
  · simp
  · intro field fields first rest f known
    rcases List.mem_cons.mp known with rfl | later
    · exact first
    · exact rest f later
  · intro key value holds
    exact holds

/-! ### Whole numbers -/

/-- Whether a number is an integer of 64 bits, signed or not. Minus zero is one, though it is kept
as a binary64 number to keep its sign. -/
def Number.isWhole : Number → Bool
  | .int value => -(Nat.pow 2 63 : Int) ≤ value && value < (Nat.pow 2 64 : Int)
  | .real value => value = ⟨true, .zero⟩

theorem Number.isWhole_int_iff {value : Int} :
    (Number.int value).isWhole ↔
      -(Nat.pow 2 63 : Int) ≤ value ∧ value < (Nat.pow 2 64 : Int) := by
  simp only [isWhole, Bool.and_eq_true, decide_eq_true_eq]

mutual

/-- Whether all numbers in a value are whole. -/
def isWhole : Json → Bool
  | .number n => n.isWhole
  | .array items => itemsWhole items
  | .object fields => fieldsWhole fields
  | _ => true

/-- Whether all numbers in the items are whole. -/
def itemsWhole : List Json → Bool
  | [] => true
  | item :: rest => isWhole item && itemsWhole rest

/-- Whether all numbers in the fields are whole. -/
def fieldsWhole : List (String × Json) → Bool
  | [] => true
  | (_, value) :: rest => isWhole value && fieldsWhole rest

end

theorem itemsWhole_iff {items : List Json} : itemsWhole items ↔ ∀ j ∈ items, j.isWhole := by
  induction items with
  | nil => simp [itemsWhole]
  | cons item rest ih => simp [itemsWhole, ih]

theorem fieldsWhole_iff {fields : List (String × Json)} :
    fieldsWhole fields ↔ ∀ f ∈ fields, f.2.isWhole := by
  induction fields with
  | nil => simp [fieldsWhole]
  | cons field rest ih => simp [fieldsWhole, ih]

@[simp]
theorem isWhole_array {items : List Json} : isWhole (.array items) ↔ ∀ j ∈ items, j.isWhole := by
  rw [isWhole, itemsWhole_iff]

@[simp]
theorem isWhole_object {fields : List (String × Json)} :
    isWhole (.object fields) ↔ ∀ f ∈ fields, f.2.isWhole := by
  rw [isWhole, fieldsWhole_iff]

/-! ### Depth -/

/-- Whether a value has no more than the given number of brackets around any part. -/
def Nested : Nat → Json → Prop
  | 0, .array _ => False
  | 0, .object _ => False
  | depth + 1, .array items => ∀ j ∈ items, Nested depth j
  | depth + 1, .object fields => ∀ f ∈ fields, Nested depth f.2
  | _, _ => True

@[simp] theorem nested_null (depth : Nat) : Nested depth .null := by simp [Nested]
@[simp] theorem nested_bool (depth : Nat) (b : Bool) : Nested depth (.bool b) := by simp [Nested]
@[simp] theorem nested_number (depth : Nat) (n : Number) : Nested depth (.number n) := by
  simp [Nested]
@[simp] theorem nested_string (depth : Nat) (s : String) : Nested depth (.string s) := by
  simp [Nested]

theorem nested_array_iff {depth : Nat} {items : List Json} :
    Nested depth (.array items) ↔ ∃ inner, depth = inner + 1 ∧ ∀ j ∈ items, Nested inner j := by
  cases depth <;> simp [Nested]

theorem nested_object_iff {depth : Nat} {fields : List (String × Json)} :
    Nested depth (.object fields) ↔
      ∃ inner, depth = inner + 1 ∧ ∀ f ∈ fields, Nested inner f.2 := by
  cases depth <;> simp [Nested]

/-! ### Canonical form -/

section Canonical

variable {sorted fields : List (String × Json)}

theorem insertField_eq_set (key : String) (value : Json) (fields : List (String × Json)) :
    insertField key value fields = Sorted.set id key value fields := by
  induction fields with
  | nil => rfl
  | cons field rest ih => simp only [insertField, Sorted.set, ih, id]

/-- Whether the keys of the fields ascend. -/
abbrev Ascending (fields : List (String × Json)) : Prop := Sorted.Ascending id fields

theorem canonicalItems_eq_map (items : List Json) : canonicalItems items = items.map canonical := by
  induction items with
  | nil => rfl
  | cons item rest ih => rw [canonicalItems, ih, List.map_cons]

/-- Fields are sorted one by one. -/
theorem ascending_canonicalFields (h : Ascending sorted) (fields : List (String × Json)) :
    Ascending (canonicalFields sorted fields) := by
  induction fields generalizing sorted with
  | nil => exact h
  | cons field rest ih =>
    rw [canonicalFields, insertField_eq_set]
    exact ih (h.set (fun _ _ => id) field.1 field.2.canonical)

/-- No field is invented when fields are sorted. -/
theorem mem_canonicalFields {f : String × Json} (known : f ∈ canonicalFields sorted fields) :
    f ∈ sorted ∨ ∃ g ∈ fields, f.2 = g.2.canonical := by
  induction fields generalizing sorted with
  | nil => exact .inl known
  | cons field rest ih =>
    rw [canonicalFields, insertField_eq_set] at known
    rcases ih known with early | ⟨g, later, same⟩
    · rcases Sorted.mem_set early with rfl | early
      · exact .inr ⟨field, .head _, rfl⟩
      · exact .inl early
    · exact .inr ⟨g, .tail _ later, same⟩

/-- Fields that ascend already are set one behind the other. -/
theorem canonicalFields_of_ascending (h : Ascending (sorted ++ fields))
    (fixed : ∀ f ∈ fields, f.2.canonical = f.2) :
    canonicalFields sorted fields = sorted ++ fields := by
  induction fields generalizing sorted with
  | nil => simp [canonicalFields]
  | cons field rest ih =>
    rw [canonicalFields, fixed field (.head _), insertField_eq_set, Sorted.set_last h.below,
      ih (by simpa using h) fun f known => fixed f (.tail _ known)]
    simp

/-- The canonical form of a value is its own canonical form. -/
theorem canonical_canonical (j : Json) : j.canonical.canonical = j.canonical := by
  induction j using induction with
  | null => rfl
  | bool b => rfl
  | number n => rfl
  | string s => rfl
  | array items ih =>
    simp only [canonical, canonicalItems_eq_map, List.map_map, Json.array.injEq]
    exact List.map_congr_left ih
  | object fields ih =>
    have fixed : ∀ f ∈ canonicalFields [] fields, f.2.canonical = f.2 := by
      intro f known
      obtain ⟨g, found, same⟩ := (mem_canonicalFields known).resolve_left List.not_mem_nil
      rw [same, ih g found]
    have ascending : Ascending ([] ++ canonicalFields [] fields) :=
      ascending_canonicalFields List.Pairwise.nil fields
    rw [canonical, canonical, canonicalFields_of_ascending ascending fixed, List.nil_append]

/-- The canonical form of a value is nested no deeper than the value. -/
theorem Nested.canonical {depth : Nat} {j : Json} (h : j.Nested depth) :
    j.canonical.Nested depth := by
  induction j using induction generalizing depth with
  | null => exact h
  | bool b => exact h
  | number n => exact h
  | string s => exact h
  | array items ih =>
    obtain ⟨inner, rfl, within⟩ := nested_array_iff.mp h
    rw [Json.canonical, canonicalItems_eq_map, nested_array_iff]
    refine ⟨inner, rfl, fun j known => ?_⟩
    obtain ⟨item, found, rfl⟩ := List.mem_map.mp known
    exact ih item found (within item found)
  | object fields ih =>
    obtain ⟨inner, rfl, within⟩ := nested_object_iff.mp h
    rw [Json.canonical, nested_object_iff]
    refine ⟨inner, rfl, fun f known => ?_⟩
    obtain ⟨g, found, same⟩ := (mem_canonicalFields known).resolve_left List.not_mem_nil
    rw [same]
    exact ih g found (within g found)

theorem canonical_eq_null_iff {j : Json} : j.canonical = .null ↔ j = .null := by
  cases j <;> simp [canonical]

end Canonical

end CourseLaunch.Json
