import CourseLaunch.Proofs.Json.Entries
import CourseLaunch.Proofs.Json.Value
import Mathlib.Data.List.Forall2
/-!
# Text with one item a line

Items and fields stand on lines of their own, two blanks further to the right than the bracket in
front of them and with a comma behind all but the last. The closing bracket stands on a line of its
own below the opening one, and there is nothing between the brackets of what is empty.
-/

namespace CourseLaunch.Json

def lineStart (depth : Nat) : List Char := '\n' :: List.replicate (2 * depth) ' '

/-- A text between quotation marks, each of its characters plain or escaped. -/
def Quotes (s : String) (cs : List Char) : Prop :=
  ∃ parts, List.Forall₂ Escaped s.toList parts ∧ cs = '"' :: parts.flatten ++ ['"']

mutual

/-- The characters lay out a value that stands on a line of the given depth. -/
inductive Laid : Nat → Json → List Char → Prop where
  | null (depth : Nat) : Laid depth .null ['n', 'u', 'l', 'l']
  | yes (depth : Nat) : Laid depth (.bool true) ['t', 'r', 'u', 'e']
  | no (depth : Nat) : Laid depth (.bool false) ['f', 'a', 'l', 's', 'e']
  | int (depth : Nat) (n : Int) : Laid depth (.number (.int n)) (toString n).toList
  | real (depth : Nat) (r : Decimal.Binary64) : Laid depth (.number (.real r)) r.text.toList
  | string (depth : Nat) (s : String) (cs : List Char) (quotes : Quotes s cs) :
      Laid depth (.string s) cs
  | noItems (depth : Nat) : Laid depth (.array []) ['[', ']']
  | array (depth : Nat) (items : List Json) (lines : List Char)
      (laid : LaidItems (depth + 1) items lines) :
      Laid depth (.array items) ('[' :: lines ++ lineStart depth ++ [']'])
  | noFields (depth : Nat) : Laid depth (.object []) ['\x7b', '\x7d']
  | object (depth : Nat) (fields : List (String × Json)) (lines : List Char)
      (laid : LaidFields (depth + 1) fields lines) :
      Laid depth (.object fields) ('\x7b' :: lines ++ lineStart depth ++ ['\x7d'])

/-- The lines of some items at the given depth. -/
inductive LaidItems : Nat → List Json → List Char → Prop where
  | last (depth : Nat) (item : Json) (cs : List Char) (one : Laid depth item cs) :
      LaidItems depth [item] (lineStart depth ++ cs)
  | next (depth : Nat) (item : Json) (items : List Json) (cs lines : List Char)
      (one : Laid depth item cs) (others : LaidItems depth items lines) :
      LaidItems depth (item :: items) (lineStart depth ++ cs ++ ',' :: lines)

/-- The lines of some fields at the given depth. -/
inductive LaidFields : Nat → List (String × Json) → List Char → Prop where
  | last (depth : Nat) (key : String) (value : Json) (name cs : List Char)
      (quotes : Quotes key name) (one : Laid depth value cs) :
      LaidFields depth [(key, value)] (lineStart depth ++ name ++ ':' :: ' ' :: cs)
  | next (depth : Nat) (key : String) (value : Json) (fields : List (String × Json))
      (name cs lines : List Char) (quotes : Quotes key name) (one : Laid depth value cs)
      (others : LaidFields depth fields lines) :
      LaidFields depth ((key, value) :: fields)
        (lineStart depth ++ name ++ ':' :: ' ' :: cs ++ ',' :: lines)

end

/-- A text prints a value: it is laid out, and the last line is ended. -/
def Prints (text : String) (j : Json) : Prop := ∃ cs, Laid 0 j cs ∧ text.toList = cs ++ ['\n']

/-! ### The text that is written -/

/-- A text that is quoted is escaped character by character. -/
theorem quotes_quote (s : String) : Quotes s (quote s) := by
  refine ⟨s.toList.map escape, ?_, by rw [quote, List.flatMap]⟩
  rw [List.forall₂_map_right_iff, List.forall₂_same]
  exact fun c _ => escaped_escape c

/-- A block has a line for each part, with a comma in front of all but the first. -/
theorem block_cons (depth : Nat) (opening closing : Char) (part : List Char)
    (parts : List (List Char)) :
    block depth opening closing (part :: parts) =
      opening :: (lineStart (depth + 1) ++ part ++
        behindCommas (parts.map (lineStart (depth + 1) ++ ·))) ++ lineStart depth ++ [closing] := by
  have parted : [','].intercalate ((part :: parts).map (lineStart (depth + 1) ++ ·)) =
      lineStart (depth + 1) ++ part ++ behindCommas (parts.map (lineStart (depth + 1) ++ ·)) := by
    rw [List.map_cons, intercalate_cons]
  rw [← parted]
  rfl

/-- Items are laid out when each one is. -/
theorem laidItems_indentedItems {depth : Nat} (item : Json) (items : List Json)
    (each : ∀ j ∈ item :: items, Laid depth j (indentedChars depth j)) :
    LaidItems depth (item :: items) (lineStart depth ++ indentedChars depth item ++
      behindCommas ((indentedItems depth items).map (lineStart depth ++ ·))) := by
  induction items generalizing item with
  | nil =>
    have last := LaidItems.last depth item _ (each item (.head _))
    simpa [indentedItems, behindCommas] using last
  | cons next items ih =>
    have others := ih next fun j known => each j (.tail _ known)
    have lines := LaidItems.next depth item _ _ _ (each item (.head _)) others
    simpa [indentedItems, behindCommas] using lines

/-- Fields are laid out when the value of each one is. -/
theorem laidFields_indentedFields {depth : Nat} (field : String × Json)
    (fields : List (String × Json))
    (each : ∀ f ∈ field :: fields, Laid depth f.2 (indentedChars depth f.2)) :
    LaidFields depth (field :: fields)
      (lineStart depth ++ (quote field.1 ++ [':', ' '] ++ indentedChars depth field.2) ++
        behindCommas ((indentedFields depth fields).map (lineStart depth ++ ·))) := by
  induction fields generalizing field with
  | nil =>
    have last := LaidFields.last depth field.1 field.2 _ _ (quotes_quote field.1)
      (each field (.head _))
    simpa [indentedFields, behindCommas] using last
  | cons next fields ih =>
    have others := ih next fun f known => each f (.tail _ known)
    have lines := LaidFields.next depth field.1 field.2 _ _ _ _ (quotes_quote field.1)
      (each field (.head _)) others
    simpa [indentedFields, behindCommas] using lines

/-- The indented text of a value lays it out. -/
theorem laid_indentedChars (depth : Nat) (j : Json) : Laid depth j (indentedChars depth j) := by
  -- items stand one level deeper, so the depth is any one
  induction j using induction generalizing depth with
  | null => exact .null depth
  | bool b =>
    cases b with
    | true => exact .yes depth
    | false => exact .no depth
  | number n =>
    cases n with
    | int n => exact .int depth n
    | real r => exact .real depth r
  | string s => exact .string depth s _ (quotes_quote s)
  | array items ih =>
    cases items with
    | nil => exact .noItems depth
    | cons item items =>
      rw [indentedChars, indentedItems, block_cons]
      exact .array depth _ _ (laidItems_indentedItems item items fun j known => ih j known _)
  | object fields ih =>
    cases fields with
    | nil => exact .noFields depth
    | cons field fields =>
      rw [indentedChars, indentedFields, block_cons]
      exact .object depth _ _ (laidFields_indentedFields field fields fun f known => ih f known _)

/-- The indented text with the end of its line prints the value. -/
theorem prints_indented (j : Json) : Prints (j.indented ++ "\n") j :=
  ⟨indentedChars 0 j, laid_indentedChars 0 j, by simp [indented, String.toList_append]⟩

end CourseLaunch.Json
