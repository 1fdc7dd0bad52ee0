import CourseLaunch.Text.Octets
import CourseLaunch.Text.Split
/-!
# Texts are read back

The UTF-8 form of a character is never taken for another one or for an ill-formed stretch, whatever
stands behind it. A text that is cut falls apart at its marks, and nowhere else.
-/

namespace CourseLaunch.Text

/-! ### Octets -/

/-- The first character of a text is read back from its octets. -/
theorem frontChar?_utf8EncodeChar (c : Char) (rest : List UInt8) :
    frontChar? (String.utf8EncodeChar c ++ rest) = some c := by
  have short : (String.utf8EncodeChar c).length ≤ 4 := by
    rw [String.length_utf8EncodeChar]
    exact c.utf8Size_le_four
  rw [frontChar?, List.take_append, List.take_of_length_le short, List.toByteArray_append]
  exact ByteArray.utf8DecodeChar?_utf8EncodeChar_append

theorem go_utf8EncodeChar (c : Char) (rest : List UInt8) :
    ofOctets.go (String.utf8EncodeChar c ++ rest) = c :: ofOctets.go rest := by
  have front := frontChar?_utf8EncodeChar c rest
  have size := String.length_utf8EncodeChar c
  cases coded : String.utf8EncodeChar c with
  | nil => exact absurd coded String.utf8EncodeChar_ne_nil
  | cons b more =>
    rw [coded, List.cons_append] at front
    rw [coded, List.length_cons] at size
    have behind : (more ++ rest).drop (c.utf8Size - 1) = rest := by
      rw [← size, Nat.add_sub_cancel, List.drop_left]
    simp only [List.cons_append, ofOctets.go, front, behind]

/-- The octets of a text are read back as the text. -/
theorem ofOctets_octets (s : String) : ofOctets (octets s) = s := by
  have back : ∀ cs : List Char, ofOctets.go (cs.flatMap String.utf8EncodeChar) = cs := by
    intro cs
    induction cs with
    | nil => rw [List.flatMap_nil, ofOctets.go]
    | cons c rest ih => rw [List.flatMap_cons, go_utf8EncodeChar, ih]
  rw [ofOctets, octets, back, String.ofList_toList]

/-! ### Cuts -/

section

variable {p : Char → Bool} {mark : Char}

/-- A text is split at its first mark. -/
theorem splitFirst_of {front : List Char} (clear : ∀ c ∈ front, p c = false) (cut : p mark)
    (behind : List Char) : splitFirst p (front ++ mark :: behind) = (front, some behind) := by
  induction front with
  | nil => simp [splitFirst, cut]
  | cons c rest ih =>
    rw [List.forall_mem_cons] at clear
    simp [splitFirst, clear.1, ih clear.2]

theorem splitAll_ne_nil (cs : List Char) : splitAll p cs ≠ [] := by
  induction cs with
  | nil => simp [splitAll]
  | cons c rest ih =>
    rw [splitAll]
    split
    · simp
    · split <;> simp

theorem splitAll_of {cs : List Char} (clear : ∀ c ∈ cs, p c = false) : splitAll p cs = [cs] := by
  induction cs with
  | nil => rfl
  | cons c rest ih =>
    rw [List.forall_mem_cons] at clear
    simp [splitAll, clear.1, ih clear.2]

/-- Whatever stands before a mark, the parts behind it are those of what stands there. -/
theorem splitAll_append (cut : p mark) (front behind : List Char) :
    splitAll p (front ++ mark :: behind) = splitAll p front ++ splitAll p behind := by
  induction front with
  | nil => simp [splitAll, cut]
  | cons c rest ih =>
    rw [List.cons_append, splitAll, splitAll, ih]
    split
    · rfl
    · cases parts : splitAll p rest with
      | nil => exact absurd parts (splitAll_ne_nil rest)
      | cons part more => rfl

end

end CourseLaunch.Text
