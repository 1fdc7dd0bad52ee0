import CourseLaunch.Json.Reader.Number
import CourseLaunch.Proofs.Json.Outcome
import CourseLaunch.Proofs.Json.Value
/-!
# Whole numbers in text

A whole number is written with its digits, none of them dropped when they are read again. Where the
number ends is known from what follows, which must not go on with a digit, a point or an exponent.
-/

namespace CourseLaunch.Json

/-- Whether nothing in front of a text could go on a number. -/
def Stops (s : Source) : Prop :=
  ∀ c, s.head? = some (.char c) → c.isDigit = false ∧ c ≠ '.' ∧ c ≠ 'e' ∧ c ≠ 'E'

theorem stops_nil : Stops [] := by simp [Stops]

theorem stops_cons {c : Char} {s : Source} (digit : c.isDigit = false) (point : c ≠ '.')
    (mark : c ≠ 'e') (capital : c ≠ 'E') : Stops (.char c :: s) := by
  rintro d ⟨⟩
  exact ⟨digit, point, mark, capital⟩

theorem frontDigit?_char {c : Char} (digit : c.isDigit) (s : Source) :
    frontDigit? (.char c :: s) = some c := by
  simp [frontDigit?, digit]

theorem Stops.frontDigit?_eq {s : Source} (h : Stops s) : frontDigit? s = none := by
  rcases s with _ | ⟨_ | _, rest⟩
  · rfl
  · rename_i c
    simp [frontDigit?, (h c rfl).1]
  · rfl

/-- A number has no fraction if nothing that could go on a number follows. -/
theorem Stops.readFraction_eq {s : Source} (h : Stops s) (negative : Bool) (d : Digits) :
    readFraction negative d s = whole negative d s := by
  rcases s with _ | ⟨_ | _, rest⟩
  · rfl
  · rename_i c
    obtain ⟨_, point, mark, capital⟩ := h c rfl
    simp [readFraction, marksExponent, point, mark, capital]
  · rfl

/-- A number has no exponent if nothing that could go on a number follows. -/
theorem Stops.readScale_eq {s : Source} (h : Stops s) (negative : Bool) (significand : Nat)
    (exponent : Int) :
    readScale negative significand exponent s = real negative significand exponent s := by
  rcases s with _ | ⟨_ | _, rest⟩
  · rfl
  · rename_i c
    obtain ⟨_, _, mark, capital⟩ := h c rfl
    simp [readScale, marksExponent, mark, capital]
  · rfl

/-! ### Digits -/

/-- All digits in front are gathered. -/
theorem gather_of {digits : List Char} (all : ∀ c ∈ digits, c.isDigit) {rest : Source}
    (stops : Stops rest) (d : Digits) :
    ∃ h, gather d (Source.of digits ++ rest) = (digits.foldl Digits.push d, ⟨rest, h⟩) := by
  induction digits generalizing d with
  | nil =>
    refine ⟨Nat.le_refl _, ?_⟩
    rcases rest with _ | ⟨u, rest⟩
    · rfl
    · simp only [Source.of_nil, List.nil_append, gather, stops.frontDigit?_eq]
      rfl
  | cons c digits ih =>
    have digit : c.isDigit := all c (.head _)
    obtain ⟨h, later⟩ := ih (fun c known => all c (.tail _ known)) (d.push c)
    refine ⟨Nat.le_succ_of_le h, ?_⟩
    simp only [Source.of_cons, List.cons_append, gather, frontDigit?_char digit, later,
      List.foldl_cons]
    rfl

/-- The value of the digits does not fall when more digits follow. -/
theorem le_ofDigitChars (digits : List Char) (n : Nat) : n ≤ Nat.ofDigitChars 10 digits n := by
  induction digits generalizing n with
  | nil => exact Nat.le_refl n
  | cons c digits ih =>
    rw [Nat.ofDigitChars_cons]
    exact Nat.le_trans (by omega) (ih _)

/-- No digit is dropped when the value stays below `2 ^ 64`. -/
theorem foldl_push {digits : List Char} {n : Nat}
    (small : Nat.ofDigitChars 10 digits n < Nat.pow 2 64) (taken : Nat) :
    digits.foldl Digits.push ⟨n, taken, 0⟩ =
      ⟨Nat.ofDigitChars 10 digits n, taken + digits.length, 0⟩ := by
  induction digits generalizing n taken with
  | nil => rfl
  | cons c digits ih =>
    rw [Nat.ofDigitChars_cons] at small ⊢
    have below : n * 10 + (c.toNat - '0'.toNat) < Nat.pow 2 64 := by
      have grows := le_ofDigitChars digits (10 * n + (c.toNat - '0'.toNat))
      omega
    rw [List.foldl_cons, Digits.push, if_pos ⟨rfl, below⟩, Nat.mul_comm n 10, ih small,
      List.length_cons, Nat.add_assoc, Nat.add_comm 1]

/-- Only zero is written with a leading zero. -/
theorem toDigits_leading_zero {n : Nat} {digits : List Char}
    (written : Nat.toDigits 10 n = '0' :: digits) : digits = [] := by
  induction n using Nat.strong_induction_on generalizing digits with
  | _ n ih =>
    rcases Nat.lt_or_ge n 10 with small | great
    · rw [Nat.toDigits_of_lt_base small, List.cons.injEq] at written
      exact written.2.symm
    · rw [Nat.toDigits_of_base_le (by omega) great] at written
      rcases known : Nat.toDigits 10 (n / 10) with _ | ⟨c, more⟩
      · exact absurd known Nat.toDigits_ne_nil
      · rw [known, List.cons_append, List.cons.injEq] at written
        obtain ⟨rfl, _⟩ := written
        obtain rfl := ih (n / 10) (by omega) known
        have value : Nat.ofDigitChars 10 (Nat.toDigits 10 (n / 10)) 0 = n / 10 :=
          Nat.ofDigitChars_ten_toDigits
        rw [known] at value
        have zero : Nat.ofDigitChars 10 ['0'] 0 = 0 := rfl
        omega

/-! ### Numbers -/

variable {rest : Source}

theorem whole_eq {negative : Bool} {n : Nat} (taken : Nat)
    (fits : negative = true → n ≠ 0 ∧ n ≤ Nat.pow 2 63) (s : Source) :
    whole negative ⟨n, taken, 0⟩ s =
      .ok (.int (if negative then -(n : Int) else n), Left.all s) := by
  rw [whole, if_neg]
  rintro (dropped | ⟨minus, zero | great⟩)
  · simp at dropped
  · exact (fits minus).1 zero
  · exact absurd great (Nat.not_lt.mpr (fits minus).2)

/-- The digits of a number give the number. -/
theorem readMagnitude_toDigits {negative : Bool} {n : Nat} (small : n < Nat.pow 2 64)
    (fits : negative = true → n ≠ 0 ∧ n ≤ Nat.pow 2 63) (stops : Stops rest) :
    (readMagnitude negative (Source.of (Nat.toDigits 10 n) ++ rest)).Gives
      (.int (if negative then -(n : Int) else n)) rest := by
  have value : Nat.ofDigitChars 10 (Nat.toDigits 10 n) 0 = n := Nat.ofDigitChars_ten_toDigits
  have all : ∀ c ∈ Nat.toDigits 10 n, c.isDigit := fun c known =>
    Nat.isDigit_of_mem_toDigits (by omega) (by omega) known
  rcases written : Nat.toDigits 10 n with _ | ⟨c, digits⟩
  · exact absurd written Nat.toDigits_ne_nil
  · have digit : c.isDigit := all c (written ▸ .head _)
    have others : ∀ c ∈ digits, c.isDigit := fun c known => all c (written ▸ .tail _ known)
    -- no number but zero starts with a zero
    have plain : ¬ (c = '0' ∧ (frontDigit? (Source.of digits ++ rest)).isSome) := by
      rintro ⟨rfl, more⟩
      rw [toDigits_leading_zero written, Source.of_nil, List.nil_append,
        stops.frontDigit?_eq] at more
      exact absurd more (by simp)
    obtain ⟨shorter, gathered⟩ := gather_of others stops (Digits.push ⟨0, 0, 0⟩ c)
    have pushed : digits.foldl Digits.push (Digits.push ⟨0, 0, 0⟩ c) =
        ⟨n, 0 + (c :: digits).length, 0⟩ := by
      rw [← List.foldl_cons, foldl_push, ← written, value]
      rwa [← written, value]
    simp only [Source.of_cons, List.cons_append, readMagnitude, frontDigit?_char digit]
    rw [if_neg plain]
    rw [gathered, pushed, stops.readFraction_eq, whole_eq _ fits]
    exact ⟨Nat.lt_succ_of_le shorter, rfl⟩

theorem ofDecimal?_zero (k : Int) (near : k.natAbs ≤ Decimal.Magnitude.greatestTen) :
    Decimal.Magnitude.ofDecimal? 0 k = some .zero := by
  have zero : Decimal.Magnitude.ofNat? 0 = some .zero := by rfl
  rw [Decimal.Magnitude.ofDecimal?, zero, Option.bind_some, Decimal.Magnitude.scaleTen?,
    if_pos near]
  split <;> simp [Decimal.Magnitude.mul?, Decimal.Magnitude.div?, Decimal.Magnitude.ofRatio?,
    Decimal.Magnitude.zero]

/-- The fraction of minus zero. -/
theorem readFraction_zero {d : Digits} (none : d.value = 0) (kept : d.dropped = 0)
    (stops : Stops rest) :
    ∃ h, readFraction true d (.char '.' :: .char '0' :: rest) =
      .ok (.real ⟨true, .zero⟩, ⟨rest, h⟩) := by
  have digits : ∀ c ∈ ['0'], c.isDigit := by
    intro c known
    rw [List.mem_singleton.mp known]
    rfl
  obtain ⟨shorter, gathered⟩ : ∃ h, gather ⟨d.value, 0, 0⟩ (.char '0' :: rest) =
      (⟨0, 1, 0⟩, ⟨rest, h⟩) := by
    rw [none]
    exact gather_of digits stops ⟨0, 0, 0⟩
  refine ⟨by simp only [List.length_cons]; omega, ?_⟩
  simp only [readFraction, if_pos]
  rw [gathered, if_neg (by simp), stops.readScale_eq, real, kept]
  rw [ofDecimal?_zero ((0 : Nat) - (1 : Nat)) (by decide)]
  rfl

/-- Minus zero is written with a fraction, which keeps its sign. -/
theorem readNumber_minusZero (stops : Stops rest) :
    (readNumber (Source.of (Number.real ⟨true, .zero⟩).text.toList ++ rest)).Gives
      (.real ⟨true, .zero⟩) rest := by
  have text : (Number.real ⟨true, .zero⟩).text.toList = ['-', '0', '.', '0'] := by
    simp [Number.text, Decimal.Binary64.text, Decimal.Magnitude.zero]
  have point : frontDigit? (.char '.' :: .char '0' :: rest) = none := rfl
  have gathered : gather (Digits.push ⟨0, 0, 0⟩ '0') (.char '.' :: .char '0' :: rest) =
      (⟨0, 1, 0⟩, Left.all _) := by
    simp only [gather, point]
    rfl
  obtain ⟨shorter, read⟩ := @readFraction_zero rest ⟨0, 1, 0⟩ rfl rfl stops
  have zero : frontDigit? (.char '0' :: .char '.' :: .char '0' :: rest) = some '0' := rfl
  rw [text]
  simp only [Source.of_cons, Source.of_nil, List.cons_append, List.nil_append, readNumber, if_pos,
    Outcome.gives_behind, readMagnitude, zero, point]
  rw [if_neg (by simp), gathered]
  refine ⟨by simp only [List.length_cons]; omega, ?_⟩
  simp only [Left.all]
  rw [read]
  rfl

/-- A whole number is read from its own text. -/
theorem readNumber_text {n : Number} (whole : n.isWhole) (stops : Stops rest) :
    (readNumber (Source.of n.text.toList ++ rest)).Gives n rest := by
  rcases n with (n | n) | value
  · obtain ⟨_, below⟩ := Number.isWhole_int_iff.mp whole
    have read : (readMagnitude false (Source.of (Nat.toDigits 10 n) ++ rest)).Gives _ rest :=
      readMagnitude_toDigits (Int.ofNat_lt.mp below) nofun stops
    have text : (Number.int (.ofNat n)).text.toList = Nat.toDigits 10 n := Nat.toList_repr
    rw [text]
    rcases written : Nat.toDigits 10 n with _ | ⟨c, digits⟩
    · exact absurd written Nat.toDigits_ne_nil
    · have digit : c.isDigit := by
        refine @Nat.isDigit_of_mem_toDigits 10 n c (by omega) (by omega) ?_
        exact written ▸ List.mem_cons_self
      have plain : c ≠ '-' := by
        rintro rfl
        exact absurd digit (by decide)
      rw [written] at read
      simp only [Source.of_cons, List.cons_append, readNumber, Text.Symbol.char.injEq, if_neg plain]
      exact read
  -- the sign is read first, and the magnitude behind it may be one more than without it
  · obtain ⟨above, _⟩ := Number.isWhole_int_iff.mp whole
    have small : n + 1 ≤ Nat.pow 2 63 := by
      rw [Int.negSucc_eq] at above
      omega
    have smaller : Nat.pow 2 63 < Nat.pow 2 64 := by decide
    have read : (readMagnitude true (Source.of (Nat.toDigits 10 (n + 1)) ++ rest)).Gives _ rest :=
      readMagnitude_toDigits (Nat.lt_of_le_of_lt small smaller)
        (fun _ => ⟨Nat.succ_ne_zero n, small⟩) stops
    have text : (Number.int (.negSucc n)).text.toList = '-' :: Nat.toDigits 10 (n + 1) := by
      rw [← Nat.toList_repr]
      exact String.toList_append
    rw [text]
    simp only [Source.of_cons, List.cons_append, readNumber, if_pos, Outcome.gives_behind]
    exact read
  · obtain rfl : value = ⟨true, .zero⟩ := by simpa [Number.isWhole] using whole
    exact readNumber_minusZero stops

end CourseLaunch.Json
