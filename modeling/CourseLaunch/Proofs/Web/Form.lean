import CourseLaunch.Proofs.Text.Reading
import CourseLaunch.Web.Url.Basic
/-!
# Pairs are read back from a query

A key or value is written with letters, digits, a few marks, `+` and `%` only, and is read back as
it was, whatever its characters are. So the pairs of a query behind which more are written are the
old ones and then the new ones, even where no writer wrote the old query.
-/

namespace CourseLaunch.Web

/-! ### Characters that stand for themselves -/

/-- What holds of every ASCII code holds of every ASCII character. -/
theorem ascii_forall {P : Char → Prop} (every : ∀ n < 128, P (Char.ofNat n)) {c : Char}
    (low : c.toNat < 128) : P c := by
  have known := every c.toNat low
  rwa [Char.ofNat_toNat] at known

theorem low_of_isAlphanum {c : Char} (h : c.isAlphanum) : c.toNat < 128 := by
  have ranges : ((65 ≤ c.val ∧ c.val ≤ 90 || 97 ≤ c.val && c.val ≤ 122) ||
      48 ≤ c.val && c.val ≤ 57) = true := h
  simp only [Bool.or_eq_true, Bool.and_eq_true, decide_eq_true_eq, UInt32.le_iff_toNat_le,
    UInt32.reduceToNat] at ranges
  have code : c.toNat = c.val.toNat := rfl
  omega

theorem low_of_plainInForm {c : Char} (plain : plainInForm c) : c.toNat < 128 := by
  simp only [plainInForm, Bool.or_eq_true, decide_eq_true_eq] at plain
  rcases plain with (((letter | rfl) | rfl) | rfl) | rfl
  · exact low_of_isAlphanum letter
  all_goals decide

/-- The octets of a key or value with blanks put back. -/
def unplus (cs : List Char) : List UInt8 :=
  cs.flatMap fun c => String.utf8EncodeChar (if c = '+' then ' ' else c)

theorem formDecode_eq (cs : List Char) :
    formDecode cs = Text.ofOctets (percentDecode (unplus cs)) := by
  rw [formDecode, Text.octets, String.toList_ofList, List.flatMap_map, unplus]

/-- What stands for itself is written as one octet, which starts no escape. -/
theorem unplus_plain {c : Char} (plain : plainInForm c) :
    unplus [c] = String.utf8EncodeChar c ∧
      String.utf8EncodeChar c = [c.val.toUInt8] ∧ c.val.toUInt8 ≠ 0x25 := by
  have low := low_of_plainInForm plain
  revert plain
  -- neither `%` nor `+` is plain, which evaluation finds out for each of the 128 codes
  exact ascii_forall (P := fun c => plainInForm c → unplus [c] = String.utf8EncodeChar c ∧
    String.utf8EncodeChar c = [c.val.toUInt8] ∧ c.val.toUInt8 ≠ 0x25) (by decide +kernel) low

/-! ### Octets with a percent sign -/

theorem percentDecode_cons {b : UInt8} (plain : b ≠ 0x25) (rest : List UInt8) :
    percentDecode (b :: rest) = b :: percentDecode rest := by
  rw [percentDecode]
  intro first second behind same
  exact absurd same plain

theorem plainInForm_upperDigit {n : Nat} (small : n < 16) : plainInForm (upperDigit n) := by
  decide +revert

theorem digitValue?_upperDigit {n : Nat} (small : n < 16) :
    digitValue? (upperDigit n).val.toUInt8 = some n.toUInt8 := by
  decide +revert

theorem unplus_escapeOctet (b : UInt8) :
    unplus (escapeOctet b) =
      [0x25, (upperDigit (b.toNat / 16)).val.toUInt8, (upperDigit (b.toNat % 16)).val.toUInt8] := by
  have bound := b.toNat_lt
  have first : b.toNat / 16 < 16 := by omega
  have second : b.toNat % 16 < 16 := by omega
  obtain ⟨high, high', -⟩ := unplus_plain (plainInForm_upperDigit first)
  obtain ⟨low, low', -⟩ := unplus_plain (plainInForm_upperDigit second)
  calc unplus (escapeOctet b)
      = unplus ['%'] ++ unplus [upperDigit (b.toNat / 16)] ++ unplus [upperDigit (b.toNat % 16)] :=
        by simp [unplus, escapeOctet]
    _ = _ := by rw [high, high', low, low']; rfl

/-- An octet that was escaped is read back. -/
theorem percentDecode_escapeOctet (b : UInt8) (rest : List UInt8) :
    percentDecode (unplus (escapeOctet b) ++ rest) = b :: percentDecode rest := by
  have bound := b.toNat_lt
  have value : 16 * (b.toNat / 16).toUInt8 + (b.toNat % 16).toUInt8 = b := by
    apply UInt8.toNat_inj.mp
    simp
    omega
  rw [unplus_escapeOctet, List.cons_append, List.cons_append, List.cons_append, List.nil_append,
    percentDecode, digitValue?_upperDigit (by omega), digitValue?_upperDigit (by omega)]
  simp only [value]

theorem unplus_append (front behind : List Char) :
    unplus (front ++ behind) = unplus front ++ unplus behind := List.flatMap_append

theorem percentDecode_escapeOctets (bytes rest : List UInt8) :
    percentDecode (unplus (bytes.flatMap escapeOctet) ++ rest) = bytes ++ percentDecode rest := by
  induction bytes with
  | nil => rfl
  | cons b more ih =>
    rw [List.flatMap_cons, unplus_append, List.append_assoc, percentDecode_escapeOctet, ih,
      List.cons_append]

/-! ### Keys and values -/

/-- A character is read back as its octets, whichever way it is written. -/
theorem percentDecode_formChar (c : Char) (rest : List UInt8) :
    percentDecode (unplus (formChar c) ++ rest) =
      String.utf8EncodeChar c ++ percentDecode rest := by
  rw [formChar]
  split
  · next plain =>
    obtain ⟨self, single, low⟩ := unplus_plain plain
    rw [self, single, List.cons_append, percentDecode_cons low]
    rfl
  · split
    · next blank =>
      subst blank
      exact percentDecode_cons (by decide) rest
    · exact percentDecode_escapeOctets (String.utf8EncodeChar c) rest

/-- A key or value is read back as it was, whatever its characters. -/
@[simp]
theorem formDecode_formEncode (s : String) : formDecode (formEncode s) = s := by
  have back : ∀ cs : List Char,
      percentDecode (unplus (cs.flatMap formChar)) = cs.flatMap String.utf8EncodeChar := by
    intro cs
    induction cs with
    | nil => rfl
    | cons c rest ih =>
      rw [List.flatMap_cons, unplus_append, percentDecode_formChar, ih, List.flatMap_cons]
  rw [formDecode_eq, formEncode, back]
  exact Text.ofOctets_octets s

/-- The characters that writing a key or value may use. -/
theorem mem_formEncode {c : Char} {s : String} (h : c ∈ formEncode s) :
    plainInForm c ∨ c = '+' ∨ c = '%' := by
  obtain ⟨d, -, written⟩ := List.mem_flatMap.mp h
  rw [formChar] at written
  split at written
  · next plain =>
    rw [List.mem_singleton.mp written]
    exact .inl plain
  · split at written
    · exact .inr (.inl (List.mem_singleton.mp written))
    · obtain ⟨b, -, digit⟩ := List.mem_flatMap.mp written
      have bound := b.toNat_lt
      simp only [escapeOctet, List.mem_cons, List.not_mem_nil, or_false] at digit
      rcases digit with rfl | rfl | rfl
      · exact .inr (.inr rfl)
      · exact .inl (plainInForm_upperDigit (by omega))
      · exact .inl (plainInForm_upperDigit (by omega))

theorem not_mem_formEncode {c : Char} (apart : ¬(plainInForm c ∨ c = '+' ∨ c = '%'))
    (s : String) : c ∉ formEncode s := by
  intro h
  exact apart (mem_formEncode h)

/-! ### Pairs -/

/-- A pair is read back from its text. -/
theorem readPair_formPair (pair : String × String) : readPair (formPair pair) = pair := by
  have clear : ∀ c ∈ formEncode pair.1, (c == '=') = false := by
    intro c known
    rw [beq_eq_false_iff_ne]
    rintro rfl
    exact not_mem_formEncode (by decide) pair.1 known
  rw [readPair, formPair, Text.splitFirst_of clear rfl]
  simp

/-- The pairs of a query that goes on are those of both parts. -/
theorem readPairs_append (front behind : List Char) :
    readPairs (front ++ '&' :: behind) = readPairs front ++ readPairs behind := by
  rw [readPairs, Text.splitAll_append rfl, List.filter_append, List.map_append]
  rfl

theorem readPairs_formPair (pair : String × String) : readPairs (formPair pair) = [pair] := by
  have clear : ∀ c ∈ formPair pair, (c == '&') = false := by
    intro c known
    rw [beq_eq_false_iff_ne]
    rintro rfl
    have apart := not_mem_formEncode (c := '&') (by decide)
    simp [formPair, apart] at known
  have written : (formPair pair).isEmpty = false := by simp [formPair]
  simp [readPairs, Text.splitAll_of clear, written, readPair_formPair]

/-- A pair that is written behind a query is the last one read from it. The query may be any text:
what it was before the pair came is read as if it still stood alone. -/
theorem readPairs_appendPair (query : Option (List Char)) (pair : String × String) :
    readPairs (appendPair query pair) = readPairs (query.getD []) ++ [pair] := by
  rcases query with _ | _ | ⟨c, cs⟩
  · exact readPairs_formPair pair
  · exact readPairs_formPair pair
  · rw [appendPair, readPairs_append, readPairs_formPair, Option.getD_some]

namespace Url

theorem pairs_eq (u : Url) : u.pairs = readPairs ((u.query.map String.toList).getD []) := by
  rw [pairs]
  cases u.query <;> rfl

/-- A pair that is added to a URL is its last one. -/
@[simp]
theorem pairs_withPair (u : Url) (pair : String × String) :
    (u.withPair pair).pairs = u.pairs ++ [pair] := by
  rw [u.pairs_eq, ← readPairs_appendPair, pairs, withPair]
  simp

/-- Pairs that are added to a URL follow those that it has. -/
@[simp]
theorem pairs_withPairs (u : Url) (added : List (String × String)) :
    (u.withPairs added).pairs = u.pairs ++ added := by
  rw [withPairs]
  induction added generalizing u with
  | nil => simp
  | cons pair rest ih => rw [List.foldl_cons, ih, pairs_withPair, List.append_assoc]; rfl

end Url

end CourseLaunch.Web
