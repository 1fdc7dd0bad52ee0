import CourseLaunch.Json.Printer
import CourseLaunch.Json.Reader.Quote
import CourseLaunch.Proofs.Json.Outcome
/-!
# Quoted texts

What is written for a character between quotation marks is read as that character, whichever way it
is escaped, and so a quoted text is read as the text.
-/

namespace CourseLaunch.Json

/-- The ways in which a character may stand between quotation marks. -/
inductive Escaped (c : Char) : List Char → Prop where
  | short (letter : Char) (known : shortEscape? letter = some c) : Escaped c ['\\', letter]
  | plain (mark : c ≠ '"') (slash : c ≠ '\\') (shown : 0x20 ≤ c.toNat) : Escaped c [c]
  | control (hidden : c.toNat < 0x20) :
    Escaped c ['\\', 'u', '0', '0', hexDigit (c.toNat / 16), hexDigit (c.toNat % 16)]

/-- Every character is written in a way in which it may stand in a text. -/
theorem escaped_escape (c : Char) : Escaped c (escape c) := by
  rw [escape]
  split
  case isTrue known => exact .short '"' (by rw [known]; rfl)
  case isFalse mark =>
    split
    case isTrue known => exact .short '\\' (by rw [known]; rfl)
    case isFalse slash =>
      split
      case isTrue shown => exact .plain mark slash shown
      case isFalse hidden =>
        split
        case isTrue known => exact .short 'b' (by rw [known]; rfl)
        split
        case isTrue known => exact .short 'f' (by rw [known]; rfl)
        split
        case isTrue known => exact .short 'n' (by rw [known]; rfl)
        split
        case isTrue known => exact .short 'r' (by rw [known]; rfl)
        split
        case isTrue known => exact .short 't' (by rw [known]; rfl)
        exact .control (Nat.lt_of_not_le hidden)

variable {s rest : Source} {symbols : List Text.Symbol}

/-- A short escape stands for its character. -/
theorem readSymbols_short {letter c : Char} (short : shortEscape? letter = some c)
    (given : (readSymbols s).Gives symbols rest) :
    (readSymbols (.char '\\' :: .char letter :: s)).Gives (.char c :: symbols) rest := by
  have escape : readEscape (.char letter :: s) = .ok (c, Rest.tail _ s) := by
    simp only [readEscape, short]
  rw [readSymbols, if_neg (by simp), if_pos rfl, escape]
  exact Outcome.gives_mapValue.mpr ⟨symbols, Outcome.gives_outcome.mpr given, rfl⟩

/-- The digits of a control character give its number. -/
theorem hexNumber?_control :
    ∀ n < 0x20, hexNumber? ['0', '0', hexDigit (n / 16), hexDigit (n % 16)] = some n := by
  decide

/-- The number of a control character stands for the character. -/
theorem readSymbols_control {c : Char} (control : c.toNat < 0x20)
    (given : (readSymbols s).Gives symbols rest) :
    (readSymbols (.char '\\' :: .char 'u' :: .char '0' :: .char '0' ::
      .char (hexDigit (c.toNat / 16)) :: .char (hexDigit (c.toNat % 16)) :: s)).Gives
        (.char c :: symbols) rest := by
  have trailing : isTrailing c.toNat = false := by
    simp only [isTrailing, Bool.and_eq_false_iff, decide_eq_false_iff_not]
    omega
  have leading : isLeading c.toNat = false := by
    simp only [isLeading, Bool.and_eq_false_iff, decide_eq_false_iff_not]
    omega
  have same : Char.ofNat c.toNat = c := Char.ofNat_toNat c
  have noShort : shortEscape? 'u' = none := rfl
  rw [readSymbols, if_neg (by simp), if_pos rfl]
  simp only [readEscape, noShort, if_pos, readHex, hexNumber?_control c.toNat control, trailing,
    leading, same, Bool.false_eq_true, if_false]
  exact Outcome.gives_mapValue.mpr ⟨symbols, Outcome.gives_outcome.mpr given, rfl⟩

/-- A character that needs no escape stands for itself. -/
theorem readSymbols_plain {c : Char} (mark : c ≠ '"') (slash : c ≠ '\\') (shown : 0x20 ≤ c.toNat)
    (given : (readSymbols s).Gives symbols rest) :
    (readSymbols (.char c :: s)).Gives (.char c :: symbols) rest := by
  have visible : ¬ isControl (.char c) := by
    simp only [isControl, decide_eq_true_eq]
    omega
  rw [readSymbols, if_neg (by simpa using mark), if_neg (by simpa using slash), if_neg visible]
  simpa using given

/-- What stands for a character is read as that character. -/
theorem Escaped.readSymbols {c : Char} {cs : List Char} (h : Escaped c cs)
    (given : (readSymbols s).Gives symbols rest) :
    (Json.readSymbols (Source.of cs ++ s)).Gives (.char c :: symbols) rest := by
  cases h with
  | short letter known => exact readSymbols_short known given
  | plain mark slash shown => exact readSymbols_plain mark slash shown given
  | control hidden => exact readSymbols_control hidden given

/-- Symbols that are written with escapes are read back. -/
theorem readSymbols_flatMap_escape (cs : List Char) (rest : Source) :
    (readSymbols (Source.of (cs.flatMap escape) ++ .char '"' :: rest)).Gives (Source.of cs)
      rest := by
  induction cs with
  | nil =>
    rw [List.flatMap_nil, Source.of_nil, List.nil_append, readSymbols, if_pos rfl]
    exact Outcome.gives_ok.mpr ⟨rfl, rfl⟩
  | cons c cs ih =>
    rw [List.flatMap_cons, Source.of_append, List.append_assoc]
    exact (escaped_escape c).readSymbols ih

theorem mapM_char?_of (cs : List Char) : (Source.of cs).mapM Text.Symbol.char? = some cs := by
  induction cs with
  | nil => rfl
  | cons c cs ih =>
    rw [Source.of_cons, List.mapM_cons, ih]
    rfl

/-- A quoted text is read as the text. -/
theorem readQuote_of (text : String) (rest : Source) :
    (readQuote (Source.of (text.toList.flatMap escape) ++ .char '"' :: rest)).Gives text rest := by
  obtain ⟨shorter, read⟩ := readSymbols_flatMap_escape text.toList rest
  rw [readQuote, read]
  simp only [mapM_char?_of, String.ofList_toList]
  exact ⟨shorter, rfl⟩

end CourseLaunch.Json
