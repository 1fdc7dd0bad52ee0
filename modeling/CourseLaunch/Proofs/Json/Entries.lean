import CourseLaunch.Json.Printer
import CourseLaunch.Proofs.Json.Number
import CourseLaunch.Proofs.Json.Quote
import CourseLaunch.Json.Reader.Value
/-!
# Lists and objects in text

Whatever is read between brackets keeps what every single item or entry keeps. Items and entries
that are each read from their own text are read together from the text in which commas separate
them.
-/

namespace CourseLaunch.Json

variable {α σ : Type} {s rest : Source} {first : Bool}

/-- Whether a reader takes exactly the given characters, as the value `x`, wherever a number could
end behind them. -/
def Reads (r : Reader α) (cs : List Char) (x : α) : Prop :=
  ∀ rest, Stops rest → Outcome.Gives (r (Source.of cs ++ rest)) x rest

/-- The texts, each behind a comma. -/
def behindCommas (parts : List (List Char)) : List Char := parts.flatMap (',' :: ·)

theorem intercalate_cons (part : List Char) (parts : List (List Char)) :
    [','].intercalate (part :: parts) = part ++ behindCommas parts := by
  induction parts generalizing part with
  | nil => simp [behindCommas]
  | cons next parts ih =>
    rw [List.intercalate_cons_cons, ih, behindCommas, behindCommas, List.flatMap_cons]
    simp

/-- Behind an item or entry comes a comma or the closing bracket. -/
theorem stops_behindCommas {closing : Char} (closes : Stops (.char closing :: rest))
    (parts : List (List Char)) :
    Stops (Source.of (behindCommas parts) ++ .char closing :: rest) := by
  cases parts with
  | nil => exact closes
  | cons part parts => exact stops_cons rfl (by decide) (by decide) (by decide)

theorem stops_closing (rest : Source) :
    Stops (.char ']' :: rest) ∧ Stops (.char '\x7d' :: rest) :=
  ⟨stops_cons rfl (by decide) (by decide) (by decide),
    stops_cons rfl (by decide) (by decide) (by decide)⟩

/-! ### Items -/

section Items

variable {item : Reader α} {xs : List α}

/-- Reading items ends at the closing bracket, or takes one item and goes on. -/
theorem gives_readItems_iff :
    (readItems item first s).Gives xs rest ↔
      (∃ r, nextItem first s = .ok (.finished r) ∧ r.1 = rest ∧ xs = []) ∨
      ∃ r x mid others, nextItem first s = .ok (.item r) ∧ Outcome.Gives (item r.1) x mid ∧
        (readItems item false mid).Gives others rest ∧ xs = x :: others := by
  rw [readItems]
  rcases nextItem first s with f | r | r
  · simp
  · dsimp only
    rcases read : item r.1 with f | ⟨x, q⟩
    · simp [read]
    · simp only [Outcome.gives_mapValue]
      constructor
      · rintro ⟨others, later, rfl⟩
        exact .inr ⟨r, x, q.1, others, rfl, ⟨q.2, read⟩, Outcome.gives_outcome.mp later, rfl⟩
      · rintro (⟨_, next, _⟩ | ⟨_, x', mid, others, ⟨⟩, ⟨shorter, read'⟩, later, rfl⟩)
        · cases next
        · cases read.symm.trans read'
          exact ⟨others, Outcome.gives_outcome.mpr later, rfl⟩
  · simp only [Outcome.gives_ok, Except.ok.injEq, Next.finished.injEq]
    constructor
    · rintro ⟨rfl, rfl⟩
      exact .inl ⟨r, rfl, rfl, rfl⟩
    · rintro (⟨_, rfl, rfl, rfl⟩ | ⟨_, _, _, _, next, _⟩)
      · exact ⟨rfl, rfl⟩
      · cases next

/-- What holds of every item that can be read holds of all that were read. -/
theorem forall_mem_readItems {P : α → Prop}
    (each : ∀ s x rest, Outcome.Gives (item s) x rest → P x)
    (given : (readItems item first s).Gives xs rest) : ∀ x ∈ xs, P x := by
  induction xs generalizing first s with
  | nil => simp
  | cons x xs ih =>
    rcases gives_readItems_iff.mp given with
      ⟨_, _, _, none⟩ | ⟨r, y, mid, others, _, one, more, same⟩
    · cases none
    · obtain ⟨rfl, rfl⟩ := List.cons.inj same
      intro z known
      rcases List.mem_cons.mp known with rfl | later
      · exact each _ _ _ one
      · exact ih more z later

/-- Whether a text starts with what can only be the start of an item. -/
def OpensItem (cs : List Char) : Prop :=
  ∃ c more, cs = c :: more ∧ isSpace (.char c) = false ∧ c ≠ ']'

/-- The first item stands right behind the bracket. -/
theorem nextItem_first {cs : List Char} (opens : OpensItem cs) (rest : Source) :
    ∃ r, nextItem true (Source.of cs ++ rest) = .ok (.item r) ∧ r.1 = Source.of cs ++ rest := by
  obtain ⟨c, more, rfl, full, apart⟩ := opens
  rw [Source.of_cons, List.cons_append, nextItem]
  split <;> rename_i known <;> rw [skipBlank_cons full] at known <;> cases known
  · exact absurd rfl apart
  · exact ⟨_, rfl, rfl⟩

/-- Every further item stands behind a comma. -/
theorem nextItem_later {cs : List Char} (opens : OpensItem cs) (rest : Source) :
    ∃ r, nextItem false (.char ',' :: (Source.of cs ++ rest)) = .ok (.item r) ∧
      r.1 = Source.of cs ++ rest := by
  obtain ⟨c, more, rfl, full, apart⟩ := opens
  have comma : isSpace (.char ',') = false := rfl
  rw [Source.of_cons, List.cons_append, nextItem]
  split <;> rename_i known <;> rw [skipBlank_cons comma] at known <;> cases known
  rw [if_neg Bool.false_ne_true, if_pos rfl]
  split <;> rename_i known <;> rw [skipBlank_cons full] at known <;> cases known
  · exact absurd rfl apart
  · exact ⟨_, rfl, rfl⟩

/-- Items that are each read from their text are read from the texts behind commas. -/
theorem readItems_later {parts : List (List Char)} (opens : ∀ cs ∈ parts, OpensItem cs)
    (each : List.Forall₂ (Reads item) parts xs) (rest : Source) :
    (readItems item false (Source.of (behindCommas parts) ++ .char ']' :: rest)).Gives xs rest := by
  induction each with
  | nil => exact gives_readItems_iff.mpr (.inl ⟨_, rfl, rfl, rfl⟩)
  | @cons part x parts xs one others ih =>
    have later : Source.of (behindCommas (part :: parts)) ++ .char ']' :: rest =
        .char ',' :: (Source.of part ++ (Source.of (behindCommas parts) ++ .char ']' :: rest)) := by
      simp [behindCommas]
    obtain ⟨r, next, place⟩ := nextItem_later (opens part (.head _))
      (Source.of (behindCommas parts) ++ .char ']' :: rest)
    have read := one _ (stops_behindCommas (stops_closing rest).1 parts)
    rw [later]
    exact gives_readItems_iff.mpr (.inr ⟨r, x, _, xs, next, by rw [place]; exact read,
      ih fun cs known => opens cs (.tail _ known), rfl⟩)

/-- Items that are each read from their text are read from the text of the list. -/
theorem readItems_of {parts : List (List Char)} (opens : ∀ cs ∈ parts, OpensItem cs)
    (each : List.Forall₂ (Reads item) parts xs) (rest : Source) :
    (readItems item true (Source.of ([','].intercalate parts) ++ .char ']' :: rest)).Gives xs
      rest := by
  cases each with
  | nil => exact gives_readItems_iff.mpr (.inl ⟨_, rfl, rfl, rfl⟩)
  | @cons part x parts xs one others =>
    obtain ⟨r, next, place⟩ := nextItem_first (opens part (.head _))
      (Source.of (behindCommas parts) ++ .char ']' :: rest)
    have read := one _ (stops_behindCommas (stops_closing rest).1 parts)
    rw [intercalate_cons, Source.of_append, List.append_assoc]
    exact gives_readItems_iff.mpr (.inr ⟨r, x, _, xs, next, by rw [place]; exact read,
      readItems_later (fun cs known => opens cs (.tail _ known)) others rest, rfl⟩)

end Items

/-! ### Entries -/

section Entries

variable {entry : σ → String → Reader σ} {acc last : σ}

/-- Reading entries ends at the closing bracket, or takes one entry and goes on. -/
theorem gives_readEntries_iff :
    (readEntries entry first acc s).Gives last rest ↔
      (∃ r, nextEntry first s = .ok (.finished r) ∧ r.1 = rest ∧ last = acc) ∨
      ∃ r key value acc' mid, nextEntry first s = .ok (.item r) ∧
        (readQuote r.1.tail).Gives key value ∧ Outcome.Gives (entry acc key value) acc' mid ∧
        (readEntries entry false acc' mid).Gives last rest := by
  rw [readEntries]
  rcases nextEntry first s with f | r | r
  · simp
  -- a fault of the key or of the value is a fault of the whole, so neither side holds then
  · dsimp only
    rcases quote : readQuote r.tail.1 with f | ⟨key, q⟩
    · refine ⟨fun given => absurd given Outcome.not_gives_error, ?_⟩
      rintro (⟨_, next, _⟩ | ⟨_, key, value, acc', mid, ⟨⟩, ⟨_, quote'⟩, _⟩)
      · cases next
      · cases quote.symm.trans quote'
    · dsimp only
      rcases read : entry acc key q.1 with f | ⟨acc', q'⟩
      · refine ⟨fun given => absurd given Outcome.not_gives_error, ?_⟩
        rintro (⟨_, next, _⟩ | ⟨_, key, value, acc', mid, ⟨⟩, ⟨_, quote'⟩, ⟨_, read'⟩, _⟩)
        · cases next
        · cases quote.symm.trans quote'
          cases read.symm.trans read'
      · refine ⟨fun given => .inr ⟨r, key, q.1, acc', q'.1, rfl, ⟨q.2, quote⟩, ⟨q'.2, read⟩,
          Outcome.gives_outcome.mp given⟩, ?_⟩
        rintro (⟨_, next, _⟩ | ⟨_, key, value, acc', mid, ⟨⟩, ⟨_, quote'⟩, ⟨_, read'⟩, later⟩)
        · cases next
        · cases quote.symm.trans quote'
          cases read.symm.trans read'
          exact Outcome.gives_outcome.mpr later
  · simp only [Outcome.gives_ok, Except.ok.injEq, Next.finished.injEq]
    constructor
    · rintro ⟨rfl, rfl⟩
      exact .inl ⟨r, rfl, rfl, rfl⟩
    · rintro (⟨_, rfl, rfl, rfl⟩ | ⟨_, _, _, _, _, next, _⟩)
      · exact ⟨rfl, rfl⟩
      · cases next

/-- What every entry keeps is kept by all that were read. -/
theorem readEntries_keeps {P : σ → Prop}
    (keeps : ∀ acc key s acc' rest, P acc → Outcome.Gives (entry acc key s) acc' rest → P acc')
    (start : P acc) (given : (readEntries entry first acc s).Gives last rest) : P last := by
  induction size : s.length using Nat.strong_induction_on generalizing s first acc with
  | _ n ih =>
    subst size
    rcases gives_readEntries_iff.mp given with
      ⟨_, _, _, rfl⟩ | ⟨r, key, value, acc', mid, _, quote, one, more⟩
    · exact start
    · have shorter : mid.length < s.length := by
        obtain ⟨less, _⟩ := quote
        obtain ⟨less', _⟩ := one
        have tail : r.1.tail.length ≤ s.length := r.tail.2
        omega
      exact ih _ shorter (keeps _ _ _ _ _ start one) more rfl

/-- The readers of the entries take the texts of the fields in turn, from one state to the last. -/
inductive Entered (entry : σ → String → Reader σ) : σ → List (String × Json) → σ → Prop where
  | done (acc : σ) : Entered entry acc [] acc
  | next {acc acc' last : σ} {key : String} {value : Json} {fields : List (String × Json)}
    (one : Reads (entry acc key) (':' :: chars value) acc')
    (others : Entered entry acc' fields last) : Entered entry acc ((key, value) :: fields) last

/-- The text of an object is that of its fields in brackets. -/
theorem of_chars_object (fields : List (String × Json)) (rest : Source) :
    Source.of (chars (.object fields)) ++ rest = .char '\x7b' ::
      (Source.of ([','].intercalate (fieldChars fields)) ++ .char '\x7d' :: rest) := by
  simp [chars, bracket]

/-- Entries that are each read from their text are read from the texts behind commas. -/
theorem Entered.later {fields : List (String × Json)} (h : Entered entry acc fields last)
    (rest : Source) :
    (readEntries entry false acc
      (Source.of (behindCommas (fieldChars fields)) ++ .char '\x7d' :: rest)).Gives last rest := by
  induction h with
  | done acc => exact gives_readEntries_iff.mpr (.inl ⟨_, rfl, rfl, rfl⟩)
  | @next acc acc' last key value fields one others ih =>
    have later : Source.of (behindCommas (fieldChars ((key, value) :: fields))) ++
        .char '\x7d' :: rest = .char ',' :: .char '"' ::
          (Source.of (key.toList.flatMap escape) ++ .char '"' ::
            (Source.of (':' :: chars value) ++
              (Source.of (behindCommas (fieldChars fields)) ++ .char '\x7d' :: rest))) := by
      simp [behindCommas, fieldChars, quote]
    have read := one _ (stops_behindCommas (stops_closing rest).2 (fieldChars fields))
    rw [later]
    exact gives_readEntries_iff.mpr (.inr ⟨_, key, _, acc', _, rfl, readQuote_of key _, read, ih⟩)

/-- Entries that are each read from their text are read from the text of the object. -/
theorem Entered.readEntries {fields : List (String × Json)} (h : Entered entry acc fields last)
    (rest : Source) :
    (Json.readEntries entry true acc
      (Source.of ([','].intercalate (fieldChars fields)) ++ .char '\x7d' :: rest)).Gives last
        rest := by
  cases h with
  | done => exact gives_readEntries_iff.mpr (.inl ⟨_, rfl, rfl, rfl⟩)
  | @next _ acc' _ key value fields one others =>
    have first : Source.of ([','].intercalate (fieldChars ((key, value) :: fields))) ++
        .char '\x7d' :: rest = .char '"' ::
          (Source.of (key.toList.flatMap escape) ++ .char '"' ::
            (Source.of (':' :: chars value) ++
              (Source.of (behindCommas (fieldChars fields)) ++ .char '\x7d' :: rest))) := by
      rw [fieldChars, intercalate_cons]
      simp [quote]
    have read := one _ (stops_behindCommas (stops_closing rest).2 (fieldChars fields))
    rw [first]
    exact gives_readEntries_iff.mpr
      (.inr ⟨_, key, _, acc', _, rfl, readQuote_of key _, read, others.later rest⟩)

end Entries

end CourseLaunch.Json
