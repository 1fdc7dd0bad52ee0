import CourseLaunch.Json.Fault
/-!
# Reading JSON text

A reader takes a value from the front of a text and hands back what is left, together with the
fact that it is shorter. Lists and objects are read through two step functions, `nextItem` and
`nextEntry`, which know the punctuation and nothing of what stands between it.
-/

namespace CourseLaunch.Json

/-- What is left of `s` after some symbols, perhaps none. -/
abbrev Left (s : Source) := { r : Source // r.length ≤ s.length }

/-- What is left of `s` after at least one symbol. -/
abbrev Rest (s : Source) := { r : Source // r.length < s.length }

/-- A value and what is left of `s` behind it, or the fault. -/
abbrev Outcome (α : Type) (s : Source) := Except Fault (α × Rest s)

/-- Reads a value at the front of a text. -/
abbrev Reader (α : Type) := (s : Source) → Outcome α s

/-- A fault in front of `s`. -/
def stop {α : Type} (s : Source) (cause : Cause) : Except Fault α :=
  .error ⟨cause, some s.size⟩

/-- A fault at the first octet of `s`. -/
def refuse {α : Type} (s : Source) (cause : Cause) : Except Fault α :=
  .error ⟨cause, some (s.size - 1)⟩

section Parts

variable {α β : Type} {s : Source}

def Left.all (s : Source) : Left s := ⟨s, Nat.le_refl _⟩

/-- A part of `s`, as one of a text with a symbol more in front. -/
def Left.behind (r : Left s) (u : Text.Symbol) : Rest (u :: s) := ⟨r.1, Nat.lt_succ_of_le r.2⟩

/-- A part of `s`, whether or not a symbol was read. -/
def Rest.left (r : Rest s) : Left s := ⟨r.1, Nat.le_of_lt r.2⟩

/-- A part of `s`, as one of a text with a symbol more in front. -/
def Rest.behind (r : Rest s) (u : Text.Symbol) : Rest (u :: s) := r.left.behind u

/-- What stands behind the first symbol. -/
def Rest.tail (u : Text.Symbol) (s : Source) : Rest (u :: s) := (Left.all s).behind u

/-- What stands behind the first symbol, if there is one. -/
def Left.tail (r : Left s) : Left s :=
  ⟨r.1.tail, Nat.le_trans (by simp) r.2⟩

/-- A part of a part of `s`. -/
def Left.then (r : Left s) (q : Left r.1) : Left s := ⟨q.1, Nat.le_trans q.2 r.2⟩

/-- A part of a part of `s`. -/
def Left.thenRest (r : Left s) (q : Rest r.1) : Rest s := ⟨q.1, Nat.lt_of_lt_of_le q.2 r.2⟩

/-- A part of a part of `s`. -/
def Rest.then (r : Rest s) (q : Left r.1) : Rest s := ⟨q.1, Nat.lt_of_le_of_lt q.2 r.2⟩

/-- The outcome of reading a part of `s`, as one of reading `s`. -/
def Left.outcome (r : Left s) (o : Outcome α r.1) : Outcome α s :=
  o.map fun p => (p.1, r.thenRest p.2)

/-- An outcome for a text with a symbol more in front. -/
def Outcome.behind (o : Outcome α s) (u : Text.Symbol) : Outcome α (u :: s) :=
  o.map fun p => (p.1, p.2.behind u)

/-- Goes on behind a value. -/
def Outcome.andThen (o : Outcome α s) (next : α → Reader β) : Outcome β s :=
  match o with
  | .error f => .error f
  | .ok (x, r) => r.left.outcome (next x r.1)

def Outcome.mapValue (o : Outcome α s) (f : α → β) : Outcome β s := o.map fun p => (f p.1, p.2)

end Parts

/-- The blanks between the parts of a JSON text. -/
def isSpace : Text.Symbol → Bool
  | .char c => c == ' ' || c == '\n' || c == '\t' || c == '\r'
  | .stray => false

def skipBlank (s : Source) : Source := s.dropWhile isSpace

theorem length_skipBlank_le (s : Source) : (skipBlank s).length ≤ s.length :=
  (List.dropWhile_suffix _).length_le

/-- What stands behind the blanks. -/
def Left.blank (s : Source) : Left s := ⟨skipBlank s, length_skipBlank_le s⟩

/-- What is known to stand behind the blanks. -/
def Left.past {s t : Source} (h : skipBlank s = t) : Left s := ⟨t, h ▸ length_skipBlank_le s⟩

/-- What stands behind the blanks and a symbol. -/
def Rest.past {s t : Source} {u : Text.Symbol} (h : skipBlank s = u :: t) : Rest s :=
  (Left.past h).thenRest (Rest.tail u t)

/-- The text behind a word. -/
def skipWord : List Char → (s : Source) → Except Fault (Left s)
  | [], s => .ok (Left.all s)
  | _ :: _, [] => stop [] .endInValue
  | c :: word, u :: rest =>
    if u = .char c then
      (skipWord word rest).map fun r => (r.behind u).left
    else refuse (u :: rest) .expectedWord

/-- The text behind blanks and the given closing bracket, if it is there. -/
def pastClosing (closing : Char) (s : Source) : Source :=
  match skipBlank s with
  | u :: rest => if u = .char closing then rest else u :: rest
  | [] => []

/-- What comes next between two brackets. -/
inductive Next (s : Source) where
  | item (r : Left s)
  | finished (r : Rest s)

/-- Goes to the next item of a list, or past its end. -/
def nextItem (first : Bool) (s : Source) : Except Fault (Next s) :=
  match h : skipBlank s with
  | [] => refuse [] .endInList
  | .char ']' :: _ => .ok (.finished (Rest.past h))
  | u :: rest =>
    if first then .ok (.item (Left.past h))
    else if u = .char ',' then
      match h' : skipBlank rest with
      | [] => refuse [] .endInValue
      | .char ']' :: rest' => refuse (.char ']' :: rest') .trailingComma
      | _ :: _ => .ok (.item ((Rest.past h).then (Left.past h')).left)
    else refuse (u :: rest) .expectedListEnd

/-- Goes to the key of the next entry of an object, or past its end. -/
def nextEntry (first : Bool) (s : Source) : Except Fault (Next s) :=
  match h : skipBlank s with
  | [] => refuse [] .endInObject
  | .char '\x7d' :: _ => .ok (.finished (Rest.past h))
  | u :: rest =>
    if first then
      if u = .char '"' then .ok (.item (Left.past h))
      else refuse (u :: rest) .keyNotString
    else if u = .char ',' then
      match h' : skipBlank rest with
      | [] => refuse [] .endInValue
      | .char '"' :: _ => .ok (.item ((Rest.past h).then (Left.past h')).left)
      | .char '\x7d' :: rest' => refuse (.char '\x7d' :: rest') .trailingComma
      | v :: rest' => refuse (v :: rest') .keyNotString
    else refuse (u :: rest) .expectedObjectEnd

/-- The text behind the colon that follows a key. -/
def skipColon (s : Source) : Except Fault (Rest s) :=
  match h : skipBlank s with
  | [] => refuse [] .endInObject
  | u :: rest =>
    if u = .char ':' then .ok (Rest.past h)
    else refuse (u :: rest) .expectedColon

/-- The end of a list whose items were all read. -/
def closeList (s : Source) : Except Fault (Rest s) :=
  match h : skipBlank s with
  | [] => refuse [] .endInList
  | .char ']' :: _ => .ok (Rest.past h)
  | .char ',' :: rest =>
    match skipBlank rest with
    | .char ']' :: rest' => refuse (.char ']' :: rest') .trailingComma
    | rest' => refuse rest' .trailingCharacters
  | rest => refuse rest .trailingCharacters

/-- Reads the items of a list behind its opening bracket. -/
def readItems {α : Type} (item : Reader α) (first : Bool) (s : Source) : Outcome (List α) s :=
  match nextItem first s with
  | .error f => .error f
  | .ok (.finished r) => .ok ([], r)
  | .ok (.item r) =>
    match item r.1 with
    | .error f => .error f
    | .ok (x, r') =>
      ((r.thenRest r').left.outcome (readItems item false r'.1)).mapValue (x :: ·)
termination_by s.length
decreasing_by exact (r.thenRest r').2

end CourseLaunch.Json
