import CourseLaunch.Json.Reader.Number
import CourseLaunch.Json.Reader.Quote
/-!
# Reading values

A value of any kind is read as it stands, with the fields of objects in the order of the text and
equal keys kept; `canonical` then gives the value itself. Lists and objects may be nested 127 deep.
A value that nobody asked for is skipped, and then neither its depth nor the range of its numbers
matters.
-/

namespace CourseLaunch.Json

def greatestDepth : Nat := 127

/-- Reads the entries of an object behind its opening bracket. Each entry is read from behind its
key. -/
def readEntries {σ : Type} (entry : σ → String → Reader σ) (first : Bool) (acc : σ) (s : Source) :
    Outcome σ s :=
  match nextEntry first s with
  | .error f => .error f
  | .ok (.finished r) => .ok (acc, r)
  | .ok (.item r) =>
    match readQuote r.tail.1 with
    | .error f => .error f
    | .ok (key, r') =>
      match entry acc key r'.1 with
      | .error f => .error f
      | .ok (acc', r'') =>
        ((r.tail.thenRest r').then r''.left).left.outcome (readEntries entry false acc' r''.1)
termination_by s.length
decreasing_by exact ((r.tail.thenRest r').then r''.left).2

/-- Reads a value behind a colon. -/
def readField {α : Type} (value : Reader α) : Reader α := fun s =>
  match skipColon s with
  | .error f => .error f
  | .ok r => r.left.outcome (value r.1)

/-- Reads the rest of a word whose first letter is known, and gives its value. -/
def readWord (letters : List Char) (value : Json) (s : Source) : Except Fault (Json × Left s) :=
  (skipWord letters s).map fun r => (value, r)

/-- Reads a value that is neither a list nor an object. -/
def readPlain (s : Source) : Outcome Json s :=
  match s with
  | [] => refuse [] .endInValue
  | u :: rest =>
    let behind (o : Except Fault (Json × Left rest)) : Outcome Json (u :: rest) :=
      o.map fun p => (p.1, p.2.behind u)
    if u = .char 'n' then behind (readWord ['u', 'l', 'l'] .null rest)
    else if u = .char 't' then behind (readWord ['r', 'u', 'e'] (.bool true) rest)
    else if u = .char 'f' then behind (readWord ['a', 'l', 's', 'e'] (.bool false) rest)
    else if u = .char '"' then
      ((readQuote rest).mapValue .string).behind u
    else if u = .char '-' ∨ (frontDigit? (u :: rest)).isSome then
      (readNumber (u :: rest)).mapValue .number
    else refuse (u :: rest) .expectedValue

/-- Reads an entry of an object of any kind. -/
def readRawEntry (value : Reader Json) (fields : List (String × Json)) (key : String) :
    Reader (List (String × Json)) := fun s =>
  Outcome.mapValue (readField value s) fun v => fields ++ [(key, v)]

/-- Reads a value that stands at the very front. Its items and fields are read by `inner`; without
it there may be none. -/
def readFront (inner : Option (Reader Json)) (s : Source) : Outcome Json s :=
  match s with
  | .char '[' :: rest =>
    match inner with
    | none => refuse (.char '[' :: rest) .nestedTooDeep
    | some value => ((readItems value true rest).mapValue Json.array).behind _
  | .char '\x7b' :: rest =>
    match inner with
    | none => refuse (.char '\x7b' :: rest) .nestedTooDeep
    | some value =>
      ((readEntries (readRawEntry value) true [] rest).mapValue Json.object).behind _
  | text => readPlain text

/-- Reads a value whose items and fields are read by `inner`, behind the blanks in front. -/
def readNested (inner : Option (Reader Json)) (s : Source) : Outcome Json s :=
  (Left.blank s).outcome (readFront inner (skipBlank s))

/-- Reads a value as it stands, with at most the given number of brackets open at a time. -/
def readRaw : Nat → Reader Json
  | 0 => readNested none
  | depth + 1 => readNested (some (readRaw depth))

/-- Refuses the value in front, where something else was expected. A list or object is refused at
its opening bracket, and any other value behind its end. -/
def refuseType {α : Type} (expected : String) (s : Source) : Except Fault α :=
  match s with
  | .char '[' :: rest => stop (.char '[' :: rest) (.wrongType .sequence expected)
  | .char '\x7b' :: rest => stop (.char '\x7b' :: rest) (.wrongType .map expected)
  | s =>
    match readPlain s with
    | .error f => .error f
    | .ok (value, r) => stop r.1 (.wrongType (found value) expected)

/-- A bracket that was opened. -/
inductive Bracket where
  | square
  | curly
deriving DecidableEq, Repr

/-- The symbol that closes a bracket. -/
def Bracket.closing : Bracket → Char
  | .square => ']'
  | .curly => '\x7d'

/-- Why a text may not end inside a bracket. -/
def Bracket.endCause : Bracket → Cause
  | .square => .endInList
  | .curly => .endInObject

/-- Why something other than a comma may not follow a value inside a bracket. -/
def Bracket.commaCause : Bracket → Cause
  | .square => .expectedListEnd
  | .curly => .expectedObjectEnd

/-- Skips a value that is neither a list nor an object. -/
def skipPlain (s : Source) : Except Fault (Rest s) :=
  match s with
  | [] => refuse [] .endInValue
  | u :: rest =>
    let word (letters : List Char) : Except Fault (Rest (u :: rest)) :=
      (skipWord letters rest).map fun r => r.behind u
    if u = .char 'n' then word ['u', 'l', 'l']
    else if u = .char 't' then word ['r', 'u', 'e']
    else if u = .char 'f' then word ['a', 'l', 's', 'e']
    else if u = .char '"' then (skipQuote rest).map fun r => r.behind u
    else if u = .char '-' ∨ (frontDigit? (u :: rest)).isSome then skipNumber (u :: rest)
    else refuse (u :: rest) .expectedValue

/-- Skips the key of the next value inside a bracket, where one belongs. -/
def skipKey (bracket : Bracket) (s : Source) : Except Fault (Left s) :=
  match bracket with
  | .square => .ok (Left.all s)
  | .curly =>
    match h : skipBlank s with
    | [] => refuse [] .endInObject
    | u :: rest =>
      if u = .char '"' then
        match skipQuote rest with
        | .error f => .error f
        | .ok r =>
          (skipColon r.1).map fun r' => (((Rest.past h).then r.left).then r'.left).left
      else refuse (u :: rest) .keyNotString

mutual

/-- Skips a value inside the open brackets, and all up to the end of the outermost one. -/
def skipValue (brackets : List Bracket) (s : Source) : Except Fault (Left s) :=
  match h : skipBlank s with
  | [] => refuse [] .endInValue
  | u :: rest =>
    if u = .char '[' then
      (skipBehind true .square brackets rest).map fun r => ((Rest.past h).then r).left
    else if u = .char '\x7b' then
      (skipBehind true .curly brackets rest).map fun r => ((Rest.past h).then r).left
    else
      match skipPlain (u :: rest) with
      | .error f => .error f
      | .ok r =>
        match brackets with
        | [] => .ok ((Left.past h).thenRest r).left
        | bracket :: outer =>
          (skipBehind false bracket outer r.1).map fun r' =>
            (((Left.past h).thenRest r).then r').left
termination_by (s.length, 0)
decreasing_by
  · exact Prod.Lex.left _ _ (Rest.past h).2
  · exact Prod.Lex.left _ _ (Rest.past h).2
  · exact Prod.Lex.left _ _ ((Left.past h).thenRest r).2

/-- Goes on inside a bracket, behind its opening when it is fresh and behind a value otherwise. -/
def skipBehind (fresh : Bool) (bracket : Bracket) (outer : List Bracket) (s : Source) :
    Except Fault (Left s) :=
  match h : skipBlank s with
  | [] => refuse [] bracket.endCause
  | u :: rest =>
    if u = .char bracket.closing then
      match outer with
      | [] => .ok (Rest.past h).left
      | next :: outer =>
        (skipBehind false next outer rest).map fun r => ((Rest.past h).then r).left
    else if fresh then
      match skipKey bracket s with
      | .error f => .error f
      | .ok r => (skipValue (bracket :: outer) r.1).map fun r' => r.then r'
    else if u = .char ',' then
      match skipKey bracket rest with
      | .error f => .error f
      | .ok r =>
        (skipValue (bracket :: outer) r.1).map fun r' => (((Rest.past h).then r).then r').left
    else refuse (u :: rest) bracket.commaCause
termination_by (s.length, 1)
decreasing_by
  · exact Prod.Lex.left _ _ (Rest.past h).2
  · rcases Nat.lt_or_eq_of_le r.2 with h | h
    · exact Prod.Lex.left _ _ h
    · rw [h]; exact Prod.Lex.right _ Nat.zero_lt_one
  · exact Prod.Lex.left _ _ ((Rest.past h).then r).2

end

/-- Reads a text that holds one value and nothing else. -/
def readWhole {α : Type} (value : Reader α) (s : Source) : Except Fault α :=
  match value s with
  | .error f => .error f
  | .ok (x, r) =>
    match skipBlank r.1 with
    | [] => .ok x
    | rest => refuse rest .trailingCharacters

def ofSource (s : Source) : Except Fault Json :=
  (readWhole (readRaw greatestDepth) s).map canonical

end CourseLaunch.Json
