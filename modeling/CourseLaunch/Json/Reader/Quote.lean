import CourseLaunch.Json.Reader.Basic
/-!
# Reading quoted texts

Characters and escapes up to the closing quotation mark. A character outside the basic plane may
be written as two escapes, the leading one first; a half without its partner is refused.
-/

namespace CourseLaunch.Json

/-- The value of a hexadecimal digit. -/
def hexValue? (c : Char) : Option Nat :=
  if '0' ≤ c && c ≤ '9' then some (c.toNat - '0'.toNat)
  else if 'a' ≤ c && c ≤ 'f' then some (c.toNat - 'a'.toNat + 10)
  else if 'A' ≤ c && c ≤ 'F' then some (c.toNat - 'A'.toNat + 10)
  else none

def hexNumber? (cs : List Char) : Option Nat :=
  cs.foldlM (fun n c => (hexValue? c).map (16 * n + ·)) 0

/-- A fault in the four octets at the front, which should have been digits. -/
def refuseHex {α : Type} (s : Source) : Except Fault α :=
  if s.size < 4 then stop [] .endInString else .error ⟨.invalidEscape, some (s.size - 4)⟩

/-- Reads four hexadecimal digits. -/
def readHex (s : Source) : Outcome Nat s :=
  match s with
  | .char a :: .char b :: .char c :: .char d :: rest =>
    match hexNumber? [a, b, c, d] with
    | some n => .ok (n, (((Rest.tail _ rest).behind _).behind _).behind _)
    | none => refuseHex (.char a :: .char b :: .char c :: .char d :: rest)
  | s => refuseHex s

def isLeading (n : Nat) : Bool := 0xD800 ≤ n && n ≤ 0xDBFF

def isTrailing (n : Nat) : Bool := 0xDC00 ≤ n && n ≤ 0xDFFF

/-- The character that two surrogates stand for. -/
def joined (leading trailing : Nat) : Char :=
  Char.ofNat (0x10000 + (leading - 0xD800) * 0x400 + (trailing - 0xDC00))

/-- Reads the second of two escapes, behind the first. -/
def readTrailing (leading : Nat) (s : Source) : Outcome Char s :=
  match s with
  | [] => stop [] .endInString
  | u :: rest =>
    if u = .char '\\' then
      match rest with
      | [] => stop [] .endInString
      | v :: rest' =>
        if v = .char 'u' then
          match readHex rest' with
          | .error f => .error f
          | .ok (n, r) =>
            if isTrailing n then
              .ok (joined leading n, (r.behind v).behind u)
            else stop r.1 .loneSurrogate
        else refuse (v :: rest') .surrogateCutShort
    else refuse (u :: rest) .surrogateCutShort

/-- The character that a short escape stands for. -/
def shortEscape? (c : Char) : Option Char :=
  if c = '"' ∨ c = '\\' ∨ c = '/' then some c
  else if c = 'b' then some '\x08'
  else if c = 'f' then some '\x0c'
  else if c = 'n' then some '\n'
  else if c = 'r' then some '\r'
  else if c = 't' then some '\t'
  else none

/-- Reads an escape behind its backslash. -/
def readEscape (s : Source) : Outcome Char s :=
  match s with
  | [] => stop [] .endInString
  | .stray :: rest => refuse (.stray :: rest) .invalidEscape
  | .char c :: rest =>
    match shortEscape? c with
    | some d => .ok (d, Rest.tail _ rest)
    | none =>
      if c = 'u' then
        match readHex rest with
        | .error f => .error f
        | .ok (n, r) =>
          if isTrailing n then stop r.1 .loneSurrogate
          else if isLeading n then
            (r.left.outcome (readTrailing n r.1)).behind _
          else .ok (Char.ofNat n, r.behind _)
      else refuse (.char c :: rest) .invalidEscape

/-- Whether a symbol is a control character. -/
def isControl : Text.Symbol → Bool
  | .char c => c.toNat < 0x20
  | .stray => false

/-- Reads the symbols of a quoted text behind its opening quotation mark. -/
def readSymbols (s : Source) : Outcome (List Text.Symbol) s :=
  match s with
  | [] => stop [] .endInString
  | u :: rest =>
    if u = .char '"' then .ok ([], Rest.tail u rest)
    else if u = .char '\\' then
      match readEscape rest with
      | .error f => .error f
      | .ok (c, r) =>
        ((r.behind u).left.outcome (readSymbols r.1)).mapValue (.char c :: ·)
    else if isControl u then refuse (u :: rest) .controlCharacter
    else ((readSymbols rest).behind u).mapValue (u :: ·)
termination_by s.length
decreasing_by all_goals first | (have _h := r.2; simp; omega) | simp

/-- Reads a quoted text behind its opening quotation mark. -/
def readQuote (s : Source) : Outcome String s :=
  match readSymbols s with
  | .error f => .error f
  | .ok (symbols, r) =>
    match symbols.mapM Text.Symbol.char? with
    | some cs => .ok (String.ofList cs, r)
    | none => stop r.1 .invalidCharacter

/-- Skips an escape behind its backslash. Two escapes need not belong together here. -/
def skipEscape (s : Source) : Except Fault (Rest s) :=
  match s with
  | [] => stop [] .endInString
  | .stray :: rest => refuse (.stray :: rest) .invalidEscape
  | .char c :: rest =>
    if (shortEscape? c).isSome then .ok (Rest.tail _ rest)
    else if c = 'u' then
      match readHex rest with
      | .error f => .error f
      | .ok (_, r) => .ok (r.behind _)
    else refuse (.char c :: rest) .invalidEscape

/-- Skips a quoted text behind its opening quotation mark. -/
def skipQuote (s : Source) : Except Fault (Rest s) :=
  match s with
  | [] => stop [] .endInString
  | u :: rest =>
    if u = .char '"' then .ok (Rest.tail u rest)
    else if u = .char '\\' then
      match skipEscape rest with
      | .error f => .error f
      | .ok r => (skipQuote r.1).map fun r' => (r.behind u).then r'.left
    else if isControl u then stop (u :: rest) .controlCharacter
    else (skipQuote rest).map fun r => r.behind u
termination_by s.length
decreasing_by all_goals first | (have _h := r.2; simp; omega) | simp

end CourseLaunch.Json
