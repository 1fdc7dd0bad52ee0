/-!
# Texts as octets

The UTF-8 form of a text and the three ways back: strictly, with each ill-formed stretch replaced
by U+FFFD, and symbol by symbol with the octets that belong to no character marked as such.
-/

namespace CourseLaunch.Text

def octets (s : String) : List UInt8 :=
  s.toList.flatMap String.utf8EncodeChar

/-- The character whose UTF-8 form stands at the front, if one does. -/
def frontChar? (bytes : List UInt8) : Option Char :=
  (bytes.take 4).toByteArray.utf8DecodeChar? 0

/-- One piece of an octet sequence: a character, or an octet that belongs to none. -/
inductive Symbol where
  | char (c : Char)
  | stray
deriving DecidableEq, Repr

/-- How many octets a symbol takes. -/
def Symbol.width : Symbol → Nat
  | .char c => c.utf8Size
  | .stray => 1

/-- Cuts octets into symbols. -/
def symbols : List UInt8 → List Symbol
  | [] => []
  | b :: rest =>
    match frontChar? (b :: rest) with
    | some c => .char c :: symbols (rest.drop (c.utf8Size - 1))
    | none => .stray :: symbols rest
termination_by bytes => bytes.length
decreasing_by all_goals simp only [List.length_drop, List.length_cons]; omega

/-- The character of a symbol. -/
def Symbol.char? : Symbol → Option Char
  | .char c => some c
  | .stray => none

/-- The text whose UTF-8 form the octets are. -/
def ofOctets? (bytes : List UInt8) : Option String :=
  ((symbols bytes).mapM Symbol.char?).map String.ofList

/-- Whether the octet continues a character. -/
def isContinuation (b : UInt8) : Bool :=
  0x80 ≤ b && b ≤ 0xBF

/-- The second octets that may follow a first one in a well-formed character. -/
def secondOctet (first second : UInt8) : Bool :=
  if first == 0xE0 then 0xA0 ≤ second && second ≤ 0xBF
  else if first == 0xED then 0x80 ≤ second && second ≤ 0x9F
  else if first == 0xF0 then 0x90 ≤ second && second ≤ 0xBF
  else if first == 0xF4 then 0x80 ≤ second && second ≤ 0x8F
  else if 0xE1 ≤ first && first ≤ 0xF3 then isContinuation second
  else false

/-- The length of the longest ill-formed stretch at the front that is the start of a character,
and one where there is none. -/
def illFormedLength : List UInt8 → Nat
  | a :: b :: c :: _ =>
    if !secondOctet a b then 1
    else if 0xF0 ≤ a && isContinuation c then 3
    else 2
  | [a, b] => if secondOctet a b then 2 else 1
  | _ => 1

/-- The text of the octets, with U+FFFD for each ill-formed stretch. -/
def ofOctets (bytes : List UInt8) : String :=
  String.ofList (go bytes)
where
  /-- The characters of the octets. -/
  go : List UInt8 → List Char
    | [] => []
    | b :: rest =>
      match frontChar? (b :: rest) with
      | some c => c :: go (rest.drop (c.utf8Size - 1))
      | none => '\uFFFD' :: go (rest.drop (illFormedLength (b :: rest) - 1))
  termination_by bytes => bytes.length
  decreasing_by all_goals simp only [List.length_drop, List.length_cons]; omega

end CourseLaunch.Text
