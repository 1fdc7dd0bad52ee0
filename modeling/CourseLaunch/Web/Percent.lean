import CourseLaunch.Text.Octets
/-!
# Percent-encoding

Characters that may not stand in a part of a URL are written as octets, each a percent sign and
two upper-case digits. Which characters may stand as they are depends on the part.
-/

namespace CourseLaunch.Web

/-- The hexadecimal digit of a number below sixteen, in upper case. -/
def upperDigit (n : Nat) : Char :=
  if n < 10 then Char.ofNat ('0'.toNat + n) else Char.ofNat ('A'.toNat + n - 10)

/-- The value of a hexadecimal digit. -/
def digitValue? (b : UInt8) : Option UInt8 :=
  if 0x30 ≤ b && b ≤ 0x39 then some (b - 0x30)
  else if 0x41 ≤ b && b ≤ 0x46 then some (b - 0x41 + 10)
  else if 0x61 ≤ b && b ≤ 0x66 then some (b - 0x61 + 10)
  else none

def escapeOctet (b : UInt8) : List Char :=
  ['%', upperDigit (b.toNat / 16), upperDigit (b.toNat % 16)]

/-- The text of a character octet by octet. -/
def escapeChar (c : Char) : List Char := (String.utf8EncodeChar c).flatMap escapeOctet

/-- Writes the characters without the property `plain` as octets. -/
def percentEncode (plain : Char → Bool) (cs : List Char) : List Char :=
  cs.flatMap fun c => if plain c then [c] else escapeChar c

/-- Puts back the octets that are written with a percent sign. -/
def percentDecode : List UInt8 → List UInt8
  | 0x25 :: a :: b :: rest =>
    match digitValue? a, digitValue? b with
    | some x, some y => (16 * x + y) :: percentDecode rest
    | _, _ => 0x25 :: percentDecode (a :: b :: rest)
  | b :: rest => b :: percentDecode rest
  | [] => []

def isPrintable (c : Char) : Bool := 0x20 ≤ c.toNat && c.toNat ≤ 0x7E

def plainInOpaque (c : Char) : Bool := isPrintable c

def plainInFragment (c : Char) : Bool :=
  isPrintable c && !(c = ' ' || c = '"' || c = '<' || c = '>' || c = '\x60')

def plainInPath (c : Char) : Bool :=
  plainInFragment c && !(c = '#' || c = '?' || c = '\x7b' || c = '\x7d')

/-- The characters that may stand in a user name or password. -/
def plainInUser (c : Char) : Bool :=
  plainInPath c &&
    !(c = '/' || c = ':' || c = ';' || c = '=' || c = '@' || c = '[' || c = '\\' || c = ']' ||
      c = '^' || c = '|')

def plainInQuery (c : Char) : Bool :=
  isPrintable c && !(c = ' ' || c = '"' || c = '#' || c = '<' || c = '>')

/-- The characters that may stand in the query of a URL with a well-known scheme. -/
def plainInSpecialQuery (c : Char) : Bool := plainInQuery c && c != '\''

end CourseLaunch.Web
