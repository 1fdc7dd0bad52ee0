import CourseLaunch.Text.Split
import CourseLaunch.Web.Percent
/-!
# Form-encoded pairs

A query as a list of keys and values. Writing keeps ASCII letters, digits and `*-._`, writes a
blank as `+`, and everything else as octets. Reading takes any query: empty parts are skipped, a
part without an equals sign is a key with an empty value, and octets that are not UTF-8 are
replaced.
-/

namespace CourseLaunch.Web

/-- The characters that stand for themselves in a key or value. -/
def plainInForm (c : Char) : Bool :=
  c.isAlphanum || c = '*' || c = '-' || c = '.' || c = '_'

def formChar (c : Char) : List Char :=
  if plainInForm c then [c] else if c = ' ' then ['+'] else escapeChar c

def formEncode (s : String) : List Char := s.toList.flatMap formChar

/-- The key or value of a text. -/
def formDecode (cs : List Char) : String :=
  let unplussed := cs.map fun c => if c = '+' then ' ' else c
  Text.ofOctets (percentDecode (Text.octets (String.ofList unplussed)))

def formPair (pair : String × String) : List Char :=
  formEncode pair.1 ++ '=' :: formEncode pair.2

/-- The pair of a text. -/
def readPair (cs : List Char) : String × String :=
  let (key, value) := Text.splitFirst (· == '=') cs
  (formDecode key, formDecode (value.getD []))

/-- The pairs of a query. -/
def readPairs (query : List Char) : List (String × String) :=
  ((Text.splitAll (· == '&') query).filter fun part => !part.isEmpty).map readPair

/-- Adds a pair at the end of a query. -/
def appendPair (query : Option (List Char)) (pair : String × String) : List Char :=
  match query with
  | none | some [] => formPair pair
  | some (c :: cs) => c :: cs ++ '&' :: formPair pair

end CourseLaunch.Web
