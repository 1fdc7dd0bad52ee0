import CourseLaunch.Text.Marks
import CourseLaunch.Text.Octets
import CourseLaunch.Web.Domain.Direction
import CourseLaunch.Web.Domain.Joining
import CourseLaunch.Web.Domain.Mapping
import CourseLaunch.Web.Punycode
/-!
# Domain names

The ASCII form of a domain name. A name in ASCII letters only loses its case. In any other name
each character is mapped, the labels are checked, and those with characters beyond ASCII are
written in ASCII letters behind `xn--`.
-/

namespace CourseLaunch.Web

/-- The characters that no domain name may have in its ASCII form. -/
def forbiddenInDomain (c : Char) : Bool :=
  c.toNat ≤ 0x20 || c == '\x7f' || c == '%' || c == '#' || c == '/' || c == ':' || c == '<' ||
    c == '>' || c == '?' || c == '@' || c == '[' || c == '\\' || c == ']' || c == '^' || c == '|'

namespace Domain

def isAscii (c : Char) : Bool := c.toNat < 0x80

/-- What stands in front of a label that was written in ASCII letters. -/
def marker : List Char := ['x', 'n', '-', '-']

def isMarked (label : List Char) : Bool := label.take 4 == marker

def labels (name : List Char) : List (List Char) := Text.splitAll (· == '.') name

/-- Whether a name is plain: in ASCII letters, and without marked labels. -/
def isPlain (name : List Char) : Bool :=
  name.all isAscii && !(labels (name.map Char.toLower)).any isMarked

/-- The label that a marked label was written for. -/
def unmarked? (label : List Char) : Option (List Char) :=
  (Punycode.decode? (label.drop 4)).filter fun cs =>
    !cs.all isAscii && cs.all isValid && Text.composed cs == cs

/-- The label as it is read. -/
def shown? (label : List Char) : Option (List Char) :=
  if isMarked label then unmarked? label else some label

/-- The label in ASCII letters. -/
def written (label : List Char) : List Char :=
  if label.all isAscii then label else marker ++ Punycode.encode label

/-- Whether a label may stand in a name. -/
def labelAllowed (label : List Char) : Bool :=
  !label.head?.any Text.isMark && joinersAllowed [] label

/-- Whether the labels of a name agree with its direction. -/
def directionsAllowed (shown : List (List Char)) : Bool :=
  !shown.any (·.any matters) || shown.all hasOneDirection

/-- The ASCII form of a name that is not plain. -/
def international? (name : List Char) : Option (List Char) := do
  let mapped ← name.mapM mapChar?
  let parts := labels (Text.composed mapped.flatten)
  let shown ← parts.mapM shown?
  if shown.all labelAllowed && directionsAllowed shown then
    some (['.'].intercalate (parts.map written))
  else none

/-- The ASCII form of a name, before its characters are checked. -/
def ascii? (name : List Char) : Option (List Char) :=
  if isPlain name then some (name.map Char.toLower) else international? name

end Domain

/-- The ASCII form of a domain name in octets. -/
def domainToAscii? (bytes : List UInt8) : Option (List Char) :=
  ((Text.ofOctets? bytes).bind fun s => Domain.ascii? s.toList).filter fun cs =>
    !cs.any forbiddenInDomain

end CourseLaunch.Web
