import CourseLaunch.Web.Address
import CourseLaunch.Web.Domain
import CourseLaunch.Web.Percent
/-!
# Hosts

The host of a URL is a domain name, a numeric address, or, under a scheme without rules for hosts,
any name. It may be empty there.
-/

namespace CourseLaunch.Web

/-- Why a text is no URL. -/
inductive Fault where
  | emptyHost
  | invalidDomain
  | invalidPort
  | invalidShortAddress
  | invalidLongAddress
  | invalidHostCharacter
  | relativeWithoutBase
  | relativeToRootless
deriving DecidableEq, Repr

/-- The message of a fault. -/
def Fault.text : Fault → String
  | .emptyHost => "empty host"
  | .invalidDomain => "invalid international domain name"
  | .invalidPort => "invalid port number"
  | .invalidShortAddress => "invalid IPv4 address"
  | .invalidLongAddress => "invalid IPv6 address"
  | .invalidHostCharacter => "invalid domain character"
  | .relativeWithoutBase => "relative URL without a base"
  | .relativeToRootless => "relative URL with a cannot-be-a-base base"

/-- The host of a URL. -/
inductive Host where
  | named (name : String)
  | short (address : Nat)
  | long (groups : List Nat)
deriving DecidableEq, Repr

namespace Host

def nameless : Host := .named ""

/-- The text of a host. -/
def text : Host → String
  | .named name => name
  | .short address => String.ofList (shortText address)
  | .long groups => String.ofList ('[' :: longText groups ++ [']'])

/-- Whether a host has no text. -/
def isEmpty : Host → Bool
  | .named name => name.isEmpty
  | _ => false

/-- Reads an address in brackets behind the opening one. -/
def ofBrackets (cs : List Char) : Except Fault Host :=
  if cs.getLast? = some ']' then
    match longAddress? cs.dropLast with
    | some groups => .ok (.long groups)
    | none => .error .invalidLongAddress
  else .error .invalidLongAddress

/-- Reads a host under a scheme with rules for hosts. -/
def ofDomain (cs : List Char) : Except Fault Host :=
  match cs with
  | '[' :: rest => ofBrackets rest
  | cs =>
    match domainToAscii? (percentDecode (Text.octets (String.ofList cs))) with
    | none => .error .invalidDomain
    | some [] => .error .emptyHost
    | some domain =>
      if endsInNumber domain then
        match shortAddress? domain with
        | some address => .ok (.short address)
        | none => .error .invalidShortAddress
      else .ok (.named (String.ofList domain))

/-- The characters that no host may have under a scheme without rules for hosts. -/
def forbidden (c : Char) : Bool :=
  c == '\x00' || c == '\t' || c == '\n' || c == '\r' || c == ' ' || c == '#' || c == '/' ||
    c == ':' || c == '<' || c == '>' || c == '?' || c == '@' || c == '[' || c == '\\' ||
    c == ']' || c == '^' || c == '|'

/-- Reads a host under a scheme without rules for hosts. -/
def ofName (cs : List Char) : Except Fault Host :=
  match cs with
  | '[' :: rest => ofBrackets rest
  | cs =>
    if cs.any forbidden then .error .invalidHostCharacter
    else .ok (.named (String.ofList (percentEncode plainInOpaque cs)))

end Host

end CourseLaunch.Web
