import CourseLaunch.Text.Hidden
/-!
# Quoted texts in messages

A text between quotation marks in which every character can be seen: those without a shape of
their own are written as a number.
-/

namespace CourseLaunch.Text

def hexDigits (n : Nat) : List Char := Nat.toDigits 16 n

/-- The characters that stand for `c` in a quoted text. -/
def visible (c : Char) : List Char :=
  if c = '"' then ['\\', '"']
  else if c = '\\' then ['\\', '\\']
  else if c = '\n' then ['\\', 'n']
  else if c = '\r' then ['\\', 'r']
  else if c = '\t' then ['\\', 't']
  else if c = '\x00' then ['\\', '0']
  else if isHidden c then ['\\', 'u', '\x7b'] ++ hexDigits c.toNat ++ ['\x7d']
  else [c]

/-- The text between quotation marks, with every character visible. -/
def quoted (s : String) : String :=
  String.ofList ('"' :: s.toList.flatMap visible ++ ['"'])

end CourseLaunch.Text
