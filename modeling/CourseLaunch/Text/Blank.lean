/-!
# White space

The characters with the Unicode property `White_Space`, and the removal of them from both ends of
a text. The property is wider than ASCII: it holds of the no-break space and of the ideographic
space, and not of the zero-width space.
-/

namespace CourseLaunch.Text

/-- The property `White_Space`. -/
def isBlank (c : Char) : Bool :=
  let n := c.toNat
  (9 ≤ n && n ≤ 13) || n == 0x20 || n == 0x85 || n == 0xA0 || n == 0x1680 ||
    (0x2000 ≤ n && n ≤ 0x200A) || n == 0x2028 || n == 0x2029 || n == 0x202F || n == 0x205F ||
    n == 0x3000

def dropTail (p : Char → Bool) (l : List Char) : List Char :=
  (l.reverse.dropWhile p).reverse

/-- Drops the characters with the property `p` at both ends. -/
def strip (p : Char → Bool) (l : List Char) : List Char :=
  dropTail p (l.dropWhile p)

/-- The text without the white space around it. -/
def trim (s : String) : String :=
  String.ofList (strip isBlank s.toList)

end CourseLaunch.Text
