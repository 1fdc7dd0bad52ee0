/-!
# Cutting texts

Cuts at every separator and at the first one.
-/

namespace CourseLaunch.Text

/-- The parts between the characters with the property `p`. There is always at least one. -/
def splitAll (p : Char → Bool) : List Char → List (List Char)
  | [] => [[]]
  | c :: rest =>
    if p c then [] :: splitAll p rest
    else
      match splitAll p rest with
      | part :: parts => (c :: part) :: parts
      | [] => [[c]]

/-- What stands before the first character with the property `p`, and what stands behind it if
there is one. -/
def splitFirst (p : Char → Bool) : List Char → List Char × Option (List Char)
  | [] => ([], none)
  | c :: rest =>
    if p c then ([], some rest)
    else
      let (before, behind) := splitFirst p rest
      (c :: before, behind)

/-- What stands before the last character with the property `p`, if there is one, and what stands
behind it. -/
def splitLast (p : Char → Bool) (cs : List Char) : Option (List Char) × List Char :=
  let behind := (cs.reverse.takeWhile fun c => !p c).reverse
  if behind.length = cs.length then (none, cs)
  else (some (cs.take (cs.length - behind.length - 1)), behind)

end CourseLaunch.Text
