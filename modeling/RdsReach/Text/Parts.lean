/-!
# Separated parts

A text falls into parts at the occurrences of a separator; there is one part more than there are
separators, and neighbouring separators have an empty part between them.
-/

namespace RdsReach.Text

/-- The parts of a text between the occurrences of a separator. -/
def parts (separator : Char) : List Char → List (List Char)
  | [] => [[]]
  | c :: cs =>
    if c = separator then [] :: parts separator cs
    else
      match parts separator cs with
      | [] => [[c]]
      | p :: ps => (c :: p) :: ps

theorem parts_ne_nil (separator : Char) (cs : List Char) : parts separator cs ≠ [] := by
  induction cs with
  | nil => simp [parts]
  | cons c cs ih => grind [parts]

end RdsReach.Text
