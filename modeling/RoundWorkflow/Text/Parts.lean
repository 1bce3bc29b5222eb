/-!
# The parts of a text

A text with marks in it has one part more than it has marks: what stands before the
first, between two, and after the last.
-/

namespace RoundWorkflow.Text

/-- The parts of a text between its marks. -/
def parts (mark : Char) : List Char → List (List Char)
  | [] => [[]]
  | c :: rest =>
    if c = mark then [] :: parts mark rest
    else
      match parts mark rest with
      | p :: ps => (c :: p) :: ps
      | [] => [[c]]

end RoundWorkflow.Text
