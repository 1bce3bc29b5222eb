/-!
# Letter case

Symbols are compared up to the case of the ASCII letters.  Other letters keep
their case: `É` and `é` stay different.
-/

namespace RoundWorkflow.Text

/-- The characters with every ASCII capital made small. -/
def foldCase (cs : List Char) : List Char :=
  cs.map Char.toLower

/-- Whether two texts agree up to the case of ASCII letters. -/
def sameUpToCase (s t : String) : Bool :=
  foldCase s.toList = foldCase t.toList

end RoundWorkflow.Text
