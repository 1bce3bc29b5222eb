/-!
# Random sources

A source makes decisions: yes four times in five, or a number below a bound.  What a
simulation needs of a source is only this, so a statement about every source is one
about every sequence of decisions.
-/

namespace RoundWorkflow

/-- A source of random decisions, with a state. -/
class RandomSource (σ : Type) where
  /-- A decision that is yes four times in five. -/
  likely : σ → Bool × σ
  /-- A number below a bound, each as likely as any other. -/
  below : (bound : Nat) → 0 < bound → σ → Fin bound × σ

/-- A member of a list that is not empty, each as likely as any other. -/
def RandomSource.choose {σ : Type} [RandomSource σ] (x : α) (xs : List α) (s : σ) : α × σ :=
  let (i, s) := RandomSource.below (x :: xs).length (by simp) s
  ((x :: xs)[i], s)

end RoundWorkflow
