/-!
# What a reader took

That a reader leaves less than there was is part of its answer, so a loop of readers ends.
-/

namespace Stepwise

/-- What was taken from a list, and what was left. -/
structure Taken {τ : Type} (α : Type) (ts : List τ) where
  value : α
  rest : List τ
  shorter : rest.length < ts.length

namespace Taken

variable {τ α β : Type} {ts us : List τ}

def map (f : α → β) (t : Taken α ts) : Taken β ts := ⟨f t.value, t.rest, t.shorter⟩

/-- The same, taken from a longer list. -/
def widen (t : Taken α us) (h : us.length ≤ ts.length) : Taken α ts :=
  ⟨t.value, t.rest, Nat.lt_of_lt_of_le t.shorter h⟩

end Taken

end Stepwise
