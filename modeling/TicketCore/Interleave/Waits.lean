import Mathlib.Logic.Relation

/-!
# Cycles of a waiting relation

`not_transGen_self_of_rank`: a relation has no cycle if a rank falls along its edges. The rank need
only fall between two nodes that could both lie on a cycle: something waits for the first one, and
the second one waits for something.

Nothing here mentions a particular system.
-/

namespace Interleave

open Relation

variable {α : Type} {r : α → α → Prop}

/-- The rank falls along a path from a node that is waited for to one that waits. -/
theorem rank_lt_of_path {rank : α → Nat}
    (falls : ∀ a b, r a b → (∃ z, r z a) → (∃ c, r b c) → rank b < rank a) {a b : α}
    (path : TransGen r a b) (before : ∃ z, r z a) (after : ∃ c, r b c) : rank b < rank a := by
  induction path with
  | single edge => exact falls a _ edge before after
  | tail path edge ih =>
      obtain ⟨z, _, last⟩ := TransGen.tail'_iff.mp path
      calc
        rank _ < rank _ := falls _ _ edge ⟨z, last⟩ after
        _ < rank a := ih ⟨_, edge⟩

theorem not_transGen_self_of_rank (rank : α → Nat)
    (falls : ∀ a b, r a b → (∃ z, r z a) → (∃ c, r b c) → rank b < rank a) (a : α) :
    ¬ TransGen r a a := by
  intro cycle
  obtain ⟨z, _, last⟩ := TransGen.tail'_iff.mp cycle
  obtain ⟨c, first, _⟩ := TransGen.head'_iff.mp cycle
  exact Nat.lt_irrefl _ (rank_lt_of_path falls cycle ⟨z, last⟩ ⟨c, first⟩)

end Interleave
