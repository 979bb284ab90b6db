import Mathlib.Algebra.BigOperators.Group.Finset.Piecewise
import Mathlib.Algebra.Order.BigOperators.Group.Finset
import Mathlib.Algebra.BigOperators.Ring.Finset

/-!
# Tallies over threads

The sum of a number over the ghost values of finitely many threads, and how it moves when one thread
moves on. Nothing here mentions a particular system.
-/

namespace Interleave

variable {ι γ : Type} [Fintype ι]

/-- The sum of `f` over all threads. -/
def tally (f : γ → Int) (ghost : ι → γ) : Int := ∑ t, f (ghost t)

/-- One thread moves on. -/
theorem tally_update [DecidableEq ι] (f : γ → Int) (ghost : ι → γ) (t : ι) (g' : γ) :
    tally f (Function.update ghost t g') = tally f ghost + (f g' - f (ghost t)) := by
  have compose : ∀ u, f (Function.update ghost t g' u) =
      Function.update (fun v => f (ghost v)) t (f g') u := fun u => by
    by_cases same : u = t
    · subst same
      rw [Function.update_self, Function.update_self]
    · rw [Function.update_of_ne same, Function.update_of_ne same]
  have rest : ∑ u, f (ghost u) = f (ghost t) + ∑ u ∈ Finset.univ \ {t}, f (ghost u) := by
    rw [← Finset.sum_singleton (fun u => f (ghost u)) t, add_comm]
    exact (Finset.sum_sdiff (Finset.subset_univ {t})).symm
  unfold tally
  rw [Finset.sum_congr rfl fun u _ => compose u, Finset.sum_update_of_mem (Finset.mem_univ t), rest]
  omega

theorem tally_const_zero {f : γ → Int} {g : γ} (zero : f g = 0) :
    tally f (fun _ : ι => g) = 0 :=
  Finset.sum_eq_zero fun _ _ => zero

theorem tally_nonneg {f : γ → Int} (nonneg : ∀ g, 0 ≤ f g) (ghost : ι → γ) :
    0 ≤ tally f ghost :=
  Finset.sum_nonneg fun t _ => nonneg (ghost t)

/-- A tally of zeros and ones counts the threads with a one. -/
theorem tally_eq_card {f : γ → Int} {ghost : ι → γ} {p : ι → Prop} [DecidablePred p]
    (counts : ∀ t, f (ghost t) = if p t then 1 else 0) :
    tally f ghost = (Finset.univ.filter p).card := by
  unfold tally
  rw [Finset.sum_congr rfl fun t _ => counts t, Finset.sum_boole]

end Interleave
