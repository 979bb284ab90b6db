import Mathlib.Data.List.Nodup
import Mathlib.Data.List.Perm.Subperm

/-!
# Pages of a list

A list that is read page by page, where each page is cut from the list in an order of its own.

* `window xs size k` is page `k` of `xs`, and `walk orders size pages` puts the pages one after
  another.
* `walk_same`: in one order the pages make up the list.
* `walk_perm_iff`: they do so in several orders exactly when no element stands in two pages.
* `exists_clash`: some orders lose an element as soon as there are two pages.

Nothing here mentions a particular list.
-/

namespace Paging

variable {A : Type}

/-- Page `k` of `size` elements. -/
def window (xs : List A) (size k : Nat) : List A := (xs.drop (k * size)).take size

/-- The first `pages` pages, page `k` in the order `orders k`. -/
def walk (orders : Nat → List A) (size pages : Nat) : List A :=
  (List.range pages).flatMap fun k => window (orders k) size k

theorem window_sublist (xs : List A) (size k : Nat) : (window xs size k).Sublist xs :=
  (List.take_sublist ..).trans (List.drop_sublist ..)

theorem length_window (xs : List A) (size k : Nat) :
    (window xs size k).length = min size (xs.length - k * size) := by
  unfold window
  rw [List.length_take, List.length_drop]

theorem walk_succ (orders : Nat → List A) (size pages : Nat) :
    walk orders size (pages + 1) = walk orders size pages ++ window (orders pages) size pages := by
  unfold walk
  rw [List.range_succ, List.flatMap_append, List.flatMap_singleton]

theorem mem_walk {orders : Nat → List A} {size pages : Nat} {a : A} :
    a ∈ walk orders size pages ↔ ∃ k < pages, a ∈ window (orders k) size k := by
  unfold walk
  rw [List.mem_flatMap]
  refine exists_congr fun k => and_congr_left fun _ => ?_
  exact List.mem_range

/-- In one order the pages make up a beginning of the list. -/
theorem walk_take (xs : List A) (size pages : Nat) :
    walk (fun _ => xs) size pages = xs.take (pages * size) := by
  induction pages with
  | zero => rw [Nat.zero_mul, List.take_zero]; rfl
  | succ pages ih => rw [walk_succ, ih, window, ← List.take_add, Nat.succ_mul]

/-- In one order enough pages make up the list. -/
theorem walk_same {xs : List A} {size pages : Nat} (enough : xs.length ≤ pages * size) :
    walk (fun _ => xs) size pages = xs := by
  rw [walk_take, List.take_of_length_le enough]

/-- How much the pages hold together does not depend on the orders. -/
theorem length_walk {orders : Nat → List A} {xs : List A} (size pages : Nat)
    (lengths : ∀ k, (orders k).length = xs.length) :
    (walk orders size pages).length = (walk (fun _ => xs) size pages).length := by
  induction pages with
  | zero => rfl
  | succ pages ih =>
      rw [walk_succ, walk_succ, List.length_append, List.length_append, ih, length_window,
        length_window,
        lengths]

section Orders

variable {orders : Nat → List A} {xs : List A} {size pages : Nat}

/-- The pages are a permutation of the list exactly when no element comes twice. -/
theorem walk_perm_iff_nodup (perms : ∀ k, (orders k).Perm xs) (nodup : xs.Nodup)
    (enough : xs.length ≤ pages * size) :
    (walk orders size pages).Perm xs ↔ (walk orders size pages).Nodup := by
  constructor
  · intro perm
    exact perm.nodup_iff.mpr nodup
  · intro once
    have subset : walk orders size pages ⊆ xs := by
      intro a mem
      obtain ⟨k, _, inPage⟩ := mem_walk.mp mem
      exact (perms k).subset ((window_sublist ..).subset inPage)
    have lengths : (walk orders size pages).length = xs.length := by
      rw [length_walk size pages fun k => (perms k).length_eq, walk_same enough]
    exact (List.subperm_of_subset once subset).perm_of_length_le (Nat.le_of_eq lengths.symm)

/-- **The pages make up the list exactly when no element stands in two of them.** -/
theorem walk_perm_iff (perms : ∀ k, (orders k).Perm xs) (nodup : xs.Nodup)
    (enough : xs.length ≤ pages * size) :
    (walk orders size pages).Perm xs ↔
      ∀ j k, j < k → k < pages →
        (window (orders j) size j).Disjoint (window (orders k) size k) := by
  rw [walk_perm_iff_nodup perms nodup enough]
  unfold walk
  rw [List.nodup_flatMap]
  have each : ∀ k ∈ List.range pages, (window (orders k) size k).Nodup := fun k _ =>
    (window_sublist ..).nodup ((perms k).nodup_iff.mpr nodup)
  rw [and_iff_right each]
  constructor
  · intro apart j k less inside
    have place := List.pairwise_iff_getElem.mp apart j k
      (by rw [List.length_range]; omega) (by rw [List.length_range]; omega) less
    rw [List.getElem_range, List.getElem_range] at place
    exact place
  · intro apart
    refine List.pairwise_iff_getElem.mpr fun j k _ inside less => ?_
    rw [List.getElem_range, List.getElem_range]
    rw [List.length_range] at inside
    exact apart j k less inside

end Orders

/-- Two orders of a list that does not fit into one page: the first element moves to the second
page. -/
theorem exists_clash {xs : List A} {size : Nat} (pos : 0 < size) (long : size < xs.length) :
    ∃ order, order.Perm xs ∧ ¬(window xs size 0).Disjoint (window order size 1) := by
  cases xs with
  | nil => cases long
  | cons a rest =>
      have room : (rest.take size).length = size := by
        rw [List.length_take]
        exact Nat.min_eq_left (Nat.le_of_lt_succ long)
      refine ⟨rest.take size ++ a :: rest.drop size, ?_, ?_⟩
      · refine List.perm_middle.trans ?_
        rw [List.take_append_drop]
      · intro apart
        refine apart (a := a) ?_ ?_
        · unfold window
          rw [Nat.zero_mul, List.drop_zero]
          cases size with
          | zero => cases pos
          | succ size => exact List.mem_cons_self ..
        · unfold window
          rw [Nat.one_mul, List.drop_append_of_le_length (Nat.le_of_eq room.symm),
            List.drop_of_length_le (Nat.le_of_eq room),
            List.nil_append]
          cases size with
          | zero => cases pos
          | succ size => exact List.mem_cons_self ..

end Paging
