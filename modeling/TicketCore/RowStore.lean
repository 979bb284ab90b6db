import Mathlib.Algebra.BigOperators.Group.Finset.Basic
import Mathlib.Algebra.Order.BigOperators.Group.Finset
import Mathlib.Logic.Function.Basic
import Mathlib.Tactic.Linarith

/-!
# A table under row locks

One table of a database that runs its transactions at READ COMMITTED. A `RowStore` keeps, for each
serial id, the latest committed row and, while a transaction has the row locked, the owner of the
lock and the owner's own version of the row (`none` for a deleted row). A row has one lock and so at
most one uncommitted version: that two transactions never write one row at a time is part of the
type. Ids come from a sequence, which is never rolled back.

* `hold`, `insert`, `commit` and `rollback` are what statements and transactions do to a table;
  `read` is a row as one transaction sees it, and after a commit the committed rows are what the
  committing transaction saw (`commit_row`).
* `Holds t m` says exactly which rows transaction `t` has locked, with the committed row and its own
  version of each; the `Holds` lemmas say how every operation moves it, for the acting transaction
  and for the others.
* `Moves t ids` is what one statement can do to a table; the `Moves` lemmas say what it leaves
  alone.
* `Version id r` says that `r` is the committed row or a transaction's uncommitted version of it;
  the `Version` lemmas say that an operation makes no other version than the one it is given.
* `total w` adds up a weight over the committed rows, and `count p` counts those that satisfy `p`;
  `total_eq_add` and `total_eq_of_update` say how they change.

Nothing here mentions a particular database.
-/

/-- A table with row locks, over transactions `ι`. -/
structure RowStore (ι Row : Type) where
  /-- The latest committed row. -/
  row : Int → Option Row
  /-- The transaction that has the row locked, and its version of the row. -/
  held : Int → Option (ι × Option Row)
  /-- How many ids the sequence has handed out. -/
  issued : Nat
  row_issued : ∀ id, (row id).isSome → 1 ≤ id ∧ id ≤ issued
  held_issued : ∀ id, (held id).isSome → 1 ≤ id ∧ id ≤ issued

namespace RowStore

/-- The ids from one to `n`. -/
def serials (n : Nat) : Finset Int :=
  (Finset.range n).map ⟨fun k : Nat => (k + 1 : Int),
    fun j k same => by dsimp only at same; omega⟩

theorem mem_serials {n : Nat} {id : Int} : id ∈ serials n ↔ 1 ≤ id ∧ id ≤ n := by
  rw [serials, Finset.mem_map]
  constructor
  · rintro ⟨k, below, rfl⟩
    have below := Finset.mem_range.mp below
    show 1 ≤ (k + 1 : Int) ∧ (k + 1 : Int) ≤ n
    omega
  · rintro ⟨positive, bounded⟩
    refine ⟨(id - 1).toNat, Finset.mem_range.mpr (by omega), ?_⟩
    show ((id - 1).toNat + 1 : Int) = id
    omega

theorem serials_subset {m n : Nat} (le : m ≤ n) : serials m ⊆ serials n := fun id mem => by
  have known := mem_serials.mp mem
  exact mem_serials.mpr ⟨known.1, by omega⟩

variable {ι Row : Type} [DecidableEq ι]

/-- The version of a row that transaction `t` has locked. -/
def heldBy (s : RowStore ι Row) (t : ι) (id : Int) : Option (Option Row) :=
  match s.held id with
  | none => none
  | some (u, version) => if u = t then some version else none

/-- No other transaction has the row locked. -/
def Free (s : RowStore ι Row) (t : ι) (id : Int) : Prop :=
  ∀ lock ∈ s.held id, lock.1 = t

instance (s : RowStore ι Row) (t : ι) (id : Int) : Decidable (s.Free t id) :=
  match h : s.held id with
  | none => isTrue fun lock mem => by rw [h] at mem; cases mem
  | some (u, version) =>
      if same : u = t then isTrue fun lock mem => by rw [h] at mem; cases mem; exact same
      else isFalse fun free => same (free (u, version) h)

/-- The row as transaction `t` sees it. -/
def read (s : RowStore ι Row) (t : ι) (id : Int) : Option Row :=
  match s.heldBy t id with
  | none => s.row id
  | some version => version

/-- Transaction `t` locks a row and sets its own version of it. -/
def hold (s : RowStore ι Row) (t : ι) (id : Int) (version : Option Row) : RowStore ι Row :=
  if known : 1 ≤ id ∧ id ≤ s.issued then
    { s with
      held := Function.update s.held id (some (t, version))
      held_issued := fun id' some => by
        by_cases same : id' = id
        · subst same; exact known
        · rw [Function.update_of_ne same] at some; exact s.held_issued id' some }
  else s

/-- The next id of the sequence. -/
def next (s : RowStore ι Row) : Int := s.issued + 1

/-- Take an id from the sequence. -/
def skip (s : RowStore ι Row) : RowStore ι Row where
  row := s.row
  held := s.held
  issued := s.issued + 1
  row_issued id some := by have := s.row_issued id some; omega
  held_issued id some := by have := s.held_issued id some; omega

/-- Transaction `t` inserts a row under the next id of the sequence. -/
def insert (s : RowStore ι Row) (t : ι) (r : Row) : RowStore ι Row :=
  s.skip.hold t s.next (some r)

/-- The locks that remain when transaction `t` ends. -/
def release (s : RowStore ι Row) (t : ι) (id : Int) : Option (ι × Option Row) :=
  match s.held id with
  | none => none
  | some (u, version) => if u = t then none else some (u, version)

omit [DecidableEq ι] in
theorem held_isSome {s : RowStore ι Row} {id : Int} {lock : ι × Option Row}
    (held : s.held id = some lock) : (s.held id).isSome := by
  rw [held]; rfl

theorem release_isSome {s : RowStore ι Row} {t : ι} {id : Int}
    (some : (s.release t id).isSome) : (s.held id).isSome := by
  unfold release at some
  split at some
  · cases some
  · rename_i held
    rw [held]; rfl

theorem read_issued {s : RowStore ι Row} {t : ι} {id : Int} (some : (s.read t id).isSome) :
    1 ≤ id ∧ id ≤ s.issued := by
  unfold read at some
  split at some
  · exact s.row_issued id some
  · rename_i version held
    unfold heldBy at held
    split at held
    · cases held
    · rename_i lock
      exact s.held_issued id (held_isSome lock)

/-- Transaction `t` commits: its versions become the committed rows. -/
def commit (s : RowStore ι Row) (t : ι) : RowStore ι Row where
  row := s.read t
  held := s.release t
  issued := s.issued
  row_issued _ some := read_issued some
  held_issued id some := s.held_issued id (release_isSome some)

/-- Transaction `t` rolls back: its versions are dropped. -/
def rollback (s : RowStore ι Row) (t : ι) : RowStore ι Row where
  row := s.row
  held := s.release t
  issued := s.issued
  row_issued := s.row_issued
  held_issued id some := s.held_issued id (release_isSome some)

/-- The ids of the committed rows that satisfy `p`, in ascending order. -/
def idsWhere (s : RowStore ι Row) (p : Row → Bool) : List Int :=
  ((List.range s.issued).map fun n : Nat => (n : Int) + 1).filter fun id => (s.row id).any p

/-- A table that holds these rows, under the ids from one on, with no row locked. -/
def ofList (rows : List Row) : RowStore ι Row where
  row id := if 1 ≤ id then rows[(id - 1).toNat]? else none
  held _ := none
  issued := rows.length
  row_issued id some := by
    split at some
    · rename_i positive
      obtain ⟨r, found⟩ := Option.isSome_iff_exists.mp some
      have bound := (List.getElem?_eq_some_iff.mp found).1
      omega
    · cases some
  held_issued _ some := by cases some

/-! ## What the operations do to rows -/

variable {s : RowStore ι Row} {t u : ι} {id id' : Int} {version : Option Row} {r : Row}

omit [DecidableEq ι] in
theorem row_none_of_not_issued (h : ¬ (1 ≤ id ∧ id ≤ s.issued)) : s.row id = none := by
  cases row : s.row id with
  | none => rfl
  | some r => exact (h (s.row_issued id (by rw [row]; rfl))).elim

omit [DecidableEq ι] in
theorem held_none_of_not_issued (h : ¬ (1 ≤ id ∧ id ≤ s.issued)) : s.held id = none := by
  cases held : s.held id with
  | none => rfl
  | some lock => exact (h (s.held_issued id (held_isSome held))).elim

omit [DecidableEq ι] in
@[simp] theorem skip_row : s.skip.row = s.row := rfl

omit [DecidableEq ι] in
@[simp] theorem skip_held : s.skip.held = s.held := rfl

@[simp] theorem commit_row : (s.commit t).row = s.read t := rfl

@[simp] theorem rollback_row : (s.rollback t).row = s.row := rfl

@[simp] theorem commit_issued : (s.commit t).issued = s.issued := rfl

@[simp] theorem rollback_issued : (s.rollback t).issued = s.issued := rfl

omit [DecidableEq ι] in
@[simp] theorem hold_row : (s.hold t id version).row = s.row := by
  unfold hold; split <;> rfl

omit [DecidableEq ι] in
@[simp] theorem hold_issued : (s.hold t id version).issued = s.issued := by
  unfold hold; split <;> rfl

omit [DecidableEq ι] in
@[simp] theorem insert_row : (s.insert t r).row = s.row := hold_row

omit [DecidableEq ι] in
theorem hold_held (known : 1 ≤ id ∧ id ≤ s.issued) :
    (s.hold t id version).held = Function.update s.held id (some (t, version)) := by
  unfold hold; rw [dif_pos known]

omit [DecidableEq ι] in
theorem next_known : 1 ≤ s.next ∧ s.next ≤ s.skip.issued := by
  unfold next skip; dsimp only; omega

omit [DecidableEq ι] in
theorem insert_held :
    (s.insert t r).held = Function.update s.held s.next (some (t, some r)) := by
  unfold insert; rw [hold_held next_known]; rfl

omit [DecidableEq ι] in
theorem row_next : s.row s.next = none :=
  row_none_of_not_issued (by unfold next; omega)

omit [DecidableEq ι] in
theorem held_next : s.held s.next = none :=
  held_none_of_not_issued (by unfold next; omega)

theorem heldBy_next : s.heldBy t s.next = none := by
  unfold heldBy
  rw [held_next]

theorem heldBy_eq_some : s.heldBy t id = some version ↔ s.held id = some (t, version) := by
  unfold heldBy
  split
  · rename_i held; simp only [held, reduceCtorEq]
  · rename_i u v held
    by_cases same : u = t
    · simp only [held, same, if_true, Option.some.injEq, Prod.mk.injEq, true_and]
    · simp only [held, same, if_false, reduceCtorEq, Option.some.injEq, Prod.mk.injEq, false_and]

/-- A row has one lock: what `t` holds, no other transaction holds. -/
theorem heldBy_none_of_ne (other : u ≠ t) (held : s.heldBy t id = some version) :
    s.heldBy u id = none := by
  have lock := heldBy_eq_some.mp held
  unfold heldBy
  simp only [lock, other.symm, if_false]

theorem heldBy_none_of_free (other : u ≠ t) (free : s.Free t id) : s.heldBy u id = none := by
  cases held : s.heldBy u id with
  | none => rfl
  | some v => exact (other (free (u, v) (heldBy_eq_some.mp held))).elim

theorem heldBy_hold_self (known : 1 ≤ id ∧ id ≤ s.issued) :
    (s.hold t id version).heldBy t id = some version := by
  rw [heldBy_eq_some, hold_held known, Function.update_self]

theorem heldBy_congr {s' : RowStore ι Row} (same : s'.held id = s.held id) :
    s'.heldBy u id = s.heldBy u id := by
  unfold heldBy; rw [same]

theorem heldBy_hold_of_ne (ne : id' ≠ id) :
    (s.hold t id version).heldBy u id' = s.heldBy u id' := by
  by_cases known : 1 ≤ id ∧ id ≤ s.issued
  · exact heldBy_congr (by rw [hold_held known, Function.update_of_ne ne])
  · unfold hold; rw [dif_neg known]

theorem heldBy_hold_other (other : u ≠ t) (free : s.Free t id) :
    (s.hold t id version).heldBy u id' = s.heldBy u id' := by
  by_cases ne : id' = id
  · subst ne
    by_cases known : 1 ≤ id' ∧ id' ≤ s.issued
    · rw [heldBy_none_of_free other free]
      exact heldBy_none_of_ne other (heldBy_hold_self known)
    · unfold hold; rw [dif_neg known]
  · exact heldBy_hold_of_ne ne

theorem heldBy_insert_other (other : u ≠ t) :
    (s.insert t r).heldBy u id = s.heldBy u id := by
  have free : s.skip.Free t s.next := fun lock mem => by
    rw [skip_held, held_next] at mem; cases mem
  exact heldBy_hold_other other free

theorem release_eq_some {lock : ι × Option Row} :
    s.release t id = some lock ↔ s.held id = some lock ∧ lock.1 ≠ t := by
  unfold release
  split
  · rename_i held; simp only [held, reduceCtorEq, false_and]
  · rename_i w v held
    by_cases same : w = t
    · simp only [same, if_true, held, reduceCtorEq, Option.some.injEq, false_iff, not_and, not_not]
      rintro rfl; rfl
    · simp only [same, if_false, held, Option.some.injEq, iff_self_and]
      rintro rfl; exact same

theorem heldBy_commit_self : (s.commit t).heldBy t id = none := by
  cases held : (s.commit t).heldBy t id with
  | none => rfl
  | some v => exact ((release_eq_some.mp (heldBy_eq_some.mp held)).2 rfl).elim

/-- The end of a transaction frees what it has locked. -/
theorem release_of_heldBy (held : s.heldBy t id = some version) : s.release t id = none := by
  cases lock : s.release t id with
  | none => rfl
  | some lock' =>
      obtain ⟨lock, other⟩ := release_eq_some.mp lock
      rw [heldBy_eq_some.mp held] at lock
      cases lock
      exact (other rfl).elim

theorem heldBy_commit_other (other : u ≠ t) : (s.commit t).heldBy u id = s.heldBy u id := by
  ext v
  rw [heldBy_eq_some, heldBy_eq_some]
  exact release_eq_some.trans (and_iff_left other)

theorem heldBy_rollback_self : (s.rollback t).heldBy t id = none :=
  heldBy_commit_self

theorem heldBy_rollback_other (other : u ≠ t) :
    (s.rollback t).heldBy u id = s.heldBy u id :=
  heldBy_commit_other other

theorem read_of_heldBy (held : s.heldBy t id = some version) : s.read t id = version := by
  unfold read; rw [held]

theorem read_of_not_held (held : s.heldBy t id = none) : s.read t id = s.row id := by
  unfold read; rw [held]

theorem read_hold (known : 1 ≤ id ∧ id ≤ s.issued) :
    (s.hold t id version).read t = Function.update (s.read t) id version := by
  funext id'
  by_cases ne : id' = id
  · subst ne
    rw [read_of_heldBy (heldBy_hold_self known), Function.update_self]
  · rw [Function.update_of_ne ne]
    unfold read
    rw [heldBy_hold_of_ne ne, hold_row]

theorem read_insert : (s.insert t r).read t = Function.update (s.read t) s.next (some r) := by
  unfold insert; rw [read_hold next_known]; rfl

/-! ## Exactly what a transaction holds -/

/-- For each row a transaction has locked: the committed row and the transaction's version. -/
abbrev Locks (Row : Type) : Type := Int → Option (Option Row × Option Row)

/-- The locks of a transaction that has touched nothing. -/
def Locks.none : Locks Row := fun _ => Option.none

/-- The locks after one more row is locked. -/
def Locks.add (m : Locks Row) (id : Int) (base version : Option Row) : Locks Row :=
  Function.update m id (some (base, version))

/-- Transaction `t` holds exactly the rows of `m`, and they are unchanged since. -/
structure Holds (s : RowStore ι Row) (t : ι) (m : Locks Row) : Prop where
  version : ∀ id, s.heldBy t id = (m id).map Prod.snd
  base : ∀ id lock, m id = some lock → s.row id = lock.1

variable {m : Locks Row}

@[simp] theorem Locks.add_self {base : Option Row} :
    m.add id base version id = some (base, version) :=
  Function.update_self ..

theorem Locks.add_of_ne {base : Option Row} (ne : id' ≠ id) :
    m.add id base version id' = m id' :=
  Function.update_of_ne ne ..

theorem Holds.row_of_lock {base : Option Row} (h : s.Holds t m)
    (lock : m id = some (base, version)) : s.row id = base :=
  h.base id _ lock

theorem Holds.heldBy_of_lock {base : Option Row} (h : s.Holds t m)
    (lock : m id = some (base, version)) : s.heldBy t id = some version := by
  rw [h.version, lock]; rfl

theorem Holds.read_of_lock {base : Option Row} (h : s.Holds t m)
    (lock : m id = some (base, version)) : s.read t id = version :=
  read_of_heldBy (h.heldBy_of_lock lock)

theorem Holds.read_of_none (h : s.Holds t m) (lock : m id = none) : s.read t id = s.row id :=
  read_of_not_held (by rw [h.version, lock]; rfl)

/-- No transaction has a row locked. -/
def Quiet (s : RowStore ι Row) : Prop := ∀ id, s.held id = none

omit [DecidableEq ι] in
theorem quiet_iff : s.Quiet ↔ ∀ id ∈ serials s.issued, (s.held id).isNone := by
  constructor
  · intro quiet id _
    rw [quiet id]; rfl
  · intro within id
    by_cases known : 1 ≤ id ∧ id ≤ s.issued
    · exact Option.isNone_iff_eq_none.mp (within id (mem_serials.mpr known))
    · exact held_none_of_not_issued known

instance (s : RowStore ι Row) : Decidable s.Quiet := decidable_of_iff _ quiet_iff.symm

theorem heldBy_of_quiet (quiet : s.Quiet) : s.heldBy t id = none := by
  unfold heldBy
  rw [quiet id]

theorem Holds.of_quiet (quiet : s.Quiet) : s.Holds t Locks.none where
  version _ := heldBy_of_quiet quiet
  base _ _ mem := by cases mem

/-- Two transactions never hold one row. -/
theorem Holds.disjoint {m' : Locks Row} (h : s.Holds t m) (h' : s.Holds u m') (other : u ≠ t)
    {lock : Option Row × Option Row} (mine : m id = some lock) : m' id = none := by
  have held : s.heldBy t id = some lock.2 := by rw [h.version, mine]; rfl
  have none := heldBy_none_of_ne other held
  rw [h'.version] at none
  exact Option.map_eq_none_iff.mp none

theorem Holds.hold_self (h : s.Holds t m) (known : 1 ≤ id ∧ id ≤ s.issued) :
    (s.hold t id version).Holds t (m.add id (s.row id) version) where
  version id' := by
    by_cases ne : id' = id
    · subst ne
      rw [heldBy_hold_self known, Locks.add_self]; rfl
    · rw [heldBy_hold_of_ne ne, Locks.add_of_ne ne, h.version]
  base id' lock mem := by
    rw [hold_row]
    by_cases ne : id' = id
    · subst ne
      rw [Locks.add_self] at mem
      cases mem; rfl
    · rw [Locks.add_of_ne ne] at mem
      exact h.base id' lock mem

theorem Holds.hold_other (h : s.Holds u m) (other : u ≠ t) (free : s.Free t id) :
    (s.hold t id version).Holds u m where
  version id' := by rw [heldBy_hold_other other free, h.version]
  base id' lock mem := by rw [hold_row]; exact h.base id' lock mem

theorem Holds.skip (h : s.Holds u m) : s.skip.Holds u m :=
  ⟨h.version, h.base⟩

theorem Holds.insert_self (h : s.Holds t m) :
    (s.insert t r).Holds t (m.add s.next Option.none (some r)) := by
  have held : (s.insert t r).Holds t (m.add s.next (s.skip.row s.next) (some r)) :=
    h.skip.hold_self next_known
  rwa [skip_row, row_next] at held

theorem Holds.insert_other (h : s.Holds u m) (other : u ≠ t) : (s.insert t r).Holds u m :=
  h.skip.hold_other other fun lock mem => by rw [skip_held, held_next] at mem; cases mem

theorem Holds.commit_self : (s.commit t).Holds t Locks.none where
  version _ := heldBy_commit_self
  base _ _ mem := by cases mem

theorem Holds.rollback_self : (s.rollback t).Holds t Locks.none where
  version _ := heldBy_rollback_self
  base _ _ mem := by cases mem

theorem Holds.commit_other (h : s.Holds u m) (other : u ≠ t) : (s.commit t).Holds u m where
  version id := by rw [heldBy_commit_other other, h.version]
  base id lock mem := by
    have held : s.heldBy u id = some lock.2 := by rw [h.version, mem]; rfl
    rw [commit_row, read_of_not_held (heldBy_none_of_ne other.symm held)]
    exact h.base id lock mem

theorem Holds.rollback_other (h : s.Holds u m) (other : u ≠ t) : (s.rollback t).Holds u m where
  version id := by rw [heldBy_rollback_other other, h.version]
  base := h.base

/-- The rows after the locked ones have become the transaction's versions. -/
def Locks.apply (m : Locks Row) (row : Int → Option Row) (id : Int) : Option Row :=
  (m id).elim (row id) Prod.snd

theorem Locks.apply_none (row : Int → Option Row) :
    (Locks.none : Locks Row).apply row = row := rfl

theorem Locks.apply_add (row : Int → Option Row) {base : Option Row} :
    (m.add id base version).apply row = Function.update (m.apply row) id version := by
  funext id'
  by_cases ne : id' = id
  · subst ne
    rw [Function.update_self]
    unfold Locks.apply
    rw [Locks.add_self]
    rfl
  · rw [Function.update_of_ne ne]
    unfold Locks.apply
    rw [Locks.add_of_ne ne]

theorem Locks.add_add {base base' version' : Option Row} :
    (m.add id base version).add id base' version' = m.add id base' version' :=
  Function.update_idem ..

/-- The rows a commit of `t` leaves, read off its locks. -/
theorem Holds.commit_row (h : s.Holds t m) : (s.commit t).row = m.apply s.row := by
  funext id
  show s.read t id = _
  unfold Locks.apply
  cases lock : m id with
  | none => exact h.read_of_none lock
  | some lock' => exact h.read_of_lock lock

/-- A statement of `t` that changed nothing but `t`'s own locks, from `m` to `m'`. -/
structure Locked (s s' : RowStore ι Row) (t : ι) (m m' : Locks Row) : Prop where
  self : s'.Holds t m'
  other : ∀ u, u ≠ t → ∀ n, s.Holds u n → s'.Holds u n
  row : s'.row = s.row

theorem Locked.refl (h : s.Holds t m) : Locked s s t m m :=
  ⟨h, fun _ _ _ held => held, rfl⟩

theorem Locked.skip (h : s.Holds t m) : Locked s s.skip t m m :=
  ⟨h.skip, fun _ _ _ held => held.skip, rfl⟩

theorem Locked.hold (version : Option Row) (h : s.Holds t m) (read : (s.read t id).isSome)
    (free : s.Free t id) :
    Locked s (s.hold t id version) t m (m.add id (s.row id) version) :=
  ⟨h.hold_self (read_issued read), fun _ other _ held => held.hold_other other free, hold_row⟩

theorem Locked.insert (h : s.Holds t m) :
    Locked s (s.insert t r) t m (m.add s.next Option.none (some r)) :=
  ⟨h.insert_self, fun _ other _ held => held.insert_other other, insert_row⟩

/-! ## What one statement can do -/

/-- What a statement of transaction `t` that may lock the rows of `ids`, and takes an id from the
sequence if `grows` holds, can do to a table. -/
inductive Moves (t : ι) (ids : Int → Prop) (grows : Prop) (s : RowStore ι Row) :
    RowStore ι Row → Prop
  | refl : Moves t ids grows s s
  | skip : grows → Moves t ids grows s s.skip
  | insert (r : Row) : grows → Moves t ids grows s (s.insert t r)
  | hold {id : Int} (version : Option Row) :
      ids id → (s.read t id).isSome → s.Free t id → Moves t ids grows s (s.hold t id version)

section Moves

variable {ids : Int → Prop} {grows : Prop} {s' : RowStore ι Row}

theorem Moves.row (h : s.Moves t ids grows s') : s'.row = s.row := by
  cases h with
  | refl => rfl
  | skip _ => rfl
  | insert r _ => exact insert_row
  | hold version _ _ _ => exact hold_row

theorem Moves.issued (h : s.Moves t ids grows s') : s.issued ≤ s'.issued := by
  cases h with
  | refl => exact le_rfl
  | skip _ => exact Nat.le_succ _
  | insert r _ =>
      show s.issued ≤ (s.skip.hold t s.next (some r)).issued
      rw [hold_issued]
      exact Nat.le_succ _
  | hold version _ _ _ => rw [hold_issued]

/-- A statement that locks no row and takes no id leaves the table alone. -/
theorem Moves.still (h : s.Moves t ids grows s') (locks : ∀ id, ¬ ids id) (fixed : ¬ grows) :
    s' = s := by
  cases h with
  | refl => rfl
  | skip new | insert _ new => exact (fixed new).elim
  | hold _ locked => exact (locks _ locked).elim

theorem Moves.idle (h : s.Moves t (fun _ => False) False s') : s' = s :=
  h.still (fun _ => not_false) not_false

/-- The other transactions keep their versions. -/
theorem Moves.heldBy_other (h : s.Moves t ids grows s') (other : u ≠ t) :
    s'.heldBy u id = s.heldBy u id := by
  cases h with
  | refl => rfl
  | skip _ => rfl
  | insert r _ => exact heldBy_insert_other other
  | hold version _ _ free => exact heldBy_hold_other other free

/-- A row that the statement does not lock, of an id that it does not hand out. -/
theorem Moves.held_of_apart (h : s.Moves t ids grows s') (apart : ¬ ids id)
    (known : id ≤ s.issued ∨ ¬ grows) : s'.held id = s.held id := by
  cases h with
  | refl => rfl
  | skip _ => rfl
  | insert r new =>
      have bound : id ≤ s.issued := known.resolve_right fun not => not new
      have next : id ≠ s.next := by
        unfold next
        omega
      rw [insert_held, Function.update_of_ne next]
  | @hold id' version locks read _ =>
      have other : id ≠ id' := fun same => apart (same ▸ locks)
      rw [hold_held (read_issued read), Function.update_of_ne other]

end Moves

/-! ## Versions of a row -/

/-- The row as it is committed, or as some transaction has it. -/
def Version (s : RowStore ι Row) (id : Int) (r : Row) : Prop :=
  s.row id = some r ∨ ∃ u, s.held id = some (u, some r)

omit [DecidableEq ι] in
theorem version_of_quiet (quiet : s.Quiet) (h : s.Version id r) : s.row id = some r := by
  rcases h with row | ⟨u, held⟩
  · exact row
  · rw [quiet id] at held
    cases held

omit [DecidableEq ι] in
theorem Version.issued (h : s.Version id r) : 1 ≤ id ∧ id ≤ s.issued := by
  rcases h with row | ⟨u, held⟩
  · exact s.row_issued id (by rw [row]; rfl)
  · exact s.held_issued id (held_isSome held)

theorem version_of_read (read : s.read t id = some r) : s.Version id r := by
  cases held : s.heldBy t id with
  | none => exact .inl (by rw [← read, read_of_not_held held])
  | some v =>
      rw [read_of_heldBy held] at read
      subst read
      exact .inr ⟨t, heldBy_eq_some.mp held⟩

omit [DecidableEq ι] in
theorem Version.of_hold (h : (s.hold t id version).Version id' r) :
    s.Version id' r ∨ (id' = id ∧ version = some r) := by
  rcases h with row | ⟨u, held⟩
  · rw [hold_row] at row
    exact .inl (.inl row)
  · by_cases known : 1 ≤ id ∧ id ≤ s.issued
    · rw [hold_held known] at held
      by_cases same : id' = id
      · subst same
        rw [Function.update_self] at held
        cases held
        exact .inr ⟨rfl, rfl⟩
      · rw [Function.update_of_ne same] at held
        exact .inl (.inr ⟨u, held⟩)
    · unfold hold at held
      rw [dif_neg known] at held
      exact .inl (.inr ⟨u, held⟩)

omit [DecidableEq ι] in
theorem Version.of_insert {new : Row} (h : (s.insert t new).Version id r) :
    s.Version id r ∨ (id = s.next ∧ r = new) := by
  rcases Version.of_hold h with old | ⟨same, new⟩
  · exact .inl old
  · cases new
    exact .inr ⟨same, rfl⟩

omit [DecidableEq ι] in
theorem version_insert : (s.insert t r).Version s.next r :=
  .inr ⟨t, by rw [insert_held, Function.update_self]⟩

theorem Version.of_rollback (h : (s.rollback t).Version id r) : s.Version id r := by
  rcases h with row | ⟨u, held⟩
  · exact .inl row
  · exact .inr ⟨u, (release_eq_some.mp held).1⟩

theorem Version.of_commit (h : (s.commit t).Version id r) : s.Version id r := by
  rcases h with row | ⟨u, held⟩
  · exact version_of_read row
  · exact .inr ⟨u, (release_eq_some.mp held).1⟩

/-! ## Totals over the committed rows -/

/-- What a weight contributes for one id. -/
def weigh (w : Row → Int) (r : Option Row) : Int := r.elim 0 w

/-- The sum of a weight over the committed rows. -/
def total (s : RowStore ι Row) (w : Row → Int) : Int :=
  ∑ id ∈ serials s.issued, weigh w (s.row id)

/-- One for a row that satisfies `p`. -/
def indicator (p : Row → Prop) [DecidablePred p] (r : Row) : Int := if p r then 1 else 0

/-- The number of committed rows that satisfy `p`. -/
def count (s : RowStore ι Row) (p : Row → Prop) [DecidablePred p] : Int := s.total (indicator p)

variable {s' : RowStore ι Row} {w : Row → Int}

omit [DecidableEq ι] in
@[simp] theorem weigh_none : weigh w none = 0 := rfl

omit [DecidableEq ι] in
@[simp] theorem weigh_some : weigh w (some r) = w r := rfl

omit [DecidableEq ι] in
/-- Ids that were never issued add nothing. -/
theorem total_eq_sum {n : Nat} (le : s.issued ≤ n) :
    s.total w = ∑ id ∈ serials n, weigh w (s.row id) := by
  refine Finset.sum_subset (serials_subset le) ?_
  intro id _ out
  rw [row_none_of_not_issued (by simpa only [mem_serials] using out), weigh_none]

omit [DecidableEq ι] in
/-- The total after the rows of `changed` have changed, and no others. -/
theorem total_eq_add (changed : Finset Int) (agree : ∀ id ∉ changed, s'.row id = s.row id) :
    s'.total w = s.total w + ∑ id ∈ changed, (weigh w (s'.row id) - weigh w (s.row id)) := by
  rw [total_eq_sum (le_max_left s'.issued s.issued), total_eq_sum (le_max_right s'.issued s.issued),
    ← sub_eq_iff_eq_add', ← Finset.sum_sub_distrib]
  have inside : ∑ id ∈ serials (max s'.issued s.issued),
      (weigh w (s'.row id) - weigh w (s.row id)) =
      ∑ id ∈ changed ∩ serials (max s'.issued s.issued),
        (weigh w (s'.row id) - weigh w (s.row id)) := by
    refine (Finset.sum_subset Finset.inter_subset_right ?_).symm
    intro id mem out
    rw [agree id fun in' => out (Finset.mem_inter.mpr ⟨in', mem⟩), sub_self]
  rw [inside]
  refine Finset.sum_subset Finset.inter_subset_left ?_
  intro id mem out
  have far : ¬ (1 ≤ id ∧ id ≤ (max s'.issued s.issued : Nat)) := fun near =>
    out (Finset.mem_inter.mpr ⟨mem, mem_serials.mpr near⟩)
  rw [row_none_of_not_issued (s := s') (by omega), row_none_of_not_issued (s := s) (by omega),
    sub_self]

omit [DecidableEq ι] in
theorem total_congr (agree : ∀ id, s'.row id = s.row id) : s'.total w = s.total w := by
  rw [total_eq_add ∅ fun id _ => agree id, Finset.sum_empty, add_zero]

omit [DecidableEq ι] in
/-- The total after one row has changed. -/
theorem total_eq_of_update (rows : s'.row = Function.update s.row id version) :
    s'.total w = s.total w + (weigh w version - weigh w (s.row id)) := by
  have changed : s'.row id = version := by rw [rows, Function.update_self]
  have sum : s'.total w = s.total w + ∑ x ∈ {id}, (weigh w (s'.row x) - weigh w (s.row x)) :=
    total_eq_add {id} fun id' out => by
    rw [rows, Function.update_of_ne (by simpa only [Finset.mem_singleton] using out)]
  rwa [Finset.sum_singleton, changed] at sum

omit [DecidableEq ι] in
/-- The total falls when no row weighs more and one row weighs less. -/
theorem total_lt (le : ∀ x, weigh w (s'.row x) ≤ weigh w (s.row x))
    (lt : weigh w (s'.row id) < weigh w (s.row id)) : s'.total w < s.total w := by
  rw [total_eq_sum (le_max_left s'.issued s.issued), total_eq_sum (le_max_right s'.issued s.issued)]
  refine Finset.sum_lt_sum (fun x _ => le x) ⟨id, mem_serials.mpr ?_, lt⟩
  by_contra far
  have absent : s.row id = none := row_none_of_not_issued (by omega)
  have absent' : s'.row id = none := row_none_of_not_issued (by omega)
  rw [absent, absent'] at lt
  exact lt_irrefl _ lt

omit [DecidableEq ι] in
/-- A non-negative weight sums to at least what any set of rows contributes. -/
theorem sum_le_total (nonneg : ∀ r, 0 ≤ w r) (ids : Finset Int) :
    ∑ id ∈ ids, weigh w (s.row id) ≤ s.total w := by
  have weigh_nonneg : ∀ id, 0 ≤ weigh w (s.row id) := fun id => by
    cases s.row id with
    | none => exact le_rfl
    | some r => exact nonneg r
  have inside : ∑ id ∈ ids ∩ serials s.issued, weigh w (s.row id) =
      ∑ id ∈ ids, weigh w (s.row id) := by
    refine Finset.sum_subset Finset.inter_subset_left ?_
    intro id mem out
    rw [row_none_of_not_issued fun near =>
      out (Finset.mem_inter.mpr ⟨mem, mem_serials.mpr near⟩), weigh_none]
  rw [← inside]
  exact Finset.sum_le_sum_of_subset_of_nonneg Finset.inter_subset_right
    fun id _ _ => weigh_nonneg id

end RowStore
