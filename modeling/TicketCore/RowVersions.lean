import TicketCore.RowStore

/-!
# Rows under several transactions

What stays true of a row of a table, whichever transactions work on it.

* `Born` is for a row that has been committed, or never will be: it is no longer a new row of an
  open transaction. `Gone` is for one that has been deleted, too.
* `Steady f` says that all versions of a row agree on `f`, and `Fixed f id a` that those of one row
  do, and on what.

Nothing here mentions a particular database.
-/

namespace RowStore

variable {ι Row A : Type} {s : RowStore ι Row} {id id' : Int}

/-- The row is not a new row of an open transaction, and will not be. -/
structure Born (s : RowStore ι Row) (id : Int) : Prop where
  issued : id ≤ s.issued
  settled : (s.held id).isSome → (s.row id).isSome

/-- There will not be such a row any more. -/
structure Gone (s : RowStore ι Row) (id : Int) : Prop where
  born : s.Born id
  absent : s.row id = none

/-- A property of the rows that are there. -/
theorem forall_row_iff {p : Row → Bool} :
    (∀ id r, s.row id = some r → p r) ↔ ∀ id ∈ serials s.issued, (s.row id).all p := by
  constructor
  · intro all id _
    cases stored : s.row id with
    | none => rfl
    | some r => exact all id r stored
  · intro within id r stored
    have known := s.row_issued id (by rw [stored]; rfl)
    have checked := within id (mem_serials.mpr known)
    rw [stored] at checked
    exact checked

/-- All versions of a row agree on `f`. -/
def Steady (s : RowStore ι Row) (f : Row → A) : Prop :=
  ∀ id r r', s.Version id r → s.Version id r' → f r = f r'

/-- All versions of the row agree on `f`, which is `a`. -/
structure Fixed (s : RowStore ι Row) (f : Row → A) (id : Int) (a : A) : Prop where
  issued : id ≤ s.issued
  agrees : ∀ r, s.Version id r → f r = a

theorem Born.of_row (some : (s.row id).isSome) : s.Born id :=
  ⟨(s.row_issued id some).2, fun _ => some⟩

theorem Gone.held (h : s.Gone id) : s.held id = none := by
  cases held : s.held id with
  | none => rfl
  | some lock =>
      have row := h.born.settled (by rw [held]; rfl)
      rw [h.absent] at row
      cases row

theorem Steady.of_quiet {f : Row → A} (quiet : s.Quiet) : s.Steady f :=
  fun id r r' here here' => by
  have stored := version_of_quiet quiet here
  rw [version_of_quiet quiet here'] at stored
  cases stored
  rfl

theorem Steady.fixed {f : Row → A} {r : Row} (h : s.Steady f) (here : s.Version id r) :
    s.Fixed f id (f r) :=
  ⟨here.issued.2, fun r' here' => h id r' r here' here⟩

variable [DecidableEq ι] {t u : ι} {version : Option Row} {r : Row} {f : Row → A} {a : A}

theorem Gone.read (h : s.Gone id) : s.read t id = none := by
  rw [read_of_not_held, h.absent]
  unfold heldBy
  rw [h.held]

/-! ## Statements of a transaction -/

omit [DecidableEq ι] in
/-- A row that is locked after a statement. -/
theorem held_hold_cases {lock : ι × Option Row} (known : 1 ≤ id ∧ id ≤ s.issued)
    (held : (s.hold t id version).held id' = some lock) :
    (id' = id ∧ lock = (t, version)) ∨ (id' ≠ id ∧ s.held id' = some lock) := by
  rw [hold_held known] at held
  by_cases same : id' = id
  · subst same
    rw [Function.update_self] at held
    cases held
    exact .inl ⟨rfl, rfl⟩
  · rw [Function.update_of_ne same] at held
    exact .inr ⟨same, held⟩

omit [DecidableEq ι] in
theorem held_insert_cases {lock : ι × Option Row} (held : (s.insert t r).held id = some lock) :
    (id = s.next ∧ lock = (t, some r)) ∨ (id ≠ s.next ∧ s.held id = some lock) := by
  rcases held_hold_cases next_known held with new | ⟨other, old⟩
  · exact .inl new
  · exact .inr ⟨other, old⟩

/-- A row that no transaction has locked is not locked. -/
theorem quiet_of_unlocked (unlocked : ∀ t id, s.heldBy t id = none) : s.Quiet := fun id => by
  cases held : s.held id with
  | none => rfl
  | some lock =>
      have mine := heldBy_eq_some.mpr (by rw [held] : s.held id = some (lock.1, lock.2))
      rw [unlocked] at mine
      cases mine

theorem read_of_held (held : s.held id = some (t, version)) : s.read t id = version :=
  read_of_heldBy (heldBy_eq_some.mpr held)

/-- A row that is read, but not committed, is a new row of the transaction. -/
theorem held_of_new (read : s.read t id = some r) (absent : s.row id = none) :
    s.held id = some (t, some r) := by
  cases mine : s.heldBy t id with
  | none =>
      rw [read_of_not_held mine, absent] at read
      cases read
  | some v =>
      rw [read_of_heldBy mine] at read
      subst read
      exact heldBy_eq_some.mp mine

/-- The other transactions read what they did. -/
theorem read_hold_other (other : u ≠ t) (free : s.Free t id) :
    (s.hold t id version).read u id' = s.read u id' := by
  unfold read
  rw [heldBy_hold_other other free, hold_row]

theorem read_insert_other (other : u ≠ t) : (s.insert t r).read u id = s.read u id := by
  unfold read
  rw [heldBy_insert_other other, insert_row]

theorem Born.hold (h : s.Born id) (read : (s.read t id').isSome) :
    (s.hold t id' version).Born id where
  issued := by
    rw [hold_issued]
    exact h.issued
  settled held := by
    rw [hold_held (read_issued read)] at held
    rw [hold_row]
    by_cases same : id = id'
    · subst same
      cases mine : s.heldBy t id with
      | none => rwa [read_of_not_held mine] at read
      | some v => exact h.settled (by rw [heldBy_eq_some.mp mine]; rfl)
    · rw [Function.update_of_ne same] at held
      exact h.settled held

omit [DecidableEq ι] in
theorem Born.skip (h : s.Born id) : s.skip.Born id :=
  ⟨h.issued.trans (by exact_mod_cast Nat.le_succ _), h.settled⟩

omit [DecidableEq ι] in
theorem Born.insert (h : s.Born id) : (s.insert t r).Born id where
  issued := by
    show id ≤ ((s.skip.hold t s.next (some r)).issued : Nat)
    rw [hold_issued]
    exact h.skip.issued
  settled held := by
    have issued := h.issued
    have other : id ≠ s.next := by
      unfold next
      omega
    rw [insert_held, Function.update_of_ne other] at held
    rw [insert_row]
    exact h.settled held

theorem Gone.hold (h : s.Gone id) (read : (s.read t id').isSome) : (s.hold t id' version).Gone id :=
  ⟨h.born.hold read, by rw [hold_row]; exact h.absent⟩

omit [DecidableEq ι] in
theorem Gone.skip (h : s.Gone id) : s.skip.Gone id :=
  ⟨h.born.skip, h.absent⟩

omit [DecidableEq ι] in
theorem Gone.insert (h : s.Gone id) : (s.insert t r).Gone id :=
  ⟨h.born.insert, by rw [insert_row]; exact h.absent⟩

theorem Steady.hold (h : s.Steady f) (read : s.read t id = some r)
    (kept : ∀ r', version = some r' → f r' = f r) : (s.hold t id version).Steady f := by
  have old : ∀ id' r', (s.hold t id version).Version id' r' → ∃ r₀, s.Version id' r₀ ∧
      f r' = f r₀ := by
    intro id' r' here
    rcases Version.of_hold here with here | ⟨rfl, new⟩
    · exact ⟨r', here, rfl⟩
    · exact ⟨r, version_of_read read, kept r' new⟩
  intro id' r₁ r₂ here here'
  obtain ⟨r₁', here, same⟩ := old id' r₁ here
  obtain ⟨r₂', here', same'⟩ := old id' r₂ here'
  rw [same, same', h id' r₁' r₂' here here']

omit [DecidableEq ι] in
theorem Steady.skip (h : s.Steady f) : s.skip.Steady f := h

omit [DecidableEq ι] in
theorem Steady.insert (h : s.Steady f) : (s.insert t r).Steady f := by
  intro id r₁ r₂ here here'
  have far : ∀ r', ¬ s.Version s.next r' := fun r' old => by
    have known := old.issued.2
    unfold next at known
    omega
  rcases Version.of_insert here with old | ⟨rfl, rfl⟩
  · rcases Version.of_insert here' with old' | ⟨rfl, _⟩
    · exact h id r₁ r₂ old old'
    · exact (far _ old).elim
  · rcases Version.of_insert here' with old' | ⟨_, rfl⟩
    · exact (far _ old').elim
    · rfl

theorem Fixed.hold (h : s.Fixed f id a) {r' : Row} (read : s.read t id' = some r')
    (kept : ∀ r'', version = some r'' → f r'' = f r') :
    (s.hold t id' version).Fixed f id a where
  issued := by
    rw [hold_issued]
    exact h.issued
  agrees r'' here := by
    rcases Version.of_hold here with here | ⟨rfl, new⟩
    · exact h.agrees r'' here
    · rw [kept r'' new]
      exact h.agrees r' (version_of_read read)

omit [DecidableEq ι] in
theorem Fixed.skip (h : s.Fixed f id a) : s.skip.Fixed f id a :=
  ⟨h.issued.trans (by exact_mod_cast Nat.le_succ _), h.agrees⟩

omit [DecidableEq ι] in
theorem Fixed.insert (h : s.Fixed f id a) : (s.insert t r).Fixed f id a where
  issued := by
    show id ≤ ((s.skip.hold t s.next (some r)).issued : Nat)
    rw [hold_issued]
    exact h.skip.issued
  agrees r' here := by
    rcases Version.of_insert here with old | ⟨rfl, _⟩
    · exact h.agrees r' old
    · have issued := h.issued
      unfold next at issued
      omega

/-! ## The end of a transaction -/

/-- A transaction that goes on reads its own versions, and else what is committed now. -/
theorem read_commit_other (other : u ≠ t) :
    (s.commit t).read u id = ((s.heldBy u id).getD (s.read t id)) := by
  unfold read
  rw [heldBy_commit_other other]
  cases s.heldBy u id with
  | none => rfl
  | some v => rfl

theorem read_rollback_other (other : u ≠ t) : (s.rollback t).read u id = s.read u id := by
  unfold read
  rw [heldBy_rollback_other other]
  rfl

/-- What is still locked was locked, by another transaction. -/
theorem held_commit {lock : ι × Option Row} (held : (s.commit t).held id = some lock) :
    s.held id = some lock ∧ lock.1 ≠ t :=
  release_eq_some.mp held

theorem held_rollback {lock : ι × Option Row} (held : (s.rollback t).held id = some lock) :
    s.held id = some lock ∧ lock.1 ≠ t :=
  release_eq_some.mp held

/-- A row that another transaction has locked is read as it is committed. -/
theorem read_of_held_other {lock : ι × Option Row} (held : s.held id = some lock)
    (other : lock.1 ≠ t) :
    s.read t id = s.row id := by
  refine read_of_not_held ?_
  cases mine : s.heldBy t id with
  | none => rfl
  | some v =>
      rw [heldBy_eq_some.mp mine] at held
      cases held
      exact (other rfl).elim

theorem Born.commit (h : s.Born id) : (s.commit t).Born id where
  issued := h.issued
  settled held := by
    obtain ⟨lock, held⟩ := Option.isSome_iff_exists.mp held
    obtain ⟨held, other⟩ := held_commit held
    rw [commit_row, read_of_held_other held other]
    exact h.settled (by rw [held]; rfl)

/-- A row that has been committed does not come back. -/
theorem Born.commit_none (h : s.Born id) (absent : s.row id = none) :
    (s.commit t).row id = none := by
  cases held : s.held id with
  | none => exact (read_of_not_held (by unfold heldBy; rw [held])).trans absent
  | some lock =>
      have there := h.settled (by rw [held]; rfl)
      rw [absent] at there
      cases there

theorem Born.rollback (h : s.Born id) : (s.rollback t).Born id where
  issued := h.issued
  settled held := by
    obtain ⟨lock, held⟩ := Option.isSome_iff_exists.mp held
    exact h.settled (by rw [(held_rollback held).1]; rfl)

theorem Gone.commit (h : s.Gone id) : (s.commit t).Gone id :=
  ⟨h.born.commit, by rw [commit_row]; exact h.read⟩

theorem Gone.rollback (h : s.Gone id) : (s.rollback t).Gone id :=
  ⟨h.born.rollback, h.absent⟩

theorem Steady.commit (h : s.Steady f) : (s.commit t).Steady f := fun id r r' here here' =>
  h id r r' here.of_commit here'.of_commit

theorem Steady.rollback (h : s.Steady f) : (s.rollback t).Steady f := fun id r r' here here' =>
  h id r r' here.of_rollback here'.of_rollback

theorem Fixed.commit (h : s.Fixed f id a) : (s.commit t).Fixed f id a :=
  ⟨h.issued, fun r here => h.agrees r here.of_commit⟩

theorem Fixed.rollback (h : s.Fixed f id a) : (s.rollback t).Fixed f id a :=
  ⟨h.issued, fun r here => h.agrees r here.of_rollback⟩

end RowStore
