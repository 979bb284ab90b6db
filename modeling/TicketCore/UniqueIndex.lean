import Mathlib.Data.List.Nodup

/-!
# A table with a unique index

Transactions insert rows into a table, and an index keeps their keys apart. The index has an entry
for every row, of open transactions too: an insertion with the key of a committed row violates it,
and an insertion with the key of a row that another open transaction has inserted waits for the end
of that transaction.

* `Table` is the table with its index; that no two entries share a key is a field of it.
* `Table.insert` is the insertion, and `insert_cases` says how it ends.
* `Table.commit` and `Table.rollback` end a transaction.
* `rows_nodup` carries the distinction of the keys over to a function of them.

Nothing here mentions a particular system.
-/

namespace UniqueIndex

variable {ι K V : Type} [DecidableEq ι]

/-- A row with its id, and the transaction that has inserted it, while that is open. -/
structure Entry (ι V : Type) where
  owner : Option ι
  id : Int
  value : V

namespace Entry

/-- The entry is committed, or one of the transaction's own. -/
def visible (t : ι) (e : Entry ι V) : Bool := e.owner.all (· = t)

/-- The entry after the commit of a transaction. -/
def commit (t : ι) (e : Entry ι V) : Entry ι V :=
  if e.owner = some t then { e with owner := none } else e

theorem commit_id {t : ι} {e : Entry ι V} : (e.commit t).id = e.id := by
  unfold commit
  split
  · rfl
  · rfl

theorem commit_value {t : ι} {e : Entry ι V} : (e.commit t).value = e.value := by
  unfold commit
  split
  · rfl
  · rfl

end Entry

/-- Ids come from a sequence, and no two entries have the same key. -/
@[ext]
structure Table (ι : Type) {K V : Type} (key : V → K) where
  entries : List (Entry ι V)
  next : Int
  id_lt_next : ∀ e ∈ entries, e.id < next
  ids_nodup : (entries.map Entry.id).Nodup
  keys_nodup : (entries.map fun e => key e.value).Nodup

namespace Table

variable {key : V → K} (s : Table ι key) (t : ι)

/-- A table without rows. -/
def empty : Table ι key :=
  ⟨[], 1, fun _ mem => (List.not_mem_nil mem).elim, List.nodup_nil, List.nodup_nil⟩

/-- The committed rows. -/
def rows : List (Int × V) := (s.entries.filter fun e => e.owner.isNone).map
    fun e => (e.id, e.value)

/-- The rows that a transaction reads: the committed ones and its own. -/
def read : List (Int × V) := (s.entries.filter (Entry.visible t)).map fun e => (e.id, e.value)

/-- The transaction ends, and its rows are there for all. -/
def commit : Table ι key where
  entries := s.entries.map (Entry.commit t)
  next := s.next
  id_lt_next e mem := by
    obtain ⟨old, stored, rfl⟩ := List.mem_map.mp mem
    rw [Entry.commit_id]
    exact s.id_lt_next old stored
  ids_nodup := by
    rw [List.map_map, show Entry.id ∘ Entry.commit t = Entry.id from funext fun _ =>
      Entry.commit_id]
    exact s.ids_nodup
  keys_nodup := by
    rw [List.map_map, show (fun e => key e.value) ∘ Entry.commit t = fun e => key e.value from
      funext fun _ => congrArg key Entry.commit_value]
    exact s.keys_nodup

/-- The transaction ends, and its rows are gone. -/
def rollback : Table ι key where
  entries := s.entries.filter fun e => e.owner ≠ some t
  next := s.next
  id_lt_next e mem := s.id_lt_next e (List.mem_filter.mp mem).1
  ids_nodup := (List.filter_sublist.map _).nodup s.ids_nodup
  keys_nodup := (List.filter_sublist.map _).nodup s.keys_nodup

/-- An id is drawn from the sequence. -/
def draw : Table ι key where
  entries := s.entries
  next := s.next + 1
  id_lt_next e mem := Int.lt_add_one_of_le (Int.le_of_lt (s.id_lt_next e mem))
  ids_nodup := s.ids_nodup
  keys_nodup := s.keys_nodup

/-- A row with a new key is added. -/
def add (value : V) (fresh : ∀ e ∈ s.entries, key e.value ≠ key value) : Table ι key where
  entries := s.entries ++ [⟨some t, s.next, value⟩]
  next := s.next + 1
  id_lt_next e mem := by
    rcases List.mem_append.mp mem with old | new
    · exact s.draw.id_lt_next e old
    · rw [List.mem_singleton.mp new]
      exact Int.lt_succ s.next
  ids_nodup := by
    rw [List.map_append, List.nodup_append]
    refine ⟨s.ids_nodup, List.nodup_singleton _, fun id mem other mem' => ?_⟩
    obtain ⟨e, old, rfl⟩ := List.mem_map.mp mem
    obtain rfl : other = s.next := List.mem_singleton.mp mem'
    exact Int.ne_of_lt (s.id_lt_next e old)
  keys_nodup := by
    rw [List.map_append, List.nodup_append]
    refine ⟨s.keys_nodup, List.nodup_singleton _, fun k mem other mem' => ?_⟩
    obtain ⟨e, old, rfl⟩ := List.mem_map.mp mem
    obtain rfl : other = key value := List.mem_singleton.mp mem'
    exact fresh e old

/-- An insertion draws an id and consults the index: it waits while another open transaction has the
key, and without an id it has violated the index. -/
def insert [DecidableEq K] (value : V) : Option (Option Int × Table ι key) :=
  match found : s.entries.find? fun e => key e.value = key value with
  | none => some (some s.next, s.add t value fun e mem =>
      of_decide_eq_false (Bool.not_eq_true _ ▸ List.find?_eq_none.mp found e mem))
  | some e => if e.visible t then some (none, s.draw) else none

variable {s t} {s' : Table ι key} {value : V} {row : Int × V}

theorem mem_read : row ∈ s.read t ↔ ∃ e ∈ s.entries, e.visible t = true ∧
  (e.id, e.value) = row := by
  unfold read
  simp only [List.mem_map, List.mem_filter, and_assoc]

/-- How an insertion ends, if it does not wait. -/
theorem insert_cases [DecidableEq K] {answer : Option Int}
    (ran : s.insert t value = some (answer, s')) :
    (∃ fresh, answer = some s.next ∧ s' = s.add t value fresh) ∨
      ((∃ row ∈ s.read t, key row.2 = key value) ∧ answer = none ∧ s' = s.draw) := by
  unfold insert at ran
  split at ran
  · cases ran
    exact .inl ⟨_, rfl, rfl⟩
  · rename_i e found
    split at ran
    · rename_i visible
      cases ran
      have same : key e.value = key value := of_decide_eq_true
        (List.find?_some (p := fun e : Entry ι V => decide (key e.value = key value)) found)
      have stored := List.mem_of_find?_eq_some found
      exact .inr ⟨⟨(e.id, e.value), mem_read.mpr ⟨e, stored, visible, rfl⟩, same⟩, rfl,
        rfl⟩
    · cases ran

/-- A property of the values that all entries have. -/
def All (s : Table ι key) (P : V → Prop) : Prop := ∀ e ∈ s.entries, P e.value

theorem All.commit {P : V → Prop} (h : s.All P) : (s.commit t).All P := by
  intro e mem
  obtain ⟨old, stored, rfl⟩ := List.mem_map.mp mem
  rw [Entry.commit_value]
  exact h old stored

theorem All.rollback {P : V → Prop} (h : s.All P) : (s.rollback t).All P :=
  fun e mem => h e (List.mem_filter.mp mem).1

omit [DecidableEq ι] in
theorem All.add {P : V → Prop} {fresh : ∀ e ∈ s.entries, key e.value ≠ key value}
    (h : s.All P) (new : P value) : (s.add t value fresh).All P := by
  intro e mem
  rcases List.mem_append.mp mem with old | added
  · exact h e old
  · rw [List.mem_singleton.mp added]
    exact new

omit [DecidableEq ι] in
/-- A function that tells the keys of the entries apart tells the committed rows apart. -/
theorem rows_nodup {L : Type} {f : K → L} (inj : ∀ e ∈ s.entries, ∀ e' ∈ s.entries,
    f (key e.value) = f (key e'.value) → key e.value = key e'.value) :
    (s.rows.map fun row => f (key row.2)).Nodup := by
  have keys : ((s.entries.map fun e => key e.value).map f).Nodup := by
    refine List.Nodup.map_on (fun k mem k' mem' same => ?_) s.keys_nodup
    obtain ⟨e, stored, rfl⟩ := List.mem_map.mp mem
    obtain ⟨e', stored', rfl⟩ := List.mem_map.mp mem'
    exact inj e stored e' stored' same
  unfold rows
  rw [List.map_map]
  rw [List.map_map] at keys
  exact (List.filter_sublist.map _).nodup keys

end Table

end UniqueIndex
