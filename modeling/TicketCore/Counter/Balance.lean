import TicketCore.Counter.Draft
import TicketCore.Interleave.Tally

/-!
# The counter in balance

The inventory counter of a ticket type, next to its row and to the drafts of the calls in progress:
what the counter shows and what the calls have taken from it make up what the row has left.

* A `Gauge` is the counter that is watched, with the one thread, if there is one, that may change
  the type's quantity, and the quantity before the change. Between the commit of the new quantity
  and its `SET` the counter still goes by the old one.
* `Gauge.Lands` is what is asked of a `SET` of the counter: it finds no counter, or one that it does
  not put out of balance.
* `Gauge.Inv` is the invariant, and `Gauge.governs` says that every step of the protocol keeps it.
-/

namespace TicketCore.Counter

open Interleave RowStore

/-- The counter of a ticket type. -/
structure Gauge (ι : Type) where
  deployment : Deployment
  ticketTypeId : Int
  /-- The thread that changes the quantity, and the quantity before. -/
  revision : Option (ι × Int)

namespace Gauge

variable {ι : Type} [Fintype ι] [DecidableEq ι] (a : Gauge ι)

/-- What the counter shows. -/
def counter (w : World ι) : Option Int :=
  (w.redis a.deployment.apiRedis).inventory a.ticketTypeId

/-- The quantity that the counter goes by. -/
def basis (ghost : ι → Draft) (row : TicketType) : Int :=
  match a.revision with
  | none => row.ticketsQuantity
  | some (u, before) => (ghost u).goesBy row.ticketsQuantity before

/-- What a counter that shows `k` is to be set to, to go by the quantity of the row. -/
def due (row : TicketType) (k : Int) : Int :=
  match a.revision with
  | none => k
  | some (_, before) => k + (row.ticketsQuantity - before)

/-- A `SET` of the counter finds none, or one that shows the same but for a change of the
quantity. -/
def Lands (e : CallEvent ι) : Prop :=
  ∀ value, e.cmd = .redis a.deployment.apiRedis (.setInventory a.ticketTypeId value) →
    ∀ k row, a.counter e.before = some k →
      e.before.db.ticketTypes.row a.ticketTypeId = some row → value = a.due row k

end Gauge

/-- A booking that reads its ticket again finds it. -/
def Rereads {ι : Type} [DecidableEq ι] (e : CallEvent ι) : Prop :=
  ∀ id, e.cmd = .db (.refreshTicket id) → (e.before.db.tickets.read e.thread id).isSome

/-- What a call has locked of the type's row is what it has drafted. -/
structure Own {ι : Type} [DecidableEq ι] (s : RowStore ι TicketType)
    (ticketTypeId : Int) (t : ι) (g : Draft) : Prop where
  free : s.heldBy t ticketTypeId = none → g.counted = 0 ∧ ¬ g.Flushed
  held : ∀ version, s.heldBy t ticketTypeId = some version → ∃ row row',
    s.row ticketTypeId = some row ∧ version = some row' ∧
      row'.ticketsSold = row.ticketsSold + g.counted ∧
      (¬ g.Flushed → row'.ticketsQuantity = row.ticketsQuantity)

namespace Own

variable {ι : Type} [DecidableEq ι] {s s' : RowStore ι TicketType}
  {ticketTypeId : Int} {t u : ι} {g g' : Draft}

/-- The row as the call reads it. -/
theorem read (h : Own s ticketTypeId t g) {row : TicketType}
    (stored : s.row ticketTypeId = some row) :
    ∃ row', s.read t ticketTypeId = some row' ∧
      row'.ticketsSold = row.ticketsSold + g.counted ∧
      (¬ g.Flushed → row'.ticketsQuantity = row.ticketsQuantity) := by
  cases held : s.heldBy t ticketTypeId with
  | none =>
      obtain ⟨counted, _⟩ := h.free held
      refine ⟨row, by rw [read_of_not_held held, stored], by rw [counted, add_zero],
        fun _ => rfl⟩
  | some version =>
      obtain ⟨row₁, row', stored', rfl, sold, quantity⟩ := h.held version held
      rw [stored] at stored'
      cases stored'
      exact ⟨row', read_of_heldBy held, sold, quantity⟩

theorem congr (h : Own s ticketTypeId t g)
    (held : s'.heldBy t ticketTypeId = s.heldBy t ticketTypeId)
    (row : s'.row ticketTypeId = s.row ticketTypeId) (counted : g'.counted = g.counted)
    (flushed : g'.Flushed ↔ g.Flushed) : Own s' ticketTypeId t g' where
  free none := by
    rw [held] at none
    rw [counted, flushed]
    exact h.free none
  held version mine := by
    rw [held] at mine
    rw [row, counted, flushed]
    exact h.held version mine

/-- Without a lock there is nothing to draft. -/
theorem of_free (none : s.heldBy t ticketTypeId = none) (counted : g.counted = 0)
    (flushed : ¬ g.Flushed) : Own s ticketTypeId t g where
  free _ := ⟨counted, flushed⟩
  held version mine := by
    rw [none] at mine
    cases mine

/-- Another transaction ends. -/
theorem commit_other (h : Own s ticketTypeId u g) (other : u ≠ t) :
    Own (s.commit t) ticketTypeId u g where
  free none := h.free (by rwa [heldBy_commit_other other] at none)
  held version mine := by
    rw [heldBy_commit_other other] at mine
    rw [commit_row, read_of_not_held (heldBy_none_of_ne other.symm mine)]
    exact h.held version mine

theorem rollback_other (h : Own s ticketTypeId u g) (other : u ≠ t) :
    Own (s.rollback t) ticketTypeId u g :=
  h.congr (heldBy_rollback_other other) rfl rfl Iff.rfl

end Own

/-- Two tables that agree on one row and its lock. -/
structure SameRow {ι : Type} (s s' : RowStore ι TicketType) (ticketTypeId : Int) : Prop where
  row : s'.row ticketTypeId = s.row ticketTypeId
  held : s'.held ticketTypeId = s.held ticketTypeId

theorem SameRow.refl {ι : Type} {s : RowStore ι TicketType} {ticketTypeId : Int} :
    SameRow s s ticketTypeId :=
  ⟨rfl, rfl⟩

namespace Gauge

variable {ι : Type} [Fintype ι] [DecidableEq ι] {a : Gauge ι}

/-- Without a counter, a call that has found none is about to set it to what the row has left. -/
def Waits (row : TicketType) : Draft → Prop
  | .ticket 0 0 .fresh | .ticket 0 0 .missed => True
  | .ticket 0 0 (Plan.read found) => left found = left row
  | _ => False

variable (a) in
/-- The counter is in balance. -/
structure Balanced (w : World ι) (ghost : ι → Draft) (row : TicketType) : Prop where
  shows : ∀ k, a.counter w = some k →
    k + tally Draft.taken ghost = a.basis ghost row - row.ticketsSold
  missing : a.counter w = none → a.revision = none ∧ ∀ t, Waits row (ghost t)

variable (a) in
/-- The invariant of the counter. -/
structure Inv (w : World ι) (ghost : ι → Draft) : Prop where
  stored : ∃ row, w.db.ticketTypes.row a.ticketTypeId = some row ∧ a.Balanced w ghost row ∧
    ∀ u before, a.revision = some (u, before) → (ghost u).Early → row.ticketsQuantity = before
  own : ∀ t, Own w.db.ticketTypes a.ticketTypeId t (ghost t)
  changes : ∀ t, (ghost t).OfChange ↔ ∃ before, a.revision = some (t, before)
  cold : ∀ t, (ghost t).Cold → a.revision = none

variable {events : List (CallEvent ι)} {w w' : World ι} {ghost : ι → Draft}
  {t : ι} {g' : Draft} {row row' : TicketType}

theorem Waits.taken {g : Draft} (h : Waits row g) : g.taken = 0 := by
  unfold Waits at h
  split at h
  · rfl
  · rfl
  · rfl
  · exact h.elim

/-- The plans of a call that waits for a counter. -/
theorem Waits.plan {counted taken : Int} {plan : Plan}
    (h : Waits row (.ticket counted taken plan)) :
    plan ≠ .warmed ∧ plan ≠ .slot ∧ plan ≠ .returning := by
  unfold Waits at h
  split at h
  · rename_i same
    cases same
    exact ⟨nofun, nofun, nofun⟩
  · rename_i same
    cases same
    exact ⟨nofun, nofun, nofun⟩
  · rename_i same
    cases same
    exact ⟨nofun, nofun, nofun⟩
  · exact h.elim

theorem Waits.left {g : Draft} (h : Waits row g) (same : Counter.left row' = Counter.left row) :
    Waits row' g := by
  unfold Waits at h ⊢
  split at h
  · trivial
  · trivial
  · exact h.trans same.symm
  · exact h.elim

omit [Fintype ι] in
theorem basis_update (same : ∀ quantity before,
    g'.goesBy quantity before = (ghost t).goesBy quantity before) :
    a.basis (Function.update ghost t g') row = a.basis ghost row := by
  unfold basis
  split
  · rfl
  · rename_i u before _
    by_cases mine : u = t
    · subst mine
      rw [Function.update_self, same]
    · rw [Function.update_of_ne mine]

/-- What one call owes to keep the invariant. -/
theorem Inv.next (h : a.Inv w ghost) (own : Own w'.db.ticketTypes a.ticketTypeId t g')
    (others : ∀ u, u ≠ t → ∀ g, Own w.db.ticketTypes a.ticketTypeId u g →
      Own w'.db.ticketTypes a.ticketTypeId u g)
    (stored : ∀ row, w.db.ticketTypes.row a.ticketTypeId = some row → a.Balanced w ghost row →
      (∀ u before, a.revision = some (u, before) → (ghost u).Early →
        row.ticketsQuantity = before) →
      ∃ row', w'.db.ticketTypes.row a.ticketTypeId = some row' ∧
        a.Balanced w' (Function.update ghost t g') row' ∧
        ∀ u before, a.revision = some (u, before) → (Function.update ghost t g' u).Early →
          row'.ticketsQuantity = before)
    (changes : g'.OfChange ↔ (ghost t).OfChange)
    (cold : g'.Cold → (ghost t).Cold ∨ a.revision = none) :
    a.Inv w' (Function.update ghost t g') := by
  obtain ⟨row, found, balanced, early⟩ := h.stored
  refine ⟨stored row found balanced early, ?_, ?_, ?_⟩
  · exact (Function.forall_update_iff ghost fun u g =>
      Own w'.db.ticketTypes a.ticketTypeId u g).mpr
      ⟨own, fun u other => others u other _ (h.own u)⟩
  · exact (Function.forall_update_iff ghost fun u g => g.OfChange ↔
      ∃ before, a.revision = some (u, before)).mpr
      ⟨changes.trans (h.changes t), fun u _ => h.changes u⟩
  · refine (Function.forall_update_iff ghost fun _ g => g.Cold → a.revision = none).mpr
      ⟨fun now => ?_, fun u _ => h.cold u⟩
    exact (cold now).elim (h.cold t) id

/-- A call that neither the row nor the counter notices. -/
theorem Inv.still (h : a.Inv w ghost)
    (same : SameRow w.db.ticketTypes w'.db.ticketTypes a.ticketTypeId)
    (counter : a.counter w' = a.counter w) : a.Inv w' ghost := by
  obtain ⟨row, found, balanced, early⟩ := h.stored
  refine ⟨⟨row, by rw [same.row, found], ⟨?_, ?_⟩, early⟩, fun t => ?_,
    h.changes, h.cold⟩
  · rw [counter]
    exact balanced.shows
  · rw [counter]
    exact balanced.missing
  · exact (h.own t).congr (heldBy_congr same.held) same.row rfl Iff.rfl

/-! ## Calls that leave the counter alone -/

omit [Fintype ι] [DecidableEq ι] in
/-- The counter after a command on the API's database. -/
theorem counter_redis {r : RedisDb}
    (changed : w' = { w with redis := Function.update w.redis a.deployment.apiRedis r }) :
    a.counter w' = r.inventory a.ticketTypeId := by
  subst changed
  show (Function.update w.redis a.deployment.apiRedis r a.deployment.apiRedis).inventory _ = _
  rw [Function.update_self]

section Executed

variable {cmd : Cmd} {choice : Choice}

omit [Fintype ι] in
/-- A call that raises. -/
theorem still_of_error {e : Exn} (ran : exec t cmd choice w = some (.error e, w')) :
    SameRow w.db.ticketTypes w'.db.ticketTypes a.ticketTypeId ∧ a.counter w' = a.counter w := by
  obtain ⟨redis, db | db | db⟩ := raised ran
  · rw [db]
    exact ⟨.refl, by unfold counter; rw [redis]⟩
  · rw [db]
    exact ⟨.refl, by unfold counter; rw [redis]⟩
  · rw [db]
    exact ⟨⟨skip_row ▸ rfl, skip_held ▸ rfl⟩, by unfold counter; rw [redis]⟩

omit [Fintype ι] in
/-- A call that is not about the type. -/
theorem still_of_apart {answer : cmd.Resp} (apart : Apart a.ticketTypeId cmd)
    (ran : exec t cmd choice w = some (.ok answer, w')) :
    SameRow w.db.ticketTypes w'.db.ticketTypes a.ticketTypeId ∧ a.counter w' = a.counter w := by
  cases cmd with
  | db statement =>
      obtain ⟨db', done, rfl⟩ := ran_db ran
      have moved := (DbCmd.moved apart.1 done).ticketTypes
      exact ⟨⟨by rw [moved.row], moved.held_of_apart apart.2.1 (.inr apart.2.2)⟩, rfl⟩
  | redis n command =>
      obtain ⟨r, done, rfl⟩ := ran_redis ran
      refine ⟨.refl, ?_⟩
      unfold counter
      dsimp only
      by_cases same : a.deployment.apiRedis = n
      · subst same
        rw [Function.update_self]
        exact Beside.inventory apart done
      · rw [Function.update_of_ne same]
  | enqueueJob job | now =>
      cases ran_of_ok ran
      exact ⟨.refl, rfl⟩
  | handler =>
      have done : (choice.outcome, w) = (.ok answer, w') := Option.some.inj (ran_of_ok ran)
      obtain ⟨_, rfl⟩ := Prod.mk.inj done
      exact ⟨.refl, rfl⟩

end Executed

/-! ## The counter -/

/-- A Redis command of a call that locks nothing. -/
theorem Inv.redis (h : a.Inv w ghost) {r : RedisDb}
    (changed : w' = { w with redis := Function.update w.redis a.deployment.apiRedis r })
    (counted : g'.counted = (ghost t).counted) (flushed : g'.Flushed ↔ (ghost t).Flushed)
    (early : g'.Early → (ghost t).Early) (changes : g'.OfChange ↔ (ghost t).OfChange)
    (cold : g'.Cold → (ghost t).Cold ∨ a.revision = none)
    (balanced : ∀ row, w.db.ticketTypes.row a.ticketTypeId = some row →
      a.Balanced w ghost row →
      a.Balanced w' (Function.update ghost t g') row) : a.Inv w' (Function.update ghost t g') := by
  have own := h.own t
  subst changed
  refine h.next (own.congr rfl rfl counted flushed) (fun _ _ _ own => own) ?_ changes cold
  refine fun row found before unchanged => ⟨row, found, balanced row found before, ?_⟩
  intro u quantity revised now
  refine unchanged u quantity revised ?_
  by_cases same : u = t
  · subst same
    rw [Function.update_self] at now
    exact early now
  · rwa [Function.update_of_ne same] at now

/-- The counter shows another number, and the call makes up for it. -/
theorem Balanced.moved (h : a.Balanced w ghost row) {k k' : Int} (before : a.counter w = some k)
    (after : a.counter w' = some k') (taken : k' + g'.taken = k + (ghost t).taken)
    (goes : ∀ quantity before, g'.goesBy quantity before = (ghost t).goesBy quantity before) :
    a.Balanced w' (Function.update ghost t g') row where
  shows value shown := by
    rw [after] at shown
    cases shown
    have balance := h.shows k before
    rw [basis_update goes, tally_update]
    omega
  missing none := by
    rw [after] at none
    cases none

omit [DecidableEq ι] in
/-- A counter that is there, as no call waits for one. -/
theorem Balanced.present (h : a.Balanced w ghost row) (active : ¬ Waits row (ghost t)) :
    ∃ k, a.counter w = some k := by
  cases counter : a.counter w with
  | none => exact (active ((h.missing counter).2 t)).elim
  | some k => exact ⟨k, rfl⟩

section Steps

variable {cmd : Cmd} {choice : Choice} {answer : Except Exn cmd.Resp}

/-! ## Steps on the counter -/

/-- `reserve_script` of a call that has nothing in hand. -/
theorem Inv.reserve (h : a.Inv w ghost) {plan : Plan} {result : Int}
    (fresh : ghost t = .ticket 0 0 plan) (plans : plan = .fresh ∨ plan = .warmed)
    (ran : exec t (.redis a.deployment.apiRedis (.evalReserve a.ticketTypeId)) choice w =
      some (.ok result, w')) :
    (result = -1 → a.revision = none ∧ plan = .fresh ∧
      a.Inv w' (Function.update ghost t (.ticket 0 0 .missed))) ∧
    (result = 0 → a.Inv w' (Function.update ghost t (.ticket 0 0 .spent))) ∧
    (result ≠ -1 → result ≠ 0 →
      a.Inv w' (Function.update ghost t (.ticket 0 1 .slot))) := by
  obtain ⟨r, done, changed⟩ := ran_redis ran
  have now := counter_redis changed
  have next : ∀ g', g'.counted = 0 → ¬ g'.Flushed → ¬ g'.Early →
      ¬ g'.OfChange → (g'.Cold → a.revision = none) →
      (∀ row, w.db.ticketTypes.row a.ticketTypeId = some row → a.Balanced w ghost row →
        a.Balanced w' (Function.update ghost t g') row) →
      a.Inv w' (Function.update ghost t g') := by
    intro g' counted flushed early change cold balanced
    refine h.redis changed ?_ ?_ (fun now => (early now).elim) ?_
      (fun now => .inr (cold now)) balanced
    · rw [fresh]
      exact counted
    · rw [fresh]
      exact iff_of_false flushed not_false
    · rw [fresh]
      exact iff_of_false change not_false
  obtain ⟨row, stored, balanced, _⟩ := h.stored
  rcases RedisDb.reserveScript_cases (Option.some.inj done) with
    ⟨missing, rfl, rfl⟩ | ⟨k, found, _, rfl, rfl⟩ | ⟨k, found, _, rfl, rfl⟩
  · have missing : a.counter w = none := missing
    obtain ⟨unrevised, waits⟩ := balanced.missing missing
    have own := waits t
    rw [fresh] at own
    have first : plan = .fresh := plans.resolve_right own.plan.1
    refine ⟨fun _ => ⟨unrevised, first, ?_⟩, nofun, fun absent => (absent rfl).elim⟩
    refine next _ rfl not_false not_false not_false (fun _ => unrevised) fun row _ before => ?_
    have same : a.counter w' = none := now.trans missing
    refine ⟨fun k shown => ?_, fun _ => ⟨unrevised, ?_⟩⟩
    · rw [same] at shown
      cases shown
    · exact (Function.forall_update_iff ghost fun _ g => Waits row g).mpr
        ⟨trivial, fun u _ => (before.missing missing).2 u⟩
  · have found : a.counter w = some k := found
    have left : a.counter w' = some (k - 1) := now.trans (Function.update_self ..)
    refine ⟨nofun, nofun, fun _ _ => ?_⟩
    refine next _ rfl not_false not_false not_false False.elim fun row _ before => ?_
    refine before.moved found left ?_ fun _ _ => by rw [fresh]; rfl
    rw [fresh]
    show k - 1 + 1 = k + 0
    omega
  · have found : a.counter w = some k := found
    have left : a.counter w' = some k := now.trans found
    refine ⟨nofun, fun _ => ?_, fun _ taken => (taken rfl).elim⟩
    refine next _ rfl not_false not_false not_false False.elim fun row _ before => ?_
    exact before.moved found left (by rw [fresh]; rfl) fun _ _ => by rw [fresh]; rfl

/-- A slot is given back to a counter that is there. -/
theorem Inv.give (h : a.Inv w ghost) {r : RedisDb} {counted taken : Int} {plan plan' : Plan}
    (own : ghost t = .ticket counted taken plan) (plans : plan = .slot ∨ plan = .returning)
    (warm : plan' ≠ .missed ∧ ∀ row, plan' ≠ .read row)
    (changed : w' = { w with redis := Function.update w.redis a.deployment.apiRedis r })
    (given : ∀ k, a.counter w = some k → r.inventory a.ticketTypeId = some (k + 1)) :
    a.Inv w' (Function.update ghost t (.ticket counted (taken - 1) plan')) := by
  have active : ∀ row, ¬ Waits row (ghost t) := fun row waits => by
    rw [own] at waits
    exact plans.elim waits.plan.2.1 waits.plan.2.2
  refine h.redis changed (by rw [own]; rfl) (by rw [own]; exact Iff.rfl) False.elim
    (by rw [own]; exact Iff.rfl) ?_
    fun row _ before => ?_
  · intro cold
    cases plan' with
    | missed => exact (warm.1 rfl).elim
    | read row => exact (warm.2 row rfl).elim
    | _ => exact cold.elim
  · obtain ⟨k, found⟩ := before.present (active row)
    refine before.moved found ((counter_redis changed).trans (given k found)) ?_
      fun _ _ => by rw [own]; rfl
    rw [own]
    show k + 1 + (taken - 1) = k + taken
    omega

/-- A booking sets the counter from the row that it has read. -/
theorem Inv.fill (h : a.Inv w ghost) {found : TicketType}
    (own : ghost t = .ticket 0 0 (.read found))
    (lands : a.Lands ⟨t, .redis a.deployment.apiRedis (.setInventory a.ticketTypeId (left found)),
      choice, .ok (), w, w'⟩)
    (ran : exec t (.redis a.deployment.apiRedis (.setInventory a.ticketTypeId (left found)))
      choice w =
      some (.ok (), w')) :
    a.Inv w' (Function.update ghost t (.ticket 0 0 .warmed)) := by
  have unrevised : a.revision = none := h.cold t (by rw [own]; trivial)
  obtain ⟨r, done, changed⟩ := ran_redis ran
  cases done
  have now : a.counter w' = some (left found) :=
    (counter_redis changed).trans (Function.update_self ..)
  refine h.redis changed (by rw [own]; rfl) (by rw [own]; exact Iff.rfl) False.elim
    (by rw [own]; exact Iff.rfl) False.elim
    fun row stored before => ?_
  cases counter : a.counter w with
  | some k =>
      have same : left found = k := by
        rw [lands _ rfl k row counter stored]
        unfold due
        rw [unrevised]
      exact before.moved counter now (by rw [own, same]; rfl) fun _ _ => by rw [own]; rfl
  | none =>
      obtain ⟨_, waits⟩ := before.missing counter
      have here := waits t
      rw [own] at here
      have same : left found = left row := here
      have nothing : tally Draft.taken ghost = 0 := Finset.sum_eq_zero fun u _ => (waits u).taken
      refine ⟨fun k shown => ?_, fun missing => ?_⟩
      · rw [now] at shown
        cases shown
        rw [tally_update, nothing, own]
        unfold basis
        rw [unrevised, same]
        show left row + (0 + (0 - 0)) = left row
        omega
      · rw [now] at missing
        cases missing

/-- An update sets the counter. -/
theorem Inv.set (h : a.Inv w ghost) {stage : Stage} {value : Int} (own : ghost t = .change stage)
    (stages : stage = .loaded ∨ stage = .renewed) (lands :
      a.Lands ⟨t, .redis a.deployment.apiRedis (.setInventory a.ticketTypeId value), choice,
      .ok (), w, w'⟩)
    (ran : exec t (.redis a.deployment.apiRedis (.setInventory a.ticketTypeId value)) choice w =
      some (.ok (), w')) :
    a.Inv w' (Function.update ghost t (.change .done)) := by
  obtain ⟨quantity, revised⟩ := (h.changes t).mp (by rw [own]; trivial)
  obtain ⟨r, done, changed⟩ := ran_redis ran
  cases done
  have now : a.counter w' = some value := (counter_redis changed).trans (Function.update_self ..)
  have flushed : ¬ (ghost t).Flushed := by
    rw [own]
    rcases stages with rfl | rfl
    · exact not_false
    · exact not_false
  have old : ∀ row : TicketType, (ghost t).goesBy row.ticketsQuantity quantity = quantity := by
    intro row
    rw [own]
    rcases stages with rfl | rfl
    · rfl
    · rfl
  refine h.redis changed (by rw [own]; rfl) (iff_of_false not_false flushed) False.elim
    (by rw [own]; exact Iff.rfl) False.elim fun row stored before => ?_
  have present : ∃ k, a.counter w = some k := by
    cases counter : a.counter w with
    | some k => exact ⟨k, rfl⟩
    | none =>
        have unrevised := (before.missing counter).1
        rw [revised] at unrevised
        cases unrevised
  obtain ⟨k, counter⟩ := present
  have due : value = k + (row.ticketsQuantity - quantity) := by
    rw [lands _ rfl k row counter stored]
    unfold due
    rw [revised]
  refine ⟨fun k' shown => ?_, fun missing => ?_⟩
  · rw [now] at shown
    cases shown
    have balance := before.shows k counter
    unfold basis at balance ⊢
    rw [revised] at balance ⊢
    dsimp only at balance ⊢
    rw [old] at balance
    rw [Function.update_self, tally_update, own]
    show value + (tally Draft.taken ghost + (0 - 0)) = row.ticketsQuantity - row.ticketsSold
    omega
  · rw [now] at missing
    cases missing

/-! ## Statements -/

omit [Fintype ι] [DecidableEq ι] in
/-- A quantity that has moved is one that the counter does not go by yet. -/
theorem basis_of_row (quantity : row'.ticketsQuantity = row.ticketsQuantity ∨
      ∃ before, a.revision = some (t, before) ∧ (ghost t).Flushed) :
    a.basis ghost row' = a.basis ghost row := by
  unfold basis
  rcases quantity with same | ⟨before, revised, flushed⟩
  · rw [same]
  · rw [revised]
    dsimp only
    generalize ghost t = g at flushed
    cases g with
    | ticket _ _ _ => exact flushed.elim
    | change stage =>
        cases stage with
        | flushed => rfl
        | loaded | renewed | done => exact flushed.elim

/-- The end of a transaction, with the row that it leaves. -/
theorem Inv.ended (h : a.Inv w ghost) {db' : Database ι}
    (free : db'.ticketTypes.heldBy t a.ticketTypeId = none)
    (others : ∀ u, u ≠ t → ∀ g, Own w.db.ticketTypes a.ticketTypeId u g →
      Own db'.ticketTypes a.ticketTypeId u g)
    (ends : (ghost t).Ended g') (waits : ∀ row, Waits row (ghost t) → g' = ghost t)
    (rows : ∀ row, w.db.ticketTypes.row a.ticketTypeId = some row →
      ∃ row', db'.ticketTypes.row a.ticketTypeId = some row' ∧
        row'.ticketsSold + g'.taken = row.ticketsSold + (ghost t).taken ∧
        (row'.ticketsQuantity = row.ticketsQuantity ∨ (ghost t).Flushed ∧ ¬ g'.Early)) :
    a.Inv { w with db := db' } (Function.update ghost t g') := by
  have revised : (ghost t).Flushed → ∃ before, a.revision = some (t, before) :=
    fun flushed => (h.changes t).mp flushed.ofChange
  refine h.next (.of_free free ends.counted ends.flushed) others ?_ ends.changes
    fun now => .inl (ends.cold now)
  intro row stored before unchanged
  obtain ⟨row', stored', sold, quantity⟩ := rows row stored
  refine ⟨row', stored', ⟨fun k shown => ?_, fun missing => ?_⟩,
    fun u quantity₀ revision now => ?_⟩
  · have balance := before.shows k shown
    have basis : a.basis (Function.update ghost t g') row' = a.basis ghost row := by
      rw [basis_update ends.goes]
      refine basis_of_row (t := t) (quantity.imp_right fun moved => ?_)
      obtain ⟨quantity₀, revision⟩ := revised moved.1
      exact ⟨quantity₀, revision, moved.1⟩
    rw [basis, tally_update]
    omega
  · obtain ⟨unrevised, all⟩ := before.missing missing
    have same := waits row (all t)
    have left : Counter.left row' = Counter.left row := by
      have quantity : row'.ticketsQuantity = row.ticketsQuantity :=
        quantity.resolve_right fun moved => by
          obtain ⟨_, revision⟩ := revised moved.1
          rw [unrevised] at revision
          cases revision
      rw [same] at sold
      unfold Counter.left
      omega
    refine ⟨unrevised, (Function.forall_update_iff ghost fun _ g => Waits row' g).mpr
      ⟨by rw [same]; exact (all t).left left, fun u _ => (all u).left left⟩⟩
  · by_cases same : u = t
    · subst same
      rw [Function.update_self] at now
      rw [quantity.resolve_right fun moved => moved.2 now]
      exact unchanged u quantity₀ revision (ends.early now)
    · rw [Function.update_of_ne same] at now
      rw [quantity.resolve_right fun moved => ?_]
      · exact unchanged u quantity₀ revision now
      · obtain ⟨_, revision'⟩ := revised moved.1
        rw [revision] at revision'
        cases revision'
        exact same rfl

omit [Fintype ι] in
theorem Waits.ends {g : Draft} (h : Waits row g) : g.committed = g ∧ g.undone = g := by
  unfold Waits at h
  split at h
  · exact ⟨rfl, rfl⟩
  · exact ⟨rfl, rfl⟩
  · exact ⟨rfl, rfl⟩
  · exact h.elim

theorem Inv.commit (h : a.Inv w ghost) :
    a.Inv { w with db := w.db.commit t } (Function.update ghost t (ghost t).committed) := by
  refine h.ended heldBy_commit_self (fun u other g own => own.commit_other other)
    (ghost t).ended_committed (fun row waits => waits.ends.1) fun row stored => ?_
  obtain ⟨row', read, sold, quantity⟩ := (h.own t).read stored
  refine ⟨row', read, ?_, ?_⟩
  · rw [Draft.committed_taken]
    omega
  · by_cases flushed : (ghost t).Flushed
    · exact .inr ⟨flushed, flushed.late⟩
    · exact .inl (quantity flushed)

theorem Inv.rollback (h : a.Inv w ghost) :
    a.Inv { w with db := w.db.rollback t } (Function.update ghost t (ghost t).undone) := by
  refine h.ended heldBy_rollback_self (fun u other g own => own.rollback_other other)
    (ghost t).ended_undone (fun row waits => waits.ends.2) fun row stored => ?_
  exact ⟨row, stored, by rw [Draft.undone_taken], .inl rfl⟩

/-- A statement of a call that moves its own lock of the row. -/
theorem Inv.hold (h : a.Inv w ghost) {row version : TicketType}
    (read : w.db.ticketTypes.read t a.ticketTypeId = some row)
    (free : w.db.ticketTypes.Free t a.ticketTypeId)
    (sold : version.ticketsSold + (ghost t).counted = row.ticketsSold + g'.counted)
    (quantity : ¬ g'.Flushed → version.ticketsQuantity = row.ticketsQuantity ∧
      ¬ (ghost t).Flushed)
    (taken : g'.taken = (ghost t).taken) (early : g'.Early → (ghost t).Early)
    (changes : g'.OfChange ↔ (ghost t).OfChange)
    (cold : ¬ g'.Cold) (active : ∀ row, a.revision = none → ¬ Waits row (ghost t))
    (goes : ∀ quantity before, g'.goesBy quantity before = (ghost t).goesBy quantity before) :
    a.Inv { w with db := { w.db with
      ticketTypes := w.db.ticketTypes.hold t a.ticketTypeId (some version) } }
      (Function.update ghost t g') := by
  have known := read_issued
    (show (w.db.ticketTypes.read t a.ticketTypeId).isSome by rw [read]; rfl)
  have same : ∀ {s : RowStore ι TicketType},
      (s.hold t a.ticketTypeId (some version)).row = s.row :=
    hold_row
  refine h.next ⟨fun none => ?_, fun version' held => ?_⟩ (fun u other g own => ?_) ?_ changes
    fun now => (cold now).elim
  · rw [heldBy_hold_self known] at none
    cases none
  · rw [heldBy_hold_self known] at held
    cases held
    obtain ⟨stored, found, _⟩ := h.stored
    obtain ⟨row', read', sold', quantity'⟩ := (h.own t).read found
    rw [read] at read'
    cases read'
    refine ⟨stored, version, by rw [same]; exact found, rfl, by omega, fun unflushed => ?_⟩
    rw [(quantity unflushed).1]
    exact quantity' (quantity unflushed).2
  · exact own.congr (heldBy_hold_other other free) (by rw [same]) rfl Iff.rfl
  · intro stored found before unchanged
    refine ⟨stored, by rw [same]; exact found, ⟨fun k shown => ?_, fun missing => ?_⟩,
      fun u before revised now => unchanged u before revised ?_⟩
    · rw [basis_update goes, tally_update, taken, sub_self, add_zero]
      exact before.shows k shown
    · obtain ⟨unrevised, waits⟩ := before.missing missing
      exact (active stored unrevised (waits t)).elim
    · by_cases mine : u = t
      · subst mine
        rw [Function.update_self] at now
        exact early now
      · rwa [Function.update_of_ne mine] at now

/-- `UPDATE ticket_types SET tickets_sold = tickets_sold + delta`. -/
theorem Inv.count (h : a.Inv w ghost) {counted taken delta : Int} {plan : Plan}
    (own : ghost t = .ticket counted taken plan) (plans : plan = .slot ∨ plan = .returning)
    (ran : exec t (.db (.addTicketsSold a.ticketTypeId delta)) choice w = some (.ok (), w')) :
    a.Inv w' (Function.update ghost t (.ticket (counted + delta) taken plan)) := by
  obtain ⟨db', done, rfl⟩ := ran_db ran
  obtain ⟨stored, found, _⟩ := h.stored
  obtain ⟨row, read, _⟩ := (h.own t).read found
  rcases DbCmd.run_addTicketsSold done with ⟨absent, _⟩ | ⟨row₁, read₁, free, update⟩
  · rw [read] at absent
    cases absent
  rw [read] at read₁
  cases read₁
  rcases update with ⟨row', ok, _, rfl⟩ | ⟨_, _, failed, _⟩
  · obtain ⟨sold, quantity⟩ := TicketType.addTicketsSold_ok ok
    have cold : ¬ (Draft.ticket (counted + delta) taken plan).Cold := by
      rcases plans with rfl | rfl
      · exact not_false
      · exact not_false
    refine h.hold read free ?_ (fun _ => ⟨quantity, by rw [own]; exact not_false⟩)
      (by rw [own]; rfl) False.elim (by rw [own]; exact Iff.rfl) cold (fun row _ waits => ?_)
      fun _ _ => by rw [own]; rfl
    · rw [own, sold]
      show row.ticketsSold + delta + counted = row.ticketsSold + (counted + delta)
      omega
    · rw [own] at waits
      exact plans.elim waits.plan.2.1 waits.plan.2.2
  · cases failed

/-- The `UPDATE` of the columns that a change of the type sets. -/
theorem Inv.flush (h : a.Inv w ghost) {net : TicketTypeUpdate} (own : ghost t = .change .loaded)
    (ran : exec t (.db (.updateTicketType a.ticketTypeId net)) choice w = some (.ok (), w')) :
    a.Inv w' (Function.update ghost t
      (.change (if net.newQuantity = none then .loaded else .flushed))) := by
  obtain ⟨db', done, rfl⟩ := ran_db ran
  obtain ⟨stored, found, _⟩ := h.stored
  obtain ⟨row, read, _⟩ := (h.own t).read found
  obtain ⟨before, revised⟩ := (h.changes t).mp (by rw [own]; trivial)
  have active : ∀ row : TicketType, a.revision = none → ¬ Waits row (ghost t) :=
    fun _ none => by
    rw [revised] at none
    cases none
  rcases DbCmd.run_updateTicketType done with ⟨failed, _⟩ | ⟨row₁, read₁, update⟩
  · cases failed
  rw [read] at read₁
  cases read₁
  rcases update with ⟨row', ok, _, rfl⟩ | ⟨_, _, failed, _⟩
  · have sold := TicketTypeUpdate.apply_ok ok
    have quantity := TicketTypeUpdate.apply_quantity ok
    have free := DbCmd.free_of_updateTicketType done read
    have unflushed : ¬ (ghost t).Flushed := by
      rw [own]
      exact not_false
    split
    · rename_i unchanged
      rw [unchanged] at quantity
      exact h.hold read free (by rw [own, sold]) (fun _ => ⟨quantity, unflushed⟩) (by rw [own])
        (fun _ => by rw [own]; trivial) (by rw [own]) not_false active
        fun _ _ => by rw [own]
    · exact h.hold read free (by rw [own, sold]; rfl) (fun now => (now trivial).elim)
        (by rw [own]; rfl)
        (fun _ => by rw [own]; trivial) (by rw [own]; exact Iff.rfl) not_false active
        fun _ _ => by rw [own]; rfl
  · cases failed

/-- A booking that has missed the counter reads the row. -/
theorem Inv.read (h : a.Inv w ghost) {found : TicketType} (own : ghost t = .ticket 0 0 .missed)
    (ran : exec t (.db (.getTicketType a.ticketTypeId)) choice w = some (.ok (some found), w')) :
    a.Inv w' (Function.update ghost t (.ticket 0 0 (.read found))) := by
  obtain ⟨db', done, rfl⟩ := ran_db ran
  obtain ⟨answered, rfl⟩ := DbCmd.run_getTicketType done
  have unrevised : a.revision = none := h.cold t (by rw [own]; trivial)
  have mine := h.own t
  rw [own] at mine
  refine h.next (mine.congr rfl rfl rfl Iff.rfl) (fun _ _ _ own => own) ?_
    (by rw [own]; exact Iff.rfl)
    fun _ => .inr unrevised
  intro row stored before _
  refine ⟨row, stored, ⟨fun k shown => ?_, fun missing => ⟨unrevised, ?_⟩⟩,
    fun u quantity revised => ?_⟩
  · rw [basis_update fun _ _ => by rw [own]; rfl, tally_update, own]
    show k + (tally Draft.taken ghost + (0 - 0)) = _
    rw [sub_zero, add_zero]
    exact before.shows k shown
  · refine (Function.forall_update_iff ghost fun _ g => Waits row g).mpr
      ⟨?_, fun u _ => (before.missing missing).2 u⟩
    obtain ⟨row', read, sold, quantity⟩ := mine.read stored
    rw [read] at answered
    cases answered
    have sold : found.ticketsSold = row.ticketsSold + 0 := sold
    show Counter.left found = Counter.left row
    unfold Counter.left
    rw [quantity not_false, sold, add_zero]
  · rw [unrevised] at revised
    cases revised

end Steps

/-! ## The discipline -/

variable (a) in
/-- No call fails, every booking finds its ticket again, and every `SET` of the counter lands. -/
def discipline : Discipline ι (World ι) Cmd Cmd.Resp Exn Choice Draft where
  guard e := e.choice.fault = none ∧ a.Lands e ∧ Rereads e
  inv _ w ghost := a.Inv w ghost

theorem Inv.answers (h : a.Inv w ghost) {cmd : Cmd} {choice : Choice} {answer : Except Exn cmd.Resp}
    (ran : exec t cmd choice w = some (answer, w')) (clean : choice.fault = none)
    (rereads : Rereads ⟨t, cmd, choice, answer, w, w'⟩) :
    Answers a.ticketTypeId cmd answer := by
  obtain ⟨stored, found, _⟩ := h.stored
  obtain ⟨row, read, _⟩ := (h.own t).read found
  cases cmd with
  | redis n command =>
      cases answer with
      | error e => exact (redis_clean clean ran).elim
      | ok result =>
          cases command with
          | evalReserve id => exact answers_of_exec ran
          | _ => trivial
  | enqueueJob job | now =>
      rcases exec_cases ran with ⟨_, fault, _⟩ | done
      · rw [clean] at fault
        cases fault
      · cases done
        trivial
  | handler => cases answer <;> trivial
  | db statement =>
      obtain ⟨db', done⟩ := run_of_clean clean ran
      cases answer with
      | error e =>
          have sql := (DbCmd.failed done).1
          cases statement with
          | commit | rollback | close | getTicketType id => cases done
          | refreshTicket id =>
              have here := rereads id rfl
              rcases (DbCmd.run_refreshTicket done).2 with ⟨absent, _⟩ | ⟨_, _, failed⟩
              · rw [absent] at here
                cases here
              · cases failed
          | refreshTicketType id =>
              rintro rfl
              rcases (DbCmd.run_refreshTicketType done).2 with ⟨absent, _⟩ | ⟨_, _, failed⟩
              · rw [read] at absent
                cases absent
              · cases failed
          | _ => exact sql
      | ok result =>
          cases statement with
          | getTicketType id =>
              cases result with
              | some row => trivial
              | none =>
                  rintro rfl
                  have absent := (DbCmd.run_getTicketType done).1
                  rw [read] at absent
                  cases absent
          | _ => trivial

/-- **Every step keeps the counter in balance.** -/
theorem governs : (protocol a.deployment a.ticketTypeId).Governs a.discipline exec := by
  intro t events w ghost cmd choice answer w' inv ran ok
  obtain ⟨clean, lands, rereads⟩ := ok
  refine ⟨inv.answers ran clean rereads, fun g' step => ?_⟩
  show a.Inv w' (Function.update ghost t g')
  have step : Step a.deployment a.ticketTypeId (ghost t) cmd answer g' := step
  generalize own : ghost t = g at step
  cases step with
  | refused =>
      obtain ⟨same, counter⟩ := still_of_error (a := a) ran
      rw [← own, Function.update_eq_self]
      exact inv.still same counter
  | apart apart =>
      obtain ⟨same, counter⟩ := still_of_apart apart ran
      rw [← own, Function.update_eq_self]
      exact inv.still same counter
  | commit =>
      obtain ⟨db', done, rfl⟩ := ran_db ran
      cases done
      rw [← own]
      exact inv.commit
  | rollback | close =>
      obtain ⟨db', done, rfl⟩ := ran_db ran
      cases done
      rw [← own]
      exact inv.rollback
  | count plans => exact inv.count own plans ran
  | reserve => exact (inv.reserve own (.inl rfl) ran).2.2 nofun nofun
  | soldOut => exact (inv.reserve own (.inl rfl) ran).2.1 rfl
  | miss => exact ((inv.reserve own (.inl rfl) ran).1 rfl).2.2
  | read => exact inv.read own ran
  | fill => exact inv.fill own lands ran
  | again taken =>
      have reserved := inv.reserve own (.inr rfl) ran
      exact reserved.2.2 (fun missing => nomatch (reserved.1 missing).2.1) taken
  | soldOutAgain => exact (inv.reserve own (.inr rfl) ran).2.1 rfl
  | giveBack =>
      obtain ⟨r, done, changed⟩ := ran_redis ran
      cases done
      refine inv.give own (.inl rfl) ⟨nofun, nofun⟩ changed fun k shown => ?_
      have shown : (w.redis a.deployment.apiRedis).inventory a.ticketTypeId = some k := shown
      unfold RedisDb.incrInventory
      rw [shown]
      exact Function.update_self ..
  | restore =>
      obtain ⟨r, done, changed⟩ := ran_redis ran
      cases done
      refine inv.give own (.inr rfl) ⟨nofun, nofun⟩ changed fun k shown => ?_
      have shown : (w.redis a.deployment.apiRedis).inventory a.ticketTypeId = some k := shown
      rw [RedisDb.safeIncrScript_inventory, Function.update_self, shown]
      rfl
  | flush loaded =>
      subst loaded
      exact inv.flush own ran
  | set stages => exact inv.set own stages lands ran

omit [Fintype ι] [DecidableEq ι] in
/-- A call that waits for a counter is not done. -/
theorem Waits.unsettled {g : Draft} (h : Waits row g) : ¬ g.Settled := by
  unfold Waits at h
  split at h
  · rintro ⟨_, _, plan | plan⟩ <;> cases plan
  · rintro ⟨_, _, plan | plan⟩ <;> cases plan
  · rintro ⟨_, _, plan | plan⟩ <;> cases plan
  · exact h.elim

/-- A call that is done has seen to it that there is a counter. -/
theorem Inv.present (h : a.Inv w ghost) (settled : (ghost t).Settled) : (a.counter w).isSome := by
  obtain ⟨row, _, balanced, _⟩ := h.stored
  cases counter : a.counter w with
  | some k => rfl
  | none => exact (((balanced.missing counter).2 t).unsettled settled).elim

/-- When every call is done, the counter shows what the row has left. -/
theorem Inv.settled (h : a.Inv w ghost) (settled : ∀ t, (ghost t).Settled) :
    ∃ row, w.db.ticketTypes.row a.ticketTypeId = some row ∧
      ∀ k, a.counter w = some k → k = left row := by
  obtain ⟨row, stored, balanced, early⟩ := h.stored
  refine ⟨row, stored, fun k shown => ?_⟩
  have balance := balanced.shows k shown
  have nothing : tally Draft.taken ghost = 0 := Finset.sum_eq_zero fun t _ => (settled t).taken
  have basis : a.basis ghost row = row.ticketsQuantity := by
    unfold Gauge.basis
    split
    · rfl
    · rename_i u before revised
      have change := (h.changes u).mpr ⟨before, revised⟩
      have quantity := early u before revised
      have done := settled u
      generalize ghost u = g at change quantity done
      cases g with
      | ticket _ _ _ => exact change.elim
      | change stage =>
          cases stage with
          | loaded => exact (quantity trivial).symm
          | done => rfl
          | flushed | renewed => exact done.elim
  rw [nothing, basis, add_zero] at balance
  exact balance

end Gauge

end TicketCore.Counter
