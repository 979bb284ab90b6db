import TicketCore.World

/-!
# One ticket among many calls

What the calls of a world leave alone of a single ticket: its committed row and its lock, its
entries among the active reservations, and its place in the set of the processed tickets.

* `Apart id` are the calls that are about other tickets; `SameTicket` is what they keep
  (`Apart.same`).
-/

namespace TicketCore

open Interleave RowStore

variable {ι : Type} [DecidableEq ι]

/-! ## What others do not touch -/

/-- The ticket is as it was. -/
structure SameTicket (id : Int) (w w' : World ι) : Prop where
  row : w'.db.tickets.row id = w.db.tickets.row id
  held : w'.db.tickets.held id = w.db.tickets.held id
  issued : w.db.tickets.issued ≤ w'.db.tickets.issued
  entries : ∀ n value, (toString id, value) ∈ (w'.redis n).activeReservations ↔
    (toString id, value) ∈ (w.redis n).activeReservations
  processed : ∀ n, toString id ∈ (w'.redis n).canceledTickets ↔
    toString id ∈ (w.redis n).canceledTickets

omit [DecidableEq ι] in
theorem SameTicket.of_redis {id : Int} {w w' : World ι} (redis : w'.redis = w.redis)
    (row : w'.db.tickets.row id = w.db.tickets.row id)
    (held : w'.db.tickets.held id = w.db.tickets.held id)
    (issued : w.db.tickets.issued ≤ w'.db.tickets.issued) : SameTicket id w w' :=
  ⟨row, held, issued, fun n value => by rw [redis], fun n => by rw [redis]⟩

/-- A call that raises leaves every ticket as it was. -/
theorem SameTicket.of_raised {t : ι} {cmd : Cmd} {choice : Choice} {w w' : World ι} {e : Exn}
    {id : Int} (ran : exec t cmd choice w = some (.error e, w')) : SameTicket id w w' := by
  obtain ⟨redis, same | same | same⟩ := raised ran
  · exact .of_redis redis (by rw [same]) (by rw [same]) (by rw [same])
  · exact .of_redis redis (by rw [same]; rfl) (by rw [same]; rfl)
      (by rw [same]; exact Nat.le_succ _)
  · exact .of_redis redis (by rw [same]) (by rw [same]) (by rw [same])

/-- A Redis command that is not about this member of the sets and hashes of tickets. -/
def RedisCmd.Apart (ticketId : String) : RedisCmd → Prop
  | .evalRefund _ other | .hdel other => other ≠ ticketId
  | .hset other _ => other ≠ ticketId ∧ ∃ id : Int, other = toString id
  | _ => True

theorem RedisCmd.Apart.run {clock : Int} {listing : List (String × String)} {r r' : RedisDb}
    {cmd : RedisCmd} {answer : cmd.Resp} {ticketId : String} (apart : cmd.Apart ticketId)
    (ran : cmd.run clock listing r = some (answer, r')) :
    (∀ value, (ticketId, value) ∈ r'.activeReservations ↔
      (ticketId, value) ∈ r.activeReservations) ∧
      (ticketId ∈ r'.canceledTickets ↔ ticketId ∈ r.canceledTickets) := by
  cases cmd with
  | evalReserve ticketTypeId =>
      have done : r.reserveScript ticketTypeId = (answer, r') := Option.some.inj ran
      unfold RedisDb.reserveScript at done
      split at done
      · cases done; exact ⟨fun _ => Iff.rfl, Iff.rfl⟩
      · split at done
        · cases done; exact ⟨fun _ => Iff.rfl, Iff.rfl⟩
        · cases done; exact ⟨fun _ => Iff.rfl, Iff.rfl⟩
  | evalSafeIncr ticketTypeId =>
      cases ran
      exact ⟨fun _ => by rw [RedisDb.safeIncrScript_activeReservations],
        by rw [RedisDb.safeIncrScript_canceledTickets]⟩
  | evalRefund ticketTypeId other =>
      have apart : other ≠ ticketId := apart
      cases ran
      refine ⟨fun value => ⟨RedisDb.mem_refundScript, fun mem =>
        RedisDb.mem_refundScript_of_ne mem apart.symm⟩, ?_⟩
      rw [RedisDb.mem_refundScript_canceledTickets]
      exact or_iff_right apart.symm
  | hset field value =>
      have apart : field ≠ ticketId := apart.1
      cases ran
      refine ⟨fun value' => ?_, Iff.rfl⟩
      show _ ∈ (r.hdel field).activeReservations ++ [(field, value)] ↔ _
      rw [List.mem_append, RedisDb.mem_hdel, List.mem_singleton, Prod.mk.injEq]
      exact ⟨fun h => h.elim And.left fun same => (apart same.1.symm).elim,
        fun mem => .inl ⟨mem, apart.symm⟩⟩
  | hdel field =>
      have apart : field ≠ ticketId := apart
      cases ran
      exact ⟨fun value => RedisDb.mem_hdel.trans (and_iff_left apart.symm), Iff.rfl⟩
  | setNxEx key text ttl =>
      simp only [RedisCmd.run] at ran
      split at ran
      · cases ran; exact ⟨fun _ => Iff.rfl, Iff.rfl⟩
      · cases ran; exact ⟨fun _ => Iff.rfl, Iff.rfl⟩
  | expire key | expireEventStatic eventId | expireEventList key =>
      simp only [RedisCmd.run] at ran
      split at ran
      · cases ran
      · split at ran
        · cases ran; exact ⟨fun _ => Iff.rfl, Iff.rfl⟩
        · cases ran
  | setInventory ticketTypeId value | incrInventory ticketTypeId | deleteInventory ticketTypeId
  | hgetall | getEventStatic eventId | setEventStatic eventId event ttl
  | deleteEventStatic eventId | getEventListVersion | setEventListVersion version
  | incrEventListVersion | getEventList key | setEventList key events ttl | get key
  | setEx key text ttl | delete key =>
      cases ran
      exact ⟨fun _ => Iff.rfl, Iff.rfl⟩

/-- A call that is about other tickets, and does not end a transaction. -/
def Apart (id : Int) : Cmd → Prop
  | .db statement => ¬ statement.Ends ∧ ¬ statement.locksTicket id
  | .redis _ command => command.Apart (toString id)
  | _ => True

/-- The answer is the id of a new ticket. -/
def Books (id : Int) : (cmd : Cmd) → cmd.Resp → Prop
  | .db (.insertTicket ..), new => new = id
  | _, _ => False

/-- A call about other tickets leaves the ticket as it was. -/
theorem Apart.same {t : ι} {cmd : Cmd} {choice : Choice} {w w' : World ι} {id : Int}
    {answer : Except Exn cmd.Resp} (apart : Apart id cmd)
    (other : ∀ a, answer = .ok a → ¬ Books id cmd a)
    (ran : exec t cmd choice w = some (answer, w')) : SameTicket id w w' := by
  cases answer with
  | error e => exact .of_raised ran
  | ok a =>
      rcases exec_cases ran with ⟨_, _, _, failed, _⟩ | ran
      · cases failed
      cases cmd with
      | now | enqueueJob job =>
          cases ran; exact ⟨rfl, rfl, le_rfl, fun _ _ => Iff.rfl, fun _ => Iff.rfl⟩
      | handler =>
          have done : (choice.outcome, w) = (.ok a, w') := Option.some.inj ran
          obtain ⟨_, rfl⟩ := Prod.mk.inj done
          exact ⟨rfl, rfl, le_rfl, fun _ _ => Iff.rfl, fun _ => Iff.rfl⟩
      | redis n command =>
          obtain ⟨a', r, done, _, rfl⟩ := Cmd.run_redis ran
          have apart : command.Apart (toString id) := apart
          obtain ⟨entries, processed⟩ := apart.run done
          have cases : ∀ P : RedisDb → RedisDb → Prop, P r (w.redis n) → (∀ r, P r r) →
              ∀ m, P (Function.update w.redis n r m) (w.redis m) := fun P here refl m => by
            by_cases same : m = n
            · subst same
              rwa [Function.update_self]
            · rw [Function.update_of_ne same]
              exact refl _
          refine ⟨rfl, rfl, le_rfl, fun m value => ?_, fun m => ?_⟩
          · exact cases (fun r r' => (toString id, value) ∈ r.activeReservations ↔
              (toString id, value) ∈ r'.activeReservations) (entries value) (fun _ => Iff.rfl) m
          · exact cases (fun r r' => toString id ∈ r.canceledTickets ↔
              toString id ∈ r'.canceledTickets) processed (fun _ => Iff.rfl) m
      | db statement =>
          obtain ⟨db', done, rfl⟩ := Cmd.run_db ran
          have apart : ¬ statement.Ends ∧ ¬ statement.locksTicket id := apart
          have moved := (DbCmd.moved apart.1 done).tickets
          refine .of_redis rfl (congrFun moved.row id) ?_ moved.issued
          by_cases books : ∃ ownerId ticketTypeId, statement = .insertTicket ownerId ticketTypeId
          · obtain ⟨ownerId, ticketTypeId, rfl⟩ := books
            have other : a ≠ id := other a rfl
            rcases DbCmd.run_insertTicket done with ⟨_, failed, _⟩ | ⟨_, failed, _⟩ |
              ⟨_, _, new, changed⟩
            · cases failed
            · cases failed
            · cases new
              rw [changed]
              show (RowStore.insert ..).held id = _
              rw [insert_held, Function.update_of_ne other.symm]
          · refine moved.held_of_apart apart.2 (.inr fun inserts => books ?_)
            cases statement with
            | insertTicket ownerId ticketTypeId => exact ⟨ownerId, ticketTypeId, rfl⟩
            | _ => exact inserts.elim

end TicketCore
