import TicketCore.DecimalText
import TicketCore.Interleave.Program
import TicketCore.Json
import TicketCore.Schema
import Mathlib.Data.Finset.Insert

/-!
# One Redis database

The keys of `src/core/redis_keys.py` and of the idempotency service that the booking code uses, in
one numbered Redis database, with the commands and Lua scripts sent to it. Each command and each
script is atomic.

A key family is a field: `inventory` for `ticketcore:inventory:ticket_type:…`, `canceledTickets`
for `system:canceled_tickets`, `activeReservations` for `system:active_reservations`, `eventStatic`
for `ticketcore:events:static:…`, `eventListVersion` for `ticketcore:events:list_version`,
`eventLists` for `ticketcore:events:list:…` and `idempotency` for `idem:…`; no two families
share a key. What pydantic writes into an entry it reads back, so an entry is kept as a value.

* `reserveScript`, `safeIncrScript` and `refundScript` are the three Lua scripts.
* `reservationValue` is what a reservation entry holds; `readReservation_reservationValue` says that
  it is read back as it was written.
* `RedisCmd.run` is the meaning of a command.
-/

namespace TicketCore

open Interleave

/-! ## Idempotency records -/

/-- `IdempotencyRecord.status`. -/
inductive RecordStatus
  | inProgress
  | completed
deriving DecidableEq, Repr

/-- `IdempotencyRecord`. -/
structure IdempotencyRecord where
  status : RecordStatus
  response : Option JsonObject
  payloadHash : Option String

/-- What the key of a record holds: a record's JSON, or a text that does not validate as one. -/
inductive RecordText
  | valid (record : IdempotencyRecord)
  | corrupted

/-- A stored value with the instant at which it expires. -/
structure StoredRecord where
  text : RecordText
  deadline : Int

/-! ## The database -/

/-- A cached value with the instant at which it expires. -/
structure Cached (α : Type) where
  value : α
  deadline : Int

/-- What a versioned list key is made of: `v:{version}:o:{offset}:l:{limit}`. -/
structure ListKey where
  version : Int
  offset : Int
  limit : Int
deriving DecidableEq, Repr

/-- The keys of one Redis database. -/
structure RedisDb where
  inventory : Int → Option Int
  canceledTickets : Finset String
  activeReservations : List (String × String)
  eventStatic : Int → Option (Cached EventDetailResponse)
  eventListVersion : Option Int
  eventLists : ListKey → Option (Cached (List EventResponse))
  idempotency : String → Option StoredRecord

namespace RedisDb

/-- A database without keys. -/
def empty : RedisDb where
  inventory _ := none
  canceledTickets := ∅
  activeReservations := []
  eventStatic _ := none
  eventListVersion := none
  eventLists _ := none
  idempotency _ := none

/-- `SET` of an inventory counter. -/
def setInventory (r : RedisDb) (ticketTypeId : Int) (value : Option Int) : RedisDb :=
  { r with inventory := Function.update r.inventory ticketTypeId value }

/-- `INCR` of an inventory counter; a missing one counts from zero. -/
def incrInventory (r : RedisDb) (ticketTypeId : Int) : RedisDb :=
  r.setInventory ticketTypeId (some ((r.inventory ticketTypeId).getD 0 + 1))

/-- `SET` or `DEL` of an idempotency record. -/
def setRecord (r : RedisDb) (key : String) (value : Option StoredRecord) : RedisDb :=
  { r with idempotency := Function.update r.idempotency key value }

/-- `SET` or `DEL` of a cached event. -/
def setEventStatic (r : RedisDb) (eventId : Int) (value : Option (Cached EventDetailResponse)) :
    RedisDb :=
  { r with eventStatic := Function.update r.eventStatic eventId value }

/-- `SET` of a cached page of events. -/
def setEventList (r : RedisDb) (key : ListKey) (value : Option (Cached (List EventResponse))) :
    RedisDb :=
  { r with eventLists := Function.update r.eventLists key value }

/-- `HDEL` of a reservation entry. -/
def hdel (r : RedisDb) (field : String) : RedisDb :=
  { r with activeReservations := r.activeReservations.filter fun entry => entry.1 ≠ field }

/-- `HSET` of a reservation entry. -/
def hset (r : RedisDb) (field value : String) : RedisDb :=
  { r with activeReservations := (r.hdel field).activeReservations ++ [(field, value)] }

/-- `reserve_script`: `-1` without a counter, `1` after taking a slot, `0` when none is left. -/
def reserveScript (r : RedisDb) (ticketTypeId : Int) : Int × RedisDb :=
  match r.inventory ticketTypeId with
  | none => (-1, r)
  | some current =>
      if current > 0 then (1, r.setInventory ticketTypeId (some (current - 1))) else (0, r)

/-- `safe_incr_script`. -/
def safeIncrScript (r : RedisDb) (ticketTypeId : Int) : RedisDb :=
  match r.inventory ticketTypeId with
  | none => r
  | some current => r.setInventory ticketTypeId (some (current + 1))

/-- The script of `refund_inventory_idempotent`. -/
def refundScript (r : RedisDb) (ticketTypeId : Int) (ticketId : String) : RedisDb :=
  if ticketId ∈ r.canceledTickets then r
  else
    ({ r with canceledTickets := insert ticketId r.canceledTickets }.safeIncrScript
      ticketTypeId).hdel ticketId

/-! ## What the scripts do to a key -/

section Scripts

variable {r : RedisDb} {ticketTypeId : Int} {ticketId field : String} {entry : String × String}

@[simp] theorem safeIncrScript_activeReservations :
    (r.safeIncrScript ticketTypeId).activeReservations = r.activeReservations := by
  unfold safeIncrScript
  split <;> rfl

@[simp] theorem safeIncrScript_canceledTickets :
    (r.safeIncrScript ticketTypeId).canceledTickets = r.canceledTickets := by
  unfold safeIncrScript
  split <;> rfl

theorem safeIncrScript_inventory :
    (r.safeIncrScript ticketTypeId).inventory =
      Function.update r.inventory ticketTypeId ((r.inventory ticketTypeId).map (· + 1)) := by
  unfold safeIncrScript
  split
  · rename_i missing
    rw [missing, Option.map_none, ← missing, Function.update_eq_self]
  · rename_i current value
    rw [value]
    rfl

/-- What the reserve script answers, and does. -/
theorem reserveScript_cases {result : Int} {r' : RedisDb}
    (ran : r.reserveScript ticketTypeId = (result, r')) :
    (r.inventory ticketTypeId = none ∧ result = -1 ∧ r' = r) ∨
      (∃ current, r.inventory ticketTypeId = some current ∧ 0 < current ∧ result = 1 ∧
        r' = r.setInventory ticketTypeId (some (current - 1))) ∨
      ∃ current, r.inventory ticketTypeId = some current ∧ current ≤ 0 ∧
        result = 0 ∧ r' = r := by
  unfold reserveScript at ran
  split at ran
  · rename_i missing
    cases ran
    exact .inl ⟨missing, rfl, rfl⟩
  · rename_i current value
    split at ran
    · rename_i positive
      cases ran
      exact .inr (.inl ⟨current, value, positive, rfl, rfl⟩)
    · rename_i spent
      cases ran
      exact .inr (.inr ⟨current, value, not_lt.mp spent, rfl, rfl⟩)

theorem refundScript_of_mem (refunded : ticketId ∈ r.canceledTickets) :
    r.refundScript ticketTypeId ticketId = r :=
  if_pos refunded

theorem mem_refundScript_canceledTickets {other : String} :
    other ∈ (r.refundScript ticketTypeId ticketId).canceledTickets ↔
      other = ticketId ∨ other ∈ r.canceledTickets := by
  unfold refundScript
  split
  · rename_i refunded
    exact ⟨.inr, fun mem => mem.elim (fun same => same ▸ refunded) id⟩
  · show other ∈ (safeIncrScript _ _).canceledTickets ↔ _
    rw [safeIncrScript_canceledTickets, Finset.mem_insert]

theorem refundScript_inventory (fresh : ticketId ∉ r.canceledTickets) :
    (r.refundScript ticketTypeId ticketId).inventory =
      Function.update r.inventory ticketTypeId ((r.inventory ticketTypeId).map (· + 1)) := by
  unfold refundScript
  rw [if_neg fresh]
  exact safeIncrScript_inventory

theorem mem_hdel : entry ∈ (r.hdel field).activeReservations ↔
    entry ∈ r.activeReservations ∧ entry.1 ≠ field := by
  unfold hdel
  rw [List.mem_filter, decide_eq_true_eq]

theorem mem_refundScript
    (mem : entry ∈ (r.refundScript ticketTypeId ticketId).activeReservations) :
    entry ∈ r.activeReservations := by
  unfold refundScript at mem
  split at mem
  · exact mem
  · have mem := (mem_hdel.mp mem).1
    rwa [safeIncrScript_activeReservations] at mem

theorem mem_refundScript_of_ne (mem : entry ∈ r.activeReservations)
    (other : entry.1 ≠ ticketId) :
    entry ∈ (r.refundScript ticketTypeId ticketId).activeReservations := by
  unfold refundScript
  split
  · exact mem
  · refine mem_hdel.mpr ⟨?_, other⟩
    rw [safeIncrScript_activeReservations]
    exact mem

end Scripts

end RedisDb

/-! ## Reservation entries -/

/-- `f"{new_ticket.ticket_type_id}:{int(time.time())}"`. -/
def reservationValue (ticketTypeId timestamp : Int) : String :=
  toString ticketTypeId ++ ":" ++ toString timestamp

/-- A lock as `get_all_active_reservations` returns it. -/
structure Reservation where
  ticketId : Int
  ticketTypeId : Int
  timestamp : Int
deriving DecidableEq, Repr

/-- One entry of the hash; `none` is a `ValueError` of `split` or `int`. Numbers are read in the
decimal form in which the program writes them. -/
def readReservation (entry : String × String) : Option Reservation :=
  match entry.2.toList.splitOn ':' with
  | [ticketTypeIdStr, tsStr] =>
      match DecimalText.readInt entry.1.toList, DecimalText.readInt ticketTypeIdStr,
        DecimalText.readInt tsStr with
      | some ticketId, some ticketTypeId, some timestamp =>
          some ⟨ticketId, ticketTypeId, timestamp⟩
      | _, _, _ => none
  | _ => none

/-- An entry is read back as `TicketService.create` wrote it. -/
theorem readReservation_reservationValue (ticketId ticketTypeId timestamp : Int) :
    readReservation (toString ticketId, reservationValue ticketTypeId timestamp) =
      some ⟨ticketId, ticketTypeId, timestamp⟩ := by
  have text : (reservationValue ticketTypeId timestamp).toList =
      (toString ticketTypeId).toList ++ ':' :: (toString timestamp).toList := by
    have colon : ":".toList = [':'] := rfl
    unfold reservationValue
    rw [String.toList_append, String.toList_append, colon, List.append_assoc,
      List.singleton_append]
  have absent : ∀ n : Int, ':' ∉ (toString n).toList := fun n =>
    DecimalText.not_mem_toString n (by decide) (by decide)
  unfold readReservation
  simp only [text, DecimalText.split_pair (absent _) (absent _), DecimalText.readInt_toString]

/-- The ticket of a lock is in the key of its entry. -/
theorem ticketId_of_readReservation {ticketId : Int} {value : String} {lock : Reservation}
    (read : readReservation (toString ticketId, value) = some lock) : lock.ticketId = ticketId := by
  unfold readReservation at read
  dsimp only at read
  rw [DecimalText.readInt_toString] at read
  split at read
  · split at read
    · rename_i same _ _
      cases same
      cases read
      rfl
    · cases read
  · cases read

/-- The locks that are read from a hash come from its entries. -/
theorem mem_mapM_readReservation {rawData : List (String × String)} {locks : List Reservation}
    {lock : Reservation} (read : rawData.mapM readReservation = some locks) :
    lock ∈ locks ↔ ∃ entry ∈ rawData, readReservation entry = some lock := by
  induction rawData generalizing locks with
  | nil =>
      cases read
      exact ⟨fun mem => (List.not_mem_nil mem).elim,
        fun ⟨_, mem, _⟩ => (List.not_mem_nil mem).elim⟩
  | cons entry rest ih =>
      rw [List.mapM_cons] at read
      obtain ⟨head, here, read⟩ := Option.bind_eq_some_iff.mp read
      obtain ⟨tail, later, same⟩ := Option.bind_eq_some_iff.mp read
      cases same
      rw [List.mem_cons, ih later, List.exists_mem_cons_iff, here, Option.some.injEq, eq_comm]

/-! ## Commands -/

/-- The commands and scripts of the booking code. -/
inductive RedisCmd
  | evalReserve (ticketTypeId : Int)
  | setInventory (ticketTypeId value : Int)
  | incrInventory (ticketTypeId : Int)
  | deleteInventory (ticketTypeId : Int)
  | evalSafeIncr (ticketTypeId : Int)
  | evalRefund (ticketTypeId : Int) (ticketId : String)
  | hset (field value : String)
  | hdel (field : String)
  | hgetall
  | getEventStatic (eventId : Int)
  /-- `SET key value EX ttl`. -/
  | setEventStatic (eventId : Int) (event : EventDetailResponse) (ttlSeconds : Int)
  | deleteEventStatic (eventId : Int)
  | getEventListVersion
  | setEventListVersion (version : Int)
  | incrEventListVersion
  | getEventList (key : ListKey)
  /-- `SET key value EX ttl`. -/
  | setEventList (key : ListKey) (events : List EventResponse) (ttlSeconds : Int)
  /-- `SET key value EX ttl NX`. -/
  | setNxEx (key : String) (text : RecordText) (ttlSeconds : Int)
  | get (key : String)
  /-- `SET key value EX ttl`. -/
  | setEx (key : String) (text : RecordText) (ttlSeconds : Int)
  | delete (key : String)
  /-- Redis drops a record whose time is over. No client sends this, nor the two below. -/
  | expire (key : String)
  | expireEventStatic (eventId : Int)
  | expireEventList (key : ListKey)

/-- What a command answers. -/
@[reducible] def RedisCmd.Resp : RedisCmd → Type
  | .evalReserve _ => Int
  | .hgetall => List (String × String)
  | .getEventStatic _ => Option EventDetailResponse
  | .getEventListVersion => Option Int
  | .getEventList _ => Option (List EventResponse)
  | .setNxEx .. => Bool
  | .get _ => Option RecordText
  | _ => Unit

/-- The instant `ttlSeconds` after `clock`. -/
def deadlineOf (clock ttlSeconds : Int) : Int := clock + ttlSeconds * 1000000

/-- Execute a command at `clock`. `listing` is the order in which the hash is enumerated; `none` is
an expiry before its time. -/
def RedisCmd.run (clock : Int) (listing : List (String × String)) (r : RedisDb) :
    (cmd : RedisCmd) → Option (cmd.Resp × RedisDb)
  | .evalReserve ticketTypeId => some (r.reserveScript ticketTypeId)
  | .setInventory ticketTypeId value => some ((), r.setInventory ticketTypeId (some value))
  | .incrInventory ticketTypeId => some ((), r.incrInventory ticketTypeId)
  | .deleteInventory ticketTypeId => some ((), r.setInventory ticketTypeId none)
  | .evalSafeIncr ticketTypeId => some ((), r.safeIncrScript ticketTypeId)
  | .evalRefund ticketTypeId ticketId => some ((), r.refundScript ticketTypeId ticketId)
  | .hset field value => some ((), r.hset field value)
  | .hdel field => some ((), r.hdel field)
  | .hgetall => some (arrange listing r.activeReservations, r)
  | .getEventStatic eventId => some ((r.eventStatic eventId).map Cached.value, r)
  | .setEventStatic eventId event ttlSeconds =>
      some ((), r.setEventStatic eventId (some ⟨event, deadlineOf clock ttlSeconds⟩))
  | .deleteEventStatic eventId => some ((), r.setEventStatic eventId none)
  | .getEventListVersion => some (r.eventListVersion, r)
  | .setEventListVersion version => some ((), { r with eventListVersion := some version })
  | .incrEventListVersion =>
      some ((), { r with eventListVersion := some (r.eventListVersion.getD 0 + 1) })
  | .getEventList key => some ((r.eventLists key).map Cached.value, r)
  | .setEventList key events ttlSeconds =>
      some ((), r.setEventList key (some ⟨events, deadlineOf clock ttlSeconds⟩))
  | .setNxEx key text ttlSeconds =>
      match r.idempotency key with
      | none => some (true, r.setRecord key (some ⟨text, deadlineOf clock ttlSeconds⟩))
      | some _ => some (false, r)
  | .get key => some ((r.idempotency key).map StoredRecord.text, r)
  | .setEx key text ttlSeconds =>
      some ((), r.setRecord key (some ⟨text, deadlineOf clock ttlSeconds⟩))
  | .delete key => some ((), r.setRecord key none)
  | .expire key =>
      match r.idempotency key with
      | none => none
      | some stored => if stored.deadline ≤ clock then some ((), r.setRecord key none) else none
  | .expireEventStatic eventId =>
      match r.eventStatic eventId with
      | none => none
      | some stored =>
          if stored.deadline ≤ clock then some ((), r.setEventStatic eventId none) else none
  | .expireEventList key =>
      match r.eventLists key with
      | none => none
      | some stored =>
          if stored.deadline ≤ clock then some ((), r.setEventList key none) else none

/-- An entry was there before, or the command writes it. -/
theorem RedisCmd.entry_of_run {clock : Int} {listing : List (String × String)} {r r' : RedisDb}
    {cmd : RedisCmd} {answer : cmd.Resp} {entry : String × String}
    (ran : cmd.run clock listing r = some (answer, r')) (mem : entry ∈ r'.activeReservations) :
    entry ∈ r.activeReservations ∨ cmd = .hset entry.1 entry.2 := by
  cases cmd with
  | evalReserve ticketTypeId =>
      rcases RedisDb.reserveScript_cases (Option.some.inj ran) with
        ⟨_, _, rfl⟩ | ⟨_, _, _, _, rfl⟩ | ⟨_, _, _, _, rfl⟩
      · exact .inl mem
      · exact .inl mem
      · exact .inl mem
  | evalSafeIncr ticketTypeId =>
      cases ran
      rw [RedisDb.safeIncrScript_activeReservations] at mem
      exact .inl mem
  | evalRefund ticketTypeId ticketId =>
      cases ran
      exact .inl (RedisDb.mem_refundScript mem)
  | hset field value =>
      cases ran
      rcases List.mem_append.mp mem with old | new
      · exact .inl (RedisDb.mem_hdel.mp old).1
      · rw [List.mem_singleton.mp new]
        exact .inr rfl
  | hdel field =>
      cases ran
      exact .inl (RedisDb.mem_hdel.mp mem).1
  | setNxEx key text ttl =>
      simp only [RedisCmd.run] at ran
      split at ran
      · cases ran; exact .inl mem
      · cases ran; exact .inl mem
  | expire key | expireEventStatic eventId | expireEventList key =>
      simp only [RedisCmd.run] at ran
      split at ran
      · cases ran
      · split at ran
        · cases ran; exact .inl mem
        · cases ran
  | setInventory ticketTypeId value | incrInventory ticketTypeId | deleteInventory ticketTypeId
  | hgetall | getEventStatic eventId | setEventStatic eventId event ttl
  | deleteEventStatic eventId | getEventListVersion | setEventListVersion version
  | incrEventListVersion | getEventList key | setEventList key events ttl | get key
  | setEx key text ttl | delete key =>
      cases ran
      exact .inl mem

/-- A command that is not about idempotency records. -/
def RedisCmd.LeavesRecords : RedisCmd → Prop
  | .setNxEx .. | .get _ | .setEx .. | .delete _ | .expire _ => False
  | _ => True

theorem RedisCmd.LeavesRecords.run {clock : Int} {listing : List (String × String)}
    {r r' : RedisDb} {cmd : RedisCmd} {answer : cmd.Resp} (h : cmd.LeavesRecords)
    (ran : cmd.run clock listing r = some (answer, r')) : r'.idempotency = r.idempotency := by
  cases cmd with
  | evalReserve ticketTypeId =>
      have done : r.reserveScript ticketTypeId = (answer, r') := Option.some.inj ran
      unfold RedisDb.reserveScript at done
      split at done
      · cases done; rfl
      · split at done
        · cases done; rfl
        · cases done; rfl
  | evalSafeIncr ticketTypeId =>
      cases ran
      unfold RedisDb.safeIncrScript
      split
      · rfl
      · rfl
  | evalRefund ticketTypeId ticketId =>
      cases ran
      unfold RedisDb.refundScript RedisDb.safeIncrScript
      split
      · rfl
      · split
        · rfl
        · rfl
  | expireEventStatic eventId =>
      simp only [RedisCmd.run] at ran
      split at ran
      · cases ran
      · split at ran
        · cases ran; rfl
        · cases ran
  | expireEventList key =>
      simp only [RedisCmd.run] at ran
      split at ran
      · cases ran
      · split at ran
        · cases ran; rfl
        · cases ran
  | setInventory ticketTypeId value | incrInventory ticketTypeId | deleteInventory ticketTypeId
  | hset field value | hdel field | hgetall | getEventStatic eventId
  | setEventStatic eventId event ttl | deleteEventStatic eventId | getEventListVersion
  | setEventListVersion version | incrEventListVersion | getEventList key
  | setEventList key events ttl =>
      cases ran
      rfl
  | setNxEx key text ttl | get key | setEx key text ttl | delete key | expire key => exact h.elim

end TicketCore
