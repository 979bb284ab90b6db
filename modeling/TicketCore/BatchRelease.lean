import TicketCore.Interleave.Serial
import TicketCore.Reconcile.Release

/-!
# One batch or one ticket after another

`reconcile_hung_tickets` cancels all hung tickets in one transaction, counts them by type and gives
the slots of each type back at once. `release_unpaid_ticket` cancels one ticket and gives its slot
back.

* `batch_agrees_with_releases`: a run of the batch leaves the rows and Redis as the releases of the
  hung tickets do, in any order.
-/

namespace TicketCore

open Interleave RowStore

variable {ι : Type} [DecidableEq ι]

/-- The type of a committed ticket. -/
def ticketTypeOf (db : Database ι) (id : Int) : Int :=
  ((db.tickets.row id).map Ticket.ticketTypeId).getD 0

omit [DecidableEq ι] in
theorem ticketTypeOf_of_row {db : Database ι} {id : Int} {ticket : Ticket}
    (row : db.tickets.row id = some ticket) : ticketTypeOf db id = ticket.ticketTypeId := by
  unfold ticketTypeOf
  rw [row]
  rfl

/-- The committed tickets that are hung. -/
def hungTickets (db : Database ι) (threshold : Int) : List Int :=
  db.tickets.idsWhere fun ticket => Database.Hung threshold ticket

omit [DecidableEq ι] in
theorem mem_hungTickets {db : Database ι} {threshold id : Int} :
    id ∈ hungTickets db threshold ↔
    ∃ ticket, db.tickets.row id = some ticket ∧ Database.Hung threshold ticket := by
  unfold hungTickets
  rw [mem_idsWhere, Option.any_eq_true]
  constructor
  · rintro ⟨ticket, row, hung⟩
    exact ⟨ticket, row, of_decide_eq_true hung⟩
  · rintro ⟨ticket, row, hung⟩
    exact ⟨ticket, row, decide_eq_true hung⟩

/-- How many of these tickets are of a type. -/
def slotsOf (db : Database ι) (ids : List Int) (ticketTypeId : Int) : Int :=
  ((ids.map (ticketTypeOf db)).count ticketTypeId : Nat)

/-- The refunds of these tickets. -/
def refundsOf (db : Database ι) (ids : List Int) : List (Int × Int) :=
  ids.map fun id => (ticketTypeOf db id, id)

/-! ## Statements with the tables to itself -/

section Statements

variable {t : ι} {clock : Int} {rows : List Int} {db : Database ι} {id threshold : Int}
  {ticket : Ticket}

theorem run_selectTicketForUpdate_of_read (read : db.tickets.read t id = some ticket)
    (free : db.tickets.Free t id) :
    (DbCmd.selectTicketForUpdate id none).run t clock rows db =
      some (.ok (some ticket), { db with tickets := db.tickets.hold t id (some ticket) }) := by
  have matched : ¬ ¬ Database.matchesOwner ticket none := not_not.mpr fun _ mem => by cases mem
  simp only [DbCmd.run, Database.selectTicketForUpdate, read, if_neg matched, if_pos free,
    Option.map_some]

theorem run_updateTicketStatus_of_read (read : db.tickets.read t id = some ticket)
    (free : db.tickets.Free t id) :
    (DbCmd.updateTicketStatus id .canceled).run t clock rows db = some (.ok (),
      { db with tickets := db.tickets.hold t id (some (ticket.withStatus .canceled)) }) := by
  simp only [DbCmd.run, Database.updateTicketStatus, read, if_pos free]
  rfl

theorem run_cancelHungTicket_of_read (read : db.tickets.read t id = some ticket)
    (free : db.tickets.Free t id) (hung : Database.Hung threshold ticket) :
    (DbCmd.cancelHungTicket id threshold).run t clock rows db =
      some (.ok (some (id, ticket.ticketTypeId)),
        { db with tickets := db.tickets.hold t id (some (ticket.withStatus .canceled)) }) := by
  simp only [DbCmd.run, Database.cancelHungTicket, read, if_pos free, if_pos hung, Option.map_some]
  rfl

end Statements

/-! ## Giving back the slots of a type -/

section Steps

variable {n : Nat} {t : ι} {guard : CallEvent ι → Prop} {w w₁ : World ι}
  {canceled : Finset Int} {slots : Int → Int} {refunds : List (Int × Int)} {id : Int}
  (clean : ∀ e, guard e → e.choice.fault = none)

include clean

/-- The slots are given back, unless the type has fewer sold. -/
theorem Releasing.ensures_giveBack {count : Int} {db : Database ι}
    (h : Releasing n t w canceled slots refunds w₁) (opened : Uncommitted t db w₁.db)
    (nonneg : 0 ≤ count) :
    (sql (.addTicketsSold id (-count))).Ensures exec t guard
      (Program.Then (fun _ w₂ => Uncommitted t db w₂.db ∧
        Releasing n t w canceled (Function.update slots id (slots id + count)) refunds w₂)
      fun e w₂ => e = .integrity .checkTicketSold ∧
        (Uncommitted t db w₂.db ∧ w₂.redis = w₁.redis) ∧
        ∃ row, w.db.ticketTypes.row id = some row ∧
          row.ticketsSold < slots id + count) w₁ := by
  refine ensures_sql clean fun _ _ answer db' ran => ?_
  have next := opened.next ran not_false
  rcases DbCmd.run_addTicketsSold ran with
    ⟨absent, rfl, rfl⟩ |
      ⟨row, read, _, ⟨row', changed, rfl, rfl⟩ | ⟨_, violated, rfl, rfl⟩⟩
  · exact ⟨next, h.giveBack_none absent⟩
  · exact ⟨next, h.giveBack read changed⟩
  · refine ⟨?_, ⟨next, rfl⟩, ?_⟩
    · rcases TicketType.addTicketsSold_error violated with ⟨_, beyond⟩ | ⟨rfl, _⟩
      · have limit := row.check_sold_limit
        omega
      · rfl
    have lowered := h.types id
    rw [read] at lowered
    generalize w.db.ticketTypes.row id = row₀ at lowered ⊢
    cases lowered with
    | @some row₀ _ lowered =>
        refine ⟨row₀, rfl, not_le.mp fun left => ?_⟩
        obtain ⟨_, changed⟩ := lowered.next left nonneg
        rw [changed] at violated
        cases violated

end Steps

/-! ## One ticket -/

section Single

variable {d : Deployment} {t : ι} {guard : CallEvent ι → Prop} {threshold : Int}
  {w w₁ w₂ : World ι} {done : List Int} {id : Int} {ticket : Ticket}

/-- The tickets `done` are canceled, one after another. -/
structure Released (d : Deployment) (t : ι) (w : World ι) (done : List Int) (w₁ : World ι) :
    Prop where
  releasing : Releasing d.workerRedis t w done.toFinset (slotsOf w.db done)
      (refundsOf w.db done) w₁
  calm : w₁.db.Calm

omit [DecidableEq ι] in
theorem slotsOf_append (ids ids' : List Int) (ticketTypeId : Int) :
    slotsOf w.db (ids ++ ids') ticketTypeId =
      slotsOf w.db ids ticketTypeId + slotsOf w.db ids' ticketTypeId := by
  unfold slotsOf
  rw [List.map_append, List.count_append]
  exact Int.natCast_add _ _

omit [DecidableEq ι] in
theorem slotsOf_snoc (done : List Int) (id : Int) : slotsOf w.db (done ++ [id]) =
    Function.update (slotsOf w.db done) (ticketTypeOf w.db id)
      (slotsOf w.db done (ticketTypeOf w.db id) + 1) := by
  funext ticketTypeId
  rw [slotsOf_append]
  unfold slotsOf
  rw [List.map_singleton, List.count_singleton]
  by_cases same : ticketTypeId = ticketTypeOf w.db id
  · subst same
    rw [Function.update_self, if_pos (beq_self_eq_true _)]
    rfl
  · rw [Function.update_of_ne same, if_neg fun equal => same (eq_of_beq equal).symm]
    exact Int.add_zero _

omit [DecidableEq ι] in
/-- Some of the tickets have no more slots than all of them. -/
theorem slotsOf_le {ids ids' : List Int} {ticketTypeId : Int} (distinct : ids.Nodup)
    (within : ∀ id ∈ ids, id ∈ ids') :
    slotsOf w.db ids ticketTypeId ≤ slotsOf w.db ids' ticketTypeId := by
  unfold slotsOf List.count
  rw [List.countP_map, List.countP_map]
  exact Int.ofNat_le.mpr ((distinct.subperm within).countP_le _)

omit [DecidableEq ι] in
theorem refundsOf_snoc (done : List Int) (id : Int) :
    refundsOf w.db (done ++ [id]) = refundsOf w.db done ++ [(ticketTypeOf w.db id, id)] :=
  List.map_append

theorem toFinset_snoc (done : List Int) (id : Int) :
    (done ++ [id]).toFinset = insert id done.toFinset := by
  ext other
  rw [List.mem_toFinset, List.mem_append, List.mem_singleton, Finset.mem_insert, List.mem_toFinset,
    or_comm]

/-- **A release of a hung ticket cancels it and gives its slot back**, or raises and changes nothing
when the type has no slot left to give back. -/
theorem Released.ensures_release (clean : ∀ e, guard e → e.choice.fault = none)
    (h : Released d t w done w₁) (events : w.db.events.Quiet)
    (row : w.db.tickets.row id = some ticket) (reserved : ticket.status = .reserved)
    (fresh : id ∉ done) :
    (Worker.releaseUnpaidTicket d id).Ensures exec t guard
      (Program.Then (fun _ w₂ => Released d t w (done ++ [id]) w₂ ∧
          w₁.db.tickets.issued ≤ w₂.db.tickets.issued)
        fun e w₂ => e = .integrity .checkTicketSold ∧
          (∃ row, w.db.ticketTypes.row ticket.ticketTypeId = some row ∧
            row.ticketsSold < slotsOf w.db done ticket.ticketTypeId + 1) ∧
          Uncommitted t w₁.db w₂.db ∧ w₂.db.Calm ∧ w₂.redis = w₁.redis) w₁ := by
  have read : w₁.db.tickets.read t id = some ticket := by
    rw [h.releasing.tickets, if_neg (fun mem => fresh (List.mem_toFinset.mp mem)), row]
  have typed := ticketTypeOf_of_row row
  refine ensures_withSession clean
    (Program.Ensures.tryCatch (Program.Ensures.bind (ensures_sql clean ?_)))
  intro clock rows _ _ ran
  have selected := (Uncommitted.start (t := t) h.calm).next ran not_false
  rw [run_selectTicketForUpdate_of_read read (h.releasing.unshared.1 id)] at ran
  cases ran
  have locked := h.releasing.lock read
  show Program.Ensures exec t _ _ (if ticket.status ≠ .reserved then _ else _) _
  rw [if_neg (not_not.mpr reserved)]
  refine Program.Ensures.bind ((locked.ensures_giveBack clean selected zero_le_one).mono ?_)
  rintro (e | _) w₂ ends
  · obtain ⟨same, ⟨opened, redis⟩, short⟩ := ends
    refine Program.Ensures.bind (ensures_sql clean ?_)
    rintro _ _ _ _ ⟨⟩
    exact ⟨same, short, opened.rolledBack.rolledBack, opened.rolledBack.rollback, redis⟩
  obtain ⟨opened, given⟩ := ends
  refine Program.Ensures.bind (ensures_redis clean ?_)
  rintro _ _ _ _ ⟨⟩
  have refunded : Releasing d.workerRedis t w done.toFinset _ _
      (w₂.refundAll d.workerRedis [(ticket.ticketTypeId, id)]) := given.refund
  have read' : w₂.db.tickets.read t id = some ticket := by
    rw [given.tickets, if_neg (fun mem => fresh (List.mem_toFinset.mp mem)), row]
  refine Program.Ensures.bind (ensures_sql clean ?_)
  intro _ _ _ _ ran
  have canceled := opened.next ran not_false
  rw [run_updateTicketStatus_of_read read' (given.unshared.1 id)] at ran
  cases ran
  obtain ⟨closed, calm⟩ := (refunded.cancel read').commit_close events
  refine ensures_sql clean ?_
  rintro _ _ _ _ ⟨⟩
  refine ⟨⟨?_, calm⟩, canceled.issued⟩
  rw [toFinset_snoc, slotsOf_snoc, refundsOf_snoc, typed]
  exact closed

/-- **Releases of hung tickets, one after another.** -/
theorem released_of_serial {calls : List (Call Int ι (World ι) Cmd Cmd.Resp Exn Choice Unit)}
    (calm : w.db.Calm) (sold : ∀ id row, w.db.ticketTypes.row id = some row →
      slotsOf w.db (hungTickets w.db threshold) id ≤ row.ticketsSold)
    (serial : Serial exec t (Worker.releaseUnpaidTicket d) w calls w₂)
    (distinct : (calls.map Call.label).Nodup)
    (hung : ∀ id ∈ calls.map Call.label, id ∈ hungTickets w.db threshold)
    (clean : ∀ call ∈ calls, ∀ e ∈ call.events, e.choice.fault = none) :
    Released d t w (calls.map Call.label) w₂ ∧ ∀ call ∈ calls, call.outcome = .ok () := by
  induction serial with
  | nil => exact ⟨⟨.start calm, calm⟩, fun _ mem => (List.not_mem_nil mem).elim⟩
  | @snoc calls s₁ s₂ id events outcome _ run ih =>
      rw [List.map_append, List.map_singleton] at distinct hung ⊢
      obtain ⟨before, fresh⟩ := List.nodup_append.mp distinct |>.imp_right fun h => h.2
      obtain ⟨released, returned⟩ := ih before
        (fun id mem => hung id (List.mem_append_left _ mem))
        fun call mem => clean call (List.mem_append_left _ mem)
      have isHung := hung id (List.mem_append_right _ (List.mem_singleton_self _))
      obtain ⟨ticket, row, reserved, _⟩ := mem_hungTickets.mp isHung
      have absent : id ∉ calls.map Call.label :=
        fun mem => fresh id mem id (List.mem_singleton_self _) rfl
      have left : ∀ row, w.db.ticketTypes.row ticket.ticketTypeId = some row →
          slotsOf w.db (calls.map Call.label) ticket.ticketTypeId + 1 ≤ row.ticketsSold :=
            fun row' stored => by
        have within : slotsOf w.db (calls.map Call.label ++ [id]) ticket.ticketTypeId ≤
            slotsOf w.db (hungTickets w.db threshold) ticket.ticketTypeId :=
              slotsOf_le distinct hung
        rw [slotsOf_snoc, ticketTypeOf_of_row row, Function.update_self] at within
        exact within.trans (sold _ row' stored)
      have next :=
        (released.ensures_release (fun _ ok => ok) calm.events row reserved absent).runs run
        (clean _ (List.mem_append_right _ (List.mem_singleton_self _)))
      cases outcome with
      | error e =>
          obtain ⟨_, ⟨row', stored, short⟩, _⟩ := next
          exact (not_lt.mpr (left row' stored) short).elim
      | ok _ =>
          refine ⟨next.1, fun call mem => ?_⟩
          rcases List.mem_append.mp mem with mem | mem
          · exact returned call mem
          · rw [List.mem_singleton.mp mem]

end Single

/-! ## All of them at once -/

section Batch

variable {d : Deployment} {t : ι} {guard : CallEvent ι → Prop} {threshold : Int}
  {w w₁ : World ι} {slots : Int → Int} {refunds : List (Int × Int)} {hungIds : List Int}

/-- The rows of the cancelling `UPDATE`, in turn. -/
theorem ensures_cancelHungTickets (clean : ∀ e, guard e → e.choice.fault = none)
    {ids done : List Int} (h : Releasing d.workerRedis t w done.toFinset slots refunds w₁)
    (opened : Uncommitted t w.db w₁.db)
    (distinct : (done ++ ids).Nodup) (hung : ∀ id ∈ ids, id ∈ hungTickets w.db threshold) :
    (Worker.cancelHungTickets threshold ids).Ensures exec t guard (fun outcome w₂ =>
      outcome = .ok (ids.map fun id => (id, ticketTypeOf w.db id)) ∧
        Uncommitted t w.db w₂.db ∧
        Releasing d.workerRedis t w (done ++ ids).toFinset slots refunds w₂) w₁ := by
  induction ids generalizing done w₁ with
  | nil =>
      rw [List.append_nil]
      exact ⟨rfl, opened, h⟩
  | cons id ids ih =>
      have fresh : id ∉ done := fun mem =>
        (List.nodup_append.mp distinct).2.2 id mem id (List.mem_cons_self ..) rfl
      obtain ⟨ticket, row, isHung⟩ := mem_hungTickets.mp (hung id (List.mem_cons_self ..))
      have read : w₁.db.tickets.read t id = some ticket := by
        rw [h.tickets, if_neg (fun mem => fresh (List.mem_toFinset.mp mem)), row]
      refine Program.Ensures.bind (ensures_sql clean ?_)
      intro _ _ _ _ ran
      have opened' := opened.next ran not_false
      rw [run_cancelHungTicket_of_read read (h.unshared.1 id) isHung] at ran
      cases ran
      have next := h.cancel read
      rw [← toFinset_snoc] at next
      rw [← List.singleton_append, ← List.append_assoc] at distinct ⊢
      refine Program.Ensures.bind ((ih next opened' distinct fun other mem =>
        hung other (List.mem_cons_of_mem _ mem)).mono ?_)
      rintro _ w₂ ⟨rfl, reached⟩
      refine ⟨?_, reached⟩
      rw [List.singleton_append, List.map_cons, ticketTypeOf_of_row row]
      rfl

theorem mem_typeCount {canceledTickets : List (Int × Int)} {ticketTypeId count : Int} :
    (ticketTypeId, count) ∈ Worker.typeCount canceledTickets ↔
      ticketTypeId ∈ canceledTickets.map Prod.snd ∧
        count = (canceledTickets.map Prod.snd).count ticketTypeId := by
  rw [Worker.typeCount_eq, List.mem_map]
  constructor
  · rintro ⟨other, mem, same⟩
    cases same
    exact ⟨Worker.mem_kindsOf.mp mem, rfl⟩
  · rintro ⟨mem, rfl⟩
    exact ⟨ticketTypeId, Worker.mem_kindsOf.mpr mem, rfl⟩

theorem typeCount_nodup (canceledTickets : List (Int × Int)) :
    ((Worker.typeCount canceledTickets).map Prod.fst).Nodup := by
  rw [Worker.typeCount_eq, List.map_map]
  have ids : ∀ types : List Int, types.map (Prod.fst ∘ fun ticketTypeId =>
      (ticketTypeId, ((canceledTickets.map Prod.snd).count ticketTypeId : Int))) = types :=
        fun types =>
    List.map_id types
  rw [ids]
  exact Worker.kindsOf_nodup _

/-- A type has fewer sold than these tickets. -/
def Short (db : Database ι) (ids : List Int) : Prop :=
  ∃ id row, db.ticketTypes.row id = some row ∧ row.ticketsSold < slotsOf db ids id

/-- The slots of each type, given back at once, unless one of them has fewer sold. -/
theorem ensures_typeCount (clean : ∀ e, guard e → e.choice.fault = none) {ids : List Int}
    (h : Releasing d.workerRedis t w ids.toFinset (fun _ => 0) [] w₁)
    (opened : Uncommitted t w.db w₁.db) :
    ((Worker.typeCount (ids.map fun id => (id, ticketTypeOf w.db id))).forM
        fun (ticketTypeId, count) =>
          sql (.addTicketsSold ticketTypeId (-count))).Ensures exec t guard
      (Program.Then (fun _ w₂ => Uncommitted t w.db w₂.db ∧
          Releasing d.workerRedis t w ids.toFinset (slotsOf w.db ids) [] w₂)
        fun e w₂ => e = Exn.integrity .checkTicketSold ∧
          (Uncommitted t w.db w₂.db ∧ w₂.redis = w.redis) ∧ Short w.db ids) w₁ := by
  have types : (ids.map fun id => (id, ticketTypeOf w.db id)).map Prod.snd =
      ids.map (ticketTypeOf w.db) := List.map_map
  have counted : ∀ id count, (id, count) ∈ Worker.typeCount
      (ids.map fun id => (id, ticketTypeOf w.db id)) ↔
        id ∈ ids.map (ticketTypeOf w.db) ∧ count = slotsOf w.db ids id := fun id count => by
    rw [mem_typeCount, types]
    rfl
  -- The types still to come have no slot given back, all others have theirs.
  refine Program.Ensures.forM (fun rest w₂ => ∃ slots, (Uncommitted t w.db w₂.db ∧
    Releasing d.workerRedis t w ids.toFinset slots [] w₂) ∧
    (rest.map Prod.fst).Nodup ∧ (∀ entry ∈ rest, entry.2 = slotsOf w.db ids entry.1) ∧
    (∀ id ∈ rest.map Prod.fst, slots id = 0) ∧
    ∀ id, id ∉ rest.map Prod.fst → slots id = slotsOf w.db ids id) ?_ ?_ ?_
  · rintro ⟨id, count⟩ rest w₂
      ⟨slots, ⟨opened, reached⟩, distinct, entries, coming, given⟩
    obtain ⟨fresh, later⟩ := List.nodup_cons.mp distinct
    obtain rfl : count = slotsOf w.db ids id := entries _ (List.mem_cons_self ..)
    have none : slots id = 0 := coming id (List.mem_cons_self ..)
    have nonneg : 0 ≤ slotsOf w.db ids id := Int.natCast_nonneg _
    refine (reached.ensures_giveBack clean opened nonneg).mono ?_
    rintro (e | _) w₃ ends
    · obtain ⟨same, ⟨opened, redis⟩, row, stored, short⟩ := ends
      rw [none, zero_add] at short
      rw [reached.redis, World.refundAll_nil] at redis
      exact ⟨same, ⟨opened, redis⟩, id, row, stored, short⟩
    refine ⟨_, ends, later, fun entry mem => entries entry (List.mem_cons_of_mem _ mem),
      fun other mem => ?_, fun other absent => ?_⟩
    · have same : other ≠ id := fun same => fresh (same ▸ mem)
      rw [Function.update_of_ne same]
      exact coming other (List.mem_cons_of_mem _ mem)
    · by_cases same : other = id
      · subst same
        rw [Function.update_self, none, zero_add]
      · rw [Function.update_of_ne same]
        exact given other fun mem => (List.mem_cons.mp mem).elim same absent
  · rintro w₂ ⟨slots, reached, _, _, _, given⟩
    obtain rfl : slots = slotsOf w.db ids := funext fun id => given id List.not_mem_nil
    exact reached
  · refine ⟨fun _ => 0, ⟨opened, h⟩, typeCount_nodup _,
      fun entry mem => ((counted _ _).mp mem).2,
      fun _ _ => rfl, fun id absent => ?_⟩
    refine (Int.natCast_eq_zero.mpr (List.count_eq_zero.mpr fun mem => absent ?_)).symm
    exact List.mem_map.mpr ⟨(id, slotsOf w.db ids id), (counted _ _).mpr ⟨mem, rfl⟩, rfl⟩

omit [DecidableEq ι] in
theorem slotsOf_perm {ids ids' : List Int} (perm : ids.Perm ids') :
    slotsOf w.db ids = slotsOf w.db ids' :=
  funext fun ticketTypeId => congrArg Int.ofNat ((perm.map _).count_eq ticketTypeId)

/-- The batch, when the rows that its `UPDATE` finds are these. -/
theorem ensures_reconcileIds (clean : ∀ e, guard e → e.choice.fault = none) {ids : List Int}
    (calm : w.db.Calm) (distinct : ids.Nodup)
    (hung : ∀ id ∈ ids, id ∈ hungTickets w.db threshold) :
    (Worker.cancelHungTickets threshold ids >>= fun canceledTickets =>
      if canceledTickets = [] then pure ()
      else do
        (Worker.typeCount canceledTickets).forM fun (ticketTypeId, count) =>
          sql (.addTicketsSold ticketTypeId (-count))
        canceledTickets.forM fun (ticketId, ticketTypeId) =>
          RedisKeys.refundInventoryIdempotent d.workerRedis ticketTypeId ticketId
        sql .commit).Ensures exec t guard
      (Program.Then (fun _ w₂ => ((w₂.db.rollback t).Calm ∧
          w.db.tickets.issued ≤ w₂.db.tickets.issued) ∧
          Releasing d.workerRedis t w ids.toFinset (slotsOf w.db ids) (refundsOf w.db ids)
            { w₂ with db := w₂.db.rollback t })
        fun e w₂ => e = .integrity .checkTicketSold ∧
          (Uncommitted t w.db w₂.db ∧ w₂.redis = w.redis) ∧ Short w.db ids) w := by
  have start : Releasing d.workerRedis t w ([] : List Int).toFinset (fun _ => 0) [] w := .start calm
  cases ids with
  | nil =>
      refine ⟨⟨?_, le_rfl⟩, ?_⟩
      · rwa [calm.rollback]
      · rw [calm.rollback]
        exact start
  | cons id ids =>
      refine Program.Ensures.bind
        ((ensures_cancelHungTickets clean start (.start calm) distinct hung).mono ?_)
      rintro _ w₁ ⟨rfl, opened, canceled⟩
      refine Program.Ensures.bind ((ensures_typeCount clean canceled opened).mono ?_)
      rintro (e | _) w₂ ends
      · exact ends
      obtain ⟨opened, given⟩ := ends
      have refunds : ((id :: ids).map fun id => (id, ticketTypeOf w.db id)).map
          (fun x => (x.2, x.1)) = refundsOf w.db (id :: ids) := List.map_map
      have refunded : Releasing d.workerRedis t w (id :: ids).toFinset (slotsOf w.db (id :: ids))
          (refundsOf w.db (id :: ids))
              (w₂.refundAll d.workerRedis (refundsOf w.db (id :: ids))) :=
        given.refund
      obtain ⟨closed, calm'⟩ := refunded.commit_close calm.events
      refine Program.Ensures.bind (ensures_refunds clean ?_)
      rw [refunds]
      refine ensures_sql clean ?_
      rintro _ _ _ _ ⟨⟩
      exact ⟨⟨calm', opened.issued⟩, closed⟩

/-- **A run of the batch cancels all hung tickets and gives back their slots.** -/
theorem ensures_reconcileHungTickets {clock : Int} (calm : w.db.Calm)
    (hung : hungTickets w.db (clock - d.ticketReservationTimeSeconds * 1000000) = hungIds)
    (sold : ∀ id row, w.db.ticketTypes.row id = some row →
      slotsOf w.db hungIds id ≤ row.ticketsSold) :
    (Worker.reconcileHungTickets d).Ensures exec t (CleanAt clock) (fun outcome w₂ =>
      outcome = .ok () ∧ w₂.db.Calm ∧ ∃ ids, ids.Perm hungIds ∧
        Releasing d.workerRedis t w ids.toFinset (slotsOf w.db ids)
          (refundsOf w.db ids) w₂) w := by
  refine Program.Ensures.bind (ensures_now ?_)
  refine ensures_withSession CleanAt.clean (Program.Ensures.bind (ensures_sql CleanAt.clean ?_))
  intro _ rows _ _ ran
  cases ran
  have perm :=
    arrange_perm rows (hungTickets w.db (clock - d.ticketReservationTimeSeconds * 1000000))
  have distinct := perm.nodup_iff.mpr (idsWhere_nodup _ _)
  refine (ensures_reconcileIds CleanAt.clean calm distinct
    fun id mem => perm.mem_iff.mp mem).mono ?_
  rintro (e | _) w₂ ends
  · obtain ⟨_, _, id, row, stored, short⟩ := ends
    rw [slotsOf_perm perm, hung] at short
    exact (not_lt.mpr (sold id row stored) short).elim
  · obtain ⟨⟨calm', _⟩, released⟩ := ends
    exact ⟨rfl, calm', _, hung ▸ perm, released⟩

end Batch

/-! ## The batch and the releases -/

/-- **The batch agrees with the releases**: without failures, a run of the batch leaves the same
rows and the same Redis databases as the releases of the hung tickets in any order. No hung ticket
is left `RESERVED`, and the other tickets, and the types without hung tickets, are as before. -/
theorem batch_agrees_with_releases {d : Deployment} {t u : ι} {clock : Int}
    {w w₁ w₂ : World ι}
    {hungIds : List Int} {events : List (CallEvent ι)} {outcome : Except Exn Unit}
    {calls : List (Call Int ι (World ι) Cmd Cmd.Resp Exn Choice Unit)} (calm : w.db.Calm)
    (hung : hungTickets w.db (clock - d.ticketReservationTimeSeconds * 1000000) = hungIds)
    (sold : ∀ id row, w.db.ticketTypes.row id = some row →
      slotsOf w.db hungIds id ≤ row.ticketsSold)
    (batch : (Worker.reconcileHungTickets d).Runs exec t w events outcome w₁)
    (clean : ∀ e ∈ events, CleanAt clock e)
    (releases : Serial exec u (Worker.releaseUnpaidTicket d) w calls w₂)
    (each : (calls.map Call.label).Perm hungIds)
    (clean' : ∀ call ∈ calls, ∀ e ∈ call.events, e.choice.fault = none) :
    outcome = .ok () ∧ (∀ call ∈ calls, call.outcome = .ok ()) ∧
    w₁.db.tickets.row = w₂.db.tickets.row ∧
    w₁.db.ticketTypes.row = w₂.db.ticketTypes.row ∧
    w₁.redis = w₂.redis ∧ w₁.db.Calm ∧ w₂.db.Calm ∧
    (∀ id, w₁.db.tickets.row id = if id ∈ hungIds then
      (w.db.tickets.row id).map (·.withStatus .canceled) else w.db.tickets.row id) ∧
    (∀ id, Option.Rel (Lowered (slotsOf w.db hungIds id)) (w.db.ticketTypes.row id)
      (w₁.db.ticketTypes.row id)) ∧
    w₁.db.events = w.db.events ∧ w₁.db.users = w.db.users ∧ w₁.jobs = w.jobs := by
  obtain ⟨returned, calm₁, ids, perm, batched⟩ :=
    (ensures_reconcileHungTickets calm hung sold).runs batch clean
  have distinct : (calls.map Call.label).Nodup := by
    rw [each.nodup_iff, ← hung]
    exact idsWhere_nodup _ _
  obtain ⟨⟨released, calm₂⟩, returned'⟩ :=
    released_of_serial calm (hung ▸ sold) releases distinct
    (fun id mem => hung ▸ each.mem_iff.mp mem) clean'
  have same : ids.toFinset = (calls.map Call.label).toFinset :=
    List.toFinset_eq_of_perm _ _ (perm.trans each.symm)
  have typed : ∀ ids : List Int, ∀ refund ∈ refundsOf w.db ids,
      refund.1 = ticketTypeOf w.db refund.2 := fun ids refund mem => by
    obtain ⟨id, _, rfl⟩ := List.mem_map.mp mem
    rfl
  have refunds : ∀ ids : List Int, (refundsOf w.db ids).map Prod.snd = ids := fun ids => by
    unfold refundsOf
    rw [List.map_map]
    exact List.map_id ids
  have redis : w₁.redis = w₂.redis := by
    rw [batched.redis, released.redis]
    unfold World.refundAll
    rw [RedisDb.refundAll_eq (typed _), RedisDb.refundAll_eq (typed _), refunds, refunds, same]
  rw [same, slotsOf_perm (perm.trans each.symm)] at batched
  obtain ⟨tickets, types⟩ := batched.rows_eq released calm₁ calm₂
  refine ⟨returned, returned', tickets, types, redis, calm₁, calm₂,
    fun id => ?_, fun id => ?_,
    batched.events, batched.users, batched.jobs⟩
  · have row := batched.tickets id
    rw [read_of_not_held (heldBy_of_quiet calm₁.quiet.1)] at row
    simp only [List.mem_toFinset, each.mem_iff] at row
    exact row
  · have row := batched.types id
    rwa [read_of_not_held (heldBy_of_quiet calm₁.quiet.2), slotsOf_perm each] at row

/-- Hung tickets of two types, one of them twice, a paid ticket and a young one. The first ticket is
processed already, and the second type has no counter. -/
def hungAndPaid {ι : Type} : World ι where
  db :=
    { (World.empty : World ι).db with
      tickets := .ofList [⟨1, 1, .reserved, 0⟩, ⟨1, 2, .reserved, 0⟩, ⟨2, 1, .sold, 0⟩,
        ⟨2, 1, .reserved, 5⟩, ⟨2, 1, .reserved, 900000000⟩]
      ticketTypes := .ofList [exampleType 5 4,
        { exampleType 2 1 with name := "balcony", price := 300, check_ticket_price := by decide }] }
  redis _ :=
    { RedisDb.empty with
      inventory := fun id => if id = 1 then some 1 else none
      canceledTickets := {"1"}
      activeReservations := [("2", "2:0"), ("4", "1:0"), ("5", "1:900")] }
  jobs := []

/-- Released from the last to the first, the three hung tickets leave what the batch leaves. -/
theorem batch_agrees_with_releases_of_hungAndPaid :
    ∃ (w₁ w₂ : World Unit) (events : List (CallEvent Unit)) (outcome : Except Exn Unit)
      (calls : List (Call Int Unit (World Unit) Cmd Cmd.Resp Exn Choice Unit)),
      (Worker.reconcileHungTickets sharedRedis).Runs exec () hungAndPaid events outcome w₁ ∧
      Serial exec () (Worker.releaseUnpaidTicket sharedRedis) hungAndPaid calls w₂ ∧
      calls.map Call.label = [4, 2, 1] ∧ w₁.db.tickets.row = w₂.db.tickets.row ∧
      w₁.db.ticketTypes.row = w₂.db.ticketTypes.row ∧ w₁.redis = w₂.redis := by
  have found : ((Worker.reconcileHungTickets sharedRedis).play exec () (fun _ =>
      { clock := 900000010 }) hungAndPaid).any (fun r =>
        r.1.all fun e => decide (CleanAt 900000010 e)) = true := by
    decide
  have found' : (Serial.play exec () (Worker.releaseUnpaidTicket sharedRedis)
      ([4, 2, 1].map fun id => (id, fun _ => {})) hungAndPaid).any (fun r =>
        decide (r.1.map Call.label = [4, 2, 1]) &&
          r.1.all fun call => call.events.all fun e => decide (e.choice.fault = none)) = true := by
    decide
  obtain ⟨events, outcome, w₁, batch, clean⟩ := Program.exists_runs_of_play
    (P := fun events _ _ => events.all fun e => decide (CleanAt 900000010 e)) found
  obtain ⟨calls, w₂, releases, holds⟩ := exists_serial_of_play
    (P := fun (calls : List (Call Int Unit (World Unit) Cmd Cmd.Resp Exn Choice Unit)) _ =>
      decide (calls.map Call.label = [4, 2, 1]) && calls.all fun call => call.events.all
        fun e => decide (e.choice.fault = none)) found'
  rw [Bool.and_eq_true, List.all_eq_true] at holds
  obtain ⟨labels, clean'⟩ := holds
  have labels := of_decide_eq_true labels
  have clean : ∀ e ∈ events, CleanAt 900000010 e := fun e mem =>
    of_decide_eq_true (List.all_eq_true.mp clean e mem)
  have clean' : ∀ call ∈ calls, ∀ e ∈ call.events, e.choice.fault = none :=
    fun call mem e mem' =>
    of_decide_eq_true (List.all_eq_true.mp (clean' call mem) e mem')
  have calm : (hungAndPaid : World Unit).db.Calm := ⟨by decide, by decide⟩
  have hung : hungTickets (hungAndPaid : World Unit).db (900000010 -
      sharedRedis.ticketReservationTimeSeconds * 1000000) = [1, 2, 4] := by decide
  have each : (calls.map Call.label).Perm [1, 2, 4] := by
    rw [labels]
    decide
  have sold : ∀ id row, (hungAndPaid : World Unit).db.ticketTypes.row id = some row →
      slotsOf (hungAndPaid : World Unit).db [1, 2, 4] id ≤ row.ticketsSold :=
        fun id row stored => by
    have known := (hungAndPaid : World Unit).db.ticketTypes.row_issued id (by rw [stored]; rfl)
    have issued : (hungAndPaid : World Unit).db.ticketTypes.issued = 2 := rfl
    have enough : ∀ id ∈ ([1, 2] : List Int),
        ((hungAndPaid : World Unit).db.ticketTypes.row id).all
        (fun row => slotsOf (hungAndPaid : World Unit).db [1, 2, 4] id ≤ row.ticketsSold) =
            true := by
      decide
    have holds := enough id (by simp only [List.mem_cons, List.not_mem_nil, or_false]; omega)
    rw [stored] at holds
    exact of_decide_eq_true holds
  obtain ⟨_, _, tickets, types, redis, _⟩ :=
    batch_agrees_with_releases calm hung sold batch clean releases each clean'
  exact ⟨w₁, w₂, events, outcome, calls, batch, releases, labels, tickets, types, redis⟩

end TicketCore
