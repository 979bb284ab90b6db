import TicketCore.Custody.Programs
import TicketCore.Custody.Coherence

/-!
# The registries of a ticket

What a step of the custody makes of the ticket's entry among the active reservations, of its place
in the set of the processed tickets and of its committed row, where the API and the worker share one
Redis database.

* `Registers` and `Commits` are the changes that there are, with the milestones between which they
  happen.
* `Accounted` says of a processed ticket that it is `RESERVED` no more, or that the call that has
  processed it is still to cancel it; `accounted_step` says which steps keep this.
* `discipline` turns an invariant of one ticket into a discipline that the protocol of its custody
  governs.
-/

namespace TicketCore

namespace Custody

open Interleave RowStore

variable {ι : Type} [DecidableEq ι]

/-! ## The registries -/

/-- The ticket has an entry among the active reservations. -/
def Listed (id : Int) (r : RedisDb) : Prop :=
  ∃ value, (toString id, value) ∈ r.activeReservations

/-- The ticket is in the set of the processed tickets. -/
def Processed (id : Int) (r : RedisDb) : Prop := toString id ∈ r.canceledTickets

namespace Milestone

/-- The refund script has run, and the ticket is still to be `CANCELED`. -/
def Settles : Milestone → Prop
  | refunded _ | settled _ | credited _ => True
  | _ => False

theorem Settles.ended {g : Milestone} (h : g.Settles) : g.ended = none := by
  cases g with
  | refunded ticket | settled ticket | credited ticketTypeId => rfl
  | _ => exact h.elim

/-- The garbage collector of Redis has listed the entries. -/
def Suspects : Milestone → Prop
  | listed _ | due | doomed => True
  | _ => False

theorem Suspects.failed {g : Milestone} (h : g.failed.Suspects) : g.failed = g := by
  cases g with
  | listed _ | due | doomed => rfl
  | _ => exact h.elim

theorem Suspects.ended {g g' : Milestone} (h : g'.Suspects) (ends : g.ended = some g') :
    g' = g := by
  cases g with
  | listed _ | due | doomed =>
      cases ends
      rfl
  | away | seen | unborn _ | locked _ | spoiled | kept _ =>
      cases ends
      exact h.elim
  | _ => cases ends

/-- The script of a refund runs between these milestones. -/
inductive Refunds : Milestone → Milestone → Prop
  | refund {ticket : Ticket} : ticket.status = .reserved →
      Refunds (locked ticket) (refunded ticket)
  | credit {ticketTypeId : Int} : Refunds (swept ticketTypeId) (credited ticketTypeId)
  | collect : Refunds doomed doomed

/-- The entry is removed between these milestones. -/
inductive Clears : Milestone → Milestone → Prop
  | keep {ownerId : Int} : Clears (paid ownerId) (kept ownerId)
  | clear : Clears gone away

end Milestone

variable {d : Deployment} {id : Int} {t u : ι} {w w' : World ι} {g g' : Milestone} {cmd : Cmd}
  {choice : Choice} {answer : Except Exn cmd.Resp}

/-- What a step does to the registries of a ticket. -/
inductive Registers (id : Int) (r r' : RedisDb) : Milestone → Milestone → Prop
  | same {g g' : Milestone} :
      (∀ value, (toString id, value) ∈ r'.activeReservations ↔
        (toString id, value) ∈ r.activeReservations) →
      (Processed id r' ↔ Processed id r) → Registers id r r' g g'
  | entered {clock : Int} : Listed id r' → (Processed id r' ↔ Processed id r) →
      Registers id r r' (.stamped clock) (.entered clock)
  | cleared {g g' : Milestone} : g.Clears g' → ¬ Listed id r' →
      (Processed id r' ↔ Processed id r) →
      Registers id r r' g g'
  | refunded {g g' : Milestone} : g.Refunds g' → Processed id r' →
      (Processed id r ∧ r' = r ∨ ¬ Listed id r') → Registers id r r' g g'

omit [DecidableEq ι] in
theorem Registers.of_same (same : SameTicket id w w') {n : Nat} :
    Registers id (w.redis n) (w'.redis n) g g' :=
  .same (same.entries n) (same.processed n)

omit [DecidableEq ι] in
theorem Registers.of_redis (same : w'.redis = w.redis) {n : Nat} :
    Registers id (w.redis n) (w'.redis n) g g' := by
  rw [same]
  exact .same (fun _ => Iff.rfl) Iff.rfl

theorem not_listed_hdel {r : RedisDb} : ¬ Listed id (r.hdel (toString id)) := by
  rintro ⟨value, mem⟩
  exact (RedisDb.mem_hdel.mp mem).2 rfl

theorem refundScript_registers {r : RedisDb} {ticketTypeId : Int} :
    Processed id (r.refundScript ticketTypeId (toString id)) ∧
      (Processed id r ∧ r.refundScript ticketTypeId (toString id) = r ∨
        ¬ Listed id (r.refundScript ticketTypeId (toString id))) := by
  refine ⟨RedisDb.mem_refundScript_canceledTickets.mpr (.inl rfl), ?_⟩
  by_cases before : toString id ∈ r.canceledTickets
  · exact .inl ⟨before, RedisDb.refundScript_of_mem before⟩
  · refine .inr ?_
    unfold RedisDb.refundScript
    rw [if_neg before]
    exact not_listed_hdel

theorem Registers.of_hdel (clears : g.Clears g')
    (ran : exec t (.redis d.apiRedis (.hdel (toString id))) choice w = some (.ok (), w')) :
    Registers id (w.redis d.apiRedis) (w'.redis d.apiRedis) g g' := by
  obtain ⟨r, done, rfl⟩ := ran_redis ran
  cases done
  dsimp only
  rw [Function.update_self]
  exact .cleared clears not_listed_hdel Iff.rfl

theorem Registers.of_refund {ticketTypeId : Int} (shared : d.apiRedis = d.workerRedis)
    (refunds : g.Refunds g')
    (ran : exec t (.redis d.workerRedis (.evalRefund ticketTypeId (toString id))) choice w =
      some (.ok (), w')) :
    Registers id (w.redis d.apiRedis) (w'.redis d.apiRedis) g g' := by
  obtain ⟨r, done, rfl⟩ := ran_redis ran
  cases done
  dsimp only
  rw [← shared, Function.update_self]
  exact .refunded refunds refundScript_registers.1 refundScript_registers.2

/-- **A step changes the registries of the ticket in one of four ways.** -/
theorem Step.registers (shared : d.apiRedis = d.workerRedis) (step : Step d id g cmd answer g')
    (ran : exec t cmd choice w = some (answer, w')) :
    Registers id (w.redis d.apiRedis) (w'.redis d.apiRedis) g g' := by
  cases step with
  | apart apart other _ =>
      exact .of_same (apart.same (fun a same => by cases same; exact other) ran)
  | fail _ => exact .of_same (.of_raised ran)
  | rolled _ | closed _ | rest | insert | book | see | lock | miss | settle | cancel | pay _ | sell
  | remove | vanish | sweep | pass | reap | judge _ _ => exact .of_redis (redis_of_db ran)
  | stamp | suspect _ =>
      have same := ran_of_ok ran
      cases same
      exact .of_redis rfl
  | enter =>
      obtain ⟨r, done, rfl⟩ := ran_redis ran
      cases done
      dsimp only
      rw [Function.update_self]
      exact .entered ⟨_, List.mem_append_right _ (List.mem_singleton_self _)⟩ Iff.rfl
  | keep => exact .of_hdel .keep ran
  | clear => exact .of_hdel .clear ran
  | refund reserved => exact .of_refund shared (.refund reserved) ran
  | credit => exact .of_refund shared .credit ran
  | collect => exact .of_refund shared .collect ran
  | list =>
      obtain ⟨r, done, rfl⟩ := ran_redis ran
      cases done
      dsimp only
      rw [← shared, Function.update_eq_self]
      exact .same (fun _ => Iff.rfl) Iff.rfl

section Registers

variable {r r' : RedisDb}

theorem Registers.processed (h : Registers id r r' g g') (before : Processed id r) :
    Processed id r' := by
  cases h with
  | same _ same | entered _ same | cleared _ _ same => exact same.mpr before
  | refunded _ processed _ => exact processed

/-- An entry was there before, or is new. -/
theorem Registers.of_listed (h : Registers id r r' g g') (listed : Listed id r') :
    Listed id r ∨ ∃ clock, g = .stamped clock ∧ g' = .entered clock := by
  cases h with
  | same entries _ =>
      obtain ⟨value, mem⟩ := listed
      exact .inl ⟨value, (entries value).mp mem⟩
  | entered _ _ => exact .inr ⟨_, rfl, rfl⟩
  | cleared _ unlisted _ => exact (unlisted listed).elim
  | refunded _ _ unlisted =>
      rcases unlisted with ⟨_, rfl⟩ | unlisted
      · exact .inl listed
      · exact (unlisted listed).elim

/-- An entry stays, or is removed by a call that may do so. -/
theorem Registers.listed (h : Registers id r r' g g') (listed : Listed id r) :
    Listed id r' ∨ g.Clears g' ∨ g.Refunds g' := by
  cases h with
  | same entries _ =>
      obtain ⟨value, mem⟩ := listed
      exact .inl ⟨value, (entries value).mpr mem⟩
  | entered listed _ => exact .inl listed
  | cleared clears _ _ => exact .inr (.inl clears)
  | refunded refunds _ _ => exact .inr (.inr refunds)

/-- No processed ticket gets an entry, except by a booking of it. -/
theorem Registers.unlisted (h : Registers id r r' g g')
    (unlisted : Processed id r → ¬ Listed id r) (other : ∀ clock, g ≠ .stamped clock)
    (processed : Processed id r') : ¬ Listed id r' := by
  intro listed
  rcases h.of_listed listed with before | ⟨clock, own, _⟩
  · cases h with
    | same _ same | entered _ same => exact unlisted (same.mp processed) before
    | cleared _ gone _ => exact gone listed
    | refunded _ _ gone =>
        rcases gone with ⟨processed, rfl⟩ | gone
        · exact unlisted processed before
        · exact gone listed
  · exact other clock own

end Registers

/-! ## The committed row -/

/-- What a step commits of the ticket. -/
inductive Commits (id : Int) (db db' : Database ι) : Milestone → Milestone → Prop
  | same {g g' : Milestone} : db'.tickets.row id = db.tickets.row id → Commits id db db' g g'
  | booked {clock : Int} {ticket : Ticket} : db.tickets.row id = none →
      db'.tickets.row id = some ticket → ticket.status = .reserved →
      Commits id db db' (.entered clock) .away
  | canceled {g : Milestone} {ticket : Ticket} : g.Settles →
      db'.tickets.row id = some (ticket.withStatus .canceled) → db'.tickets.held id = none →
      Commits id db db' g .away
  | sold {ticket : Ticket} : db.tickets.row id = some ticket →
      db'.tickets.row id = some (ticket.withStatus .sold) → db'.tickets.held id = none →
      Commits id db db' (.paying ticket) (.paid ticket.ownerId)
  | vanished : db'.tickets.row id = none → Commits id db db' .removed .gone

/-- A row changes only by a commit. -/
theorem row_of_uncommitted (ran : exec t cmd choice w = some (answer, w'))
    (other : cmd ≠ .db .commit) : w'.db.tickets.row id = w.db.tickets.row id := by
  rcases exec_cases ran with ⟨_, _, _, _, rfl⟩ | ran
  · rfl
  cases cmd with
  | now | enqueueJob job => cases ran; rfl
  | handler =>
      have done : (choice.outcome, w) = (answer, w') := Option.some.inj ran
      obtain ⟨_, rfl⟩ := Prod.mk.inj done
      rfl
  | redis n command =>
      obtain ⟨a, r, _, _, rfl⟩ := Cmd.run_redis ran
      rfl
  | db statement =>
      obtain ⟨db', done, rfl⟩ := Cmd.run_db ran
      by_cases ends : statement.Ends
      · cases statement with
        | commit => exact (other rfl).elim
        | rollback | close => cases done; rfl
        | _ => exact ends.elim
      · exact congrFun (DbCmd.moved ends done).tickets.row id

/-- A commit makes the transaction's version of the ticket its row, and frees it. -/
theorem row_of_commit {version : Option Ticket}
    (ran : exec t (.db .commit) choice w = some (.ok (), w'))
    (held : w.db.tickets.heldBy t id = some version) :
    w'.db.tickets.row id = version ∧ w'.db.tickets.held id = none := by
  obtain ⟨changed, _, row⟩ := heldBy_of_commit id ran
  refine ⟨row.trans (read_of_heldBy held), ?_⟩
  rw [changed]
  exact release_of_heldBy held

/-- The commit of a cancellation. -/
theorem past_of_cancel {ticket : Ticket}
    (h : Reserved w.db t id ticket (some (ticket.withStatus .canceled)))
    (ran : exec t (.db .commit) choice w = some (.ok (), w')) : Past w'.db id := by
  obtain ⟨changed, _, _⟩ := heldBy_of_commit id ran
  rw [changed]
  exact past_of_commit h.version (withStatus_left nofun)

theorem Commits.of_cancel {ticket : Ticket} (settles : g.Settles)
    (h : Reserved w.db t id ticket (some (ticket.withStatus .canceled)))
    (ran : exec t (.db .commit) choice w = some (.ok (), w')) : Commits id w.db w'.db g .away :=
  .canceled settles (row_of_commit ran h.version).1 (row_of_commit ran h.version).2

/-- **A step commits the ticket in one of four ways, or not at all.** -/
theorem Step.commits (step : Step d id g cmd answer g') (h : Coherent w.db t id g)
    (ran : exec t cmd choice w = some (answer, w')) : Commits id w.db w'.db g g' := by
  cases step with
  | apart apart other _ =>
      exact .same (apart.same (fun a same => by cases same; exact other) ran).row
  | fail _ => exact .same (SameTicket.of_raised ran).row
  | rest => exact .same ((heldBy_of_commit id ran).2.2.trans (read_of_not_held h))
  | book =>
      obtain ⟨absent, ticket, held, reserved⟩ := h
      exact .booked absent (row_of_commit ran held).1 reserved
  | cancel => exact .of_cancel trivial h ran
  | reap =>
      obtain ⟨ticket, _, h⟩ := h
      exact .of_cancel trivial h ran
  | sell =>
      obtain ⟨row, free⟩ := row_of_commit ran h.version
      exact .sold h.row row free
  | vanish =>
      rcases h with held | ⟨free, past⟩
      · exact .vanished (row_of_commit ran held).1
      · exact .same ((heldBy_of_commit id ran).2.2.trans (read_of_not_held free))
  | _ => exact .same (row_of_uncommitted ran nofun)

/-! ## Sold tickets -/

/-- A statement makes a ticket `SOLD` only by saying so. -/
theorem sold_of_run {statement : DbCmd} {clock : Int} {order : List Int} {db db' : Database ι}
    {a : Except Exn statement.Resp} {ticket : Ticket}
    (ran : statement.run t clock order db = some (a, db')) (version : db'.tickets.Version id ticket)
    (sold : ticket.status = .sold) :
    db.tickets.Version id ticket ∨ statement = .updateTicketStatus id .sold := by
  by_cases ends : statement.Ends
  · rcases ends.run ran with rfl | rfl
    · exact .inl (Version.of_commit version)
    · exact .inl (Version.of_rollback version)
  have moves := (DbCmd.moved ends ran).tickets
  cases statement with
  | insertTicket ownerId ticketTypeId =>
      rcases DbCmd.run_insertTicket ran with ⟨_, _, rfl⟩ | ⟨_, _, rfl⟩ | ⟨_, _, _, rfl⟩
      · exact .inl version
      · exact .inl version
      · rcases Version.of_insert version with old | ⟨_, rfl⟩
        · exact .inl old
        · cases sold
  | selectTicketForUpdate ticketId ownerId =>
      rcases DbCmd.run_selectTicketForUpdate ran with ⟨_, rfl⟩ | ⟨ticket', read, _, _, rfl⟩
      · exact .inl version
      · rcases Version.of_hold version with old | ⟨rfl, same⟩
        · exact .inl old
        · cases same
          exact .inl (version_of_read read)
  | updateTicketStatus ticketId status =>
      rcases DbCmd.run_updateTicketStatus ran with ⟨_, rfl⟩ | ⟨ticket', _, _, _, rfl⟩
      · exact .inl version
      · rcases Version.of_hold version with old | ⟨rfl, same⟩
        · exact .inl old
        · cases same
          have same : status = .sold := sold
          subst same
          exact .inr rfl
  | deleteTicket ticketId =>
      rcases DbCmd.run_deleteTicket ran with ⟨_, _, rfl⟩ | ⟨_, _, _, rfl⟩
      · exact .inl version
      · rcases Version.of_hold version with old | ⟨_, same⟩
        · exact .inl old
        · cases same
  | cancelHungTicket ticketId threshold =>
      rcases DbCmd.run_cancelHungTicket ran with ⟨_, rfl⟩ | ⟨ticket', _, _, _, _, rfl⟩
      · exact .inl version
      · rcases Version.of_hold version with old | ⟨_, same⟩
        · exact .inl old
        · cases same
          cases sold
  | _ =>
      rw [Moves.idle moves] at version
      exact .inl version

theorem sold_of_exec {ticket : Ticket} (ran : exec t cmd choice w = some (answer, w'))
    (version : w'.db.tickets.Version id ticket) (sold : ticket.status = .sold) :
    w.db.tickets.Version id ticket ∨ cmd = .db (.updateTicketStatus id .sold) := by
  rcases exec_cases ran with ⟨_, _, _, _, rfl⟩ | ran
  · exact .inl version
  cases cmd with
  | now | enqueueJob job => cases ran; exact .inl version
  | handler =>
      have done : (choice.outcome, w) = (answer, w') := Option.some.inj ran
      obtain ⟨_, rfl⟩ := Prod.mk.inj done
      exact .inl version
  | redis n command =>
      obtain ⟨a, r, _, _, rfl⟩ := Cmd.run_redis ran
      exact .inl version
  | db statement =>
      obtain ⟨db', done, rfl⟩ := Cmd.run_db ran
      exact (sold_of_run done version sold).imp_right fun same => by rw [same]

/-- No version of a ticket is `SOLD` that one transaction has locked and not sold. -/
theorem unsold_of_heldBy {db : Database ι} {version : Option Ticket} {ticket sold : Ticket}
    (row : db.tickets.row id = some ticket) (held : db.tickets.heldBy t id = some version)
    (stays : ticket.status ≠ .sold) (unsold : ∀ v, version = some v → v.status ≠ .sold)
    (h : db.tickets.Version id sold) : sold.status ≠ .sold := by
  rcases h with stored | ⟨u, lock⟩
  · rw [row] at stored
    cases stored
    exact stays
  · rw [heldBy_eq_some.mp held] at lock
    cases lock
    exact unsold sold rfl

/-! ## Processed tickets -/

/-- A processed ticket is `RESERVED` no more, or the call that has processed it is still to cancel
it. -/
def Accounted (id : Int) (db : Database ι) (r : RedisDb) (ghost : ι → Milestone) : Prop :=
  Processed id r → Past db id ∨ ∃ u, (ghost u).Settles

/-- A call that is to cancel the ticket has it locked, and has not sold it. -/
theorem Coherent.settles {db : Database ι} (h : Coherent db t id g) (settles : g.Settles) :
    ∃ ticket version, Reserved db t id ticket version ∧
      ∀ v, version = some v → v.status ≠ .sold := by
  cases g with
  | refunded ticket =>
      refine ⟨ticket, _, h, ?_⟩
      rintro _ ⟨⟩
      rw [Reserved.reserved h]
      nofun
  | settled ticket =>
      refine ⟨ticket, _, h, ?_⟩
      rintro _ ⟨⟩
      nofun
  | credited ticketTypeId =>
      obtain ⟨ticket, _, h⟩ := h
      refine ⟨ticket, _, h, ?_⟩
      rintro _ ⟨⟩
      nofun
  | _ => exact settles.elim

/-- A call that runs the refund script has the ticket locked and not sold, or suspects it. -/
theorem Coherent.refunds {db : Database ι} (h : Coherent db t id g) (refunds : g.Refunds g') :
    g.Suspects ∨ ∀ ticket, db.tickets.Version id ticket → ticket.status ≠ .sold := by
  cases refunds with
  | @refund ticket reserved =>
      refine .inr fun _ => unsold_of_heldBy h.1 h.2 (by rw [reserved]; nofun) ?_
      rintro _ ⟨⟩
      rw [reserved]
      nofun
  | credit =>
      obtain ⟨ticket, _, h⟩ := h
      refine .inr fun _ => unsold_of_heldBy h.row h.version (by rw [h.reserved]; nofun) ?_
      rintro _ ⟨⟩
      nofun
  | collect => exact .inl trivial

/-- Two calls that have the ticket locked are one. -/
theorem eq_of_heldBy {db : Database ι} {version version' : Option Ticket}
    (held : db.tickets.heldBy t id = some version)
    (held' : db.tickets.heldBy u id = some version') : u = t := by
  by_contra other
  rw [heldBy_none_of_ne other held] at held'
  cases held'

/-- A ticket that a call has locked `RESERVED`, and is not to cancel, is not processed. -/
theorem Accounted.unprocessed {ghost : ι → Milestone} {db : Database ι} {r : RedisDb}
    {ticket : Ticket} {version : Option Ticket} (h : Accounted id db r ghost)
    (coherent : ∀ u, Coherent db u id (ghost u)) (held : db.tickets.heldBy t id = some version)
    (reserved : db.tickets.Version id ticket ∧ ticket.status = .reserved)
    (other : ¬ (ghost t).Settles) : ¬ Processed id r := by
  intro processed
  rcases h processed with past | ⟨u, settles⟩
  · exact past.left ticket reserved.1 reserved.2
  · obtain ⟨_, _, h, _⟩ := (coherent u).settles settles
    rw [eq_of_heldBy held h.version] at settles
    exact other settles

/-- Only the refund script makes a call settle the ticket. -/
theorem Step.settles_of (step : Step d id g cmd answer g') (settles : g'.Settles) :
    g.Settles ∨ g.Refunds g' ∧ (∃ a, answer = .ok a) ∧
      ∃ ticketTypeId, cmd = .redis d.workerRedis (.evalRefund ticketTypeId (toString id)) := by
  cases step with
  | apart => exact .inl settles
  | refund reserved => exact .inr ⟨.refund reserved, ⟨_, rfl⟩, _, rfl⟩
  | credit => exact .inr ⟨.credit, ⟨_, rfl⟩, _, rfl⟩
  | settle => exact .inl trivial
  | fail _ =>
      cases g with
      | _ => exact settles.elim
  | rolled ends | closed ends =>
      cases g with
      | away | seen | unborn _ | locked _ | spoiled | kept _ | listed _ | due | doomed =>
          cases ends
          exact settles.elim
      | _ => cases ends
  | _ => exact settles.elim

/-- A ticket that a call is to cancel is processed. -/
theorem Step.processed_of_settles (shared : d.apiRedis = d.workerRedis)
    (step : Step d id g cmd answer g') (ran : exec t cmd choice w = some (answer, w'))
    (before : g.Settles → Processed id (w.redis d.apiRedis)) (settles : g'.Settles) :
    Processed id (w'.redis d.apiRedis) := by
  have registers := step.registers shared ran
  rcases step.settles_of settles with earlier | ⟨_, ⟨a, rfl⟩, ticketTypeId, rfl⟩
  · exact registers.processed (before earlier)
  · obtain ⟨r, done, rfl⟩ := ran_redis ran
    cases done
    dsimp only
    rw [← shared, Function.update_self]
    exact refundScript_registers.1

/-- A booking reaches this milestone by entering its ticket. -/
theorem Step.entered_of {clock : Int} (step : Step d id g cmd answer g')
    (ran : exec t cmd choice w = some (answer, w')) (own : g' = .entered clock) :
    g = .entered clock ∨ Listed id (w'.redis d.apiRedis) := by
  cases step with
  | apart => exact .inl own
  | enter =>
      obtain ⟨r, done, rfl⟩ := ran_redis ran
      cases done
      dsimp only
      rw [Function.update_self]
      exact .inr ⟨_, List.mem_append_right _ (List.mem_singleton_self _)⟩
  | fail _ =>
      cases g with
      | _ => cases own
  | rolled ends | closed ends =>
      subst own
      cases g with
      | _ => cases ends
  | _ => cases own

/-- A booking that goes on keeps its milestone, or is committed. -/
theorem Step.of_entered {clock : Int} {a : cmd.Resp}
    (step : Step d id (.entered clock) cmd (.ok a) g') (h : Coherent w.db t id (.entered clock))
    (ran : exec t cmd choice w = some (.ok a, w')) :
    g' = .entered clock ∨ w'.db.tickets.row id ≠ none := by
  cases step with
  | apart => exact .inl rfl
  | book =>
      obtain ⟨_, ticket, held, _⟩ := h
      refine .inr ?_
      rw [(row_of_commit ran held).1]
      nofun
  | rolled ends | closed ends => cases ends

theorem unlisted_of_hdel (ran : exec t (.redis d.apiRedis (.hdel (toString id))) choice w =
    some (.ok (), w')) : ¬ Listed id (w'.redis d.apiRedis) := by
  obtain ⟨r, done, rfl⟩ := ran_redis ran
  cases done
  dsimp only
  rw [Function.update_self]
  exact not_listed_hdel

/-- A deletion that goes on keeps its milestone, or has removed the entry. -/
theorem Step.of_gone {a : cmd.Resp} (step : Step d id .gone cmd (.ok a) g')
    (ran : exec t cmd choice w = some (.ok a, w')) :
    g' = .gone ∨ ¬ Listed id (w'.redis d.apiRedis) := by
  cases step with
  | apart => exact .inl rfl
  | clear => exact .inr (unlisted_of_hdel ran)
  | rolled ends | closed ends => cases ends

/-- A payment that goes on keeps its milestone, or has removed the entry. -/
theorem Step.of_paid {ownerId : Int} {a : cmd.Resp}
    (step : Step d id (.paid ownerId) cmd (.ok a) g')
    (ran : exec t cmd choice w = some (.ok a, w')) :
    g' = .paid ownerId ∨ ¬ Listed id (w'.redis d.apiRedis) := by
  cases step with
  | apart => exact .inl rfl
  | keep => exact .inr (unlisted_of_hdel ran)
  | rolled ends | closed ends => cases ends

/-- Only the listing makes a call suspect the ticket. -/
theorem Step.suspects_of (step : Step d id g cmd answer g') (suspects : g'.Suspects) :
    g.Suspects ∨ cmd = .redis d.workerRedis .hgetall := by
  cases step with
  | apart => exact .inl suspects
  | list => exact .inr rfl
  | suspect _ | judge _ _ | collect => exact .inl trivial
  | fail _ =>
      rw [suspects.failed] at suspects
      exact .inl suspects
  | rolled ends | closed ends =>
      rw [suspects.ended ends] at suspects
      exact .inl suspects
  | _ => exact suspects.elim

/-- A call that is to cancel the ticket goes on, or has canceled it. -/
theorem Step.settles {a : cmd.Resp} (step : Step d id g cmd (.ok a) g') (h : Coherent w.db t id g)
    (ran : exec t cmd choice w = some (.ok a, w')) (settles : g.Settles) :
    g'.Settles ∨ Past w'.db id := by
  cases step with
  | apart => exact .inl settles
  | settle => exact .inl trivial
  | cancel => exact .inr (past_of_cancel h ran)
  | reap =>
      obtain ⟨ticket, _, h⟩ := h
      exact .inr (past_of_cancel h ran)
  | rolled ends | closed ends =>
      rw [settles.ended] at ends
      cases ends
  | _ => exact settles.elim

theorem accounted_step {ghost : ι → Milestone} (shared : d.apiRedis = d.workerRedis)
    (step : Step d id (ghost t) cmd answer g') (coherent : ∀ u, Coherent w.db u id (ghost u))
    (ran : exec t cmd choice w = some (answer, w'))
    (firm : (ghost t).Settles → Processed id (w.redis d.apiRedis) → ∃ a, answer = .ok a)
    (collects : ghost t = .doomed → Past w.db id)
    (before : Accounted id w.db (w.redis d.apiRedis) ghost) :
    Accounted id w'.db (w'.redis d.apiRedis) (Function.update ghost t g') := by
  intro processed
  have advance := step.advance (coherent t) ran
  by_cases earlier : Processed id (w.redis d.apiRedis)
  · rcases before earlier with past | ⟨u, settles⟩
    · exact .inl (advance.past past)
    · by_cases same : u = t
      · subst same
        obtain ⟨a, rfl⟩ := firm settles earlier
        rcases step.settles (coherent u) ran settles with settles | past
        · exact .inr ⟨u, by rwa [Function.update_self]⟩
        · exact .inl past
      · exact .inr ⟨u, by rwa [Function.update_of_ne same]⟩
  · generalize own : ghost t = g at step collects
    cases step.registers shared ran with
    | same _ same | entered _ same | cleared _ _ same => exact (earlier (same.mp processed)).elim
    | refunded refunds _ _ =>
        cases refunds with
        | refund _ | credit => exact .inr ⟨t, by rw [Function.update_self]; trivial⟩
        | collect => exact .inl (advance.past (collects rfl))

/-! ## Calls that do not fail -/

section Clean

variable {e : Exn}

/-- Without failures, a call that has something left to do does not raise; a payment whose ticket is
deleted does. -/
theorem Step.clean (step : Step d id g cmd (.error e) g') (h : Coherent w.db t id g)
    (clean : choice.fault = none) (ran : exec t cmd choice w = some (.error e, w')) :
    g' = g.failed ∧ ¬ g.Settles ∧ (∀ clock, g ≠ .entered clock) ∧ g ≠ .gone ∧
      ∀ ownerId, g = .paid ownerId → w.db.tickets.row id = none := by
  cases step with
  | fail exposed =>
      cases g with
      | entered clock | settled ticket =>
          cases cmd with
          | db statement => cases statement with
              | commit => exact (commit_clean clean ran).elim
              | _ => exact exposed.elim
          | _ => exact exposed.elim
      | credited ticketTypeId =>
          cases cmd with
          | db statement => cases statement with
              | commit => exact (commit_clean clean ran).elim
              | _ => exact exposed.elim
          | redis n command => exact (redis_clean clean ran).elim
          | _ => exact exposed.elim
      | gone =>
          cases cmd with
          | redis n command => exact (redis_clean clean ran).elim
          | _ => exact exposed.elim
      | refunded ticket =>
          cases cmd with
          | db statement => cases statement with
              | updateTicketStatus ticketId status =>
                  have same : ticketId = id := exposed
                  subst same
                  obtain ⟨db', done⟩ := run_of_clean clean ran
                  have read : w.db.tickets.read t ticketId = some ticket :=
                    read_of_heldBy h.version
                  simp only [DbCmd.run, Database.updateTicketStatus, read] at done
                  split at done
                  · cases done
                  · cases done
              | _ => exact exposed.elim
          | _ => exact exposed.elim
      | paid ownerId =>
          cases cmd with
          | redis n command => exact (redis_clean clean ran).elim
          | db statement => cases statement with
              | refreshTicket ticketId =>
                  have same : ticketId = id := exposed
                  subst same
                  obtain ⟨db', done⟩ := run_of_clean clean ran
                  refine ⟨rfl, not_false, (fun _ same => by cases same),
                    (fun same => by cases same), fun _ _ => ?_⟩
                  rcases (DbCmd.run_refreshTicket done).2 with ⟨absent, _⟩ | ⟨_, _, failed⟩
                  · rwa [read_of_not_held h.1] at absent
                  · cases failed
              | _ => exact exposed.elim
          | _ => exact exposed.elim
      | _ =>
          exact ⟨rfl, not_false, (fun _ same => by cases same), (fun same => by cases same),
            fun _ same => by cases same⟩

end Clean

/-! ## Disciplines of a ticket -/

section Runs

variable {guard : CallEvent ι → Prop}
  {also : List (CallEvent ι) → World ι → (ι → Milestone) → Prop}

/-- The milestones mean what they say, and something else is true besides. -/
def discipline (id : Int) (guard : CallEvent ι → Prop)
    (also : List (CallEvent ι) → World ι → (ι → Milestone) → Prop) :
    Discipline ι (World ι) Cmd Cmd.Resp Exn Choice Milestone where
  guard := guard
  inv events w ghost := (∀ u, Coherent w.db u id (ghost u)) ∧ also events w ghost

/-- Every guarded step of the custody keeps `also`. -/
def Kept (d : Deployment) (id : Int) (guard : CallEvent ι → Prop)
    (also : List (CallEvent ι) → World ι → (ι → Milestone) → Prop) : Prop :=
  ∀ t events w ghost cmd choice answer w' g', (∀ u, Coherent w.db u id (ghost u)) →
    also events w ghost → exec t cmd choice w = some (answer, w') →
    guard ⟨t, cmd, choice, answer, w, w'⟩ → Step d id (ghost t) cmd answer g' →
    also (events ++ [⟨t, cmd, choice, answer, w, w'⟩]) w' (Function.update ghost t g')

theorem Kept.governs (kept : Kept d id guard also) :
    (protocol d id).Governs (discipline id guard also) exec :=
  fun t events w ghost cmd choice answer w' inv ran ok =>
    ⟨answers_of_exec ran, fun g' step => ⟨coherent_step step inv.1 ran,
      kept t events w ghost cmd choice answer w' g' inv.1 inv.2 ran ok step⟩⟩

/-- **The rule of custody.** What every guarded step keeps is true after every run of activities
from a world in which no ticket is locked; and an activity that is not in flight is at rest. -/
theorem Kept.run {events : List (CallEvent ι)} {c : Config ι (World ι) Cmd Cmd.Resp Exn Unit}
    (kept : Kept d id guard also) (activities : ι → Activity)
    (quiet : w.db.tickets.Quiet) (start : also [] w fun _ => .away)
    (run : Config.Run exec ⟨w, fun t => (activities t).program d⟩ events c)
    (guarded : ∀ e ∈ events, guard e) :
    ∃ ghost : ι → Milestone, (∀ u, Coherent c.shared.db u id (ghost u)) ∧
      also events c.shared ghost ∧
      (∀ t outcome, c.Finished t outcome → Ends id (activities t) outcome (ghost t)) ∧
      ∀ t, ¬ c.InFlight events t → (ghost t).AtRest := by
  have away : ∀ u, Coherent w.db u id .away := fun u => by
    show w.db.tickets.heldBy u id = none
    unfold heldBy
    rw [quiet id]
  obtain ⟨ghost, ⟨coherent, holds⟩, ends, idle⟩ := kept.governs.run
    (fun t outcome g => Ends id (activities t) outcome g)
    (fun D' governs t => follows_activity governs (activities t)) ⟨away, start⟩ run guarded
  refine ⟨ghost, coherent, holds, ends, fun t still => ?_⟩
  rcases idle t still with away | ⟨outcome, ended⟩
  · rw [away]
    trivial
  · exact ended.1

end Runs

end Custody

/-- Three tickets of a type are on sale, and nothing is booked yet. -/
def saleDay {ι : Type} : World ι where
  db :=
    { tickets := .ofList []
      ticketTypes := .ofList [exampleType 3 0]
      users := {1}
      events := .ofList [exampleEvent] }
  redis _ := { RedisDb.empty with inventory := fun id => if id = 1 then some 3 else none }
  jobs := []

end TicketCore
