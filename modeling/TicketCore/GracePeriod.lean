import TicketCore.Booking.Runs
import TicketCore.Custody.Registry
import TicketCore.Routing
import Mathlib.Data.Fin.VecNotation

/-!
# The grace period of the collector

`reconcile_redis_orphans` lists the reservation entries, reads the clock, selects the tickets of the
old entries and then refunds those that are missing or `CANCELED`. An entry is written before its
ticket is committed, so a missing ticket can be one that is still being booked.

* `spares_live_tickets`: when every booking ends within sixty seconds of reading the clock for its
  entry, the collector refunds no ticket that is `RESERVED`, `SOLD` or still being booked.
-/

namespace TicketCore

open Interleave RowStore Booking Custody

variable {ι : Type} [DecidableEq ι]

/-! ## The time that a booking takes -/

/-- How far a transaction has come that inserts a ticket. -/
inductive Opened
  | idle
  | inserted
  | stamped (clock : Int)

/-- What an event of the transaction does. -/
def Opened.next (id : Int) (opened : Opened) : CallEvent ι → Opened
  | ⟨_, .db (.insertTicket ..), _, .ok new, _, _⟩ => if new = id then inserted else opened
  | ⟨_, .now, _, .ok clock, _, _⟩ =>
      match opened with
      | inserted => stamped clock
      | _ => opened
  | ⟨_, .db .commit, _, .ok _, _, _⟩ | ⟨_, .db .rollback, _, .ok _, _, _⟩
  | ⟨_, .db .close, _, .ok _, _, _⟩ => idle
  | _ => opened

/-- How far thread `t` has come with the transaction that inserts the ticket. -/
def opened (id : Int) (events : List (CallEvent ι)) (t : ι) : Opened :=
  events.foldl (fun opened e => if e.thread = t then opened.next id e else opened) .idle

/-- While a booking is open that has read the clock for its entry, at most sixty seconds pass. -/
def Punctual (events : List (CallEvent ι)) : Prop :=
  ∀ before e after, events = before ++ e :: after → ∀ id t clock,
    opened id before t = .stamped clock → e.choice.clock ≤ clock + 60 * 1000000

theorem opened_snoc {id : Int} {events : List (CallEvent ι)} {e : CallEvent ι} {t : ι} :
    opened id (events ++ [e]) t =
      if e.thread = t then (opened id events t).next id e else opened id events t := by
  unfold opened
  rw [List.foldl_append]
  rfl

theorem Punctual.init {events : List (CallEvent ι)} {e : CallEvent ι}
    (h : Punctual (events ++ [e])) : Punctual events :=
  fun before e' after same => h before e' (after ++ [e]) (by rw [same, List.append_assoc]; rfl)

theorem Punctual.last {events : List (CallEvent ι)} {e : CallEvent ι} {id clock : Int} {t : ι}
    (h : Punctual (events ++ [e])) (open' : opened id events t = .stamped clock) :
    e.choice.clock ≤ clock + 60 * 1000000 :=
  h events e [] rfl id t clock open'

/-- A booking has read the clock at an event of the run. -/
theorem exists_of_opened {events : List (CallEvent ι)} {id clock : Int} {t : ι}
    (ran : ∀ e ∈ events, exec e.thread e.cmd e.choice e.before = some (e.answer, e.after))
    (stamped : opened id events t = .stamped clock) : ∃ e ∈ events, e.choice.clock = clock := by
  induction events using List.reverseRecOn with
  | nil => cases stamped
  | append_singleton events e ih =>
      have earlier : opened id events t = .stamped clock → ∃ e' ∈ events ++ [e],
          e'.choice.clock = clock := fun stamped => by
        obtain ⟨e', mem, same⟩ := ih (fun e' mem => ran e' (List.mem_append_left _ mem)) stamped
        exact ⟨e', List.mem_append_left _ mem, same⟩
      have last := ran e (List.mem_append_right _ (List.mem_singleton_self _))
      rw [opened_snoc] at stamped
      split at stamped
      · unfold Opened.next at stamped
        split at stamped
        · split at stamped
          · cases stamped
          · exact earlier stamped
        · split at stamped
          · cases stamped
            refine ⟨_, List.mem_append_right _ (List.mem_singleton_self _), ?_⟩
            have answered := congrArg (Option.map Prod.fst) (ran_of_ok last)
            exact Except.ok.inj (Option.some.inj answered)
          · exact earlier stamped
        · cases stamped
        · cases stamped
        · cases stamped
        · exact earlier stamped
      · exact earlier stamped

/-- A run that is over within sixty seconds is punctual. -/
theorem Punctual.of_brief {events : List (CallEvent ι)}
    (ran : ∀ e ∈ events, exec e.thread e.cmd e.choice e.before = some (e.answer, e.after))
    (brief : ∀ e ∈ events, ∀ e' ∈ events, e'.choice.clock ≤ e.choice.clock +
      60 * 1000000) :
    Punctual events := by
  rintro before e after rfl id t clock stamped
  obtain ⟨e', mem, rfl⟩ :=
    exists_of_opened (fun e' mem => ran e' (List.mem_append_left _ mem)) stamped
  refine brief e' (List.mem_append_left _ mem) e ?_
  exact List.mem_append_right _ (List.mem_cons_self ..)

/-! ## The collector -/

/-- The collector runs the refund script for a ticket. -/
def Strikes (d : Deployment) (ops : ι → Operation) (id : Int) (e : CallEvent ι) : Prop :=
  ops e.thread = .reconcileRedisOrphans ∧
    (∃ ticketTypeId, e.cmd = .redis d.workerRedis (.evalRefund ticketTypeId (toString id))) ∧
    ∀ exn, e.answer ≠ .error exn

/-- The transaction that inserts the ticket is still open. -/
def BeingBooked (db : Database ι) (id : Int) : Prop :=
  db.tickets.row id = none ∧ ∃ lock ∈ db.tickets.held id, lock.2.isSome

/-- The ticket is `RESERVED` or `SOLD`, or being booked. -/
def Live (db : Database ι) (id : Int) : Prop :=
  (∃ ticket, db.tickets.row id = some ticket ∧ ticket.Active) ∨ BeingBooked db id

/-- The ticket was committed, and every version of it is `CANCELED`. -/
structure Over (db : Database ι) (id : Int) : Prop where
  landed : Landed db id
  canceled : ∀ ticket, db.tickets.Version id ticket → ticket.status = .canceled

omit [DecidableEq ι] in
theorem Over.past {db : Database ι} {id : Int} (h : Over db id) : Past db id where
  known := h.landed.known
  left ticket version := by
    rw [h.canceled ticket version]
    nofun

omit [DecidableEq ι] in
theorem Over.not_live {db : Database ι} {id : Int} (h : Over db id) : ¬ Live db id := by
  rintro (⟨ticket, row, active⟩ | ⟨absent, lock, held, _⟩)
  · exact active (h.canceled ticket (.inl row))
  · rw [h.landed.free absent] at held
    cases held

/-- A call of the collector. -/
def OfCollector (d : Deployment) : Cmd → Prop
  | .db (.selectStatuses _) | .db .close | .now => True
  | .redis n .hgetall | .redis n (.evalRefund ..) => n = d.workerRedis
  | _ => False

variable {d : Deployment} {ops : ι → Operation} {id : Int} {t u : ι}
  {events : List (CallEvent ι)}
  {w w' : World ι} {ghost : ι → Milestone} {g g' : Milestone} {cmd : Cmd} {choice : Choice}
  {answer : Except Exn cmd.Resp}

theorem Over.advance (h : Over w.db id) (advance : Advance w w' t id g') : Over w'.db id where
  landed := advance.landed h.landed
  canceled ticket version := h.canceled ticket (advance.versions h.past ticket version)

/-! ## One ticket -/

/-- What a milestone of thread `u` says of its transaction. -/
def Stamps (o : Opened) : Milestone → Prop
  | .born => o = .inserted
  | .stamped clock | .entered clock | .unborn clock => o = .stamped clock
  | _ => True

/-- The ticket of a lock was committed, or it is still being booked, and the lock has the time of
its booking. -/
def Knows (db : Database ι) (ghost : ι → Milestone) (lock : Reservation) : Prop :=
  Landed db lock.ticketId ∨
    ∃ u clock, (ghost u = .entered clock ∨ ghost u = .unborn clock) ∧
    lock.timestamp = seconds clock

/-- What is known of the locks of a ticket. -/
def KnowsAll (id : Int) (db : Database ι) (ghost : ι → Milestone)
    (entries : List (String × String)) : Prop :=
  ∀ entry ∈ entries, ∀ lock, readReservation entry = some lock → lock.ticketId = id →
    Knows db ghost lock

/-- What the calls keep of a ticket. -/
structure Protected (d : Deployment) (ops : ι → Operation) (id : Int)
    (events : List (CallEvent ι)) (w : World ι) (ghost : ι → Milestone) : Prop where
  stamps : ∀ u, Stamps (opened id events u) (ghost u)
  entries : KnowsAll id w.db ghost (w.redis d.workerRedis).activeReservations
  listed : ∀ u rawData, ghost u = .listed rawData → KnowsAll id w.db ghost rawData
  due : ∀ u, ghost u = .due → Landed w.db id
  doomed : ∀ u, ghost u = .doomed → Over w.db id
  canceled : ∀ ticket, w.db.tickets.row id = some ticket →
      ticket.status = .canceled → Over w.db id
  collects : ∀ u, ops u = .reconcileRedisOrphans → Collects (ghost u)
  spared : ∀ e ∈ events, Strikes d ops id e → ¬ Live e.before.db id

section Steps

omit [DecidableEq ι] in
/-- A call about other tickets says nothing of the transaction. -/
theorem Opened.next_apart {o : Opened} {a : cmd.Resp} {w₁ w₂ : World ι} (apart : Apart id cmd)
    (other : ¬ Books id cmd a) (stamped : cmd = .now → o ≠ .inserted) :
    o.next id ⟨t, cmd, choice, .ok a, w₁, w₂⟩ = o := by
  cases cmd with
  | now =>
      cases o with
      | inserted => exact (stamped rfl rfl).elim
      | idle | stamped clock => rfl
  | db statement =>
      cases statement with
      | insertTicket ownerId ticketTypeId => exact if_neg other
      | commit | rollback | close => exact (apart.1 trivial).elim
      | _ => rfl
  | _ => rfl

omit [DecidableEq ι] in
/-- Nor does a call that raises. -/
theorem Opened.next_error {o : Opened} {e : Exn} {w₁ w₂ : World ι} :
    o.next id ⟨t, cmd, choice, .error e, w₁, w₂⟩ = o := by
  cases cmd with
  | db statement =>
      cases statement with
      | _ => rfl
  | _ => rfl

omit [DecidableEq ι] in
/-- The milestones still say how far the transactions have come. -/
theorem Stamps.step {o : Opened} {w₁ w₂ : World ι} (h : Stamps o g)
    (step : Step d id g cmd answer g') :
    Stamps (o.next id ⟨t, cmd, choice, answer, w₁, w₂⟩) g' := by
  cases step with
  | apart apart other born =>
      cases g with
      | stamped clock | entered clock | unborn clock =>
          rw [Opened.next_apart apart other fun _ => by rw [show o = .stamped clock from h]; nofun]
          exact h
      | born => exact (born rfl).elim
      | _ => trivial
  | fail _ =>
      rw [Opened.next_error]
      cases g with
      | born | stamped clock | entered clock | unborn clock => exact h
      | _ => trivial
  | rolled ends | closed ends =>
      cases g with
      | away | seen | unborn _ | locked _ | spoiled | kept _ | listed _ | due | doomed =>
          cases ends
          trivial
      | _ => cases ends
  | insert => exact if_pos rfl
  | stamp =>
      rw [show o = .inserted from h]
      rfl
  | enter => exact h
  | _ => trivial

/-- A booking that is entered goes on, or its transaction ends. -/
theorem Custody.Step.of_booking {clock : Int} (step : Step d id g cmd answer g')
    (own : g = .entered clock ∨ g = .unborn clock) (h : Coherent w.db t id g)
    (ran : exec t cmd choice w = some (answer, w')) :
    (g' = .entered clock ∨ g' = .unborn clock) ∨ Landed w'.db id := by
  obtain ⟨ticket, held⟩ : ∃ ticket, w.db.tickets.heldBy t id = some (some ticket) := by
    rcases own with rfl | rfl
    · exact ⟨h.2.choose, h.2.choose_spec.1⟩
    · exact ⟨h.2.choose, h.2.choose_spec.1⟩
  have known := w.db.tickets.held_issued id (held_isSome (heldBy_eq_some.mp held))
  have issued := (step.advance h ran).issued
  have released : w'.db.tickets.held id = none → Landed w'.db id := fun free =>
    ⟨⟨known.1, known.2.trans (by omega)⟩, fun _ => free⟩
  cases step with
  | apart => exact .inl own
  | fail _ =>
      rcases own with rfl | rfl
      · exact .inl (.inr rfl)
      · exact .inl (.inr rfl)
  | book => exact .inr (released (row_of_commit ran held).2)
  | rolled _ | closed _ =>
      obtain ⟨db', done, rfl⟩ := ran_db ran
      cases done
      exact .inr (released (release_of_heldBy held))
  | _ => rcases own with own | own <;> cases own

/-- What is known of a lock stays known. -/
theorem Knows.step {lock : Reservation} (h : Knows w.db ghost lock) (own : lock.ticketId = id)
    (step : Step d id (ghost t) cmd answer g') (coherent : Coherent w.db t id (ghost t))
    (ran : exec t cmd choice w = some (answer, w')) :
    Knows w'.db (Function.update ghost t g') lock := by
  subst own
  rcases h with landed | ⟨u, clock, booking, stamp⟩
  · exact .inl ((step.advance coherent ran).landed landed)
  · by_cases same : u = t
    · subst same
      rcases step.of_booking booking coherent ran with goes | landed
      · exact .inr ⟨u, clock, by rwa [Function.update_self], stamp⟩
      · exact .inl landed
    · exact .inr ⟨u, clock, by rwa [Function.update_of_ne same], stamp⟩

/-- An entry was there before, or is written now. -/
theorem entry_of_exec {n : Nat} {entry : String × String}
    (ran : exec t cmd choice w = some (answer, w'))
    (mem : entry ∈ (w'.redis n).activeReservations) :
    entry ∈ (w.redis n).activeReservations ∨
      ∃ m a, cmd = .redis m (.hset entry.1 entry.2) ∧ answer = .ok a := by
  rcases exec_cases ran with ⟨_, _, _, _, rfl⟩ | ran
  · exact .inl mem
  cases cmd with
  | now | enqueueJob job => cases ran; exact .inl mem
  | handler =>
      have done : (choice.outcome, w) = (answer, w') := Option.some.inj ran
      obtain ⟨_, rfl⟩ := Prod.mk.inj done
      exact .inl mem
  | db statement =>
      obtain ⟨_, _, rfl⟩ := Cmd.run_db ran
      exact .inl mem
  | redis m command =>
      obtain ⟨a, r, done, rfl, rfl⟩ := Cmd.run_redis ran
      dsimp only at mem
      by_cases same : n = m
      · subst same
        rw [Function.update_self] at mem
        exact (RedisCmd.entry_of_run done mem).imp_right fun writes =>
          ⟨n, a, by rw [writes], rfl⟩
      · rw [Function.update_of_ne same] at mem
        exact .inl mem

/-- What is known of the entries stays known. -/
theorem KnowsAll.step {rawData : List (String × String)} (h : KnowsAll id w.db ghost rawData)
    (step : Step d id (ghost t) cmd answer g') (coherent : Coherent w.db t id (ghost t))
    (ran : exec t cmd choice w = some (answer, w')) :
    KnowsAll id w'.db (Function.update ghost t g') rawData :=
  fun entry mem lock read own => (h entry mem lock read own).step own step coherent ran

theorem Protected.step_entries (inv : Protected d ops id events w ghost)
    (step : Step d id (ghost t) cmd answer g') (coherent : Coherent w.db t id (ghost t))
    (ran : exec t cmd choice w = some (answer, w')) :
    KnowsAll id w'.db (Function.update ghost t g') (w'.redis d.workerRedis).activeReservations := by
  intro entry mem lock read own
  rcases entry_of_exec ran mem with before | ⟨m, a, rfl, rfl⟩
  · exact inv.entries.step step coherent ran entry before lock read own
  · -- An entry of another ticket has that ticket's id in its key.
    generalize milestone : ghost t = g at step
    obtain ⟨field, value⟩ := entry
    cases step with
    | apart apart =>
        obtain ⟨other, ticketId, same⟩ := apart
        have same : field = toString ticketId := same
        subst same
        rw [← own, ticketId_of_readReservation read] at other
        exact (other rfl).elim
    | @enter clock ticketTypeId =>
        cases read.symm.trans (readReservation_reservationValue id ticketTypeId (seconds clock))
        exact .inr ⟨t, clock, by rw [Function.update_self]; exact .inl rfl, rfl⟩

/-- A collector has listed what is stored. -/
theorem Custody.Step.of_listed {rawData : List (String × String)}
    (step : Step d id g cmd answer g') (own : g' = .listed rawData)
    (ran : exec t cmd choice w = some (answer, w')) :
    g = .listed rawData ∨ rawData.Perm (w.redis d.workerRedis).activeReservations := by
  have suspects : g'.Suspects := by
    rw [own]
    trivial
  cases step with
  | apart => exact .inl own
  | fail _ => exact .inl (suspects.failed.symm.trans own)
  | rolled ends | closed ends => exact .inl ((suspects.ended ends).symm.trans own)
  | list =>
      cases own
      obtain ⟨r, done, _⟩ := ran_redis ran
      obtain ⟨rfl, _⟩ := Prod.mk.inj (Option.some.inj done)
      exact .inr (arrange_perm _ _)
  | _ => cases own

/-- A collector has found one of the listed entries to be old. -/
theorem Custody.Step.of_due (step : Step d id g cmd answer g') (own : g' = .due)
    (ran : exec t cmd choice w = some (answer, w')) :
    g = .due ∨ ∃ rawData, g = .listed rawData ∧ Overdue id rawData choice.clock := by
  have suspects : g'.Suspects := by
    rw [own]
    trivial
  cases step with
  | apart => exact .inl own
  | fail _ => exact .inl (suspects.failed.symm.trans own)
  | rolled ends | closed ends => exact .inl ((suspects.ended ends).symm.trans own)
  | suspect overdue =>
      cases ran_of_ok ran
      exact .inr ⟨_, rfl, overdue⟩
  | _ => cases own

/-- A collector has then found the ticket to be missing or `CANCELED`. -/
theorem Custody.Step.of_doomed (step : Step d id g cmd answer g') (own : g' = .doomed)
    (h : Coherent w.db t id g) (ran : exec t cmd choice w = some (answer, w')) :
    g = .doomed ∨ g = .due ∧ ∀ ticket, w.db.tickets.row id = some ticket →
      ticket.status = .canceled := by
  have suspects : g'.Suspects := by
    rw [own]
    trivial
  cases step with
  | apart => exact .inl own
  | fail _ => exact .inl (suspects.failed.symm.trans own)
  | rolled ends | closed ends => exact .inl ((suspects.ended ends).symm.trans own)
  | judge asked orphaned =>
      obtain ⟨_, done, _⟩ := ran_db ran
      cases done
      rw [Database.lookup_selectStatuses, if_pos asked, read_of_not_held h] at orphaned
      refine .inr ⟨rfl, fun ticket row => ?_⟩
      rw [row] at orphaned
      rcases orphaned with missing | canceled
      · cases missing
      · exact Option.some.inj canceled
  | collect => exact .inl rfl
  | _ => cases own

section Keeps

variable (inv : Protected d ops id events w ghost) (step : Step d id (ghost t) cmd answer g')
  (ran : exec t cmd choice w = some (answer, w')) (coherent : Coherent w.db t id (ghost t))

include inv step ran

/-- An old entry is one of a ticket that was committed. -/
theorem Protected.step_due (punctual : Punctual (events ++ [⟨t, cmd, choice, answer, w, w'⟩]))
    (own : g' = .due) : Landed w.db id := by
  rcases step.of_due own ran with before | ⟨rawData, listed, entry, mem, lock, read, mine, old⟩
  · exact inv.due t before
  · rcases inv.listed t rawData listed entry mem lock read mine with
      landed | ⟨u, clock, booking, stamp⟩
    · rwa [mine] at landed
    · have stamped : opened id events u = .stamped clock := by
        have stamps := inv.stamps u
        rcases booking with booking | booking
        · rwa [booking] at stamps
        · rwa [booking] at stamps
      have late : choice.clock ≤ clock + 60 * 1000000 := punctual.last stamped
      have old : seconds choice.clock - lock.timestamp > 60 := old
      rw [stamp] at old
      unfold seconds at old
      omega

include coherent

theorem Protected.step_listed (u : ι) (rawData : List (String × String))
    (own : Function.update ghost t g' u = .listed rawData) :
    KnowsAll id w'.db (Function.update ghost t g') rawData := by
  by_cases same : u = t
  · subst same
    rw [Function.update_self] at own
    rcases step.of_listed own ran with before | stored
    · exact (inv.listed u rawData before).step step coherent ran
    · have known := inv.entries.step step coherent ran
      exact fun entry mem => known entry (stored.mem_iff.mp mem)
  · rw [Function.update_of_ne same] at own
    exact (inv.listed u rawData own).step step coherent ran

theorem Protected.step_doomed (own : g' = .doomed) : Over w.db id := by
  rcases step.of_doomed own coherent ran with before | ⟨due, orphaned⟩
  · exact inv.doomed t before
  · have landed := inv.due t due
    cases row : w.db.tickets.row id with
    | none =>
        refine ⟨landed, fun ticket version => ?_⟩
        rcases version with stored | ⟨_, held⟩
        · rw [row] at stored
          cases stored
        · rw [landed.free row] at held
          cases held
    | some ticket => exact inv.canceled ticket row (orphaned ticket row)

theorem Protected.step_canceled (ticket : Ticket) (row : w'.db.tickets.row id = some ticket)
    (canceled : ticket.status = .canceled) : Over w'.db id := by
  have advance := step.advance coherent ran
  have commits := step.commits coherent ran
  generalize ghost t = g at commits
  cases commits with
  | same same => exact (inv.canceled ticket (same.symm.trans row) canceled).advance advance
  | booked _ row' reserved =>
      rw [row'] at row
      cases row
      rw [reserved] at canceled
      cases canceled
  | sold _ row' _ =>
      rw [row'] at row
      cases row
      cases canceled
  | vanished row' =>
      rw [row'] at row
      cases row
  | canceled _ _ free =>
      refine ⟨⟨w'.db.tickets.row_issued id (by rw [row]; rfl), fun absent => ?_⟩,
        fun ticket' version => ?_⟩
      · rw [row] at absent
        cases absent
      · rcases version with stored | ⟨_, held⟩
        · rw [row] at stored
          cases stored
          exact canceled
        · rw [free] at held
          cases held

end Keeps

/-- A collector keeps to its milestones. -/
theorem Custody.Collects.step (h : Collects g) (step : Step d id g cmd answer g')
    (calls : OfCollector d cmd) : Collects g' := by
  cases step with
  | apart => exact h
  | fail _ => exact h.facts.1
  | rolled ends | closed ends =>
      rw [h.facts.2.2.1] at ends
      cases ends
      exact h
  | list | suspect _ | judge _ _ | collect => trivial
  | _ => first | exact h.elim | exact calls.elim

/-- The refund script of a collector runs for a ticket that is over. -/
theorem Custody.Collects.strikes {ticketTypeId : Int} (h : Collects g)
    (step : Step d id g cmd answer g') (answered : ∀ exn, answer ≠ .error exn)
    (refunds : cmd = .redis d.workerRedis (.evalRefund ticketTypeId (toString id))) :
    g = .doomed := by
  cases step with
  | apart apart =>
      subst refunds
      exact (apart rfl).elim
  | fail _ => exact (answered _ rfl).elim
  | collect => rfl
  | _ => first | exact h.elim | cases refunds

end Steps

/-! ## The collector and the bookings -/

/-- The commands of a collector. -/
def CallsAs (d : Deployment) (op : Operation) (cmd : Cmd) : Prop :=
  op = .reconcileRedisOrphans → OfCollector d cmd

theorem only_callsAs {op : Operation} : (op.program d).Only (CallsAs d op) := by
  by_cases collector : op = .reconcileRedisOrphans
  · subst collector
    have calls := only_reconcileRedisOrphans (P := OfCollector d) (fun _ => trivial) trivial trivial
      rfl fun _ _ => rfl
    exact calls.mono fun _ calls _ => calls
  · exact (only_routed op).mono fun _ _ same => (collector same).elim

theorem protected_kept :
    Kept d id (fun e => CallsAs d (ops e.thread) e.cmd) fun events w ghost =>
      Punctual events → Protected d ops id events w ghost := by
  intro t events w ghost cmd choice answer w' g' coherent held ran calls step punctual
  have inv := held punctual.init
  have advance := step.advance (coherent t) ran
  have own := coherent t
  refine ⟨fun u => ?_, inv.step_entries step own ran, inv.step_listed step ran own, ?_, ?_,
    inv.step_canceled step ran own, ?_, ?_⟩
  · rw [opened_snoc]
    by_cases same : u = t
    · subst same
      rw [if_pos rfl, Function.update_self]
      exact (inv.stamps u).step step
    · rw [if_neg (Ne.symm same), Function.update_of_ne same]
      exact inv.stamps u
  · refine (Function.forall_update_iff ghost fun _ g => g = .due → _).mpr
      ⟨fun due => advance.landed (inv.step_due step ran punctual due), fun u _ due => ?_⟩
    exact advance.landed (inv.due u due)
  · refine (Function.forall_update_iff ghost fun _ g => g = .doomed → _).mpr
      ⟨fun doomed => (inv.step_doomed step ran own doomed).advance advance,
        fun u _ doomed => ?_⟩
    exact (inv.doomed u doomed).advance advance
  · refine (Function.forall_update_iff ghost fun u g => ops u = _ → Collects g).mpr
      ⟨fun collector => (inv.collects t collector).step step (calls collector), fun u _ => ?_⟩
    exact inv.collects u
  · intro e mem strikes
    rcases List.mem_append.mp mem with mem | mem
    · exact inv.spared e mem strikes
    · rw [List.mem_singleton.mp mem] at strikes ⊢
      obtain ⟨collector, ⟨ticketTypeId, refunds⟩, answered⟩ := strikes
      exact (inv.doomed t ((inv.collects t collector).strikes step answered refunds)).not_live

/-- **The collector refunds no live ticket, when every booking is done within sixty seconds.** -/
theorem spares_live_tickets {c : Config ι (World ι) Cmd Cmd.Resp Exn Unit} (quiet : w.db.Quiet)
    (issued : ∀ entry ∈ (w.redis d.workerRedis).activeReservations, ∀ lock,
      readReservation entry = some lock → 1 ≤ lock.ticketId ∧
      lock.ticketId ≤ w.db.tickets.issued)
    (run : Config.Run exec (config ops d w) events c) (punctual : Punctual events) :
    ∀ e ∈ events, ∀ id, Strikes d ops id e → ¬ Live e.before.db id := by
  intro e mem id strikes
  have start : Punctual ([] : List (CallEvent ι)) → Protected d ops id [] w fun _ => .away :=
    fun _ =>
    { stamps := fun _ => trivial
      entries := fun entry mem lock read _ =>
        .inl ⟨issued entry mem lock read, fun _ => quiet.1 lock.ticketId⟩
      listed := nofun
      due := nofun
      doomed := nofun
      canceled := fun ticket row canceled => by
        refine ⟨⟨w.db.tickets.row_issued id (by rw [row]; rfl), fun _ => quiet.1 id⟩,
          fun ticket' version => ?_⟩
        rw [version_of_quiet quiet.1 version] at row
        cases row
        exact canceled
      collects := fun _ _ => trivial
      spared := fun _ mem => (List.not_mem_nil mem).elim }
  have only := (run.only fun _ => only_callsAs).1
  have kept : Kept d id (fun e => CallsAs d (ops e.thread) e.cmd) fun events w ghost =>
      Punctual events → Protected d ops id events w ghost := protected_kept
  obtain ⟨_, _, inv, _⟩ := kept.run (fun t => .operation (ops t)) quiet.1 start run only
  exact (inv punctual).spared e mem strikes

/-- A booking, and the collector. -/
def bookAndCollect : Fin 2 → Operation :=
  ![.create 1 ⟨1, Int.one_pos⟩, .reconcileRedisOrphans]

/-- A `CANCELED` ticket still has its entry. -/
def staleEntry {ι : Type} : World ι where
  db := { (saleDay : World ι).db with tickets := .ofList [⟨1, 1, .canceled, 0⟩] }
  redis n := { (saleDay : World ι).redis n with activeReservations := [("1", "1:0")] }
  jobs := []

/-- The refund script runs for the first ticket, and the second one is locked. -/
def refundsBeside (e : CallEvent (Fin 2)) : Bool :=
  match e.cmd with
  | .redis 0 (.evalRefund _ ticketId) =>
      ticketId = "1" && (e.before.db.tickets.row 2).isNone && (e.before.db.tickets.held 2).isSome
  | _ => false

/-- The collector refunds an old entry while another ticket is booked. -/
theorem spares_live_tickets_during_booking :
    ∃ (events : List (CallEvent (Fin 2)))
      (c : Config (Fin 2) (World (Fin 2)) Cmd Cmd.Resp Exn Unit),
      Config.Run exec (config bookAndCollect sharedRedis staleEntry) events c ∧
      events.any refundsBeside ∧
      ∀ e ∈ events, ∀ id, Strikes sharedRedis bookAndCollect id e →
        ¬ Live e.before.db id := by
  have found : ((config bookAndCollect sharedRedis staleEntry).replay exec
      ((List.replicate 5 0 ++ List.replicate 5 1 ++ List.replicate 4 0 : List (Fin 2)).map
        fun t => (t, { clock := 120000000 }))).any (fun r =>
          (r.1.all fun e => e.choice.clock = 120000000) && r.1.any refundsBeside) = true := by
    decide
  obtain ⟨events, c, run, holds⟩ := Config.exists_run_of_replay
    (P := fun events _ => (events.all fun e : CallEvent (Fin 2) => e.choice.clock = 120000000) &&
      events.any refundsBeside) found
  rw [Bool.and_eq_true, List.all_eq_true] at holds
  obtain ⟨clocks, beside⟩ := holds
  have clocks : ∀ e ∈ events, e.choice.clock = 120000000 := fun e mem =>
    of_decide_eq_true (clocks e mem)
  have punctual : Punctual events := .of_brief run.executed fun e mem e' mem' => by
    rw [clocks e mem, clocks e' mem']
    omega
  refine ⟨events, c, run, beside, spares_live_tickets (by decide)
    (fun entry mem lock read => ?_) run
    punctual⟩
  have stale : readReservation ("1", "1:0") = some ⟨1, 1, 0⟩ := by decide
  rw [List.mem_singleton.mp mem, stale] at read
  cases read
  decide

end TicketCore
