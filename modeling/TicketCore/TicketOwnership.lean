import TicketCore.Alone
import TicketCore.Discretion
import Mathlib.Data.Fin.VecNotation

/-!
# Ticket ownership

A call about tickets is made for a user: it books for that user, or asks for a ticket of that user.

* `ticket_ownership`: no call changes the ticket of somebody else, in any interleaving, and what a
  call returns or raises does not depend on the tickets of others.
-/

namespace TicketCore

open Interleave RowStore

variable {ι : Type} [DecidableEq ι] {α : Type}

/-! ## The rows of others stay -/

section Runs

variable {caller : ι → Option Int} {t : ι} {userId : Int}

/-- While calls for these users go on, they leave each other's tickets alone. -/
def owners (caller : ι → Option Int) :
    Discipline ι (World ι) Cmd Cmd.Resp Exn Choice (Option Int) where
  guard _ := True
  inv := Ownership caller

theorem follows_own {p : Async α} {known : Option Int}
    (only : ∀ userId, caller t = some userId → p.Only (Own userId known)) :
    (owners caller).Follows exec t (fun _ _ => True) p known := by
  induction p with
  | done outcome => exact trivial
  | await cmd next ih =>
      intro events w ghost choice answer w' inv own ran _
      subst own
      exact ⟨ghost t, Ownership.step inv (fun userId calls => (only userId calls).1)
        (fun _ _ _ _ changed => (changed rfl).elim) ran,
        ih answer fun userId calls => (only userId calls).2 answer⟩

/-- The ticket that a call has asked for and found is the user's. -/
theorem follows_asking {cmd : DbCmd} {id : Int}
    {next : Except Exn cmd.Resp → Async α} {known : Except Exn cmd.Resp → Option Int}
    (calls : caller t = some userId) (own : Own userId none (.db cmd))
    (found : ∀ choice w w' answer, exec t (.db cmd) choice w = some (answer, w') →
      known answer ≠ none → known answer = some id ∧
        ∃ ticket, w.db.tickets.Version id ticket ∧ ticket.ownerId = userId)
    (rest : ∀ answer, (next answer).Only (Discreet userId (known answer))) :
    (owners caller).Follows exec t (fun _ _ => True) (.await (.db cmd) next) none := by
  intro events w ghost choice answer w' inv unread ran _
  refine ⟨known answer, Ownership.step inv (fun user calls' => ?_)
    (fun user calls' id' knows _ => ?_)
    ran, follows_own fun user calls' => ?_⟩
  · rw [calls] at calls'
    cases calls'
    rw [unread]
    exact own
  · rw [calls] at calls'
    cases calls'
    obtain ⟨same, ticket, version, owner⟩ := found choice w w' answer ran (by rw [knows]; nofun)
    obtain rfl : id = id' := Option.some.inj (same.symm.trans knows)
    rw [← owner]
    exact inv.one id ticket version
  · rw [calls] at calls'
    cases calls'
    exact (rest answer).mono fun _ => Discreet.own

omit [DecidableEq ι] in
theorem version_of_shown {id : Int} {answer : Except Exn (Option Ticket)} {s : RowStore ι Ticket}
    (seen : ∀ ticket, answer = .ok (some ticket) → s.Version id ticket ∧
      ticket.ownerId = userId)
    (known : shown id answer ≠ none) :
    shown id answer = some id ∧ ∃ ticket, s.Version id ticket ∧ ticket.ownerId = userId := by
  match answer with
  | .error _ | .ok none => exact (known rfl).elim
  | .ok (some ticket) => exact ⟨rfl, ticket, seen ticket rfl⟩

theorem Asks.follows {p : Async α} (h : Asks userId p) (calls : caller t = some userId) :
    (owners caller).Follows exec t (fun _ _ => True) p none := by
  cases h with
  | @select id next rest =>
      refine follows_asking calls trivial (fun choice w w' answer ran => version_of_shown ?_) rest
      rintro ticket rfl
      obtain ⟨db', done, rfl⟩ := ran_db ran
      have selected := Except.ok.inj (DbCmd.run_selectTicket done).1
      obtain ⟨read, owner⟩ := DbCmd.selectTicket_some selected.symm
      exact ⟨version_of_read read, owner⟩
  | @lock id next rest =>
      refine follows_asking calls rfl (fun choice w w' answer ran => version_of_shown ?_) rest
      rintro ticket rfl
      obtain ⟨db', done, rfl⟩ := ran_db ran
      obtain ⟨read, owner⟩ := DbCmd.selectTicketForUpdate_some done
      exact ⟨version_of_read read, owner⟩
  | list only =>
      refine follows_own fun user calls' => ?_
      rw [calls] at calls'
      cases calls'
      exact only.mono fun _ => Discreet.own

end Runs

/-! ## What a user's calls depend on -/

/-- Two databases that agree on the user's tickets, with who has them locked, and on the ticket
types and events. Transaction `t` has not begun. -/
structure AgreeFor (t : ι) (userId : Int) (db db' : Database ι) : Prop where
  tickets : ∀ id ticket, ticket.ownerId = userId →
    (db.tickets.row id = some ticket ↔ db'.tickets.row id = some ticket)
  locks : ∀ id ticket, ticket.ownerId = userId → db.tickets.row id = some ticket →
    (db.tickets.Free t id ↔ db'.tickets.Free t id)
  idle : ∀ id, db.tickets.heldBy t id = none ∧ db'.tickets.heldBy t id = none
  ticketTypes : db.ticketTypes = db'.ticketTypes
  events : db.events = db'.events

theorem AgreeFor.linked {t : ι} {userId : Int} {w w' : World ι}
    (h : AgreeFor t userId w.db w'.db) : Linked t userId none w w' where
  tickets id := by
    by_cases own : ∃ ticket, ticket.ownerId = userId ∧ w.db.tickets.row id = some ticket
    · obtain ⟨ticket, owner, row⟩ := own
      have row' := (h.tickets id ticket owner).mp row
      exact .inl ⟨row.trans row'.symm, (h.idle id).1.trans (h.idle id).2.symm,
        h.locks id ticket owner row⟩
    · refine .inr ⟨⟨fun ticket row owner => own ⟨ticket, owner, row⟩, (h.idle id).1⟩,
        fun ticket row owner => own ⟨ticket, owner, ?_⟩, (h.idle id).2⟩
      exact (h.tickets id ticket owner).mpr row
  known _ knows := nomatch knows
  ticketTypes := h.ticketTypes
  events := h.events

theorem only_ownCreate {d : Deployment} {userId : Int} {data : TicketCreate} :
    (getDb (TicketService.create d userId data)).Only (Own userId none) := by
  refine only_getDb trivial trivial (Program.Only.bind (Program.Only.call trivial) fun first => ?_)
  have fallback : (TicketService.fallback d data.ticketTypeId first).Only (Own userId none) := by
    unfold TicketService.fallback
    split
    · refine Program.Only.bind (Program.Only.call trivial) fun found => ?_
      match found with
      | none => exact trivial
      | some row =>
          exact Program.Only.bind (Program.Only.call trivial) fun _ => Program.Only.call trivial
    · exact trivial
  have book : (TicketService.book d userId data.ticketTypeId).Only (Own userId none) := by
    refine Program.Only.bind (Program.Only.call trivial) fun _ => ?_
    refine Program.Only.bind (Program.Only.call rfl) fun _ => ?_
    refine Program.Only.bind (Program.Only.call trivial) fun _ => ?_
    refine Program.Only.bind (Program.Only.call trivial) fun _ => ?_
    refine Program.Only.bind (Program.Only.call trivial) fun _ => ?_
    refine Program.Only.bind (Program.Only.call trivial) fun _ => ?_
    exact Program.Only.bind (Program.Only.call trivial) fun _ => trivial
  have compensate : ∀ e, (TicketService.compensate d data.ticketTypeId e :
      Async (Int × Ticket)).Only (Own userId none) := by
    intro e
    unfold TicketService.compensate
    split
    · refine Program.Only.bind (Program.Only.call trivial) fun _ => ?_
      refine Program.Only.bind (Program.Only.call trivial) fun _ => ?_
      split
      · exact trivial
      · exact trivial
    · exact trivial
  refine fallback.bind fun result => ?_
  split
  · exact trivial
  · exact (book.tryCatch compensate).bind fun _ => trivial

theorem follows_activity {caller : ι → Option Int} {t : ι} {d : Deployment}
    (activity : Activity) (calls : caller t = activity.caller) :
    (owners caller).Follows exec t (fun _ _ => True) (activity.program d) none := by
  have bystander : activity.caller = none →
      (owners caller).Follows exec t (fun _ _ => True) (activity.program d) none := fun nobody =>
    follows_own fun userId some => by
      rw [calls, nobody] at some
      cases some
  cases activity with
  | operation op =>
      cases op with
      | create userId data =>
          refine follows_own fun user some => ?_
          rw [calls] at some
          cases some
          exact only_ownCreate.bind fun _ => trivial
      | delete userId id => exact asks_delete.follows calls
      | payForTicket id userId => exact asks_payForTicket.unit.follows calls
      | _ => exact bystander rfl
  | getTicket userId id => exact asks_get.unit.follows calls
  | getTickets userId offset limit => exact asks_getAllForUser.unit.follows calls
  | _ => exact bystander rfl

/-- **Ticket ownership.** In every interleaving, no step of a call for a user changes the row of a
ticket that is not the user's. And what the calls that name a ticket, or list the user's, return or
raise does not depend on the tickets of others. -/
theorem ticket_ownership (d : Deployment) :
    (∀ (activities : ι → Activity) (w : World ι) (events : List (CallEvent ι))
      (c : Config ι (World ι) Cmd Cmd.Resp Exn Unit), w.db.tickets.Quiet →
      Config.Run exec ⟨w, fun t => (activities t).program d⟩ events c →
      ∀ e ∈ events, ∀ userId, (activities e.thread).caller = some userId →
        KeepsForeign userId e) ∧
    ∀ (t : ι) (userId : Int) (w w' : World ι), AgreeFor t userId w.db w'.db →
      ∀ (env : Nat → Choice) (id offset limit : Int),
        outcomeOf t env (getDb (TicketService.get userId id)) w =
          outcomeOf t env (getDb (TicketService.get userId id)) w' ∧
        outcomeOf t env (getDb (TicketService.getAllForUser userId offset limit)) w =
          outcomeOf t env (getDb (TicketService.getAllForUser userId offset limit)) w' ∧
        outcomeOf t env (getDb (PaymentService.payForTicket d id userId)) w =
          outcomeOf t env (getDb (PaymentService.payForTicket d id userId)) w' ∧
        outcomeOf t env (getDb (TicketService.delete d userId id)) w =
          outcomeOf t env (getDb (TicketService.delete d userId id)) w' := by
  constructor
  · intro activities w events c quiet run
    have start : (owners fun t => (activities t).caller).Holds exec (fun _ _ _ => True) []
        ⟨w, fun t => (activities t).program d⟩ := by
      refine ⟨fun _ => none, ⟨fun id ticket held => ?_, fun t _ _ id version held => ?_,
        fun _ _ _ _ knows => (nomatch knows), fun _ mem => (List.not_mem_nil mem).elim⟩,
        fun t => follows_activity _ rfl⟩
      · refine ⟨held.issued.2, fun other held' => ?_⟩
        have same := (version_of_quiet quiet held').symm.trans (version_of_quiet quiet held)
        rw [Option.some.inj same]
      · rw [heldBy_of_quiet quiet] at held
        cases held
    obtain ⟨ghost, inv, _⟩ := start.run run fun _ _ => trivial
    exact inv.kept
  · intro t userId w w' agree env id offset limit
    have linked := agree.linked
    exact ⟨(asks_get.twice linked).play_eq env, (asks_getAllForUser.twice linked).play_eq env,
      (asks_payForTicket.twice linked).play_eq env, (asks_delete.twice linked).play_eq env⟩

/-! ## Two owners -/

/-- These tickets, of a type of five. -/
def ticketsOf (tickets : List Ticket) : World (Fin 2) where
  db :=
    { tickets := .ofList tickets
      ticketTypes := .ofList [exampleType 5 2]
      users := {1, 2}
      events := .ofList [exampleEvent] }
  redis _ := .empty
  jobs := []

/-- A ticket of user 1. -/
def firstTicket : Ticket := ⟨1, 1, .reserved, 0⟩

/-- A ticket of user 2. -/
def secondTicket : Ticket := ⟨1, 2, .reserved, 0⟩

/-- User 1 deletes a ticket, while user 2 pays for another. -/
def deleteAndPay : Fin 2 → Activity := ![.operation (.delete 1 1), .operation (.payForTicket 2 2)]

theorem agreeFor_firstTicket :
    AgreeFor 0 1 (ticketsOf [firstTicket, secondTicket]).db (ticketsOf [firstTicket]).db where
  tickets id ticket owner := by
    constructor
    · intro row
      have known := (ticketsOf [firstTicket, secondTicket]).db.tickets.row_issued id
        (by rw [row]; rfl)
      obtain rfl | rfl : id = 1 ∨ id = 2 := by
        have bound : id ≤ 2 := known.2
        omega
      · exact row
      · cases row
        cases owner
    · intro row
      have known := (ticketsOf [firstTicket]).db.tickets.row_issued id (by rw [row]; rfl)
      obtain rfl : id = 1 := by
        have bound : id ≤ 1 := known.2
        omega
      exact row
  locks _ _ _ _ := Iff.rfl
  idle _ := ⟨rfl, rfl⟩
  ticketTypes := rfl
  events := rfl

/-- The payment has locked its ticket, and then the whole deletion happens. -/
def deletionInBetween (payment deletion : Fin 2) : List (Fin 2 × Choice) :=
  (List.replicate 2 payment ++ List.replicate 7 deletion).map fun t => (t, {})

/-- The deletion leaves the other ticket alone; and asked for the other ticket, it cannot tell
whether there is one. -/
theorem ticket_ownership_of_two :
    ∃ (events : List (CallEvent (Fin 2)))
      (c : Config (Fin 2) (World (Fin 2)) Cmd Cmd.Resp Exn Unit),
      Config.Run exec ⟨ticketsOf [firstTicket, secondTicket], fun t =>
        (deleteAndPay t).program sharedRedis⟩ events c ∧
      c.result 0 = some (.ok ()) ∧ (∀ e ∈ events, e.thread = 0 → KeepsForeign 1 e) ∧
      outcomeOf 0 (fun _ => {}) (getDb (TicketService.delete sharedRedis 1 2))
          (ticketsOf [firstTicket, secondTicket]) =
        outcomeOf 0 (fun _ => {}) (getDb (TicketService.delete sharedRedis 1 2))
          (ticketsOf [firstTicket]) := by
  have found : (Config.replay exec (⟨ticketsOf [firstTicket, secondTicket], fun t =>
      (deleteAndPay t).program sharedRedis⟩ :
        Config (Fin 2) (World (Fin 2)) Cmd Cmd.Resp Exn Unit)
      (deletionInBetween 1 0)).any
        (fun r => decide (r.2.result 0 = some (.ok ()))) = true := by
    decide
  obtain ⟨events, c, run, returned⟩ := Config.exists_run_of_replay
    (P := fun _ c => decide (c.result 0 = some (.ok ()))) found
  refine ⟨events, c, run, of_decide_eq_true returned, fun e mem same => ?_, ?_⟩
  · exact (ticket_ownership sharedRedis).1 deleteAndPay _ events c (fun _ => rfl) run e mem 1
      (by rw [same]; rfl)
  · exact ((ticket_ownership sharedRedis).2 0 1 _ _ agreeFor_firstTicket (fun _ => {}) 2 0 0).2.2.2

end TicketCore
