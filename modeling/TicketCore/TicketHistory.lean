import TicketCore.Authority

/-!
# Where tickets come from, and where they go

What has become of a ticket, and who has asked for it. `TicketHistory` is kept by each commit.

* `tickets_of_site`: after any run of a site, a ticket that is new has been booked by its owner, one
  that is paid for has been paid for by its owner, one that is canceled has been let run out by the
  worker, and one that has gone has been given up by its owner.
-/

namespace TicketCore

open Interleave CommitOrder

/-- What has become of the ticket with this id, by the requests that have been `asked`. -/
structure TicketHistory (asked : Activity → Prop) (id : Int) (first last : Option Ticket) :
    Prop where
  booked : ∀ ticket, first = none → last = some ticket → ∃ ticketData : TicketCreate,
    ticketData.ticketTypeId = ticket.ticketTypeId ∧
    asked (.operation (.create ticket.ownerId ticketData))
  /-- Only the status changes, and only of a reservation. -/
  kept : ∀ old ticket, first = some old → last = some ticket →
    ticket = old.withStatus ticket.status ∧
    (ticket.status = old.status ∨ old.status = .reserved)
  paid : ∀ ticket, last = some ticket → ticket.status = .sold →
    (∃ old, first = some old ∧ old.status = .sold) ∨
    asked (.operation (.payForTicket id ticket.ownerId))
  canceled : ∀ ticket, last = some ticket → ticket.status = .canceled →
    (∃ old, first = some old ∧ old.status = .canceled) ∨
      asked (.operation (.releaseUnpaidTicket id)) ∨
      asked (.operation .reconcileHungTickets)
  givenUp : ∀ old, first = some old → last = none →
      asked (.operation (.delete old.ownerId id))

namespace TicketHistory

variable {asked : Activity → Prop} {id : Int} {first last : Option Ticket} {ticket : Ticket}

theorem refl : TicketHistory asked id first first where
  booked ticket absent there := by
    rw [absent] at there
    cases there
  kept old ticket here there := by
    cases here.symm.trans there
    exact ⟨rfl, .inl rfl⟩
  paid ticket there sold := .inl ⟨ticket, there, sold⟩
  canceled ticket there canceled := .inl ⟨ticket, there, canceled⟩
  givenUp old here absent := by
    rw [here] at absent
    cases absent

/-- A ticket is booked, under an id that has not been there. -/
theorem book {ticketData : TicketCreate} {userId clock : Int} (new : first = none)
    (asks : asked (.operation (.create userId ticketData))) :
    TicketHistory asked id first
      (some ⟨ticketData.ticketTypeId, userId, .reserved, clock⟩) where
  booked ticket _ there := by
    cases there
    exact ⟨ticketData, rfl, asks⟩
  kept old _ here _ := by
    rw [new] at here
    cases here
  paid ticket there sold := by
    cases there
    cases sold
  canceled ticket there canceled := by
    cases there
    cases canceled
  givenUp old here _ := by
    rw [new] at here
    cases here

/-- A ticket is given up, or has gone before. -/
theorem giveUp {ownerId : Int} (h : TicketHistory asked id first last)
    (owned : ∀ ticket, last = some ticket → ticket.ownerId = ownerId)
    (asks : asked (.operation (.delete ownerId id))) : TicketHistory asked id first none where
  booked _ _ there := by cases there
  kept _ _ _ there := by cases there
  paid _ there _ := by cases there
  canceled _ there _ := by cases there
  givenUp old here _ := by
    cases stored : last with
    | none => exact h.givenUp old here stored
    | some ticket =>
        -- The owner is still the one of the beginning.
        have same : ticket.ownerId = (old.withStatus ticket.status).ownerId :=
          congrArg Ticket.ownerId (h.kept old ticket here stored).1
        have owner : old.ownerId = ownerId := same.symm.trans (owned ticket stored)
        rw [owner]
        exact asks

/-- A reservation is paid for, or runs out. -/
theorem turn {status : TicketStatus} (h : TicketHistory asked id first (some ticket))
    (reserved : ticket.status = .reserved)
    (sold : status = .sold → asked (.operation (.payForTicket id ticket.ownerId)))
    (canceled : status = .canceled → asked (.operation (.releaseUnpaidTicket id)) ∨
      asked (.operation .reconcileHungTickets)) :
    TicketHistory asked id first (some (ticket.withStatus status)) where
  booked turned new there := by
    cases there
    exact h.booked ticket new rfl
  kept old turned here there := by
    cases there
    obtain ⟨same, stage⟩ := h.kept old ticket here rfl
    refine ⟨?_, .inr ?_⟩
    · rw [same]
      rfl
    · rcases stage with equal | first
      · rw [← equal, reserved]
      · exact first
  paid turned there now := by
    cases there
    exact .inr (sold now)
  canceled turned there now := by
    cases there
    exact .inr (canceled now)
  givenUp _ _ absent := by cases absent

end TicketHistory

/-! ## Commits -/

section Commits

variable {asked : Activity → Prop} {shown : Reading → Prop} {first before after : Office}
  {activity : Activity} {seconds : Int}

/-- What has become of all tickets. -/
def Histories (asked : Activity → Prop) (first last : Office) : Prop :=
  ∀ id, TicketHistory asked id (first.tickets id) (last.tickets id)

/-- One ticket changes. -/
theorem Histories.setTicket {counted : Office} {ticketId : Int} {version : Option Ticket}
    (h : Histories asked first before) (tickets : counted.tickets = before.tickets)
    (changed : TicketHistory asked ticketId (first.tickets ticketId) version) :
    Histories asked first (counted.setTicket ticketId version) := by
  intro id
  unfold Office.setTicket
  dsimp only
  by_cases own : id = ticketId
  · subst own
    rw [Function.update_self]
    exact changed
  · rw [Function.update_of_ne own, tickets]
    exact h id

/-- A release that has been asked for, or is one of a sweep. -/
theorem histories_of_release {ticketId : Int} (h : Histories asked first before)
    (asks : asked (.operation (.releaseUnpaidTicket ticketId)) ∨
      asked (.operation .reconcileHungTickets))
    (does : before.Does (.operation (.releaseUnpaidTicket ticketId)) after) :
    Histories asked first after := by
  cases does with
  | nothing => exact h
  | release stored reserved moved =>
      refine h.setTicket (Office.tickets_of_count moved)
        (TicketHistory.turn ?_ reserved nofun fun _ => asks)
      rw [← stored]
      exact h ticketId

theorem histories_of_does (h : Histories asked first before) (new : AddsNew before after first)
    (asks : asked activity) (does : before.Does activity after) : Histories asked first after := by
  cases does with
  | nothing => exact h
  | @book userId ticketData notes counted fresh moved =>
      refine h.setTicket (Office.tickets_of_count moved) (.book (new.tickets _ fresh ?_) asks)
      unfold Office.setTicket
      dsimp only
      rw [Function.update_self]
      rfl
  | giveUp owned moved =>
      exact h.setTicket (Office.tickets_of_count moved)
        ((h _).giveUp (fun ticket there => (owned ticket there).2) asks)
  | @pay ownerId ticketId ticket stored owned reserved =>
      refine h.setTicket rfl (TicketHistory.turn ?_ reserved (fun _ => ?_) nofun)
      · rw [← stored]
        exact h ticketId
      · rw [owned]
        exact asks
  | release stored reserved moved =>
      exact histories_of_release h (.inl asks) (.release stored reserved moved)
  | addType _ | changeType _ _ | dropType | addEvent | changeEvent | dropEvent => exact h

/-- **What a commit makes of the tickets.** -/
theorem histories_of_commits (h : Histories asked first before) (new : AddsNew before after first)
    (asks : asked activity) (commits : before.Commits seconds shown activity after) :
    Histories asked first after := by
  rcases Office.does_of_commits commits with does | ⟨rfl, _, day⟩
  · exact histories_of_does h new asks does
  · exact day.releases h fun held does => histories_of_release held (.inr asks) does

end Commits

/-! ## Sites -/

/-- One of the events asks for this: a call with a token that is accepted as that of its user, or
something that needs no token. -/
def Asked (lib : Library) (events : List SiteEvent) (activity : Activity) : Prop :=
  ∃ e ∈ events, Admits lib e activity

/-- **Where tickets come from, and where they go.** In any run of a site, whoever calls what, in any
interleaving and whatever fails: every ticket has a history of requests by its owner and the
worker. -/
theorem tickets_of_site {lib : Library} {d : Deployment} {service : IdempotencyService}
    {isoformat : Int → String} {s s' : Site} {events : List SiteEvent} (rest : s.AtRest d)
    (run : Site.Run lib d service isoformat s events s') (own : OwnThreads events) (id : Int) :
    TicketHistory (Asked lib events) id (s.config.shared.db.tickets.row id)
      (s'.config.shared.db.tickets.row id) := by
  have histories : Histories (Asked lib events) s.config.shared.db.office
      s'.config.shared.db.office := by
    refine run.keeps rest own (fun _ => .refl) (fun _ held => held) ?_
    exact fun e mem activity admits shown before after held new served =>
      histories_of_commits held new ⟨e, mem, admits⟩ served
  exact histories id

/-- The ticket that the user has bought, and the one of the other user. -/
theorem tickets_of_ann :
    ∃ events s', Site.Run plainLibrary sharedRedis plainService toString annShop events s' ∧
      s'.config.shared.db.tickets.row 2 = some ⟨1, 1, .sold, 0⟩ ∧
      (∃ ticketData : TicketCreate, ticketData.ticketTypeId = 1 ∧
        Asked plainLibrary events (.operation (.create 1 ticketData))) ∧
      Asked plainLibrary events (.operation (.payForTicket 2 1)) ∧
      annShop.config.shared.db.tickets.row 1 = some ⟨1, 2, .reserved, 0⟩ ∧
      s'.config.shared.db.tickets.row 1 = some ⟨1, 2, .canceled, 0⟩ ∧
      (Asked plainLibrary events (.operation (.releaseUnpaidTicket 1)) ∨
        Asked plainLibrary events (.operation .reconcileHungTickets)) := by
  obtain ⟨events, s', run, own, _, _, _, lapsed, paid⟩ := ann_buys_ticket
  have bought := tickets_of_site annShop_atRest run own 2
  have other := tickets_of_site annShop_atRest run own 1
  have new : annShop.config.shared.db.tickets.row 2 = none := rfl
  have reserved : annShop.config.shared.db.tickets.row 1 = some ⟨1, 2, .reserved, 0⟩ := rfl
  refine ⟨events, s', run, paid, bought.booked _ new paid,
    (bought.paid _ paid rfl).resolve_left ?_, rfl,
    lapsed, (other.canceled _ lapsed rfl).resolve_left ?_⟩
  · rintro ⟨old, there, _⟩
    cases new.symm.trans there
  · rintro ⟨old, there, canceled⟩
    cases reserved.symm.trans there
    cases canceled

end TicketCore
