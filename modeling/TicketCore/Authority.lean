import TicketCore.Office.Caches
import TicketCore.Office.Outcomes
import TicketCore.SiteAccounts
import TicketCore.SiteOrder

/-!
# Who changes what

* `offers_of_commits`: a commit changes what is offered only if its request is one for superusers.
* `lapses_of_commits`: to the tickets of a user, requests of others can only make reservations run
  out.
* `authority_of_site` says so of everything that happens at a site, in any interleaving.
-/

namespace TicketCore

open Interleave CommitOrder

/-- The requests for superusers: an event or a ticket type is put up, changed or taken down. -/
def Activity.changesOffer : Activity → Bool
  | .createEvent _ | .updateEvent .. | .deleteEvent _ => true
  | .operation (.createType ..) | .operation (.updateType ..) | .operation (.deleteType _) => true
  | _ => false

/-- The requests of this user: a ticket is booked, given up or paid for. -/
def Activity.isOf (userId : Int) : Activity → Bool
  | .operation (.create ownerId _) | .operation (.delete ownerId _) | .operation
    (.payForTicket _ ownerId) =>
      ownerId = userId
  | _ => false

namespace Office

variable {office after : Office} {seconds userId : Int} {activity : Activity}

/-- Some reservations of a user have run out; the tickets of the user are the same otherwise. -/
def Lapses (userId : Int) (before after : Office) : Prop :=
  ∀ ticketId, after.ticketOf userId ticketId = before.ticketOf userId ticketId ∨
    ∃ ticket, before.ticketOf userId ticketId = some ticket ∧ ticket.status = .reserved ∧
      after.ticketOf userId ticketId = some (ticket.withStatus .canceled)

theorem Lapses.of_tickets (tickets : after.tickets = office.tickets) :
    office.Lapses userId after := by
  intro ticketId
  unfold ticketOf
  rw [tickets]
  exact .inl rfl

theorem Lapses.trans {last : Office} (h : office.Lapses userId after)
    (h' : after.Lapses userId last) :
    office.Lapses userId last := by
  intro ticketId
  rcases h ticketId with same | ⟨ticket, stored, reserved, lapsed⟩
  · rw [← same]
    exact h' ticketId
  · rcases h' ticketId with same | ⟨ticket', stored', reserved', _⟩
    · exact .inr ⟨ticket, stored, reserved, same.trans lapsed⟩
    · -- A canceled ticket does not run out again.
      cases lapsed.symm.trans stored'
      cases reserved'

/-- A ticket of somebody else is added, changed or removed. -/
theorem lapses_setTicket {counted : Office} {id : Int} {version : Option Ticket}
    (tickets : counted.tickets = office.tickets)
    (old : ∀ ticket, office.tickets id = some ticket → ticket.ownerId ≠ userId)
    (new : ∀ ticket, version = some ticket → ticket.ownerId ≠ userId) :
    office.Lapses userId (counted.setTicket id version) := by
  have none : ∀ version : Option Ticket,
      (∀ ticket, version = some ticket → ticket.ownerId ≠ userId) →
      version.filter (fun ticket => ticket.ownerId = userId) = none := by
    intro version other
    cases version with
    | none => rfl
    | some ticket => rw [Option.filter_some, if_neg (by simpa using other ticket rfl)]
  intro ticketId
  refine .inl ?_
  unfold ticketOf setTicket
  dsimp only
  by_cases same : ticketId = id
  · subst same
    rw [Function.update_self, none version new, none _ old]
  · rw [Function.update_of_ne same, tickets]

/-- A reservation runs out, whoever's it is. -/
theorem lapses_release {counted : Office} {id : Int} {ticket : Ticket}
    (tickets : counted.tickets = office.tickets) (stored : office.tickets id = some ticket)
    (reserved : ticket.status = .reserved) :
    office.Lapses userId (counted.setTicket id (some (ticket.withStatus .canceled))) := by
  by_cases own : ticket.ownerId = userId
  · intro ticketId
    by_cases same : ticketId = id
    · subst same
      refine .inr ⟨ticket, ticketOf_eq_some.mpr ⟨stored, own⟩, reserved,
        ticketOf_eq_some.mpr ⟨?_, own⟩⟩
      exact Function.update_self ..
    · refine .inl ?_
      unfold ticketOf setTicket
      dsimp only
      rw [Function.update_of_ne same, tickets]
  · refine lapses_setTicket tickets (fun old there => ?_) fun new there => ?_
    · cases stored.symm.trans there
      exact own
    · cases there
      exact own

/-! ## Commits -/

theorem offers_of_does (other : activity.changesOffer = false) (does : office.Does activity after) :
    office.Offers after := by
  cases does with
  | nothing => exact .refl
  | book _ moved | giveUp _ moved | release _ _ moved =>
      exact (offers_of_count moved).trans ⟨rfl, rfl⟩
  | pay _ _ _ => exact ⟨rfl, rfl⟩
  | addType _ | changeType _ _ | dropType | addEvent | changeEvent | dropEvent => cases other

theorem lapses_of_does (other : activity.isOf userId = false) (does : office.Does activity after) :
    office.Lapses userId after := by
  cases does with
  | nothing => exact .of_tickets rfl
  | book fresh moved =>
      refine lapses_setTicket (tickets_of_count moved) (fun old there => ?_) fun new there => ?_
      · cases fresh.symm.trans there
      · cases there
        exact of_decide_eq_false other
  | giveUp owned moved =>
      refine lapses_setTicket (tickets_of_count moved) (fun old there => ?_) fun new there => ?_
      · rw [(owned old there).2]
        exact of_decide_eq_false other
      · cases there
  | pay stored owned _ =>
      have foreign := of_decide_eq_false other
      refine lapses_setTicket rfl (fun old there => ?_) fun new there => ?_
      · cases stored.symm.trans there
        rwa [owned]
      · cases there
        rwa [← owned] at foreign
  | release stored reserved moved => exact lapses_release (tickets_of_count moved) stored reserved
  | addType _ | changeType _ _ | dropType | addEvent | changeEvent | dropEvent =>
      exact .of_tickets rfl

/-- **A request that is none for superusers leaves what is offered.** -/
theorem offers_of_commits {shown : Reading → Prop} (other : activity.changesOffer = false)
    (commits : office.Commits seconds shown activity after) : office.Offers after := by
  rcases does_of_commits commits with does | ⟨rfl, _, day⟩
  · exact offers_of_does other does
  · exact day.releases .refl fun offers does => offers.trans (offers_of_does rfl does)

/-- **What requests of others do to the tickets of a user.** -/
theorem lapses_of_commits {shown : Reading → Prop} (other : activity.isOf userId = false)
    (commits : office.Commits seconds shown activity after) : office.Lapses userId after := by
  rcases does_of_commits commits with does | ⟨rfl, _, day⟩
  · exact lapses_of_does other does
  · exact day.releases (.of_tickets rfl) fun lapses does => lapses.trans (lapses_of_does rfl does)

end Office

/-- What users who join and the commits of a run keep. -/
theorem CommitOrder.Order.keeps {ι : Type} {d : Deployment} {acts : ι → Activity}
    {office last : Office} {events commits : List (CallEvent ι)} {P : Office → Prop}
    (order : Order d acts office events commits last) (start : P office)
    (join : ∀ {before : Office} (users : Finset Int), P before →
      P { before with users := users })
    (each : ∀ e ∈ commits, ∀ {shown : Reading → Prop} {before after : Office}, P before →
      AddsNew before after office →
      before.Commits d.ticketReservationTimeSeconds shown (acts e.thread) after → P after) :
    P last := by
  induction order with
  | «open» => exact start
  | join _ _ ih => exact join _ (ih each)
  | other _ still ih =>
      rw [still]
      exact ih each
  | commit _ _ _ new served ih =>
      have before := ih fun e mem => each e (List.mem_append_left _ mem)
      exact each _ (List.mem_append_right _ (List.mem_singleton_self _)) before
        (new office (List.mem_cons_self ..)) served

/-! ## Sites -/

variable {lib : Library} {d : Deployment} {service : IdempotencyService}
  {isoformat : Int → String}
  {s s' : Site} {events : List SiteEvent} {e : SiteEvent} {userId : Int} {activity : Activity}

/-- The event is a call of the endpoint, with a token that is accepted as that of the user. -/
def SiteEvent.CalledBy (lib : Library) (e : SiteEvent) (route : Route) (userId : Int) : Prop :=
  ∃ token user, e.action = .call token (.route route) ∧
    getCurrentUser lib e.now e.before.accounts token = .ok (userId, user)

/-- The requests for superusers are those of their endpoints. -/
theorem changesOffer_activity (route : Route) :
    (route.activity userId).changesOffer = (Endpoint.route route).isAdmin := by
  cases route <;> rfl

theorem eq_of_isOf {route : Route} {ownerId : Int}
    (own : (route.activity ownerId).isOf userId = true) :
    ownerId = userId := by
  cases route with
  | createTicket ticket key => exact of_decide_eq_true own
  | deleteTicket ticketId => exact of_decide_eq_true own
  | ticketPayment ticketId key => exact of_decide_eq_true own
  | _ => cases own

theorem changesOffer_of_isOpen (isOpen : activity.isOpen) : activity.changesOffer = false := by
  cases activity with
  | operation op => cases op <;> first | rfl | cases isOpen
  | _ => first | rfl | cases isOpen

theorem isOf_of_isOpen (isOpen : activity.isOpen) : activity.isOf userId = false := by
  cases activity with
  | operation op => cases op <;> first | rfl | cases isOpen
  | _ => rfl

/-- Each event of a run comes after a run. -/
theorem Site.Run.before (run : Site.Run lib d service isoformat s events s') (mem : e ∈ events) :
    ∃ earlier, Site.Run lib d service isoformat s earlier e.before := by
  induction run with
  | nil => exact (List.not_mem_nil mem).elim
  | snoc run _ ih =>
      rcases List.mem_append.mp mem with mem | mem
      · exact ih mem
      · rw [List.mem_singleton.mp mem]
        exact ⟨_, run⟩

/-- What every admitted request keeps, a run of a site keeps. -/
theorem Site.Run.keeps {P : Office → Prop} (rest : s.AtRest d)
    (run : Site.Run lib d service isoformat s events s') (own : OwnThreads events)
    (start : P s.config.shared.db.office)
    (join : ∀ {before : Office} (users : Finset Int), P before →
      P { before with users := users })
    (each : ∀ e ∈ events, ∀ activity, Admits lib e activity →
      ∀ {shown : Reading → Prop} {before after : Office}, P before →
      AddsNew before after s.config.shared.db.office →
      before.Commits d.ticketReservationTimeSeconds shown activity after → P after) :
    P s'.config.shared.db.office := by
  obtain ⟨acts, admitted⟩ := exists_acts run own
  obtain ⟨calls, ghost, runs⟩ := runs_of_run rest run own admitted
  obtain ⟨commits, order, _⟩ := runs.inv.order
  refine order.keeps start join fun call mem shown before after held new served => ?_
  obtain ⟨e, there, starts⟩ :=
    List.mem_filterMap.mp (runs.begun call (order.sublist.subset mem))
  exact each e there _ (admitted e there _ starts) held new served

/-- **Who changes what.** In any run of a site, what is offered is the same unless a superuser of
the beginning has called one of the endpoints for superusers; and of the tickets of a user who has
not asked to book, give up or pay for any, only reservations have run out. -/
theorem authority_of_site (rest : s.AtRest d) (run : Site.Run lib d service isoformat s events s')
    (own : OwnThreads events) :
    ((∀ e ∈ events, ∀ route userId user, e.CalledBy lib route userId →
        (Endpoint.route route).isAdmin = true →
        s.accounts.get userId = some user → user.isSuperuser = false) →
      s.config.shared.db.office.Offers s'.config.shared.db.office) ∧
    ∀ userId, (∀ e ∈ events, ∀ route, e.CalledBy lib route userId →
        (route.activity userId).isOf userId = false) →
      s.config.shared.db.office.Lapses userId s'.config.shared.db.office := by
  refine ⟨fun nobody => ?_, fun userId silent => ?_⟩
  · refine run.keeps rest own .refl (fun _ offers => offers.trans ⟨rfl, rfl⟩)
      fun e there activity admits shown before after offers _ served => ?_
    refine offers.trans (Office.offers_of_commits ?_ served)
    cases admits with
    | @call token route userId user calls allowed =>
        obtain ⟨shown, may⟩ := Endpoint.authorize_eq_ok.mp allowed
        rw [changesOffer_activity]
        by_contra admin
        have admin := (Bool.not_eq_false _).mp admin
        obtain ⟨_, earlier⟩ := run.before there
        obtain ⟨old, stored, superuser⟩ :=
          superuser_from_start earlier (get_of_getCurrentUser shown) (may admin)
        rw [nobody e there route userId old ⟨token, user, calls, shown⟩ admin stored]
          at superuser
        cases superuser
    | visit _ isOpen => exact changesOffer_of_isOpen isOpen
  · refine run.keeps rest own (.of_tickets rfl) (fun _ lapses => lapses.trans (.of_tickets rfl))
      fun e there activity admits shown before after lapses _ served => ?_
    refine lapses.trans (Office.lapses_of_commits ?_ served)
    cases admits with
    | @call token route ownerId user calls allowed =>
        by_contra mine
        obtain rfl := eq_of_isOf ((Bool.not_eq_false _).mp mine)
        exact mine
          (silent e there route ⟨token, user, calls, (Endpoint.authorize_eq_ok.mp allowed).1⟩)
    | visit _ isOpen => exact isOf_of_isOpen isOpen

/-- A user who is no superuser buys a ticket, and the reservation of another user runs out. -/
theorem authority_of_ann :
    ∃ events s', Site.Run plainLibrary sharedRedis plainService toString annShop events s' ∧
      annShop.config.shared.db.tickets.row 1 = some ⟨1, 2, .reserved, 0⟩ ∧
      s'.config.shared.db.tickets.row 1 = some ⟨1, 2, .canceled, 0⟩ ∧
      annShop.config.shared.db.office.Offers s'.config.shared.db.office ∧
      annShop.config.shared.db.office.Lapses 2 s'.config.shared.db.office := by
  obtain ⟨events, s', run, own, _, calls, _, lapsed, _⟩ := ann_buys_ticket
  have nobody : ∀ row ∈ annAndBob.rows, row.2.isSuperuser = false := by decide
  have ann : getCurrentUser plainLibrary 20 annAndBob "1800:1" =
      .ok (1, ⟨"ann@example.com", "very secret", true, false⟩) := by decide
  obtain ⟨offers, lapses⟩ := authority_of_site annShop_atRest run own
  refine ⟨events, s', run, rfl, lapsed, offers fun e mem route userId user _ _ stored => ?_,
    lapses 2 fun e mem route called => ?_⟩
  · exact nobody (userId, user) (Accounts.get_eq_some.mp stored)
  · obtain ⟨token, user, calls', shown⟩ := called
    obtain ⟨now, accounts, rfl⟩ := calls e mem token _ calls'
    rw [now, accounts, ann] at shown
    cases shown

end TicketCore
