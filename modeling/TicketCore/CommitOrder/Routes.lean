import TicketCore.Access
import TicketCore.CommitOrder.Activities

/-!
# The endpoints keep the discipline of commits

`Route.activity` is what an endpoint asks for, on behalf of the user whom the token has shown; the
wrapper around it, the session and the check for an empty body commit nothing of their own.
-/

namespace TicketCore

open Interleave

/-- What an endpoint asks for, for this user. -/
def Route.activity (userId : Int) : Route → Activity
  | .createTicket ticket _ => .operation (.create userId ticket)
  | .getTicket ticketId => .getTicket userId ticketId
  | .getTickets offset limit => .getTickets userId offset limit
  | .deleteTicket ticketId => .operation (.delete userId ticketId)
  | .ticketPayment ticketId _ => .operation (.payForTicket ticketId userId)
  | .createEvent event _ _ => .createEvent event
  | .updateEvent eventId updateData => .updateEvent eventId updateData
  | .deleteEvent eventId => .deleteEvent eventId
  | .ticketTypeCreate eventId ticketTypeData _ => .operation (.createType eventId ticketTypeData)
  | .ticketTypeUpdate ticketTypeId updateData => .operation (.updateType ticketTypeId updateData)
  | .ticketTypeDelete ticketTypeId => .operation (.deleteType ticketTypeId)

namespace CommitOrder

open Pending

variable {ι α : Type} [DecidableEq ι] {d : Deployment} {acts : ι → Activity}
  {office : Office} {t : ι}
  {g : Pending} {service : IdempotencyService} {isoformat : Int → String} {userId : Int}

/-- The wrapper of a protected endpoint only adds commands on its record. -/
theorem follows_idempotent {action : String} {key : Option String}
    {kwargs : List (String × KeywordArgument)} {encode : α → JsonObject} {func : Async α}
    (h : (discipline d acts office).Follows exec t (fun _ _ => True) func g) :
    (discipline d acts office).Follows exec t (fun _ _ => True)
      (idempotent service action userId key kwargs encode func) g := by
  have plain : (discipline d acts office).Follows exec t (fun _ _ => True)
      (Reply.computed <$> func) g :=
    follows_seq h fun _ _ => trivial
  unfold idempotent
  split
  · exact plain
  · exact plain
  refine Discipline.Follows.bind (fun _ g' => g' = g) ?_ fun cachedResponse g' same => ?_
  · refine follows_neutral_bind trivial (fun _ => trivial) fun lockAcquired => ?_
    split
    · exact rfl
    · refine follows_neutral_bind trivial (fun _ => trivial) fun rawKey => ?_
      cases IdempotencyService.answerFromRecord _ rawKey with
      | ok response => rfl
      | error e => trivial
  cases cachedResponse with
  | some response => trivial
  | none =>
      subst same
      refine Discipline.Follows.tryCatch (fun _ _ => True) ?_ fun e g₁ _ => ?_
      · refine Discipline.Follows.bind (fun _ _ => True) ?_ fun response g₁ _ => ?_
        · exact h.mono fun outcome _ _ => by cases outcome <;> trivial
        · exact follows_neutral_bind trivial (fun _ => trivial) fun _ => trivial
      · exact follows_neutral_bind trivial (fun _ => trivial) fun _ => trivial

/-- **Every endpoint keeps the discipline of commits.** -/
theorem follows_route {route : Route} (mine : acts t = route.activity userId) :
    (discipline d acts office).Follows exec t (fun _ g' => g'.Free)
      (route.program d service isoformat userId) start := by
  have shows : ∀ activity, Reader activity →
      (discipline d acts office).Follows exec t (fun _ g' => g'.Free) (activity.program d) start :=
    fun _ reader => (follows_harmless ⟨rfl, rfl, rfl⟩ (only_reader reader)).mono
        fun _ _ same => by
      rw [same]
      exact ⟨rfl, rfl, rfl⟩
  cases route with
  | createTicket ticket key =>
      exact follows_unit (follows_request (follows_idempotent
        ((follows_create mine fresh_start).mono fun _ _ _ => trivial)))
  | ticketPayment ticketId key =>
      exact follows_unit (follows_request (follows_idempotent
        ((follows_payForTicket mine fresh_start).mono fun _ _ _ => trivial)))
  | createEvent event date key =>
      exact follows_unit (follows_request (follows_idempotent
        ((follows_createEvent mine fresh_start).mono fun _ _ _ => trivial)))
  | ticketTypeCreate eventId data key =>
      exact follows_unit (follows_request (follows_idempotent
        ((follows_createType mine fresh_start).mono fun _ _ _ => trivial)))
  | deleteTicket ticketId => exact follows_request (follows_delete mine fresh_start)
  | deleteEvent eventId => exact follows_request (follows_dropEvent mine fresh_start)
  | ticketTypeDelete ticketTypeId => exact follows_request (follows_deleteType mine fresh_start)
  | updateEvent eventId updateData =>
      refine follows_unit (follows_request ?_)
      split
      · exact trivial
      · exact follows_changeEvent mine fresh_start
  | ticketTypeUpdate ticketTypeId updateData =>
      refine follows_unit (follows_request ?_)
      split
      · exact trivial
      · exact follows_updateType mine fresh_start
  | getTicket ticketId => exact shows (.getTicket userId ticketId) trivial
  | getTickets offset limit => exact shows (.getTickets userId offset limit) trivial

end CommitOrder

end TicketCore
