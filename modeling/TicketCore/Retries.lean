import TicketCore.Interleave.Serial
import TicketCore.Retry.Progress
import TicketCore.Sessions

/-!
# Retries under one idempotency key

A user sends the same request to book a ticket again and again, one request after another, and any
awaited call of a request may fail.

* `once_of_retries`: at most one ticket is committed, if no request unlocks the key after its
  commit.
* `retry_books_twice`: `save_response` fails after the commit, the decorator unlocks the key on
  every exception, and the next request books a second ticket.
-/

namespace TicketCore

open Interleave RowStore

namespace Retry

variable {retry : Retry} {g : Progress} {α β : Type}

/-- The transaction of a booking. -/
theorem follows_book {userId ticketTypeId : Int} :
    retry.discipline.Follows exec () (fun outcome g' => match outcome with
      | .ok _ => g' = ⟨none, .booked⟩
      | .error _ => MayRaise retry g')
      (TicketService.book retry.deployment userId ticketTypeId) ⟨none, .locked⟩ := by
  refine Discipline.Follows.bind (fun _ g' => g' = ⟨none, .locked⟩)
    (follows_aside trivial (fun _ _ => .inl rfl) fun _ => rfl) ?_
  rintro _ _ rfl
  refine Discipline.Follows.bind (fun id g' => ∃ ticket, g' = ⟨some (id, ticket), .locked⟩)
    (follows_insertTicket (fun _ => .inl rfl) fun id ticket => ⟨ticket, rfl⟩) ?_
  rintro id _ ⟨ticket, rfl⟩
  refine Discipline.Follows.bind (fun _ g' => g' = ⟨some (id, ticket), .locked⟩)
    (follows_aside trivial (fun _ _ => .inl rfl) fun _ => rfl) ?_
  rintro clock _ rfl
  refine Discipline.Follows.bind (fun _ g' => g' = ⟨some (id, ticket), .locked⟩)
    (follows_aside trivial (fun _ _ => .inl rfl) fun _ => rfl) ?_
  rintro _ _ rfl
  refine Discipline.Follows.bind (fun _ g' => g' = ⟨none, .booked⟩)
    (follows_commit (fun _ => .inl rfl) rfl) ?_
  rintro _ _ rfl
  refine Discipline.Follows.bind (fun _ g' => g' = ⟨none, .booked⟩)
    (follows_aside trivial (fun uneasy _ => .booked uneasy) fun _ => rfl) ?_
  rintro newTicket _ rfl
  refine Discipline.Follows.bind (fun _ g' => g' = ⟨none, .booked⟩)
    (follows_aside trivial (fun uneasy _ => .booked uneasy) fun _ => rfl) ?_
  rintro _ _ rfl
  exact rfl

/-- Either `except` block rolls back, or leaves that to the session. -/
theorem follows_compensate {ticketTypeId : Int} {e : Exn} (may : MayRaise retry g) :
    retry.discipline.Follows exec () (fun outcome g' => match outcome with
      | .ok _ => g' = ⟨none, .booked⟩
      | .error _ => MayRaise retry g')
      (TicketService.compensate (α := Int × Ticket) retry.deployment ticketTypeId e) g := by
  unfold TicketService.compensate
  split
  · refine Discipline.Follows.bind (fun _ g' => MayRaise retry g')
      (follows_rollback (fun _ => may) may) fun _ g₁ may₁ => ?_
    refine Discipline.Follows.bind (fun _ g' => MayRaise retry g')
      (follows_aside trivial (fun _ _ => may₁) fun _ => may₁) fun _ g₂ may₂ => ?_
    split
    · exact may₂
    · exact may₂
  · exact may

theorem follows_fallback {ticketTypeId result : Int} :
    retry.discipline.Follows exec () (fun _ g' => g' = ⟨none, .locked⟩)
      (TicketService.fallback retry.deployment ticketTypeId result) ⟨none, .locked⟩ := by
  unfold TicketService.fallback
  split
  · refine Discipline.Follows.bind (fun _ g' => g' = ⟨none, .locked⟩)
      (follows_aside trivial (fun _ _ => rfl) fun _ => rfl) ?_
    rintro ticketType _ rfl
    cases ticketType with
    | none => rfl
    | some row =>
        refine Discipline.Follows.bind (fun _ g' => g' = ⟨none, .locked⟩)
          (follows_aside trivial (fun _ _ => rfl) fun _ => rfl) ?_
        rintro _ _ rfl
        exact follows_aside trivial (fun _ _ => rfl) fun _ => rfl
  · rfl

theorem follows_create {userId : Int} {ticketData : TicketCreate} :
    retry.discipline.Follows exec () (fun outcome g' => match outcome with
      | .ok _ => g' = ⟨none, .booked⟩
      | .error _ => MayRaise retry g')
      (TicketService.create retry.deployment userId ticketData) ⟨none, .locked⟩ := by
  refine Discipline.Follows.bind (fun _ g' => g' = ⟨none, .locked⟩)
    (follows_aside trivial (fun _ _ => .inl rfl) fun _ => rfl) ?_
  rintro first _ rfl
  refine Discipline.Follows.bind (fun _ g' => g' = ⟨none, .locked⟩)
    (follows_fallback.mono fun outcome g' same => ?_) ?_
  · cases outcome with
    | ok _ => exact same
    | error _ => exact .inl (by rw [same])
  rintro result _ rfl
  split
  · exact .inl rfl
  · refine Discipline.Follows.bind (fun _ g' => g' = ⟨none, .booked⟩) ?_
      fun _ _ booked => booked
    refine Discipline.Follows.tryCatch (fun _ g' => MayRaise retry g') ?_ ?_
    · refine follows_book.mono fun outcome g' holds => ?_
      cases outcome with
      | ok _ => exact holds
      | error _ => exact holds
    · intro e g' may
      refine (follows_compensate may).mono fun outcome g'' holds => ?_
      cases outcome with
      | ok _ => exact holds
      | error _ => exact holds

/-- The decorated endpoint. -/
theorem follows_idempotent {userId : Int} {ticketData : TicketCreate} :
    retry.discipline.Follows exec () (fun _ _ => True)
      ((retry.contest.request ()).idempotent retry.contest.service TicketResponse.encode
        (TicketService.create retry.deployment userId ticketData)) ⟨none, .outside⟩ := by
  refine Discipline.Follows.bind (fun cached g' => cached = none → g' = ⟨none, .locked⟩) ?_ ?_
  · refine Discipline.Follows.bind (fun acquired g' =>
      (acquired = true ∧ g' = ⟨none, .locked⟩) ∨
        (acquired = false ∧ g' = ⟨none, .outside⟩))
      (follows_setNxEx (fun _ => trivial) (.inl ⟨rfl, rfl⟩) (.inr ⟨rfl, rfl⟩)) ?_
    rintro _ _ (⟨rfl, rfl⟩ | ⟨rfl, rfl⟩)
    · exact fun _ => rfl
    · refine Discipline.Follows.bind (fun raw _ =>
        IdempotencyService.answerFromRecord (retry.contest.hash ()) raw ≠ .ok none)
        (follows_get (fun _ => trivial) fun raw some => some) ?_
      intro raw g' some
      have same : retry.contest.service.hashPayload (retry.contest.request ()).payload =
        retry.contest.hash () := rfl
      rw [same]
      cases answered : IdempotencyService.answerFromRecord (retry.contest.hash ()) raw with
      | ok cached =>
          intro none
          rw [none] at answered
          exact (some answered).elim
      | error e => trivial
  · intro cached g' locked
    cases cached with
    | some response => trivial
    | none =>
        rw [locked rfl]
        refine Discipline.Follows.tryCatch (fun _ g' => MayRaise retry g') ?_ ?_
        · refine Discipline.Follows.bind (fun _ g' => g' = ⟨none, .booked⟩)
            (follows_create.mono fun outcome g' holds => ?_) ?_
          · cases outcome with
            | ok _ => exact holds
            | error _ => exact holds
          · rintro response _ rfl
            exact Discipline.Follows.bind (fun _ _ => True)
              (follows_setEx (fun uneasy _ => .booked uneasy) trivial) fun _ _ _ => trivial
        · intro x g' may
          refine Discipline.Follows.bind (fun _ _ => True)
            (follows_delete may fun answer _ => ?_) fun _ _ _ => trivial
          cases answer with
          | ok _ => trivial
          | error _ => trivial

/-- The whole request leaves no transaction open. -/
theorem follows_request (retry : Retry) (userId : Int) (ticketData : TicketCreate) :
    retry.discipline.Follows exec () (fun _ g' => g'.pending = none)
      (getDb ((retry.contest.request ()).idempotent retry.contest.service TicketResponse.encode
        (TicketService.create retry.deployment userId ticketData))) ⟨none, .outside⟩ := by
  exact follows_getDb _ (fun _ _ => True) follows_idempotent (fun _ _ _ => trivial)
    (fun _ _ _ => follows_rollback (fun _ => trivial) trivial) fun _ _ _ => follows_close rfl

end Retry

/-! ## Requests one after another -/

/-- The executed requests of a client that repeats itself. -/
abbrev SentRequest : Type :=
  Call Unit Unit (World Unit) Cmd Cmd.Resp Exn Choice (Reply TicketResponse)

/-- A client that sends the same request again and again. -/
abbrev Retries (d : Deployment) (service : IdempotencyService) (ownerId : Int)
    (ticket : TicketCreate) (header : IdempotencyHeader) :
    World Unit → List SentRequest → World Unit → Prop :=
  Serial exec () fun _ => createTicket d service ownerId ticket (some header.text)

/-- The requests of `POST /tickets` under one key, as the idempotency protocol sees them. -/
def bookingContest (service : IdempotencyService) (ownerId : Int) (ticket : TicketCreate)
    (header : IdempotencyHeader) : Contest Unit where
  service := service
  userId := ownerId
  action := "create_ticket"
  idempotencyKey := header.text
  payload _ := extractBusinessPayload
    ([("owner", .dependency), ("ticket", .dto ticket.dump), ("ticket_service", .dependency),
      ("idempotency_service", .dependency)] ++
      [("idempotency_key", .primitive (.str header.text))]) "idempotency_key"
  encode response := response

/-- If a call after the commit of a request raises, its unlock raises as well. -/
def keepsLock (request : SentRequest) : Bool :=
  (request.events.all fun e => AfterCommit e.cmd → ¬ Raised e) ||
    request.events.all fun e => Unlocks e.cmd → Raised e

variable {d : Deployment} {service : IdempotencyService} {ownerId : Int} {ticket : TicketCreate}
  {header : IdempotencyHeader} {w w' : World Unit} {requests : List SentRequest}

/-- What holds between two requests, from a state with `base` tickets. -/
def Between (d : Deployment) (service : IdempotencyService) (ownerId : Int) (ticket : TicketCreate)
    (header : IdempotencyHeader) (base : Int) (w : World Unit) : Prop :=
  ∀ calm, (⟨bookingContest service ownerId ticket header, d, base, calm⟩ : Retry).Good w
    ⟨none, .outside⟩

/-- A request that does not unlock the key after its commit. -/
theorem Between.request {base : Int} {request : SentRequest}
    (h : Between d service ownerId ticket header base request.before) (kept : keepsLock request)
    (ran : (createTicket d service ownerId ticket (some header.text)).Runs exec () request.before
      request.events request.outcome w') :
    Between d service ownerId ticket header base w' := by
  let retry := fun calm : Bool =>
    (⟨bookingContest service ownerId ticket header, d, base, calm⟩ : Retry)
  -- one half of the guard is met by all calls of the request
  obtain ⟨calm, guarded⟩ : ∃ calm, ∀ e ∈ request.events, (retry calm).guard e := by
    unfold keepsLock at kept
    rw [Bool.or_eq_true, List.all_eq_true, List.all_eq_true] at kept
    rcases kept with calm | uneasy
    · exact ⟨true, fun e mem after => of_decide_eq_true (calm e mem) after⟩
    · exact ⟨false, fun e mem unlocks => of_decide_eq_true (uneasy e mem) unlocks⟩
  unfold createTicket at ran
  rw [idempotent_of_header] at ran
  have follows := (retry calm).follows_request ownerId ticket
  obtain ⟨g', good, ended⟩ := (h calm).runs follows ran guarded
  have out := good.outside
  rw [ended] at out
  exact fun _ => ⟨out.tickets, out.sane, out.few, out.free, trivial⟩

/-- **Retries book at most one ticket**, if no request unlocks the key after its commit. -/
theorem once_of_retries (quiet : w.db.tickets.Quiet)
    (free : (bookingContest service ownerId ticket header).record w = none)
    (retries : Retries d service ownerId ticket header w requests w')
    (kept : ∀ request ∈ requests, keepsLock request) :
    w'.db.storedTickets ≤ w.db.storedTickets + 1 := by
  have start : Between d service ownerId ticket header w.db.storedTickets w := fun calm => by
    refine ⟨.of_quiet quiet, ?_, ?_, fun _ => rfl, trivial⟩
    · show Sane ((bookingContest service ownerId ticket header).record w)
      rw [free]
      trivial
    · show w.db.storedTickets ≤ w.db.storedTickets + 1
      omega
  obtain ⟨between, _⟩ := retries.keeps
    (I := Between d service ownerId ticket header w.db.storedTickets)
    (P := fun request => keepsLock request) (Q := fun _ => True) start kept
    fun _ _ between kept ran => ⟨between.request kept ran, trivial⟩
  exact (between true).few

/-! ## A failed save -/

/-- A key of ten characters. -/
def tenCharacters : IdempotencyHeader := ⟨"0123456789", by decide, by decide⟩

/-- The environment that makes the calls with these numbers fail. -/
def failing (calls : List Nat) (n : Nat) : Choice :=
  if n ∈ calls then { fault := some .redis } else {}

/-- One user, and five tickets of one type, all of them for sale. -/
def fiveForSale : World Unit where
  db :=
    { tickets := .ofList []
      ticketTypes := .ofList [exampleType 5 0]
      users := {1}
      events := .ofList [exampleEvent] }
  redis _ := .empty
  jobs := []

/-- The user sends one request again and again, with the shipped time to live. -/
abbrev FiveRetries : List SentRequest → World Unit → Prop :=
  Retries shippedSettings.deployment ⟨0, 10, id⟩ 1
    ⟨1, Int.one_pos⟩ tenCharacters fiveForSale

/-- The commit of the first request fails. The second one fails after its commit, and so does its
unlock; the third finds the key locked. -/
theorem once_of_three_retries :
    ∃ requests w', FiveRetries requests w' ∧ requests.length = 3 ∧
      w'.db.storedTickets = 1 ∧ w'.db.storedTickets ≤ fiveForSale.db.storedTickets + 1 := by
  have found : (Serial.play exec () (fun _ : Unit => createTicket shippedSettings.deployment
      ⟨0, 10, id⟩ 1 ⟨1, by decide⟩ (some tenCharacters.text))
      [((), failing [9]), ((), failing [8, 9]), ((), failing [])] fiveForSale).any (fun r =>
        r.1.all keepsLock && (decide (r.1.length = 3) && decide (r.2.db.storedTickets = 1))) =
      true := by
    decide
  obtain ⟨requests, w', retries, holds⟩ := exists_serial_of_play
    (P := fun (requests : List SentRequest) w' => requests.all keepsLock &&
      (decide (requests.length = 3) && decide (w'.db.storedTickets = 1))) found
  rw [Bool.and_eq_true, Bool.and_eq_true, List.all_eq_true] at holds
  obtain ⟨kept, length, stored⟩ := holds
  exact ⟨requests, w', retries, of_decide_eq_true length, of_decide_eq_true stored,
    once_of_retries (by decide) rfl retries kept⟩

/-- The first request commits its ticket and fails to save its response. It unlocks the key, and the
second request books a second ticket. -/
theorem retry_books_twice :
    ∃ requests w', FiveRetries requests w' ∧ requests.length = 2 ∧
      fiveForSale.db.tickets.Quiet ∧
      (bookingContest ⟨0, 10, id⟩ 1 ⟨1, by decide⟩ tenCharacters).record
        fiveForSale = none ∧
      ¬ w'.db.storedTickets ≤ fiveForSale.db.storedTickets + 1 := by
  have found : (Serial.play exec () (fun _ : Unit => createTicket shippedSettings.deployment
      ⟨0, 10, id⟩ 1 ⟨1, by decide⟩ (some tenCharacters.text))
      [((), failing [12]), ((), failing [])] fiveForSale).any (fun r =>
        decide (r.1.length = 2) &&
          !decide (r.2.db.storedTickets ≤ fiveForSale.db.storedTickets + 1)) = true := by
    decide
  obtain ⟨requests, w', retries, holds⟩ := exists_serial_of_play
    (P := fun (requests : List SentRequest) w' => decide (requests.length = 2) &&
      !decide (w'.db.storedTickets ≤ fiveForSale.db.storedTickets + 1)) found
  rw [Bool.and_eq_true, Bool.not_eq_true'] at holds
  exact ⟨requests, w', retries, of_decide_eq_true holds.1, by decide, rfl,
    of_decide_eq_false holds.2⟩

end TicketCore
