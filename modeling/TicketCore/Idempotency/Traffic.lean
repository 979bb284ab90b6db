import TicketCore.Idempotency.Contest
import TicketCore.JsonText
import TicketCore.Routing

/-!
# Requests to the endpoints behind `@idempotent`

Requests of any users on the four endpoints that the decorator protects, with keys and payloads of
the clients' choice, and what their records tell.

* `generateKey_inj`: the Redis key tells the user, the action and the client's key.
* `fields_eq_of_text`: the text that is hashed tells the payload.
* `request_eq`: the key and the hash of a record tell the request.
* `Traffic` is what the threads do: such requests, and expiries of records.
-/

namespace TicketCore

open Interleave

/-! ## Keys -/

/-- The key is read back: the number ends at the first `:`, the action at the second one. -/
theorem generateKey_inj {userId userId' : Int} {action action' key key' : String}
    (plain : ':' ∉ action.toList) (plain' : ':' ∉ action'.toList)
    (same : IdempotencyService.generateKey userId action key =
      IdempotencyService.generateKey userId' action' key') :
    userId = userId' ∧ action = action' ∧ key = key' := by
  have colon : ":".toList = [':'] := rfl
  have digits : ∀ n : Int, ':' ∉ (toString n).toList := fun n =>
    DecimalText.not_mem_toString n (by decide) (by decide)
  have texts := congrArg String.toList same
  unfold IdempotencyService.generateKey at texts
  simp only [String.toList_append, colon, List.append_assoc, List.singleton_append] at texts
  have rest := List.append_cancel_left texts
  obtain ⟨users, rest⟩ := DecimalText.field_cancel (digits userId) (digits userId') rest
  obtain ⟨actions, keys⟩ := DecimalText.field_cancel plain plain' rest
  exact ⟨DecimalText.toString_injective (String.toList_inj.mp users),
    String.toList_inj.mp actions,
    String.toList_inj.mp keys⟩

/-! ## Requests -/

/-- The endpoints behind `@idempotent`, with what the client sends to each. -/
inductive ProtectedEndpoint
  | createTicket (ticket : TicketCreate)
  | ticketPayment (ticketId : Int)
  | ticketTypeCreate (eventId : Int) (ticketTypeData : TicketTypeCreate)
  | createEvent (event : EventCreate) (date : String)

namespace ProtectedEndpoint

/-- The `action` of the decorator. -/
def action : ProtectedEndpoint → String
  | .createTicket _ => "create_ticket"
  | .ticketPayment _ => "ticket_payment"
  | .ticketTypeCreate .. => "ticket_type_create"
  | .createEvent .. => "create_event"

/-- The keyword arguments without the key. -/
def kwargs : ProtectedEndpoint → List (String × KeywordArgument)
  | .createTicket ticket =>
      [("owner", .dependency), ("ticket", .dto ticket.dump), ("ticket_service", .dependency),
        ("idempotency_service", .dependency)]
  | .ticketPayment ticketId =>
      [("ticket_id", .primitive (.int ticketId)), ("user", .dependency),
        ("payment_service", .dependency), ("idempotency_service", .dependency)]
  | .ticketTypeCreate eventId ticketTypeData =>
      [("ticket_type_data", .dto (ticketTypeData.dump eventId)),
        ("ticket_type_service", .dependency),
        ("admin", .dependency), ("idempotency_service", .dependency)]
  | .createEvent event date =>
      [("event", .dto (event.dump date)), ("event_service", .dependency),
        ("admin_user", .dependency),
        ("idempotency_service", .dependency)]

/-- The business payload. -/
def fields : ProtectedEndpoint → JsonObject
  | .createTicket ticket => [("ticket", ticket.dump)]
  | .ticketPayment ticketId => [("ticket_id", .int ticketId)]
  | .ticketTypeCreate eventId ticketTypeData => [("ticket_type_data", ticketTypeData.dump eventId)]
  | .createEvent event date => [("event", event.dump date)]

/-- Dependencies and the key are no part of the payload. -/
theorem extractBusinessPayload_kwargs (endpoint : ProtectedEndpoint) (key : String) :
    extractBusinessPayload
      (endpoint.kwargs ++ [("idempotency_key", .primitive (.str key))]) "idempotency_key" =
      some endpoint.fields := by
  cases endpoint with
  | createTicket ticket => rfl
  | ticketPayment ticketId => rfl
  | ticketTypeCreate eventId ticketTypeData => rfl
  | createEvent event date => rfl

theorem colon_notMem_action (endpoint : ProtectedEndpoint) : ':' ∉ endpoint.action.toList := by
  have plain :
      ∀ name ∈ ["create_ticket", "ticket_payment", "ticket_type_create", "create_event"],
      ':' ∉ name.toList := by
    decide
  refine plain endpoint.action ?_
  cases endpoint with
  | createTicket ticket => exact List.mem_cons_self ..
  | ticketPayment ticketId => exact .tail _ (List.mem_cons_self ..)
  | ticketTypeCreate eventId data => exact .tail _ (.tail _ (List.mem_cons_self ..))
  | createEvent event date => exact .tail _ (.tail _ (.tail _ (List.mem_cons_self ..)))

theorem hashPayload_fields (service : IdempotencyService) (endpoint : ProtectedEndpoint) :
    service.hashPayload (some endpoint.fields) =
      service.sha256 (Json.dumps (.obj endpoint.fields)) := by
  cases endpoint with
  | createTicket ticket => rfl
  | ticketPayment ticketId => rfl
  | ticketTypeCreate eventId ticketTypeData => rfl
  | createEvent event date => rfl

/-- **The text that is hashed tells the payload**: it tells it up to the order of fields, and each
endpoint has its fields in one order. -/
theorem fields_eq_of_text {endpoint endpoint' : ProtectedEndpoint}
    (same : Json.dumps (.obj endpoint.fields) = Json.dumps (.obj endpoint'.fields)) :
    endpoint.fields = endpoint'.fields := by
  have sorted := Json.dumps_inj.mp same
  cases endpoint with
  | createTicket ticket =>
      cases endpoint' with
      | createTicket ticket' =>
          simpa [fields, TicketCreate.dump, Json.sorted, Json.sortedFields] using sorted
      | _ => simp [fields, Json.sorted, Json.sortedFields] at sorted
  | ticketPayment ticketId =>
      cases endpoint' with
      | ticketPayment ticketId' => simpa [fields, Json.sorted, Json.sortedFields] using sorted
      | _ => simp [fields, Json.sorted, Json.sortedFields] at sorted
  | ticketTypeCreate eventId data =>
      cases endpoint' with
      | ticketTypeCreate eventId' data' =>
          simp [fields, TicketTypeCreate.dump, Json.sorted, Json.sortedFields] at sorted
          obtain ⟨events, names, prices, quantities⟩ := sorted
          rw [fields, fields, TicketTypeCreate.dump, TicketTypeCreate.dump, events, names, prices,
            quantities]
      | _ => simp [fields, Json.sorted, Json.sortedFields] at sorted
  | createEvent event date =>
      cases endpoint' with
      | createEvent event' date' =>
          simp [fields, EventCreate.dump, Json.sorted, Json.sortedFields] at sorted
          obtain ⟨cities, countries, dates, addresses, titles⟩ := sorted
          rw [fields, fields, EventCreate.dump, EventCreate.dump, cities, countries,
            dates, addresses,
            titles]
      | _ => simp [fields, Json.sorted, Json.sortedFields] at sorted

end ProtectedEndpoint

/-- A request to a protected endpoint, with the key that its client has chosen. -/
structure ProtectedCall where
  userId : Int
  endpoint : ProtectedEndpoint
  idempotencyKey : Option String

/-- A reply with the JSON of its value. -/
def Reply.encoded {α : Type} (encode : α → JsonObject) : Reply α → Reply JsonObject
  | .computed response => .computed (encode response)
  | .cached response => .cached response

namespace ProtectedCall

/-- The request, as the API serves it. -/
def program (d : Deployment) (service : IdempotencyService) (isoformat : Int → String)
    (call : ProtectedCall) : Async (Reply JsonObject) :=
  match call.endpoint with
  | .createTicket ticket =>
      Reply.encoded TicketResponse.encode <$>
        createTicket d service call.userId ticket call.idempotencyKey
  | .ticketPayment ticketId =>
      Reply.encoded TicketPaymentSchema.encode <$>
        ticketPayment d service ticketId call.userId call.idempotencyKey
  | .ticketTypeCreate eventId ticketTypeData =>
      Reply.encoded TicketTypeResponse.encode <$>
        ticketTypeCreate d service call.userId eventId ticketTypeData call.idempotencyKey
  | .createEvent event date =>
      Reply.encoded (EventResponse.encode isoformat) <$>
        createEvent d service isoformat call.userId event date call.idempotencyKey

/-- The request as the decorator sees it, if it has a key. -/
def request (call : ProtectedCall) : Option Request :=
  match call.idempotencyKey with
  | none | some "" => none
  | some key => some ⟨call.userId, call.endpoint.action, key, some call.endpoint.fields⟩

theorem request_inv {call : ProtectedCall} {request : Request}
    (keyed : call.request = some request) :
    ∃ key, request = ⟨call.userId, call.endpoint.action, key, some call.endpoint.fields⟩ := by
  unfold ProtectedCall.request at keyed
  split at keyed
  · cases keyed
  · cases keyed
  · exact ⟨_, (Option.some.inj keyed).symm⟩

end ProtectedCall

/-- The key and the hash tell the request. -/
theorem request_eq {service : IdempotencyService} {call call' : ProtectedCall}
    {request request' : Request}
    (keyed : call.request = some request) (keyed' : call'.request = some request')
    (collisionFree : service.sha256 (Json.dumps (.obj call.endpoint.fields)) =
        service.sha256 (Json.dumps (.obj call'.endpoint.fields)) →
      Json.dumps (.obj call.endpoint.fields) = Json.dumps (.obj call'.endpoint.fields))
    (keys : request.redisKey = request'.redisKey)
    (hashes : service.hashPayload request.payload = service.hashPayload request'.payload) :
    request = request' := by
  obtain ⟨key, rfl⟩ := ProtectedCall.request_inv keyed
  obtain ⟨key', rfl⟩ := ProtectedCall.request_inv keyed'
  obtain ⟨users, actions, clientKeys⟩ : call.userId = call'.userId ∧
    call.endpoint.action = call'.endpoint.action ∧ key = key' := generateKey_inj
      call.endpoint.colon_notMem_action call'.endpoint.colon_notMem_action keys
  dsimp only at hashes
  rw [ProtectedEndpoint.hashPayload_fields, ProtectedEndpoint.hashPayload_fields] at hashes
  have payloads := ProtectedEndpoint.fields_eq_of_text (collisionFree hashes)
  rw [users, actions, clientKeys, payloads]

/-! ## Threads -/

/-- What the threads do: requests to the endpoints, and expiries of records. -/
inductive Traffic
  | request (call : ProtectedCall)
  | expiry (key : String)

/-- The call tree of a thread; a request ends with its reply. -/
def Traffic.program (d : Deployment) (service : IdempotencyService) (isoformat : Int → String) :
    Traffic → Async (Option (Reply JsonObject))
  | .request call => some <$> call.program d service isoformat
  | .expiry key => do
      redis service.redis (.expire key)
      pure none

theorem leaves_of_tickets {d : Deployment} {cmd : Cmd} (h : OfTickets d cmd) :
    LeavesRecords cmd := by
  cases cmd with
  | redis n command =>
      cases command with
      | setNxEx key text ttl | get key | setEx key text ttl | delete key | expire key =>
          exact h.elim
      | _ => trivial
  | _ => trivial

theorem leaves_of_catalog {d : Deployment} {cmd : Cmd} (h : OfCatalog d cmd) :
    LeavesRecords cmd := by
  cases cmd with
  | redis n command =>
      cases command with
      | setNxEx key text ttl | get key | setEx key text ttl | delete key | expire key =>
          exact h.elim
      | _ => trivial
  | _ => trivial

/-! ## Saved responses -/

section Produced

variable {ι : Type}

/-- A response is saved: whose, and which. -/
def produced : CallEvent ι → Option (ι × JsonObject)
  | ⟨t, .redis _ (.setEx _ (.valid ⟨.completed, some response, _⟩) _), _, .ok _, _, _⟩ =>
      some (t, response)
  | _ => none

theorem LeavesRecords.produced {t : ι} {cmd : Cmd} {choice : Choice} {answer : Except Exn cmd.Resp}
    {w w' : World ι} (leaves : LeavesRecords cmd) :
    TicketCore.produced (⟨t, cmd, choice, answer, w, w'⟩ : CallEvent ι) = none := by
  unfold TicketCore.produced
  split
  · rename_i same
    cases same
    exact leaves.elim
  · rfl

end Produced

end TicketCore
