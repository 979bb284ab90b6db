import TicketCore.World

/-!
# Idempotency

`IdempotencyService` of `src/services/idempotency.py` and the decorator `idempotent` of
`src/api/decorators.py`. SHA-256 is a parameter of the service. What pydantic writes into Redis it
reads back, so a stored record is kept as a value.
-/

namespace TicketCore

/-- `IdempotencyService`: its Redis client and `ttl_seconds`, and the digest `hashlib.sha256`
computes of a text. -/
structure IdempotencyService where
  redis : Nat
  ttlSeconds : Int
  sha256 : String → String

namespace IdempotencyService

variable (service : IdempotencyService)

/-- `_generate_key`. -/
def generateKey (userId : Int) (action idempotencyKey : String) : String :=
  "idem:u" ++ toString userId ++ ":" ++ action ++ ":" ++ idempotencyKey

/-- `_hash_payload`; an empty payload hashes as the empty text. -/
def hashPayload (payload : Option JsonObject) : String :=
  match payload with
  | none | some [] => service.sha256 ""
  | some fields => service.sha256 (Json.dumps (.obj fields))

/-- What the `GET` of `check_and_lock` leads to. -/
def answerFromRecord (currentHash : String) (rawKey : Option RecordText) :
    Except Exn (Option JsonObject) :=
  match rawKey with
  | none => .error (.domain .idempotencyStateError "Concurrent conflict. Please retry.")
  | some .corrupted =>
      .error (.domain .idempotencyStateError "Corrupted data in cache. Please retry.")
  | some (.valid data) =>
      if data.payloadHash ≠ some currentHash then
        .error (.domain .idempotencyConflictError
          "Idempotency key already used with a different payload.")
      else
        match data.status with
        | .inProgress =>
            .error (.domain .idempotencyConflictError
              "Request already in progress. Please wait.")
        | .completed => .ok data.response

/-- `check_and_lock`: `none` is a lock acquired. -/
def checkAndLock (userId : Int) (action idempotencyKey : String) (payload : Option JsonObject) :
    Async (Option JsonObject) := do
  let redisKey := generateKey userId action idempotencyKey
  let currentHash := service.hashPayload payload
  let initialRecord : IdempotencyRecord := ⟨.inProgress, none, some currentHash⟩
  let lockAcquired : Bool ←
    TicketCore.redis service.redis (.setNxEx redisKey (.valid initialRecord) service.ttlSeconds)
  if lockAcquired then pure none
  else
    let rawKey : Option RecordText ← TicketCore.redis service.redis (.get redisKey)
    .done (answerFromRecord currentHash rawKey)

/-- `save_response`. -/
def saveResponse (userId : Int) (action idempotencyKey : String) (responseData : JsonObject)
    (payload : Option JsonObject) : Async Unit :=
  let record : IdempotencyRecord :=
    ⟨.completed, some responseData, some (service.hashPayload payload)⟩
  TicketCore.redis service.redis
    (.setEx (generateKey userId action idempotencyKey) (.valid record) service.ttlSeconds)

/-- `unlock`. -/
def unlock (userId : Int) (action idempotencyKey : String) : Async Unit :=
  TicketCore.redis service.redis (.delete (generateKey userId action idempotencyKey))

end IdempotencyService

/-! ## The decorator -/

/-- A keyword argument of an endpoint, as `_extract_business_payload` tells them apart: a DTO with
its JSON dump, a primitive, or an injected dependency. -/
inductive KeywordArgument
  | dto (dump : Json)
  | primitive (value : Json)
  | dependency

/-- `_extract_business_payload`. -/
def extractBusinessPayload (kwargs : List (String × KeywordArgument)) (keyName : String) :
    Option JsonObject :=
  let payload := kwargs.filterMap fun (key, value) =>
    if key = keyName then none
    else
      match value with
      | .dto dump => some (key, dump)
      | .primitive value => some (key, value)
      | .dependency => none
  if payload.isEmpty then none else some payload

/-- What a decorated endpoint returns: the value of this call, or a stored response. -/
inductive Reply (α : Type)
  | computed (response : α)
  | cached (response : JsonObject)

/-- A request as the decorator sees it. -/
structure Request where
  userId : Int
  action : String
  idempotencyKey : String
  payload : Option JsonObject

namespace Request

variable (service : IdempotencyService) (request : Request)

/-- The Redis key of the request's record. -/
def redisKey : String :=
  IdempotencyService.generateKey request.userId request.action request.idempotencyKey

/-- The `try` block of the decorator's wrapper. -/
def runHandler {α : Type} (encode : α → JsonObject) (func : Async α) : Async (Reply α) := do
  let response ← func
  service.saveResponse request.userId request.action request.idempotencyKey (encode response)
    request.payload
  pure (.computed response)

/-- The `except Exception` block: release the lock and raise again. -/
def unlockAndRaise {α : Type} (e : Exn) : Async α := do
  service.unlock request.userId request.action request.idempotencyKey
  throw e

/-- The wrapper of `idempotent` for a request that has a key, a user and a service. -/
def idempotent {α : Type} (encode : α → JsonObject) (func : Async α) : Async (Reply α) := do
  let cachedResponse ← service.checkAndLock request.userId request.action request.idempotencyKey
    request.payload
  match cachedResponse with
  | some response => pure (.cached response)
  | none =>
      tryCatch (request.runHandler service encode func) (request.unlockAndRaise service)

end Request

/-- The wrapper of `idempotent`: without a key the endpoint runs unprotected. -/
def idempotent {α : Type} (service : IdempotencyService) (action : String) (userId : Int)
    (idempotencyKey : Option String) (kwargs : List (String × KeywordArgument))
    (encode : α → JsonObject) (func : Async α) : Async (Reply α) :=
  match idempotencyKey with
  | none | some "" => Reply.computed <$> func
  | some key =>
      let kwargs := kwargs ++ [("idempotency_key", .primitive (.str key))]
      Request.idempotent service
        ⟨userId, action, key, extractBusinessPayload kwargs "idempotency_key"⟩ encode func

/-- `IdempotencyHeader`: a key that passes the validation of the header. -/
structure IdempotencyHeader where
  text : String
  min_length : 10 ≤ text.length
  max_length : text.length ≤ 100

/-- With a key the endpoint runs protected. -/
theorem idempotent_of_header {α : Type} (service : IdempotencyService) (action : String)
    (userId : Int) (header : IdempotencyHeader) (kwargs : List (String × KeywordArgument))
    (encode : α → JsonObject) (func : Async α) :
    idempotent service action userId (some header.text) kwargs encode func =
      Request.idempotent service ⟨userId, action, header.text,
        extractBusinessPayload (kwargs ++ [("idempotency_key", .primitive (.str header.text))])
          "idempotency_key"⟩ encode func := by
  have long := header.min_length
  unfold idempotent
  split
  · rename_i absent
    cases absent
  · rename_i empty
    rw [Option.some.inj empty] at long
    cases long
  · rename_i key _ same
    cases same
    rfl

end TicketCore
