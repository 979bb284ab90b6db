import TicketCore.Idempotency.Traffic

/-!
# The keys in Redis

`RedisKeys` of `src/core/redis_keys.py` and the keys of the idempotency records: the texts under
which the application keeps its counters, caches, registries and records.

* `head` is the fixed text that a key begins with, one for each constructor of keys; `head_free`:
  none begins another.
* `tail_inj`: after its head a key tells its arguments.
* `text_eq_iff`: two keys have the same text only if they come from the same constructor with the
  same arguments.
-/

namespace TicketCore

namespace RedisKeys

/-- `event_static`. -/
def eventStatic (eventId : Int) : String := "ticketcore:events:static:" ++ toString eventId

/-- `ticket_type_inventory`. -/
def ticketTypeInventory (ticketTypeId : Int) : String :=
  "ticketcore:inventory:ticket_type:" ++ toString ticketTypeId

/-- The key that `event_list` reads and `bump_event_list_version` increments. -/
def eventListVersion : String := "ticketcore:events:list_version"

/-- The text of the key that `event_list` returns. -/
def eventListText (key : ListKey) : String :=
  "ticketcore:events:list:v:" ++ toString key.version ++ ":o:" ++ toString key.offset ++
    ":l:" ++ toString key.limit

/-- `canceled_tickets_set`. -/
def canceledTicketsSet : String := "system:canceled_tickets"

/-- `active_reservations_hash`. -/
def activeReservationsHash : String := "system:active_reservations"

end RedisKeys

/-- The actions that the endpoints pass to `@idempotent`. -/
inductive IdempotentAction
  | createTicket
  | ticketPayment
  | ticketTypeCreate
  | createEvent
  deriving DecidableEq

namespace IdempotentAction

/-- The text of the action. -/
def name : IdempotentAction → String
  | .createTicket => "create_ticket"
  | .ticketPayment => "ticket_payment"
  | .ticketTypeCreate => "ticket_type_create"
  | .createEvent => "create_event"

/-- The action of an endpoint. -/
def ofEndpoint : ProtectedEndpoint → IdempotentAction
  | .createTicket _ => .createTicket
  | .ticketPayment _ => .ticketPayment
  | .ticketTypeCreate .. => .ticketTypeCreate
  | .createEvent .. => .createEvent

/-- Every action is that of an endpoint, and under the text its decorator has. -/
theorem name_ofEndpoint (endpoint : ProtectedEndpoint) :
    (ofEndpoint endpoint).name = endpoint.action := by
  cases endpoint <;> rfl

theorem name_inj {action action' : IdempotentAction} (same : action.name = action'.name) :
    action = action' := by
  cases action <;> cases action' <;> first | rfl | exact absurd same (by decide)

theorem colon_notMem_name (action : IdempotentAction) : ':' ∉ action.name.toList := by
  cases action <;> decide

end IdempotentAction

/-- A key with the constructor and the arguments it is built from. -/
inductive RedisKey
  | eventStatic (eventId : Int)
  | ticketTypeInventory (ticketTypeId : Int)
  | eventListVersion
  | eventList (key : ListKey)
  | canceledTicketsSet
  | activeReservationsHash
  | record (userId : Int) (action : IdempotentAction) (idempotencyKey : String)
  deriving DecidableEq

namespace RedisKey

/-- The key as Redis sees it. -/
def text : RedisKey → String
  | .eventStatic eventId => RedisKeys.eventStatic eventId
  | .ticketTypeInventory ticketTypeId => RedisKeys.ticketTypeInventory ticketTypeId
  | .eventListVersion => RedisKeys.eventListVersion
  | .eventList key => RedisKeys.eventListText key
  | .canceledTicketsSet => RedisKeys.canceledTicketsSet
  | .activeReservationsHash => RedisKeys.activeReservationsHash
  | .record userId action idempotencyKey =>
      IdempotencyService.generateKey userId action.name idempotencyKey

/-- The constructors, without arguments. -/
inductive Family
  | eventStatic
  | ticketTypeInventory
  | eventListVersion
  | eventList
  | canceledTicketsSet
  | activeReservationsHash
  | record
  deriving DecidableEq

/-- The constructor of a key. -/
def family : RedisKey → Family
  | .eventStatic _ => .eventStatic
  | .ticketTypeInventory _ => .ticketTypeInventory
  | .eventListVersion => .eventListVersion
  | .eventList _ => .eventList
  | .canceledTicketsSet => .canceledTicketsSet
  | .activeReservationsHash => .activeReservationsHash
  | .record .. => .record

/-- What the keys of a family begin with. -/
def Family.head : Family → String
  | .eventStatic => "ticketcore:events:static:"
  | .ticketTypeInventory => "ticketcore:inventory:ticket_type:"
  | .eventListVersion => "ticketcore:events:list_version"
  | .eventList => "ticketcore:events:list:v:"
  | .canceledTicketsSet => "system:canceled_tickets"
  | .activeReservationsHash => "system:active_reservations"
  | .record => "idem:u"

/-- What comes after the head. -/
def tail : RedisKey → String
  | .eventStatic eventId => toString eventId
  | .ticketTypeInventory ticketTypeId => toString ticketTypeId
  | .eventList key =>
      toString key.version ++ ":o:" ++ toString key.offset ++ ":l:" ++ toString key.limit
  | .eventListVersion | .canceledTicketsSet | .activeReservationsHash => ""
  | .record userId action idempotencyKey =>
      toString userId ++ ":" ++ action.name ++ ":" ++ idempotencyKey

theorem text_eq (key : RedisKey) : key.text = key.family.head ++ key.tail := by
  cases key with
  | eventStatic eventId => rfl
  | ticketTypeInventory ticketTypeId => rfl
  | eventListVersion => exact String.append_empty.symm
  | eventList key =>
      unfold text RedisKeys.eventListText family Family.head tail
      simp only [String.append_assoc]
  | canceledTicketsSet => exact String.append_empty.symm
  | activeReservationsHash => exact String.append_empty.symm
  | record userId action idempotencyKey =>
      unfold text IdempotencyService.generateKey family Family.head tail
      simp only [String.append_assoc]

/-- The heads are a prefix code. -/
theorem head_free {family family' : Family} (begins : family.head.toList <+: family'.head.toList) :
    family = family' := by
  cases family <;> cases family' <;> first | rfl | exact absurd begins (by decide)

/-- Two keys with the same text are of one family: one of their heads begins the other. -/
theorem family_eq {key key' : RedisKey} (same : key.text = key'.text) :
    key.family = key'.family := by
  have begins : key.family.head.toList <+: key'.text.toList := by
    rw [← same, text_eq, String.toList_append]
    exact List.prefix_append ..
  have begins' : key'.family.head.toList <+: key'.text.toList := by
    rw [text_eq, String.toList_append]
    exact List.prefix_append ..
  rcases List.prefix_or_prefix_of_prefix begins begins' with shorter | longer
  · exact head_free shorter
  · exact (head_free longer).symm

/-- A number ends before a text that begins with a colon. -/
theorem number_cancel {n n' : Int} {rest rest' : List Char}
    (same : (toString n).toList ++ ':' :: rest = (toString n').toList ++ ':' :: rest') :
    n = n' ∧ rest = rest' := by
  have digits : ∀ n : Int, ':' ∉ (toString n).toList := fun n =>
    DecimalText.not_mem_toString n (by decide) (by decide)
  obtain ⟨numbers, rests⟩ := DecimalText.field_cancel (digits n) (digits n') same
  exact ⟨DecimalText.toString_injective (String.toList_inj.mp numbers), rests⟩

theorem eventList_inj {key key' : ListKey} (same : (eventList key).tail = (eventList key').tail) :
    key = key' := by
  have o : ":o:".toList = [':', 'o', ':'] := rfl
  have l : ":l:".toList = [':', 'l', ':'] := rfl
  have texts := congrArg String.toList same
  simp only [tail, String.toList_append, o, l, List.append_assoc, List.cons_append, List.nil_append]
    at texts
  obtain ⟨versions, afterVersion⟩ := number_cancel texts
  have offsetsOn := List.append_cancel_left
    (show ['o', ':'] ++ _ = ['o', ':'] ++ _ from afterVersion)
  obtain ⟨offsets, afterOffset⟩ := number_cancel offsetsOn
  have limits := List.append_cancel_left (show ['l', ':'] ++ _ = ['l', ':'] ++ _ from afterOffset)
  have limitsEq := DecimalText.toString_injective (String.toList_inj.mp limits)
  calc
    key = ⟨key.version, key.offset, key.limit⟩ := rfl
    _ = ⟨key'.version, key'.offset, key'.limit⟩ := by rw [versions, offsets, limitsEq]
    _ = key' := rfl

theorem record_inj {userId userId' : Int} {action action' : IdempotentAction} {key key' : String}
    (same : (record userId action key).text = (record userId' action' key').text) :
    userId = userId' ∧ action = action' ∧ key = key' := by
  obtain ⟨users, names, keys⟩ :=
    generateKey_inj action.colon_notMem_name action'.colon_notMem_name same
  exact ⟨users, IdempotentAction.name_inj names, keys⟩

/-- In one family the text tells the arguments. -/
theorem eq_of_family {key key' : RedisKey} (families : key.family = key'.family)
    (same : key.text = key'.text) : key = key' := by
  have tails : key.tail = key'.tail := by
    rw [text_eq, text_eq, families] at same
    exact String.append_right_inj _ |>.mp same
  cases key with
  | eventStatic eventId =>
      cases key' with
      | eventStatic eventId' => rw [DecimalText.toString_injective tails]
      | _ => cases families
  | ticketTypeInventory ticketTypeId =>
      cases key' with
      | ticketTypeInventory ticketTypeId' => rw [DecimalText.toString_injective tails]
      | _ => cases families
  | eventListVersion =>
      cases key' with
      | eventListVersion => rfl
      | _ => cases families
  | eventList key =>
      cases key' with
      | eventList key' => rw [eventList_inj tails]
      | _ => cases families
  | canceledTicketsSet =>
      cases key' with
      | canceledTicketsSet => rfl
      | _ => cases families
  | activeReservationsHash =>
      cases key' with
      | activeReservationsHash => rfl
      | _ => cases families
  | record userId action idempotencyKey =>
      cases key' with
      | record userId' action' idempotencyKey' =>
          obtain ⟨rfl, rfl, rfl⟩ := record_inj same
          rfl
      | _ => cases families

/-- **Keys never collide**: two keys have the same text only if they come from the same constructor
with the same arguments, whatever text a client has chosen for its key. -/
theorem text_eq_iff (key key' : RedisKey) : key.text = key'.text ↔ key = key' := by
  constructor
  · intro same
    exact eq_of_family (family_eq same) same
  · rintro rfl
    rfl

end RedisKey

end TicketCore
