import TicketCore.Alone

/-!
# A reservation that fails

A run of `TicketService.create` in its request, with no other request, in which one awaited call
after the reserve script raises.

* `counter_right_iff`: the counter is right afterwards exactly when the call that raises is neither
  the `HSET` of the reservation entry nor the refresh after the commit.
* `counter_wrong`: at these two calls a slot leaks, and a slot is granted twice.
-/

namespace TicketCore

open Interleave RowStore

variable {ι : Type} [DecidableEq ι]

/-- The awaited calls of `TicketService.create` after the reserve script. -/
inductive BookingCall
  | update
  | flush
  | hset
  | commit
  | refresh
  | enqueueJob
deriving DecidableEq

/-- Which of the calls a command is. -/
def BookingCall.ofCmd : Cmd → Option BookingCall
  | .db (.addTicketsSold ..) => some .update
  | .db (.insertTicket ..) => some .flush
  | .redis _ (.hset ..) => some .hset
  | .db .commit => some .commit
  | .db (.refreshTicket _) => some .refresh
  | .enqueueJob _ => some .enqueueJob
  | _ => none

/-- What a call raises: an error of the database, or of Redis or arq. -/
def BookingCall.Raises : BookingCall → Exn → Prop
  | .hset, e | .enqueueJob, e => e = .redis
  | _, e => e.isSQLAlchemyError = true

/-- Only this call fails, with this exception. -/
def FailsAt (point : BookingCall) (x : Exn) (e : CallEvent ι) : Prop :=
  e.choice.fault = if BookingCall.ofCmd e.cmd = some point then some x else none

instance (point : BookingCall) (x : Exn) (e : CallEvent ι) : Decidable (FailsAt point x e) :=
  inferInstanceAs (Decidable (_ = _))

/-- A ticket has been committed. -/
def TicketCommitted (w w' : World ι) : Prop :=
  ∃ id, w.db.tickets.row id = none ∧ (w'.db.tickets.row id).isSome

/-- The counter, which was `n`, stands for what was committed. -/
structure CounterRight (d : Deployment) (ticketTypeId n : Int) (w w' : World ι) : Prop where
  restored : ¬ TicketCommitted w w' → (w'.redis d.apiRedis).inventory ticketTypeId = some n
  taken : TicketCommitted w w' → (w'.redis d.apiRedis).inventory ticketTypeId = some (n - 1)

/-- The database accepts a ticket of this type for this user. -/
def Accepted (db : Database ι) (userId : Int) (row : TicketType) : Prop :=
  row.ticketsSold < row.ticketsQuantity ∧ userId ∈ db.users

/-! ## Calls of which one fails -/

section Rules

variable {t : ι} {point : BookingCall} {x : Exn} {w : World ι}

/-- A call fails if it is the one to fail, and is executed otherwise. -/
theorem ensures_point {cmd : Cmd} {post : Except Exn cmd.Resp → World ι → Prop}
    (fails : BookingCall.ofCmd cmd = some point → cmd.mayFail = true ∧ post (.error x) w)
    (done : BookingCall.ofCmd cmd ≠ some point → ∀ choice answer w',
      cmd.run t choice w = some (answer, w') → post answer w') :
    (.call cmd : Async cmd.Resp).Ensures exec t (FailsAt point x) post w := by
  refine Program.Ensures.call fun choice answer w' ran ok => ?_
  unfold FailsAt at ok
  dsimp only at ok
  unfold exec at ran
  split at ok
  · rename_i here
    obtain ⟨may, failed⟩ := fails here
    rw [ok] at ran
    dsimp only at ran
    rw [if_pos may] at ran
    cases ran
    exact failed
  · rename_i elsewhere
    rw [ok] at ran
    exact done elsewhere choice answer w' ran

/-- A statement that is one of the calls. -/
theorem ensures_statement {statement : DbCmd}
    {post : Except Exn statement.Resp → World ι → Prop}
    {call : BookingCall} (is : BookingCall.ofCmd (.db statement) = some call)
    (may : (Cmd.db statement).mayFail = true) (failed : point = call → post (.error x) w)
    (done : point ≠ call → ∀ clock rows answer db',
      statement.run t clock rows w.db = some (answer, db') → post answer { w with db := db' }) :
    (sql statement).Ensures exec t (FailsAt point x) post w := by
  refine ensures_point (fun here => ⟨may, ?_⟩) fun elsewhere choice answer w' ran => ?_
  · rw [is] at here
    exact failed (Option.some.inj here).symm
  · obtain ⟨db', executed, rfl⟩ := Cmd.run_db ran
    rw [is] at elsewhere
    exact done (fun same => elsewhere (congrArg some same.symm)) _ _ _ _ executed

/-- A statement that is none of the calls. -/
theorem ensures_other {statement : DbCmd} {post : Except Exn statement.Resp → World ι → Prop}
    (other : BookingCall.ofCmd (.db statement) = none) (done : ∀ clock rows answer db',
      statement.run t clock rows w.db = some (answer, db') → post answer { w with db := db' }) :
    (sql statement).Ensures exec t (FailsAt point x) post w := by
  refine ensures_point (fun here => ?_) fun _ choice answer w' ran => ?_
  · rw [other] at here
    cases here
  · obtain ⟨db', executed, rfl⟩ := Cmd.run_db ran
    exact done _ _ _ _ executed

/-- A Redis command that is none of the calls. -/
theorem ensures_script {n : Nat} {command : RedisCmd}
    {post : Except Exn command.Resp → World ι → Prop}
    (other : BookingCall.ofCmd (.redis n command) = none)
    (done : ∀ clock entries a r, command.run clock entries (w.redis n) = some (a, r) →
      post (.ok a) { w with redis := Function.update w.redis n r }) :
    (redis n command).Ensures exec t (FailsAt point x) post w := by
  refine ensures_point (fun here => ?_) fun _ choice answer w' ran => ?_
  · rw [other] at here
    cases here
  · obtain ⟨a, r, executed, rfl, rfl⟩ := Cmd.run_redis ran
    exact done _ _ _ _ executed

end Rules

/-! ## Where the booking breaks off -/

section Booking

variable {d : Deployment} {t : ι} {point : BookingCall} {x : Exn} {w w₁ : World ι}
  {row : TicketType} {userId ticketTypeId n : Int}

/-- The booking has raised, with the slot still taken from the counter. -/
inductive BrokenOff (w : World ι) (userId : Int) (row : TicketType) (point : BookingCall) :
    Exn → World ι → Prop
  | before {e : Exn} {w₁ : World ι} (caught : e.isSQLAlchemyError = true)
      (reason : Accepted w.db userId row → point ≠ .hset ∧ point ≠ .refresh)
      (rows : w₁.db.tickets.row = w.db.tickets.row) : BrokenOff w userId row point e w₁
  | hset {e : Exn} {w₁ : World ι} (uncaught : e.isSQLAlchemyError = false)
      (reason : point = .hset)
      (accepted : Accepted w.db userId row) (rows : w₁.db.tickets.row = w.db.tickets.row) :
      BrokenOff w userId row point e w₁
  | refresh {e : Exn} {w₁ : World ι} (caught : e.isSQLAlchemyError = true)
      (reason : point = .refresh)
      (accepted : Accepted w.db userId row) (committed : TicketCommitted w w₁) :
      BrokenOff w userId row point e w₁
  | enqueueJob {e : Exn} {w₁ : World ι} (uncaught : e.isSQLAlchemyError = false)
      (reason : point = .enqueueJob) (committed : TicketCommitted w w₁) :
      BrokenOff w userId row point e w₁

/-- The end of the booking, once the new row is committed. -/
theorem ensures_announce {id : Int} {ticket : Ticket} (raises : point.Raises x)
    (accepted : Accepted w.db userId row) (fresh : w.db.tickets.row id = none)
    (read : w₁.db.tickets.read t id = some ticket)
    (committed : w₁.db.tickets.row id = some ticket)
    (counter : (w₁.redis d.apiRedis).inventory ticketTypeId = some (n - 1))
    (late : point = .refresh ∨ point = .enqueueJob) :
    (do
      let newTicket : Ticket ← sql (.refreshTicket id)
      enqueueJob ⟨"release_unpaid_ticket", id, d.ticketReservationTimeSeconds⟩
      pure (id, newTicket) : Async (Int × Ticket)).Ensures exec t (FailsAt point x)
        (fun outcome w₂ =>
        ∃ e, outcome = .error e ∧ BrokenOff w userId row point e w₂ ∧
          (w₂.redis d.apiRedis).inventory ticketTypeId = some (n - 1)) w₁ := by
  have reserved : TicketCommitted w w₁ := ⟨id, fresh, by rw [committed]; rfl⟩
  refine Program.Ensures.bind
    (ensures_statement rfl rfl (fun here => ?_) fun elsewhere _ _ _ _ ran => ?_)
  · subst here
    exact ⟨x, rfl, .refresh raises rfl accepted reserved, counter⟩
  obtain ⟨rfl, ⟨absent, _⟩ | ⟨_, _, rfl⟩⟩ := DbCmd.run_refreshTicket ran
  · rw [read] at absent
    cases absent
  obtain rfl : point = .enqueueJob := late.resolve_left elsewhere
  obtain rfl : x = .redis := raises
  refine Program.Ensures.bind (ensures_point (fun _ => ⟨rfl, ?_⟩) fun elsewhere _ _ _ => ?_)
  · exact ⟨_, rfl, .enqueueJob rfl rfl reserved, counter⟩
  · exact (elsewhere rfl).elim

/-- The booking, from the reserve script on. -/
theorem ensures_book (raises : point.Raises x) (calm : w.db.Calm)
    (known : w.db.ticketTypes.row ticketTypeId = some row) (same : w₁.db = w.db)
    (counter : (w₁.redis d.apiRedis).inventory ticketTypeId = some (n - 1)) :
    (TicketService.book d userId ticketTypeId).Ensures exec t (FailsAt point x) (fun outcome w₂ =>
      ∃ e, outcome = .error e ∧ BrokenOff w userId row point e w₂ ∧
        (w₂.redis d.apiRedis).inventory ticketTypeId = some (n - 1)) w₁ := by
  have read : w.db.ticketTypes.read t ticketTypeId = some row := by
    rw [read_of_not_held (heldBy_of_quiet calm.quiet.2), known]
  refine Program.Ensures.bind
    (ensures_statement rfl rfl (fun here => ?_) fun update _ _ _ _ ran => ?_)
  · subst here
    exact ⟨x, rfl, .before raises (fun _ => ⟨nofun, nofun⟩) (by rw [same]), counter⟩
  rw [same] at ran
  rcases DbCmd.run_addTicketsSold ran with
    ⟨absent, _⟩ |
      ⟨_, stored, _, ⟨row', added, rfl, rfl⟩ | ⟨violated, refused, rfl, rfl⟩⟩
  · rw [read] at absent
    cases absent
  swap
  · rw [read] at stored
    cases stored
    refine ⟨_, rfl, .before rfl (fun accepted => ?_) rfl, counter⟩
    have limit := accepted.1
    have sold := row.check_ticket_sold
    rcases TicketType.addTicketsSold_error refused with ⟨_, beyond⟩ | ⟨_, below⟩
    · omega
    · omega
  have notFull : row.ticketsSold < row.ticketsQuantity := by
    rw [read] at stored
    cases stored
    have limit := row'.check_sold_limit
    obtain ⟨sold, quantity⟩ := TicketType.addTicketsSold_ok added
    omega
  refine Program.Ensures.bind
    (ensures_statement rfl rfl (fun here => ?_) fun flush _ _ _ _ ran => ?_)
  · subst here
    exact ⟨x, rfl, .before raises (fun _ => ⟨nofun, nofun⟩) rfl, counter⟩
  have listed : (w.db.ticketTypes.hold t ticketTypeId (some row')).read t ticketTypeId =
      some row' := by
    rw [read_hold (read_issued (by rw [read]; rfl)), Function.update_self]
  rcases DbCmd.run_insertTicket ran with
    ⟨absent, _⟩ | ⟨stranger, rfl, rfl⟩ | ⟨_, user, rfl, rfl⟩
  · rw [show _ = _ from listed] at absent
    cases absent
  · exact ⟨_, rfl, .before rfl (fun accepted => (stranger accepted.2).elim) rfl, counter⟩
  have accepted : Accepted w.db userId row := ⟨notFull, user⟩
  refine Program.Ensures.bind (ensures_point (fun here => nomatch here) fun _ _ _ _ ran => ?_)
  cases ran
  refine Program.Ensures.bind (ensures_point (fun here => ⟨rfl, ?_⟩) fun entry _ _ _ ran => ?_)
  · cases here
    obtain rfl : x = .redis := raises
    exact ⟨_, rfl, .hset rfl rfl accepted insert_row, counter⟩
  obtain ⟨_, r, entered, rfl, rfl⟩ := Cmd.run_redis ran
  cases entered
  have kept : ∀ r : RedisDb, r.inventory ticketTypeId = some (n - 1) →
      (Function.update w₁.redis d.apiRedis r d.apiRedis).inventory ticketTypeId = some (n - 1) :=
    fun r counter => by rwa [Function.update_self]
  refine Program.Ensures.bind
    (ensures_statement rfl rfl (fun here => ?_) fun commit _ _ _ _ ran => ?_)
  · subst here
    exact ⟨x, rfl, .before raises (fun _ => ⟨nofun, nofun⟩) insert_row, kept _ counter⟩
  cases ran
  have inserted : ∀ ticket : Ticket,
      (w.db.tickets.insert t ticket).read t w.db.tickets.next = some ticket := fun ticket => by
    rw [read_insert, Function.update_self]
  have late : point = .refresh ∨ point = .enqueueJob := by
    cases point with
    | update => exact (update rfl).elim
    | flush => exact (flush rfl).elim
    | hset => exact (entry rfl).elim
    | commit => exact (commit rfl).elim
    | refresh => exact .inl rfl
    | enqueueJob => exact .inr rfl
  exact ensures_announce raises accepted row_next
    ((read_of_not_held heldBy_commit_self).trans (inserted _)) (inserted _) (kept _ counter) late

/-- The request has raised, and the counter is right unless it was the wrong call that raised. -/
def Fails (d : Deployment) (ticketTypeId n userId : Int) (row : TicketType) (point : BookingCall)
    (w : World ι) {α : Type} (outcome : Except Exn α) (w' : World ι) : Prop :=
  (∃ e, outcome = .error e) ∧ (CounterRight d ticketTypeId n w w' ↔
    (Accepted w.db userId row → point ≠ .hset ∧ point ≠ .refresh))

omit [DecidableEq ι] in
theorem not_ticketCommitted (rows : w₁.db.tickets.row = w.db.tickets.row) :
    ¬ TicketCommitted w w₁ := by
  rintro ⟨id, absent, present⟩
  rw [rows, absent] at present
  cases present

omit [DecidableEq ι] in
/-- Only the committed tickets and Redis count. -/
theorem CounterRight.congr {w₂ : World ι} (h : CounterRight d ticketTypeId n w w₁)
    (rows : w₁.db.tickets.row = w₂.db.tickets.row) (redis : w₁.redis = w₂.redis) :
    CounterRight d ticketTypeId n w w₂ := by
  have committed : TicketCommitted w w₁ ↔ TicketCommitted w w₂ := by
    unfold TicketCommitted
    rw [rows]
  obtain ⟨restored, taken⟩ := h
  rw [redis, committed] at restored taken
  exact ⟨restored, taken⟩

/-- The `except` blocks, when they catch the exception: the slot goes back to the counter. -/
theorem ensures_caught {e : Exn} {α : Type} {post : Except Exn α → World ι → Prop}
    (caught : e.isSQLAlchemyError = true)
    (counter : (w₁.redis d.apiRedis).inventory ticketTypeId = some (n - 1))
    (h : ∀ e' w₂, w₂.db.tickets.row = w₁.db.tickets.row →
      (w₂.redis d.apiRedis).inventory ticketTypeId = some n → post (.error e') w₂) :
    (TicketService.compensate d ticketTypeId e).Ensures exec t (FailsAt point x) post w₁ := by
  unfold TicketService.compensate
  rw [if_pos caught]
  refine Program.Ensures.bind (ensures_other rfl ?_)
  rintro _ _ _ _ ⟨⟩
  refine Program.Ensures.bind (ensures_script rfl ?_)
  rintro _ _ _ _ ⟨⟩
  have given : ((w₁.redis d.apiRedis).incrInventory ticketTypeId).inventory
      ticketTypeId = some n := by
    unfold RedisDb.incrInventory RedisDb.setInventory
    dsimp only
    rw [Function.update_self, counter, Option.getD_some, sub_add_cancel]
  split
  · exact h _ _ rfl (by rw [redis_update]; exact given)
  · exact h _ _ rfl (by rw [redis_update]; exact given)

/-- The `except` blocks: they let an error of Redis pass. -/
theorem BrokenOff.ensures_compensate {e : Exn} {α : Type} (h : BrokenOff w userId row point e w₁)
    (counter : (w₁.redis d.apiRedis).inventory ticketTypeId = some (n - 1)) :
    (TicketService.compensate d ticketTypeId e : Async α).Ensures exec t (FailsAt point x)
      (Fails d ticketTypeId n userId row point w) w₁ := by
  cases h with
  | before caught reason rows =>
      refine ensures_caught caught counter fun e' w₂ same restored =>
        ⟨⟨e', rfl⟩, fun _ => reason, ?_⟩
      exact fun _ => ⟨fun _ => restored, fun committed =>
        (not_ticketCommitted (same.trans rows) committed).elim⟩
  | hset uncaught reason accepted rows =>
      unfold TicketService.compensate
      rw [if_neg (by rw [uncaught]; nofun)]
      refine ⟨⟨e, rfl⟩, fun right => ?_, fun spared => ((spared accepted).1 reason).elim⟩
      have restored := right.restored (not_ticketCommitted rows)
      rw [counter] at restored
      exact absurd (Option.some.inj restored) (by omega)
  | refresh caught reason accepted committed =>
      refine ensures_caught caught counter fun e' w₂ same restored =>
        ⟨⟨e', rfl⟩, fun right => ?_,
        fun spared => ((spared accepted).2 reason).elim⟩
      have taken := right.taken (by unfold TicketCommitted; rw [same]; exact committed)
      rw [restored] at taken
      exact absurd (Option.some.inj taken) (by omega)
  | enqueueJob uncaught reason committed =>
      unfold TicketService.compensate
      rw [if_neg (by rw [uncaught]; nofun)]
      subst reason
      exact ⟨⟨e, rfl⟩, fun _ _ => ⟨nofun, nofun⟩,
        fun _ => ⟨fun none => (none committed).elim,
        fun _ => counter⟩⟩

theorem ensures_create {ticketData : TicketCreate} (raises : point.Raises x) (calm : w.db.Calm)
    (known : w.db.ticketTypes.row ticketData.ticketTypeId = some row)
    (stock : (w.redis d.apiRedis).inventory ticketData.ticketTypeId = some n) (positive : 0 < n) :
    (TicketService.create d userId ticketData).Ensures exec t (FailsAt point x)
      (Fails d ticketData.ticketTypeId n userId row point w) w := by
  refine Program.Ensures.bind (ensures_script rfl fun _ _ result r ran => ?_)
  rcases RedisDb.reserveScript_cases (Option.some.inj ran) with
    ⟨missing, _⟩ | ⟨_, stored, _, rfl, rfl⟩ | ⟨_, stored, spent, _⟩
  · rw [stock] at missing
    cases missing
  swap
  · rw [stock] at stored
    cases stored
    omega
  rw [stock] at stored
  cases stored
  refine Program.Ensures.bind ?_
  unfold TicketService.fallback
  rw [if_neg (by decide)]
  show Program.Ensures exec t (FailsAt point x)
    (Fails d ticketData.ticketTypeId n userId row point w)
    (tryCatch (TicketService.book d userId ticketData.ticketTypeId)
      (TicketService.compensate d ticketData.ticketTypeId) >>= fun booked =>
        pure (⟨booked.1, booked.2.ticketTypeId, booked.2.status⟩ : TicketResponse)) _
  refine Program.Ensures.bind (Program.Ensures.tryCatch
    ((ensures_book (n := n) raises calm known ?_ ?_).mono ?_))
  · rfl
  · rw [redis_update]
    exact Function.update_self ..
  rintro _ w₂ ⟨e, rfl, broken, counter⟩
  exact (broken.ensures_compensate counter).mono fun outcome w₃ fails => by
    obtain ⟨⟨e', rfl⟩, right⟩ := fails
    exact ⟨⟨e', rfl⟩, right⟩

end Booking

/-! ## The counter after a failure -/

/-- **A failed reservation leaves the counter right if and only if the call that raised is neither
the `HSET` nor the refresh after the commit.** These two are reached when the database accepts the
ticket. -/
theorem counter_right_iff {d : Deployment} {t : ι} {w w' : World ι} {userId n : Int}
    {ticketData : TicketCreate} {row : TicketType} {point : BookingCall} {x : Exn}
    {events : List (CallEvent ι)} {outcome : Except Exn TicketResponse} (calm : w.db.Calm)
    (known : w.db.ticketTypes.row ticketData.ticketTypeId = some row)
    (stock : (w.redis d.apiRedis).inventory ticketData.ticketTypeId = some n) (positive : 0 < n)
    (raises : point.Raises x)
    (run : (getDb (TicketService.create d userId ticketData)).Runs exec t w events outcome w')
    (fails : ∀ e ∈ events, FailsAt point x e) :
    (∃ e, outcome = .error e) ∧ (CounterRight d ticketData.ticketTypeId n w w' ↔
      (Accepted w.db userId row → point ≠ .hset ∧ point ≠ .refresh)) := by
  have ensured : (getDb (TicketService.create d userId ticketData)).Ensures exec t (FailsAt point x)
      (Fails d ticketData.ticketTypeId n userId row point w) w := by
    refine Program.Ensures.ensuring (Program.Ensures.tryCatch
      ((ensures_create raises calm known stock positive).mono ?_))
    rintro _ w₁ ⟨⟨e, rfl⟩, right⟩
    refine Program.Ensures.bind (ensures_other rfl ?_)
    rintro _ _ _ _ ⟨⟩
    refine ensures_other rfl ?_
    rintro _ _ _ _ ⟨⟩
    exact ⟨⟨e, rfl⟩, fun holds => right.mp (holds.congr rfl rfl), fun spared =>
      (right.mpr spared).congr rfl rfl⟩
  exact ensured.runs run fails

/-- A type with three of five slots left, and a user. -/
def threeLeft {ι : Type} : World ι where
  db :=
    { (World.empty : World ι).db with
      ticketTypes := .ofList [exampleType 5 2]
      users := {1} }
  redis _ := RedisDb.empty.setInventory 1 (some 3)
  jobs := []

/-- A ticket of this type. -/
def ofThreeLeft : TicketCreate := ⟨1, Int.one_pos⟩

/-- The environment in which the `n`-th call fails. -/
def failingAt (x : Exn) (n k : Nat) : Choice := if k = n then { fault := some x } else {}

/-- The commit fails, and the slot is given back. -/
theorem counter_right_after_failed_commit :
    ∃ (events : List (CallEvent Unit)) (outcome : Except Exn TicketResponse) (w' : World Unit),
      (getDb (TicketService.create sharedRedis 1 ofThreeLeft)).Runs exec () threeLeft events outcome
        w' ∧ CounterRight sharedRedis 1 3 threeLeft w' := by
  have found : ((getDb (TicketService.create sharedRedis 1 ofThreeLeft)).play exec ()
      (failingAt .sqlalchemy 5) threeLeft).any (fun r =>
        r.1.all fun e => decide (FailsAt .commit .sqlalchemy e)) = true := by
    decide
  obtain ⟨events, outcome, w', run, fails⟩ := Program.exists_runs_of_play
    (P := fun events _ _ => events.all fun e => decide (FailsAt .commit .sqlalchemy e)) found
  have fails : ∀ e ∈ events, FailsAt .commit .sqlalchemy e := fun e mem =>
    of_decide_eq_true (List.all_eq_true.mp fails e mem)
  have calm : (threeLeft : World Unit).db.Calm := ⟨by decide, by decide⟩
  have raises : BookingCall.Raises .commit .sqlalchemy := rfl
  have right := (counter_right_iff calm rfl (n := 3) (by decide) (by decide) raises run fails).2
  exact ⟨events, outcome, w', run, right.mpr fun _ => ⟨nofun, nofun⟩⟩

/-- The `HSET` fails: no ticket is committed, and the slot stays taken. The refresh after the commit
fails: the ticket is committed, and its slot is granted again. -/
theorem counter_wrong :
    (∃ (events : List (CallEvent Unit)) (outcome : Except Exn TicketResponse) (w' : World Unit),
      (getDb (TicketService.create sharedRedis 1 ofThreeLeft)).Runs exec () threeLeft events outcome
        w' ∧ (∀ e ∈ events, FailsAt .hset .redis e) ∧
        ¬ CounterRight sharedRedis 1 3 threeLeft w') ∧
    ∃ (events : List (CallEvent Unit)) (outcome : Except Exn TicketResponse) (w' : World Unit),
      (getDb (TicketService.create sharedRedis 1 ofThreeLeft)).Runs exec () threeLeft events outcome
        w' ∧ (∀ e ∈ events, FailsAt .refresh .sqlalchemy e) ∧
      ¬ CounterRight sharedRedis 1 3 threeLeft w' := by
  constructor
  · have found : ((getDb (TicketService.create sharedRedis 1 ofThreeLeft)).play exec ()
        (failingAt .redis 4) threeLeft).any (fun r =>
          (r.1.all fun e => decide (FailsAt .hset .redis e)) &&
            decide (r.2.2.db.tickets.issued = 1 ∧ r.2.2.db.tickets.row 1 = none ∧
              (r.2.2.redis 0).inventory 1 = some 2)) = true := by
      decide
    obtain ⟨events, outcome, w', run, holds⟩ := Program.exists_runs_of_play
      (P := fun events _ w' => (events.all fun e => decide (FailsAt .hset .redis e)) &&
        decide (w'.db.tickets.issued = 1 ∧ w'.db.tickets.row 1 = none ∧
          (w'.redis 0).inventory 1 = some 2)) found
    rw [Bool.and_eq_true, List.all_eq_true] at holds
    obtain ⟨fails, left⟩ := holds
    obtain ⟨issued, absent, counter⟩ := of_decide_eq_true left
    refine ⟨events, outcome, w', run, fun e mem => of_decide_eq_true (fails e mem),
      fun right => ?_⟩
    have none : ¬ TicketCommitted threeLeft w' := by
      rintro ⟨id, _, present⟩
      have known := w'.db.tickets.row_issued id present
      obtain rfl : id = 1 := by omega
      rw [absent] at present
      cases present
    exact absurd (counter.symm.trans (right.restored none)) (by decide)
  · have found : ((getDb (TicketService.create sharedRedis 1 ofThreeLeft)).play exec ()
        (failingAt .sqlalchemy 6) threeLeft).any (fun r =>
          (r.1.all fun e => decide (FailsAt .refresh .sqlalchemy e)) &&
            decide ((r.2.2.db.tickets.row 1).isSome ∧ (r.2.2.redis 0).inventory 1 = some 3)) =
              true := by
      decide
    obtain ⟨events, outcome, w', run, holds⟩ := Program.exists_runs_of_play
      (P := fun events _ w' => (events.all fun e => decide (FailsAt .refresh .sqlalchemy e)) &&
        decide ((w'.db.tickets.row 1).isSome ∧ (w'.redis 0).inventory 1 = some 3)) found
    rw [Bool.and_eq_true, List.all_eq_true] at holds
    obtain ⟨fails, left⟩ := holds
    obtain ⟨present, counter⟩ := of_decide_eq_true left
    refine ⟨events, outcome, w', run, fun e mem => of_decide_eq_true (fails e mem),
      fun right => ?_⟩
    exact absurd (counter.symm.trans (right.taken ⟨1, rfl, present⟩)) (by decide)

end TicketCore
