import TicketCore.Catalog
import TicketCore.Custody.Milestone
import TicketCore.Sessions

/-!
# The calls keep to the protocol

Every activity starts `away` from a ticket and keeps to the protocol of its custody, in any
discipline that the protocol governs. `follows_activity` says so, and that the activity ends at
rest; a payment that returns leaves its ticket `kept`.
-/

namespace TicketCore.Custody

open Interleave

variable {ι : Type} [DecidableEq ι] {d : Deployment} {id : Int}
  {D : Discipline ι (World ι) Cmd Cmd.Resp Exn Choice Milestone} {t : ι} {g : Milestone}

namespace Milestone

/-- A transaction may be open that is not to be committed. -/
def Open : Milestone → Prop
  | away | seen | unborn _ | locked _ | spoiled => True
  | _ => False

theorem Open.ended (h : g.Open) : g.ended = some away := by
  cases g with
  | away | seen | unborn _ | locked _ | spoiled => rfl
  | _ => exact h.elim

theorem Open.failed (h : g.Open) : g.failed.Open := by
  cases g with
  | away | seen | unborn _ | locked _ | spoiled => trivial
  | _ => exact h.elim

theorem Open.exposed (h : g.Open) {cmd : Cmd} : g.Exposed id cmd := by
  cases g with
  | away | seen | unborn _ | locked _ | spoiled => trivial
  | _ => exact h.elim

theorem Open.not_born (h : g.Open) : g ≠ born := by
  rintro rfl
  exact h

end Milestone

/-- The milestone in which a request ends: `g` when it returns, and away when it raises. -/
def Closes {α : Type} (g : Milestone) : Except Exn α → Milestone → Prop
  | .ok _, g' => g' = g
  | .error _, g' => g' = .away

theorem Closes.away {α : Type} {outcome : Except Exn α} (h : Closes .away outcome g) :
    g = .away := by
  cases outcome with
  | ok a => exact h
  | error e => exact h

section Calls

variable (governs : (protocol d id).Governs D exec)

include governs

/-- A call about other tickets. -/
theorem follows_apart {cmd : Cmd} {post : Except Exn cmd.Resp → Milestone → Prop}
    (apart : Apart id cmd)
    (other : ∀ a, ¬ Books id cmd a) (born : g ≠ .born) (exposed : g.Exposed id cmd)
    (ok : ∀ a, post (.ok a) g) (fault : ∀ e, post (.error e) g.failed) :
    D.Follows exec t post (.call cmd) g := by
  refine governs.call fun answer _ => ?_
  cases answer with
  | ok a => exact ⟨g, .apart apart (other a) born, ok a⟩
  | error e => exact ⟨g.failed, .fail exposed, fault e⟩

/-- The end of a transaction that is not to be committed. -/
theorem follows_rollback {post : Except Exn Unit → Milestone → Prop} (opened : g.Open)
    (ok : post (.ok ()) .away) (fault : ∀ e, post (.error e) g.failed) :
    D.Follows exec t post (sql .rollback) g := by
  refine governs.call fun answer _ => ?_
  cases answer with
  | ok a => exact ⟨.away, .rolled opened.ended, ok⟩
  | error e => exact ⟨g.failed, .fail opened.exposed, fault e⟩

theorem follows_close {post : Except Exn Unit → Milestone → Prop} {g' : Milestone}
    (ends : g.ended = some g') (ok : post (.ok ()) g') : D.Follows exec t post (sql .close) g := by
  refine governs.call fun answer answers => ?_
  cases answer with
  | ok a => exact ⟨g', .closed ends, ok⟩
  | error e => exact answers.elim

end Calls

/-! ## Programs about other tickets -/

theorem away_ne_born : Milestone.away ≠ .born := Milestone.Open.not_born trivial

/-- A call that is about other tickets, or ends a transaction. -/
def Aside (id : Int) : Cmd → Prop
  | .db (.insertTicket ..) => False
  | .db statement => ¬ statement.locksTicket id
  | .redis _ command => command.Apart (toString id)
  | _ => True

theorem Aside.step {cmd : Cmd} {answer : Except Exn cmd.Resp} (h : Aside id cmd) :
    ∃ g', Step d id .away cmd answer g' ∧ g' = .away := by
  cases answer with
  | error e => exact ⟨_, .fail trivial, rfl⟩
  | ok a =>
      cases cmd with
      | db statement =>
          cases statement with
          | commit => exact ⟨_, .rest, rfl⟩
          | rollback => exact ⟨_, .rolled rfl, rfl⟩
          | close => exact ⟨_, .closed rfl, rfl⟩
          | insertTicket ownerId ticketTypeId => exact h.elim
          | _ => exact ⟨_, .apart ⟨not_false, h⟩ not_false nofun, rfl⟩
      | redis n command => exact ⟨_, .apart h not_false nofun, rfl⟩
      | enqueueJob job | now | handler => exact ⟨_, .apart trivial not_false nofun, rfl⟩

/-- A program that is not about the ticket stays away from it. -/
theorem follows_aside {α : Type} {p : Async α} (governs : (protocol d id).Governs D exec)
    (only : p.Only (Aside id)) : D.Follows exec t (fun _ g' => g' = .away) p .away := by
  refine governs.only (· = .away) (fun g cmd answer away aside _ => ?_) only rfl
  subst away
  exact aside.step

theorem OfCatalog.aside {cmd : Cmd} (h : OfCatalog d cmd) : Aside id cmd := by
  cases cmd with
  | db statement =>
      cases statement with
      | addTicketsSold ty delta | insertTicket ownerId ty | selectTicketForUpdate id' ownerId
      | updateTicketStatus id' status | deleteTicket id' | hungTickets threshold
      | cancelHungTicket id' threshold | refreshTicket id' | selectStatuses ids => exact h.elim
      | _ => exact not_false
  | redis n command =>
      cases command with
      | evalRefund ty field | hset field value | hdel field => exact h.elim
      | _ => trivial
  | _ => exact h.elim

/-! ## Blocks of requests -/

/-- What a block leaves behind: a milestone that fits its result, or a transaction to roll back. -/
def Leaves {α : Type} (returns : α → Milestone → Prop) : Except Exn α → Milestone → Prop
  | .ok a, g => returns a g
  | .error _, g => g.Open

section Blocks

variable {α β : Type} (governs : (protocol d id).Governs D exec)

theorem Leaves.bind {p : Async α} {f : α → Async β} {returns : β → Milestone → Prop}
    (middle : α → Milestone → Prop) (h : D.Follows exec t (Leaves middle) p g)
    (rest : ∀ a g', middle a g' → D.Follows exec t (Leaves returns) (f a) g') :
    D.Follows exec t (Leaves returns) (p >>= f) g :=
  Discipline.Follows.bind middle (h.mono fun outcome g' holds => by
    cases outcome with
    | ok a => exact holds
    | error e => exact holds) rest

include governs

/-- A call about other tickets, before the rest of a block. -/
theorem Leaves.apart {cmd : Cmd} {f : cmd.Resp → Async β} {returns : β → Milestone → Prop}
    (apart : Apart id cmd) (other : ∀ a, ¬ Books id cmd a) (born : g ≠ .born)
    (fault : g.failed.Open) (exposed : g.Exposed id cmd)
    (rest : ∀ a, D.Follows exec t (Leaves returns) (f a) g) :
    D.Follows exec t (Leaves returns) (do let a ← (Program.call cmd : Async cmd.Resp); f a) g :=
  Leaves.bind (fun _ g' => g' = g)
    (follows_apart governs apart other born exposed (fun _ => rfl) fun _ => fault)
    fun a _ same => by subst same; exact rest a

/-- A call that moves the milestone, before the rest of a block. -/
theorem Leaves.step {cmd : Cmd} {f : cmd.Resp → Async β} {returns : β → Milestone → Prop}
    (fault : g.failed.Open) (exposed : g.Exposed id cmd) (goes : cmd.Resp → Milestone)
    (step : ∀ a, Cmd.Answers cmd (.ok a) → Step d id g cmd (.ok a) (goes a))
    (rest : ∀ a, Cmd.Answers cmd (.ok a) → D.Follows exec t (Leaves returns) (f a) (goes a)) :
    D.Follows exec t (Leaves returns)
      (do let a ← (Program.call cmd : Async cmd.Resp); f a) g := by
  refine Leaves.bind (fun a g' => Cmd.Answers cmd (.ok a) ∧ g' = goes a) ?_ fun a g' reached => ?_
  · refine governs.call fun answer answers => ?_
    cases answer with
    | ok a => exact ⟨goes a, step a answers, answers, rfl⟩
    | error e => exact ⟨g.failed, .fail exposed, fault⟩
  · obtain ⟨answers, rfl⟩ := reached
    exact rest a answers

/-- The last call of a block. -/
theorem Leaves.last {cmd : Cmd} {returns : cmd.Resp → Milestone → Prop} (fault : g.failed.Open)
    (exposed : g.Exposed id cmd) (goes : cmd.Resp → Milestone)
    (step : ∀ a, Step d id g cmd (.ok a) (goes a)) (reached : ∀ a, returns a (goes a)) :
    D.Follows exec t (Leaves returns) (Program.call cmd : Async cmd.Resp) g := by
  refine governs.call fun answer answers => ?_
  cases answer with
  | ok a => exact ⟨goes a, step a, reached a⟩
  | error e => exact ⟨g.failed, .fail exposed, fault⟩

/-- A block about other tickets. -/
theorem Leaves.aside {p : Async α} (only : p.Only (Aside id)) :
    D.Follows exec t (Leaves fun _ g' => g' = .away) p .away := by
  refine (follows_aside governs only).mono fun outcome g' away => ?_
  cases outcome with
  | ok a => exact away
  | error e =>
      subst away
      trivial

omit governs in
/-- An exception handler after a block, which raises again. -/
theorem Leaves.tryCatch {p : Async α} {handler : Exn → Async α}
    {returns : α → Milestone → Prop} (h : D.Follows exec t (Leaves returns) p g)
    (rest : ∀ e g', g'.Open →
      D.Follows exec t (Leaves fun _ _ => False) (handler e) g') :
    D.Follows exec t (Leaves returns) (tryCatch p handler) g := by
  refine Discipline.Follows.tryCatch (fun _ g' => g'.Open) (h.mono fun outcome g' holds => ?_)
    fun e g' held => (rest e g' held).mono fun outcome g'' holds => ?_
  · cases outcome with
    | ok a => exact holds
    | error e => exact holds
  · cases outcome with
    | ok a => exact holds.elim
    | error e => exact holds

/-- The `except SQLAlchemyError` block of a service. -/
theorem follows_handler {e : Exn} (opened : g.Open) :
    D.Follows exec t (Leaves fun _ _ => False) (rollbackOnSQLAlchemyError e : Async α) g :=
  follows_rollbackOnSQLAlchemyError
    (follows_rollback governs opened trivial fun _ => opened.failed) opened

end Blocks

/-! ## Calls for other tickets -/

theorem field_ne {ticketId : Int} (other : ticketId ≠ id) : toString ticketId ≠ toString id :=
  fun same => other (DecimalText.toString_injective same)

theorem only_deleteOther {ownerId ticketId : Int} (other : ticketId ≠ id) :
    (TicketService.delete d ownerId ticketId).Only (Aside id) := by
  refine only_then not_false fun ticket => ?_
  cases ticket with
  | none => trivial
  | some ticket =>
      refine Program.Only.tryCatch ?_ (only_rollbackOnSQLAlchemyError not_false)
      exact only_then not_false fun _ => only_then other.symm fun _ => only_then not_false fun _ =>
        only_then trivial fun _ => Program.Only.call (field_ne other)

theorem only_payForOther {ticketId ownerId : Int} (other : ticketId ≠ id) :
    (PaymentService.payForTicket d ticketId ownerId).Only (Aside id) := by
  refine only_then other.symm fun ticket => ?_
  cases ticket with
  | none => trivial
  | some ticket =>
      dsimp only
      split
      · trivial
      · trivial
      · refine Program.Only.bind (Program.Only.tryCatch ?_
          (only_rollbackOnSQLAlchemyError not_false)) fun _ => trivial
        exact only_then other.symm fun _ => only_then not_false
            fun _ => only_then not_false fun _ =>
          only_then (field_ne other) fun _ => trivial

theorem only_releaseOther {ticketId : Int} (other : ticketId ≠ id) :
    (Worker.releaseUnpaidTicket d ticketId).Only (Aside id) := by
  refine only_withSession not_false (Program.Only.tryCatch ?_ (only_rollback not_false))
  refine only_then other.symm fun ticket => ?_
  cases ticket with
  | none => trivial
  | some ticket =>
      dsimp only
      split
      · trivial
      · exact only_then not_false fun _ => only_then (field_ne other) fun _ =>
          only_then other.symm fun _ => Program.Only.call not_false

/-! ## Bookings -/

section Services

variable (governs : (protocol d id).Governs D exec)

include governs

theorem follows_book {userId ticketTypeId : Int} :
    D.Follows exec t (Leaves fun _ g' => g' = .away) (TicketService.book d userId ticketTypeId)
      .away := by
  refine Leaves.apart governs ⟨not_false, not_false⟩
    (fun _ => not_false) away_ne_born trivial trivial
    fun _ => ?_
  refine Leaves.bind (fun new g' => (new = id ∧ g' = .born) ∨ (new ≠ id ∧ g' = .away)) ?_
    fun new g₁ inserted => ?_
  · refine governs.call fun answer answers => ?_
    cases answer with
    | error e => exact ⟨_, .fail trivial, trivial⟩
    | ok new =>
        by_cases same : new = id
        · subst same
          exact ⟨.born, .insert, .inl ⟨rfl, rfl⟩⟩
        · exact ⟨.away, .apart ⟨not_false, not_false⟩ same away_ne_born,
            .inr ⟨same, rfl⟩⟩
  rcases inserted with ⟨rfl, rfl⟩ | ⟨other, rfl⟩
  · refine Leaves.bind (fun clock g' => g' = .stamped clock) ?_ fun clock g₂ same => ?_
    · refine governs.call fun answer answers => ?_
      cases answer with
      | error e => exact answers.elim
      | ok clock => exact ⟨_, .stamp, rfl⟩
    subst same
    refine Leaves.step governs trivial trivial (fun _ => .entered clock)
      (fun _ _ => .enter) fun _ _ => ?_
    refine Leaves.step governs trivial trivial (fun _ => .away) (fun _ _ => .book) fun _ _ => ?_
    exact Leaves.aside governs (only_then not_false fun _ => only_then trivial fun _ => trivial)
  · refine Leaves.aside governs (only_then trivial fun clock => only_then ?_ fun _ =>
      only_then not_false fun _ => only_then not_false fun _ => only_then trivial fun _ => trivial)
    exact ⟨fun same => other (DecimalText.toString_injective same), new, rfl⟩

theorem follows_compensate {ticketTypeId : Int} {e : Exn} {α : Type} (opened : g.Open) :
    D.Follows exec t (Leaves fun _ _ => False)
      (TicketService.compensate d ticketTypeId e : Async α) g := by
  unfold TicketService.compensate
  split
  · refine Leaves.bind (fun _ g' => g' = .away)
      (follows_rollback governs opened rfl fun _ => opened.failed) fun _ g' same => ?_
    subst same
    refine Leaves.apart governs trivial (fun _ => not_false) away_ne_born trivial trivial
      fun _ => ?_
    split
    · trivial
    · trivial
  · exact opened

theorem follows_create {userId : Int} {ticketData : TicketCreate} :
    D.Follows exec t (Leaves fun _ g' => g' = .away) (TicketService.create d userId ticketData)
      .away := by
  refine Leaves.apart governs trivial (fun _ => not_false) away_ne_born trivial trivial
    fun first => ?_
  refine Leaves.bind (fun _ g' => g' = .away) (Leaves.aside governs ?_) fun result g₁ same => ?_
  · unfold TicketService.fallback
    split
    · refine only_then not_false fun ticketType => ?_
      cases ticketType with
      | none => trivial
      | some row => exact only_then trivial fun _ => Program.Only.call trivial
    · trivial
  subst same
  split
  · trivial
  · exact Leaves.bind (fun _ g' => g' = .away)
      (Leaves.tryCatch (follows_book governs) fun e g' opened => follows_compensate governs opened)
      fun _ _ same => same

/-! ## Deletions and payments -/

theorem follows_remove {ticket : Ticket} :
    D.Follows exec t (Leaves fun _ g' => g' = .away) (TicketService.remove d id ticket) .seen := by
  refine Leaves.apart governs ⟨not_false, not_false⟩ (fun _ => not_false)
    (fun same => by cases same)
    trivial trivial fun _ => ?_
  refine Leaves.step governs trivial trivial (fun _ => .removed) (fun _ _ => .remove) fun _ _ => ?_
  refine Leaves.step governs trivial trivial (fun _ => .gone) (fun _ _ => .vanish) fun _ _ => ?_
  refine Leaves.apart governs trivial (fun _ => not_false) (fun same => by cases same)
    trivial trivial fun _ => ?_
  exact Leaves.last governs trivial trivial (fun _ => .away) (fun _ => .clear) fun _ => rfl

theorem follows_delete {ownerId ticketId : Int} :
    D.Follows exec t (Leaves fun _ g' => g' = .away) (TicketService.delete d ownerId ticketId)
      .away := by
  by_cases same : ticketId = id
  · subst same
    refine Leaves.bind (fun ticket g' => g' = ticket.elim .away fun _ => .seen) ?_
      fun ticket g₁ found => ?_
    · refine governs.call fun answer answers => ?_
      cases answer with
      | error e => exact ⟨_, .fail trivial, trivial⟩
      | ok ticket =>
          cases ticket with
          | none => exact ⟨.away, .apart ⟨not_false, not_false⟩ not_false away_ne_born, rfl⟩
          | some row => exact ⟨.seen, .see, rfl⟩
    subst found
    cases ticket with
    | none => trivial
    | some row =>
        exact Leaves.tryCatch (follows_remove governs) fun e g' opened =>
          follows_handler governs opened
  · exact Leaves.aside governs (only_deleteOther same)

/-- `SELECT ... FOR UPDATE` of the ticket. -/
theorem follows_selectForUpdate {ownerId : Option Int} :
    D.Follows exec t (Leaves fun ticket g' => g' = ticket.elim .away Milestone.locked ∧
        ∀ row ∈ ticket, ∀ owner ∈ ownerId, row.ownerId = owner)
      (sql (.selectTicketForUpdate id ownerId)) .away := by
  refine governs.call fun answer answers => ?_
  cases answer with
  | error e => exact ⟨_, .fail trivial, trivial⟩
  | ok ticket =>
      cases ticket with
      | none => exact ⟨.away, .miss, rfl, nofun⟩
      | some row =>
          refine ⟨.locked row, .lock, rfl, fun row' same owner mem => ?_⟩
          cases same
          cases mem
          exact answers

theorem follows_settle {ticket : Ticket} (reserved : ticket.status = .reserved) :
    D.Follows exec t (Leaves fun _ g' => g' = .kept ticket.ownerId) (PaymentService.settle d id)
      (.locked ticket) := by
  refine Leaves.step governs trivial trivial (fun _ => .paying ticket) (fun _ _ => .pay reserved)
    fun _ _ => ?_
  refine Leaves.step governs trivial trivial (fun _ => .paid ticket.ownerId)
    (fun _ _ => .sell) fun _ _ => ?_
  refine Leaves.apart governs ⟨not_false, not_false⟩ (fun _ => not_false)
    (fun same => by cases same)
    trivial rfl fun _ => ?_
  exact Leaves.step governs trivial trivial (fun _ => .kept ticket.ownerId) (fun _ _ => .keep)
    fun _ _ => rfl

/-- A payment that returns leaves its ticket with the one who paid. -/
theorem follows_payForTicket (ownerId : Int) :
    D.Follows exec t (Leaves fun _ g' => g' = .kept ownerId)
      (PaymentService.payForTicket d id ownerId) .away := by
  refine Leaves.bind _ (follows_selectForUpdate governs) fun ticket g₁ found => ?_
  obtain ⟨rfl, owned⟩ := found
  cases ticket with
  | none => trivial
  | some row =>
      have owned : row.ownerId = ownerId := owned row rfl ownerId rfl
      dsimp only
      split
      · trivial
      · trivial
      · rename_i reserved
        rw [← owned]
        exact Leaves.bind (fun _ g' => g' = .kept row.ownerId)
          (Leaves.tryCatch (follows_settle governs reserved) fun e g' opened =>
            follows_handler governs opened) fun _ _ same => same

/-! ## The worker -/

theorem follows_releaseUnpaidTicket {ticketId : Int} :
    D.Follows exec t (fun _ g' => g' = .away) (Worker.releaseUnpaidTicket d ticketId) .away := by
  by_cases same : ticketId = id
  · subst same
    refine follows_withSession (fun _ g₁ => g₁.Open) ?_ fun _ _ opened =>
      follows_close governs opened.ended rfl
    have block : D.Follows exec t (Leaves fun _ g' => g'.Open)
        (tryCatch (Worker.releaseReserved d ticketId) fun e => do sql .rollback; throw e)
        .away := by
      refine Leaves.tryCatch ?_ fun e g' opened => follows_rollbackThrow
        (follows_rollback governs opened trivial fun _ => opened.failed)
      refine Leaves.bind _ (follows_selectForUpdate governs) fun ticket g₁ found => ?_
      obtain ⟨rfl, _⟩ := found
      cases ticket with
      | none => trivial
      | some row =>
          dsimp only
          split
          · trivial
          · rename_i reserved
            have reserved := not_not.mp reserved
            refine Leaves.apart governs ⟨not_false, not_false⟩ (fun _ => not_false)
              (fun same => by cases same) trivial trivial fun _ => ?_
            refine Leaves.step governs trivial trivial (fun _ => .refunded row)
              (fun _ _ => .refund reserved)
              fun _ _ => ?_
            refine Leaves.step governs trivial rfl (fun _ => .settled row) (fun _ _ => .settle)
              fun _ _ => ?_
            exact Leaves.last governs trivial trivial (fun _ => .away) (fun _ => .cancel)
              fun _ => trivial
    refine block.mono fun outcome g' holds => ?_
    cases outcome with
    | ok a => exact holds
    | error e => exact holds
  · exact follows_aside governs (only_releaseOther same)

/-- What the garbage collector's `UPDATE` of these rows makes of the ticket, and returns of it. -/
structure Sweeps (id : Int) (ids : List Int) (g : Milestone) (rows : List (Int × Int))
    (g' : Milestone) : Prop where
  within : (rows.map Prod.fst).Sublist ids
  swept : (g' = g ∧ id ∉ rows.map Prod.fst) ∨
    (g = .away ∧ ∃ ticketTypeId, g' = .swept ticketTypeId ∧ (id, ticketTypeId) ∈ rows)

omit governs in
theorem Sweeps.fault {ids : List Int} {rows : List (Int × Int)} (h : Sweeps id ids .away rows g)
    {cmd : Cmd} : g.failed.Open ∧ g ≠ .born ∧ g.Exposed id cmd := by
  rcases h.swept with ⟨rfl, _⟩ | ⟨_, _, rfl, _⟩
  · exact ⟨trivial, nofun, trivial⟩
  · exact ⟨trivial, nofun, trivial⟩

omit governs in
theorem Sweeps.skip {head : Int} {ids : List Int} {rows : List (Int × Int)} {g' : Milestone}
    (h : Sweeps id ids g rows g') : Sweeps id (head :: ids) g rows g' :=
  ⟨h.within.cons head, h.swept⟩

omit governs in
theorem Sweeps.other {head ticketTypeId : Int} {ids : List Int} {rows : List (Int × Int)}
    {g' : Milestone} (h : Sweeps id ids g rows g') (other : head ≠ id) :
    Sweeps id (head :: ids) g ((head, ticketTypeId) :: rows) g' where
  within := h.within.cons_cons head
  swept := h.swept.imp
    (fun ⟨same, out⟩ => ⟨same, fun mem => (List.mem_cons.mp mem).elim other.symm out⟩)
    fun ⟨away, ty, same, mem⟩ => ⟨away, ty, same, List.mem_cons_of_mem _ mem⟩

theorem follows_cancelHungTickets {threshold : Int} {ids : List Int} (distinct : ids.Nodup)
    (start : g = .away ∨ (id ∉ ids ∧ ∃ ticketTypeId, g = .swept ticketTypeId)) :
    D.Follows exec t (Leaves (Sweeps id ids g)) (Worker.cancelHungTickets threshold ids) g := by
  induction ids generalizing g with
  | nil => exact ⟨List.Sublist.refl _, .inl ⟨rfl, List.not_mem_nil⟩⟩
  | cons head rest ih =>
      obtain ⟨fresh, apart⟩ := List.nodup_cons.mp distinct
      obtain ⟨fault, exposed⟩ : g.failed.Open ∧ ∀ {cmd}, g.Exposed id cmd := by
        rcases start with rfl | ⟨_, ticketTypeId, rfl⟩
        · exact ⟨trivial, trivial⟩
        · exact ⟨trivial, trivial⟩
      by_cases same : head = id
      · subst same
        obtain rfl : g = .away := start.resolve_right fun later =>
          later.1 (List.mem_cons_self ..)
        refine Leaves.step governs fault exposed
          (fun row => row.elim .away fun row => .swept row.2) (fun row answers => ?_)
          fun row answers => ?_
        · cases row with
          | none => exact .pass
          | some row =>
              obtain ⟨id', ticketTypeId⟩ := row
              have mine : id' = head := answers
              subst mine
              exact .sweep
        · cases row with
          | none =>
              exact Leaves.bind _ (ih apart (.inl rfl)) fun rows g' sweeps => sweeps.skip
          | some row =>
              obtain ⟨id', ticketTypeId⟩ := row
              have mine : id' = head := answers
              subst mine
              refine Leaves.bind _ (ih apart (.inr ⟨fresh, ticketTypeId, rfl⟩))
                fun rows g' sweeps => ?_
              obtain ⟨rfl, _⟩ := sweeps.swept.resolve_right fun away => by cases away.1
              exact ⟨sweeps.within.cons_cons id',
                .inr ⟨rfl, ticketTypeId, rfl, List.mem_cons_self ..⟩⟩
      · have start' : g = .away ∨ (id ∉ rest ∧ ∃ ticketTypeId, g = .swept ticketTypeId) :=
          start.imp_right fun ⟨out, swept⟩ =>
            ⟨fun mem => out (List.mem_cons_of_mem _ mem), swept⟩
        have born : g ≠ .born := by
          rcases start with rfl | ⟨_, ticketTypeId, rfl⟩
          · nofun
          · nofun
        refine Leaves.step governs fault exposed (fun _ => g)
          (fun _ _ => .apart ⟨not_false, fun mine => same mine.symm⟩ not_false born)
          fun row answers => ?_
        refine Leaves.bind _ (ih apart start') fun rows g' sweeps => ?_
        cases row with
        | none => exact sweeps.skip
        | some row =>
            obtain ⟨id', ticketTypeId⟩ := row
            have mine : id' = head := answers
            subst mine
            exact sweeps.other same

/-- The tickets that are still to be refunded, and how far the collector has come with one of
them. -/
structure Refunding (id : Int) (rows : List (Int × Int)) (g : Milestone) : Prop where
  distinct : (rows.map Prod.fst).Nodup
  milestone :
      (id ∉ rows.map Prod.fst ∧
      (g = .away ∨ ∃ ticketTypeId, g = .credited ticketTypeId)) ∨
    ∃ ticketTypeId, g = .swept ticketTypeId ∧ (id, ticketTypeId) ∈ rows

omit governs in
theorem Refunding.of_sweeps {ids : List Int} {rows : List (Int × Int)} (distinct : ids.Nodup)
    (h : Sweeps id ids .away rows g) : Refunding id rows g where
  distinct := distinct.sublist h.within
  milestone := by
    rcases h.swept with ⟨same, out⟩ | ⟨_, swept⟩
    · exact .inl ⟨out, .inl same⟩
    · exact .inr swept

omit governs in
theorem Refunding.fault {rows : List (Int × Int)} (h : Refunding id rows g) :
    g.failed.Open ∧ g ≠ .born ∧ ∀ n command, g.Exposed id (.redis n command) := by
  rcases h.milestone with ⟨_, rfl | ⟨_, rfl⟩⟩ | ⟨_, rfl, _⟩
  · exact ⟨trivial, nofun, fun _ _ => trivial⟩
  · exact ⟨trivial, nofun, fun _ _ => trivial⟩
  · exact ⟨trivial, nofun, fun _ _ => trivial⟩

/-- The loop of the refund scripts. -/
theorem follows_refunds {rows : List (Int × Int)} (start : Refunding id rows g) :
    D.Follows exec t (Leaves fun _ g' => g' = .away ∨
      ∃ ticketTypeId, g' = .credited ticketTypeId)
      (rows.forM fun (ticketId, ticketTypeId) =>
        RedisKeys.refundInventoryIdempotent d.workerRedis ticketTypeId ticketId) g := by
  refine Discipline.Follows.forM (Refunding id) (fun row rest g₁ holds => ?_)
    (fun g₁ holds => ?_) start
  · obtain ⟨ticketId, ticketTypeId⟩ := row
    obtain ⟨fault, born, exposed⟩ := holds.fault
    obtain ⟨fresh, distinct⟩ := List.nodup_cons.mp holds.distinct
    by_cases same : ticketId = id
    · subst same
      obtain ⟨ty, rfl, mem⟩ :=
        holds.milestone.resolve_left fun out => out.1 (List.mem_cons_self ..)
      have mine : ty = ticketTypeId := by
        rcases List.mem_cons.mp mem with same | mem
        · cases same
          rfl
        · exact (fresh (List.mem_map.mpr ⟨_, mem, rfl⟩)).elim
      subst mine
      refine governs.call fun answer _ => ?_
      cases answer with
      | ok a => exact ⟨_, .credit, distinct, .inl ⟨fresh, .inr ⟨ty, rfl⟩⟩⟩
      | error e => exact ⟨_, .fail trivial, fault⟩
    · refine follows_apart governs (field_ne same) (fun _ => not_false) born (exposed _ _)
        (fun _ => ?_) fun _ => fault
      refine ⟨distinct, holds.milestone.imp
        (fun ⟨out, milestone⟩ => ⟨fun mem => out (List.mem_cons_of_mem _ mem), milestone⟩)
        fun ⟨ty, swept, mem⟩ => ⟨ty, swept, ?_⟩⟩
      rcases List.mem_cons.mp mem with head | mem
      · cases head
        exact (same rfl).elim
      · exact mem
  · rcases holds.milestone with ⟨_, milestone⟩ | ⟨_, _, mem⟩
    · exact milestone
    · exact (List.not_mem_nil mem).elim

theorem follows_reconcile {threshold : Int} :
    D.Follows exec t (Leaves fun _ g' => g' = .away) (Worker.reconcile d threshold) .away := by
  refine Leaves.step governs trivial trivial (fun _ => .away)
    (fun _ _ => .apart ⟨not_false, not_false⟩ not_false away_ne_born) fun ids distinct => ?_
  refine Leaves.bind _ (follows_cancelHungTickets governs distinct (.inl rfl))
    fun rows g₁ sweeps => ?_
  have refunding := Refunding.of_sweeps distinct sweeps
  split
  · rename_i none
    subst none
    rcases refunding.milestone with ⟨_, away | ⟨_, credited⟩⟩ | ⟨_, _, mem⟩
    · exact away
    · rcases sweeps.swept with ⟨same, _⟩ | ⟨_, _, _, mem⟩
      · rw [same] at credited
        cases credited
      · exact (List.not_mem_nil mem).elim
    · exact (List.not_mem_nil mem).elim
  · refine Leaves.bind (fun _ g' => g' = g₁) ?_ fun _ g₂ same => ?_
    · refine Discipline.Follows.forM (fun _ g' => g' = g₁) (fun row rest g₂ same => ?_)
        (fun _ same => same) rfl
      subst same
      obtain ⟨fault, born, exposed⟩ := sweeps.fault
      exact follows_apart governs ⟨not_false, not_false⟩ (fun _ => not_false) born exposed
        (fun _ => rfl) fun _ => fault
    · subst same
      refine Leaves.bind _ (follows_refunds governs refunding) fun _ g₃ ended => ?_
      rcases ended with rfl | ⟨ticketTypeId, rfl⟩
      · exact Leaves.last governs trivial trivial (fun _ => .away) (fun _ => .rest) fun _ => rfl
      · exact Leaves.last governs trivial trivial (fun _ => .away) (fun _ => .reap) fun _ => rfl

theorem follows_reconcileHungTickets :
    D.Follows exec t (fun _ g' => g' = .away) (Worker.reconcileHungTickets d) .away := by
  refine Discipline.Follows.bind (fun _ g' => g' = .away) ?_ fun clock g₁ same => ?_
  · refine follows_apart governs trivial (fun _ => not_false) away_ne_born trivial
      (fun _ => rfl) fun _ => rfl
  · subst same
    refine follows_withSession (fun _ g₁ => g₁.Open) ((follows_reconcile governs).mono
      fun outcome g' holds => ?_) fun _ _ opened => follows_close governs opened.ended rfl
    cases outcome with
    | ok a =>
        have away : g' = .away := holds
        subst away
        trivial
    | error e => exact holds

/-! ## The garbage collector of Redis -/

/-- The milestones of a collector. -/
def Collects : Milestone → Prop
  | .away | .listed _ | .due | .doomed => True
  | _ => False

omit governs in
theorem Collects.facts (h : Collects g) :
    Collects g.failed ∧ g ≠ .born ∧ g.ended = some g ∧ g.AtRest := by
  cases g with
  | away | listed _ | due | doomed => exact ⟨trivial, nofun, rfl, trivial⟩
  | _ => exact h.elim

omit governs in
theorem Collects.exposed (h : Collects g) {cmd : Cmd} : g.Exposed id cmd := by
  cases g with
  | away | listed _ | due | doomed => trivial
  | _ => exact h.elim

/-- What a collector knows of the ticket when it looks at these locks: a lock of the ticket has
brought it to this milestone. -/
def Accuses (id : Int) (locks : List Reservation) (milestone : Milestone) (g : Milestone) : Prop :=
  Collects g ∧ ((∃ lock ∈ locks, lock.ticketId = id) → g = milestone)

theorem follows_refundOrphans {locks : List Reservation} (start : Accuses id locks .due g) :
    D.Follows exec t (fun _ g' => Collects g') (Worker.refundOrphans d locks) g := by
  refine Discipline.Follows.bind (fun dbTickets g' =>
    Accuses id (locks.filter fun lock => Worker.Orphaned dbTickets lock) .doomed g') ?_
    fun dbTickets g₁ accuses => ?_
  · refine follows_withSession (fun outcome g' => match outcome with
      | .ok dbTickets =>
          Accuses id (locks.filter fun lock => Worker.Orphaned dbTickets lock) .doomed g'
      | .error _ => Collects g') ?_ fun outcome g₁ holds => ?_
    · refine governs.call fun answer answers => ?_
      cases answer with
      | error e =>
          exact ⟨_, .fail start.1.exposed, start.1.facts.1⟩
      | ok dbTickets =>
          by_cases orphan : ∃ lock ∈ locks.filter fun lock => Worker.Orphaned dbTickets lock,
              lock.ticketId = id
          · obtain ⟨lock, mem, same⟩ := orphan
            obtain ⟨mem, orphaned⟩ := List.mem_filter.mp mem
            have due := start.2 ⟨lock, mem, same⟩
            subst due same
            exact ⟨.doomed, .judge (List.mem_map.mpr ⟨lock, mem, rfl⟩)
              (of_decide_eq_true orphaned),
              trivial, fun _ => rfl⟩
          · exact ⟨g, .apart ⟨not_false, not_false⟩ not_false start.1.facts.2.1, start.1,
              fun found => (orphan found).elim⟩
    · cases outcome with
      | ok dbTickets => exact follows_close governs holds.1.facts.2.2.1 holds
      | error e => exact follows_close governs holds.facts.2.2.1 holds
  · refine Discipline.Follows.mono
      (Discipline.Follows.forM (fun rest g' => Accuses id rest .doomed g')
      (fun lock rest g₂ holds => ?_) (fun _ holds => holds.1) accuses)
      fun _ g' (h : Collects g') => h
    obtain ⟨fault, born, _⟩ := holds.1.facts
    have later : Accuses id rest .doomed g₂ :=
      ⟨holds.1, fun ⟨lock', mem, same⟩ =>
        holds.2 ⟨lock', List.mem_cons_of_mem _ mem, same⟩⟩
    by_cases same : lock.ticketId = id
    · have doomed := holds.2 ⟨lock, List.mem_cons_self .., same⟩
      subst doomed same
      refine governs.call fun answer _ => ?_
      cases answer with
      | ok a => exact ⟨_, .collect, later⟩
      | error e => exact ⟨_, .fail trivial, fault⟩
    · exact follows_apart governs (field_ne same) (fun _ => not_false) born holds.1.exposed
        (fun _ => later) fun _ => fault

theorem follows_reconcileRedisOrphans :
    D.Follows exec t (fun _ g' => Collects g') (Worker.reconcileRedisOrphans d) .away := by
  refine Discipline.Follows.bind (fun locks g' => ∃ rawData : List (String × String),
    rawData.mapM readReservation = some locks ∧ g' = .listed rawData) ?_
    fun locks g₁ listed => ?_
  · refine Discipline.Follows.bind (fun rawData g' => g' = .listed rawData) ?_
      fun rawData g₁ same => ?_
    · refine governs.call fun answer _ => ?_
      cases answer with
      | ok rawData => exact ⟨_, .list, rfl⟩
      | error e => exact ⟨_, .fail trivial, trivial⟩
    · subst same
      split
      · trivial
      · rename_i locks read
        exact ⟨rawData, read, rfl⟩
  obtain ⟨rawData, read, rfl⟩ := listed
  split
  · trivial
  refine Discipline.Follows.bind (fun clock g' =>
    Accuses id (locks.filter fun lock => Worker.Suspicious (seconds clock) lock) .due g') ?_
    fun clock g₁ accuses => ?_
  · refine governs.call fun answer answers => ?_
    cases answer with
    | error e => exact answers.elim
    | ok clock =>
        by_cases old : ∃ lock ∈ locks.filter fun lock => Worker.Suspicious (seconds clock) lock,
            lock.ticketId = id
        · obtain ⟨lock, mem, same⟩ := old
          obtain ⟨mem, suspicious⟩ := List.mem_filter.mp mem
          obtain ⟨entry, stored, reads⟩ := (mem_mapM_readReservation read).mp mem
          exact ⟨.due, .suspect
            ⟨entry, stored, lock, reads, same, of_decide_eq_true suspicious⟩,
            trivial, fun _ => rfl⟩
        · exact ⟨_, .apart trivial not_false (fun same => by cases same), trivial,
            fun found => (old found).elim⟩
  · dsimp only
    split
    · exact accuses.1
    · exact follows_refundOrphans governs accuses

end Services

/-! ## Every activity -/

/-- How an activity ends: at rest, and a payment that returns with its ticket kept. -/
def Ends (id : Int) (activity : Activity) (outcome : Except Exn Unit) (g : Milestone) : Prop :=
  g.AtRest ∧ ∀ ownerId, activity = .operation (.payForTicket id ownerId) →
    outcome = .ok () →
    g = .kept ownerId

/-- An activity that leaves the ticket alone in the end. -/
theorem Ends.away {activity : Activity} {outcome : Except Exn Unit} (rest : g.AtRest)
    (other : ∀ ownerId, activity ≠ .operation (.payForTicket id ownerId)) :
    Ends id activity outcome g :=
  ⟨rest, fun ownerId same => (other ownerId same).elim⟩

/-- The whole call of an operation, from its service. -/
theorem follows_request {α : Type} {request : Async α} {g' : Milestone}
    (governs : (protocol d id).Governs D exec) (ends : g'.ended = some g')
    (h : D.Follows exec t (Leaves fun _ g₁ => g₁ = g') request g) :
    D.Follows exec t (Closes g') (getDb request) g := by
  refine follows_getDb _ (Leaves fun _ g₁ => g₁ = g') h (fun _ _ same => same)
    (fun _ _ opened => follows_rollback governs opened trivial fun _ => opened.failed)
    fun outcome g₁ holds => ?_
  cases outcome with
  | ok a =>
      obtain rfl : g₁ = g' := holds
      exact follows_close governs ends rfl
  | error e => exact follows_close governs (Milestone.Open.ended holds) rfl

/-- **Every activity keeps to the protocol.** -/
theorem follows_activity (governs : (protocol d id).Governs D exec) (activity : Activity) :
    D.Follows exec t (Ends id activity) (activity.program d) .away := by
  by_cases tickets : ∃ op, activity = .operation op ∧ ¬ OnTypes op
  · obtain ⟨op, rfl, tickets⟩ := tickets
    have away : (∀ ownerId, op ≠ .payForTicket id ownerId) →
        ∀ outcome g', g' = .away → Ends id (.operation op) outcome g' := by
      rintro other outcome _ rfl
      exact .away trivial fun ownerId same => other ownerId (Activity.operation.inj same)
    cases op with
    | createType eventId typeData | updateType ticketTypeId updateData | deleteType ticketTypeId =>
        exact (tickets trivial).elim
    | create userId ticketData =>
        exact follows_unit ((follows_request governs rfl (follows_create governs)).mono
          fun outcome g' closes => away nofun _ g' closes.away)
    | delete ownerId ticketId =>
        exact (follows_request governs rfl (follows_delete governs)).mono
          fun outcome g' closes => away nofun outcome g' closes.away
    | payForTicket ticketId ownerId =>
        by_cases same : ticketId = id
        · subst same
          refine follows_unit ((follows_request governs rfl
            (follows_payForTicket governs ownerId)).mono fun outcome g' holds => ?_)
          cases outcome with
          | ok _ =>
              have kept : g' = .kept ownerId := holds
              subst kept
              refine ⟨trivial, fun ownerId' same _ => ?_⟩
              cases same
              rfl
          | error _ =>
              have away : g' = .away := holds
              subst away
              exact ⟨trivial, fun _ _ failed => by cases failed⟩
        · refine follows_unit ((follows_request governs rfl
            (Leaves.aside governs (only_payForOther same))).mono
              fun outcome g' closes => away ?_ _ g' closes.away)
          rintro ownerId' ⟨⟩
          exact same rfl
    | releaseUnpaidTicket ticketId =>
        exact (follows_releaseUnpaidTicket governs).mono (away nofun)
    | reconcileHungTickets =>
        exact (follows_reconcileHungTickets governs).mono (away nofun)
    | reconcileRedisOrphans =>
        exact (follows_reconcileRedisOrphans governs).mono fun _ _ collects =>
          .away collects.facts.2.2.2 nofun
  · have onTypes : ∀ op, activity = .operation op → OnTypes op := fun op same =>
      not_not.mp fun other => tickets ⟨op, same, other⟩
    refine (follows_aside governs ((only_catalog onTypes).mono fun _ => OfCatalog.aside)).mono
      fun outcome g' same => ?_
    subst same
    refine .away trivial fun ownerId same => ?_
    exact onTypes _ same

end TicketCore.Custody
