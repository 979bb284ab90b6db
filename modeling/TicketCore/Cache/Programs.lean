import TicketCore.Cache.Errand
import TicketCore.Sessions

/-!
# The calls run their errands

Every reader and every writer of events and ticket types starts `resting` and keeps to the protocol
of the caches, in any discipline that the protocol governs. `follows_activity` says so, and that it
ends `resting`, or `lost` if a call has failed that had to follow a commit.
-/

namespace TicketCore.Cache

open Interleave

variable {ι : Type} [DecidableEq ι] {d : Deployment} {About Named : Int → Prop}
  {D : Discipline ι (World ι) Cmd Cmd.Resp Exn Choice Errand} {t : ι} {g : Errand}

/-- What a block leaves behind: an errand that fits its result, or a transaction to roll back. -/
def Leaves {α : Type} (returns : α → Errand → Prop) : Except Exn α → Errand → Prop
  | .ok a, g => g = .lost ∨ returns a g
  | .error _, g => g = .lost ∨ g.Open

/-- What a read of an event leaves in hand. -/
def Reads (eventId : Int) : Option (Event × List (Int × TicketType)) → Errand → Prop
  | none, g => g = .resting
  | some (event, ticketTypes), g => g = .loaded eventId (event.detailResponse eventId ticketTypes)

theorem Reads.opened {eventId : Int} {found : Option (Event × List (Int × TicketType))}
    (h : Reads eventId found g) :
    g.Open := by
  cases found with
  | none =>
      subst h
      trivial
  | some loaded =>
      subst h
      trivial

/-- The errand is done. -/
def Settled (g : Errand) : Prop := g = .lost ∨ g = .resting

section Blocks

variable {α β : Type} {returns : α → Errand → Prop}
  (governs : (protocol d About Named).Governs D exec)

include governs

theorem follows_lost {p : Async α} : D.Follows exec t (Leaves returns) p .lost := by
  have only : p.Only fun _ => True := by
    induction p with
    | done outcome => trivial
    | await cmd next ih => exact ⟨trivial, ih⟩
  refine (governs.only (· = .lost) (fun g cmd answer lost _ _ => ?_) only rfl).mono
    fun outcome g' lost => ?_
  · exact ⟨.lost, by rw [lost]; exact .lost, rfl⟩
  · cases outcome with
    | ok a => exact .inl lost
    | error e => exact .inl lost

omit governs in
theorem Leaves.mono {returns' : α → Errand → Prop} {p : Async α}
    (h : D.Follows exec t (Leaves returns) p g) (le : ∀ a g', returns a g' → returns' a g') :
    D.Follows exec t (Leaves returns') p g := by
  refine Discipline.Follows.mono h fun outcome g' holds => ?_
  cases outcome with
  | ok a => exact holds.imp_right (le a g')
  | error e => exact holds

/-- One block after another. -/
theorem Leaves.bind {p : Async α} {f : α → Async β} {returns' : β → Errand → Prop}
    (returns : α → Errand → Prop) (h : D.Follows exec t (Leaves returns) p g)
    (rest : ∀ a g', returns a g' → D.Follows exec t (Leaves returns') (f a) g') :
    D.Follows exec t (Leaves returns') (p >>= f) g := by
  refine Discipline.Follows.bind (fun a g' => g' = .lost ∨ returns a g')
    (h.mono fun outcome g' holds => ?_) fun a g' holds => ?_
  · cases outcome with
    | ok a => exact holds
    | error e => exact holds
  · rcases holds with rfl | holds
    · exact follows_lost governs
    · exact rest a g' holds

/-- A block and a handler of its exceptions, which raises again. -/
theorem Leaves.tryCatch {p : Async α} {handler : Exn → Async α}
    (h : D.Follows exec t (Leaves returns) p g)
    (rest : ∀ e g', g'.Open → D.Follows exec t (Leaves fun _ _ => False) (handler e) g') :
    D.Follows exec t (Leaves returns) (tryCatch p handler) g := by
  refine Discipline.Follows.tryCatch (fun _ g' => g' = .lost ∨ g'.Open)
    (h.mono fun outcome g' holds => ?_) fun e g' holds => ?_
  · cases outcome with
    | ok a => exact holds
    | error e => exact holds
  · rcases holds with rfl | opened
    · exact follows_lost governs
    · refine (rest e g' opened).mono fun outcome g'' holds => ?_
      cases outcome with
      | ok a => exact holds.imp_right False.elim
      | error e => exact holds

/-- One call, whether it raises or not. -/
theorem Leaves.call {cmd : Cmd} {returns : cmd.Resp → Errand → Prop}
    (raised : ∀ e, ∃ g', Step d About Named g cmd (.error e) g' ∧ (g' = .lost ∨ g'.Open))
    (ok : ∀ a, Finds About Named cmd (.ok a) → ∃ g', Step d About Named g cmd (.ok a) g' ∧
      (g' = .lost ∨ returns a g')) :
    D.Follows exec t (Leaves returns) (Program.call cmd) g := by
  refine governs.call fun answer answers => ?_
  cases answer with
  | ok a => exact ok a answers.2
  | error e => exact raised e

/-- A call of an open transaction, and the rest of its block. -/
theorem Leaves.opened {cmd : Cmd} {f : cmd.Resp → Async β} {returns : β → Errand → Prop}
    (opened : g.Open) (goes : cmd.Resp → Errand)
    (step : ∀ a, Finds About Named cmd (.ok a) → Step d About Named g cmd (.ok a) (goes a))
    (rest : ∀ a, Finds About Named cmd (.ok a) →
      D.Follows exec t (Leaves returns) (f a) (goes a)) :
    D.Follows exec t (Leaves returns)
      (do let a ← (Program.call cmd : Async cmd.Resp); f a) g := by
  refine Leaves.bind governs (fun a g' => g' = goes a ∧ Finds About Named cmd (.ok a))
    (Leaves.call governs (fun e => ⟨_, .refused opened, .inr opened.relaxed⟩)
      fun a finds => ⟨_, step a finds, .inr ⟨rfl, finds⟩⟩) fun a g' holds => ?_
  obtain ⟨rfl, finds⟩ := holds
  exact rest a finds

/-- A Redis command that has to follow a commit, and the rest of its block. -/
theorem Leaves.owed {n : Nat} {command : RedisCmd} {f : command.Resp → Async β}
    {returns : β → Errand → Prop} (goes : Errand)
    (step : ∀ a, Step d About Named g (.redis n command) (.ok a) goes)
    (rest : ∀ a, D.Follows exec t (Leaves returns) (f a) goes) :
    D.Follows exec t (Leaves returns) (do let a ← redis n command; f a) g := by
  refine Leaves.bind governs (fun _ g' => g' = goes)
    (Leaves.call governs (fun e => ⟨_, .fault, .inl rfl⟩) fun a _ => ⟨_, step a, .inr rfl⟩)
    fun a g' same => ?_
  subst same
  exact rest a

/-- A read in an open transaction. -/
theorem Leaves.aside {cmd : Cmd} (opened : g.Open) (apart : Apart cmd) :
    D.Follows exec t (Leaves fun _ g' => g'.Open) (Program.call cmd : Async cmd.Resp) g :=
  Leaves.call governs (fun _ => ⟨_, .refused opened, .inr opened.relaxed⟩)
    fun _ _ => ⟨_, .apart opened apart, .inr opened.relaxed⟩

/-- A statement that may lock anything. -/
theorem Leaves.work {statement : DbCmd} (opened : g.Open) (works : Works statement) :
    D.Follows exec t (Leaves fun _ g' => g' = .working) (sql statement) g :=
  Leaves.call governs (fun _ => ⟨_, .refused opened, .inr opened.relaxed⟩)
    fun _ _ => ⟨_, .work opened works, .inr rfl⟩

/-! ## Sessions -/

theorem follows_rollback {e : Exn} (ends : g = .lost ∨ g.Open) :
    D.Follows exec t (fun answer g' => Leaves returns (answer.bind fun _ => .error e) g')
      (sql .rollback) g := by
  refine governs.call fun answer _ => ?_
  rcases ends with rfl | opened
  · cases answer with
    | ok _ => exact ⟨.lost, .lost, .inl rfl⟩
    | error _ => exact ⟨.lost, .lost, .inl rfl⟩
  · cases answer with
    | ok _ => exact ⟨.resting, .rolled opened, .inr trivial⟩
    | error _ => exact ⟨_, .refused opened, .inr opened.relaxed⟩

/-- The `except SQLAlchemyError` block of a service. -/
theorem follows_handler {e : Exn} (opened : g.Open) :
    D.Follows exec t (Leaves fun _ _ => False) (rollbackOnSQLAlchemyError e : Async α) g :=
  follows_rollbackOnSQLAlchemyError (follows_rollback governs (.inr opened)) (.inr opened)

/-- The session of a request. -/
theorem follows_session {request : Async α}
    (h : D.Follows exec t (Leaves fun _ g' => g'.Open) request g) :
    D.Follows exec t (fun _ => Settled) (getDb request) g := by
  refine follows_getDb _ (Leaves fun _ g' => g'.Open) h (fun _ _ holds => holds)
    (fun _ _ ends => follows_rollback governs ends) fun outcome g₁ holds => ?_
  have holds : g₁ = .lost ∨ g₁.Open := by
    cases outcome with
    | ok a => exact holds
    | error e => exact holds
  refine governs.call fun answer answers => ?_
  cases answer with
  | error e => exact answers.1.elim
  | ok a =>
      rcases holds with rfl | opened
      · exact ⟨.lost, .lost, .inl rfl⟩
      · exact ⟨.resting, .closed opened, .inr rfl⟩

end Blocks

/-! ## Invalidation -/

section Services

variable (governs : (protocol d About Named).Governs D exec) {eventId : Int}

include governs

/-- The end of every write: the entry of the event and the version of the lists. -/
theorem follows_invalidateEvent (about : About eventId) :
    D.Follows exec t (Leaves fun _ g' => g' = .resting)
      (CachedEventRepository.invalidateEvent d eventId) .dirty :=
  Leaves.owed governs .bumping (fun _ => .drop about) fun _ =>
    Leaves.call governs (fun _ => ⟨_, .fault, .inl rfl⟩) fun _ _ => ⟨_, .bump, .inr rfl⟩

theorem follows_invalidate (about : About eventId) :
    D.Follows exec t (Leaves fun _ g' => g' = .resting) (TicketTypeService.invalidate d eventId)
      .dirty :=
  follows_invalidateEvent governs about

/-- A commit, and the invalidation after it. -/
theorem follows_commit {α : Type} {rest : Async α} (about : About eventId) (opened : g.Open)
    (h : D.Follows exec t (Leaves fun _ g' => g'.Open) rest .resting) :
    D.Follows exec t (Leaves fun _ g' => g'.Open) (do
      sql .commit
      CachedEventRepository.invalidateEvent d eventId
      rest) g := by
  refine Leaves.opened governs opened (fun _ => .dirty) (fun _ _ => .commit opened) fun _ _ => ?_
  refine Leaves.bind governs _ (follows_invalidateEvent governs about) fun _ g' same => ?_
  subst same
  exact h

omit governs in
theorem opened_of_resting {α : Type} {p : Async α}
    (h : D.Follows exec t (Leaves fun _ g' => g' = .resting) p g) :
    D.Follows exec t (Leaves fun _ g' => g'.Open) p g :=
  Leaves.mono h fun _ g' same => by
    rw [same]
    trivial

/-! ## Events -/

theorem follows_eventGet :
    D.Follows exec t (Leaves (Reads eventId)) (EventRepository.get eventId) .resting := by
  refine Leaves.opened governs trivial (fun event => event.elim .resting (.seen eventId))
    (fun event _ => ?_) fun event _ => ?_
  · cases event with
    | none => exact .apart trivial ⟨not_false, fun _ => not_false, fun _ => not_false⟩
    | some event => exact .see
  · cases event with
    | none => exact .inr rfl
    | some event =>
        exact Leaves.opened governs trivial
          (fun ticketTypes => .loaded eventId (event.detailResponse eventId ticketTypes))
          (fun _ _ => .load) fun _ _ => .inr rfl

theorem follows_getEvent (about : About eventId) :
    D.Follows exec t (Leaves fun _ g' => g'.Open) (EventService.get d eventId) .resting := by
  refine Leaves.opened governs trivial (fun _ => .resting) (fun _ _ => .apart trivial trivial)
    fun cachedData _ => ?_
  cases cachedData with
  | some event => exact .inr trivial
  | none =>
      refine Leaves.bind governs _ (follows_eventGet governs) fun event g' reads => ?_
      cases event with
      | none =>
          subst reads
          exact .inr trivial
      | some loaded =>
          subst reads
          exact Leaves.opened governs trivial (fun _ => .resting) (fun _ _ => .store about)
            fun _ _ => .inr trivial

theorem follows_createEvent {eventData : EventCreate} (about : ∀ id, About id) :
    D.Follows exec t (Leaves fun _ g' => g'.Open) (EventService.create d eventData) .resting := by
  refine Leaves.bind governs (fun _ g' => g'.Open) (Leaves.tryCatch governs ?_ fun e g' opened =>
    follows_handler governs opened) fun _ _ opened => .inr opened
  refine Leaves.bind governs (fun _ g' => g'.Open) ?_ fun created g' opened =>
    follows_commit governs (about created.1) opened (.inr trivial)
  refine Leaves.opened governs trivial (fun _ => .working) (fun _ _ => .work trivial trivial)
    fun id _ => ?_
  exact Leaves.opened governs trivial (fun _ => .working)
    (fun _ _ => .apart trivial ⟨not_false, fun _ => not_false, fun _ => not_false⟩)
    fun _ _ => .inr trivial

theorem follows_deleteEvent (about : About eventId) :
    D.Follows exec t (Leaves fun _ g' => g'.Open) (EventService.delete d eventId) .resting := by
  refine Leaves.bind governs _ (follows_eventGet governs) fun event g' reads => ?_
  have opened := reads.opened
  cases event with
  | none => exact .inr opened
  | some loaded =>
      refine Leaves.tryCatch governs ?_ fun e g'' opened => ?_
      · refine Leaves.bind governs (fun _ g'' => g'' = .working) (Leaves.tryCatch governs
          (Leaves.work governs opened trivial) fun e g'' opened => ?_) fun _ g'' same => ?_
        · split
          · exact .inr opened
          · exact .inr opened
        · subst same
          refine Leaves.opened governs trivial (fun _ => .dirty) (fun _ _ => .commit trivial)
            fun _ _ => ?_
          exact opened_of_resting (follows_invalidateEvent governs about)
      · unfold EventService.refuseDelete
        split
        · exact follows_rollbackThrow (follows_rollback governs (.inr opened))
        · exact follows_handler governs opened

theorem follows_applyEventUpdate {event : Event} {updateDict : EventUpdate} (about : About eventId)
    (opened : g.Open) : D.Follows exec t (Leaves fun _ g' => g'.Open)
      (EventService.applyUpdate d eventId event updateDict) g := by
  refine Leaves.bind governs (fun _ g' => g'.Open) ?_ fun _ g' opened =>
    follows_commit governs about opened (.inr trivial)
  refine Leaves.bind governs (fun _ g' => g'.Open) ?_ fun _ g' opened => ?_
  · unfold EventRepository.flushUpdate
    split
    · exact .inr opened
    · have works : Works (.updateEvent eventId (updateDict.netChange event)) := trivial
      exact Leaves.mono (Leaves.work governs opened works) fun _ g'' same => by
        rw [same]
        trivial
  · refine Leaves.bind governs _ (Leaves.aside governs opened
      ⟨not_false, fun _ => not_false, fun _ => not_false⟩) fun _ g'' opened => ?_
    exact Leaves.bind governs _ (Leaves.aside governs opened
      ⟨not_false, fun _ => not_false, fun _ => not_false⟩) fun _ _ opened => .inr opened

theorem follows_updateEvent {updateData : EventUpdate} (about : About eventId) :
    D.Follows exec t (Leaves fun _ g' => g'.Open) (EventService.update d eventId updateData)
      .resting := by
  refine Leaves.bind governs _ (follows_eventGet governs) fun event g' reads => ?_
  have opened := reads.opened
  cases event with
  | none => exact .inr opened
  | some loaded =>
      dsimp only
      split
      · exact .inr opened
      · exact Leaves.tryCatch governs (follows_applyEventUpdate governs about opened)
          fun e g'' opened => follows_handler governs opened

/-- The key of a page is of the version that was read. -/
theorem follows_getEvents {offset limit : Int} :
    D.Follows exec t (Leaves fun _ g' => g'.Open) (EventService.getAll d offset limit)
      .resting := by
  refine Leaves.bind governs
    (fun key g' => g' = .keyed key.version ∧ key.offset = offset ∧ key.limit = limit) ?_
    fun key g' holds => ?_
  · refine Leaves.opened governs trivial (fun version => version.elim .lost .keyed)
      (fun version _ => ?_) fun version _ => ?_
    · cases version with
      | none => exact .keyless
      | some version => exact .key
    · cases version with
      | none => exact follows_lost governs
      | some version => exact .inr ⟨rfl, rfl, rfl⟩
  · obtain ⟨rfl, rfl, rfl⟩ := holds
    refine Leaves.opened governs trivial
      (fun cached => cached.elim (.keyed key.version) fun _ => .resting) (fun cached _ => ?_)
      fun cached _ => ?_
    · cases cached with
      | none => exact .miss
      | some events => exact .apart trivial trivial
    · cases cached with
      | some events => exact .inr trivial
      | none =>
          refine Leaves.opened governs trivial
            (fun events => .paged key (events.map fun row => row.2.response row.1))
            (fun _ _ => .page) fun events _ => ?_
          exact Leaves.opened governs trivial (fun _ => .resting) (fun _ _ => .keep)
            fun _ _ => .inr trivial

/-! ## Ticket types -/

variable {ticketTypeId : Int}

/-- The row of a ticket type, before a change. -/
theorem follows_look (named : Named ticketTypeId) :
    D.Follows exec t (Leaves fun ticketType g' => g'.Open ∧ ∀ row, ticketType = some row →
      g' = .editing ticketTypeId ∧ About row.eventId) (sql (.getTicketType ticketTypeId))
      .resting := by
  refine Leaves.call governs (fun _ => ⟨_, .refused trivial, .inr trivial⟩)
    fun ticketType finds => ?_
  cases ticketType with
  | none =>
      exact ⟨_, .apart trivial ⟨not_false, fun _ => not_false, fun _ => not_false⟩,
        .inr ⟨trivial, nofun⟩⟩
  | some row =>
      refine ⟨_, .look named, .inr ⟨trivial, ?_⟩⟩
      rintro _ ⟨⟩
      exact ⟨rfl, finds named⟩

/-- The refresh of a ticket type, after a change. -/
theorem follows_reread :
    D.Follows exec t (Leaves fun row g' => g' = .dirty ∧
      (Named ticketTypeId → About row.eventId))
      (sql (.refreshTicketType ticketTypeId)) (.pledged ticketTypeId) :=
  Leaves.call governs (fun _ => ⟨_, .astray, .inr trivial⟩)
    fun _ finds => ⟨_, .reread, .inr ⟨rfl, finds⟩⟩

theorem follows_createType {typeData : TicketTypeCreate} (about : About eventId) :
    D.Follows exec t (Leaves fun _ g' => g'.Open) (TicketTypeService.create d eventId typeData)
      .resting := by
  refine Leaves.bind governs (fun _ g' => g'.Open) (Leaves.tryCatch governs ?_ fun e g' opened =>
    follows_handler governs opened) fun _ _ opened => .inr opened
  refine Leaves.opened governs trivial .editing (fun _ _ => .insert about) fun id _ => ?_
  refine Leaves.opened governs trivial (fun _ => .pledged id) (fun _ _ => .pledge) fun _ _ => ?_
  refine Leaves.bind governs _ (follows_reread governs) fun row g' holds => ?_
  obtain ⟨rfl, _⟩ := holds
  refine Leaves.owed governs .dirty (fun _ => .warm trivial) fun _ => ?_
  refine Leaves.bind governs _ (follows_invalidate governs about) fun _ g' same => ?_
  subst same
  exact .inr trivial

theorem follows_deleteType (named : Named ticketTypeId) :
    D.Follows exec t (Leaves fun _ g' => g'.Open) (TicketTypeService.delete d ticketTypeId)
      .resting := by
  refine Leaves.bind governs _ (follows_look governs named) fun ticketType g' holds => ?_
  obtain ⟨opened, finds⟩ := holds
  cases ticketType with
  | none => exact .inr opened
  | some row =>
      refine Leaves.tryCatch governs ?_ fun e g'' opened => ?_
      · refine Leaves.bind governs _ (Leaves.work governs opened trivial) fun _ g'' same => ?_
        subst same
        refine Leaves.opened governs trivial (fun _ => .dirty) (fun _ _ => .commit trivial)
          fun _ _ => ?_
        refine Leaves.owed governs .dirty (fun _ => .warm trivial) fun _ => ?_
        exact opened_of_resting (follows_invalidate governs (finds row rfl).2)
      · unfold TicketTypeService.refuseDelete
        split
        · exact follows_rollbackThrow (follows_rollback governs (.inr opened))
        · exact follows_handler governs opened

theorem follows_applyTypeUpdate {loaded : TicketType} {updateData : TicketTypeUpdate}
    (named : Named ticketTypeId) :
    D.Follows exec t (Leaves fun _ g' => g'.Open)
      (TicketTypeService.applyUpdate d ticketTypeId loaded updateData) (.editing ticketTypeId) := by
  refine Leaves.bind governs (fun _ g' => g' = .editing ticketTypeId) ?_ fun _ g' same => ?_
  · unfold TicketTypeService.flushUpdate
    split
    · exact .inr rfl
    · exact Leaves.call governs (fun _ => ⟨_, .refused trivial, .inr trivial⟩)
        fun _ _ => ⟨_, .edit, .inr rfl⟩
  · subst same
    refine Leaves.opened governs trivial (fun _ => .pledged ticketTypeId) (fun _ _ => .pledge)
      fun _ _ => ?_
    refine Leaves.bind governs _ (follows_reread governs) fun row g' holds => ?_
    obtain ⟨rfl, about⟩ := holds
    have done : D.Follows exec t (Leaves fun _ g' => g'.Open) (do
        TicketTypeService.invalidate d row.eventId
        pure row : Async TicketType) .dirty := by
      refine Leaves.bind governs _ (follows_invalidate governs (about named)) fun _ g' same => ?_
      subst same
      exact .inr trivial
    dsimp only
    cases updateData.newQuantity with
    | none => exact done
    | some _ => exact Leaves.owed governs .dirty (fun _ => .warm trivial) fun _ => done

theorem follows_updateType {updateData : TicketTypeUpdate} (named : Named ticketTypeId) :
    D.Follows exec t (Leaves fun _ g' => g'.Open)
      (TicketTypeService.update d ticketTypeId updateData) .resting := by
  refine Leaves.bind governs _ (follows_look governs named) fun ticketType g' holds => ?_
  obtain ⟨opened, finds⟩ := holds
  cases ticketType with
  | none => exact .inr opened
  | some loaded =>
      dsimp only
      split
      · exact .inr opened
      split
      · exact .inr opened
      obtain ⟨rfl, _⟩ := finds loaded rfl
      exact Leaves.bind governs _ (Leaves.tryCatch governs (follows_applyTypeUpdate governs named)
        fun e g'' opened => follows_handler governs opened)
        fun _ _ opened => .inr opened

end Services

/-! ## Every activity -/

/-- A call that reads an event or the list of them, or writes an event or a ticket type: of the
events that the calls are `About`, and by the ids that are `Named`. -/
def Concerns (About Named : Int → Prop) : Activity → Prop
  | .getEvent eventId | .updateEvent eventId _ | .deleteEvent eventId
  | .operation (.createType eventId _) => About eventId
  | .operation (.updateType ticketTypeId _) | .operation (.deleteType ticketTypeId) =>
      Named ticketTypeId
  | .createEvent _ => ∀ eventId, About eventId
  | .getEvents .. => True
  | _ => False

/-- **Every call runs its errand to the end.** -/
theorem follows_activity (governs : (protocol d About Named).Governs D exec) {activity : Activity}
    (concerns : Concerns About Named activity) :
    D.Follows exec t (fun _ => Settled) (activity.program d) .resting := by
  cases activity with
  | getEvent eventId =>
      exact follows_unit (follows_session governs (follows_getEvent governs concerns))
  | getEvents offset limit =>
      exact follows_unit (follows_session governs (follows_getEvents governs))
  | createEvent eventData =>
      exact follows_unit (follows_session governs (follows_createEvent governs concerns))
  | updateEvent eventId updateData =>
      exact follows_unit (follows_session governs (follows_updateEvent governs concerns))
  | deleteEvent eventId => exact follows_session governs (follows_deleteEvent governs concerns)
  | operation op =>
      cases op with
      | createType eventId typeData =>
          exact follows_unit (follows_session governs (follows_createType governs concerns))
      | updateType ticketTypeId updateData =>
          exact follows_unit (follows_session governs (follows_updateType governs concerns))
      | deleteType ticketTypeId =>
          exact follows_session governs (follows_deleteType governs concerns)
      | _ => exact concerns.elim
  | _ => exact concerns.elim

end TicketCore.Cache
