import TicketCore.Routing
import TicketCore.CommitOrder.Programs
import TicketCore.CommitOrder.Sweep

/-!
# The activities keep the discipline of commits

`follows_activity`: every activity, whatever it is called with and whichever of its calls fail,
commits at most once, and what it commits is its request as the office would have it; in the end it
has no row locked.
-/

namespace TicketCore.CommitOrder

open Interleave RowStore Pending Session

variable {ι : Type} [DecidableEq ι] {d : Deployment} {acts : ι → Activity} {office : Office}
  {t : ι} {g : Pending}
  {α β : Type} {id ticketId ticketTypeId ownerId userId eventId clock : Int}

/-! ## The garbage collectors -/

section Sweep

variable {rows : List (Int × Int)} {threshold : Int}

/-- The transaction has canceled these tickets, which were to be swept, and nothing else; its calls
have read this time and been shown these tickets. -/
structure Canceled (clock threshold : Int) (rows : List (Int × Int)) (g : Pending) : Prop where
  canceling : Canceling g.tickets rows
  due : Due threshold g
  read : g.shown (.clock clock)
  listed : ∀ id, g.shown (.canceled id) ↔ id ∈ rows.map Prod.fst
  events : g.events = Locks.none
  committed : g.committed = false
  known : ∀ row ∈ rows, g.knows (.typeBorn row.2)

theorem Canceled.start (fresh : Fresh g) (read : g.shown (.clock clock))
    (none : ∀ id, ¬ g.shown (.canceled id)) : Canceled clock threshold [] g where
  canceling := by
    rw [fresh.tickets]
    exact .nil
  due id ticket version locked := by
    rw [fresh.tickets] at locked
    cases locked
  read := read
  listed id := iff_of_false (none id) List.not_mem_nil
  events := fresh.events
  committed := fresh.committed
  known _ mem := (List.not_mem_nil mem).elim

theorem Canceled.snoc {ticket : Ticket} (h : Canceled clock threshold rows g)
    (unlocked : g.tickets id = none) (hung : Database.Hung threshold ticket) :
    Canceled clock threshold (rows ++ [(id, ticket.ticketTypeId)])
      (((g.learn (.typeBorn ticket.ticketTypeId)).setTicket id (some ticket)
        (some (ticket.withStatus .canceled))).see (.canceled id)) where
  canceling := h.canceling.snoc unlocked hung.1
  due id' ticket' version locked := by
    by_cases same : id' = id
    · subst same
      cases Locks.add_self.symm.trans locked
      exact hung
    · exact h.due id' ticket' version ((Locks.add_of_ne same).symm.trans locked)
  read := .inl h.read
  listed id' := by
    rw [List.map_append, List.map_singleton, List.mem_append, List.mem_singleton, ← h.listed id']
    exact or_congr_right (iff_of_eq (Reading.canceled.injEq ..))
  events := h.events
  committed := h.committed
  known row mem := by
    rcases List.mem_append.mp mem with mem | mem
    · exact .inl (h.known row mem)
    · rw [List.mem_singleton.mp mem]
      exact .inr rfl

/-- The rows of the cancelling `UPDATE`: what it returns is what the transaction has canceled. -/
theorem follows_cancelHungTickets {before : List (Int × Int)} (ids : List Int) {g : Pending}
    (canceled : Canceled clock threshold before g) (types : g.types = Locks.none) :
    (discipline d acts office).Follows exec t (fun outcome g' => ∀ rows, outcome = .ok rows →
        Canceled clock threshold (before ++ rows) g' ∧ g'.types = Locks.none)
      (Worker.cancelHungTickets threshold ids) g := by
  induction ids generalizing before g with
  | nil =>
      intro rows same
      cases same
      rw [List.append_nil]
      exact ⟨canceled, types⟩
  | cons id ids ih =>
      refine Discipline.Follows.bind (fun row g' =>
        Canceled clock threshold (before ++ row.toList) g' ∧ g'.types = Locks.none) ?_
        fun row g' holds => ?_
      · refine follows_cancelHungTicket (fun base ticket locked => ?_) (fun _ => nofun) ?_ ?_
        · obtain ⟨ticket', _, same, _⟩ := canceled.canceling.locked locked
          cases same
          exact nofun
        · refine ⟨?_, types⟩
          rw [Option.toList_none, List.append_nil]
          exact canceled
        · exact fun ticket unlocked hung => ⟨canceled.snoc unlocked hung, types⟩
      refine Discipline.Follows.bind (fun rows g'' =>
        Canceled clock threshold (before ++ row.toList ++ rows) g'' ∧
          g''.types = Locks.none) ?_ ?_
      · refine (ih holds.1 holds.2).mono fun outcome g'' canceled => ?_
        cases outcome with
        | ok rows => exact canceled rows rfl
        | error e => exact nofun
      · rintro rows g'' canceled all same
        cases same
        rwa [← List.append_assoc]

/-- The ticket types that are not among these have been counted down. -/
def CountingDown (rows : List (Int × Int)) (todo : List Int) (g : Pending) : Prop :=
  (∀ id ∈ todo, g.types id = none) ∧ ∀ id, id ∉ todo → CountedDown rows g id

theorem CountingDown.gone {todo : List Int} (h : CountingDown rows (id :: todo) g) :
    CountingDown rows todo (g.learn (.typeGone id)) := by
  refine ⟨fun id' mem => h.1 id' (List.mem_cons_of_mem _ mem), fun id' out => ?_⟩
  by_cases same : id' = id
  · subst same
    exact .inl ⟨h.1 id' (List.mem_cons_self ..), .inr (.inr rfl)⟩
  · rcases h.2 id' fun mem => (List.mem_cons.mp mem).elim same out with
      ⟨unlocked, still⟩ | counted
    · exact .inl ⟨unlocked, still.imp_right .inl⟩
    · exact .inr counted

theorem CountingDown.count {todo : List Int} {row row' : TicketType}
    (h : CountingDown rows (id :: todo) g)
    (fresh : id ∉ todo) (changed : row.addTicketsSold (-countOf rows id) = .ok row') :
    CountingDown rows todo (g.setType id (some row) (some row')) := by
  refine ⟨fun id' mem => ?_, fun id' out => ?_⟩
  · have other : id' ≠ id := fun same => fresh (same ▸ mem)
    exact (Locks.add_of_ne other).trans (h.1 id' (List.mem_cons_of_mem _ mem))
  · by_cases same : id' = id
    · subst same
      exact .inr ⟨row, row', Locks.add_self, changed⟩
    · have kept : (g.setType id (some row) (some row')).types id' = g.types id' :=
        Locks.add_of_ne same
      unfold CountedDown
      rw [kept]
      exact h.2 id' fun mem => (List.mem_cons.mp mem).elim same out

/-- What the transaction has canceled, and the types that are still to be counted down. -/
structure Counting (clock threshold : Int) (rows : List (Int × Int)) (todo : List Int)
    (g : Pending) : Prop where
  canceled : Canceled clock threshold rows g
  types : CountingDown rows todo g
  distinct : todo.Nodup
  listed : ∀ id ∈ todo, id ∈ rows.map Prod.snd

/-- One ticket type of the canceled tickets is counted down. -/
theorem follows_countDown_one {todo : List Int} {post : Except Exn Unit → Pending → Prop}
    (h : Counting clock threshold rows (id :: todo) g) (fault : ∀ e, post (.error e) g)
    (next : ∀ g', Counting clock threshold rows todo g' → post (.ok ()) g') :
    (discipline d acts office).Follows exec t post
      (sql (.addTicketsSold id (-countOf rows id))) g := by
  obtain ⟨fresh, distinct⟩ := List.nodup_cons.mp h.distinct
  obtain ⟨row, listed, rfl⟩ := List.mem_map.mp (h.listed id (List.mem_cons_self ..))
  have rest : ∀ id ∈ todo, id ∈ rows.map Prod.snd :=
    fun id mem => h.listed id (List.mem_cons_of_mem _ mem)
  obtain ⟨canceling, due, read, shown, events, committed, known⟩ := h.canceled
  refine follows_addTicketsSold (h.types.1 _ (List.mem_cons_self ..)) (known row listed) fault ?_ ?_
  · exact next _
      ⟨⟨canceling, due, read, shown, events, committed, fun row mem => .inl (known row mem)⟩,
      h.types.gone, distinct, rest⟩
  · exact fun row row' changed =>
      next _ ⟨⟨canceling, due, read, shown, events, committed, known⟩,
        h.types.count fresh changed,
        distinct, rest⟩

/-- The ticket types of the canceled tickets are counted down one after the other. -/
theorem follows_countDown (canceled : Canceled clock threshold rows g)
    (types : g.types = Locks.none) :
    (discipline d acts office).Follows exec t
      (fun outcome g' => outcome = .ok ⟨⟩ → Counting clock threshold rows [] g')
      ((Worker.typeCount rows).forM fun type => sql (.addTicketsSold type.1 (-type.2))) g := by
  have start : Counting clock threshold rows (Worker.kindsOf rows) g := by
    refine ⟨canceled,
      ⟨fun id _ => by rw [types]; rfl, fun id out => .inl ⟨by rw [types]; rfl, .inl ?_⟩⟩,
      Worker.kindsOf_nodup rows, fun id => Worker.mem_kindsOf.mp⟩
    rw [Worker.mem_kindsOf] at out
    unfold countOf
    rw [List.count_eq_zero_of_not_mem out]
    rfl
  rw [Worker.typeCount_eq]
  refine Discipline.Follows.forM (fun rest g' => ∃ todo,
    rest = todo.map (fun id => (id, countOf rows id)) ∧
    Counting clock threshold rows todo g') ?_ ?_
    ⟨_, rfl, start⟩
  · rintro x rest g' ⟨todo, split, counting⟩
    cases todo with
    | nil => cases split
    | cons id todo =>
        cases split
        exact follows_countDown_one counting (fun _ => nofun) fun g'' counting =>
          ⟨todo, rfl, counting⟩
  · rintro g' ⟨todo, split, counting⟩ _
    cases todo with
    | cons id todo => cases split
    | nil => exact counting

theorem follows_reconcile (mine : acts t = .operation .reconcileHungTickets) (fresh : Fresh g)
    (read : g.shown (.clock clock)) (none : ∀ id, ¬ g.shown (.canceled id)) :
    (discipline d acts office).Follows exec t (fun _ _ => True)
      (Worker.reconcile d (clock - d.ticketReservationTimeSeconds * 1000000)) g := by
  refine follows_neutral_bind trivial (fun _ => trivial) fun ids => ?_
  refine Discipline.Follows.bind (fun rows g' =>
    Canceled clock (clock - d.ticketReservationTimeSeconds * 1000000) rows g' ∧
      g'.types = Locks.none) ?_ fun rows g₁ holds => ?_
  · refine (follows_cancelHungTickets ids (.start fresh read none) fresh.types).mono
      fun outcome g' h => ?_
    cases outcome with
    | ok rows => exact h rows rfl
    | error _ => trivial
  by_cases none : rows = []
  · rw [if_pos none]
    exact trivial
  rw [if_neg none]
  refine Discipline.Follows.bind (fun _ g' =>
    Counting clock (clock - d.ticketReservationTimeSeconds * 1000000) rows [] g') ?_
    fun _ g₂ counting => ?_
  · refine (follows_countDown holds.1 holds.2).mono fun outcome g' h => ?_
    cases outcome with
    | ok _ => exact h rfl
    | error _ => trivial
  refine Discipline.Follows.bind (fun _ g' => g' = g₂) ?_ fun _ g₃ same => ?_
  · refine Discipline.Follows.forM (fun _ g' => g' = g₂) ?_ (fun _ same => same) rfl
    intro x rest g' same
    refine follows_neutral trivial fun answer => ?_
    cases answer with
    | ok _ => exact same
    | error _ => trivial
  subst same
  have ready : Ready d (acts t) g₃ := by
    rw [mine]
    exact ready_swept counting.canceled.canceling (fun id => counting.types.2 id List.not_mem_nil)
      counting.canceled.read counting.canceled.listed counting.canceled.due counting.canceled.events
  exact follows_commit ready counting.canceled.committed (fun _ => trivial) trivial

theorem follows_reconcileHungTickets (mine : acts t = .operation .reconcileHungTickets) :
    (discipline d acts office).Follows exec t (fun _ g' => g'.Free) (Worker.reconcileHungTickets d)
      start := by
  refine Discipline.Follows.bind (fun clock g' => g' = start.see (.clock clock)) ?_
    fun clock g same => ?_
  · exact follows_now (fun _ => ⟨rfl, rfl, rfl⟩) fun _ => rfl
  subst same
  refine follows_withSession (fun _ _ => True)
    (follows_reconcile mine fresh_start.see (.inr rfl) ?_)
    fun _ _ _ => follows_close free_ended
  rintro id (never | ⟨⟨⟩⟩)
  exact never

end Sweep

/-! ## Ticket types -/

/-- The cached event and the event lists are out of date. -/
theorem follows_invalidate {post : Except Exn Unit → Pending → Prop}
    (all : ∀ outcome, post outcome g) :
    (discipline d acts office).Follows exec t post (TicketTypeService.invalidate d eventId) g := by
  refine follows_neutral_bind trivial (fun _ => all _) fun _ => ?_
  exact follows_neutral trivial all

theorem follows_createType {data : TicketTypeCreate}
    (mine : acts t = .operation (.createType eventId data)) (fresh : Fresh g) :
    (discipline d acts office).Follows exec t
      (fun outcome g' => successCommitted outcome g'.committed)
      (TicketTypeService.create d eventId data) g := by
  refine Discipline.Follows.bind (fun _ g' => g'.committed = true) ?_
    fun row g' committed _ _ => committed
  refine Discipline.Follows.tryCatch (fun _ _ => True) ?_
    fun e g'' _ => follows_rollbackOnSQLAlchemyError
      (follows_rollback (fun e' => successCommitted_error e' _) (successCommitted_error e _))
      (successCommitted_error e _)
  refine Discipline.Follows.bind (fun id g' => Ready d (acts t) g' ∧ g'.committed = false ∧
    ∃ row, g'.types id = some (none, some row)) ?_ fun id g₁ ready => ?_
  · rw [mine]
    refine follows_insertTicketType (fun _ => trivial) fun id =>
      ⟨?_, fresh.committed, _, Locks.add_self⟩
    have added : g.types.add id none (some (data.row eventId)) =
        Locks.none.add id none (some (data.row eventId)) := by
      rw [fresh.types]
    exact ready_typeAdded added fresh.tickets fresh.events
  obtain ⟨ready, first, row, locked⟩ := ready
  refine Discipline.Follows.bind (fun _ g' => g'.committed = true ∧ g'.knows (.typeBorn id)) ?_
    fun _ g₂ done => ?_
  · exact follows_commit ready first (fun _ => trivial)
      ⟨rfl, .inr ⟨id, none, row, rfl, locked⟩⟩
  obtain ⟨committed, known⟩ := done
  refine follows_neutral_bind trivial (fun _ => trivial) fun row => ?_
  refine Discipline.Follows.bind (fun _ g' => g' = g₂) ?_ fun _ g₃ same => ?_
  · refine follows_setInventory known fun answer => ?_
    cases answer with
    | ok _ => rfl
    | error _ => trivial
  subst same
  refine Discipline.Follows.bind (fun _ g' => g'.committed = true) ?_
    fun _ g₄ committed => committed
  refine follows_invalidate fun outcome => ?_
  cases outcome with
  | ok _ => exact committed
  | error _ => trivial

theorem follows_applyUpdate {data : TicketTypeUpdate} {loaded : TicketType}
    (mine : acts t = .operation (.updateType id data)) (fresh : Fresh g)
    (known : g.knows (.typeBorn id)) (shown : g.shown (.ticketType id loaded)) :
    (discipline d acts office).Follows exec t (fun _ _ => True)
      (TicketTypeService.applyUpdate d id loaded data) g := by
  refine Discipline.Follows.bind (fun _ g' => g'.knows (.typeBorn id) ∧
    (g' = g ∨ (Ready d (acts t) g' ∧ g'.committed = false))) ?_ fun _ g₁ flushed => ?_
  · unfold TicketTypeService.flushUpdate
    split
    · exact ⟨known, .inl rfl⟩
    · rename_i changes
      refine follows_updateTicketType (by rw [fresh.types]; rfl) (fun _ => trivial)
        fun row row' applied => ?_
      refine ⟨known, .inr ⟨?_, fresh.committed⟩⟩
      rw [mine]
      have changed : g.types.add id (some row) (some row') = Locks.none.add id (some row)
          (some row') := by
        rw [fresh.types]
      exact ready_typeChanged shown changed fresh.tickets fresh.events changes applied
  obtain ⟨known, flushed⟩ := flushed
  refine Discipline.Follows.bind (fun _ g' => g'.knows (.typeBorn id)) ?_ fun _ g₂ known => ?_
  · rcases flushed with rfl | ⟨ready, first⟩
    · exact follows_commit_idle (fresh_idle fresh) (fun _ => trivial) known
    · exact follows_commit ready first (fun _ => trivial) (.inl known)
  refine follows_neutral_bind trivial (fun _ => trivial) fun row => ?_
  have done : ∀ g', (discipline d acts office).Follows exec t (fun _ _ => True) (do
      TicketTypeService.invalidate d row.eventId
      pure row : Async TicketType) g' := fun g' =>
    follows_seq (follows_invalidate fun _ => trivial) fun _ _ => trivial
  dsimp only
  cases data.newQuantity with
  | none => exact done _
  | some quantity =>
      exact follows_seq (follows_setInventory known fun _ => trivial) fun _ g₃ => done g₃

theorem follows_updateType {data : TicketTypeUpdate}
    (mine : acts t = .operation (.updateType id data)) (fresh : Fresh g) :
    (discipline d acts office).Follows exec t (fun _ _ => True)
      (TicketTypeService.update d id data) g := by
  refine Discipline.Follows.bind (fun row g' => ∀ r, row = some r →
      Fresh g' ∧ g'.knows (.typeBorn id) ∧ g'.shown (.ticketType id r)) ?_
      fun row g₁ known => ?_
  · refine follows_getTicketType (by rw [fresh.types]; rfl) (fun _ => trivial) (fun _ => nofun) ?_
    rintro row _ ⟨⟩
    exact ⟨fresh.learn.see, .inr rfl, .inr rfl⟩
  cases row with
  | none => exact trivial
  | some loaded =>
      obtain ⟨fresh, known, shown⟩ := known loaded rfl
      dsimp only
      split
      · exact trivial
      · split
        · exact trivial
        · refine follows_seq (Discipline.Follows.tryCatch (fun _ _ => True) ?_
            fun e g'' _ => follows_rollbackOnSQLAlchemyError
              (follows_rollback (fun _ => trivial) trivial) trivial) fun _ _ => trivial
          refine (follows_applyUpdate mine fresh known shown).mono fun outcome _ _ => ?_
          cases outcome with
          | ok _ => trivial
          | error _ => trivial

theorem follows_deleteType (mine : acts t = .operation (.deleteType id)) (fresh : Fresh g) :
    (discipline d acts office).Follows exec t (fun _ _ => True)
      (TicketTypeService.delete d id) g := by
  refine Discipline.Follows.bind (fun row g' => ∀ r, row = some r → Fresh g') ?_
    fun row g₁ known => ?_
  · refine follows_getTicketType (by rw [fresh.types]; rfl) (fun _ => trivial) (fun _ => nofun) ?_
    exact fun _ _ _ => fresh.learn.see
  cases row with
  | none => exact trivial
  | some row =>
      have fresh := known row rfl
      refine Discipline.Follows.tryCatch (fun _ _ => True) ?_ fun e g'' _ => ?_
      · refine Discipline.Follows.bind
          (fun _ g' => Idle g' ∨ (Ready d (acts t) g' ∧ g'.committed = false)) ?_
          fun _ g₂ deleted => ?_
        · refine follows_deleteTicketType (by rw [fresh.types]; rfl) (fun _ => trivial)
            (.inl (fresh_idle fresh)) fun row => .inr ⟨?_, fresh.committed⟩
          rw [mine]
          have dropped : g₁.types.add id (some row) none = Locks.none.add id (some row) none := by
            rw [fresh.types]
          exact ready_typeDropped dropped fresh.tickets fresh.events
        refine Discipline.Follows.bind (fun _ _ => True) ?_ fun _ g₃ _ => ?_
        · rcases deleted with idle | ⟨ready, first⟩
          · exact follows_commit_idle idle (fun _ => trivial) trivial
          · exact follows_commit ready first (fun _ => trivial) trivial
        refine follows_neutral_bind trivial (fun _ => trivial) fun _ => ?_
        refine follows_invalidate fun outcome => ?_
        cases outcome with
        | ok _ => trivial
        | error _ => trivial
      · unfold TicketTypeService.refuseDelete
        split
        · exact follows_rollbackThrow (follows_rollback (fun _ => trivial) trivial)
        · exact follows_rollbackOnSQLAlchemyError (follows_rollback (fun _ => trivial) trivial)
            trivial

/-! ## Events -/

theorem follows_invalidateEvent {post : Except Exn Unit → Pending → Prop}
    (all : ∀ outcome, post outcome g) :
    (discipline d acts office).Follows exec t post
      (CachedEventRepository.invalidateEvent d eventId) g := by
  refine follows_neutral_bind trivial (fun _ => all _) fun _ => ?_
  exact follows_neutral trivial all

/-- An event that is read. -/
theorem follows_selectEvent {post : Except Exn (Option Event) → Pending → Prop}
    (fault : ∀ e, post (.error e) g) (absent : post (.ok none) g)
    (found : ∀ event, post (.ok (some event)) (g.see (.event id event))) :
    (discipline d acts office).Follows exec t post (sql (.selectEvent id)) g := by
  refine follows_sql not_false not_false fault fun db db' clock order answer right _ _ ran => ?_
  cases ran
  cases db.events.read t id with
  | none => exact ⟨g, right, rfl, .nothing rfl nofun, absent⟩
  | some event => exact ⟨_, right.see, rfl, .see rfl (.event id event) nofun, found event⟩

/-- `EventRepository.get` only reads. -/
theorem follows_loadEvent {f : Option (Event × List (Int × TicketType)) → Async β}
    {post : Except Exn β → Pending → Prop} (fault : ∀ e g', post (.error e) g')
    (absent : (discipline d acts office).Follows exec t post (f none) g)
    (found : ∀ event ticketTypes, (discipline d acts office).Follows exec t post
      (f (some (event, ticketTypes))) (g.see (.event eventId event))) :
    (discipline d acts office).Follows exec t post (EventRepository.get eventId >>= f) g := by
  refine Discipline.Follows.bind (fun loaded g' => (loaded = none ∧ g' = g) ∨
    ∃ event ticketTypes, loaded = some (event, ticketTypes) ∧
    g' = g.see (.event eventId event)) ?_ ?_
  · refine Discipline.Follows.bind (fun event g' => (event = none ∧ g' = g) ∨
      ∃ row, event = some row ∧ g' = g.see (.event eventId row)) ?_ fun event g₁ read => ?_
    · exact follows_selectEvent (fun e => fault e _) (.inl ⟨rfl, rfl⟩) fun event =>
        .inr ⟨event, rfl, rfl⟩
    rcases read with ⟨rfl, rfl⟩ | ⟨row, rfl, rfl⟩
    · exact .inl ⟨rfl, rfl⟩
    · exact follows_neutral_bind trivial (fun e => fault e _) fun ticketTypes =>
        .inr ⟨row, ticketTypes, rfl, rfl⟩
  · rintro loaded g₁ (⟨rfl, rfl⟩ | ⟨event, ticketTypes, rfl, rfl⟩)
    · exact absent
    · exact found event ticketTypes

theorem follows_createEvent {data : EventCreate} (mine : acts t = .createEvent data)
    (fresh : Fresh g) :
    (discipline d acts office).Follows exec t
      (fun outcome g' => successCommitted outcome g'.committed)
      (EventService.create d data) g := by
  refine Discipline.Follows.bind (fun _ g' => g'.committed = true) ?_
    fun row g' committed _ _ => committed
  refine Discipline.Follows.tryCatch (fun _ _ => True) ?_
    fun e g'' _ => follows_rollbackOnSQLAlchemyError
      (follows_rollback (fun e' => successCommitted_error e' _) (successCommitted_error e _))
      (successCommitted_error e _)
  refine Discipline.Follows.bind (fun _ g' => Ready d (acts t) g' ∧ g'.committed = false) ?_
    fun new g₁ ready => ?_
  · refine Discipline.Follows.bind (fun _ g' => Ready d (acts t) g' ∧ g'.committed = false) ?_
      fun id g₂ ready => ?_
    · rw [mine]
      refine follows_insertEvent (fun _ => trivial) fun id => ⟨?_, fresh.committed⟩
      have added : g.events.add id none (some data.row) = Locks.none.add id none
          (some data.row) := by
        rw [fresh.events]
      exact ready_eventAdded added fresh.tickets fresh.types
    · exact follows_neutral_bind trivial (fun _ => trivial) fun _ => ready
  refine Discipline.Follows.bind (fun _ g' => g'.committed = true) ?_ fun _ g₂ committed => ?_
  · exact follows_commit ready.1 ready.2 (fun _ => trivial) rfl
  refine Discipline.Follows.bind (fun _ g' => g'.committed = true) ?_
    fun _ g₄ committed => committed
  refine follows_invalidateEvent fun outcome => ?_
  cases outcome with
  | ok _ => exact committed
  | error _ => trivial

theorem follows_flushEvent {data : EventUpdate} {loaded : Event}
    {post : Except Exn Unit → Pending → Prop}
    (mine : acts t = .updateEvent id data) (fresh : Fresh g) (shown : g.shown (.event id loaded))
    (fault : ∀ e, post (.error e) g) (still : post (.ok ()) g)
    (flushed : ∀ g', Ready d (acts t) g' → g'.committed = false → post (.ok ()) g') :
    (discipline d acts office).Follows exec t post
      (EventRepository.flushUpdate id (data.netChange loaded)) g := by
  unfold EventRepository.flushUpdate
  split
  · exact still
  · rename_i changes
    refine follows_updateEvent (by rw [fresh.events]; rfl) fault fun event event' applied => ?_
    refine flushed _ ?_ fresh.committed
    rw [mine]
    have changed : g.events.add id (some event) (some event') =
        Locks.none.add id (some event) (some event') := by
      rw [fresh.events]
    exact ready_eventChanged shown changed fresh.tickets fresh.types changes applied

theorem follows_changeEvent {data : EventUpdate} (mine : acts t = .updateEvent id data)
    (fresh : Fresh g) :
    (discipline d acts office).Follows exec t (fun _ _ => True)
      (EventService.update d id data) g := by
  refine follows_loadEvent (fun _ _ => trivial) trivial fun loaded _ => ?_
  have fresh : Fresh (g.see (.event id loaded)) := fresh.see
  dsimp only
  split
  · exact trivial
  refine Discipline.Follows.tryCatch (fun _ _ => True) ?_
    fun e g'' _ => follows_rollbackOnSQLAlchemyError
      (follows_rollback (fun _ => trivial) trivial) trivial
  refine Discipline.Follows.bind
    (fun _ g' => Idle g' ∨ (Ready d (acts t) g' ∧ g'.committed = false)) ?_
    fun _ g₁ flushed => ?_
  · refine Discipline.Follows.bind
      (fun _ g' => Idle g' ∨ (Ready d (acts t) g' ∧ g'.committed = false)) ?_
      fun _ g₂ flushed => ?_
    · exact follows_flushEvent mine fresh (.inr rfl) (fun _ => trivial) (.inl (fresh_idle fresh))
        fun g' ready first => .inr ⟨ready, first⟩
    · refine follows_neutral_bind trivial (fun _ => trivial) fun _ => ?_
      exact follows_neutral_bind trivial (fun _ => trivial) fun _ => flushed
  refine Discipline.Follows.bind (fun _ _ => True) ?_ fun _ g₂ _ => ?_
  · rcases flushed with idle | ⟨ready, first⟩
    · exact follows_commit_idle idle (fun _ => trivial) trivial
    · exact follows_commit ready first (fun _ => trivial) trivial
  refine Discipline.Follows.bind (fun _ _ => True) ?_ fun _ g₄ _ => trivial
  refine follows_invalidateEvent fun outcome => ?_
  cases outcome with
  | ok _ => trivial
  | error _ => trivial

theorem follows_removeEvent {ticketTypes : List (Int × TicketType)}
    (mine : acts t = .deleteEvent id) (fresh : Fresh g) :
    (discipline d acts office).Follows exec t (fun _ _ => True)
      (EventService.remove d id ticketTypes) g := by
  refine Discipline.Follows.bind
    (fun _ g' => Idle g' ∨ (Ready d (acts t) g' ∧ g'.committed = false)) ?_
    fun _ g₁ deleted => ?_
  · refine Discipline.Follows.tryCatch (fun _ _ => True) ?_ fun e g' _ => ?_
    · refine follows_deleteEvent (by rw [fresh.events]; rfl) (fun _ => trivial)
        (.inl (fresh_idle fresh))
        fun event => .inr ⟨?_, fresh.committed⟩
      rw [mine]
      have dropped : g.events.add id (some event) none = Locks.none.add id (some event) none := by
        rw [fresh.events]
      exact ready_eventDropped dropped fresh.tickets fresh.types
    · split
      · exact trivial
      · exact trivial
  refine Discipline.Follows.bind (fun _ _ => True) ?_ fun _ g₂ _ => ?_
  · rcases deleted with idle | ⟨ready, first⟩
    · exact follows_commit_idle idle (fun _ => trivial) trivial
    · exact follows_commit ready first (fun _ => trivial) trivial
  exact follows_invalidateEvent fun _ => trivial

theorem follows_dropEvent (mine : acts t = .deleteEvent id) (fresh : Fresh g) :
    (discipline d acts office).Follows exec t (fun _ _ => True) (EventService.delete d id) g := by
  refine follows_loadEvent (fun _ _ => trivial) trivial fun _ ticketTypes => ?_
  refine Discipline.Follows.tryCatch (fun _ _ => True) ?_ fun e g'' _ => ?_
  · refine (follows_removeEvent mine fresh.see).mono fun outcome _ _ => ?_
    cases outcome with
    | ok _ => trivial
    | error _ => trivial
  · unfold EventService.refuseDelete
    split
    · exact follows_rollbackThrow (follows_rollback (fun _ => trivial) trivial)
    · exact follows_rollbackOnSQLAlchemyError (follows_rollback (fun _ => trivial) trivial) trivial

/-! ## What only reads -/

/-- A call that changes no row, or gives up what has not been committed. -/
def Harmless : Cmd → Prop
  | .db .rollback | .db .close => True
  | cmd => Neutral cmd

theorem free_eq_ended (free : g.Free) : g.ended = g := by
  unfold ended
  rw [← free.tickets, ← free.types, ← free.events]

/-- A program that only makes harmless calls. -/
theorem follows_harmless {p : Async α} (free : g.Free) (only : p.Only Harmless) :
    (discipline d acts office).Follows exec t (fun _ g' => g' = g) p g := by
  induction p with
  | done outcome => exact rfl
  | await cmd next ih =>
      refine Discipline.Follows.andThen (p := .call cmd) ?_
      have rest : ∀ answer, (discipline d acts office).Follows exec t (fun _ g' => g' = g)
          (next answer) g :=
        fun answer => ih answer (only.2 answer)
      have ends : ∀ answer, (discipline d acts office).Follows exec t (fun _ g' => g' = g)
          (next answer) g.ended := by
        rw [free_eq_ended free]
        exact rest
      cases cmd with
      | db statement =>
          cases statement with
          | rollback => exact follows_rollback (fun _ => rest _) (ends _)
          | close => exact follows_close (ends _)
          | _ => exact follows_neutral only.1 rest
      | _ => exact follows_neutral only.1 rest

/-- A program that only reads the database, whatever it leaves in the caches. -/
def Reader : Activity → Prop
  | .operation .reconcileRedisOrphans | .getEvent _ | .getEvents .. | .getTicket .. | .getTickets ..
  | .getType _ | .getTypes .. => True
  | _ => False

theorem only_showEvent : (EventService.get d eventId).Only Harmless := by
  refine only_then trivial fun cachedData => ?_
  cases cachedData with
  | some event => trivial
  | none =>
      refine Program.Only.bind (only_then trivial fun event => ?_) fun event => ?_
      · cases event with
        | none => trivial
        | some event => exact only_then trivial fun _ => trivial
      · cases event with
        | none => trivial
        | some loaded => exact only_then trivial fun _ => trivial

theorem only_showEvents {offset limit : Int} :
    (EventService.getAll d offset limit).Only Harmless := by
  refine Program.Only.bind ?_ fun cachedKey => only_then trivial fun cachedData => ?_
  · refine only_then trivial fun versionVal => ?_
    cases versionVal with
    | none => exact only_then trivial fun _ => trivial
    | some version => trivial
  · cases cachedData with
    | some events => trivial
    | none =>
        exact Program.Only.bind (Program.Only.call trivial) fun _ => only_then trivial
          fun _ => trivial

theorem only_showTicket : (TicketService.get ownerId ticketId).Only Harmless := by
  refine only_then trivial fun ticket => ?_
  cases ticket with
  | none => trivial
  | some ticket => exact only_then trivial fun _ => trivial

theorem only_showType : (TicketTypeService.get ticketTypeId).Only Harmless := by
  refine only_then trivial fun ticketType => ?_
  cases ticketType with
  | none => trivial
  | some row => trivial

theorem only_reader {activity : Activity} (reader : Reader activity) :
    (activity.program d).Only Harmless := by
  have request : ∀ {α : Type} {p : Async α}, p.Only Harmless →
      (unit (getDb p)).Only Harmless :=
    fun h => only_unit (only_getDb trivial trivial h)
  cases activity with
  | operation op =>
      cases op with
      | reconcileRedisOrphans =>
          exact only_reconcileRedisOrphans (fun _ => trivial) trivial trivial trivial
            fun _ _ => trivial
      | _ => exact reader.elim
  | getEvent eventId => exact request only_showEvent
  | getEvents offset limit => exact request only_showEvents
  | getTicket ownerId ticketId => exact request only_showTicket
  | getTickets ownerId offset limit => exact request (only_then trivial fun _ => trivial)
  | getType ticketTypeId => exact request only_showType
  | getTypes eventId offset limit => exact request (only_then trivial fun _ => trivial)
  | _ => exact reader.elim

/-! ## All activities -/

/-- A request that has to be committed to succeed. -/
def MustCommit : Activity → Prop
  | .operation (.create ..) | .operation (.payForTicket ..) | .operation (.createType ..)
  | .createEvent _ => True
  | _ => False

/-- What an activity owes in the end: no row is locked, and if it had to be committed and has
succeeded then it is. -/
structure Settled (activity : Activity) (outcome : Except Exn Unit) (g : Pending) : Prop where
  free : g.Free
  committed : MustCommit activity → outcome = .ok () → g.committed = true

/-- A request that has to be committed. -/
theorem follows_committing {activity : Activity} {p : Async α}
    (h : (discipline d acts office).Follows exec t
      (fun outcome g' => successCommitted outcome g'.committed) p g) :
    (discipline d acts office).Follows exec t (Settled activity) (unit (getDb p)) g := by
  refine follows_unit (follows_getDb _ (fun outcome g' => successCommitted outcome g'.committed) h
    (fun _ _ holds => holds) (fun e _ _ => follows_rollback
      (fun e' => successCommitted_error e' _) (successCommitted_error e _))
    fun outcome _ holds => follows_close ⟨free_ended, fun _ success => ?_⟩)
  cases outcome with
  | ok a => exact holds a rfl
  | error e => cases success

theorem Settled.of_free {activity : Activity} {outcome : Except Exn Unit}
    (lenient : ¬ MustCommit activity) (free : g.Free) : Settled activity outcome g :=
  ⟨free, fun must => (lenient must).elim⟩

theorem follows_reader {activity : Activity} (reader : Reader activity)
    (lenient : ¬ MustCommit activity) :
    (discipline d acts office).Follows exec t (Settled activity) (activity.program d) start := by
  refine (follows_harmless ⟨rfl, rfl, rfl⟩ (only_reader reader)).mono fun _ _ same => ?_
  rw [same]
  exact .of_free lenient ⟨rfl, rfl, rfl⟩

/-- **Every activity keeps the discipline of commits.** -/
theorem follows_activity : (discipline d acts office).Follows exec t (Settled (acts t))
    ((acts t).program d)
    start := by
  cases act : acts t with
  | operation op =>
      cases op with
      | create userId ticketData => exact follows_committing (follows_create act fresh_start)
      | delete ownerId ticketId =>
          exact (follows_request (follows_delete act fresh_start)).mono fun _ _ ends =>
            .of_free not_false ends
      | payForTicket ticketId ownerId =>
          exact follows_committing (follows_payForTicket act fresh_start)
      | releaseUnpaidTicket ticketId =>
          exact (follows_releaseUnpaidTicket act fresh_start).mono fun _ _ ends =>
            .of_free not_false ends
      | reconcileHungTickets =>
          exact (follows_reconcileHungTickets act).mono fun _ _ ends => .of_free not_false ends
      | reconcileRedisOrphans =>
          exact follows_reader trivial not_false
      | createType eventId data => exact follows_committing (follows_createType act fresh_start)
      | updateType id data =>
          exact follows_unit ((follows_request (follows_updateType act fresh_start)).mono
              fun _ _ ends =>
            .of_free not_false ends)
      | deleteType id =>
          exact (follows_request (follows_deleteType act fresh_start)).mono fun _ _ ends =>
            .of_free not_false ends
  | createEvent data => exact follows_committing (follows_createEvent act fresh_start)
  | updateEvent id data =>
      exact follows_unit ((follows_request (follows_changeEvent act fresh_start)).mono
          fun _ _ ends =>
        .of_free not_false ends)
  | deleteEvent id =>
      exact (follows_request (follows_dropEvent act fresh_start)).mono fun _ _ ends =>
        .of_free not_false ends
  | getEvent _ | getEvents _ _ | getTicket _ _ | getTickets _ _ _ | getType _ | getTypes _ _ _ =>
      exact follows_reader trivial not_false

end TicketCore.CommitOrder
