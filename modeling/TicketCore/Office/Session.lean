import TicketCore.Listings
import TicketCore.Office.Caches
import TicketCore.Reconcile.Mirror

/-!
# Requests without company

A call that runs alone, with no call that fails, against what the office does for it. `Mirrored`
holds between two calls: no transaction is open, and Redis says what the tables hold.

* `Working` is a transaction under way: it began in one world, has the tables to itself, and sees an
  office that its statements have changed. There is a lemma for each statement.
* `Served` is the end of a call: what Redis says is right again, and outcome and tables are the
  office's.
-/

namespace TicketCore

open Interleave RowStore

variable {ι : Type}

/-- The call has not failed. -/
def Unfailing (e : CallEvent ι) : Prop := e.choice.fault = none

instance (e : CallEvent ι) : Decidable (Unfailing e) := inferInstanceAs (Decidable (_ = _))

theorem unfailing_clean (e : CallEvent ι) (ok : Unfailing e) : e.choice.fault = none := ok

theorem works_unfailing (cmd : Cmd) : Works (Unfailing : CallEvent ι → Prop) cmd :=
  fun _ ok _ => ok

/-- The committed tables. -/
def Database.office (db : Database ι) : Office :=
  ⟨db.ticketTypes.row, db.tickets.row, db.events.row, db.users⟩

variable [DecidableEq ι]

/-- The tables as a transaction sees them. -/
def Database.seen (db : Database ι) (t : ι) : Office :=
  ⟨db.ticketTypes.read t, db.tickets.read t, db.events.read t, db.users⟩

variable {d : Deployment} {t : ι} {w₀ w w' : World ι} {db db' : Database ι}
  {office office' : Office} {id : Int}

theorem seen_of_calm (calm : db.Calm) : db.seen t = db.office := by
  unfold Database.seen Database.office
  rw [read_calm calm.quiet.1, read_calm calm.quiet.2, read_calm calm.events]

theorem seen_commit : (db.commit t).seen t = db.seen t := by
  unfold Database.seen
  show Office.mk ((db.ticketTypes.commit t).read t) ((db.tickets.commit t).read t)
    ((db.events.commit t).read t) db.users = _
  rw [read_commit, read_commit, read_commit]

theorem seen_holdTicket {version : Option Ticket} (read : (db.tickets.read t id).isSome) :
    ({ db with tickets := db.tickets.hold t id version } : Database ι).seen t =
      (db.seen t).setTicket id version := by
  unfold Database.seen Office.setTicket
  rw [read_hold (read_issued read)]

theorem seen_holdType {version : Option TicketType} (read : (db.ticketTypes.read t id).isSome) :
    ({ db with ticketTypes := db.ticketTypes.hold t id version } : Database ι).seen t =
      (db.seen t).setType id version := by
  unfold Database.seen Office.setType
  rw [read_hold (read_issued read)]

theorem seen_holdEvent {version : Option Event} (read : (db.events.read t id).isSome) :
    ({ db with events := db.events.hold t id version } : Database ι).seen t =
      (db.seen t).setEvent id version := by
  unfold Database.seen Office.setEvent
  rw [read_hold (read_issued read)]

/-- Between two calls: no transaction is open, and Redis says what the tables hold. -/
structure Mirrored (d : Deployment) (w : World ι) : Prop where
  calm : w.db.Calm
  mirrors : Mirrors w.db.ticketTypes.row w.db.tickets.row w.db.tickets.issued (w.redis d.apiRedis)
  caches : w.db.office.Caches (w.redis d.apiRedis)

omit [DecidableEq ι] in
/-- With nothing in Redis, nothing in it is wrong. -/
theorem mirrored_of_empty (calm : w.db.Calm) (empty : w.redis d.apiRedis = .empty) :
    Mirrored d w where
  calm := calm
  mirrors := by
    rw [empty]
    refine ⟨fun id k counter => ?_, fun id mem => ?_, fun entry mem => ?_⟩
    · cases counter
    · exact (Finset.notMem_empty _ mem).elim
    · exact (List.not_mem_nil mem).elim
  caches := by
    rw [empty]
    exact .of_empty (fun _ => rfl) fun _ => rfl

/-- The end of a call that began in `w`. -/
structure Done {α : Type} (d : Deployment) (w : World ι) (result : Except Exn (α × Office))
    (outcome : Except Exn α) (w' : World ι) : Prop where
  mirrored : Mirrored d w'
  gives : w.db.office.Gives result outcome w'.db.office

/-- The end of a call, once its session is closed. -/
def Served {α : Type} (d : Deployment) (t : ι) (w : World ι) (result : Except Exn (α × Office))
    (outcome : Except Exn α) (w' : World ι) : Prop :=
  Done d w result outcome { w' with db := w'.db.rollback t }

theorem Served.of_db {α : Type} {result : Except Exn (α × Office)} {outcome : Except Exn α}
    {w₁ : World ι} (h : Served d t w₁ result outcome w') (same : w₁.db = w.db) :
    Served d t w result outcome w' :=
  ⟨h.mirrored, same ▸ h.gives⟩

/-- Transaction `t` began in `w₀`, and has come to see this office. -/
structure Working (t : ι) (w₀ : World ι) (office : Office) (w : World ι) : Prop where
  opened : Uncommitted t w₀.db w.db
  seen : w.db.seen t = office
  redis : w.redis = w₀.redis

namespace Working

theorem start (calm : w.db.Calm) : Working t w w.db.office w :=
  ⟨.start calm, seen_of_calm calm, rfl⟩

theorem next {clock : Int} {rows : List Int} {statement : DbCmd}
    {answer : Except Exn statement.Resp}
    (h : Working t w₀ office w) (ran : statement.run t clock rows w.db = some (answer, db'))
    (goes : ¬ statement.Ends) (seen : db'.seen t = office') :
    Working t w₀ office' { w with db := db' } :=
  ⟨h.opened.next ran goes, seen, h.redis⟩

/-- Redis may change meanwhile. -/
theorem rebase (h : Working t w₀ office w) (redis : Nat → RedisDb) :
    Working t { w₀ with redis := redis } office { w with redis := redis } :=
  ⟨h.opened, h.seen, rfl⟩

theorem ticket (h : Working t w₀ office w) : w.db.tickets.read t = office.tickets :=
  congrArg Office.tickets h.seen

theorem ticketType (h : Working t w₀ office w) : w.db.ticketTypes.read t = office.types :=
  congrArg Office.types h.seen

theorem event (h : Working t w₀ office w) : w.db.events.read t = office.events :=
  congrArg Office.events h.seen

theorem users (h : Working t w₀ office w) : w.db.users = office.users :=
  congrArg Office.users h.seen

/-- Nothing is committed. -/
theorem office_eq (h : Working t w₀ office w) : w.db.office = w₀.db.office := by
  unfold Database.office
  rw [h.opened.tickets, h.opened.ticketTypes, h.opened.events, h.opened.users]

/-- What is given up leaves what was. -/
theorem abandoned (h : Working t w₀ office w) (before : Mirrored d w₀) :
    Mirrored d { w with db := w.db.rollback t } where
  calm := h.opened.rollback
  mirrors := by
    show Mirrors w.db.ticketTypes.row w.db.tickets.row w.db.tickets.issued _
    rw [h.opened.ticketTypes, h.opened.tickets, h.redis]
    exact before.mirrors.grow h.opened.issued
  caches := by
    show w.db.office.Caches _
    rw [h.office_eq, h.redis]
    exact before.caches

/-- A call that is refused. -/
theorem refused {α : Type} {result : Except Exn (α × Office)} {e : Exn}
    (h : Working t w₀ office w) (before : Mirrored d w₀) (expected : result = .error e) :
    Served d t w₀ result (.error e) w where
  mirrored := h.abandoned before
  gives := by
    show w₀.db.office.Gives _ _ w.db.office
    rw [h.office_eq, expected]
    exact .refused

/-- A call that only reads. -/
theorem answered {α : Type} {result : Except Exn (α × Office)} {a : α}
    (h : Working t w₀ office w)
    (before : Mirrored d w₀) (expected : result = .ok (a, w₀.db.office)) :
    Served d t w₀ result (.ok a) w where
  mirrored := h.abandoned before
  gives := by
    show w₀.db.office.Gives _ _ w.db.office
    rw [h.office_eq, expected]
    exact .answered

/-- What the transaction sees is committed, and Redis is brought up to date. -/
theorem committed (h : Working t w₀ office w) (same : w'.db = w.db.commit t)
    (mirrors : Mirrors office.types office.tickets w.db.tickets.issued (w'.redis d.apiRedis))
    (caches : office.Caches (w'.redis d.apiRedis)) : Mirrored d w' where
  calm := by
    rw [same]
    exact h.opened.commit
  mirrors := by
    rw [same, ← h.seen] at *
    exact mirrors
  caches := by
    rw [same, ← h.seen] at *
    exact caches

/-- The office after a commit. -/
theorem office_commit (h : Working t w₀ office w) (same : w'.db = w.db.commit t) :
    w'.db.office = office := by
  rw [same, ← h.seen]
  rfl

/-- A commit, and what Redis says after it. -/
theorem served {α : Type} {result : Except Exn (α × Office)} {a : α}
    (h : Working t w₀ office w)
    (expected : result = .ok (a, office)) (same : w'.db = w.db.commit t)
    (mirrored : Mirrored d w') :
    Served d t w₀ result (.ok a) w' := by
  unfold Served
  rw [mirrored.calm.rollback]
  refine ⟨mirrored, ?_⟩
  rw [h.office_commit same, expected]
  exact .answered

end Working

/-! ## Statements -/

section Statements

variable {ownerId ticketTypeId delta : Int}

/-- The count of a type moves. -/
theorem ensures_count (h : Working t w₀ office w) :
    (sql (.addTicketsSold ticketTypeId delta)).Ensures exec t Unfailing
      (Program.Then (fun _ w' => ∃ office', office.count ticketTypeId delta = .ok office' ∧
          Working t w₀ office' w')
        fun e w' => office.count ticketTypeId delta = .error e ∧ Working t w₀ office w') w := by
  refine ensures_sql unfailing_clean fun _ _ answer db' ran => ?_
  have types := congrFun h.ticketType ticketTypeId
  unfold Office.count
  rcases DbCmd.run_addTicketsSold ran with
    ⟨absent, rfl, rfl⟩ |
      ⟨row, read, _, ⟨row', changed, rfl, rfl⟩ | ⟨violated, refused, rfl, rfl⟩⟩
  · rw [← types, absent]
    exact ⟨office, rfl, h⟩
  · rw [← types, read]
    dsimp only
    rw [changed]
    refine ⟨_, rfl, h.next ran not_false ?_⟩
    rw [seen_holdType (by rw [read]; rfl), h.seen]
  · rw [← types, read]
    dsimp only
    rw [refused]
    exact ⟨rfl, h⟩

/-- The `WHERE` on the owner. -/
theorem filter_matchesOwner {version : Option Ticket} :
    (version.filter fun ticket => Database.matchesOwner ticket (some ownerId)) =
      version.filter fun ticket => ticket.ownerId = ownerId := by
  congr 1
  funext ticket
  exact decide_eq_decide.mpr
    ⟨fun owned => owned ownerId rfl, fun owned _ mem => by cases mem; exact owned⟩

theorem filter_matchesAny {version : Option Ticket} :
    version.filter (fun ticket => Database.matchesOwner ticket none) = version := by
  have any : ∀ ticket : Ticket, Database.matchesOwner ticket none := fun _ _ mem => by cases mem
  cases version with
  | none => rfl
  | some ticket => rw [Option.filter_some, if_pos (decide_eq_true (any ticket))]

/-- A plain `SELECT` of one ticket. -/
theorem ensures_selectTicket (h : Working t w₀ office w)
    {post : Except Exn (Option Ticket) → World ι → Prop}
    (next : post (.ok (office.ticketOf ownerId id)) w) :
    (sql (.selectTicket id ownerId)).Ensures exec t Unfailing post w := by
  refine ensures_sql unfailing_clean fun _ _ answer db' ran => ?_
  obtain ⟨rfl, rfl⟩ := DbCmd.run_selectTicket ran
  have found : w.db.selectTicket t id ownerId = office.ticketOf ownerId id := by
    unfold Database.selectTicket Office.ticketOf
    rw [h.ticket, filter_matchesOwner]
  rw [found]
  exact next

/-- `SELECT ... FOR UPDATE` finds the ticket of the owner, if one is asked for. -/
theorem ensures_selectTicketForUpdate (h : Working t w₀ office w) (ownerId : Option Int)
    {post : Except Exn (Option Ticket) → World ι → Prop}
    (next : ∀ w', Working t w₀ office w' →
      post (.ok ((office.tickets id).filter fun ticket => Database.matchesOwner ticket ownerId))
        w') :
    (sql (.selectTicketForUpdate id ownerId)).Ensures exec t Unfailing post w := by
  refine ensures_sql unfailing_clean fun clock rows answer db' ran => ?_
  have here := congrFun h.ticket id
  have ran' := ran
  simp only [DbCmd.run, Database.selectTicketForUpdate] at ran'
  split at ran'
  · rename_i absent
    cases ran'
    have none := next w h
    rw [← here, absent] at none
    exact none
  · rename_i ticket read
    split at ran'
    · rename_i other
      cases ran'
      have none := next w h
      rw [← here, read, Option.filter_some, if_neg (by simpa using other)] at none
      exact none
    · rename_i owned
      rw [not_not] at owned
      split at ran'
      · cases ran'
        have same : ({ w.db with tickets := w.db.tickets.hold t id (some ticket) } :
            Database ι).seen t =
            office := by
          rw [seen_holdTicket (by rw [read]; rfl), h.seen]
          unfold Office.setTicket
          rw [← read, here, Function.update_eq_self]
        have some := next _ (h.next ran not_false same)
        rw [← here, read, Option.filter_some, if_pos (decide_eq_true owned)] at some
        exact some
      · cases ran'

/-- The status of a ticket that is there is changed. -/
theorem ensures_updateTicketStatus {ticket : Ticket} {status : TicketStatus}
    (h : Working t w₀ office w) (stored : office.tickets id = some ticket)
    {post : Except Exn Unit → World ι → Prop}
    (next : ∀ w', Working t w₀ (office.setTicket id (some (ticket.withStatus status))) w' →
      post (.ok ()) w') :
    (sql (.updateTicketStatus id status)).Ensures exec t Unfailing post w := by
  refine ensures_sql unfailing_clean fun _ _ answer db' ran => ?_
  have here := congrFun h.ticket id
  rw [stored] at here
  rcases DbCmd.run_updateTicketStatus ran with ⟨rfl, rfl⟩ | ⟨ticket', read, _, rfl, rfl⟩
  · simp only [DbCmd.run, Database.updateTicketStatus, here] at ran
    split at ran
    · cases ran
    · cases ran
  · rw [here] at read
    cases read
    refine next _ (h.next ran not_false ?_)
    rw [seen_holdTicket (by rw [here]; rfl), h.seen]
    rfl

/-- A ticket that is there is deleted. -/
theorem ensures_deleteTicket {ticket : Ticket} (h : Working t w₀ office w)
    (stored : office.tickets id = some ticket) {post : Except Exn Unit → World ι → Prop}
    (next : ∀ w', Working t w₀ (office.setTicket id none) w' → post (.ok ()) w') :
    (sql (.deleteTicket id)).Ensures exec t Unfailing post w := by
  refine ensures_sql unfailing_clean fun _ _ answer db' ran => ?_
  have here := congrFun h.ticket id
  rw [stored] at here
  rcases DbCmd.run_deleteTicket ran with ⟨absent, _⟩ | ⟨read, _, rfl, rfl⟩
  · rw [here] at absent
    cases absent
  · refine next _ (h.next ran not_false ?_)
    rw [seen_holdTicket read, h.seen]

/-- A ticket is inserted under a new id, if its type and its owner are there. -/
theorem ensures_insertTicket {row : TicketType} (h : Working t w₀ office w)
    (stored : office.types ticketTypeId = some row) :
    (sql (.insertTicket ownerId ticketTypeId)).Ensures exec t Unfailing
      (Program.Then (fun id w' => ownerId ∈ office.users ∧ office.tickets id = none ∧
          (w₀.db.tickets.issued < id ∧ id ≤ w'.db.tickets.issued) ∧
          ∃ clock, Working t w₀ (office.setTicket id
            (some ⟨ticketTypeId, ownerId, .reserved, clock⟩)) w')
        fun e w' => e = .integrity .fkOwner ∧ ownerId ∉ office.users ∧
        Working t w₀ office w') w := by
  refine ensures_sql unfailing_clean fun clock _ answer db' ran => ?_
  have issued := h.opened.issued
  have unread : w.db.tickets.read t w.db.tickets.next = none := by
    rw [read_of_not_held heldBy_next, row_next]
  rcases DbCmd.run_insertTicket ran with
    ⟨absent, _⟩ | ⟨stranger, rfl, rfl⟩ | ⟨_, user, rfl, rfl⟩
  · rw [h.ticketType, stored] at absent
    cases absent
  · rw [h.users] at stranger
    exact ⟨rfl, stranger, h.next ran not_false h.seen⟩
  · rw [h.users] at user
    refine ⟨user, by rw [← h.ticket, unread], ⟨?_, ?_⟩, clock, h.next ran not_false ?_⟩
    · unfold RowStore.next
      omega
    · unfold RowStore.insert
      rw [hold_issued]
      exact next_known.2
    · rw [← h.seen]
      unfold Database.seen Office.setTicket
      rw [read_insert]

/-- `db.refresh` of a ticket that is there. -/
theorem ensures_refreshTicket {ticket : Ticket} (there : (w.db.seen t).tickets id = some ticket)
    {post : Except Exn Ticket → World ι → Prop} (next : post (.ok ticket) w) :
    (sql (.refreshTicket id)).Ensures exec t Unfailing post w := by
  refine ensures_sql unfailing_clean fun _ _ answer db' ran => ?_
  obtain ⟨rfl, ⟨absent, _⟩ | ⟨found, read, rfl⟩⟩ := DbCmd.run_refreshTicket ran
  · cases there.symm.trans absent
  · cases there.symm.trans read
    exact next

theorem ensures_refreshTicketType {row : TicketType} (there : (w.db.seen t).types id = some row)
    {post : Except Exn TicketType → World ι → Prop} (next : post (.ok row) w) :
    (sql (.refreshTicketType id)).Ensures exec t Unfailing post w := by
  refine ensures_sql unfailing_clean fun _ _ answer db' ran => ?_
  obtain ⟨rfl, ⟨absent, _⟩ | ⟨found, read, rfl⟩⟩ := DbCmd.run_refreshTicketType ran
  · cases there.symm.trans absent
  · cases there.symm.trans read
    exact next

theorem ensures_getTicketType (h : Working t w₀ office w)
    {post : Except Exn (Option TicketType) → World ι → Prop}
    (next : post (.ok (office.types id)) w) :
    (sql (.getTicketType id)).Ensures exec t Unfailing post w := by
  refine ensures_sql unfailing_clean fun _ _ answer db' ran => ?_
  obtain ⟨rfl, rfl⟩ := DbCmd.run_getTicketType ran
  rw [h.ticketType]
  exact next

end Statements

/-! ## What is shown -/

section Shown

variable {Row : Type} {s : RowStore ι Row} {p : Row → Bool}

/-- The rows of a query are enumerated in some order. -/
theorem enumerates_scan (order : List Int) :
    Enumerates (s.read t) p (arrange order (Database.idsSeen s t p)) := by
  have perm := arrange_perm order (Database.idsSeen s t p)
  refine ⟨perm.nodup_iff.mpr nodup_idsSeen, fun id => ?_⟩
  rw [perm.mem_iff]
  unfold Database.idsSeen
  rw [List.mem_filter]
  refine ⟨And.right, fun seen => ⟨?_, seen⟩⟩
  obtain ⟨row, read, _⟩ := (Option.any_eq_true _ _).mp seen
  have known : 1 ≤ id ∧ id ≤ s.issued := read_issued (by rw [read]; rfl)
  exact List.mem_map.mpr ⟨(id - 1).toNat, List.mem_range.mpr (by omega), by omega⟩

theorem map_rowsAt {α : Type} {ids : List Int} (f : Int × Row → α) :
    (Database.rowsAt s t ids).map f = ids.filterMap fun id => (s.read t id).map fun row =>
      f (id, row) := by
  unfold Database.rowsAt
  rw [List.map_filterMap]
  simp only [Option.map_map, Function.comp_def]

end Shown

/-! ## The end of a session -/

section Ends

variable {α : Type} {result : Except Exn (α × Office)}

/-- The exception is raised again, once the transaction is rolled back. -/
theorem ensures_reraise {β : Type} {e : Exn} (h : Served d t w₀ result (.error e) w) :
    (rollbackOnSQLAlchemyError e : Async β).Ensures exec t Unfailing
      (Program.Then (fun _ _ => False) fun e w' => Served d t w₀ result (.error e) w') w := by
  unfold rollbackOnSQLAlchemyError
  split
  · refine Program.Ensures.bind (ensures_sql unfailing_clean ?_)
    rintro _ _ _ _ ⟨⟩
    show Done d w₀ result _ { w with db := (w.db.rollback t).rollback t }
    rw [rollback_rollback]
    exact h
  · exact h

theorem ensures_rollback {e : Exn} (h : Served d t w₀ result (.error e) w) :
    (rollbackOnSQLAlchemyError e : Async α).Ensures exec t Unfailing
      (Served d t w₀ result) w := by
  refine (ensures_reraise h).mono ?_
  rintro (e | _) w' ends
  · exact ends
  · exact ends.elim

end Ends

end TicketCore
