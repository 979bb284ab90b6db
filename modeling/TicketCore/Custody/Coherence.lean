import TicketCore.Custody.Milestone

/-!
# Milestones keep their meaning

`coherent_step`: when one call goes from one `Milestone` to the next, every call's milestone means
for the database after it what it meant before. The calls that lock the ticket shut each other out,
and a call that has not locked it relies on nothing that a commit could change.
-/

namespace TicketCore.Custody

open Interleave RowStore

variable {ι : Type} [DecidableEq ι] {d : Deployment} {id : Int} {t u : ι} {w w' : World ι}
  {g g' : Milestone} {cmd : Cmd} {choice : Choice} {answer : Except Exn cmd.Resp}

/-! ## The other transactions -/

/-- What a call can do to the tickets: move the table without ending the transaction, or end it. -/
theorem exec_tickets (ran : exec t cmd choice w = some (answer, w')) :
    (∃ ids grows, w.db.tickets.Moves t ids grows w'.db.tickets) ∨
      w'.db.tickets = w.db.tickets.commit t ∨ w'.db.tickets = w.db.tickets.rollback t := by
  rcases exec_database ran with ⟨_, moved⟩ | same | same
  · exact .inl ⟨_, _, moved.tickets⟩
  · rw [same]
    exact .inr (.inl rfl)
  · rw [same]
    exact .inr (.inr rfl)

/-- The other transactions keep their versions. -/
theorem heldBy_other (other : u ≠ t) (ran : exec t cmd choice w = some (answer, w')) :
    w'.db.tickets.heldBy u id = w.db.tickets.heldBy u id := by
  rcases exec_tickets ran with ⟨_, _, moves⟩ | same | same
  · exact moves.heldBy_other other
  · rw [same, heldBy_commit_other other]
  · rw [same, heldBy_rollback_other other]

/-- A row that another transaction has locked is not committed by this one. -/
theorem row_other (other : u ≠ t) (ran : exec t cmd choice w = some (answer, w'))
    (held : w.db.tickets.heldBy u id ≠ none) :
    w'.db.tickets.row id = w.db.tickets.row id := by
  rcases exec_tickets ran with ⟨_, _, moves⟩ | same | same
  · rw [moves.row]
  · obtain ⟨version, held⟩ := Option.ne_none_iff_exists'.mp held
    rw [same, commit_row, read_of_not_held (heldBy_none_of_ne other.symm held)]
  · rw [same, rollback_row]

/-! ## What a step does to the ticket -/

/-- What the meaning of the milestones needs of a step. -/
structure Advance (w w' : World ι) (t : ι) (id : Int) (g' : Milestone) : Prop where
  coherent : Coherent w'.db t id g'
  landed : Landed w.db id → Landed w'.db id
  issued : w.db.tickets.issued ≤ w'.db.tickets.issued
  /-- No version comes to a ticket that is `RESERVED` no more. -/
  versions : Past w.db id → ∀ ticket, w'.db.tickets.Version id ticket →
    w.db.tickets.Version id ticket

omit [DecidableEq ι] in
theorem Past.shrink {db db' : Database ι} (h : Past db id)
    (issued : db.tickets.issued ≤ db'.tickets.issued)
    (versions : ∀ ticket, db'.tickets.Version id ticket → db.tickets.Version id ticket) :
    Past db' id :=
  h.congr issued fun ticket version => .inl (versions ticket version)

theorem Advance.past (h : Advance w w' t id g') (past : Past w.db id) : Past w'.db id :=
  past.shrink h.issued (h.versions past)

theorem Advance.of_same (same : SameTicket id w w') (coherent : Coherent w.db t id g') :
    Advance w w' t id g' where
  coherent := coherent.of_same same
  landed landed := landed.congr same.row same.held same.issued
  issued := same.issued
  versions _ _ version := (version_congr same.row same.held).mp version

/-- A call that leaves the database alone. -/
theorem Advance.of_db (same : w'.db = w.db) (coherent : Coherent w.db t id g') :
    Advance w w' t id g' := by
  refine ⟨?_, ?_, ?_, ?_⟩
  · rwa [same]
  · rw [same]
    exact fun landed => landed
  · rw [same]
  · rw [same]
    exact fun _ _ version => version

/-- A statement that locks the ticket, with a version that is not a new `RESERVED` one. -/
theorem Advance.of_hold (version : Option Ticket)
    (changed : w'.db.tickets = w.db.tickets.hold t id version)
    (read : (w.db.tickets.read t id).isSome) (unheld : w.db.tickets.row id ≠ none)
    (left : Past w.db id → ∀ ticket, version = some ticket →
      w.db.tickets.read t id = some ticket)
    (coherent : w'.db.tickets.row id = w.db.tickets.row id →
      w'.db.tickets.heldBy t id = some version → Coherent w'.db t id g') :
    Advance w w' t id g' := by
  have row : w'.db.tickets.row id = w.db.tickets.row id := by rw [changed, hold_row]
  have held : w'.db.tickets.heldBy t id = some version := by
    rw [changed, heldBy_hold_self (read_issued read)]
  have issued : w'.db.tickets.issued = w.db.tickets.issued := by rw [changed, hold_issued]
  refine ⟨coherent row held, fun landed =>
    ⟨by rw [issued]; exact landed.known, fun absent => ?_⟩,
    issued.ge, fun past ticket version' => ?_⟩
  · rw [row] at absent
    exact (unheld absent).elim
  · rw [changed] at version'
    rcases version'.of_hold with old | ⟨_, new⟩
    · exact old
    · exact version_of_read (left past ticket new)

/-- A commit. -/
theorem Advance.of_commit (changed : w'.db = w.db.commit t) (coherent : Coherent w'.db t id g') :
    Advance w w' t id g' := by
  have tickets : w'.db.tickets = w.db.tickets.commit t := by rw [changed]; rfl
  refine ⟨coherent, fun landed => ⟨?_, fun absent => ?_⟩, ?_, fun _ _ version => ?_⟩
  · rw [tickets]
    exact landed.known
  · rw [tickets] at absent ⊢
    cases lock : (w.db.tickets.commit t).held id with
    | none => rfl
    | some lock' =>
        obtain ⟨held, other⟩ := release_eq_some.mp lock
        have mine : w.db.tickets.heldBy lock'.1 id = some lock'.2 := heldBy_eq_some.mpr held
        rw [commit_row, read_of_not_held (heldBy_none_of_ne other.symm mine)] at absent
        rw [landed.free absent] at held
        cases held
  · rw [tickets, commit_issued]
  · rw [tickets] at version
    exact version.of_commit

/-- The end of a transaction without a commit. -/
theorem Advance.of_rollback (changed : w'.db = w.db.rollback t)
    (coherent : w'.db.tickets.heldBy t id = none → (Landed w.db id → Landed w'.db id) →
      (Past w.db id → Past w'.db id) → Coherent w'.db t id g') : Advance w w' t id g' := by
  have tickets : w'.db.tickets = w.db.tickets.rollback t := by rw [changed]; rfl
  have landed : Landed w.db id → Landed w'.db id := fun landed => by
    refine ⟨by rw [tickets]; exact landed.known, fun absent => ?_⟩
    rw [tickets] at absent ⊢
    cases lock : (w.db.tickets.rollback t).held id with
    | none => rfl
    | some lock' =>
        have held := (release_eq_some.mp lock).1
        rw [landed.free absent] at held
        cases held
  have issued : w.db.tickets.issued ≤ w'.db.tickets.issued := by rw [tickets, rollback_issued]
  have versions : ∀ ticket, w'.db.tickets.Version id ticket → w.db.tickets.Version id ticket :=
    fun _ version => by
      rw [tickets] at version
      exact version.of_rollback
  refine ⟨coherent ?_ landed fun past => past.shrink issued versions, landed, issued,
    fun _ => versions⟩
  rw [tickets, heldBy_rollback_self]

omit [DecidableEq ι] in
/-- What a milestone means after the end of the transaction. -/
theorem Coherent.ended {db db' : Database ι} [DecidableEq ι] (h : Coherent db t id g)
    (ends : g.ended = some g') (released : db'.tickets.heldBy t id = none)
    (past : Past db id → Past db' id) : Coherent db' t id g' := by
  cases g with
  | away | seen | unborn _ | locked _ | spoiled | listed _ | due | doomed =>
      cases ends
      exact released
  | kept ownerId =>
      cases ends
      exact ⟨released, past h.2⟩
  | _ => cases ends

/-- A commit with the ticket locked releases it. -/
theorem heldBy_of_commit (id : Int) (ran : exec t (.db .commit) choice w = some (.ok (), w')) :
    w'.db = w.db.commit t ∧ w'.db.tickets.heldBy t id = none ∧
      w'.db.tickets.row id = w.db.tickets.read t id := by
  obtain ⟨db', done, rfl⟩ := ran_db ran
  cases done
  exact ⟨rfl, heldBy_commit_self, rfl⟩

/-- A commit of a version that is not `RESERVED`: the ticket is `RESERVED` no more. -/
theorem past_of_commit {version : Option Ticket} {db : Database ι}
    (held : db.tickets.heldBy t id = some version)
    (left : ∀ ticket, version = some ticket → ticket.status ≠ .reserved) :
    Past (db.commit t) id where
  known := db.tickets.held_issued id (held_isSome (heldBy_eq_some.mp held))
  left ticket version' := by
    rcases version' with row | ⟨u, lock⟩
    · have row : db.tickets.read t id = some ticket := row
      rw [read_of_heldBy held] at row
      exact left ticket row
    · obtain ⟨lock, other⟩ := release_eq_some.mp lock
      rw [heldBy_eq_some.mp held] at lock
      cases lock
      exact (other rfl).elim

omit [DecidableEq ι] in
theorem withStatus_left {ticket : Ticket} {status : TicketStatus} (left : status ≠ .reserved) :
    ∀ ticket', some (ticket.withStatus status) = some ticket' →
      ticket'.status ≠ .reserved := by
  rintro _ ⟨⟩
  exact left

/-- A changed status, of a ticket that is locked and `RESERVED`. -/
theorem advance_updateTicketStatus {ticket : Ticket} {status : TicketStatus}
    (h : Reserved w.db t id ticket (some ticket))
    (ran : exec t (.db (.updateTicketStatus id status)) choice w = some (.ok (), w'))
    (coherent : Reserved w'.db t id ticket (some (ticket.withStatus status)) →
      Coherent w'.db t id g') : Advance w w' t id g' := by
  have read : w.db.tickets.read t id = some ticket := read_of_heldBy h.version
  obtain ⟨db', done, rfl⟩ := ran_db ran
  rcases DbCmd.run_updateTicketStatus done with
    ⟨failed, _⟩ | ⟨ticket', read', _, _, changed⟩
  · cases failed
  · rw [read] at read'
    cases read'
    have tickets : db'.tickets = w.db.tickets.hold t id (some (ticket.withStatus status)) := by
      rw [changed]
      rfl
    refine .of_hold _ tickets (by rw [read]; rfl) (by rw [h.row]; nofun)
      (fun past => (past.left ticket (.inl h.row) h.reserved).elim) fun row held => ?_
    exact coherent ⟨h.reserved, row.trans h.row, held⟩

/-- **A step advances the call, and takes nothing from the others.** -/
theorem Step.advance (step : Step d id g cmd answer g') (h : Coherent w.db t id g)
    (ran : exec t cmd choice w = some (answer, w')) : Advance w w' t id g' := by
  cases step with
  | apart apart other _ =>
      exact .of_same (apart.same (fun a same => by cases same; exact other) ran) h
  | fail _ => exact .of_same (.of_raised ran) h.failed
  | rolled ends | closed ends =>
      obtain ⟨db', done, rfl⟩ := ran_db ran
      cases done
      exact .of_rollback rfl fun released _ past => h.ended ends released past
  | rest | cancel | reap | book =>
      obtain ⟨changed, released, _⟩ := heldBy_of_commit id ran
      exact .of_commit changed released
  | @insert ownerId ticketTypeId =>
      obtain ⟨db', done, rfl⟩ := ran_db ran
      rcases DbCmd.run_insertTicket done with
        ⟨_, failed, _⟩ | ⟨_, failed, _⟩ | ⟨_, _, new, changed⟩
      · cases failed
      · cases failed
      · have next : id = w.db.tickets.next := Except.ok.inj new
        subst next
        rw [changed]
        have late : ¬ w.db.tickets.next ≤ w.db.tickets.issued := by
          unfold RowStore.next
          omega
        refine ⟨⟨?_, ⟨ticketTypeId, ownerId, .reserved, choice.clock⟩, ?_, rfl⟩,
          fun landed => (late landed.known.2).elim, ?_, fun past => (late past.known.2).elim⟩
        · show (RowStore.insert ..).row _ = none
          rw [insert_row, row_next]
        · exact heldBy_eq_some.mpr (by
            show (RowStore.insert ..).held _ = _
            rw [insert_held, Function.update_self])
        · have grown : ∀ r, Moves t (fun _ => False) True w.db.tickets
              (w.db.tickets.insert t r) :=
            fun r => .insert r trivial
          exact (grown _).issued
  | stamp | suspect _ =>
      have same := ran_of_ok ran
      cases same
      exact .of_db rfl h
  | enter | keep | refund reserved | credit | list | collect =>
      refine .of_db (db_of_redis ran) ?_
      first | exact h | exact ⟨reserved, h.1, h.2⟩
  | clear => exact .of_db (db_of_redis ran) h.1
  | see =>
      obtain ⟨db', done, rfl⟩ := ran_db ran
      obtain ⟨same, rfl⟩ := DbCmd.run_selectTicket done
      have read := (DbCmd.selectTicket_some (Except.ok.inj same).symm).1
      rw [read_of_not_held h] at read
      refine .of_db rfl ⟨h, w.db.tickets.row_issued id (by rw [read]; rfl), fun absent => ?_⟩
      rw [read] at absent
      cases absent
  | @lock ownerId ticket =>
      obtain ⟨db', done, rfl⟩ := ran_db ran
      rcases DbCmd.run_selectTicketForUpdate done with
        ⟨failed, _⟩ | ⟨ticket', read, _, same, changed⟩
      · cases failed
      · cases same
        have row := read
        rw [read_of_not_held h] at row
        refine .of_hold (some ticket) (by rw [changed]) (by rw [read]; rfl)
          (by rw [row]; nofun) (fun _ _ same => by rw [read, same]) fun row' held => ?_
        exact ⟨row'.trans row, held⟩
  | miss =>
      obtain ⟨db', done, rfl⟩ := ran_db ran
      rcases DbCmd.run_selectTicketForUpdate done with ⟨_, same⟩ | ⟨_, _, _, failed, _⟩
      · exact .of_db same h
      · cases failed
  | settle =>
      exact advance_updateTicketStatus h ran fun settled => settled
  | pay reserved =>
      exact advance_updateTicketStatus ⟨reserved, h.1, h.2⟩ ran fun paying => paying
  | sell =>
      obtain ⟨changed, released, _⟩ := heldBy_of_commit id ran
      refine .of_commit changed ⟨released, ?_⟩
      rw [changed]
      exact past_of_commit h.version (withStatus_left nofun)
  | remove =>
      obtain ⟨db', done, rfl⟩ := ran_db ran
      rcases DbCmd.run_deleteTicket done with ⟨absent, _, same⟩ | ⟨read, _, _, changed⟩
      · rw [read_of_not_held h.1] at absent
        refine .of_db same (.inr ⟨h.1, h.2.known, fun ticket version => ?_⟩)
        rcases version with row | ⟨u, held⟩
        · rw [absent] at row
          cases row
        · rw [h.2.free absent] at held
          cases held
      · have row := read
        rw [read_of_not_held h.1, Option.isSome_iff_ne_none] at row
        exact .of_hold none (by rw [changed]) read row (fun _ => nofun)
          fun _ held => .inl held
  | vanish =>
      obtain ⟨changed, released, _⟩ := heldBy_of_commit id ran
      rcases h with held | ⟨_, past⟩
      · refine .of_commit changed ⟨released, ?_⟩
        rw [changed]
        exact past_of_commit held nofun
      · have advance : Advance w w' t id .away := .of_commit changed released
        exact .of_commit changed ⟨released, advance.past past⟩
  | @sweep threshold ticketTypeId =>
      obtain ⟨db', done, rfl⟩ := ran_db ran
      rcases DbCmd.run_cancelHungTicket done with
        ⟨failed, _⟩ | ⟨ticket, read, _, hung, same, changed⟩
      · cases failed
      · cases same
        have row := read
        rw [read_of_not_held h] at row
        refine .of_hold (some (ticket.withStatus .canceled)) (by rw [changed]; rfl)
          (by rw [read]; rfl) (by rw [row]; nofun)
          (fun past => (past.left ticket (.inl row) hung.1).elim) fun row' held => ?_
        exact ⟨ticket, rfl, hung.1, row'.trans row, held⟩
  | pass =>
      obtain ⟨db', done, rfl⟩ := ran_db ran
      rcases DbCmd.run_cancelHungTicket done with ⟨_, same⟩ | ⟨_, _, _, _, failed, _⟩
      · exact .of_db same h
      · cases failed
  | judge _ _ =>
      obtain ⟨db', done, rfl⟩ := ran_db ran
      cases done
      exact .of_db rfl h

/-- **The milestones of all calls keep their meaning.** -/
theorem coherent_step {ghost : ι → Milestone} (step : Step d id (ghost t) cmd answer g')
    (h : ∀ u, Coherent w.db u id (ghost u)) (ran : exec t cmd choice w = some (answer, w')) :
    ∀ u, Coherent w'.db u id (Function.update ghost t g' u) := by
  have advance := step.advance (h t) ran
  refine (Function.forall_update_iff ghost fun u g => Coherent w'.db u id g).mpr
    ⟨advance.coherent, fun u other => ?_⟩
  exact (h u).congr (row_other other ran) (heldBy_other other ran) advance.landed advance.past

end TicketCore.Custody
