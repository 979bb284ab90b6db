import TicketCore.Sale.Invariant

/-!
# The calls of a booking in a flash sale

How each call of `TicketService.create` moves a booking from one `Phase` to the next, when no call
fails but by the `CHECK` of the table.
-/

namespace TicketCore.Sale

open Interleave RowStore

variable {ι : Type} [Fintype ι] [DecidableEq ι] {sale : Sale} {t : ι} {g : Phase}

/-- The discipline of a flash sale: no call fails. -/
def discipline (ι : Type) [Fintype ι] [DecidableEq ι] (sale : Sale) :
    Discipline ι (World ι) Cmd Cmd.Resp Exn Choice Phase where
  guard e := e.choice.fault = none
  inv := sale.Inv

theorem follows_call {cmd : Cmd} {post : Except Exn cmd.Resp → Phase → Prop}
    (run : ∀ events w ghost choice answer w', sale.Inv events w ghost → ghost t = g →
      cmd.run t choice w = some (answer, w') →
      ∃ g', sale.Inv (events ++ [⟨t, cmd, choice, answer, w, w'⟩]) w'
        (Function.update ghost t g') ∧
        post answer g') :
    (sale.discipline ι).Follows exec t post (.call cmd) g := by
  refine Discipline.Follows.call fun events w ghost choice answer w' inv own ran clean => ?_
  have clean : choice.fault = none := clean
  rcases exec_cases ran with ⟨e, raised, _⟩ | ran
  · rw [clean] at raised
    cases raised
  · exact run events w ghost choice answer w' inv own ran

/-! ## The counter -/

omit [Fintype ι] [DecidableEq ι] in
theorem counter_redis {w w' : World ι} {r : RedisDb}
    (changed : w' = { w with redis := Function.update w.redis sale.deployment.apiRedis r }) :
    sale.counter w' = r.inventory sale.ticketTypeId := by
  subst changed
  show (Function.update w.redis sale.deployment.apiRedis r sale.deployment.apiRedis).inventory _ = _
  rw [Function.update_self]

/-- `reserve_script`, of a booking that holds nothing yet. -/
theorem follows_evalReserve {post : Except Exn Int → Phase → Prop}
    (fresh : g = .start ∨ g = .warmed) (missing : g = .start → post (.ok (-1)) .start)
    (reserved : post (.ok 1) .reserved) (soldOut : post (.ok 0) .lost) :
    (sale.discipline ι).Follows exec t post
      (redis sale.deployment.apiRedis (.evalReserve sale.ticketTypeId)) g := by
  refine follows_call fun events w ghost choice answer w' inv own ran => ?_
  obtain ⟨result, r, done, rfl, changed⟩ := Cmd.run_redis ran
  have counter' := counter_redis changed
  have same : w'.db = w.db := by rw [changed]
  have free : g.tickets = Locks.none ∧ g.types sale.ticketTypeId = Locks.none ∧ g.won = 0 ∧
      g.inflight = 0 := by
    rcases fresh with rfl | rfl
    · exact ⟨rfl, rfl, rfl, rfl⟩
    · exact ⟨rfl, rfl, rfl, rfl⟩
  obtain ⟨tickets, types, won, inflight⟩ := free
  have done : (w.redis sale.deployment.apiRedis).reserveScript sale.ticketTypeId = (result, r) :=
    Option.some.inj done
  unfold RedisDb.reserveScript at done
  split at done
  · rename_i absent
    cases done
    rcases fresh with rfl | rfl
    · exact ⟨.start, inv.stutter own same counter', missing rfl⟩
    · have key := inv.known t
      rw [own] at key
      have key : (sale.counter w).isSome := key
      unfold Sale.counter at key
      rw [absent] at key
      cases key
  · rename_i current found
    have counter : sale.counter w = some current := found
    obtain ⟨nonneg, enough⟩ := inv.counted current counter
    split at done
    · rename_i positive
      cases done
      have now : sale.counter w' = some (current - 1) := by
        rw [counter']
        exact Function.update_self ..
      have taken : sale.taken (Function.update ghost t .reserved) = sale.taken ghost + 1 := by
        rw [taken_update, own, won, inflight]
        rfl
      refine ⟨.reserved, inv.redis own same tickets.symm types.symm won.symm (by rw [now]; simp)
        trivial ?_ ?_, reserved⟩
      · intro k value
        rw [now] at value
        cases value
        rw [taken]
        omega
      · rw [taken]
        rintro (⟨u, turned⟩ | turned)
        · have := inv.lost u turned
          omega
        · exact turned.elim
    · rename_i empty
      cases done
      have now : sale.counter w' = some current := by rw [counter', found]
      have taken : sale.taken (Function.update ghost t .lost) = sale.taken ghost := by
        rw [taken_update, own, won, inflight]
        exact add_zero _
      refine ⟨.lost, inv.redis own same tickets.symm types.symm won.symm (by rw [now]; simp)
        trivial ?_ ?_, soldOut⟩
      · intro k value
        rw [now] at value
        cases value
        rw [taken]
        exact ⟨nonneg, enough⟩
      · intro _
        rw [taken]
        omega

/-- `SET` of the counter to what was read from the database. -/
theorem follows_setInventory {left : Int} {post : Except Exn Unit → Phase → Prop}
    (filled : post (.ok ()) .warmed) :
    (sale.discipline ι).Follows exec t post
      (redis sale.deployment.apiRedis (.setInventory sale.ticketTypeId left)) (.read left) := by
  refine follows_call fun events w ghost choice answer w' inv own ran => ?_
  obtain ⟨result, r, done, rfl, changed⟩ := Cmd.run_redis ran
  cases done
  have now : sale.counter w' = some left := by
    rw [counter_redis changed]
    exact Function.update_self ..
  have taken : sale.taken (Function.update ghost t .warmed) = sale.taken ghost := by
    rw [taken_update, own]
    exact add_zero _
  have known := inv.known t
  rw [own] at known
  have under : sale.soldNow ghost ≤ sale.taken ghost := soldNow_le_taken
  refine ⟨.warmed, inv.redis own (by rw [changed]) rfl rfl rfl (fun _ => by rw [now]; rfl)
    (by show (sale.counter w').isSome; rw [now]; rfl) ?_ ?_, filled⟩
  · intro k value
    rw [now] at value
    cases value
    rw [taken]
    exact ⟨known.1, known.2.trans (by omega)⟩
  · rw [taken]
    rintro (⟨u, turned⟩ | turned)
    · exact inv.lost u turned
    · exact turned.elim

/-- The slot of a booking that the `CHECK` has turned away is given back. -/
theorem follows_incrInventory {post : Except Exn Unit → Phase → Prop}
    (given : post (.ok ()) .lost) :
    (sale.discipline ι).Follows exec t post
      (redis sale.deployment.apiRedis (.incrInventory sale.ticketTypeId)) .failing := by
  refine follows_call fun events w ghost choice answer w' inv own ran => ?_
  obtain ⟨result, r, done, rfl, changed⟩ := Cmd.run_redis ran
  cases done
  have now : sale.counter w' = some ((sale.counter w).getD 0 + 1) := by
    rw [counter_redis changed]
    exact Function.update_self ..
  have taken : sale.taken (Function.update ghost t .lost) = sale.taken ghost := by
    rw [taken_update, own]
    exact add_zero _
  have full : sale.quantity ≤ sale.taken ghost := inv.lost t (by rw [own]; trivial)
  refine ⟨.lost, inv.redis own (by rw [changed]) rfl rfl rfl (fun _ => by rw [now]; rfl)
    trivial ?_ fun _ => by rw [taken]; exact full, given⟩
  intro k value
  rw [now] at value
  cases value
  rw [taken]
  have nonneg : 0 ≤ (sale.counter w).getD 0 := by
    cases counter : sale.counter w with
    | none => exact le_rfl
    | some k => exact (inv.counted k counter).1
  omega

/-! ## Calls that leave the sale alone -/

/-- A call that neither the database nor the counter notices. -/
theorem follows_neutral {cmd : Cmd} {post : Except Exn cmd.Resp → Phase → Prop}
    (neutral : ∀ (w : World ι) choice answer w', cmd.run t choice w = some (answer, w') →
      w'.db = w.db ∧ sale.counter w' = sale.counter w ∧ ∃ a, answer = .ok a)
    (all : ∀ a, post (.ok a) g) : (sale.discipline ι).Follows exec t post (.call cmd) g := by
  refine follows_call fun events w ghost choice answer w' inv own ran => ?_
  obtain ⟨same, counter, a, rfl⟩ := neutral w choice answer w' ran
  exact ⟨g, inv.stutter own same counter, all a⟩

theorem follows_now {post : Except Exn Int → Phase → Prop}
    (all : ∀ clock, post (.ok clock) g) :
    (sale.discipline ι).Follows exec t post now g :=
  follows_neutral (fun w choice answer w' ran => by cases ran; exact ⟨rfl, rfl, _, rfl⟩) all

theorem follows_hset {field value : String} {post : Except Exn Unit → Phase → Prop}
    (set : post (.ok ()) g) :
    (sale.discipline ι).Follows exec t post
      (redis sale.deployment.apiRedis (.hset field value)) g :=
  follows_neutral (fun w choice answer w' ran => by
    obtain ⟨a, r, done, rfl, changed⟩ := Cmd.run_redis ran
    cases done
    exact ⟨by rw [changed], (counter_redis changed).trans rfl, (), rfl⟩) fun _ => set

theorem follows_enqueueJob {job : Job} {post : Except Exn Unit → Phase → Prop}
    (sent : post (.ok ()) g) : (sale.discipline ι).Follows exec t post (enqueueJob job) g :=
  follows_neutral (fun w choice answer w' ran => by cases ran; exact ⟨rfl, rfl, _, rfl⟩)
    fun _ => sent

/-! ## Statements -/

/-- The cold read: what is left in the database by now. -/
theorem follows_getTicketType {post : Except Exn (Option TicketType) → Phase → Prop}
    (found : ∀ row : TicketType,
      post (.ok (some row)) (.read (row.ticketsQuantity - row.ticketsSold))) :
    (sale.discipline ι).Follows exec t post (sql (.getTicketType sale.ticketTypeId)) .start := by
  refine follows_call fun events w ghost choice answer w' inv own ran => ?_
  obtain ⟨db', done, rfl⟩ := Cmd.run_db ran
  obtain ⟨rfl, rfl⟩ := DbCmd.run_getTicketType done
  obtain ⟨row, stored, quantity, sold⟩ := inv.stored
  have mine := inv.types t
  rw [own] at mine
  have limit := row.check_sold_limit
  rw [mine.read_of_none rfl, stored]
  have taken : sale.taken (Function.update ghost t
      (.read (row.ticketsQuantity - row.ticketsSold))) = sale.taken ghost := by
    rw [taken_update, own]
    exact add_zero _
  refine ⟨.read (row.ticketsQuantity - row.ticketsSold),
    inv.redis own rfl rfl rfl rfl id ⟨?_, ?_⟩ ?_ ?_, found row⟩
  · omega
  · rw [← sold, ← quantity]
    omega
  · rw [taken]
    exact inv.counted
  · rw [taken]
    rintro (⟨u, turned⟩ | turned)
    · exact inv.lost u turned
    · exact turned.elim

/-- The charge: the row of the type is locked, or the `CHECK` turns the booking away. -/
theorem follows_addTicketsSold {post : Except Exn Unit → Phase → Prop}
    (charged : ∀ row row', post (.ok ()) (.charged row row'))
    (turnedAway : post (.error (.integrity .checkSoldLimit)) .failing) :
    (sale.discipline ι).Follows exec t post (sql (.addTicketsSold sale.ticketTypeId 1))
      .reserved := by
  refine follows_call fun events w ghost choice answer w' inv own ran => ?_
  obtain ⟨db', done, rfl⟩ := Cmd.run_db ran
  obtain ⟨row, stored, quantity, sold⟩ := inv.stored
  have tickets := inv.tickets t
  have types := inv.types t
  rw [own] at tickets types
  have committed : w.db.ticketTypes.read t sale.ticketTypeId = some row := by
    rw [types.read_of_none rfl, stored]
  rcases DbCmd.run_addTicketsSold done with ⟨none, _⟩ | ⟨row₁, read, free, update⟩
  · rw [committed] at none
    cases none
  rw [committed] at read
  cases read
  rcases update with ⟨row', ok, rfl, rfl⟩ | ⟨violated, error, rfl, rfl⟩
  · have locked := Locked.hold (some row') types (by rw [committed]; rfl) free
    rw [stored] at locked
    exact ⟨.charged row row', inv.statement own rfl tickets locked.self
      (fun _ _ _ held => held) locked.other rfl
      (fun row₁ found => ⟨row₁, by rw [locked.row]; exact found, rfl, (add_zero _).symm⟩)
      (fun _ present => present) le_rfl ok rfl nofun, charged row row'⟩
  · have positive := row.check_ticket_sold
    have limit := row.check_sold_limit
    rcases TicketType.addTicketsSold_error error with ⟨rfl, beyond⟩ | ⟨_, negative⟩
    · have taken : sale.taken (Function.update ghost t .failing) = sale.taken ghost - 1 := by
        rw [taken_update, own]
        rfl
      have full : sale.quantity ≤ sale.taken (Function.update ghost t .failing) := by
        have now : sale.soldNow (Function.update ghost t .failing) = sale.soldNow ghost := by
          rw [soldNow_update, own]
          exact add_zero _
        have under : sale.soldNow (Function.update ghost t .failing) ≤
            sale.taken (Function.update ghost t .failing) := soldNow_le_taken
        omega
      refine ⟨.failing, inv.redis own rfl rfl rfl rfl id trivial ?_ fun _ => full, turnedAway⟩
      intro k value
      have nonneg := (inv.counted k value).1
      exact ⟨nonneg, by omega⟩
    · omega

/-- `INSERT INTO tickets`, for a user that exists. -/
theorem follows_insertTicket {ownerId : Int} {row row' : TicketType}
    {post : Except Exn Int → Phase → Prop} (user : ownerId ∈ sale.users)
    (inserted : ∀ id ticket, post (.ok id) (.inserted row row' id ticket)) :
    (sale.discipline ι).Follows exec t post (sql (.insertTicket ownerId sale.ticketTypeId))
      (.charged row row') := by
  refine follows_call fun events w ghost choice answer w' inv own ran => ?_
  obtain ⟨db', done, rfl⟩ := Cmd.run_db ran
  have tickets := inv.tickets t
  have types := inv.types t
  have known := inv.known t
  rw [own] at tickets types known
  rcases DbCmd.run_insertTicket done with ⟨absent, _⟩ | ⟨stranger, _⟩ | ⟨_, _, rfl, rfl⟩
  · rw [types.read_of_lock (Locks.add_self ..)] at absent
    cases absent
  · rw [inv.users] at stranger
    exact (stranger user).elim
  · let ticket : Ticket := ⟨sale.ticketTypeId, ownerId, .reserved, choice.clock⟩
    have locked : Locked w.db.tickets (w.db.tickets.insert t ticket) t Locks.none
        (Locks.none.add w.db.tickets.next none (some ticket)) := .insert tickets
    refine ⟨.inserted row row' w.db.tickets.next ticket, inv.statement own rfl locked.self types
      locked.other (fun _ _ _ held => held) rfl
      (fun row₁ found => ⟨row₁, found, rfl, (add_zero _).symm⟩) ?_ le_rfl known rfl nofun,
      inserted _ ticket⟩
    rw [locked.row]
    exact fun _ present => present

/-- `COMMIT`: the slot is sold. -/
theorem follows_commit {row row' : TicketType} {id : Int} {ticket : Ticket}
    {post : Except Exn Unit → Phase → Prop} (committed : post (.ok ()) (.committed id)) :
    (sale.discipline ι).Follows exec t post (sql .commit) (.inserted row row' id ticket) := by
  refine follows_call fun events w ghost choice answer w' inv own ran => ?_
  obtain ⟨db', done, rfl⟩ := Cmd.run_db ran
  obtain ⟨rfl, rfl⟩ := DbCmd.run_commit done
  have tickets := inv.tickets t
  have types := inv.types t
  have known := inv.known t
  rw [own] at tickets types known
  have ok : row.addTicketsSold 1 = .ok row' := known
  have ticketRows : (w.db.tickets.commit t).row = Function.update w.db.tickets.row id
      (some ticket) := by
    rw [tickets.commit_row]
    exact Locks.apply_add _
  have typeRows : (w.db.ticketTypes.commit t).row =
      Function.update w.db.ticketTypes.row sale.ticketTypeId (some row') := by
    rw [types.commit_row]
    exact Locks.apply_add _
  refine ⟨.committed id, inv.statement own rfl Holds.commit_self Holds.commit_self
    (fun u other m held => held.commit_other other) (fun u other m held => held.commit_other other)
    rfl (fun row₁ found => ⟨row', ?_, ?_⟩) (fun id' present => ?_) zero_le_one ?_ rfl nofun,
    committed⟩
  · show (w.db.ticketTypes.commit t).row _ = _
    rw [typeRows, Function.update_self]
  · have base := types.row_of_lock (Locks.add_self ..)
    rw [found] at base
    cases base
    have moved := TicketType.addTicketsSold_ok ok
    exact ⟨moved.2, moved.1⟩
  · show ((w.db.tickets.commit t).row id').isSome
    rw [ticketRows]
    by_cases same : id' = id
    · subst same
      rw [Function.update_self]
      rfl
    · rwa [Function.update_of_ne same]
  · show ((w.db.tickets.commit t).row id).isSome
    rw [ticketRows, Function.update_self]
    rfl

/-- `db.refresh`, of a ticket that is committed. -/
theorem follows_refreshTicket {id : Int} {post : Except Exn Ticket → Phase → Prop}
    (found : ∀ ticket, post (.ok ticket) (.committed id)) :
    (sale.discipline ι).Follows exec t post (sql (.refreshTicket id)) (.committed id) := by
  refine follows_call fun events w ghost choice answer w' inv own ran => ?_
  obtain ⟨db', done, rfl⟩ := Cmd.run_db ran
  have tickets := inv.tickets t
  have known := inv.known t
  rw [own] at tickets known
  have known : (w.db.tickets.row id).isSome := known
  obtain ⟨rfl, ⟨absent, rfl⟩ | ⟨ticket, _, rfl⟩⟩ := DbCmd.run_refreshTicket done
  · rw [tickets.read_of_none rfl] at absent
    rw [absent] at known
    cases known
  · exact ⟨.committed id, inv.stutter own rfl rfl, found ticket⟩

/-- The end of a transaction that has nothing locked any more. -/
theorem Inv.ended {events : List (CallEvent ι)} {w w' : World ι}
    {ghost : ι → Phase} {cmd : Cmd}
    {choice : Choice} {answer : Except Exn cmd.Resp} (h : sale.Inv events w ghost)
    (own : ghost t = g) (tickets : g.tickets = Locks.none)
    (types : g.types sale.ticketTypeId = Locks.none)
    (changed : w' = { w with db := w.db.rollback t }) :
    sale.Inv (events ++ [⟨t, cmd, choice, answer, w, w'⟩]) w' (Function.update ghost t g) := by
  have known := h.known t
  rw [own] at known
  refine h.statement own changed ?_ ?_ (fun u other m held => held.rollback_other other)
    (fun u other m held => held.rollback_other other) rfl
    (fun row found => ⟨row, found, rfl, by rw [sub_self, add_zero]⟩) (fun _ present => present)
    le_rfl (known.later le_rfl id fun _ present => present) rfl id
  · rw [tickets]
    exact Holds.rollback_self
  · rw [types]
    exact Holds.rollback_self

theorem follows_rollback {post : Except Exn Unit → Phase → Prop}
    (tickets : g.tickets = Locks.none) (types : g.types sale.ticketTypeId = Locks.none)
    (ended : post (.ok ()) g) :
    (sale.discipline ι).Follows exec t post (sql .rollback) g := by
  refine follows_call fun events w ghost choice answer w' inv own ran => ?_
  obtain ⟨db', done, rfl⟩ := Cmd.run_db ran
  cases done
  exact ⟨g, inv.ended own tickets types rfl, ended⟩

theorem follows_close {post : Except Exn Unit → Phase → Prop}
    (tickets : g.tickets = Locks.none) (types : g.types sale.ticketTypeId = Locks.none)
    (ended : post (.ok ()) g) :
    (sale.discipline ι).Follows exec t post (sql .close) g := by
  refine follows_call fun events w ghost choice answer w' inv own ran => ?_
  obtain ⟨db', done, rfl⟩ := Cmd.run_db ran
  cases done
  exact ⟨g, inv.ended own tickets types rfl, ended⟩

end TicketCore.Sale
