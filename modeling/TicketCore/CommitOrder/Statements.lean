import TicketCore.CommitOrder.Pending

/-!
# The discipline of commits

The invariant under which all activities interleave, and its rules for each kind of call, whichever
calls fail. A call that changes rows moves the pending changes of its thread as its rule says;
`follows_commit` is the one that needs them to be `Ready`.

* `Order` splits a run into the calls that leave the tables alone and the commits, each of them that
  of a request as the office would have it at that moment.
* `Inv.order` says that the tables are as the commits so far have left them.
-/

namespace TicketCore.CommitOrder

open Interleave RowStore Pending

variable {ι : Type}

/-- The rows that the second one of these offices adds to the first have not been there in the
past. -/
structure AddsNew (before after past : Office) : Prop where
  types : ∀ id, before.types id = none → (after.types id).isSome → past.types id = none
  tickets : ∀ id, before.tickets id = none → (after.tickets id).isSome →
      past.tickets id = none
  events : ∀ id, before.events id = none → (after.events id).isSome → past.events id = none

/-- Calls one after another, and the commits among them, at most one for each request; the other
calls leave the tables as they are. In between, users may join. -/
inductive Order (d : Deployment) (acts : ι → Activity) (office : Office) :
    List (CallEvent ι) → List (CallEvent ι) → Office → Prop
  | open : Order d acts office [] [] office
  | join {events commits : List (CallEvent ι)} {last : Office} {users : Finset Int} :
      Order d acts office events commits last → last.users ⊆ users →
      Order d acts office events commits { last with users := users }
  | other {events commits : List (CallEvent ι)} {e : CallEvent ι} :
      Order d acts office events commits e.before.db.office →
      e.after.db.office = e.before.db.office →
      Order d acts office (events ++ [e]) commits e.after.db.office
  | commit {events commits : List (CallEvent ι)} {e : CallEvent ι} :
      Order d acts office events commits e.before.db.office → e.cmd = .db .commit →
      (∀ e' ∈ commits, e'.thread ≠ e.thread) →
      (∀ past ∈ office :: commits.map (·.before.db.office),
        AddsNew e.before.db.office e.after.db.office past) →
      e.before.db.office.Commits d.ticketReservationTimeSeconds (ShownTo events e.thread)
        (acts e.thread) e.after.db.office →
      Order d acts office (events ++ [e]) (commits ++ [e]) e.after.db.office

/-- The commits are among the calls, in their order. -/
theorem Order.sublist {d : Deployment} {acts : ι → Activity} {office last : Office}
    {events commits : List (CallEvent ι)} (h : Order d acts office events commits last) :
    commits.Sublist events := by
  induction h with
  | «open» => exact List.Sublist.refl _
  | join _ _ ih => exact ih
  | other _ _ ih => exact ih.trans (List.sublist_append_left ..)
  | commit _ _ _ _ _ ih => exact ih.append (List.Sublist.refl _)

/-- A command that fails shows nothing. -/
theorem not_yields_error {cmd : Cmd} {e : Exn} {reading : Reading} :
    ¬ Yields cmd (.error e) reading := by
  intro shows
  cases shows

/-- What the thread takes from an answer: nothing that it has not been shown, and each row of its
own that the sweep has canceled. -/
structure Sees (cmd : Cmd) (answer : Except Exn cmd.Resp) (g g' : Pending) : Prop where
  shown : ∀ reading, g'.shown reading → g.shown reading ∨ Yields cmd answer reading
  canceled : ∀ id, g.shown (.canceled id) ∨ Yields cmd answer (.canceled id) →
    g'.shown (.canceled id)

/-- Nothing is taken from an answer that is no canceled row. -/
theorem Sees.nothing {cmd : Cmd} {answer : Except Exn cmd.Resp} {g g' : Pending}
    (same : g'.shown = g.shown) (none : ∀ id, ¬ Yields cmd answer (.canceled id)) :
    Sees cmd answer g g' where
  shown reading there := by
    rw [same] at there
    exact .inl there
  canceled id there := by
    rw [same]
    exact there.resolve_right (none id)

/-- What the answer shows is taken from it. -/
theorem Sees.see {cmd : Cmd} {answer : Except Exn cmd.Resp} {g g' : Pending} {reading : Reading}
    (same : g'.shown = (g.see reading).shown) (shows : Yields cmd answer reading)
    (only : ∀ id, Yields cmd answer (.canceled id) → .canceled id = reading) :
    Sees cmd answer g g' where
  shown reading there := by
    rw [same] at there
    exact there.imp_right fun same => by rw [same]; exact shows
  canceled id there := by
    rw [same]
    exact there.imp_right (only id)

variable [DecidableEq ι]

/-- The rows of the office have been committed by now. -/
structure Met (db : Database ι) (office : Office) : Prop where
  types : ∀ id, (office.types id).isSome → db.ticketTypes.Born id
  tickets : ∀ id, (office.tickets id).isSome → db.tickets.Born id
  events : ∀ id, (office.events id).isSome → db.events.Born id

/-- The invariant of the discipline; `office` is what the tables have been in the beginning. -/
structure Inv (d : Deployment) (acts : ι → Activity) (office : Office)
    (events : List (CallEvent ι)) (w : World ι) (ghost : ι → Pending) : Prop where
  right : ∀ t, (ghost t).Right w.db t
  integral : w.db.Integral
  references : w.db.References
  keys : ∀ id, ((w.redis d.apiRedis).inventory id).isSome → w.db.ticketTypes.Born id
  met : Met w.db office ∧ ∀ e ∈ events, Met w.db e.before.db.office
  shown : ∀ t reading, (ghost t).shown reading → ShownTo events t reading
  canceled : ∀ t id, ShownTo events t (.canceled id) → (ghost t).shown (.canceled id)
  order : ∃ commits, Order d acts office events commits w.db.office ∧
    ∀ t, (ghost t).committed = true ↔ ∃ e ∈ commits, e.thread = t

/-- The discipline of commits: any call may fail. -/
def discipline (d : Deployment) (acts : ι → Activity) (office : Office) :
    Discipline ι (World ι) Cmd Cmd.Resp Exn Choice Pending where
  guard _ := True
  inv := Inv d acts office

variable {d : Deployment} {acts : ι → Activity} {office : Office} {events : List (CallEvent ι)}
  {w w' : World ι} {ghost : ι → Pending} {t : ι} {g g' : Pending} {cmd : Cmd} {choice : Choice}
  {answer : Except Exn cmd.Resp} {db db' : Database ι} {id : Int}

/-- One more event leaves the tables alone, or commits what is not committed yet. -/
def Explained (d : Deployment) (acts : ι → Activity) (t : ι) (cmd : Cmd) (g g' : Pending)
    (w w' : World ι) : Prop :=
  (w'.db.office = w.db.office ∧ g'.committed = g.committed) ∨
  (cmd = .db .commit ∧
    w.db.office.Commits d.ticketReservationTimeSeconds g.shown (acts t) w'.db.office ∧
    g.committed = false ∧ g'.committed = true)

/-- What an open transaction has not committed has not been met. -/
theorem Met.addsNew {past : Office} (met : Met db past) (effect : db.Effect t db') :
    AddsNew db.office db'.office past := by
  rcases effect.rows with rfl | ⟨types, tickets, events⟩
  · refine ⟨fun id absent there => ?_, fun id absent there => ?_, fun id absent there => ?_⟩
    · by_contra old
      have born := met.types id (Option.isSome_iff_ne_none.mpr old)
      exact (Option.isSome_iff_ne_none.mp there) (born.commit_none absent)
    · by_contra old
      have born := met.tickets id (Option.isSome_iff_ne_none.mpr old)
      exact (Option.isSome_iff_ne_none.mp there) (born.commit_none absent)
    · by_contra old
      have born := met.events id (Option.isSome_iff_ne_none.mpr old)
      exact (Option.isSome_iff_ne_none.mp there) (born.commit_none absent)
  · refine ⟨fun id absent there => ?_, fun id absent there => ?_, fun id absent there => ?_⟩
    · have absent : db'.ticketTypes.row id = none := by rw [types]; exact absent
      exact (Option.isSome_iff_ne_none.mp there absent).elim
    · have absent : db'.tickets.row id = none := by rw [tickets]; exact absent
      exact (Option.isSome_iff_ne_none.mp there absent).elim
    · have absent : db'.events.row id = none := by rw [events]; exact absent
      exact (Option.isSome_iff_ne_none.mp there absent).elim

theorem Met.effect (met : Met db office) (effect : db.Effect t db') : Met db' office where
  types id there := effect_typeBorn effect (met.types id there)
  tickets id there := effect_ticketBorn effect (met.tickets id there)
  events id there := effect_eventBorn effect (met.events id there)

omit [DecidableEq ι] in
theorem met_office : Met db db.office where
  types _ there := .of_row there
  tickets _ there := .of_row there
  events _ there := .of_row there

theorem Inv.order_next (h : Inv d acts office events w ghost) (effect : w.db.Effect t w'.db)
    (explained : Explained d acts t cmd (ghost t) g' w w') :
    ∃ commits, Order d acts office (events ++ [⟨t, cmd, choice, answer, w, w'⟩]) commits
        w'.db.office ∧
      ∀ u, (Function.update ghost t g' u).committed = true ↔ ∃ e ∈ commits,
        e.thread = u := by
  obtain ⟨commits, order, done⟩ := h.order
  rcases explained with ⟨same, still⟩ | ⟨commit, serves, first, last⟩
  · refine ⟨commits, .other (e := ⟨t, cmd, choice, answer, w, w'⟩) order same, fun u => ?_⟩
    rw [← done u]
    by_cases own : u = t
    · subst own
      rw [Function.update_self, still]
    · rw [Function.update_of_ne own]
  · have fresh : ∀ e ∈ commits, e.thread ≠ t := fun e mem same => by
      rw [(done t).mpr ⟨e, mem, same⟩] at first
      cases first
    have new : ∀ past ∈ office :: commits.map (·.before.db.office),
        AddsNew w.db.office w'.db.office past := fun past mem => by
      rcases List.mem_cons.mp mem with rfl | mem
      · exact h.met.1.addsNew effect
      · obtain ⟨e, listed, rfl⟩ := List.mem_map.mp mem
        exact (h.met.2 e (order.sublist.subset listed)).addsNew effect
    have serves := serves.mono (h.shown t) (h.canceled t)
    refine ⟨commits ++ [⟨t, cmd, choice, answer, w, w'⟩],
      .commit (e := ⟨t, cmd, choice, answer, w, w'⟩) order commit fresh new serves,
      fun u => ?_⟩
    by_cases own : u = t
    · subst own
      rw [Function.update_self, last]
      exact iff_of_true rfl ⟨_, List.mem_append_right _ (List.mem_singleton_self _), rfl⟩
    · rw [Function.update_of_ne own, done u]
      constructor
      · rintro ⟨e, mem, same⟩
        exact ⟨e, List.mem_append_left _ mem, same⟩
      · rintro ⟨e, mem, same⟩
        rcases List.mem_append.mp mem with mem | mem
        · exact ⟨e, mem, same⟩
        · rw [List.mem_singleton.mp mem] at same
          exact (own same.symm).elim

/-- What the threads have been shown by now. -/
theorem Inv.shown_next (h : Inv d acts office events w ghost) (sees : Sees cmd answer (ghost t) g')
    (u : ι) : (∀ reading, (Function.update ghost t g' u).shown reading →
        ShownTo (events ++ [⟨t, cmd, choice, answer, w, w'⟩]) u reading) ∧
      ∀ id, ShownTo (events ++ [⟨t, cmd, choice, answer, w, w'⟩]) u (.canceled id) →
        (Function.update ghost t g' u).shown (.canceled id) := by
  have longer : ∀ {reading}, ShownTo events u reading →
      ShownTo (events ++ [⟨t, cmd, choice, answer, w, w'⟩]) u reading := by
    rintro reading ⟨e, mem, own, shows⟩
    exact ⟨e, List.mem_append_left _ mem, own, shows⟩
  by_cases own : u = t
  · subst own
    rw [Function.update_self]
    refine ⟨fun reading there => ?_, fun id there => ?_⟩
    · rcases sees.shown reading there with old | new
      · exact longer (h.shown u reading old)
      · exact ⟨_, List.mem_append_right _ (List.mem_singleton_self _), rfl, new⟩
    · obtain ⟨e, mem, mine, shows⟩ := there
      rcases List.mem_append.mp mem with mem | mem
      · exact sees.canceled id (.inl (h.canceled u id ⟨e, mem, mine, shows⟩))
      · obtain rfl := List.mem_singleton.mp mem
        exact sees.canceled id (.inr shows)
  · rw [Function.update_of_ne own]
    refine ⟨fun reading there => longer (h.shown u reading there), fun id there => ?_⟩
    obtain ⟨e, mem, mine, shows⟩ := there
    rcases List.mem_append.mp mem with mem | mem
    · exact h.canceled u id ⟨e, mem, mine, shows⟩
    · obtain rfl := List.mem_singleton.mp mem
      exact (own mine.symm).elim

/-- One more event: it leaves the tables alone, or commits what is not committed yet. -/
theorem Inv.next (h : Inv d acts office events w ghost) (effect : w.db.Effect t w'.db)
    (keys : ∀ id, ((w'.redis d.apiRedis).inventory id).isSome →
      ((w.redis d.apiRedis).inventory id).isSome ∨ w.db.ticketTypes.Born id)
    (right : g'.Right w'.db t) (explained : Explained d acts t cmd (ghost t) g' w w')
    (sees : Sees cmd answer (ghost t) g') :
    Inv d acts office (events ++ [⟨t, cmd, choice, answer, w, w'⟩]) w'
      (Function.update ghost t g') where
  right := (Function.forall_update_iff ghost fun u g => g.Right w'.db u).mpr
    ⟨right, fun u other => (h.right u).other effect other⟩
  integral := h.integral.effect effect
  references := h.references.effect h.integral effect
  keys id key := effect_typeBorn effect ((keys id key).elim (h.keys id) fun born => born)
  met := by
    refine ⟨h.met.1.effect effect, fun e mem => ?_⟩
    rcases List.mem_append.mp mem with mem | mem
    · exact (h.met.2 e mem).effect effect
    · rw [List.mem_singleton.mp mem]
      exact met_office.effect effect
  shown u := (h.shown_next sees u).1
  canceled u := (h.shown_next sees u).2
  order := h.order_next effect explained

/-- The rule for a call: it may fail without an effect, or run. -/
theorem follows_call {post : Except Exn cmd.Resp → Pending → Prop}
    (fault : ∀ e, post (.error e) g)
    (run : ∀ events w ghost choice answer w', Inv d acts office events w ghost → ghost t = g →
      cmd.run t choice w = some (answer, w') →
      ∃ g', Inv d acts office (events ++ [⟨t, cmd, choice, answer, w, w'⟩]) w'
        (Function.update ghost t g') ∧
        post answer g') :
    (discipline d acts office).Follows exec t post (.call cmd) g := by
  refine Discipline.Follows.call fun events w ghost choice answer w' inv own ran _ => ?_
  have inv : Inv d acts office events w ghost := inv
  rcases exec_cases ran with ⟨e, _, _, rfl, rfl⟩ | ran
  · refine ⟨ghost t, inv.next .none (fun _ key => .inl key) (inv.right t)
      (.inl ⟨rfl, rfl⟩) (.nothing rfl fun _ => not_yields_error), ?_⟩
    rw [own]
    exact fault e
  · exact run events w ghost choice answer w' inv own ran

/-! ## Calls that change no row -/

/-- A command that writes no key of the inventory. -/
def KeepsKeys : RedisCmd → Prop
  | .setInventory .. | .incrInventory _ => False
  | _ => True

/-- A statement that only reads. -/
def Reads : DbCmd → Prop
  | .getTicketType _ | .selectTicket .. | .hungTickets _ | .refreshTicket _ | .selectStatuses _
  | .refreshTicketType _ | .ticketTypeWithEvent _ | .ticketsOfOwner .. | .ticketTypesPage ..
  | .refreshEvent _ | .selectEvent _ | .selectTicketTypes _ | .eventsPage .. => True
  | _ => False

theorem Reads.run {statement : DbCmd} {clock : Int} {order : List Int}
    {answer : Except Exn statement.Resp} (reads : Reads statement)
    (ran : statement.run t clock order db = some (answer, db')) : db' = db := by
  cases statement with
  | getTicketType id | selectTicket id ownerId | hungTickets threshold | selectStatuses ids
  | ticketTypeWithEvent id | ticketsOfOwner ownerId offset limit
  | ticketTypesPage eventId offset limit | selectEvent id | selectTicketTypes eventId
  | eventsPage offset limit =>
      cases ran
      rfl
  | refreshTicket id | refreshTicketType id | refreshEvent id =>
      simp only [DbCmd.run] at ran
      split at ran
      · cases ran
        rfl
      · cases ran
        rfl
  | _ => exact reads.elim

/-- A call that changes no row and writes no key of the inventory. -/
def Neutral : Cmd → Prop
  | .db statement => Reads statement
  | .redis _ command => KeepsKeys command
  | _ => True

/-- No row is canceled by a call that changes none. -/
theorem Neutral.not_canceled {answer : Except Exn cmd.Resp} (neutral : Neutral cmd) (id : Int) :
    ¬ Yields cmd answer (.canceled id) := by
  intro shows
  cases shows
  exact neutral

/-- A call on Redis, that writes keys of the inventory only where there is a type. -/
theorem Inv.redis (h : Inv d acts office events w ghost) {n : Nat} {command : RedisCmd}
    {choice : Choice} {answer : Except Exn command.Resp}
    (ran : (Cmd.redis n command).run t choice w = some (answer, w'))
    (born : ∀ id, (∃ value, command = .setInventory id value) ∨
      command = .incrInventory id →
      w.db.ticketTypes.Born id)
    (right : g'.Right w.db t)
    (still : g'.committed = (ghost t).committed ∧ g'.shown = (ghost t).shown) :
    Inv d acts office (events ++ [⟨t, .redis n command, choice, answer, w, w'⟩]) w'
      (Function.update ghost t g') := by
  obtain ⟨a, r, done, rfl, rfl⟩ := Cmd.run_redis ran
  refine h.next .none (fun id key => ?_) right (.inl ⟨rfl, still.1⟩)
    (.nothing still.2 (by rintro _ ⟨⟩))
  have key : ((Function.update w.redis n r d.apiRedis).inventory id).isSome := key
  by_cases here : d.apiRedis = n
  · rw [here, Function.update_self] at key
    rcases RedisCmd.inventory_of_run done key with old | written
    · rw [here]
      exact .inl old
    · exact .inr (born id written)
  · rw [Function.update_of_ne here] at key
    exact .inl key

theorem follows_neutral {post : Except Exn cmd.Resp → Pending → Prop} (neutral : Neutral cmd)
    (all : ∀ answer, post answer g) : (discipline d acts office).Follows exec t post
      (.call cmd) g := by
  refine follows_call (fun e => all _) fun events w ghost choice answer w' inv own ran =>
    ⟨ghost t, ?_, ?_⟩
  · cases cmd with
    | redis n command =>
        refine inv.redis ran (fun id writes => ?_) (inv.right t) ⟨rfl, rfl⟩
        rcases writes with ⟨value, rfl⟩ | rfl
        · exact neutral.elim
        · exact neutral.elim
    | db statement =>
        obtain ⟨db', done, rfl⟩ := Cmd.run_db ran
        cases Reads.run neutral done
        exact inv.next .none (fun _ key => .inl key) (inv.right t) (.inl ⟨rfl, rfl⟩)
          (.nothing rfl neutral.not_canceled)
    | enqueueJob job | now =>
        cases ran
        exact inv.next .none (fun _ key => .inl key) (inv.right t) (.inl ⟨rfl, rfl⟩)
          (.nothing rfl neutral.not_canceled)
    | handler =>
        have done : (choice.outcome, w) = (answer, w') := Option.some.inj ran
        obtain ⟨_, rfl⟩ := Prod.mk.inj done
        exact inv.next .none (fun _ key => .inl key) (inv.right t) (.inl ⟨rfl, rfl⟩)
          (.nothing rfl neutral.not_canceled)
  · rw [own]
    exact all answer

/-- The time is read. -/
theorem follows_now {post : Except Exn Int → Pending → Prop} (fault : ∀ e, post (.error e) g)
    (read : ∀ clock, post (.ok clock) (g.see (.clock clock))) :
    (discipline d acts office).Follows exec t post (.call Cmd.now) g := by
  refine follows_call fault fun events w ghost choice answer w' inv own ran => ?_
  cases ran
  subst own
  exact ⟨_, inv.next .none (fun _ key => .inl key) (inv.right t).see (.inl ⟨rfl, rfl⟩)
    (.see rfl (.clock _) (by rintro _ ⟨⟩)), read _⟩

/-- A counter is set for a type that is there, or has been. -/
theorem follows_setInventory {n : Nat} {value : Int} {post : Except Exn Unit → Pending → Prop}
    (known : g.knows (.typeBorn id)) (all : ∀ answer, post answer g) :
    (discipline d acts office).Follows exec t post (redis n (.setInventory id value)) g := by
  refine follows_call (fun e => all _) fun events w ghost choice answer w' inv own ran =>
    ⟨ghost t, ?_, ?_⟩
  · refine inv.redis ran (fun other writes => ?_) (inv.right t) ⟨rfl, rfl⟩
    rw [← own] at known
    rcases writes with ⟨value, same⟩ | same
    · cases same
      exact (inv.right t).knows _ known
    · cases same
  · rw [own]
    exact all answer

/-- A slot is given back to a type that is there, or has been. -/
theorem follows_incrInventory {n : Nat} {post : Except Exn Unit → Pending → Prop}
    (known : g.knows (.typeBorn id)) (all : ∀ answer, post answer g) :
    (discipline d acts office).Follows exec t post (redis n (.incrInventory id)) g := by
  refine follows_call (fun e => all _) fun events w ghost choice answer w' inv own ran =>
    ⟨ghost t, ?_, ?_⟩
  · refine inv.redis ran (fun other writes => ?_) (inv.right t) ⟨rfl, rfl⟩
    rw [← own] at known
    rcases writes with ⟨value, same⟩ | same
    · cases same
    · cases same
      exact (inv.right t).knows _ known
  · rw [own]
    exact all answer

/-- Something is found out. -/
theorem Pending.Right.learn {f : Fact} (h : g.Right db t) (true : f.True db) :
    (g.learn f).Right db t where
  tickets := h.tickets
  types := h.types
  events := h.events
  knows f' known := by
    rcases known with known | rfl
    · exact h.knows f' known
    · exact true

/-- A slot is taken only of a type that is there, or has been. -/
theorem follows_evalReserve {post : Except Exn Int → Pending → Prop}
    (fault : ∀ e, post (.error e) g)
    (cold : post (.ok (-1)) g) (warm : ∀ result, post (.ok result) (g.learn (.typeBorn id))) :
    (discipline d acts office).Follows exec t post (redis d.apiRedis (.evalReserve id)) g := by
  refine follows_call fault fun events w ghost choice answer w' inv own ran => ?_
  have free : ∀ other, (∃ value, RedisCmd.evalReserve id = .setInventory other value) ∨
      RedisCmd.evalReserve id = .incrInventory other → w.db.ticketTypes.Born other :=
        fun other writes => by
    rcases writes with ⟨value, same⟩ | same
    · cases same
    · cases same
  have ran' := ran
  obtain ⟨result, r, done, rfl, _⟩ := Cmd.run_redis ran'
  have done : (w.redis d.apiRedis).reserveScript id = (result, r) := Option.some.inj done
  subst own
  have known : (w.redis d.apiRedis).inventory id ≠ none →
      ((ghost t).learn (.typeBorn id)).Right w.db t := fun there =>
    (inv.right t).learn (inv.keys id (Option.isSome_iff_ne_none.mpr there))
  rcases RedisDb.reserveScript_cases done with
    ⟨_, rfl, _⟩ | ⟨k, counter, _, rfl, _⟩ | ⟨k, counter, _, rfl, _⟩
  · exact ⟨ghost t, inv.redis ran free (inv.right t) ⟨rfl, rfl⟩, cold⟩
  · exact ⟨_, inv.redis ran free (known (by rw [counter]; exact Option.some_ne_none k))
      ⟨rfl, rfl⟩, warm 1⟩
  · exact ⟨_, inv.redis ran free (known (by rw [counter]; exact Option.some_ne_none k))
      ⟨rfl, rfl⟩, warm 0⟩

/-! ## Statements -/

/-- A statement that does not end the transaction leaves the committed tables alone. -/
theorem office_of_goes {statement : DbCmd} {clock : Int} {order : List Int}
    {answer : Except Exn statement.Resp} (goes : ¬ statement.Ends)
    (ran : statement.run t clock order db = some (answer, db')) : db'.office = db.office := by
  have moved := DbCmd.moved goes ran
  unfold Database.office
  rw [moved.ticketTypes.row, moved.tickets.row, moved.events.row, moved.users]

/-- The rule for a statement that does not end the transaction. -/
theorem follows_effect {statement : DbCmd} {post : Except Exn statement.Resp → Pending → Prop}
    (goes : ¬ statement.Ends) (fault : ∀ e, post (.error e) g)
    (run : ∀ (db : Database ι) db' clock order answer, g.Right db t → db.Integral →
      statement.run t clock order db = some (answer, db') →
      db.Effect t db' ∧ ∃ g', g'.Right db' t ∧ g'.committed = g.committed ∧
        Sees (.db statement) answer g g' ∧ post answer g') :
    (discipline d acts office).Follows exec t post (sql statement) g := by
  refine follows_call fault fun events w ghost choice answer w' inv own ran => ?_
  obtain ⟨db', done, rfl⟩ := Cmd.run_db ran
  subst own
  obtain ⟨effect, g', right, still, sees, holds⟩ :=
    run w.db db' choice.clock choice.rows answer (inv.right t) inv.integral done
  exact ⟨g', inv.next effect (fun _ key => .inl key) right
    (.inl ⟨office_of_goes goes done, still⟩) sees, holds⟩

/-- The rule for the statements other than the `INSERT` of a ticket. -/
theorem follows_sql {statement : DbCmd} {post : Except Exn statement.Resp → Pending → Prop}
    (goes : ¬ statement.Ends) (other : ¬ statement.InsertsTicket)
    (fault : ∀ e, post (.error e) g)
    (run : ∀ (db : Database ι) db' clock order answer, g.Right db t → db.Integral →
      db.Effect t db' →
      statement.run t clock order db = some (answer, db') →
      ∃ g', g'.Right db' t ∧ g'.committed = g.committed ∧ Sees (.db statement) answer g g' ∧
        post answer g') :
    (discipline d acts office).Follows exec t post (sql statement) g :=
  follows_effect goes fault fun db db' clock order answer right integral ran =>
    have effect := effect_of_run other ran
    ⟨effect, run db db' clock order answer right integral effect ran⟩

namespace Pending

variable {version : Option Ticket} {row : Option TicketType} {event : Option Event}

/-- A ticket is locked. -/
theorem Right.holdTicket (h : g.Right db t)
    (effect : db.Effect t { db with tickets := db.tickets.hold t id version })
    (read : (db.tickets.read t id).isSome) : (g.setTicket id (db.tickets.row id) version).Right
      { db with tickets := db.tickets.hold t id version } t :=
  ⟨h.tickets.hold_self (read_issued read), h.types, h.events,
    fun f known => (h.knows f known).effect effect⟩

/-- A ticket type is locked. -/
theorem Right.holdType (h : g.Right db t)
    (effect : db.Effect t { db with ticketTypes := db.ticketTypes.hold t id row })
    (read : (db.ticketTypes.read t id).isSome) : (g.setType id (db.ticketTypes.row id) row).Right
      { db with ticketTypes := db.ticketTypes.hold t id row } t :=
  ⟨h.tickets, h.types.hold_self (read_issued read), h.events,
    fun f known => (h.knows f known).effect effect⟩

/-- An event is locked. -/
theorem Right.holdEvent (h : g.Right db t)
    (effect : db.Effect t { db with events := db.events.hold t id event })
    (read : (db.events.read t id).isSome) : (g.setEvent id (db.events.row id) event).Right
      { db with events := db.events.hold t id event } t :=
  ⟨h.tickets, h.types, h.events.hold_self (read_issued read),
    fun f known => (h.knows f known).effect effect⟩

end Pending

/-! ## Ticket types -/

/-- A ticket type that is read is there. -/
theorem follows_getTicketType {post : Except Exn (Option TicketType) → Pending → Prop}
    (unlocked : g.types id = none) (fault : ∀ e, post (.error e) g) (absent : post (.ok none) g)
    (found : ∀ row, post (.ok (some row)) ((g.learn (.typeBorn id)).see (.ticketType id row))) :
    (discipline d acts office).Follows exec t post (sql (.getTicketType id)) g := by
  refine follows_sql not_false not_false fault fun db db' clock order answer right _ _ ran => ?_
  cases ran
  rw [right.types.read_of_none unlocked]
  cases stored : db.ticketTypes.row id with
  | none => exact ⟨g, right, rfl, .nothing rfl (by rintro _ ⟨⟩), absent⟩
  | some row =>
      have fact : (Fact.typeBorn id).True db := Born.of_row (by rw [stored]; rfl)
      exact ⟨_, (right.learn fact).see, rfl, .see rfl (.ticketType id row)
        (by rintro _ ⟨⟩), found row⟩

/-- `UPDATE ticket_types SET tickets_sold = tickets_sold + delta`. -/
theorem follows_addTicketsSold {delta : Int} {post : Except Exn Unit → Pending → Prop}
    (unlocked : g.types id = none) (known : g.knows (.typeBorn id))
    (fault : ∀ e, post (.error e) g) (absent : post (.ok ()) (g.learn (.typeGone id)))
    (added : ∀ row row', row.addTicketsSold delta = .ok row' →
      post (.ok ()) (g.setType id (some row) (some row'))) :
    (discipline d acts office).Follows exec t post (sql (.addTicketsSold id delta)) g := by
  refine follows_sql not_false not_false fault
    fun db db' clock order answer right _ effect ran => ?_
  have committed := right.types.read_of_none unlocked
  rcases DbCmd.run_addTicketsSold ran with ⟨none, rfl, same⟩ | ⟨row, read, _, update⟩
  · rw [committed] at none
    rw [same]
    have fact : (Fact.typeGone id).True db := ⟨right.knows _ known, none⟩
    exact ⟨_, right.learn fact, rfl, .nothing rfl (by rintro _ ⟨⟩), absent⟩
  · rcases update with ⟨row', ok, rfl, rfl⟩ | ⟨_, _, rfl, rfl⟩
    · have next := right.holdType effect (by rw [read]; rfl)
      rw [← committed, read] at next
      exact ⟨_, next, rfl, .nothing rfl (by rintro _ ⟨⟩), added row row' ok⟩
    · exact ⟨g, right, rfl, .nothing rfl (by rintro _ ⟨⟩), fault _⟩

/-- `INSERT INTO ticket_types`. -/
theorem follows_insertTicketType {eventId : Int} {data : TicketTypeCreate}
    {post : Except Exn Int → Pending → Prop} (fault : ∀ e, post (.error e) g)
    (inserted : ∀ id, post (.ok id) (g.setType id none (some (data.row eventId)))) :
    (discipline d acts office).Follows exec t post (sql (.insertTicketType eventId data)) g := by
  refine follows_sql not_false not_false fault
    fun db db' clock order answer right _ effect ran => ?_
  rcases DbCmd.run_insertTicketType ran with ⟨rfl, rfl⟩ | ⟨rfl, rfl⟩
  · exact ⟨g, ⟨right.tickets, right.types.skip, right.events,
      fun f known => (right.knows f known).effect effect⟩, rfl,
      .nothing rfl (by rintro _ ⟨⟩), fault _⟩
  · have next : (g.setType db.ticketTypes.next none (some (data.row eventId))).Right
        { db with ticketTypes := db.ticketTypes.insert t (data.row eventId) } t :=
      ⟨right.tickets, right.types.insert_self, right.events,
        fun f known => (right.knows f known).effect effect⟩
    exact ⟨_, next, rfl, .nothing rfl (by rintro _ ⟨⟩), inserted _⟩

/-- `UPDATE ticket_types`, of a loaded row. -/
theorem follows_updateTicketType {data : TicketTypeUpdate}
    {post : Except Exn Unit → Pending → Prop}
    (unlocked : g.types id = none) (fault : ∀ e, post (.error e) g)
    (updated : ∀ row row', data.apply row = .ok row' →
      post (.ok ()) (g.setType id (some row) (some row'))) :
    (discipline d acts office).Follows exec t post (sql (.updateTicketType id data)) g := by
  refine follows_sql not_false not_false fault
    fun db db' clock order answer right _ effect ran => ?_
  have committed := right.types.read_of_none unlocked
  rcases DbCmd.run_updateTicketType ran with ⟨rfl, rfl⟩ | ⟨row, read, update⟩
  · exact ⟨g, right, rfl, .nothing rfl (by rintro _ ⟨⟩), fault _⟩
  · rcases update with ⟨row', ok, rfl, rfl⟩ | ⟨_, _, rfl, rfl⟩
    · have next := right.holdType effect (by rw [read]; rfl)
      rw [← committed, read] at next
      exact ⟨_, next, rfl, .nothing rfl (by rintro _ ⟨⟩), updated row row' ok⟩
    · exact ⟨g, right, rfl, .nothing rfl (by rintro _ ⟨⟩), fault _⟩

/-- `DELETE FROM ticket_types`, of a loaded row. -/
theorem follows_deleteTicketType {post : Except Exn Unit → Pending → Prop}
    (unlocked : g.types id = none) (fault : ∀ e, post (.error e) g) (absent : post (.ok ()) g)
    (deleted : ∀ row, post (.ok ()) (g.setType id (some row) none)) :
    (discipline d acts office).Follows exec t post (sql (.deleteTicketType id)) g := by
  refine follows_sql not_false not_false fault
    fun db db' clock order answer right _ effect ran => ?_
  have committed := right.types.read_of_none unlocked
  rcases DbCmd.run_deleteTicketType ran with ⟨rfl, rfl⟩ | ⟨_, rfl, rfl | ⟨some, rfl⟩⟩
  · exact ⟨g, right, rfl, .nothing rfl (by rintro _ ⟨⟩), fault _⟩
  · exact ⟨g, right, rfl, .nothing rfl (by rintro _ ⟨⟩), absent⟩
  · obtain ⟨row, read⟩ := Option.isSome_iff_exists.mp some
    have next := right.holdType effect some
    rw [← committed, read] at next
    exact ⟨_, next, rfl, .nothing rfl (by rintro _ ⟨⟩), deleted row⟩

/-! ## Tickets -/

/-- A ticket that is read has been committed, and keeps its type and its owner. -/
theorem follows_selectTicket {ownerId : Int}
    {post : Except Exn (Option Ticket) → Pending → Prop}
    (unlocked : g.tickets id = none) (fault : ∀ e, post (.error e) g) (absent : post (.ok none) g)
    (found : ∀ ticket, ticket.ownerId = ownerId → post (.ok (some ticket))
      (((g.learn (.ticket id ticket.identity)).learn (.typeBorn ticket.ticketTypeId)).see
        (.ticket ownerId id ticket))) :
    (discipline d acts office).Follows exec t post (sql (.selectTicket id ownerId)) g := by
  refine follows_sql not_false not_false fault
    fun db db' clock order answer right integral _ ran => ?_
  obtain ⟨rfl, same⟩ := DbCmd.run_selectTicket ran
  rw [same]
  cases selected : db.selectTicket t id ownerId with
  | none => exact ⟨g, right, rfl, .nothing rfl (by rintro _ ⟨⟩), absent⟩
  | some ticket =>
      obtain ⟨read, owned⟩ := DbCmd.selectTicket_some selected
      have here := version_of_read read
      have stored : (db.tickets.row id).isSome := by
        rw [← right.tickets.read_of_none unlocked, read]
        rfl
      have ticketFact : (Fact.ticket id ticket.identity).True db :=
        ⟨.of_row stored, integral.tickets.fixed here⟩
      have typeFact : (Fact.typeBorn ticket.ticketTypeId).True db := integral.born id ticket here
      exact ⟨_, ((right.learn ticketFact).learn typeFact).see, rfl,
        .see rfl (.ticket ownerId id ticket) (by rintro _ ⟨⟩), found ticket owned⟩

/-- `SELECT ... FOR UPDATE`. -/
theorem follows_selectTicketForUpdate {ownerId : Option Int}
    {post : Except Exn (Option Ticket) → Pending → Prop} (unlocked : g.tickets id = none)
    (fault : ∀ e, post (.error e) g) (absent : post (.ok none) g)
    (found : ∀ ticket, Database.matchesOwner ticket ownerId → post (.ok (some ticket))
      ((g.learn (.typeBorn ticket.ticketTypeId)).setTicket id (some ticket) (some ticket))) :
    (discipline d acts office).Follows exec t post (sql (.selectTicketForUpdate id ownerId)) g := by
  refine follows_sql not_false not_false fault
    fun db db' clock order answer right integral effect ran => ?_
  have committed := right.tickets.read_of_none unlocked
  simp only [DbCmd.run, Database.selectTicketForUpdate] at ran
  split at ran
  · cases ran
    exact ⟨g, right, rfl, .nothing rfl (by rintro _ ⟨⟩), absent⟩
  · rename_i ticket read
    split at ran
    · cases ran
      exact ⟨g, right, rfl, .nothing rfl (by rintro _ ⟨⟩), absent⟩
    · rename_i owned
      split at ran
      · cases ran
        have fact : (Fact.typeBorn ticket.ticketTypeId).True db :=
          integral.born id ticket (version_of_read read)
        have next := (right.learn fact).holdTicket effect (by rw [read]; rfl)
        rw [← committed, read] at next
        exact ⟨_, next, rfl, .nothing rfl (by rintro _ ⟨⟩), found ticket (not_not.mp owned)⟩
      · cases ran

/-- The flush of a changed status, of a ticket that is locked. -/
theorem follows_updateTicketStatus {status : TicketStatus} {base : Option Ticket} {ticket : Ticket}
    {post : Except Exn Unit → Pending → Prop} (locked : g.tickets id = some (base, some ticket))
    (fault : ∀ e, post (.error e) g)
    (updated : post (.ok ()) (g.setTicket id base (some (ticket.withStatus status)))) :
    (discipline d acts office).Follows exec t post (sql (.updateTicketStatus id status)) g := by
  refine follows_sql not_false not_false fault
    fun db db' clock order answer right _ effect ran => ?_
  rcases DbCmd.run_updateTicketStatus ran with ⟨rfl, rfl⟩ | ⟨found, read, _, rfl, rfl⟩
  · exact ⟨g, right, rfl, .nothing rfl (by rintro _ ⟨⟩), fault _⟩
  · have next := right.holdTicket effect (by rw [read]; rfl)
    rw [right.tickets.read_of_lock locked] at read
    cases read
    rw [right.tickets.row_of_lock locked] at next
    exact ⟨_, next, rfl, .nothing rfl (by rintro _ ⟨⟩), updated⟩

/-- `DELETE FROM tickets`, of a loaded ticket. -/
theorem follows_deleteTicket {identity : Int × Int} {post : Except Exn Unit → Pending → Prop}
    (unlocked : g.tickets id = none) (known : g.knows (.ticket id identity))
    (fault : ∀ e, post (.error e) g) (absent : post (.ok ()) (g.learn (.ticketGone id)))
    (deleted : ∀ ticket : Ticket, ticket.identity = identity →
      post (.ok ()) (g.setTicket id (some ticket) none)) :
    (discipline d acts office).Follows exec t post (sql (.deleteTicket id)) g := by
  refine follows_sql not_false not_false fault
    fun db db' clock order answer right _ effect ran => ?_
  have committed := right.tickets.read_of_none unlocked
  obtain ⟨born, fixed⟩ : (Fact.ticket id identity).True db := right.knows _ known
  rcases DbCmd.run_deleteTicket ran with ⟨none, rfl, same⟩ | ⟨some, _, rfl, rfl⟩
  · rw [committed] at none
    rw [same]
    have fact : (Fact.ticketGone id).True db := ⟨born, none⟩
    exact ⟨_, right.learn fact, rfl, .nothing rfl (by rintro _ ⟨⟩), absent⟩
  · obtain ⟨ticket, read⟩ := Option.isSome_iff_exists.mp some
    have next := right.holdTicket effect some
    rw [← committed, read] at next
    exact ⟨_, next, rfl, .nothing rfl (by rintro _ ⟨⟩),
      deleted ticket (fixed.agrees ticket (version_of_read read))⟩

/-- One row of the garbage collector's `UPDATE`. -/
theorem follows_cancelHungTicket {threshold : Int}
    {post : Except Exn (Option (Int × Int)) → Pending → Prop}
    (settled : ∀ base ticket, g.tickets id = some (base, some ticket) →
      ticket.status ≠ .reserved)
    (fault : ∀ e, post (.error e) g) (spared : post (.ok none) g)
    (canceled : ∀ ticket : Ticket, g.tickets id = none → Database.Hung threshold ticket →
      post (.ok (some (id, ticket.ticketTypeId)))
        (((g.learn (.typeBorn ticket.ticketTypeId)).setTicket
        id (some ticket) (some (ticket.withStatus .canceled))).see (.canceled id))) :
    (discipline d acts office).Follows exec t post (sql (.cancelHungTicket id threshold)) g := by
  refine follows_sql not_false not_false fault
    fun db db' clock order answer right integral effect ran => ?_
  rcases DbCmd.run_cancelHungTicket ran with ⟨rfl, rfl⟩ | ⟨ticket, read, _, hung, rfl, rfl⟩
  · exact ⟨g, right, rfl, .nothing rfl (by rintro _ ⟨⟩), spared⟩
  · have unlocked : g.tickets id = none := by
      cases lock : g.tickets id with
      | none => rfl
      | some versions =>
          obtain ⟨base, version⟩ := versions
          rw [right.tickets.read_of_lock lock] at read
          subst read
          exact (settled base ticket lock hung.1).elim
    have fact : (Fact.typeBorn ticket.ticketTypeId).True db :=
      integral.born id ticket (version_of_read read)
    have next := (right.learn fact).holdTicket effect (by rw [read]; rfl)
    rw [← right.tickets.read_of_none unlocked, read] at next
    exact ⟨_, next.see, rfl, .see rfl (.canceled id threshold _)
      fun _ shows => by cases shows; rfl,
      canceled ticket unlocked hung⟩

/-- `INSERT INTO tickets`, once the count of the type has been taken up: the type is locked, or has
gone. -/
theorem follows_insertTicket {ownerId ticketTypeId : Int}
    {post : Except Exn Int → Pending → Prop}
    (counted : (∃ row row', g.types ticketTypeId = some (some row, some row')) ∨
      g.knows (.typeGone ticketTypeId))
    (fault : ∀ e, post (.error e) g)
    (inserted : ∀ id clock, ¬ g.knows (.typeGone ticketTypeId) → post (.ok id)
      ((g.learn (.user ownerId)).setTicket id none
        (some ⟨ticketTypeId, ownerId, .reserved, clock⟩))) :
    (discipline d acts office).Follows exec t post
      (sql (.insertTicket ownerId ticketTypeId)) g := by
  refine follows_effect not_false fault fun db db' clock order answer right _ ran => ?_
  have effect : db.Effect t { db with tickets := db.tickets.skip } := .skipTicket
  have skipped : g.Right { db with tickets := db.tickets.skip } t :=
    ⟨right.tickets.skip, right.types, right.events,
      fun f known => (right.knows f known).effect effect⟩
  rcases DbCmd.run_insertTicket ran with
    ⟨_, rfl, rfl⟩ | ⟨_, rfl, rfl⟩ | ⟨present, user, rfl, rfl⟩
  · exact ⟨effect, g, skipped, rfl, .nothing rfl (by rintro _ ⟨⟩), fault _⟩
  · exact ⟨effect, g, skipped, rfl, .nothing rfl (by rintro _ ⟨⟩), fault _⟩
  · have stays : ¬ g.knows (.typeGone ticketTypeId) := fun known => by
      have gone : db.ticketTypes.Gone ticketTypeId := right.knows _ known
      rw [gone.read] at present
      cases present
    obtain ⟨row, row', locked⟩ := counted.resolve_right stays
    have born : db.ticketTypes.Born ticketTypeId :=
      .of_row (by rw [right.types.row_of_lock locked]; rfl)
    have effect : db.Effect t { db with
        tickets := db.tickets.insert t ⟨ticketTypeId, ownerId, .reserved, clock⟩ } :=
      .newTicket _ born user (heldBy_eq_some.mp (right.types.heldBy_of_lock locked))
    have fact : (Fact.user ownerId).True db := user
    have learned := right.learn fact
    have next : ((g.learn (.user ownerId)).setTicket db.tickets.next none
        (some ⟨ticketTypeId, ownerId, .reserved, clock⟩)).Right { db with
          tickets := db.tickets.insert t ⟨ticketTypeId, ownerId, .reserved, clock⟩ } t :=
      ⟨learned.tickets.insert_self, learned.types, learned.events,
        fun f known => (learned.knows f known).effect effect⟩
    exact ⟨effect, _, next, rfl, .nothing rfl (by rintro _ ⟨⟩), inserted _ clock stays⟩

/-! ## Events -/

/-- `INSERT INTO events`. -/
theorem follows_insertEvent {data : EventCreate} {post : Except Exn Int → Pending → Prop}
    (fault : ∀ e, post (.error e) g)
    (inserted : ∀ id, post (.ok id) (g.setEvent id none (some data.row))) :
    (discipline d acts office).Follows exec t post (sql (.insertEvent data)) g := by
  refine follows_sql not_false not_false fault
    fun db db' clock order answer right _ effect ran => ?_
  cases ran
  have next : (g.setEvent db.events.next none (some data.row)).Right
      { db with events := db.events.insert t data.row } t :=
    ⟨right.tickets, right.types, right.events.insert_self,
      fun f known => (right.knows f known).effect effect⟩
  exact ⟨_, next, rfl, .nothing rfl (by rintro _ ⟨⟩), inserted _⟩

/-- `UPDATE events`, of a loaded row. -/
theorem follows_updateEvent {data : EventUpdate} {post : Except Exn Unit → Pending → Prop}
    (unlocked : g.events id = none) (fault : ∀ e, post (.error e) g)
    (updated : ∀ event event', data.apply event = .ok event' →
      post (.ok ()) (g.setEvent id (some event) (some event'))) :
    (discipline d acts office).Follows exec t post (sql (.updateEvent id data)) g := by
  refine follows_sql not_false not_false fault
    fun db db' clock order answer right _ effect ran => ?_
  have committed := right.events.read_of_none unlocked
  simp only [DbCmd.run, Database.updateEvent] at ran
  split at ran
  · cases ran
    exact ⟨g, right, rfl, .nothing rfl (by rintro _ ⟨⟩), fault _⟩
  · rename_i event read
    split at ran
    · split at ran
      · rename_i event' ok
        cases ran
        have next := right.holdEvent effect (by rw [read]; rfl)
        rw [← committed, read] at next
        exact ⟨_, next, rfl, .nothing rfl (by rintro _ ⟨⟩), updated event event' ok⟩
      · cases ran
        exact ⟨g, right, rfl, .nothing rfl (by rintro _ ⟨⟩), fault _⟩
    · cases ran

/-- `DELETE FROM events`, of a loaded row. -/
theorem follows_deleteEvent {ticketTypeIds : List Int} {post : Except Exn Unit → Pending → Prop}
    (unlocked : g.events id = none) (fault : ∀ e, post (.error e) g) (absent : post (.ok ()) g)
    (deleted : ∀ event, post (.ok ()) (g.setEvent id (some event) none)) :
    (discipline d acts office).Follows exec t post (sql (.deleteEvent id ticketTypeIds)) g := by
  refine follows_sql not_false not_false fault
    fun db db' clock order answer right _ effect ran => ?_
  have committed := right.events.read_of_none unlocked
  simp only [DbCmd.run, Database.deleteEvent] at ran
  split at ran
  · split at ran
    · cases ran
      exact ⟨g, right, rfl, .nothing rfl (by rintro _ ⟨⟩), fault _⟩
    · cases ran
  · split at ran
    · cases ran
      exact ⟨g, right, rfl, .nothing rfl (by rintro _ ⟨⟩), fault _⟩
    · split at ran
      · cases ran
        exact ⟨g, right, rfl, .nothing rfl (by rintro _ ⟨⟩), absent⟩
      · rename_i event read
        split at ran
        · cases ran
        · split at ran
          · cases ran
            exact ⟨g, right, rfl, .nothing rfl (by rintro _ ⟨⟩), fault _⟩
          · cases ran
            have next := right.holdEvent effect (by rw [read]; rfl)
            rw [← committed, read] at next
            exact ⟨_, next, rfl, .nothing rfl (by rintro _ ⟨⟩), deleted event⟩

/-! ## The end of a transaction -/

/-- With the tables as they are, a commit of these locks is one of the request. -/
def Ready (d : Deployment) (activity : Activity) (g : Pending) : Prop :=
  ∀ (ι : Type) [DecidableEq ι] (db : Database ι) (t : ι), db.Integral → g.Right db t →
    db.office.Commits d.ticketReservationTimeSeconds g.shown activity (db.commit t).office

/-- A commit of these locks changes nothing. -/
def Idle (g : Pending) : Prop :=
  (∀ id lock, g.tickets id = some lock → lock.2 = lock.1) ∧
    (∀ id lock, g.types id = some lock → lock.2 = lock.1) ∧
    ∀ id lock, g.events id = some lock → lock.2 = lock.1

theorem right_ended (right : g.Right db t) (effect : db.Effect t db')
    (ended : db' = db.commit t ∨ db' = db.rollback t) : g.ended.Right db' t := by
  rcases ended with rfl | rfl
  · exact ⟨Holds.commit_self, Holds.commit_self, Holds.commit_self,
      fun f known => (right.knows f known).effect effect⟩
  · exact ⟨Holds.rollback_self, Holds.rollback_self, Holds.rollback_self,
      fun f known => (right.knows f known).effect effect⟩

/-- What is new is there once it is committed. -/
theorem right_done (right : g.Right db t) : g.done.Right (db.commit t) t where
  tickets := Holds.commit_self
  types := Holds.commit_self
  events := Holds.commit_self
  knows f known := by
    rcases known with known | ⟨id, base, row, rfl, locked⟩
    · exact (right.knows f known).effect .commit
    · refine Born.of_row ?_
      show ((db.ticketTypes.commit t).row id).isSome
      rw [commit_row, right.types.read_of_lock locked]
      rfl

/-- **A commit.** -/
theorem follows_commit {post : Except Exn Unit → Pending → Prop} (ready : Ready d (acts t) g)
    (first : g.committed = false) (fault : ∀ e, post (.error e) g) (ok : post (.ok ()) g.done) :
    (discipline d acts office).Follows exec t post (sql .commit) g := by
  refine follows_call fault fun events w ghost choice answer w' inv own ran => ?_
  obtain ⟨db', done, rfl⟩ := Cmd.run_db ran
  cases done
  subst own
  exact ⟨_, inv.next .commit (fun _ key => .inl key) (right_done (inv.right t))
    (.inr ⟨rfl, ready ι w.db t inv.integral (inv.right t), first, rfl⟩)
    (.nothing rfl (by rintro _ ⟨⟩)), ok⟩

theorem office_of_idle (idle : Idle g) (right : g.Right db t) :
    (db.commit t).office = db.office := by
  have same : ∀ {Row : Type} {m : Locks Row} {s : RowStore ι Row}, s.Holds t m →
      (∀ id lock, m id = some lock → lock.2 = lock.1) → m.apply s.row = s.row := by
    intro Row m s holds unchanged
    funext id
    unfold Locks.apply
    cases locked : m id with
    | none => rfl
    | some lock => exact (unchanged id lock locked).trans (holds.base id lock locked).symm
  rw [right.commit_office]
  unfold Database.office
  rw [same right.types idle.2.1, same right.tickets idle.1, same right.events idle.2.2]

/-- A commit of nothing. -/
theorem follows_commit_idle {post : Except Exn Unit → Pending → Prop} (idle : Idle g)
    (fault : ∀ e, post (.error e) g) (ok : post (.ok ()) g.ended) :
    (discipline d acts office).Follows exec t post (sql .commit) g := by
  refine follows_call fault fun events w ghost choice answer w' inv own ran => ?_
  obtain ⟨db', done, rfl⟩ := Cmd.run_db ran
  cases done
  subst own
  exact ⟨_, inv.next .commit (fun _ key => .inl key)
    (right_ended (inv.right t) .commit (.inl rfl))
    (.inl ⟨office_of_idle idle (inv.right t), rfl⟩) (.nothing rfl (by rintro _ ⟨⟩)), ok⟩

theorem follows_rollback {post : Except Exn Unit → Pending → Prop}
    (fault : ∀ e, post (.error e) g)
    (ok : post (.ok ()) g.ended) : (discipline d acts office).Follows exec t post
      (sql .rollback) g := by
  refine follows_call fault fun events w ghost choice answer w' inv own ran => ?_
  obtain ⟨db', done, rfl⟩ := Cmd.run_db ran
  cases done
  subst own
  exact ⟨_, inv.next .rollback (fun _ key => .inl key)
    (right_ended (inv.right t) .rollback (.inr rfl)) (.inl ⟨rfl, rfl⟩)
    (.nothing rfl (by rintro _ ⟨⟩)), ok⟩

/-- `session.close()`, which cannot fail. -/
theorem follows_close {post : Except Exn Unit → Pending → Prop} (ok : post (.ok ()) g.ended) :
    (discipline d acts office).Follows exec t post (sql .close) g := by
  refine Discipline.Follows.call fun events w ghost choice answer w' inv own ran _ => ?_
  have inv : Inv d acts office events w ghost := inv
  rcases exec_cases ran with ⟨_, _, may, _⟩ | ran
  · cases may
  · obtain ⟨db', done, rfl⟩ := Cmd.run_db ran
    cases done
    subst own
    exact ⟨_, inv.next .rollback (fun _ key => .inl key)
      (right_ended (inv.right t) .rollback (.inr rfl)) (.inl ⟨rfl, rfl⟩)
      (.nothing rfl (by rintro _ ⟨⟩)), ok⟩

end TicketCore.CommitOrder
