import TicketCore.Booking.Operations

/-!
# Runs of the operations on tickets

`Booking.config` is any number of threads that each run an operation on tickets, from a database in
which no transaction is open. `holds_run` is the booking discipline for its runs.
-/

namespace TicketCore

open Interleave RowStore

variable {ι : Type} [DecidableEq ι]

namespace Database

/-- No transaction is open. -/
def Quiet (db : Database ι) : Prop := db.tickets.Quiet ∧ db.ticketTypes.Quiet

instance (db : Database ι) : Decidable db.Quiet := inferInstanceAs (Decidable (_ ∧ _))

/-- `tickets.ticket_type_id REFERENCES ticket_types (id)`. -/
def ForeignKeys (db : Database ι) : Prop :=
  ∀ id ticket, db.tickets.row id = some ticket →
    (db.ticketTypes.row ticket.ticketTypeId).isSome

omit [DecidableEq ι] in
theorem foreignKeys_iff {db : Database ι} : db.ForeignKeys ↔
    ∀ id ∈ serials db.tickets.issued, (db.tickets.row id).all fun ticket =>
      (db.ticketTypes.row ticket.ticketTypeId).isSome := by
  constructor
  · intro keys id _
    cases stored : db.tickets.row id with
    | none => rfl
    | some ticket => exact keys id ticket stored
  · intro within id ticket stored
    have known := db.tickets.row_issued id (by rw [stored]; rfl)
    have checked := within id (mem_serials.mpr known)
    rw [stored] at checked
    exact checked

instance (db : Database ι) : Decidable db.ForeignKeys := decidable_of_iff _ foreignKeys_iff.symm

omit [DecidableEq ι] in
theorem Quiet.typed {db : Database ι} (quiet : db.Quiet) (keys : db.ForeignKeys) : db.Typed where
  foreignKey id ticket held := keys id ticket (version_of_quiet quiet.1 held)
  oneType id ticket ticket' held held' := by
    have stored := version_of_quiet quiet.1 held
    rw [version_of_quiet quiet.1 held'] at stored
    cases stored
    rfl

end Database

namespace Booking

/-- Threads that are each about to run their operation. -/
def config (ops : ι → Operation) (d : Deployment) (w : World ι) :
    Config ι (World ι) Cmd Cmd.Resp Exn Unit :=
  ⟨w, fun t => (ops t).program d⟩

variable {ops : ι → Operation} {d : Deployment} {w : World ι}
  {events : List (CallEvent ι)} {c : Config ι (World ι) Cmd Cmd.Resp Exn Unit}

/-- The invariant holds where no transaction is open. -/
theorem Inv.start (quiet : w.db.Quiet) (keys : w.db.ForeignKeys) :
    Inv ⟨ops, w.db⟩ [] w fun _ => .idle false where
  tickets _ := .of_quiet quiet.1
  types _ := .of_quiet quiet.2
  kept _ := .idle
  seen _ _ _ known := by cases known
  claim _ _ _ claimed := by cases claimed
  typed := quiet.typed keys
  balanced := .refl _
  history _ mem := by cases mem
  committed _ done := by cases done
  unaborted _ _ mem := by cases mem

/-- The booking discipline holds after every run in which deletions count down active tickets. -/
theorem holds_run (onTickets : ∀ t, OnTickets (ops t)) (quiet : w.db.Quiet)
    (keys : w.db.ForeignKeys) (run : Config.Run exec (config ops d w) events c)
    (guarded : ∀ e ∈ events, deletesActive ops e) :
    (discipline ⟨ops, w.db⟩).Holds exec (fun t => Owes (ops t)) events c := by
  have start : (discipline ⟨ops, w.db⟩).Holds exec (fun t => Owes (ops t)) []
      (config ops d w) :=
    ⟨fun _ => .idle false, Inv.start quiet keys, fun t =>
      follows_program (B := ⟨ops, w.db⟩) (onTickets t)⟩
  exact start.run run guarded

omit [DecidableEq ι] in
/-- Without deletions there is nothing to guard. -/
theorem deletesActive_of_no_deletes
    (none : ∀ t ownerId ticketId, ops t ≠ .delete ownerId ticketId)
    (e : CallEvent ι) : deletesActive ops e := by
  unfold deletesActive
  split
  · rename_i same _
    exact (none _ _ _ same).elim
  · rfl

end Booking

end TicketCore
