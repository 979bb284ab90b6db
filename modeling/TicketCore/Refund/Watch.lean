import TicketCore.Interleave.Run
import TicketCore.Refund.Account

/-!
# Watching a ticket

Runs of `reconcile_redis_orphans`, perhaps next to an owner who returns the slot of one ticket
himself. A `Watch` is the account of that ticket together with what it takes to say which of the
collectors' steps oblige them to refund it (`due`), and with whatever else the threads keep
(`also`). A thread's `Part` is how far it has come with the ticket.

* `Watch.Inv` says that the account has been credited once by the refund script, if the ticket is in
  the set of the processed tickets, and once by the owner, if he has got to it; and that the ticket
  is refunded only after a step that obliges to it.
* `follows_call` is the rule for one call, and `follows_refund` the one for a refund script.
-/

namespace TicketCore

open Interleave

/-- How far a thread has come with the ticket. -/
inductive Part
  /-- Nothing is known, or nothing is left to do. -/
  | idle
  /-- The ticket's entry is listed. -/
  | listed
  /-- The refund is due and still to come. -/
  | owing
  /-- The ticket is refunded. -/
  | done
  /-- A call has raised. -/
  | failed
  /-- The owner has returned the slot. -/
  | returned

namespace Part

/-- A refund may be due that has not come. -/
def Pending : Part → Prop
  | owing | failed => True
  | _ => False

/-- One for an owner who has returned the slot. -/
def gave : Part → Nat
  | returned => 1
  | _ => 0

/-- A call raises. -/
def raised : Part → Part
  | returned => returned
  | _ => failed

theorem raised_gave (g : Part) : g.raised.gave = g.gave := by
  cases g <;> rfl

theorem raised_pending {g : Part} (h : g.Pending) : g.raised.Pending := by
  cases g with
  | owing | failed => trivial
  | _ => exact h.elim

end Part

/-- A call by which a collector looks at the clock or at the database. -/
def Looks : Cmd → Prop
  | .now | .db (.selectStatuses _) => True
  | _ => False

/-- An account, with what the collectors go by. -/
structure Watch (ι : Type) [DecidableEq ι] where
  account : Account
  /-- The ticket was refunded before. -/
  refunded : Bool
  /-- The timestamps its entry can have. -/
  Stamped : Int → Prop
  /-- The event obliges the collectors to refund the ticket. -/
  Due : CallEvent ι → Prop
  looks : ∀ e, Due e → Looks e.cmd
  /-- What the threads keep besides. -/
  Also : World ι → Prop
  also_refund : ∀ w ticketTypeId ticketId, Also w →
      Also (account.refund w ticketTypeId ticketId)
  /-- The thread that returns the slot itself. -/
  owner : Option ι
  also_rollback : ∀ w t, owner ≠ some t → Also w → Also { w with db := w.db.rollback t }

namespace Watch

variable {ι : Type} [DecidableEq ι] (K : Watch ι)

/-- A lock on the ticket is one that its booking has written. -/
def Fits (lock : Reservation) : Prop :=
  lock.ticketId = K.account.ticketId →
    lock.ticketTypeId = K.account.ticketTypeId ∧ K.Stamped lock.timestamp

/-- The entries are read as locks that fit. -/
def Consistent (entries : List (String × String)) : Prop :=
  ∀ entry ∈ entries, ∀ lock, readReservation entry = some lock → K.Fits lock

/-- What a thread can rely on. -/
def Knows (events : List (CallEvent ι)) (w : World ι) : Part → Prop
  | .owing => ∃ e ∈ events, K.Due e
  | .done => K.account.Refunded w
  | _ => True

/-- The owner's share of the credits. -/
def given (ghost : ι → Part) : Nat := K.owner.elim 0 fun t => (ghost t).gave

/-- The invariant of a watch. -/
structure Inv (events : List (CallEvent ι)) (w : World ι) (ghost : ι → Part) : Prop where
  key : (K.account.counter w).isSome
  consistent : K.Consistent (K.account.entries w)
  kept : K.refunded → K.account.Refunded w
  credited : K.account.credits events + K.refunded.toNat =
    (decide (K.account.Refunded w)).toNat + K.given ghost
  settled : K.account.Refunded w → K.refunded ∨ ∃ e ∈ events, K.Due e
  owed : (∃ e ∈ events, K.Due e) → K.account.Refunded w ∨ ∃ t, (ghost t).Pending
  knows : ∀ t, K.Knows events w (ghost t)
  also : K.Also w

/-- The discipline of a watch. -/
def discipline : Discipline ι (World ι) Cmd Cmd.Resp Exn Choice Part where
  guard _ := True
  inv := K.Inv

variable {K} {events : List (CallEvent ι)} {w w' : World ι} {ghost : ι → Part}
  {t : ι} {g g' : Part} {cmd : Cmd} {choice : Choice} {answer : Except Exn cmd.Resp}

theorem Knows.later {e : CallEvent ι} (h : K.Knows events w g)
    (kept : K.account.Refunded w → K.account.Refunded w') : K.Knows (events ++ [e]) w' g := by
  cases g with
  | owing =>
      obtain ⟨e, mem, due⟩ := h
      exact ⟨e, List.mem_append_left _ mem, due⟩
  | done => exact kept h
  | idle | listed | failed | returned => trivial

theorem given_update (owner : g'.gave ≠ (ghost t).gave → K.owner = some t) :
    K.given (Function.update ghost t g') + (ghost t).gave = K.given ghost + g'.gave := by
  unfold given
  cases thread : K.owner with
  | none =>
      have same : g'.gave = (ghost t).gave := by
        by_contra changed
        have := owner changed
        rw [thread] at this
        cases this
      show 0 + _ = 0 + _
      rw [same]
  | some u =>
      show (Function.update ghost t g' u).gave + _ = (ghost u).gave + _
      by_cases acting : u = t
      · subst acting
        rw [Function.update_self, add_comm]
      · rw [Function.update_of_ne acting]
        have same : g'.gave = (ghost t).gave := by
          by_contra changed
          have := owner changed
          rw [thread] at this
          exact acting (Option.some.inj this)
        rw [same]

/-- One more event, and what it owes to keep the invariant. -/
theorem Inv.next (h : K.Inv events w ghost) (own : ghost t = g)
    (key : (K.account.counter w').isSome) (consistent : K.Consistent (K.account.entries w'))
    (kept : K.account.Refunded w → K.account.Refunded w')
    (balance : (K.account.credit ⟨t, cmd, choice, answer, w, w'⟩).toNat +
      (decide (K.account.Refunded w)).toNat + g.gave =
        (decide (K.account.Refunded w')).toNat + g'.gave)
    (owner : g'.gave ≠ g.gave → K.owner = some t)
    (settled : K.account.Refunded w' → K.account.Refunded w ∨ ∃ e ∈ events, K.Due e)
    (owed : K.Due ⟨t, cmd, choice, answer, w, w'⟩ → K.account.Refunded w' ∨ g'.Pending)
    (pending : g.Pending → K.account.Refunded w' ∨ g'.Pending)
    (knows : K.Knows (events ++ [⟨t, cmd, choice, answer, w, w'⟩]) w' g') (also : K.Also w') :
    K.Inv (events ++ [⟨t, cmd, choice, answer, w, w'⟩]) w' (Function.update ghost t g') := by
  subst own
  have here : g'.Pending → ∃ u, (Function.update ghost t g' u).Pending := fun pending =>
    ⟨t, by rwa [Function.update_self]⟩
  refine ⟨key, consistent, fun earlier => kept (h.kept earlier), ?_, fun refunded => ?_,
    fun due => ?_, ?_, also⟩
  · have given : K.given (Function.update ghost t g') + (ghost t).gave = K.given ghost + g'.gave :=
      given_update owner
    have credited := h.credited
    rw [Account.credits_append]
    omega
  · rcases settled refunded with before | ⟨e, mem, due⟩
    · rcases h.settled before with earlier | ⟨e, mem, due⟩
      · exact .inl earlier
      · exact .inr ⟨e, List.mem_append_left _ mem, due⟩
    · exact .inr ⟨e, List.mem_append_left _ mem, due⟩
  · obtain ⟨e, mem, due⟩ := due
    rcases List.mem_append.mp mem with mem | mem
    · rcases h.owed ⟨e, mem, due⟩ with refunded | ⟨u, still⟩
      · exact .inl (kept refunded)
      · by_cases acting : u = t
        · subst acting
          exact (pending still).imp_right here
        · exact .inr ⟨u, by rwa [Function.update_of_ne acting]⟩
    · rw [List.mem_singleton.mp mem] at due
      exact (owed due).imp_right here
  · exact (Function.forall_update_iff ghost fun _ g =>
      K.Knows (events ++ [⟨t, cmd, choice, answer, w, w'⟩]) w' g).mpr
        ⟨knows, fun u _ => (h.knows u).later kept⟩

/-- An event that is not on account of the ticket. -/
theorem Inv.still (h : K.Inv events w ghost) (own : ghost t = g)
    (key : (K.account.counter w').isSome)
    (entries : ∀ entry ∈ K.account.entries w', entry ∈ K.account.entries w)
    (same : K.account.Refunded w' ↔ K.account.Refunded w)
    (uncredited : K.account.credit ⟨t, cmd, choice, answer, w, w'⟩ = false)
    (gave : g'.gave = g.gave)
    (owed : K.Due ⟨t, cmd, choice, answer, w, w'⟩ → K.account.Refunded w' ∨ g'.Pending)
    (pending : g.Pending → K.account.Refunded w' ∨ g'.Pending)
    (knows : K.Knows (events ++ [⟨t, cmd, choice, answer, w, w'⟩]) w' g') (also : K.Also w') :
    K.Inv (events ++ [⟨t, cmd, choice, answer, w, w'⟩]) w' (Function.update ghost t g') := by
  refine h.next own key (fun entry mem => h.consistent entry (entries entry mem)) same.mpr ?_
    (fun changed => (changed gave).elim) (fun refunded => .inl (same.mp refunded)) owed pending
    knows also
  have decided : decide (K.account.Refunded w') = decide (K.account.Refunded w) :=
    decide_eq_decide.mpr same
  rw [uncredited, decided, gave, Bool.toNat_false, zero_add]

/-- An event that leaves Redis alone. -/
theorem Inv.aside (h : K.Inv events w ghost) (own : ghost t = g) (redis : w'.redis = w.redis)
    (gave : g'.gave = g.gave)
    (owed : K.Due ⟨t, cmd, choice, answer, w, w'⟩ → K.account.Refunded w' ∨ g'.Pending)
    (pending : g.Pending → K.account.Refunded w' ∨ g'.Pending)
    (knows : K.Knows (events ++ [⟨t, cmd, choice, answer, w, w'⟩]) w' g') (also : K.Also w') :
    K.Inv (events ++ [⟨t, cmd, choice, answer, w, w'⟩]) w' (Function.update ghost t g') := by
  have counter : K.account.counter w' = K.account.counter w := by
    unfold Account.counter
    rw [redis]
  refine h.still own (by rw [counter]; exact h.key) ?_ ?_ (Account.not_credit_of_same counter) gave
    owed pending knows also
  · unfold Account.entries
    rw [redis]
    exact fun _ mem => mem
  · unfold Account.Refunded
    rw [redis]

/-- The rule for one call: it raises, or is executed. -/
theorem follows_call {cmd : Cmd} {post : Except Exn cmd.Resp → Part → Prop}
    (calm : g.raised.Pending ∨ ¬ Looks cmd)
    (fault : cmd.mayFail → ∀ e, post (.error e) g.raised)
    (run : ∀ events w ghost choice answer w', K.Inv events w ghost → ghost t = g →
      cmd.run t choice w = some (answer, w') →
        ∃ g', K.Inv (events ++ [⟨t, cmd, choice, answer, w, w'⟩]) w'
          (Function.update ghost t g') ∧
          post answer g') :
    K.discipline.Follows exec t post (.call cmd) g := by
  refine Discipline.Follows.call fun events w ghost choice answer w' inv own ran _ => ?_
  have inv : K.Inv events w ghost := inv
  rcases exec_cases ran with ⟨e, _, may, rfl, rfl⟩ | ran
  · refine ⟨g.raised, inv.aside own rfl (Part.raised_gave g) (fun due => ?_)
      (fun pending => .inr (Part.raised_pending pending)) ?_ inv.also, fault may e⟩
    · exact .inr (calm.resolve_right fun quiet => quiet (K.looks _ due))
    · have knows := inv.knows t
      rw [own] at knows
      cases g with
      | returned => trivial
      | _ => trivial
  · exact run events w ghost choice answer w' inv own ran

/-! ## Refunds -/

/-- The refund script for a lock that fits. -/
theorem follows_refund {lock : Reservation} {post : Except Exn Unit → Part → Prop}
    (fits : K.Fits lock) (collector : g.gave = 0) (fault : ∀ e, post (.error e) .failed)
    (ready : lock.ticketId = K.account.ticketId → (g = .owing ∨ g = .done) ∧
      post (.ok ()) .done)
    (other : lock.ticketId ≠ K.account.ticketId → post (.ok ()) g) :
    K.discipline.Follows exec t post (RedisKeys.refundInventoryIdempotent K.account.database
      lock.ticketTypeId lock.ticketId) g := by
  have raised : g.raised = .failed := by
    cases g with
    | returned => cases collector
    | _ => rfl
  refine follows_call (.inr fun looks => looks.elim) (fun _ => by rw [raised]; exact fault)
    fun events w ghost choice answer w' inv own ran => ?_
  obtain ⟨a, r, done, rfl, changed⟩ := Cmd.run_redis ran
  cases done
  have changed : w' = K.account.refund w lock.ticketTypeId lock.ticketId := changed
  subst changed
  have knows := inv.knows t
  rw [own] at knows
  have key : (K.account.counter (K.account.refund w lock.ticketTypeId lock.ticketId)).isSome :=
    Account.counter_refund_isSome inv.key
  have also := K.also_refund w lock.ticketTypeId lock.ticketId inv.also
  by_cases mine : lock.ticketId = K.account.ticketId
  · obtain ⟨owing, posted⟩ := ready mine
    have after : K.account.Refunded (K.account.refund w lock.ticketTypeId lock.ticketId) :=
      Account.refunded_refund.mpr (.inl mine)
    refine ⟨.done, inv.next own key
      (fun entry mem => inv.consistent entry (Account.mem_entries_refund mem)) (fun _ => after) ?_
      (fun changed => (changed collector.symm).elim) (fun _ => ?_) (fun _ => .inl after)
      (fun _ => .inl after) after also, posted⟩
    · rw [decide_eq_true after, collector]
      by_cases refunded : K.account.Refunded w
      · rw [decide_eq_true refunded, Account.not_credit_of_same]
        · rfl
        · rw [mine]
          exact Account.counter_refund_of_refunded refunded
      · obtain ⟨k, value⟩ := Option.isSome_iff_exists.mp inv.key
        rw [decide_eq_false refunded, Account.credit_of_moves _ value]
        · rfl
        · rw [mine, (fits mine).1]
          exact (Account.counter_refund_of_fresh refunded).trans (by rw [value]; rfl)
        · exact decide_eq_true ⟨rfl, by rw [mine]⟩
    · rcases owing with rfl | rfl
      · exact .inr knows
      · exact .inl knows
  · have same : K.account.Refunded (K.account.refund w lock.ticketTypeId lock.ticketId) ↔
        K.account.Refunded w := Account.refunded_refund.trans (or_iff_right mine)
    refine ⟨g, inv.still own key (fun entry => Account.mem_entries_refund) same
      (Account.not_credit ?_) rfl (fun due => (K.looks _ due).elim) .inr
      (knows.later same.mpr) also,
      other mine⟩
    exact decide_eq_false fun h => mine (DecimalText.toString_injective h.2)

end Watch

end TicketCore
