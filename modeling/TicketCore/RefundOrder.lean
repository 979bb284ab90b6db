import TicketCore.Interleave.Run
import TicketCore.Reconcile.Refunds
import TicketCore.Worker
import Mathlib.Data.Fin.VecNotation

/-!
# Refunds in any order

Any number of callers call `refund_inventory_idempotent`, again and again, and the scripts run in
any order. A ticket always comes with the same ticket type.

* `refunds_depend_on_ids`: what is left in Redis depends only on the set of tickets refunded.
-/

namespace TicketCore

open Interleave RedisDb

variable {ι : Type} [DecidableEq ι] {n : Nat} {typeOf : Int → Int}

/-- A caller that refunds these tickets in turn. -/
def refundCalls (n : Nat) (typeOf : Int → Int) (ids : List Int) : Async Unit :=
  ids.forM fun id => RedisKeys.refundInventoryIdempotent n (typeOf id) id

/-- The ticket for which a refund script has run. -/
def refundedId (n : Nat) (e : CallEvent ι) : Option Int :=
  match e.cmd with
  | .redis m (.evalRefund _ ticketId) =>
      if m = n ∧ e.answer.isOk then DecimalText.readInt ticketId.toList else none
  | _ => none

/-- The tickets for which a refund script has run, in order. -/
def refundedIds (n : Nat) (events : List (CallEvent ι)) : List Int :=
  events.filterMap (refundedId n)

/-- Tickets with their types. -/
def withTypes (typeOf : Int → Int) (ids : List Int) : List (Int × Int) :=
  ids.map fun id => (typeOf id, id)

theorem refundAll_withTypes {r : RedisDb} (ids : List Int) :
    r.refundAll (withTypes typeOf ids) = r.refunded typeOf ids.toFinset := by
  have back : (withTypes typeOf ids).map Prod.snd = ids := by
    unfold withTypes
    rw [List.map_map]
    exact List.map_id ids
  rw [refundAll_eq, back]
  rintro _ mem
  obtain ⟨id, _, rfl⟩ := List.mem_map.mp mem
  rfl

/-- The command of a caller. -/
def IsRefund (n : Nat) (typeOf : Int → Int) (cmd : Cmd) : Prop :=
  ∃ id, cmd = .redis n (.evalRefund (typeOf id) (toString id))

theorem only_refundCalls (ids : List Int) : (refundCalls n typeOf ids).Only (IsRefund n typeOf) :=
  Program.Only.forM fun id _ => Program.Only.call ⟨id, rfl⟩

omit [DecidableEq ι] in
theorem refundedId_ok {t : ι} {ticketTypeId id : Int} {choice : Choice} {w w' : World ι} :
    refundedId n
      (⟨t, .redis n (.evalRefund ticketTypeId (toString id)), choice, .ok (), w, w'⟩ :
      CallEvent ι) = some id :=
  (if_pos ⟨rfl, rfl⟩).trans (DecimalText.readInt_toString id)

omit [DecidableEq ι] in
theorem refundedId_error {t : ι} {ticketTypeId id : Int} {choice : Choice} {e : Exn}
    {w w' : World ι} :
    refundedId n
      (⟨t, .redis n (.evalRefund ticketTypeId (toString id)), choice, .error e, w, w'⟩ :
      CallEvent ι) = none :=
  if_neg fun holds => nomatch holds.2

/-- One call of a caller. -/
theorem redis_of_refund {t : ι} {cmd : Cmd} {choice : Choice} {answer : Except Exn cmd.Resp}
    {w w' : World ι} (refund : IsRefund n typeOf cmd)
    (ran : exec t cmd choice w = some (answer, w')) :
    w'.redis n = (w.redis n).refundAll
      (withTypes typeOf (refundedIds n [⟨t, cmd, choice, answer, w, w'⟩])) := by
  obtain ⟨id, rfl⟩ := refund
  cases answer with
  | error e =>
      rw [refundedIds, List.filterMap_cons_none refundedId_error]
      exact congrFun (raised ran).1 n
  | ok a =>
      rw [refundedIds, List.filterMap_cons_some refundedId_ok]
      obtain ⟨r, done, rfl⟩ := ran_redis ran
      cases done
      exact Function.update_self ..

/-- The scripts of a run, one after another. -/
theorem redis_of_refunds {events : List (CallEvent ι)}
    {c c' : Config ι (World ι) Cmd Cmd.Resp Exn Unit} (run : Config.Run exec c events c')
    (only : ∀ t, (c.threads t).Only (IsRefund n typeOf)) :
    c'.shared.redis n = (c.shared.redis n).refundAll (withTypes typeOf (refundedIds n events)) := by
  induction run with
  | nil => rfl
  | @snoc events e c₁ c₂ before step ih =>
      have refund := ((before.snoc step).only only).1 e
        (List.mem_append_right _ (List.mem_singleton_self _))
      cases step with
      | mk poised ran =>
          have next := redis_of_refund refund ran
          rw [ih] at next
          rw [refundedIds, List.filterMap_append, withTypes, List.map_append, refundAll_append]
          exact next

/-! ## Which tickets are refunded -/

/-- Every ticket of the callers is refunded, or still ahead. -/
def refunding (n : Nat) (calls : ι → List Int) :
    Discipline ι (World ι) Cmd Cmd.Resp Exn Choice (List Int) where
  guard _ := True
  inv events _ ghost := ∀ id, (∃ t, id ∈ calls t) ↔
    id ∈ refundedIds n events ∨ ∃ t, id ∈ ghost t

theorem follows_refundCalls {calls : ι → List Int} {t : ι} (ids : List Int) :
    (refunding n calls).Follows exec t (fun outcome ahead => outcome = .ok () → ahead = [])
      (refundCalls n typeOf ids) ids := by
  refine Discipline.Follows.forM (fun ids ahead => ahead = ids) (fun id ids ahead same => ?_)
    (fun ahead same _ => same) rfl
  subst same
  refine Discipline.Follows.call fun events w ghost choice answer w' inv own ran _ => ?_
  cases answer with
  | error e =>
      refine ⟨id :: ids, fun other => ?_, nofun⟩
      have same : Function.update ghost t (id :: ids) = ghost := by
        rw [← own, Function.update_eq_self]
      rw [refundedIds, List.filterMap_append, List.filterMap_cons_none refundedId_error, same]
      exact (inv other).trans (by rw [List.filterMap_nil, List.append_nil, refundedIds])
  | ok a =>
      refine ⟨ids, fun other => ?_, rfl⟩
      have ahead : (∃ u, other ∈ ghost u) ↔
          other = id ∨ ∃ u, other ∈ Function.update ghost t ids u := by
        constructor
        · rintro ⟨u, mem⟩
          by_cases same : u = t
          · subst same
            rw [own] at mem
            refine (List.mem_cons.mp mem).imp_right fun mem => ⟨u, ?_⟩
            rwa [Function.update_self]
          · exact .inr ⟨u, by rwa [Function.update_of_ne same]⟩
        · rintro (rfl | ⟨u, mem⟩)
          · exact ⟨t, by rw [own]; exact List.mem_cons_self ..⟩
          · by_cases same : u = t
            · subst same
              rw [Function.update_self] at mem
              exact ⟨u, by rw [own]; exact List.mem_cons_of_mem _ mem⟩
            · rw [Function.update_of_ne same] at mem
              exact ⟨u, mem⟩
      rw [inv other, ahead, refundedIds, refundedIds, List.filterMap_append,
        List.filterMap_cons_some refundedId_ok, List.mem_append, List.filterMap_nil,
        List.mem_singleton, or_assoc]

/-- When every caller has returned, the tickets refunded are those of the callers. -/
theorem refundedIds_of_returned {calls : ι → List Int} {w : World ι}
    {events : List (CallEvent ι)} {c : Config ι (World ι) Cmd Cmd.Resp Exn Unit}
    (run : Config.Run exec ⟨w, fun t => refundCalls n typeOf (calls t)⟩ events c)
    (returned : ∀ t, c.Finished t (.ok ())) (id : Int) :
    id ∈ refundedIds n events ↔ ∃ t, id ∈ calls t := by
  have start : (refunding n calls).Holds exec
      (fun _ outcome ahead => outcome = .ok () → ahead = [])
      [] ⟨w, fun t => refundCalls n typeOf (calls t)⟩ :=
    ⟨calls, fun id => ⟨.inr, fun holds => holds.resolve_left (List.not_mem_nil)⟩,
      fun t => follows_refundCalls (calls t)⟩
  obtain ⟨ghost, inv, follows⟩ := start.run run fun _ _ => trivial
  have none : ∀ t, ghost t = [] := fun t =>
    Discipline.Holds.post_of_finished follows (returned t) rfl
  refine ((inv id).trans ⟨fun holds => holds.resolve_right ?_, .inl⟩).symm
  rintro ⟨t, mem⟩
  rw [none t] at mem
  exact List.not_mem_nil mem

/-! ## What refunds leave behind -/

/-- **What is left in Redis depends only on the set of tickets refunded**: each existing counter has
grown by the number of distinct tickets of its type that were not processed before, every ticket is
processed, and the entries of the newly processed ones are gone. -/
theorem refunds_depend_on_ids {calls : ι → List Int} {w : World ι}
    {events : List (CallEvent ι)} {c : Config ι (World ι) Cmd Cmd.Resp Exn Unit}
    (run : Config.Run exec ⟨w, fun t => refundCalls n typeOf (calls t)⟩ events c) :
    (∀ ticketTypeId, (c.shared.redis n).inventory ticketTypeId =
      ((w.redis n).inventory ticketTypeId).map
        (· + (((refundedIds n events).toFinset.filter fun id =>
          toString id ∉ (w.redis n).canceledTickets ∧
          typeOf id = ticketTypeId).card : Int))) ∧
    (∀ member, member ∈ (c.shared.redis n).canceledTickets ↔
      member ∈ (w.redis n).canceledTickets ∨ ∃ id ∈ refundedIds n events,
        toString id = member) ∧
    (∀ entry, entry ∈ (c.shared.redis n).activeReservations ↔
      entry ∈ (w.redis n).activeReservations ∧ ¬ ∃ id ∈ refundedIds n events,
        toString id ∉ (w.redis n).canceledTickets ∧ toString id = entry.1) ∧
    ((∀ t, c.Finished t (.ok ())) → ∀ id, id ∈ refundedIds n events ↔
      ∃ t, id ∈ calls t) ∧
    ∀ (calls' : ι → List Int) (w' : World ι) (events' : List (CallEvent ι))
      (c' : Config ι (World ι) Cmd Cmd.Resp Exn Unit),
      Config.Run exec ⟨w', fun t => refundCalls n typeOf (calls' t)⟩ events' c' →
      w'.redis n = w.redis n →
      (∀ id, id ∈ refundedIds n events' ↔ id ∈ refundedIds n events) →
      c'.shared.redis n = c.shared.redis n := by
  have left := redis_of_refunds run fun t => only_refundCalls (calls t)
  rw [refundAll_withTypes] at left
  rw [left]
  refine ⟨fun ticketTypeId => ?_, fun member => ?_, fun entry => ?_,
    fun returned => refundedIds_of_returned run returned, ?_⟩
  · show Option.map _ _ = _
    rw [fresh, Finset.filter_filter]
  · show member ∈ _ ∪ _ ↔ _
    rw [Finset.mem_union, Finset.mem_image]
    simp only [List.mem_toFinset]
  · show entry ∈ List.filter _ _ ↔ _
    rw [List.mem_filter, decide_eq_true_eq, Finset.mem_image]
    simp only [mem_fresh, List.mem_toFinset, and_assoc]
  · intro calls' w' events' c' run' start same
    have left' := redis_of_refunds run' fun t => only_refundCalls (calls' t)
    have ids : (refundedIds n events').toFinset = (refundedIds n events).toFinset :=
      Finset.ext fun id => by rw [List.mem_toFinset, List.mem_toFinset, same]
    rw [left', refundAll_withTypes, start, ids]

/-- Two callers that both refund the third ticket, and one of them twice. -/
def overlappingRefunds : Fin 2 → List Int := ![[3, 1, 3], [2, 3]]

/-- A counter for the first type, a processed ticket, and the entries of three tickets. -/
def threeEntries {ι : Type} : World ι where
  db := (World.empty : World ι).db
  redis _ :=
    { RedisDb.empty with
      inventory := fun id => if id = 1 then some 5 else none
      canceledTickets := {"2"}
      activeReservations := [("1", "2:0"), ("2", "1:0"), ("3", "1:0")] }
  jobs := []

/-- The type of the tickets: the first one is of a type without a counter. -/
def refundedType (id : Int) : Int := if id = 1 then 2 else 1

/-- The counter has grown by one for the third ticket alone. -/
theorem refunds_depend_on_ids_of_overlapping :
    ∃ (events : List (CallEvent (Fin 2)))
      (c : Config (Fin 2) (World (Fin 2)) Cmd Cmd.Resp Exn Unit),
      Config.Run exec ⟨threeEntries, fun t => refundCalls 0 refundedType (overlappingRefunds t)⟩
        events c ∧
      (c.shared.redis 0).inventory 1 = some 6 ∧ (c.shared.redis 0).inventory 2 = none := by
  have found : (Config.replay exec
      ⟨threeEntries, fun t => refundCalls 0 refundedType (overlappingRefunds t)⟩
      (([0, 1, 1, 0, 0] : List (Fin 2)).map fun t => (t, {}))).any
        (fun r => decide (refundedIds 0 r.1 = [3, 2, 3, 1, 3])) = true := by
    decide
  obtain ⟨events, c, run, ids⟩ := Config.exists_run_of_replay
    (P := fun events _ => decide (refundedIds 0 events = [3, 2, 3, 1, 3])) found
  have ids := of_decide_eq_true ids
  obtain ⟨counters, _⟩ := refunds_depend_on_ids run
  refine ⟨events, c, run, ?_, ?_⟩
  · rw [counters, ids]
    decide
  · rw [counters, ids]
    decide

end TicketCore
