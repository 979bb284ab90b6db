import TicketCore.Idempotency.Contest

/-!
# Who owns the record of a key

With records that expire, a request may lose the lock it has acquired. These are the notions to say
whose record it then overwrites or deletes, read off the calls executed so far.

* `Inside events t`: request `t` has acquired the lock, and has neither saved nor unlocked.
* `writer events`: who has stored the last record.
* `Exclusive events`: no request has acquired the lock while another one was inside.
* `Owned events w`: nobody has touched another one's record, and whoever is inside finds their own
  record or none. `Owned.quiet`, `Owned.lock` and `Owned.save` say that it stays so.
-/

namespace TicketCore

open Interleave

variable {ι : Type} [DecidableEq ι]

/-- Whose record a call has stored. -/
def wrote : CallEvent ι → Option ι
  | ⟨t, .redis _ (.setNxEx ..), _, .ok true, _, _⟩ => some t
  | ⟨t, .redis _ (.setEx ..), _, .ok _, _, _⟩ => some t
  | _ => none

/-- Thread `t` overwrites or deletes whatever is stored. -/
def touches (t : ι) : CallEvent ι → Bool
  | ⟨u, .redis _ (.setEx ..), _, .ok _, _, _⟩ => u = t
  | ⟨u, .redis _ (.delete _), _, .ok _, _, _⟩ => u = t
  | _ => false

/-- Thread `t` has saved its response, or has made its attempt to unlock. -/
def settles (t : ι) : CallEvent ι → Bool
  | ⟨u, .redis _ (.setEx ..), _, .ok _, _, _⟩ => u = t
  | ⟨u, .redis _ (.delete _), _, _, _, _⟩ => u = t
  | _ => false

/-- Request `t` has acquired the lock, and has neither saved nor unlocked. -/
def Inside (events : List (CallEvent ι)) (t : ι) : Prop :=
  (∃ e ∈ events, locks t e) ∧ ∀ e ∈ events, ¬ settles t e

/-- Who has stored the last record. -/
def writer (events : List (CallEvent ι)) : Option ι := (events.filterMap wrote).getLast?

/-- No request acquires the lock while another one is inside. -/
def Exclusive (events : List (CallEvent ι)) : Prop :=
  ∀ before e after, events = before ++ e :: after → ∀ t, locks t e → ∀ u, u ≠ t →
    ¬ Inside before u

variable {events : List (CallEvent ι)} {w : World ι} {e : CallEvent ι} {t u : ι}

theorem settles_thread (h : settles t e) : e.thread = t := by
  unfold settles at h
  split at h
  · exact of_decide_eq_true h
  · exact of_decide_eq_true h
  · cases h

theorem wrote_of_locks (h : locks t e) : wrote e = some t := by
  unfold locks at h
  split at h
  · exact congrArg some (of_decide_eq_true h)
  · cases h

theorem Inside.of_append (h : Inside (events ++ [e]) t) (fresh : ¬ locks t e) :
    Inside events t := by
  obtain ⟨⟨e', mem, locked⟩, unsettled⟩ := h
  refine ⟨⟨e', ?_, locked⟩, fun e₁ mem₁ =>
    unsettled e₁ (List.mem_append_left _ mem₁)⟩
  rcases List.mem_append.mp mem with mem | mem
  · exact mem
  · rw [List.mem_singleton.mp mem] at locked
    exact (fresh locked).elim

theorem Inside.append (h : Inside events t) (unsettled : ¬ settles t e) :
    Inside (events ++ [e]) t := by
  obtain ⟨⟨e', mem, locked⟩, before⟩ := h
  refine ⟨⟨e', List.mem_append_left _ mem, locked⟩, fun e₁ mem₁ => ?_⟩
  rcases List.mem_append.mp mem₁ with mem₁ | mem₁
  · exact before e₁ mem₁
  · rw [List.mem_singleton.mp mem₁]
    exact unsettled

theorem Inside.not_settled (h : Inside (events ++ [e]) t) : ¬ settles t e :=
  h.2 e (List.mem_append_right _ (List.mem_singleton_self _))

omit [DecidableEq ι] in
theorem writer_append_none (none : wrote e = none) : writer (events ++ [e]) = writer events := by
  unfold writer
  rw [List.filterMap_append, List.filterMap_cons_none none]
  exact congrArg List.getLast? (List.append_nil _)

omit [DecidableEq ι] in
theorem writer_append_some (some : wrote e = .some t) : writer (events ++ [e]) = .some t := by
  unfold writer
  rw [List.filterMap_append, List.filterMap_cons_some some]
  exact List.getLast?_concat

omit [DecidableEq ι] in
/-- The last of one more event, or an earlier one. -/
theorem split_append {before after : List (CallEvent ι)} {e' : CallEvent ι}
    (split : events ++ [e] = before ++ e' :: after) :
    (before = events ∧ e' = e) ∨ ∃ after', events = before ++ e' :: after' := by
  rcases List.eq_nil_or_concat after with rfl | ⟨after', last, rfl⟩
  · obtain ⟨same, single⟩ := List.append_inj' split rfl
    cases single
    exact .inl ⟨same.symm, rfl⟩
  · refine .inr ⟨after', ?_⟩
    rw [List.concat_eq_append, ← List.cons_append, ← List.append_assoc] at split
    exact (List.append_inj' split rfl).1

theorem Exclusive.before (h : Exclusive (events ++ [e])) : Exclusive events :=
  fun before e' after split => h before e' (after ++ [e]) (by rw [split, List.append_assoc]; rfl)

theorem Exclusive.last (h : Exclusive (events ++ [e])) (locked : locks t e) (other : u ≠ t) :
    ¬ Inside events u :=
  h events e [] rfl t locked u other

instance : Decidable (Inside events t) := inferInstanceAs (Decidable (_ ∧ _))

/-- It is enough to look at each position of the events. -/
theorem exclusive_of_positions (h : ∀ n : Fin events.length, ∀ t, locks t events[n] →
    ∀ u, u ≠ t → ¬ Inside (events.take n) u) : Exclusive events := by
  rintro before e after rfl t locked u other
  have here := h ⟨before.length, by rw [List.length_append, List.length_cons]; omega⟩ t
  simp only [Fin.getElem_fin, List.getElem_append_right le_rfl, Nat.sub_self,
    List.getElem_cons_zero, List.take_left] at here
  exact here locked u other

/-! ## Ownership -/

/-- Nobody has overwritten or deleted another one's record. -/
def KeepsToOwn (contest : Contest ι) (events : List (CallEvent ι)) : Prop :=
  ∀ before e after, events = before ++ e :: after → ∀ t, touches t e →
    (contest.record e.before).isSome → writer before = some t

/-- Nobody has touched another one's record, and whoever is inside finds their own or none. -/
structure Owned (contest : Contest ι) (events : List (CallEvent ι)) (w : World ι) : Prop where
  alone : ∀ t u, Inside events t → Inside events u → t = u
  own : ∀ t, Inside events t → (contest.record w).isSome → writer events = some t
  safe : KeepsToOwn contest events

variable {contest : Contest ι}

/-- A call in the middle of the events that touches another one's record. -/
theorem not_keepsToOwn {n : Nat} {e : CallEvent ι} (here : events[n]? = some e)
    (touched : touches t e) (present : (contest.record e.before).isSome)
    (foreign : writer (events.take n) ≠ some t) : ¬ KeepsToOwn contest events := by
  intro keeps
  obtain ⟨bound, at'⟩ := List.getElem?_eq_some_iff.mp here
  have split : events = events.take n ++ e :: events.drop (n + 1) := by
    rw [← at', List.getElem_cons_drop, List.take_append_drop]
  exact foreign (keeps _ _ _ split t touched present)

/-- One more call that touches nothing, or only what its thread has stored. -/
theorem KeepsToOwn.append (h : KeepsToOwn contest events)
    (last : ∀ t, touches t e → (contest.record e.before).isSome → writer events = some t) :
    KeepsToOwn contest (events ++ [e]) := by
  intro before e' after split t touched present
  rcases split_append split with ⟨rfl, rfl⟩ | ⟨after', early⟩
  · exact last t touched present
  · exact h before e' after' early t touched present

/-- A call that stores nothing: the record is the same, or gone. -/
theorem Owned.quiet (h : Owned contest events e.before) (stores : wrote e = none)
    (record : (contest.record e.after).isSome → (contest.record e.before).isSome)
    (touching : ∀ t, touches t e → Inside events t) :
    Owned contest (events ++ [e]) e.after := by
  have fresh : ∀ t, ¬ locks t e := fun t locked => by
    rw [wrote_of_locks locked] at stores
    cases stores
  refine ⟨fun t u inside inside' =>
    h.alone t u (inside.of_append (fresh t)) (inside'.of_append (fresh u)),
      fun t inside present => ?_,
    h.safe.append fun t touched present => h.own t (touching t touched) present⟩
  rw [writer_append_none stores]
  exact h.own t (inside.of_append (fresh t)) (record present)

/-- A request acquires the lock while nobody is inside. -/
theorem Owned.lock (h : Owned contest events e.before) (locked : locks t e)
    (touching : ∀ u, ¬ touches u e) (alone : ∀ u, u ≠ t → ¬ Inside events u) :
    Owned contest (events ++ [e]) e.after := by
  have only : ∀ u, Inside (events ++ [e]) u → u = t := by
    intro u inside
    by_contra other
    refine alone u other (inside.of_append fun locked' => other ?_)
    rw [← locks_thread locked', ← locks_thread locked]
  refine ⟨fun u v inside inside' => (only u inside).trans (only v inside').symm,
    fun u inside _ => ?_, h.safe.append fun u touched => (touching u touched).elim⟩
  rw [writer_append_some (wrote_of_locks locked), only u inside]

/-- The request that is inside saves its response. -/
theorem Owned.save (h : Owned contest events e.before) (inside : Inside events t)
    (settled : settles t e) (touching : ∀ u, touches u e → u = t)
    (fresh : ∀ u, ¬ locks u e) :
    Owned contest (events ++ [e]) e.after := by
  have nobody : ∀ u, ¬ Inside (events ++ [e]) u := by
    intro u inside'
    have same := h.alone u t (inside'.of_append (fresh u)) inside
    subst same
    exact inside'.not_settled settled
  refine ⟨fun u _ inside' => (nobody u inside').elim, fun u inside' => (nobody u inside').elim,
    h.safe.append fun u touched present => ?_⟩
  rw [touching u touched]
  exact h.own t inside present

end TicketCore
