import TicketCore.Interleave.Run

/-!
# Protocols

A `Protocol` says which phases a thread goes through: what each answered command makes of its phase.
It is a specification of programs alone; what the phases mean for the shared state is left to the
disciplines that take them as their ghost values.

* `Protocol.Governs` says that each step of the protocol keeps the invariant of a discipline. It is
  what relates the two, and is shown one step at a time.
* `Governs.call` is the rule for a single command, from which the rules of `Discipline.Follows`
  build the proof that a program keeps to the protocol. Such a proof does not look at the
  invariant, so it serves every discipline that the protocol governs.
* `Governs.run` is the rule for interleaved runs. It also tells the phase of a thread that is not
  `InFlight`.

Nothing here mentions a particular system.
-/

namespace Interleave

variable {ι σ Cmd E Choice α γ : Type} {Resp : Cmd → Type} [DecidableEq ι]

namespace Config

/-- Thread `t` has begun, and has not ended. -/
def InFlight (events : List (Event ι σ Cmd Resp E Choice))
    (c : Config ι σ Cmd Resp E α) (t : ι) : Prop :=
  (∃ e ∈ events, e.thread = t) ∧ c.result t = none

omit [DecidableEq ι] in
/-- A thread that is not in flight has ended, or not begun. -/
theorem not_inFlight {events : List (Event ι σ Cmd Resp E Choice)}
    {c : Config ι σ Cmd Resp E α} {t : ι} (idle : ¬ InFlight events c t) :
    (∃ outcome, c.Finished t outcome) ∨ ∀ e ∈ events, e.thread ≠ t := by
  by_cases begun : ∃ e ∈ events, e.thread = t
  · refine .inl ?_
    cases ended : c.result t with
    | none => exact (idle ⟨begun, ended⟩).elim
    | some outcome => exact ⟨outcome, finished_of_result ended⟩
  · exact .inr fun e mem same => begun ⟨e, mem, same⟩

end Config

/-- Phases of a thread, and how an answered command moves it from one to the next. -/
structure Protocol (Cmd : Type) (Resp : Cmd → Type) (E γ : Type) where
  /-- The answers that a command can have. -/
  Answers : (cmd : Cmd) → Except E (Resp cmd) → Prop
  Step : γ → (cmd : Cmd) → Except E (Resp cmd) → γ → Prop

/-- A discipline in which, besides, a thread without events is still in its first phase. -/
def Discipline.resting (D : Discipline ι σ Cmd Resp E Choice γ) (start : γ) :
    Discipline ι σ Cmd Resp E Choice γ where
  guard := D.guard
  inv events s ghost := D.inv events s ghost ∧ ∀ t, (∀ e ∈ events, e.thread ≠ t) →
    ghost t = start

namespace Protocol

/-- Each step of the protocol keeps the invariant of the discipline. -/
def Governs (P : Protocol Cmd Resp E γ) (D : Discipline ι σ Cmd Resp E Choice γ)
    (exec : Exec ι σ Cmd Resp E Choice) : Prop :=
  ∀ t events s ghost cmd choice answer s', D.inv events s ghost →
    exec t cmd choice s = some (answer, s') → D.guard ⟨t, cmd, choice, answer, s, s'⟩ →
    P.Answers cmd answer ∧ ∀ g', P.Step (ghost t) cmd answer g' →
      D.inv (events ++ [⟨t, cmd, choice, answer, s, s'⟩]) s' (Function.update ghost t g')

variable {P : Protocol Cmd Resp E γ} {D : Discipline ι σ Cmd Resp E Choice γ}
  {exec : Exec ι σ Cmd Resp E Choice} {t : ι} {g : γ}

/-- One command: for each of its answers the protocol has a step. -/
theorem Governs.call (governs : P.Governs D exec) {cmd : Cmd}
    {post : Except E (Resp cmd) → γ → Prop}
    (step : ∀ answer, P.Answers cmd answer → ∃ g', P.Step g cmd answer g' ∧
      post answer g') :
    D.Follows exec t post (.call cmd) g := by
  refine Discipline.Follows.call fun events s ghost choice answer s' inv own ran ok => ?_
  obtain ⟨answers, keeps⟩ := governs t events s ghost cmd choice answer s' inv ran ok
  obtain ⟨g', moved, holds⟩ := step answer answers
  rw [← own] at moved
  exact ⟨g', keeps g' moved, holds⟩

/-- A program of commands that each keep to some phases. -/
theorem Governs.only (governs : P.Governs D exec) {A : Cmd → Prop} (within : γ → Prop)
    (stays : ∀ g cmd answer, within g → A cmd → P.Answers cmd answer →
      ∃ g', P.Step g cmd answer g' ∧ within g')
    {p : Program Cmd Resp E α} (only : p.Only A) (start : within g) :
    D.Follows exec t (fun _ g' => within g') p g := by
  induction p generalizing g with
  | done outcome => exact start
  | await cmd next ih =>
      intro events s ghost choice answer s' inv own ran ok
      obtain ⟨answers, keeps⟩ := governs t events s ghost cmd choice answer s' inv ran ok
      obtain ⟨g', moved, next⟩ := stays g cmd answer start only.1 answers
      rw [← own] at moved
      exact ⟨g', keeps g' moved, ih answer (only.2 answer) next⟩

/-- Threads without events rest in their first phase. -/
theorem Governs.resting (governs : P.Governs D exec) (start : γ) :
    P.Governs (D.resting start) exec := by
  intro t events s ghost cmd choice answer s' inv ran ok
  obtain ⟨answers, keeps⟩ := governs t events s ghost cmd choice answer s' inv.1 ran ok
  refine ⟨answers, fun g' moved => ⟨keeps g' moved, fun u unmoved => ?_⟩⟩
  have other : t ≠ u := unmoved _ (List.mem_append_right _ (List.mem_singleton_self _))
  rw [Function.update_of_ne other.symm]
  exact inv.2 u fun e mem => unmoved e (List.mem_append_left _ mem)

/-- **The rule of protocols.** When every thread keeps to a protocol that governs a discipline, the
invariant holds after every guarded run, and a thread that is not in flight is in its first phase or
in one with which its program ends. -/
theorem Governs.run {start : γ} {c c' : Config ι σ Cmd Resp E α}
    {events : List (Event ι σ Cmd Resp E Choice)} (governs : P.Governs D exec)
    (post : ι → Except E α → γ → Prop)
    (keeps : ∀ D' : Discipline ι σ Cmd Resp E Choice γ, P.Governs D' exec → ∀ t,
      D'.Follows exec t (post t) (c.threads t) start)
    (inv : D.inv [] c.shared fun _ => start) (run : Config.Run exec c events c')
    (guarded : ∀ e ∈ events, D.guard e) :
    ∃ ghost, D.inv events c'.shared ghost ∧
      (∀ t outcome, c'.Finished t outcome → post t outcome (ghost t)) ∧
      ∀ t, ¬ c'.InFlight events t → ghost t = start ∨
        ∃ outcome, post t outcome (ghost t) := by
  have holds : (D.resting start).Holds exec post [] c :=
    ⟨fun _ => start, ⟨inv, fun _ _ => rfl⟩, keeps _ (governs.resting start)⟩
  obtain ⟨ghost, ⟨inv', rests⟩, follows⟩ := holds.run run guarded
  rw [List.nil_append] at inv' rests
  have ends : ∀ t outcome, c'.Finished t outcome → post t outcome (ghost t) :=
    fun t outcome ended =>
    Discipline.Holds.post_of_finished follows ended
  refine ⟨ghost, inv', ends, fun t idle => ?_⟩
  rcases Config.not_inFlight idle with ⟨outcome, ended⟩ | unmoved
  · exact .inr ⟨outcome, ends t outcome ended⟩
  · exact .inl (rests t unmoved)

end Protocol

end Interleave
