import TicketCore.Interleave.Program
import Mathlib.Data.List.Basic
import Mathlib.Data.List.Induction

/-!
# Interleaved runs

A `Config` is a shared state and, for every thread, the program it still has to run. One `Step`
executes the next command of one thread; a `Run` is any finite sequence of steps, so a statement
about every run is a statement about every interleaving of the threads' commands.

A `Discipline` is the proof method for such statements: an invariant over the events so far, the
shared state and one ghost value for each thread, and a guard on the events it has to survive.
`Discipline.Follows` says of a single program, started with a given ghost value, that each of its
commands keeps the invariant for some next ghost value. `Discipline.Holds.run` is the rule: if
every thread's program follows the discipline, the invariant holds after every run whose events
meet the guard. The rules `Follows.andThen`, `Follows.bind`, `Follows.tryCatch` and
`Follows.ensuring` follow the structure of a program.

Nothing here mentions a particular system.
-/

namespace Interleave

variable {ι σ Cmd E Choice α β γ : Type} {Resp : Cmd → Type} [DecidableEq ι]

/-- A shared state and the program each thread still has to run. -/
structure Config (ι σ Cmd : Type) (Resp : Cmd → Type) (E α : Type) where
  shared : σ
  threads : ι → Program Cmd Resp E α

namespace Config

/-- Thread `t` has ended. -/
def Finished (c : Config ι σ Cmd Resp E α) (t : ι) (outcome : Except E α) : Prop :=
  c.threads t = .done outcome

/-- How thread `t` has ended, if it has. -/
def result (c : Config ι σ Cmd Resp E α) (t : ι) : Option (Except E α) :=
  match c.threads t with
  | .done outcome => some outcome
  | .await _ _ => none

omit [DecidableEq ι] in
theorem finished_of_result {c : Config ι σ Cmd Resp E α} {t : ι} {outcome : Except E α}
    (ended : c.result t = some outcome) : c.Finished t outcome := by
  unfold result at ended
  split at ended
  · rename_i done
    cases ended
    exact done
  · cases ended

/-- One thread executes its next command. -/
inductive Step (exec : Exec ι σ Cmd Resp E Choice) :
    Config ι σ Cmd Resp E α → Event ι σ Cmd Resp E Choice →
    Config ι σ Cmd Resp E α → Prop
  | mk {c : Config ι σ Cmd Resp E α} {t : ι} {cmd : Cmd}
      {next : Except E (Resp cmd) → Program Cmd Resp E α} {choice : Choice}
      {answer : Except E (Resp cmd)} {after : σ} (poised : c.threads t = .await cmd next)
      (ran : exec t cmd choice c.shared = some (answer, after)) :
      Step exec c ⟨t, cmd, choice, answer, c.shared, after⟩
        ⟨after, Function.update c.threads t (next answer)⟩

/-- Any finite sequence of steps, with its events in order. -/
inductive Run (exec : Exec ι σ Cmd Resp E Choice) (c : Config ι σ Cmd Resp E α) :
    List (Event ι σ Cmd Resp E Choice) → Config ι σ Cmd Resp E α → Prop
  | nil : Run exec c [] c
  | snoc {events : List (Event ι σ Cmd Resp E Choice)} {e : Event ι σ Cmd Resp E Choice}
      {c₁ c₂ : Config ι σ Cmd Resp E α} :
      Run exec c events c₁ → Step exec c₁ e c₂ → Run exec c (events ++ [e]) c₂

/-- The run of a schedule: at each point the thread to move and the environment's choice. -/
def replay (exec : Exec ι σ Cmd Resp E Choice) (c : Config ι σ Cmd Resp E α) :
    List (ι × Choice) →
    Option (List (Event ι σ Cmd Resp E Choice) × Config ι σ Cmd Resp E α)
  | [] => some ([], c)
  | (t, choice) :: schedule =>
      match c.threads t with
      | .done _ => none
      | .await cmd next =>
          match exec t cmd choice c.shared with
          | none => none
          | some (answer, after) =>
              match replay exec ⟨after, Function.update c.threads t (next answer)⟩ schedule with
              | none => none
              | some (events, c') =>
                  some (⟨t, cmd, choice, answer, c.shared, after⟩ :: events, c')

variable {exec : Exec ι σ Cmd Resp E Choice}

theorem Run.cons {c c₁ c₂ : Config ι σ Cmd Resp E α} {e : Event ι σ Cmd Resp E Choice}
    {events : List (Event ι σ Cmd Resp E Choice)}
    (step : Step exec c e c₁) (run : Run exec c₁ events c₂) :
    Run exec c (e :: events) c₂ := by
  induction run with
  | nil =>
      show Run exec c ([] ++ [e]) c₁
      exact .snoc .nil step
  | snoc _ last ih =>
      rw [← List.cons_append]
      exact .snoc ih last

theorem Run.append {c c₁ c₂ : Config ι σ Cmd Resp E α}
    {events events' : List (Event ι σ Cmd Resp E Choice)} (run : Run exec c events c₁)
    (run' : Run exec c₁ events' c₂) : Run exec c (events ++ events') c₂ := by
  induction run' with
  | nil =>
      rw [List.append_nil]
      exact run
  | snoc _ last ih =>
      rw [← List.append_assoc]
      exact .snoc ih last

theorem run_of_replay {schedule : List (ι × Choice)} {c c' : Config ι σ Cmd Resp E α}
    {events : List (Event ι σ Cmd Resp E Choice)}
    (replayed : c.replay exec schedule = some (events, c')) : Run exec c events c' := by
  induction schedule generalizing c events with
  | nil =>
      simp only [replay, Option.some.injEq, Prod.mk.injEq] at replayed
      obtain ⟨rfl, rfl⟩ := replayed
      exact .nil
  | cons head schedule ih =>
      unfold replay at replayed
      split at replayed
      · cases replayed
      · rename_i cmd next poised
        split at replayed
        · cases replayed
        · rename_i answer after ran
          split at replayed
          · cases replayed
          · rename_i rest c₁ tail
            simp only [Option.some.injEq, Prod.mk.injEq] at replayed
            obtain ⟨rfl, rfl⟩ := replayed
            exact .cons (.mk poised ran) (ih tail)

/-- A thread that has ended stays as it is. -/
theorem Run.finished {c c' : Config ι σ Cmd Resp E α}
    {events : List (Event ι σ Cmd Resp E Choice)}
    {t : ι} {outcome : Except E α} (run : Run exec c events c') (ended : c.Finished t outcome) :
    c'.Finished t outcome := by
  induction run with
  | nil => exact ended
  | snoc _ step ih =>
      cases step with
      | @mk u _ _ _ _ _ poised _ =>
          have other : t ≠ u := by
            rintro rfl
            rw [show _ = _ from ih] at poised
            cases poised
          exact (Function.update_of_ne other _ _).trans ih

/-- A run that the replay of a schedule finds, with what the replay says of it. -/
theorem exists_run_of_replay {schedule : List (ι × Choice)} {c : Config ι σ Cmd Resp E α}
    {P : List (Event ι σ Cmd Resp E Choice) → Config ι σ Cmd Resp E α → Bool}
    (found : (c.replay exec schedule).any (fun r => P r.1 r.2) = true) :
    ∃ events c', Run exec c events c' ∧ P events c' = true := by
  obtain ⟨⟨events, c'⟩, replayed, holds⟩ := (Option.any_eq_true _ _).mp found
  exact ⟨events, c', run_of_replay replayed, holds⟩

/-- What bounds the commands of every thread's program bounds the events of a run. -/
theorem Run.only {P : ι → Cmd → Prop} {c c' : Config ι σ Cmd Resp E α}
    {events : List (Event ι σ Cmd Resp E Choice)} (run : Run exec c events c')
    (h : ∀ t, (c.threads t).Only (P t)) :
    (∀ e ∈ events, P e.thread e.cmd) ∧ ∀ t, (c'.threads t).Only (P t) := by
  induction run with
  | nil => exact ⟨fun _ mem => (List.not_mem_nil mem).elim, h⟩
  | snoc _ step ih =>
      cases step with
      | @mk t cmd next choice answer after poised ran =>
          have here := ih.2 t
          rw [poised] at here
          refine ⟨fun e mem => ?_, fun u => ?_⟩
          · rcases List.mem_append.mp mem with mem | mem
            · exact ih.1 e mem
            · rw [List.mem_singleton.mp mem]
              exact here.1
          · dsimp only
            by_cases same : u = t
            · subst same
              rw [Function.update_self]
              exact here.2 answer
            · rw [Function.update_of_ne same]
              exact ih.2 u

/-- The events of a run are executed commands. -/
theorem Run.executed {c c' : Config ι σ Cmd Resp E α}
    {events : List (Event ι σ Cmd Resp E Choice)} (run : Config.Run exec c events c') :
    ∀ e ∈ events, exec e.thread e.cmd e.choice e.before = some (e.answer, e.after) := by
  induction run with
  | nil => exact fun _ mem => (List.not_mem_nil mem).elim
  | snoc _ step ih =>
      intro e mem
      rcases List.mem_append.mp mem with mem | mem
      · exact ih e mem
      · rw [List.mem_singleton.mp mem]
        cases step with
        | mk _ ran => exact ran

/-- A run keeps what each command of every thread's program keeps. -/
theorem Run.keeps {P : ι → Cmd → Prop} {I : σ → Prop} {c c' : Config ι σ Cmd Resp E α}
    {events : List (Event ι σ Cmd Resp E Choice)} (run : Run exec c events c')
    (h : ∀ t, (c.threads t).Only (P t)) (each : ∀ t cmd choice answer s s', P t cmd → I s →
      exec t cmd choice s = some (answer, s') →
      I s') (start : I c.shared) : I c'.shared := by
  induction run with
  | nil => exact start
  | @snoc events e c₁ c₂ before step ih =>
      cases step with
      | @mk t cmd next choice answer after poised ran =>
          have here := (before.only h).2 t
          rw [poised] at here
          exact each t cmd choice answer c₁.shared after here.1 ih ran

/-- A reflexive and transitive relation that every event of a run respects relates the states at its
ends. -/
theorem Run.relates {R : σ → σ → Prop} (refl : ∀ s, R s s)
    (trans : ∀ s₁ s₂ s₃, R s₁ s₂ → R s₂ s₃ → R s₁ s₃)
    {c c' : Config ι σ Cmd Resp E α}
    {events : List (Event ι σ Cmd Resp E Choice)} (run : Run exec c events c')
    (each : ∀ e ∈ events, R e.before e.after) : R c.shared c'.shared := by
  induction run with
  | nil => exact refl _
  | snoc _ step ih =>
      refine trans _ _ _ (ih fun e mem => each e (List.mem_append_left _ mem)) ?_
      have last := each _ (List.mem_append_right _ (List.mem_singleton_self _))
      cases step
      exact last

/-- A thread without events has its program still before it. -/
theorem Run.not_begun {c c' : Config ι σ Cmd Resp E α}
    {events : List (Event ι σ Cmd Resp E Choice)}
    {t : ι} (run : Run exec c events c') (idle : ∀ e ∈ events, e.thread ≠ t) :
    c'.threads t = c.threads t := by
  induction run with
  | nil => rfl
  | snoc _ step ih =>
      have other := idle _ (List.mem_append_right _ (List.mem_singleton_self _))
      cases step with
      | mk poised ran =>
          exact (Function.update_of_ne other.symm _ _).trans
            (ih fun e mem => idle e (List.mem_append_left _ mem))

theorem Run.snoc_inv {c c' : Config ι σ Cmd Resp E α}
    {events : List (Event ι σ Cmd Resp E Choice)}
    {e : Event ι σ Cmd Resp E Choice} (run : Run exec c (events ++ [e]) c') :
    ∃ c₁, Run exec c events c₁ ∧ Step exec c₁ e c' := by
  generalize whole : events ++ [e] = all at run
  cases run with
  | nil => exact (List.append_ne_nil_of_right_ne_nil _ (List.cons_ne_nil _ _) whole).elim
  | snoc run step =>
      obtain ⟨rfl, lasts⟩ := List.append_inj' whole rfl
      obtain rfl := List.singleton_inj.mp lasts
      exact ⟨_, run, step⟩

/-- A run through some events reaches a configuration in between. -/
theorem Run.split {c c' : Config ι σ Cmd Resp E α}
    {events events' : List (Event ι σ Cmd Resp E Choice)}
    (run : Run exec c (events ++ events') c') :
    ∃ c₁, Run exec c events c₁ ∧ Run exec c₁ events' c' := by
  induction events' using List.reverseRecOn generalizing c' with
  | nil =>
      rw [List.append_nil] at run
      exact ⟨c', run, .nil⟩
  | append_singleton later e ih =>
      rw [← List.append_assoc] at run
      obtain ⟨c₂, run, step⟩ := run.snoc_inv
      obtain ⟨c₁, first, second⟩ := ih run
      exact ⟨c₁, first, .snoc second step⟩

/-! ### The states of a run -/

/-- The shared states of a run, from the first to the last. -/
def states (s : σ) (events : List (Event ι σ Cmd Resp E Choice)) : List σ :=
  s :: events.map Event.after

omit [DecidableEq ι] in
theorem states_snoc {s : σ} {events : List (Event ι σ Cmd Resp E Choice)}
    {e : Event ι σ Cmd Resp E Choice} :
    states s (events ++ [e]) = states s events ++ [e.after] := by
  unfold states
  rw [List.map_append, List.map_singleton, List.cons_append]

theorem Run.last_mem_states {c c' : Config ι σ Cmd Resp E α}
    {events : List (Event ι σ Cmd Resp E Choice)} (run : Run exec c events c') :
    c'.shared ∈ states c.shared events := by
  cases run with
  | nil => exact List.mem_cons_self ..
  | snoc _ step =>
      rw [states_snoc]
      cases step
      exact List.mem_append_right _ (List.mem_singleton_self _)

/-- Each state of a run is its last one, or comes before it. -/
theorem Run.eq_or_rel_last {R : σ → σ → Prop} {c c' : Config ι σ Cmd Resp E α}
    {events : List (Event ι σ Cmd Resp E Choice)} {s : σ} (run : Run exec c events c')
    (ordered : (states c.shared events).Pairwise R) (mem : s ∈ states c.shared events) :
    s = c'.shared ∨ R s c'.shared := by
  cases run with
  | nil => exact .inl (List.mem_singleton.mp mem)
  | @snoc events e c₁ _ _ step =>
      rw [states_snoc] at ordered mem
      have after : e.after = c'.shared := by
        cases step
        rfl
      rcases List.mem_append.mp mem with mem | mem
      · rw [← after]
        exact .inr ((List.pairwise_append.mp ordered).2.2 s mem _ (List.mem_singleton_self _))
      · exact .inl ((List.mem_singleton.mp mem).trans after)

/-- A transitive relation that every event respects relates each state to all later ones. -/
theorem Run.pairwise_states {R : σ → σ → Prop}
    (trans : ∀ s₁ s₂ s₃, R s₁ s₂ → R s₂ s₃ → R s₁ s₃)
    {c c' : Config ι σ Cmd Resp E α} {events : List (Event ι σ Cmd Resp E Choice)}
    (run : Run exec c events c') :
    (states c.shared events).Pairwise R ↔ ∀ e ∈ events, R e.before e.after := by
  induction run with
  | nil =>
      exact ⟨fun _ _ mem => (List.not_mem_nil mem).elim, fun _ => List.pairwise_singleton _ _⟩
  | @snoc events e c₁ c₂ run step ih =>
      have here : e.before = c₁.shared := by
        cases step
        rfl
      rw [states_snoc, List.pairwise_append, ih, List.forall_mem_append]
      simp only [List.pairwise_singleton, List.mem_singleton, forall_eq, true_and]
      refine and_congr_right fun earlier => ⟨fun later => ?_, fun later s mem => ?_⟩
      · rw [here]
        exact later _ run.last_mem_states
      · rcases run.eq_or_rel_last (ih.mpr earlier) mem with rfl | below
        · rwa [← here]
        · exact trans _ _ _ below (here ▸ later)

end Config

/-! ## Disciplines -/

/-- An invariant over the events so far, the shared state and a ghost value for each thread, with
the guard its events are assumed to meet. -/
structure Discipline (ι σ Cmd : Type) (Resp : Cmd → Type) (E Choice γ : Type) where
  guard : Event ι σ Cmd Resp E Choice → Prop
  inv : List (Event ι σ Cmd Resp E Choice) → σ → (ι → γ) → Prop

namespace Discipline

variable (D : Discipline ι σ Cmd Resp E Choice γ) (exec : Exec ι σ Cmd Resp E Choice)

/-- Thread `t`, running this program with ghost value `g`, keeps the invariant with each of its
commands, and ends with an outcome and a ghost value that satisfy `post`. -/
def Follows (t : ι) (post : Except E α → γ → Prop) : Program Cmd Resp E α → γ → Prop
  | .done outcome, g => post outcome g
  | .await cmd next, g =>
      ∀ events s ghost choice answer s', D.inv events s ghost → ghost t = g →
      exec t cmd choice s = some (answer, s') → D.guard ⟨t, cmd, choice, answer, s, s'⟩ →
      ∃ g', D.inv (events ++ [⟨t, cmd, choice, answer, s, s'⟩]) s'
        (Function.update ghost t g') ∧
        Follows t post (next answer) g'

/-- The invariant holds, and every thread follows the discipline from here on. -/
def Holds (post : ι → Except E α → γ → Prop)
    (events : List (Event ι σ Cmd Resp E Choice)) (c : Config ι σ Cmd Resp E α) : Prop :=
  ∃ ghost, D.inv events c.shared ghost ∧
    ∀ t, D.Follows exec t (post t) (c.threads t) (ghost t)

variable {D exec} {t : ι} {post post' : Except E α → γ → Prop} {g : γ}

theorem Follows.mono {p : Program Cmd Resp E α} (h : D.Follows exec t post p g)
    (le : ∀ outcome g', post outcome g' → post' outcome g') : D.Follows exec t post' p g := by
  induction p generalizing g with
  | done outcome => exact le _ _ h
  | await cmd next ih =>
      intro events s ghost choice answer s' inv own ran ok
      obtain ⟨g', inv', rest⟩ := h events s ghost choice answer s' inv own ran ok
      exact ⟨g', inv', ih answer rest⟩

theorem Follows.andThen {p : Program Cmd Resp E α} {f : Except E α → Program Cmd Resp E β}
    {post : Except E β → γ → Prop}
    (h : D.Follows exec t (fun middle g' => D.Follows exec t post (f middle) g') p g) :
    D.Follows exec t post (p.andThen f) g := by
  induction p generalizing g with
  | done outcome => exact h
  | await cmd next ih =>
      intro events s ghost choice answer s' inv own ran ok
      obtain ⟨g', inv', rest⟩ := h events s ghost choice answer s' inv own ran ok
      exact ⟨g', inv', ih answer rest⟩

/-- Sequencing: a raised exception ends the program. -/
theorem Follows.bind {p : Program Cmd Resp E α} {f : α → Program Cmd Resp E β}
    {post : Except E β → γ → Prop} (middle : α → γ → Prop)
    (h : D.Follows exec t (fun outcome g' => match outcome with
      | .ok a => middle a g'
      | .error e => post (.error e) g') p g)
    (rest : ∀ a g', middle a g' → D.Follows exec t post (f a) g') :
    D.Follows exec t post (p >>= f) g := by
  refine Follows.andThen (Follows.mono h fun outcome g' holds => ?_)
  cases outcome with
  | ok a => exact rest a g' holds
  | error e => exact holds

/-- Exception handling: a returned value ends the block. -/
theorem Follows.tryCatch {p : Program Cmd Resp E α} {handler : E → Program Cmd Resp E α}
    (raised : E → γ → Prop) (h : D.Follows exec t (fun outcome g' => match outcome with
      | .ok a => post (.ok a) g'
      | .error e => raised e g') p g)
    (rest : ∀ e g', raised e g' → D.Follows exec t post (handler e) g') :
    D.Follows exec t post (tryCatch p handler) g := by
  refine Follows.andThen (Follows.mono h fun outcome g' holds => ?_)
  cases outcome with
  | ok a => exact holds
  | error e => exact rest e g' holds

/-- A finalizer runs after either outcome. -/
theorem Follows.ensuring {p : Program Cmd Resp E α} {finalizer : Program Cmd Resp E Unit}
    (middle : Except E α → γ → Prop) (h : D.Follows exec t middle p g)
    (rest : ∀ outcome g', middle outcome g' →
      D.Follows exec t (fun final g'' => match final with
        | .ok _ => post outcome g''
        | .error e => post (.error e) g'') finalizer g') :
    D.Follows exec t post (p.ensuring finalizer) g := by
  refine Follows.andThen (Follows.mono h fun outcome g' holds => ?_)
  refine Follows.andThen (Follows.mono (rest outcome g' holds) fun final g'' holds' => ?_)
  cases final with
  | ok _ => exact holds'
  | error e => exact holds'

/-- A program before an exception is raised, which may raise one of its own. -/
theorem Follows.thenThrow {p : Program Cmd Resp E β} {e : E}
    (h : D.Follows exec t (fun answer g' => post (answer.bind fun _ => .error e) g') p g) :
    D.Follows exec t post (do let _ ← p; throw e) g := by
  refine Follows.andThen (h.mono fun answer g' holds => ?_)
  cases answer with
  | ok _ => exact holds
  | error e' => exact holds

/-- A block whose exceptions are raised again after a command that undoes it, with a finalizer. -/
theorem Follows.undoing {p : Program Cmd Resp E α} {undo finalizer : Program Cmd Resp E Unit}
    (entered left : Except E α → γ → Prop) (h : D.Follows exec t entered p g)
    (returned : ∀ a g', entered (.ok a) g' → left (.ok a) g')
    (raised : ∀ e g', entered (.error e) g' →
      D.Follows exec t (fun answer g'' => left (answer.bind fun _ => .error e) g'') undo g')
    (final : ∀ outcome g', left outcome g' →
      D.Follows exec t (fun answer g'' => post (answer.bind fun _ => outcome) g'') finalizer g') :
    D.Follows exec t post
      (Program.ensuring (MonadExcept.tryCatch p fun e => do undo; throw e) finalizer) g := by
  refine Follows.ensuring left ?_ fun outcome g' holds =>
    (final outcome g' holds).mono fun answer g'' holds' => ?_
  · refine Follows.tryCatch (fun e => entered (.error e)) (h.mono fun outcome g' holds => ?_)
      fun e g' holds => Follows.thenThrow (raised e g' holds)
    cases outcome with
    | ok a => exact returned a g' holds
    | error e => exact holds
  · cases answer with
    | ok _ => exact holds'
    | error e => exact holds'

/-- One command: every outcome of it keeps the invariant for some next ghost value. -/
theorem Follows.call {cmd : Cmd} {post : Except E (Resp cmd) → γ → Prop}
    (h : ∀ events s ghost choice answer s', D.inv events s ghost → ghost t = g →
      exec t cmd choice s = some (answer, s') → D.guard ⟨t, cmd, choice, answer, s, s'⟩ →
      ∃ g', D.inv (events ++ [⟨t, cmd, choice, answer, s, s'⟩]) s'
        (Function.update ghost t g') ∧
        post answer g') :
    D.Follows exec t post (.call cmd) g :=
  h

/-- A program whose commands all keep the invariant without moving the ghost value. -/
theorem Follows.of_only {P : Cmd → Prop} {p : Program Cmd Resp E α} (only : p.Only P)
    (each : ∀ cmd events s ghost choice answer s', P cmd → D.inv events s ghost →
      ghost t = g →
      exec t cmd choice s = some (answer, s') → D.guard ⟨t, cmd, choice, answer, s, s'⟩ →
      D.inv (events ++ [⟨t, cmd, choice, answer, s, s'⟩]) s' (Function.update ghost t g))
    (ends : ∀ outcome, post outcome g) : D.Follows exec t post p g := by
  induction p with
  | done outcome => exact ends outcome
  | await cmd next ih =>
      intro events s ghost choice answer s' inv own ran ok
      exact ⟨g, each cmd events s ghost choice answer s' only.1 inv own ran ok,
        ih answer (only.2 answer)⟩

/-- A loop over a list, with an invariant over the elements still to come. -/
theorem Follows.forM {A : Type} {f : A → Program Cmd Resp E PUnit}
    {post : Except E PUnit → γ → Prop} (loop : List A → γ → Prop) {xs : List A}
    (body : ∀ x rest g', loop (x :: rest) g' →
      D.Follows exec t (fun outcome g'' => match outcome with
        | .ok _ => loop rest g''
        | .error e => post (.error e) g'') (f x) g')
    (final : ∀ g', loop [] g' → post (.ok ⟨⟩) g') (start : loop xs g) :
    D.Follows exec t post (xs.forM f) g := by
  induction xs generalizing g with
  | nil => exact final g start
  | cons x rest ih =>
      refine Follows.andThen (Follows.mono (body x rest g start) fun outcome g' holds => ?_)
      cases outcome with
      | ok _ => exact ih holds
      | error e => exact holds

/-- A run of a program that follows the discipline keeps the invariant. -/
theorem Follows.runs {p : Program Cmd Resp E α} {s s' : σ} {ghost : ι → γ}
    {before events : List (Event ι σ Cmd Resp E Choice)} {outcome : Except E α}
    (h : D.Follows exec t post p g) (inv : D.inv before s ghost) (own : ghost t = g)
    (run : p.Runs exec t s events outcome s') (guarded : ∀ e ∈ events, D.guard e) :
    ∃ g', D.inv (before ++ events) s' (Function.update ghost t g') ∧ post outcome g' := by
  induction run generalizing before ghost g with
  | done => exact ⟨g, by rw [List.append_nil, ← own, Function.update_eq_self]; exact inv, h⟩
  | await ran _ ih =>
      obtain ⟨g₁, inv₁, rest⟩ :=
        h before _ ghost _ _ _ inv own ran (guarded _ (List.mem_cons_self ..))
      obtain ⟨g', inv', holds⟩ := ih rest inv₁ (Function.update_self ..)
        fun e mem => guarded e (List.mem_cons_of_mem _ mem)
      rw [Function.update_idem, List.append_assoc] at inv'
      exact ⟨g', inv', holds⟩

/-- One guarded step keeps the discipline. -/
theorem Holds.step {post : ι → Except E α → γ → Prop}
    {events : List (Event ι σ Cmd Resp E Choice)} {e : Event ι σ Cmd Resp E Choice}
    {c c' : Config ι σ Cmd Resp E α} (h : D.Holds exec post events c)
    (step : Config.Step exec c e c') (ok : D.guard e) :
    D.Holds exec post (events ++ [e]) c' := by
  obtain ⟨ghost, inv, follows⟩ := h
  cases step with
  | @mk t cmd next choice answer after poised ran =>
      have here := follows t
      rw [poised] at here
      obtain ⟨g', inv', rest⟩ := here events c.shared ghost choice answer after inv rfl ran ok
      refine ⟨Function.update ghost t g', inv', fun u => ?_⟩
      by_cases same : u = t
      · subst same
        simpa only [Function.update_self] using rest
      · simpa only [Function.update_of_ne same] using follows u

/-- **The rule of disciplines.** After every run whose events meet the guard, the invariant holds
and every thread still follows the discipline. -/
theorem Holds.run {post : ι → Except E α → γ → Prop}
    {before events : List (Event ι σ Cmd Resp E Choice)} {c c' : Config ι σ Cmd Resp E α}
    (h : D.Holds exec post before c) (run : Config.Run exec c events c')
    (guarded : ∀ e ∈ events, D.guard e) : D.Holds exec post (before ++ events) c' := by
  induction run with
  | nil => simpa only [List.append_nil] using h
  | snoc _ step ih =>
      rw [← List.append_assoc]
      refine (ih fun e mem => guarded e (List.mem_append_left _ mem)).step step ?_
      exact guarded _ (List.mem_append_right _ (List.mem_singleton_self _))

/-- A finished thread ended with an outcome and a ghost value that satisfy its postcondition. -/
theorem Holds.post_of_finished {post : ι → Except E α → γ → Prop}
    {c : Config ι σ Cmd Resp E α} {ghost : ι → γ}
    (follows : ∀ t, D.Follows exec t (post t) (c.threads t) (ghost t)) {outcome : Except E α}
    (finished : c.Finished t outcome) : post t outcome (ghost t) := by
  have h := follows t
  rw [show c.threads t = .done outcome from finished] at h
  exact h

end Discipline

end Interleave
