import Mathlib.Data.List.Perm.Basic
import Mathlib.Logic.Function.Basic

/-!
# Programs of awaited commands

A `Program` is the call tree of an asynchronous function: it awaits one command after another,
each answered by a value or an exception, and ends by returning a value or raising an exception.
What a command does is not part of the tree. An `Exec` says it: given the thread that issues the
command, the command, what the environment chooses for this occurrence, and the shared state, it
yields the answer and the next state, or `none` while the command has to wait.

* `Program.andThen` runs a continuation on the outcome, returned or raised; sequencing and
  exception handling are instances of it.
* `Program.Runs` is one run of a program by a single thread, with its list of events; the `_inv`
  lemmas take a run apart along the structure of the program.
* `Program.Only` bounds the commands a program can await, and `Only.keeps` is what that says of its
  runs.
* `Program.play` runs a program in an environment.

Nothing here mentions a particular system.
-/

namespace Interleave

/-- A program over commands `Cmd` answered in `Resp`, raising `E` or returning `α`. -/
inductive Program (Cmd : Type) (Resp : Cmd → Type) (E α : Type) : Type
  | done (outcome : Except E α) : Program Cmd Resp E α
  | await (cmd : Cmd) (next : Except E (Resp cmd) → Program Cmd Resp E α) : Program Cmd Resp E α

/-- The meaning of commands: `none` is a command that has to wait. -/
abbrev Exec (ι σ Cmd : Type) (Resp : Cmd → Type) (E Choice : Type) : Type :=
  ι → (cmd : Cmd) → Choice → σ → Option (Except E (Resp cmd) × σ)

/-- One executed command. -/
structure Event (ι σ Cmd : Type) (Resp : Cmd → Type) (E Choice : Type) where
  thread : ι
  cmd : Cmd
  choice : Choice
  answer : Except E (Resp cmd)
  before : σ
  after : σ

/-- The answers `xs` in an order of the environment's choice: in the order it proposes if that is
one of `xs`, and else as they come. -/
def arrange {A : Type} [DecidableEq A] (proposed xs : List A) : List A :=
  if proposed.Perm xs then proposed else xs

theorem arrange_perm {A : Type} [DecidableEq A] (proposed xs : List A) :
    (arrange proposed xs).Perm xs := by
  unfold arrange
  split
  · assumption
  · rfl

variable {ι σ Cmd E Choice α β γ : Type} {Resp : Cmd → Type}

namespace Program

/-- Run `f` on the outcome of `p`. -/
def andThen (p : Program Cmd Resp E α) (f : Except E α → Program Cmd Resp E β) :
    Program Cmd Resp E β :=
  match p with
  | .done outcome => f outcome
  | .await cmd next => .await cmd fun answer => (next answer).andThen f

/-- Await one command. -/
def call (cmd : Cmd) : Program Cmd Resp E (Resp cmd) :=
  .await cmd .done

/-- Continue with `f` when the outcome is a value; an exception propagates. -/
def onOk (f : α → Program Cmd Resp E β) : Except E α → Program Cmd Resp E β
  | .ok a => f a
  | .error e => .done (.error e)

/-- Continue with `handler` when the outcome is an exception; a value is returned. -/
def onError (handler : E → Program Cmd Resp E α) : Except E α → Program Cmd Resp E α
  | .ok a => .done (.ok a)
  | .error e => handler e

instance : Monad (Program Cmd Resp E) where
  pure a := .done (.ok a)
  bind p f := p.andThen (onOk f)

instance : MonadExceptOf E (Program Cmd Resp E) where
  throw e := .done (.error e)
  tryCatch p handler := p.andThen (onError handler)

/-- Run `finalizer` whatever the outcome of `p`, then end with that outcome. -/
def ensuring (p : Program Cmd Resp E α) (finalizer : Program Cmd Resp E Unit) :
    Program Cmd Resp E α :=
  p.andThen fun outcome => finalizer.andThen (onOk fun _ => .done outcome)

theorem bind_eq (p : Program Cmd Resp E α) (f : α → Program Cmd Resp E β) :
    (p >>= f) = p.andThen (onOk f) :=
  rfl

theorem pure_eq (a : α) : (pure a : Program Cmd Resp E α) = .done (.ok a) :=
  rfl

theorem throw_eq (e : E) : (throw e : Program Cmd Resp E α) = .done (.error e) :=
  rfl

theorem tryCatch_eq (p : Program Cmd Resp E α) (handler : E → Program Cmd Resp E α) :
    tryCatch p handler = p.andThen (onError handler) :=
  rfl

/-! ## Runs by a single thread -/

/-- `p.Runs exec t s events outcome s'`: run alone by thread `t` from `s`, the program ends with
`outcome` in `s'`. -/
inductive Runs (exec : Exec ι σ Cmd Resp E Choice) (t : ι) :
    Program Cmd Resp E α → σ → List (Event ι σ Cmd Resp E Choice) →
    Except E α → σ → Prop
  | done {outcome : Except E α} {s : σ} : Runs exec t (.done outcome) s [] outcome s
  | await {cmd : Cmd} {next : Except E (Resp cmd) → Program Cmd Resp E α} {choice : Choice}
      {answer : Except E (Resp cmd)} {s s₁ s' : σ}
      {events : List (Event ι σ Cmd Resp E Choice)} {outcome : Except E α} :
      exec t cmd choice s = some (answer, s₁) →
      Runs exec t (next answer) s₁ events outcome s' →
      Runs exec t (.await cmd next) s (⟨t, cmd, choice, answer, s, s₁⟩ :: events) outcome s'

/-- The run that the environment `env` (one choice for each command) makes of a program; `none`
when a command has to wait. -/
def play (exec : Exec ι σ Cmd Resp E Choice) (t : ι) (p : Program Cmd Resp E α)
    (env : Nat → Choice) (s : σ) :
    Option (List (Event ι σ Cmd Resp E Choice) × Except E α × σ) :=
  match p with
  | .done outcome => some ([], outcome, s)
  | .await cmd next =>
      match exec t cmd (env 0) s with
      | none => none
      | some (answer, s₁) =>
          match (next answer).play exec t (fun n => env (n + 1)) s₁ with
          | none => none
          | some (events, outcome, s') =>
              some (⟨t, cmd, env 0, answer, s, s₁⟩ :: events, outcome, s')

theorem runs_of_play {exec : Exec ι σ Cmd Resp E Choice} {t : ι} {p : Program Cmd Resp E α}
    {env : Nat → Choice} {s s' : σ} {events : List (Event ι σ Cmd Resp E Choice)}
    {outcome : Except E α} (played : p.play exec t env s = some (events, outcome, s')) :
    p.Runs exec t s events outcome s' := by
  induction p generalizing env s events with
  | done result =>
      simp only [play, Option.some.injEq, Prod.mk.injEq] at played
      obtain ⟨rfl, rfl, rfl⟩ := played
      exact .done
  | await cmd next ih =>
      unfold play at played
      split at played
      · cases played
      · rename_i answer s₁ ran
        split at played
        · cases played
        · rename_i rest result s₂ tail
          simp only [Option.some.injEq, Prod.mk.injEq] at played
          obtain ⟨rfl, rfl, rfl⟩ := played
          exact .await ran (ih answer tail)

/-- A run that the play of a program finds, with what the play says of it. -/
theorem exists_runs_of_play {exec : Exec ι σ Cmd Resp E Choice} {t : ι}
    {p : Program Cmd Resp E α} {env : Nat → Choice} {s : σ}
    {P : List (Event ι σ Cmd Resp E Choice) → Except E α → σ → Bool}
    (found : (p.play exec t env s).any (fun r => P r.1 r.2.1 r.2.2) = true) :
    ∃ events outcome s', p.Runs exec t s events outcome s' ∧ P events outcome s' = true := by
  obtain ⟨⟨events, outcome, s'⟩, played, holds⟩ := (Option.any_eq_true _ _).mp found
  exact ⟨events, outcome, s', runs_of_play played, holds⟩

/-- A run of `p.andThen f` is a run of `p` followed by a run of `f` on its outcome. -/
theorem Runs.andThen_inv {exec : Exec ι σ Cmd Resp E Choice} {t : ι}
    {p : Program Cmd Resp E α} {f : Except E α → Program Cmd Resp E β} {s s' : σ}
    {events : List (Event ι σ Cmd Resp E Choice)} {outcome : Except E β}
    (run : (p.andThen f).Runs exec t s events outcome s') :
    ∃ first middle s₁ second, p.Runs exec t s first middle s₁ ∧
      (f middle).Runs exec t s₁ second outcome s' ∧ events = first ++ second := by
  induction p generalizing s events with
  | done result => exact ⟨[], result, s, events, .done, run, rfl⟩
  | await cmd next ih =>
      cases run with
      | await ran rest =>
          obtain ⟨first, middle, s₁, second, head, tail, rfl⟩ := ih _ rest
          exact ⟨_ :: first, middle, s₁, second, .await ran head, tail, rfl⟩

section Inversion

variable {exec : Exec ι σ Cmd Resp E Choice} {t : ι} {s s' : σ}
  {events : List (Event ι σ Cmd Resp E Choice)}

theorem Runs.call_inv {cmd : Cmd} {outcome : Except E (Resp cmd)}
    (run : (Program.call cmd).Runs exec t s events outcome s') :
    ∃ choice, exec t cmd choice s = some (outcome, s') ∧
      events = [⟨t, cmd, choice, outcome, s, s'⟩] := by
  cases run with
  | await ran rest =>
      cases rest with
      | done => exact ⟨_, ran, rfl⟩

/-- A run of a sequence: the second program runs when the first returns a value. -/
theorem Runs.bind_inv {p : Program Cmd Resp E α} {f : α → Program Cmd Resp E β}
    {outcome : Except E β} (run : (p >>= f).Runs exec t s events outcome s') :
    (∃ first a s₁ second, p.Runs exec t s first (.ok a) s₁ ∧
        (f a).Runs exec t s₁ second outcome s' ∧ events = first ++ second) ∨
      ∃ e, p.Runs exec t s events (.error e) s' ∧ outcome = .error e := by
  obtain ⟨first, middle, s₁, second, head, tail, rfl⟩ := Runs.andThen_inv run
  cases middle with
  | ok a => exact .inl ⟨first, a, s₁, second, head, tail, rfl⟩
  | error e =>
      cases tail with
      | done =>
          rw [List.append_nil]
          exact .inr ⟨e, head, rfl⟩

/-- A run of an exception handler: it runs when the program raises. -/
theorem Runs.tryCatch_inv {p : Program Cmd Resp E α} {handler : E → Program Cmd Resp E α}
    {outcome : Except E α} (run : (tryCatch p handler).Runs exec t s events outcome s') :
    (∃ first e s₁ second, p.Runs exec t s first (.error e) s₁ ∧
        (handler e).Runs exec t s₁ second outcome s' ∧ events = first ++ second) ∨
      ∃ a, p.Runs exec t s events (.ok a) s' ∧ outcome = .ok a := by
  obtain ⟨first, middle, s₁, second, head, tail, rfl⟩ := Runs.andThen_inv run
  cases middle with
  | error e => exact .inl ⟨first, e, s₁, second, head, tail, rfl⟩
  | ok a =>
      cases tail with
      | done =>
          rw [List.append_nil]
          exact .inr ⟨a, head, rfl⟩

/-- A run with a finalizer: the finalizer runs last, and may replace the outcome by its
exception. -/
theorem Runs.ensuring_inv {p : Program Cmd Resp E α} {finalizer : Program Cmd Resp E Unit}
    {outcome : Except E α} (run : (p.ensuring finalizer).Runs exec t s events outcome s') :
    ∃ first middle s₁ second final, p.Runs exec t s first middle s₁ ∧
      finalizer.Runs exec t s₁ second final s' ∧ events = first ++ second ∧
      outcome = final.bind fun _ => middle := by
  obtain ⟨first, _, s₁, rest, head, tail, rfl⟩ := Runs.andThen_inv run
  obtain ⟨second, final, _, last, finalized, ended, rfl⟩ := Runs.andThen_inv tail
  cases final with
  | ok a =>
      cases ended with
      | done =>
          rw [List.append_nil]
          exact ⟨first, _, s₁, second, .ok a, head, finalized, rfl, rfl⟩
  | error e =>
      cases ended with
      | done =>
          rw [List.append_nil]
          exact ⟨first, _, s₁, second, .error e, head, finalized, rfl, rfl⟩

end Inversion

/-! ## The commands of a program -/

/-- Whatever it is answered, the program only awaits commands that satisfy `P`. -/
def Only (P : Cmd → Prop) : Program Cmd Resp E α → Prop
  | .done _ => True
  | .await cmd next => P cmd ∧ ∀ answer, (next answer).Only P

theorem Only.andThen {P : Cmd → Prop} {p : Program Cmd Resp E α}
    {f : Except E α → Program Cmd Resp E β} (h : p.Only P)
    (rest : ∀ outcome, (f outcome).Only P) :
    (p.andThen f).Only P := by
  induction p with
  | done outcome => exact rest outcome
  | await cmd next ih => exact ⟨h.1, fun answer => ih answer (h.2 answer)⟩

theorem Only.mono {P Q : Cmd → Prop} {p : Program Cmd Resp E α} (h : p.Only P)
    (le : ∀ cmd, P cmd → Q cmd) : p.Only Q := by
  induction p with
  | done outcome => trivial
  | await cmd next ih => exact ⟨le cmd h.1, fun answer => ih answer (h.2 answer)⟩

theorem Only.call {P : Cmd → Prop} {cmd : Cmd} (h : P cmd) :
    (Program.call cmd : Program Cmd Resp E (Resp cmd)).Only P :=
  ⟨h, fun _ => trivial⟩

theorem Only.bind {P : Cmd → Prop} {p : Program Cmd Resp E α} {f : α → Program Cmd Resp E β}
    (h : p.Only P) (rest : ∀ a, (f a).Only P) : (p >>= f).Only P :=
  Only.andThen h fun outcome => match outcome with
    | .ok a => rest a
    | .error _ => trivial

theorem Only.tryCatch {P : Cmd → Prop} {p : Program Cmd Resp E α}
    {handler : E → Program Cmd Resp E α} (h : p.Only P) (rest : ∀ e, (handler e).Only P) :
    (tryCatch p handler).Only P :=
  Only.andThen h fun outcome => match outcome with
    | .ok _ => trivial
    | .error e => rest e

theorem Only.ensuring {P : Cmd → Prop} {p : Program Cmd Resp E α}
    {finalizer : Program Cmd Resp E Unit} (h : p.Only P) (rest : finalizer.Only P) :
    (p.ensuring finalizer).Only P :=
  Only.andThen h fun _ => Only.andThen rest fun final => match final with
    | .ok _ => trivial
    | .error _ => trivial

theorem Only.forM {P : Cmd → Prop} {A : Type} {f : A → Program Cmd Resp E PUnit} {xs : List A}
    (each : ∀ x ∈ xs, (f x).Only P) : (xs.forM f).Only P := by
  induction xs with
  | nil => exact trivial
  | cons x rest ih =>
      refine Only.bind (each x (List.mem_cons_self ..)) fun _ => ih fun y mem => ?_
      exact each y (List.mem_cons_of_mem _ mem)

theorem Only.runs {P : Cmd → Prop} {exec : Exec ι σ Cmd Resp E Choice} {t : ι}
    {p : Program Cmd Resp E α} (h : p.Only P) {s s' : σ}
    {events : List (Event ι σ Cmd Resp E Choice)} {outcome : Except E α}
    (run : p.Runs exec t s events outcome s') : ∀ e ∈ events, P e.cmd := by
  induction run with
  | done => exact fun _ mem => (List.not_mem_nil mem).elim
  | await _ _ ih =>
      intro e mem
      rcases List.mem_cons.mp mem with rfl | mem
      · exact h.1
      · exact ih (h.2 _) e mem

/-- A run of a program keeps what each command it can await keeps. -/
theorem Only.keeps {P : Cmd → Prop} {I : σ → Prop}
    {exec : Exec ι σ Cmd Resp E Choice} {t : ι}
    {p : Program Cmd Resp E α} (h : p.Only P) {s s' : σ}
    {events : List (Event ι σ Cmd Resp E Choice)} {outcome : Except E α}
    (run : p.Runs exec t s events outcome s')
    (each : ∀ cmd choice answer s₁ s₂, P cmd → I s₁ →
      exec t cmd choice s₁ = some (answer, s₂) →
      I s₂) (start : I s) : I s' := by
  induction run with
  | done => exact start
  | await ran _ ih => exact ih (h.2 _) (each _ _ _ _ _ h.1 start ran)

end Program

end Interleave
