import TicketCore.Interleave.Program

/-!
# Programs run alone

The weakest precondition of a program that one thread runs alone: `p.Ensures exec t guard post s`
says that every run of `p` from `s` whose events meet the guard ends in `post`. It is computed along
the program, one command after another, and the rules follow the structure of programs.

* `Ensures.runs` relates it to `Program.Runs`.
* `Ensures.andThen`, `Ensures.bind`, `Ensures.tryCatch` and `Ensures.ensuring` are the rules of the
  operators, `Ensures.forM` is the rule of loops.

Nothing here mentions a particular system.
-/

namespace Interleave.Program

variable {ι σ Cmd E Choice α β : Type} {Resp : Cmd → Type}

/-- Every guarded run of the program, alone from `s`, ends in `post`. -/
def Ensures (exec : Exec ι σ Cmd Resp E Choice) (t : ι)
    (guard : Event ι σ Cmd Resp E Choice → Prop) (post : Except E α → σ → Prop) :
    Program Cmd Resp E α → σ → Prop
  | .done outcome, s => post outcome s
  | .await cmd next, s => ∀ choice answer s', exec t cmd choice s = some (answer, s') →
      guard ⟨t, cmd, choice, answer, s, s'⟩ → (next answer).Ensures exec t guard post s'

section Rules

variable {exec : Exec ι σ Cmd Resp E Choice} {t : ι}
  {guard : Event ι σ Cmd Resp E Choice → Prop} {s s' : σ}

/-- What a program ensures holds after its runs. -/
theorem Ensures.runs {post : Except E α → σ → Prop} {p : Program Cmd Resp E α}
    {events : List (Event ι σ Cmd Resp E Choice)} {outcome : Except E α}
    (h : p.Ensures exec t guard post s) (run : p.Runs exec t s events outcome s')
    (guarded : ∀ e ∈ events, guard e) : post outcome s' := by
  induction run with
  | done => exact h
  | await ran _ ih =>
      exact ih (h _ _ _ ran (guarded _ (List.mem_cons_self ..)))
        fun e mem => guarded e (List.mem_cons_of_mem _ mem)

theorem Ensures.mono {post post' : Except E α → σ → Prop} {p : Program Cmd Resp E α}
    (h : p.Ensures exec t guard post s)
    (le : ∀ outcome s', post outcome s' → post' outcome s') :
    p.Ensures exec t guard post' s := by
  induction p generalizing s with
  | done outcome => exact le _ _ h
  | await cmd next ih =>
      intro choice answer s₁ ran ok
      exact ih answer (h choice answer s₁ ran ok)

theorem Ensures.andThen {post : Except E β → σ → Prop} {p : Program Cmd Resp E α}
    {f : Except E α → Program Cmd Resp E β}
    (h : p.Ensures exec t guard (fun outcome s' => (f outcome).Ensures exec t guard post s') s) :
    (p.andThen f).Ensures exec t guard post s := by
  induction p generalizing s with
  | done outcome => exact h
  | await cmd next ih =>
      intro choice answer s₁ ran ok
      exact ih answer (h choice answer s₁ ran ok)

/-- The postcondition of the first part of a sequence. -/
def Then (after : α → σ → Prop) (raised : E → σ → Prop) : Except E α → σ → Prop
  | .ok a, s => after a s
  | .error e, s => raised e s

/-- Sequencing: a raised exception ends the program. -/
theorem Ensures.bind {post : Except E β → σ → Prop} {p : Program Cmd Resp E α}
    {f : α → Program Cmd Resp E β}
    (h : p.Ensures exec t guard (Then (fun a s' => (f a).Ensures exec t guard post s')
      fun e s' => post (.error e) s') s) :
    (p >>= f).Ensures exec t guard post s := by
  refine Ensures.andThen (h.mono fun outcome s' holds => ?_)
  cases outcome with
  | ok a => exact holds
  | error e => exact holds

/-- Exception handling: a returned value ends the block. -/
theorem Ensures.tryCatch {post : Except E α → σ → Prop} {p : Program Cmd Resp E α}
    {handler : E → Program Cmd Resp E α}
    (h : p.Ensures exec t guard (Then (fun a s' => post (.ok a) s')
      fun e s' => (handler e).Ensures exec t guard post s') s) :
    (tryCatch p handler).Ensures exec t guard post s := by
  refine Ensures.andThen (h.mono fun outcome s' holds => ?_)
  cases outcome with
  | ok a => exact holds
  | error e => exact holds

/-- A finalizer runs after either outcome. -/
theorem Ensures.ensuring {post : Except E α → σ → Prop} {p : Program Cmd Resp E α}
    {finalizer : Program Cmd Resp E Unit}
    (h : p.Ensures exec t guard (fun outcome s' => finalizer.Ensures exec t guard
      (Then (fun _ s' => post outcome s') fun e s' => post (.error e) s') s') s) :
    (p.ensuring finalizer).Ensures exec t guard post s := by
  refine Ensures.andThen (h.mono fun outcome s' holds => ?_)
  refine Ensures.andThen (holds.mono fun final s'' holds' => ?_)
  cases final with
  | ok _ => exact holds'
  | error e => exact holds'

/-- One command. -/
theorem Ensures.call {cmd : Cmd} {post : Except E (Resp cmd) → σ → Prop}
    (h : ∀ choice answer s', exec t cmd choice s = some (answer, s') →
      guard ⟨t, cmd, choice, answer, s, s'⟩ → post answer s') :
    (call cmd).Ensures exec t guard post s :=
  h

/-- A loop over a list, with an invariant over the elements still to come. -/
theorem Ensures.forM {A : Type} {f : A → Program Cmd Resp E PUnit}
    {post : Except E PUnit → σ → Prop} (loop : List A → σ → Prop) {xs : List A}
    (body : ∀ x rest s', loop (x :: rest) s' → (f x).Ensures exec t guard
      (Then (fun _ s'' => loop rest s'') fun e s'' => post (.error e) s'') s')
    (final : ∀ s', loop [] s' → post (.ok ⟨⟩) s') (start : loop xs s) :
    (xs.forM f).Ensures exec t guard post s := by
  induction xs generalizing s with
  | nil => exact final s start
  | cons x rest ih =>
      refine Ensures.bind ((body x rest s start).mono fun outcome s' holds => ?_)
      cases outcome with
      | ok _ => exact ih holds
      | error e => exact holds

end Rules

end Interleave.Program
