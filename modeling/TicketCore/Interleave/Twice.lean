import TicketCore.Interleave.Program

/-!
# Programs run twice

The weakest precondition of a program that one thread runs alone from each of two states, with the
same choices of the environment: `p.Twice exec t post s s'` says that each of its commands is
answered in both runs in the same way, or has to wait in both, and that `post` holds of the outcome
and the states in which the two runs end. It is computed along the program, one command after
another.

* `Twice.play_eq`: the two runs have the same outcome.
* `Only.twice`: a relation of states that all commands of a program keep.

Nothing here mentions a particular system.
-/

namespace Interleave

variable {ι σ Cmd E Choice α β : Type} {Resp : Cmd → Type}

/-- Whatever the environment chooses, the command is answered in both states in the same way, or has
to wait in both, and `post` holds of the answer and the next states. -/
def AnsweredAlike (exec : Exec ι σ Cmd Resp E Choice) (t : ι) (cmd : Cmd)
    (post : Except E (Resp cmd) → σ → σ → Prop) (s s' : σ) : Prop :=
  ∀ choice, Option.Rel (fun x y => x.1 = y.1 ∧ post x.1 x.2 y.2) (exec t cmd choice s)
    (exec t cmd choice s')

theorem AnsweredAlike.mono {exec : Exec ι σ Cmd Resp E Choice} {t : ι} {cmd : Cmd} {s s' : σ}
    {post post' : Except E (Resp cmd) → σ → σ → Prop}
    (h : AnsweredAlike exec t cmd post s s')
    (le : ∀ answer s₁ s₁', post answer s₁ s₁' → post' answer s₁ s₁') :
    AnsweredAlike exec t cmd post' s s' := by
  intro choice
  have first := h choice
  generalize exec t cmd choice s = r at first
  generalize exec t cmd choice s' = r' at first
  cases first with
  | none => exact .none
  | some both => exact .some ⟨both.1, le _ _ _ both.2⟩

namespace Program

/-- The program goes in the same way from both states, and its runs end in `post`. -/
def Twice (exec : Exec ι σ Cmd Resp E Choice) (t : ι)
    (post : Except E α → σ → σ → Prop) :
    Program Cmd Resp E α → σ → σ → Prop
  | .done outcome, s, s' => post outcome s s'
  | .await cmd next, s, s' =>
      AnsweredAlike exec t cmd
        (fun answer s₁ s₁' => (next answer).Twice exec t post s₁ s₁') s s'

section Rules

variable {exec : Exec ι σ Cmd Resp E Choice} {t : ι} {s s' : σ}

/-- In the same environment both runs have the same outcome, or have to wait. -/
theorem Twice.play_eq {post : Except E α → σ → σ → Prop} {p : Program Cmd Resp E α}
    (h : p.Twice exec t post s s') (env : Nat → Choice) :
    (p.play exec t env s).map (fun r => r.2.1) = (p.play exec t env s').map fun r => r.2.1 := by
  induction p generalizing s s' env with
  | done outcome => rfl
  | await cmd next ih =>
      have first := h (env 0)
      unfold play
      generalize exec t cmd (env 0) s = r at first
      generalize exec t cmd (env 0) s' = r' at first
      cases first with
      | none => rfl
      | @some x y both =>
          obtain ⟨answer, s₁⟩ := x
          obtain ⟨_, s₁'⟩ := y
          obtain ⟨rfl, rest⟩ := both
          have outcomes := ih answer rest fun n => env (n + 1)
          dsimp only at outcomes ⊢
          generalize (next answer).play exec t (fun n => env (n + 1)) s₁ = q at outcomes
          generalize (next answer).play exec t (fun n => env (n + 1)) s₁' = q' at outcomes
          cases q with
          | none =>
              cases q' with
              | none => rfl
              | some _ => cases outcomes
          | some _ =>
              cases q' with
              | none => cases outcomes
              | some _ => exact outcomes

theorem Twice.mono {post post' : Except E α → σ → σ → Prop} {p : Program Cmd Resp E α}
    (h : p.Twice exec t post s s')
    (le : ∀ outcome s₁ s₁', post outcome s₁ s₁' → post' outcome s₁ s₁') :
    p.Twice exec t post' s s' := by
  induction p generalizing s s' with
  | done outcome => exact le _ _ _ h
  | await cmd next ih => exact AnsweredAlike.mono h fun answer _ _ rest => ih answer rest

/-- A program keeps a relation of states that each command it can await keeps. -/
theorem Only.twice {P : Cmd → Prop} {R : σ → σ → Prop} {p : Program Cmd Resp E α}
    (h : p.Only P) (each : ∀ cmd s₁ s₁', P cmd → R s₁ s₁' →
      AnsweredAlike exec t cmd (fun _ => R) s₁ s₁')
    (start : R s s') : p.Twice exec t (fun _ => R) s s' := by
  induction p generalizing s s' with
  | done outcome => exact start
  | await cmd next ih =>
      exact AnsweredAlike.mono (each cmd s s' h.1 start) fun answer _ _ related =>
        ih answer (h.2 answer) related

end Rules

end Program

end Interleave
