import TicketCore.Api

/-!
# Sessions under a discipline

What a discipline has to say of `rollback` and of `close`, and what follows from it for the session
of a request, for that of a task and for the `except SQLAlchemyError` blocks of the services.
-/

namespace TicketCore

open Interleave

variable {ι σ Choice γ α : Type} [DecidableEq ι]
  {D : Discipline ι σ Cmd Cmd.Resp Exn Choice γ}
  {exec : Exec ι σ Cmd Cmd.Resp Exn Choice} {t : ι} {g : γ}

/-- The exception is raised again after the rollback, or that of the rollback is. -/
theorem follows_rollbackThrow {e : Exn} {post : Except Exn α → γ → Prop}
    (rolled : D.Follows exec t (fun answer g' => post (answer.bind fun _ => .error e) g')
      (sql .rollback) g) :
    D.Follows exec t post (do sql .rollback; throw e) g :=
  Discipline.Follows.thenThrow rolled

/-- The `except SQLAlchemyError` block of the services. -/
theorem follows_rollbackOnSQLAlchemyError {e : Exn} {post : Except Exn α → γ → Prop}
    (rolled : D.Follows exec t (fun answer g' => post (answer.bind fun _ => .error e) g')
      (sql .rollback) g)
    (raised : post (.error e) g) : D.Follows exec t post (rollbackOnSQLAlchemyError e) g := by
  unfold rollbackOnSQLAlchemyError
  split
  · exact follows_rollbackThrow rolled
  · exact raised

/-- The session of a request. -/
theorem follows_getDb {request : Async α} {post : Except Exn α → γ → Prop}
    (entered left : Except Exn α → γ → Prop) (h : D.Follows exec t entered request g)
    (returned : ∀ a g', entered (.ok a) g' → left (.ok a) g')
    (raised : ∀ e g', entered (.error e) g' →
      D.Follows exec t (fun answer g'' => left (answer.bind fun _ => .error e) g'')
        (sql .rollback) g')
    (closed : ∀ outcome g', left outcome g' →
      D.Follows exec t (fun answer g'' => post (answer.bind fun _ => outcome) g'')
        (sql .close) g') :
    D.Follows exec t post (getDb request) g :=
  Discipline.Follows.undoing entered left h returned raised closed

/-- The session of a task. -/
theorem follows_withSession {body : Async α} {post : Except Exn α → γ → Prop}
    (left : Except Exn α → γ → Prop) (h : D.Follows exec t left body g)
    (closed : ∀ outcome g', left outcome g' →
      D.Follows exec t (fun answer g'' => post (answer.bind fun _ => outcome) g'')
        (sql .close) g') :
    D.Follows exec t post (withSession body) g := by
  refine Discipline.Follows.ensuring left h fun outcome g' holds =>
    (closed outcome g' holds).mono fun answer g'' holds' => ?_
  cases answer with
  | ok _ => exact holds'
  | error e => exact holds'

/-- A program whose value is dropped. -/
theorem follows_unit {p : Async α} {post : Except Exn Unit → γ → Prop}
    (h : D.Follows exec t (fun outcome g' => post (outcome.map fun _ => ()) g') p g) :
    D.Follows exec t post (unit p) g := by
  refine Discipline.Follows.bind (fun _ => post (.ok ())) (h.mono fun outcome g' holds => ?_)
    fun _ _ holds => holds
  cases outcome with
  | ok a => exact holds
  | error e => exact holds

end TicketCore
