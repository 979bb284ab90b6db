import TicketCore.Interleave.Program

/-!
# Programs one after another

A `Serial` execution runs programs one after another, each to its end, and keeps for each of them a
`Call`: what was run, where it started, its events and its outcome. `Serial.keeps` is the rule for
what every call keeps, and `exists_serial_of_play` finds executions by running them.

Nothing here mentions a particular system.
-/

namespace Interleave

variable {A ι σ Cmd E Choice α : Type} {Resp : Cmd → Type}

/-- A program that has been run to its end. -/
structure Call (A ι σ Cmd : Type) (Resp : Cmd → Type) (E Choice α : Type) where
  label : A
  before : σ
  events : List (Event ι σ Cmd Resp E Choice)
  outcome : Except E α

/-- The programs of some labels, run one after another by thread `t`. -/
inductive Serial (exec : Exec ι σ Cmd Resp E Choice) (t : ι)
    (program : A → Program Cmd Resp E α)
    (s : σ) : List (Call A ι σ Cmd Resp E Choice α) → σ → Prop
  | nil : Serial exec t program s [] s
  | snoc {calls : List (Call A ι σ Cmd Resp E Choice α)} {s₁ s₂ : σ} {a : A}
      {events : List (Event ι σ Cmd Resp E Choice)} {outcome : Except E α} :
      Serial exec t program s calls s₁ → (program a).Runs exec t s₁ events outcome s₂ →
      Serial exec t program s (calls ++ [⟨a, s₁, events, outcome⟩]) s₂

variable {exec : Exec ι σ Cmd Resp E Choice} {t : ι}
  {program : A → Program Cmd Resp E α} {s s' : σ}
  {calls : List (Call A ι σ Cmd Resp E Choice α)}

/-- **The rule of serial executions.** What every guarded call keeps, and establishes of itself,
holds after the execution, and of all its calls. -/
theorem Serial.keeps {I : σ → Prop}
    {P Q : Call A ι σ Cmd Resp E Choice α → Prop} (start : I s)
    (serial : Serial exec t program s calls s') (guarded : ∀ call ∈ calls, P call)
    (each : ∀ call s', I call.before → P call →
      (program call.label).Runs exec t call.before call.events call.outcome s' →
      I s' ∧ Q call) :
    I s' ∧ ∀ call ∈ calls, Q call := by
  induction serial with
  | nil => exact ⟨start, fun _ mem => (List.not_mem_nil mem).elim⟩
  | @snoc calls s₁ s₂ a events outcome _ ran ih =>
      obtain ⟨kept, all⟩ := ih fun call mem => guarded call (List.mem_append_left _ mem)
      have last := guarded _ (List.mem_append_right _ (List.mem_singleton_self _))
      obtain ⟨kept', own⟩ := each ⟨a, s₁, events, outcome⟩ s₂ kept last ran
      refine ⟨kept', fun call mem => ?_⟩
      rcases List.mem_append.mp mem with mem | mem
      · exact all call mem
      · rw [List.mem_singleton.mp mem]
        exact own

/-! ## Finding executions -/

/-- The execution in which each program meets the environment that stands beside its label. -/
def Serial.play (exec : Exec ι σ Cmd Resp E Choice) (t : ι)
    (program : A → Program Cmd Resp E α) :
    List (A × (Nat → Choice)) → σ → Option (List (Call A ι σ Cmd Resp E Choice α) × σ)
  | [], s => some ([], s)
  | (a, env) :: rest, s =>
      match (program a).play exec t env s with
      | none => none
      | some (events, outcome, s₁) =>
          (Serial.play exec t program rest s₁).map fun (calls, s₂) =>
            (⟨a, s, events, outcome⟩ :: calls, s₂)

theorem serial_of_play {script : List (A × (Nat → Choice))} {s₀ : σ}
    {earlier : List (Call A ι σ Cmd Resp E Choice α)}
    (serial : Serial exec t program s₀ earlier s)
    (played : Serial.play exec t program script s = some (calls, s')) :
    Serial exec t program s₀ (earlier ++ calls) s' := by
  induction script generalizing earlier s calls with
  | nil =>
      cases played
      rw [List.append_nil]
      exact serial
  | cons head rest ih =>
      unfold Serial.play at played
      split at played
      · cases played
      · rename_i events outcome s₁ ran
        obtain ⟨⟨later, s₂⟩, continued, same⟩ := Option.map_eq_some_iff.mp played
        cases same
        have next := ih (serial.snoc (Program.runs_of_play ran)) continued
        rwa [List.append_assoc] at next

/-- An execution that a script finds, with what its play says of it. -/
theorem exists_serial_of_play {script : List (A × (Nat → Choice))}
    {P : List (Call A ι σ Cmd Resp E Choice α) → σ → Bool}
    (found : (Serial.play exec t program script s).any (fun r => P r.1 r.2) = true) :
    ∃ calls s', Serial exec t program s calls s' ∧ P calls s' = true := by
  obtain ⟨⟨calls, s'⟩, played, holds⟩ := (Option.any_eq_true _ _).mp found
  exact ⟨calls, s', serial_of_play .nil played, holds⟩

end Interleave
