import ReplicaSet.Simulation.Clockwork

/-!
Systems that are left to themselves while time passes. What moves and the passage of time keep is
there in the end, and with enough moves there is none left.
-/
namespace ReplicaSet.Simulation.Clockwork

variable {σ : Type} [Clockwork σ]

theorem run_induction (kept : σ → Prop)
    (worked : ∀ {system next : σ}, kept system → work? system = some next → kept next) (count : Nat)
    {system : σ} (holds : kept system) : kept (run count system) := by
  induction count generalizing system with
  | zero => exact holds
  | succ count ih =>
    unfold run
    split
    · exact holds
    · rename_i next step
      exact ih (worked holds step)

theorem run_of_work?_eq_none {system : σ} (stuck : work? system = none) (count : Nat) :
    run count system = system := by
  cases count with
  | zero => rfl
  | succ count =>
    unfold run
    rw [stuck]

/-- If each move lowers the effort that is left, then so many moves are all that can be made. -/
theorem work?_run (effort : σ → Nat)
    (lowers : ∀ {system next : σ}, work? system = some next → effort next < effort system)
    {count : Nat} {system : σ} (enough : effort system ≤ count) :
    work? (run count system) = none := by
  induction count generalizing system with
  | zero =>
    unfold run
    cases step : work? system with
    | none => rfl
    | some next =>
      have lower := lowers step
      omega
  | succ count ih =>
    unfold run
    split
    · assumption
    · rename_i next step
      have lower := lowers step
      exact ih (by omega)

/-- A system that is left to itself up to the target only lets time pass up to its next timer, when
it is settled, or at last up to the target. -/
theorem hop_induction (kept : σ → Prop)
    (worked : ∀ {system next : σ}, kept system → work? system = some next → kept next)
    (settles : ∀ system : σ, work? (settle system) = none) (target : Nat)
    (fires : ∀ {system : σ} {time : Nat}, kept system → work? system = none →
      alarm? system = some time → time ≤ target → kept (atInstant system time))
    (ends : ∀ {system : σ}, kept system → kept (atInstant system target)) (count : Nat)
    {system : σ} (holds : kept system) : kept (hop target count system) := by
  induction count generalizing system with
  | zero => exact run_induction kept worked _ (ends holds)
  | succ count ih =>
    have settled : kept (settle system) := run_induction kept worked _ holds
    unfold hop
    dsimp only
    split
    · exact run_induction kept worked _ (ends settled)
    · rename_i time alarm
      split
      · rename_i inTime
        exact ih (fires settled (settles system) alarm inTime)
      · exact run_induction kept worked _ (ends settled)

/-- However often it hops, a system settles at the target in the end. -/
theorem hop_settles (target count : Nat) (system : σ) :
    ∃ before, hop target count system = settle (atInstant before target) := by
  induction count generalizing system with
  | zero => exact ⟨system, rfl⟩
  | succ count ih =>
    unfold hop
    dsimp only
    split
    · exact ⟨_, rfl⟩
    · split
      · exact ih _
      · exact ⟨_, rfl⟩

theorem hop_next {target time count : Nat} {system : σ}
    (alarm : alarm? (settle system) = some time) (inTime : time ≤ target) :
    hop target (count + 1) system = hop target count (atInstant (settle system) time) := by
  simp [hop, alarm, inTime]

theorem hop_end {target count : Nat} {system : σ}
    (late : ∀ time, alarm? (settle system) = some time → target < time) :
    hop target (count + 1) system = settle (atInstant (settle system) target) := by
  cases alarm : alarm? (settle system) with
  | none => simp [hop, alarm]
  | some time => simp [hop, alarm, Nat.not_le_of_lt (late time alarm)]

end ReplicaSet.Simulation.Clockwork
