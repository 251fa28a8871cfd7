import BatchFetch.Breaker.Basic

/-! # Breakers at another time

A breaker compares times with each other only. If everything happens to it later by the same length, it gives the
same answers, and is the same breaker afterwards but for the time of its latest failure. -/

namespace BatchFetch.Breaker

/-- The breaker to which everything has happened later. -/
def after (σ : Nat) (b : Breaker) : Breaker := { b with lastFailure := b.lastFailure.map (σ + ·) }

def Turn.after {α : Type} (σ : Nat) (t : Turn α) : Turn α := { t with breaker := t.breaker.after σ }

section After
variable {s : Settings} {b : Breaker} {σ now : Nat} {p : Permit} {v : Verdict}

@[simp] theorem state_after : (b.after σ).state = b.state := rfl

@[simp] theorem trialRunning_after : (b.after σ).trialRunning = b.trialRunning := rfl

@[simp] theorem window_after : (b.after σ).window = b.window := rfl

theorem cooled_after : (b.after σ).cooled s (σ + now) = b.cooled s now := by
  unfold cooled after
  cases b.lastFailure with
  | none => rfl
  | some t =>
    simp only [Option.map_some]
    rw [Nat.add_sub_add_left]

theorem remaining_after : (b.after σ).remaining s (σ + now) = b.remaining s now := by
  unfold remaining after
  cases b.lastFailure with
  | none => rfl
  | some t =>
    simp only [Option.map_some]
    rw [Nat.add_sub_add_left]

theorem ask_after : (b.after σ).ask s (σ + now) = (b.ask s now).after σ := by
  unfold ask
  rw [cooled_after, remaining_after, state_after, trialRunning_after]
  cases b.state with
  | closed => rfl
  | opened =>
    dsimp only
    split <;> rfl
  | halfOpen =>
    dsimp only
    split <;> rfl

theorem freeTrial_after : (b.after σ).freeTrial p = (b.freeTrial p).after σ := by
  unfold freeTrial
  rw [window_after]
  split <;> rfl

theorem report_after : (b.after σ).report s (σ + now) p v = (b.report s now p v).after σ := by
  unfold report
  rw [freeTrial_after]
  cases v with
  | neutral => rfl
  | success =>
    dsimp only [state_after, after]
    split <;> rfl
  | failure =>
    dsimp only [state_after, after]
    split <;> rfl

end After

end BatchFetch.Breaker
