import BatchFetch.Proofs.Dispatch.Endpoint
import BatchFetch.Proofs.Dispatch.Results

/-! # Timers

Time goes on to the soonest timer and never past one. So a worker that waits for a timer goes on exactly when
it fires, and a batch that has not stopped is not past its deadline, nor past the time at which its caller
gives it up. -/

namespace BatchFetch.Batch

/-- No timer of a worker is in the past. -/
def Timely (s : State) : Prop := ∀ i wake, s.wakes? i = some wake → s.now ≤ wake

section Timers
variable {b : Batch} {s t : State} {i wake later : Nat}

theorem le_of_mem_wakeTimes (soonest : (b.wakeTimes s).min? = some later) (hmem : wake ∈ b.wakeTimes s) :
    later ≤ wake := (List.min?_eq_some_iff.mp soonest).2 wake hmem

theorem mem_wakeTimes_of_wakes (wakes : s.wakes? i = some wake) : wake ∈ b.wakeTimes s := by
  have hi : i < s.phases.length := phase_of_done_le fun hdone => by simp [State.wakes?, hdone] at wakes
  unfold wakeTimes
  rw [List.mem_append, List.mem_append, List.mem_filterMap]
  exact .inl (.inl ⟨i, List.mem_range.mpr hi, wakes⟩)

/-- The clock goes on to the timer of a worker, or to the time at which the batch is stopped. -/
theorem cases_of_mem_wakeTimes (hmem : wake ∈ b.wakeTimes s) :
    (∃ i, s.wakes? i = some wake) ∨ b.cancelAt = some wake ∨ wake = b.deadline := by
  unfold wakeTimes at hmem
  rw [List.mem_append, List.mem_append, List.mem_filterMap] at hmem
  rcases hmem with (⟨i, -, wakes⟩ | hcancel) | hdeadline
  · exact .inl ⟨i, wakes⟩
  · split at hcancel
    · cases hcancel
    · exact .inr (.inl (Option.mem_toList.mp hcancel))
  · split at hdeadline
    · cases hdeadline
    · exact .inr (.inr (List.mem_singleton.mp hdeadline))

/-- The timer of a phase, if it waits for one. -/
def Phase.wakes? : Phase → Option Nat
  | .waiting _ wake => some wake
  | .calling _ _ ends reply => if reply.ending = .never then none else some ends
  | .backingOff _ wake => some wake
  | .fresh | .queued | .done => none

theorem wakes?_eq (s : State) (i : Nat) : s.wakes? i = (s.phase i).wakes? := by
  unfold State.wakes?
  cases s.phase i <;> rfl

/-- After a move its worker looks at its token at once, or waits for a timer that was set just now. -/
theorem Moved.wake_eq (m : Moved b i s t) (wakes : (t.phase i).wakes? = some wake) :
    wake = s.now ∨ ∃ d, wake = Clock.timer s.now d := by
  have hi := m.before
  cases m with
  | passed _ _ eq =>
    simp only [phase_self (agrees_of_unqueued eq).phases hi, Phase.wakes?, Option.some.injEq] at wakes
    exact .inl wakes.symm
  | waits _ _ d _ _ _ _ eq =>
    simp only [phase_self (agrees_of_unqueued eq).phases hi, Phase.wakes?, Option.some.injEq] at wakes
    exact .inr ⟨d, wakes.symm⟩
  | called _ _ _ _ _ _ _ eq =>
    rw [phase_self (agrees_of_unqueued eq).phases hi] at wakes
    unfold Phase.wakes? at wakes
    dsimp only at wakes
    split at wakes
    · cases wakes
    · obtain rfl := Option.some.inj wakes
      unfold Clock.due
      split
      · exact .inl rfl
      · exact .inr ⟨_, rfl⟩
  | failed _ _ _ _ _ _ _ _ eq =>
    simp only [phase_self (agrees_of_unqueued eq).phases hi, Phase.wakes?, Option.some.injEq] at wakes
    exact .inr ⟨_, wakes.symm⟩
  | queued _ _ eq | refused _ _ _ _ _ _ _ eq | ended _ _ _ _ _ _ _ _ eq | brokeOff _ _ _ _ _ _ _ _ eq
  | cancelled _ _ _ eq =>
    simp [phase_self (agrees_of_unqueued eq).phases hi, Phase.wakes?] at wakes

theorem timely_initial (b : Batch) : Timely b.initial := by
  intro i wake wakes
  by_cases hi : i < b.targets.length <;> simp [State.wakes?, State.phase, initial, hi] at wakes

theorem Timely.step (h : Timely s) (hs : Step b s t) : Timely t := by
  cases hs with
  | stop _ => exact h
  | move i can =>
    have m := moved_move (b := b) can
    intro j wake wakes
    rw [m.frame.1]
    rw [wakes?_eq] at wakes
    by_cases hij : i = j
    · subst hij
      rcases m.wake_eq wakes with rfl | ⟨d, rfl⟩
      · exact Nat.le_refl _
      · exact Clock.le_timer s.now d
    · rw [m.phase_of_ne hij, ← wakes?_eq] at wakes
      exact h j wake wakes
  | collect i e _ => exact h
  | wait later _ _ _ _ soonest => exact fun j wake wakes => le_of_mem_wakeTimes soonest (mem_wakeTimes_of_wakes wakes)

theorem Reachable.timely (reach : Reachable b s) : Timely s := by
  induction reach with
  | start => exact timely_initial b
  | step _ hs ih => exact ih.step hs

/-- Time does not go back. -/
theorem Step.now_le (hs : Step b s t) : s.now ≤ t.now := by
  cases hs with
  | stop | collect => exact Nat.le_refl _
  | move i can => exact (moved_move (b := b) can).frame.1.ge
  | wait later ready idle _ _ soonest => exact now_le_of_soonest ready idle soonest

theorem since_le_since {τ T : Nat} (h : τ ≤ T) (start : Nat) : Clock.since τ start ≤ Clock.since T start := by
  show min (τ - start) Span.maxNanos ≤ min (T - start) Span.maxNanos
  omega

theorem Reachable.isAt_of_mem (reach : Reachable b s) : ∀ e ∈ s.log, ∃ τ ≤ s.now, e.IsAt b τ := by
  induction reach with
  | start => simp [initial]
  | step reach hs ih =>
    obtain ⟨es, hlog, hes⟩ := reach.adds_of_step hs
    rw [hlog]
    refine List.forall_mem_append.mpr ⟨fun e he => ?_, fun e he => ⟨_, hs.now_le, hes e he⟩⟩
    obtain ⟨τ, hτ, isAt⟩ := ih e he
    exact ⟨τ, hτ.trans hs.now_le, isAt⟩

/-- No result took longer than the batch did. -/
theorem Reachable.elapsed_le (reach : Reachable b s) {r : FetchResult} (hr : HasResult b s i r) :
    r.elapsed ≤ Clock.since s.now b.start := by
  rcases hr with hr | ⟨e, he, rfl⟩
  · obtain ⟨e, he, heq⟩ := List.mem_filterMap.mp hr
    obtain ⟨τ, hτ, isAt⟩ := reach.isAt_of_mem e he
    cases e with
    | finished j r =>
      cases heq
      have helapsed : r.elapsed = Clock.since τ b.start := isAt
      exact helapsed ▸ since_le_since hτ b.start
    | tokenTaken | refused | ended | brokeOff | breaker | called => cases heq
  · rw [reach.prompt i e he]
    exact Nat.le_refl _

/-- A worker whose retry is due in a batch that has not stopped makes it when its wait is over, and not later. -/
theorem Reachable.now_eq_of_retry (reach : Reachable b s) {retry : UInt32} (before : s.phase i = .backingOff retry wake)
    (can : s.canMove i = true) (running : s.stopped = false) : s.now = wake := by
  have hle : s.now ≤ wake := reach.timely i wake (by simp [State.wakes?, before])
  have hge : wake ≤ s.now := by simpa [State.canMove, before, running] using can
  exact Nat.le_antisymm hle hge

/-- The clock stands at a whole millisecond, and so do the timers of the workers. -/
def Whole (s : State) : Prop := 1000000 ∣ s.now ∧ ∀ i wake, s.wakes? i = some wake → 1000000 ∣ wake

theorem Whole.step (h : Whole s) (hdeadline : 1000000 ∣ b.deadline) (hcancel : ∀ c, b.cancelAt = some c → 1000000 ∣ c)
    (hs : Step b s t) : Whole t := by
  cases hs with
  | stop | collect => exact h
  | move i can =>
    have m := moved_move (b := b) can
    refine ⟨m.frame.1 ▸ h.1, fun j wake wakes => ?_⟩
    rw [wakes?_eq] at wakes
    by_cases hij : i = j
    · subst hij
      rcases m.wake_eq wakes with rfl | ⟨d, rfl⟩
      · exact h.1
      · exact Clock.dvd_timer h.1 d
    · rw [m.phase_of_ne hij, ← wakes?_eq] at wakes
      exact h.2 j wake wakes
  | wait later _ _ _ _ soonest =>
    refine ⟨?_, h.2⟩
    rcases cases_of_mem_wakeTimes (List.min?_mem soonest) with ⟨i, wakes⟩ | hc | hd
    · exact h.2 i later wakes
    · exact hcancel later hc
    · exact hd ▸ hdeadline

/-! ### The end of a batch -/

/-- A batch that its caller gave up has stopped. -/
theorem Reachable.stopped_of_givenUp (reach : Reachable b s) (givenUp : s.givenUp = true) : s.stopped = true := by
  induction reach with
  | start => exact givenUp
  | step _ hs ih =>
    cases hs with
    | stop _ => rfl
    | move i can =>
      have frame := (moved_move (b := b) can).frame
      rw [frame.2.1]
      exact ih (frame.2.2.1 ▸ givenUp)
    | collect i e _ => exact ih givenUp
    | wait later _ _ _ _ _ => exact ih givenUp

theorem Reachable.givenUp_of_running (reach : Reachable b s) (running : s.stopped = false) : s.givenUp = false := by
  by_contra h
  have := reach.stopped_of_givenUp (by simpa using h)
  simp [running] at this

/-- The caller gives a batch up at its own time only. -/
theorem Reachable.cancelAt_of_givenUp (reach : Reachable b s) (givenUp : s.givenUp = true) :
    ∃ c, b.cancelAt = some c ∧ c ≤ s.now := by
  induction reach with
  | start => simpa [initial, Option.any_eq_true] using givenUp
  | step reach hs ih =>
    cases hs with
    | stop _ =>
      rcases Bool.or_eq_true_iff.mp givenUp with givenUp | due
      · exact ih givenUp
      · obtain ⟨c, hc, hle⟩ := (Option.any_eq_true _ _).mp (Bool.and_eq_true_iff.mp due).2
        exact ⟨c, hc, of_decide_eq_true hle⟩
    | move i can =>
      have frame := (moved_move (b := b) can).frame
      rw [frame.1]
      exact ih (frame.2.2.1 ▸ givenUp)
    | collect i e _ => exact ih givenUp
    | wait later ready idle _ _ soonest =>
      obtain ⟨c, hc, hle⟩ := ih givenUp
      exact ⟨c, hc, hle.trans (now_le_of_soonest ready idle soonest)⟩

/-- A batch that has not stopped is past neither its deadline nor the time at which its caller gives it up. -/
theorem Reachable.now_le_of_running (hb : b.start ≤ b.deadline) (reach : Reachable b s) (running : s.stopped = false) :
    s.now ≤ b.deadline ∧ ∀ c, b.cancelAt = some c → s.now ≤ c := by
  induction reach with
  | start =>
    refine ⟨hb, fun c hc => ?_⟩
    have : ¬c ≤ b.start := by simpa [initial, hc] using running
    exact Nat.le_of_not_le this
  | @step s t reach hs ih =>
    cases hs with
    | stop _ => cases running
    | move i can =>
      have frame := (moved_move (b := b) can).frame
      rw [frame.1]
      exact ih (frame.2.1 ▸ running)
    | collect i e _ => exact ih running
    | wait later _ _ _ _ soonest =>
      have running : s.stopped = false := running
      have hgivenUp := reach.givenUp_of_running running
      refine ⟨le_of_mem_wakeTimes soonest (by simp [wakeTimes, running]), fun c hc => ?_⟩
      exact le_of_mem_wakeTimes soonest (by simp [wakeTimes, hgivenUp, hc])

end Timers

section Built
variable {c : Config} {targets : List String} {start : Nat} {cancelAfter : Option UInt64} {transport : Transport}
  {earlier : List Call} {draw : Nat → UInt32 → Nat} {b : Batch}

/-- What a batch takes from its configuration and from its caller. -/
theorem eq_of_built (built : ofConfig? c targets start cancelAfter transport earlier draw = some b) :
    b.targets = targets ∧ b.start = start ∧ b.retry = .ofConfig c.retries ∧ b.transport = transport ∧
      b.cancelAt = cancelAfter.map (fun ms => Clock.due start (Span.ofMillis ms)) ∧
      b.deadline = Clock.timer start (Span.ofSeconds c.dispatch.batchTimeoutSecs) := by
  obtain rfl := eq_ofConfig built
  exact ⟨rfl, rfl, rfl, rfl, rfl, rfl⟩

/-- A batch that starts at a whole millisecond goes on at whole milliseconds. -/
theorem Reachable.dvd_now (built : ofConfig? c targets start cancelAfter transport earlier draw = some b)
    (hstart : 1000000 ∣ start) {s : State} (reach : Reachable b s) : 1000000 ∣ s.now := by
  obtain ⟨-, rfl, -, -, hcancel, hdeadline⟩ := eq_of_built built
  suffices h : Whole s from h.1
  induction reach with
  | start =>
    refine ⟨hstart, fun i wake wakes => ?_⟩
    by_cases hi : i < b.targets.length <;> simp [State.wakes?, State.phase, initial, hi] at wakes
  | step _ hs ih =>
    refine ih.step (hdeadline ▸ Clock.dvd_timer hstart _) (fun t ht => ?_) hs
    obtain ⟨ms, -, rfl⟩ := Option.map_eq_some_iff.mp (hcancel ▸ ht)
    exact Clock.dvd_due hstart _

end Built

end BatchFetch.Batch
