import BatchFetch.Proofs.Dispatch.Stopping

/-! # Cutting a batch short

A batch that is stopped is compared with the same batch that has more time and is never given up. The two go
through the same states until the stop; then the one does nothing any more but to cancel its workers, and
the other goes on, with events of later times only. So they agree in everything that came before. -/

namespace BatchFetch.Batch

/-- When a batch is stopped: its time is over, or its caller gives it up before that. -/
def stopTime (b : Batch) : Nat := b.cancelAt.elim b.deadline (min b.deadline)

/-- The same batch with another deadline and a caller who never gives it up. -/
def uncut (b : Batch) (deadline : Nat) : Batch := { b with cancelAt := none, deadline }

/-- Nothing happens in a state until after a time, if the clock goes on to it. -/
structure Asleep (T : Nat) (s : State) : Prop where
  idle : ∀ i, s.canMove i = false
  collected : s.exits = []
  late : ∀ i wake, s.wakes? i = some wake → T < wake

/-! ### The time of the stop -/

section Time
variable {b : Batch} {s t : State} {i T D wake later : Nat}

theorem le_stopTime_iff : T ≤ b.stopTime ↔ T ≤ b.deadline ∧ ∀ c, b.cancelAt = some c → T ≤ c := by
  unfold stopTime
  cases b.cancelAt with
  | none => simp
  | some c => exact Nat.le_min.trans (by simp)

theorem stopDue_iff (running : s.stopped = false) (kept : s.givenUp = false) :
    b.stopDue s = true ↔ b.stopTime ≤ s.now := by
  unfold stopDue callerDue deadlineDue stopTime
  cases b.cancelAt with
  | none => simp [running]
  | some c =>
    simp [running, kept]
    omega

theorem stopDue_uncut (running : s.stopped = false) (early : s.now < D) : (b.uncut D).stopDue s = false := by
  simp [stopDue, callerDue, deadlineDue, uncut, running, Nat.not_le.mpr early]

theorem mem_wakeTimes_iff (running : s.stopped = false) (kept : s.givenUp = false) :
    wake ∈ b.wakeTimes s ↔ (∃ i, s.wakes? i = some wake) ∨ b.cancelAt = some wake ∨ wake = b.deadline := by
  constructor
  · exact cases_of_mem_wakeTimes
  · rintro (⟨i, wakes⟩ | hcancel | rfl)
    · exact mem_wakeTimes_of_wakes wakes
    · simp [wakeTimes, kept, hcancel]
    · simp [wakeTimes, running]

theorem stopTime_mem_wakeTimes (running : s.stopped = false) (kept : s.givenUp = false) :
    b.stopTime ∈ b.wakeTimes s := by
  rw [mem_wakeTimes_iff running kept]
  unfold stopTime
  cases b.cancelAt with
  | none => exact .inr (.inr rfl)
  | some c =>
    refine .inr ?_
    show some c = some (min b.deadline c) ∨ min b.deadline c = b.deadline
    rcases Nat.le_total b.deadline c with h | h
    · exact .inr (Nat.min_eq_left h)
    · exact .inl (congrArg some (Nat.min_eq_right h).symm)

/-- The clock of a batch in which nothing happens before the stop goes on to the stop. -/
theorem soonest_of_asleep (running : s.stopped = false) (kept : s.givenUp = false) (asleep : Asleep b.stopTime s)
    (soonest : (b.wakeTimes s).min? = some later) : later = b.stopTime := by
  have hle : later ≤ b.stopTime := le_of_mem_wakeTimes soonest (stopTime_mem_wakeTimes running kept)
  rcases (mem_wakeTimes_iff running kept).mp (List.min?_mem soonest) with ⟨i, wakes⟩ | hcancel | rfl
  · exact absurd (asleep.late i later wakes) (Nat.not_lt.mpr hle)
  · exact Nat.le_antisymm hle ((le_stopTime_iff.mp (Nat.le_refl _)).2 later hcancel)
  · exact Nat.le_antisymm hle (le_stopTime_iff.mp (Nat.le_refl _)).1

/-- The timer of a worker that fires no later than the stop fires next in both batches. -/
theorem soonest_uncut (running : s.stopped = false) (kept : s.givenUp = false) (hD : b.stopTime < D)
    (wakes : s.wakes? i = some wake) (early : wake ≤ b.stopTime) (soonest : (b.wakeTimes s).min? = some later) :
    ((b.uncut D).wakeTimes s).min? = some later := by
  have hle : later ≤ wake := le_of_mem_wakeTimes soonest (mem_wakeTimes_of_wakes wakes)
  have hworker : ∃ j, s.wakes? j = some later := by
    rcases (mem_wakeTimes_iff running kept).mp (List.min?_mem soonest) with hj | hcancel | rfl
    · exact hj
    · have := (le_stopTime_iff.mp (Nat.le_refl b.stopTime)).2 later hcancel
      obtain rfl : later = wake := by omega
      exact ⟨i, wakes⟩
    · have := (le_stopTime_iff.mp (Nat.le_refl b.stopTime)).1
      have heq : b.deadline = wake := by omega
      exact ⟨i, heq ▸ wakes⟩
  refine List.min?_eq_some_iff.mpr ⟨(mem_wakeTimes_iff running kept).mpr (.inl hworker), fun x hx => ?_⟩
  rcases (mem_wakeTimes_iff running kept).mp hx with ⟨j, hj⟩ | hcancel | rfl
  · exact le_of_mem_wakeTimes soonest (mem_wakeTimes_of_wakes hj)
  · cases hcancel
  · exact hle.trans (early.trans hD.le)

theorem exists_early (awake : ¬Asleep T s) (idle : ∀ i, s.canMove i = false) (collected : s.exits = []) :
    ∃ i wake, s.wakes? i = some wake ∧ wake ≤ T := by
  by_contra h
  exact awake ⟨idle, collected, fun i wake wakes => Nat.lt_of_not_le fun hle => h ⟨i, wake, wakes, hle⟩⟩

/-- A batch that is asleep until after a time still is when the clock has come to it. -/
theorem Asleep.canMove_advance (asleep : Asleep T s) : (s.advance T).canMove i = false := by
  have idle := asleep.idle i
  have late := asleep.late i
  have hphase : (s.advance T).phase i = s.phase i := rfl
  unfold State.canMove at idle ⊢
  unfold State.wakes? at late
  rw [hphase]
  cases hp : s.phase i with
  | fresh => simp [hp] at idle
  | queued =>
    rw [hp] at idle
    exact idle
  | done => rfl
  | waiting since wake | backingOff retry wake =>
    simp only [hp, Option.some.injEq, forall_eq', Bool.or_eq_false_iff, decide_eq_false_iff_not] at idle late ⊢
    exact ⟨idle.1, Nat.not_le.mpr late⟩
  | calling retries permit ends reply =>
    simp only [hp, Bool.or_eq_false_iff] at idle late ⊢
    refine ⟨idle.1, ?_⟩
    by_cases hnever : reply.ending = .never
    · simp [hnever]
    · simp only [hnever, if_false, Option.some.injEq, forall_eq'] at late
      simp [State.advance, Nat.not_le.mpr late]

end Time

/-! ### One run beside the other -/

/-- The runs have parted: the first is a state of the batch that is cut, and the second one of the batch that is not,
    which has stayed where the two were together last. -/
inductive Apart (b : Batch) : State → State → Prop where
  /-- The clock has come to the stop already. -/
  | ahead {v : State} (running : v.stopped = false) (early : v.now ≤ b.stopTime) (asleep : Asleep b.stopTime v)
      (going : v.isOver = false) : Apart b (v.advance b.stopTime) v
  /-- The first batch has been stopped, in a state that differs from the second in nothing else but the time. -/
  | cut {s t v : State} (reach : Reachable b s) (stopped : s.stopped = true) (now : s.now = b.stopTime)
      (log : s.log = v.log) (exits : s.exits = v.exits) (running : v.stopped = false) (early : v.now ≤ b.stopTime)
      (waiting : v.now = b.stopTime ∨ Asleep b.stopTime v) (down : WindsDown b s t) : Apart b t v

/-- The runs are together, or they have parted. -/
def Beside (b : Batch) (s v : State) : Prop := s = v ∧ s.stopped = false ∨ Apart b s v

section Runs
variable {b : Batch} {s t u v : State} {D n : Nat}

theorem Reachable.now_le_stopTime (heeds : ∀ calls target, (b.transport calls target).heedsStop = true)
    (hb : b.start ≤ b.stopTime) (reach : Reachable b s) : s.now ≤ b.stopTime := by
  obtain ⟨hdeadline, hcancel⟩ := le_stopTime_iff.mp hb
  exact le_stopTime_iff.mpr (reach.now_le heeds hdeadline hcancel)

/-- When a batch is stopped that has not parted from the other one, the two part. -/
theorem apart_of_stop (reach : Reachable b s) (running : s.stopped = false) (early : s.now ≤ b.stopTime)
    (due : b.stopDue s = true) : Apart b (b.stop s) s := by
  have hnow : s.now = b.stopTime :=
    Nat.le_antisymm early ((stopDue_iff running (reach.givenUp_of_running running)).mp due)
  exact .cut (reach.step (.stop due)) rfl hnow rfl rfl running early (.inl hnow) (.refl rfl)

/-- What the batch does before the stop the other one can do as well. -/
theorem Reachable.step_uncut (reach : Reachable b s) (running : s.stopped = false) (early : s.now ≤ b.stopTime)
    (hD : b.stopTime < D) (hs : Step b s t) : Apart b t s ∨ t.stopped = false ∧ Step (b.uncut D) s t := by
  cases hs with
  | stop due => exact .inl (apart_of_stop reach running early due)
  | move i can => exact .inr ⟨(moved_move (b := b) can).frame.2.1.trans running, .move (b := b.uncut D) i can⟩
  | collect i e he => exact .inr ⟨running, .collect (b := b.uncut D) i e he⟩
  | wait later ready idle collected going soonest =>
    have kept := reach.givenUp_of_running running
    by_cases asleep : Asleep b.stopTime s
    · rw [soonest_of_asleep running kept asleep soonest]
      exact .inl (.ahead running early asleep going)
    · obtain ⟨i, wake, wakes, hwake⟩ := exists_early asleep idle collected
      refine .inr ⟨running, .wait later ?_ idle collected going ?_⟩
      · exact stopDue_uncut running (early.trans_lt hD)
      · exact soonest_uncut running kept hD wakes hwake soonest

/-- And it does so when its workers are served in line. -/
theorem Reachable.next_uncut (reach : Reachable b s) (running : s.stopped = false) (early : s.now ≤ b.stopTime)
    (hD : b.stopTime < D) (hn : b.next s = some t) : Apart b t s ∨ t.stopped = false ∧ (b.uncut D).next s = some t := by
  have kept := reach.givenUp_of_running running
  have ready' : (b.uncut D).stopDue s = false := stopDue_uncut running (early.trans_lt hD)
  cases next_iff.mp hn with
  | stop due => exact .inl (apart_of_stop reach running early due)
  | collect i e rest _ hexits => exact .inr ⟨running, next_iff.mpr (.collect (b := b.uncut D) i e rest ready' hexits)⟩
  | move i _ collected first =>
    refine .inr ⟨(moved_move (b := b) (List.find?_some first)).frame.2.1.trans running, ?_⟩
    exact next_iff.mpr (.move (b := b.uncut D) i ready' collected first)
  | wait later _ collected nobody going soonest =>
    by_cases asleep : Asleep b.stopTime s
    · rw [soonest_of_asleep running kept asleep soonest]
      exact .inl (.ahead running early asleep going)
    · obtain ⟨i, wake, wakes, hwake⟩ := exists_early asleep (reach.lined.idle nobody) collected
      refine .inr ⟨running, next_iff.mpr (.wait later ready' collected nobody going ?_)⟩
      exact soonest_uncut running kept hD wakes hwake soonest

/-- Runs that have parted stay apart, and the one that goes on later stays where it is. -/
theorem Apart.step (heeds : ∀ calls target, (b.transport calls target).heedsStop = true) (h : Apart b s v)
    (reach : Reachable b s) (hs : Step b s t) : Apart b t v := by
  cases h with
  | ahead running early asleep going =>
    have kept := reach.givenUp_of_running running
    have due : b.stopDue (v.advance b.stopTime) = true :=
      (stopDue_iff (s := v.advance b.stopTime) running kept).mpr (Nat.le_refl _)
    cases hs with
    | stop _ => exact .cut (reach.step (.stop due)) rfl rfl rfl rfl running early (.inr asleep) (.refl rfl)
    | move i can => exact absurd (asleep.canMove_advance.symm.trans can) (by decide)
    | collect i e he =>
      have he : (i, e) ∈ v.exits := he
      rw [asleep.collected] at he
      cases he
    | wait later ready _ _ _ _ => exact absurd (ready.symm.trans due) (by decide)
  | cut reach₀ stopped now log exits running early waiting down =>
    have hstep := (reach.windsDown_step (reach.heeding heeds) down.stopped hs).1
    exact .cut reach₀ stopped now log exits running early waiting (down.trans hstep)

theorem beside_initial (hb : b.start ≤ b.stopTime) (D : Nat) : Beside b b.initial (b.uncut D).initial := by
  cases h : b.cancelAt.any (· ≤ b.start) with
  | false =>
    refine .inl ⟨?_, h⟩
    unfold initial
    rw [h]
    rfl
  | true =>
    obtain ⟨c, hc, hle⟩ := (Option.any_eq_true _ _).mp h
    have hnow : b.start = b.stopTime :=
      Nat.le_antisymm hb (((le_stopTime_iff.mp (Nat.le_refl _)).2 c hc).trans (of_decide_eq_true hle))
    exact .inr (.cut .start h hnow rfl rfl rfl hb (.inl hnow) (.refl h))

section Simulation
variable (heeds : ∀ calls target, (b.transport calls target).heedsStop = true) (hb : b.start ≤ b.stopTime)
  (hD : b.stopTime < D)
include heeds hb hD

/-- Beside each run of the batch, whatever its order, there is one of the batch that is not cut. -/
theorem Reachable.beside (reach : Reachable b s) : ∃ v, Reachable (b.uncut D) v ∧ Beside b s v := by
  induction reach with
  | start => exact ⟨_, .start, beside_initial hb D⟩
  | @step s t reach hs ih =>
    obtain ⟨v, reach', ⟨rfl, running⟩ | apart⟩ := ih
    · rcases reach.step_uncut running (reach.now_le_stopTime heeds hb) hD hs with apart | ⟨running', hs'⟩
      · exact ⟨s, reach', .inr apart⟩
      · exact ⟨t, reach'.step hs', .inl ⟨rfl, running'⟩⟩
    · exact ⟨v, reach', .inr (apart.step heeds reach hs)⟩

/-- With the workers in line, it is the run of that batch. -/
theorem Reachable.beside_run (n : Nat) (reach : Reachable b s) (h : Beside b s v) :
    ∃ k ≤ n, Beside b (b.run n s) ((b.uncut D).run k v) := by
  induction n generalizing s v with
  | zero => exact ⟨0, Nat.le_refl 0, h⟩
  | succ n ih =>
    cases hn : b.next s with
    | none =>
      rw [run_succ_of_none hn]
      exact ⟨0, by omega, h⟩
    | some t =>
      rw [run_succ_of_some hn]
      have hs := step_of_next reach.lined hn
      rcases h with ⟨rfl, running⟩ | apart
      · rcases reach.next_uncut running (reach.now_le_stopTime heeds hb) hD hn with apart | ⟨running', hn'⟩
        · obtain ⟨k, hk, h⟩ := ih (reach.step hs) (.inr apart)
          exact ⟨k, by omega, h⟩
        · obtain ⟨k, hk, h⟩ := ih (reach.step hs) (.inl ⟨rfl, running'⟩)
          exact ⟨k + 1, by omega, by rwa [run_succ_of_some hn']⟩
      · obtain ⟨k, hk, h⟩ := ih (reach.step hs) (.inr (apart.step heeds reach hs))
        exact ⟨k, by omega, h⟩

end Simulation

end Runs

/-! ### What comes after the stop -/

/-- A log goes on with events of a time or later. -/
def GoesOn (b : Batch) (T : Nat) (log log' : List Event) : Prop :=
  ∃ es, log' = log ++ es ∧ ∀ e ∈ es, ∃ τ, T ≤ τ ∧ e.IsAt b τ

section After
variable {b : Batch} {s t v w : State} {i n T D : Nat} {r : FetchResult} {log log' : List Event}

/-- A log that goes on so has no further calls before the time. -/
theorem GoesOn.calls (h : GoesOn b T log log') :
    (log'.filterMap Event.call?).filter (·.time < T) = (log.filterMap Event.call?).filter (·.time < T) := by
  obtain ⟨es, rfl, hes⟩ := h
  rw [List.filterMap_append, List.filter_append, List.append_right_eq_self, List.filter_eq_nil_iff]
  intro call hcall
  obtain ⟨e, he, heq⟩ := List.mem_filterMap.mp hcall
  obtain ⟨τ, hτ, isAt⟩ := hes e he
  cases e with
  | called =>
    cases heq
    have htime : call.time = τ := isAt
    simpa [htime] using hτ
  | tokenTaken | refused | ended | brokeOff | breaker | finished => cases heq

/-- Nor has it further results of less than that time. -/
theorem GoesOn.delivered (h : GoesOn b T log log') :
    (log'.filterMap Event.delivered?).filter (·.2.elapsed < Clock.since T b.start) =
      (log.filterMap Event.delivered?).filter (·.2.elapsed < Clock.since T b.start) := by
  obtain ⟨es, rfl, hes⟩ := h
  rw [List.filterMap_append, List.filter_append, List.append_right_eq_self, List.filter_eq_nil_iff]
  intro x hx
  obtain ⟨e, he, heq⟩ := List.mem_filterMap.mp hx
  obtain ⟨τ, hτ, isAt⟩ := hes e he
  cases e with
  | finished j r =>
    cases heq
    have helapsed : r.elapsed = Clock.since τ b.start := isAt
    simpa [helapsed, Span.lt_def, Span.le_def] using since_le_since hτ b.start
  | tokenTaken | refused | ended | brokeOff | breaker | called => cases heq

theorem WindsDown.goesOn (h : WindsDown b s t) : GoesOn b s.now s.log t.log := by
  obtain ⟨es, hlog, hes⟩ := h.log
  exact ⟨es, hlog, fun e he => ⟨s.now, Nat.le_refl _, hes e he⟩⟩

/-- Whatever follows in the batch that is not cut is of the time of the stop or later. -/
theorem Reachable.goesOn (reach : Reachable (b.uncut D) v) (running : v.stopped = false) (early : v.now ≤ T)
    (hD : T < D) (waiting : v.now = T ∨ Asleep T v) (hs : Steps (b.uncut D) n v w) : GoesOn b T v.log w.log := by
  suffices h : w = v ∨ T ≤ w.now ∧ GoesOn b T v.log w.log by
    rcases h with rfl | h
    · exact ⟨[], log_append_nil rfl, by simp⟩
    · exact h.2
  induction hs with
  | refl => exact .inl rfl
  | @step n v w x hs last ih =>
    rcases ih reach running early waiting with rfl | ⟨hnow, es, hlog, hes⟩
    · rcases waiting with hnow | asleep
      · obtain ⟨es, hlog, hes⟩ := reach.adds_of_step last
        exact .inr ⟨hnow ▸ last.now_le, es, hlog, fun e he => ⟨_, hnow.ge, hes e he⟩⟩
      · -- Only the clock can go on, and that past the time.
        cases last with
        | stop due => exact absurd ((stopDue_uncut running (early.trans_lt hD)).symm.trans due) (by decide)
        | move j can => exact absurd ((asleep.idle j).symm.trans can) (by decide)
        | collect j e he =>
          rw [asleep.collected] at he
          cases he
        | wait later _ _ _ _ soonest =>
          have hlater : T ≤ later := by
            rcases (mem_wakeTimes_iff running (reach.givenUp_of_running running)).mp (List.min?_mem soonest) with
              ⟨j, wakes⟩ | hcancel | rfl
            · exact (asleep.late j later wakes).le
            · cases hcancel
            · exact hD.le
          exact .inr ⟨hlater, [], log_append_nil rfl, by simp⟩
    · obtain ⟨es', hlog', hes'⟩ := (reach.steps hs).adds_of_step last
      refine .inr ⟨hnow.trans last.now_le, es ++ es', by rw [hlog', hlog, List.append_assoc], ?_⟩
      exact List.forall_mem_append.mpr ⟨hes, fun e he => ⟨_, hnow, hes' e he⟩⟩

theorem Reachable.elapsed_lt_or_eq (reach : Reachable b s) (early : s.now ≤ T) (hr : HasResult b s i r) :
    r.elapsed < Clock.since T b.start ∨ r.elapsed = Clock.since T b.start := by
  have hle : r.elapsed.nanos ≤ (Clock.since T b.start).nanos :=
    Nat.le_trans (reach.elapsed_le hr) (since_le_since early b.start)
  exact (Nat.lt_or_eq_of_le hle).imp Span.lt_def.mpr Span.ext

end After

/-! ### What the runs have in common -/

/-- A run of a batch that is cut, when it is over, agrees with one of the batch that is not. They have the same calls
    before the stop, and the same results of less time, in the same order; and every other result is of the time of
    the stop, and is that of a worker that was cancelled, or one that the other run has, too. -/
structure Agrees (b : Batch) (t w : State) : Prop where
  calls : t.calls.filter (·.time < b.stopTime) = w.calls.filter (·.time < b.stopTime)
  results : t.delivered.filter (·.2.elapsed < Clock.since b.stopTime b.start) =
    w.delivered.filter (·.2.elapsed < Clock.since b.stopTime b.start)
  rest : ∀ i < b.targets.length, ∃ r, (i, r) ∈ t.delivered ∧
    (r.elapsed < Clock.since b.stopTime b.start ∨
      r.elapsed = Clock.since b.stopTime b.start ∧ (r.outcome = .cancelled ∨ HasResult b w i r))

section Common
variable {b : Batch} {s t v w : State} {i n D : Nat}

/-- A batch that is over takes no step but to be stopped. -/
theorem not_step_of_isOver (ended : s.isOver = true) (ready : b.stopDue s = false) : ¬Step b s t := by
  intro hs
  cases hs with
  | stop due => exact absurd (ready.symm.trans due) (by decide)
  | move i can => exact (moved_move (b := b) can).before (phase_of_isOver ended i)
  | collect i e he =>
    rw [exits_of_isOver ended] at he
    cases he
  | wait _ _ _ _ going _ => exact absurd (going.symm.trans ended) (by decide)

theorem Steps.eq_of_isOver (ended : s.isOver = true) (ready : b.stopDue s = false) (hs : Steps b n s t) : t = s := by
  induction hs with
  | refl => rfl
  | step _ last ih =>
    cases ih ended ready
    exact absurd last (not_step_of_isOver ended ready)

theorem Beside.agrees (hD : b.stopTime < D) (reach : Reachable b t) (ended : t.isOver = true)
    (reach' : Reachable (b.uncut D) v) (h : Beside b t v) (early : t.now ≤ b.stopTime) (hs : Steps (b.uncut D) n v w) :
    Agrees b t w := by
  rcases h with ⟨rfl, running⟩ | apart
  · -- Without a stop the two are over together.
    obtain rfl := hs.eq_of_isOver ended (stopDue_uncut running (early.trans_lt hD))
    refine ⟨rfl, rfl, fun i hi => ?_⟩
    obtain ⟨r, hr⟩ := reach.accounted.exists_result hi (phase_of_isOver ended i)
    refine ⟨r, (hasResult_iff_of_isOver ended).mp hr, ?_⟩
    exact (reach.elapsed_lt_or_eq early hr).imp_right fun h => ⟨h, .inr hr⟩
  · cases apart with
    | ahead _ _ _ going => exact absurd (going.symm.trans ended) (by decide)
    | @cut s _ _ _ stopped now log exits running early' waiting down =>
      have later : GoesOn b b.stopTime v.log t.log := log ▸ now ▸ down.goesOn
      have later' : GoesOn b b.stopTime v.log w.log := reach'.goesOn running early' hD waiting hs
      refine ⟨later.calls.trans later'.calls.symm, later.delivered.trans later'.delivered.symm, fun i hi => ?_⟩
      obtain ⟨r, hr⟩ := reach.accounted.exists_result hi (phase_of_isOver ended i)
      refine ⟨r, (hasResult_iff_of_isOver ended).mp hr, ?_⟩
      rcases down.gained i r hr with hr | ⟨cancelled, elapsed⟩
      · -- The worker had ended before the stop, in both runs.
        have hr' : HasResult (b.uncut D) v i r := by
          rcases hr with hr | ⟨e, he, rfl⟩
          · exact .inl (by rwa [State.delivered, ← log])
          · rw [exits] at he
            rcases waiting with hnow | asleep
            · exact .inr ⟨e, he, by rw [now, hnow]; rfl⟩
            · rw [asleep.collected] at he
              cases he
        exact (reach'.elapsed_lt_or_eq early' hr').imp_right fun h => ⟨h, .inr (reach'.hasResult_steps hs hr')⟩
      · exact .inr ⟨now ▸ elapsed, .inl cancelled⟩

theorem Beside.now_of_stopped (h : Beside b s v) (stopped : s.stopped = true) : s.now = b.stopTime := by
  rcases h with ⟨rfl, running⟩ | apart
  · exact absurd (running.symm.trans stopped) (by decide)
  · cases apart with
    | ahead running _ _ _ => rfl
    | cut _ _ now _ _ _ _ _ down => exact down.now.trans now

end Common

section Law
variable {c : Config} {targets : List String} {start : Nat} {cancelAfter : Option UInt64} {transport : Transport}
  {earlier : List Call} {draw : Nat → UInt32 → Nat} {b : Batch} {D : Nat}

theorem start_le_stopTime (built : ofConfig? c targets start cancelAfter transport earlier draw = some b) :
    b.start ≤ b.stopTime := by
  obtain ⟨-, rfl, -, -, hcancel, hdeadline⟩ := eq_of_built built
  refine le_stopTime_iff.mpr ⟨hdeadline ▸ Clock.le_timer _ _, fun t ht => ?_⟩
  obtain ⟨ms, -, rfl⟩ := Option.map_eq_some_iff.mp (hcancel ▸ ht)
  exact Clock.le_due _ _

/-- A batch that is cut short and the same batch that is not, over a transport whose calls heed the stop. A stop
    comes at its time only. When the workers are served in line, the run of the one, once it is over, agrees with that
    of the other from then on. In whatever order things happen, each run of the one has one of the other beside it
    that it agrees with, however that one goes on. -/
theorem agrees_with_uncut
    (built : ofConfig? c targets start cancelAfter transport earlier draw = some b)
    (heeds : ∀ calls target, (transport calls target).heedsStop = true) (hD : b.stopTime < D) :
    (∀ s, Reachable b s → s.stopped = true → s.now = b.stopTime) ∧
    (∀ n m, n ≤ m → (b.run n b.initial).isOver = true →
      Agrees b (b.run n b.initial) ((b.uncut D).run m (b.uncut D).initial)) ∧
    (∀ t, Reachable b t → t.isOver = true →
      ∃ v, Reachable (b.uncut D) v ∧ ∀ n w, Steps (b.uncut D) n v w → Agrees b t w) := by
  have hb := start_le_stopTime built
  obtain ⟨-, -, -, rfl, -, -⟩ := eq_of_built built
  refine ⟨fun s reach stopped => ?_, fun n m hm ended => ?_, fun t reach ended => ?_⟩
  · obtain ⟨v, -, h⟩ := reach.beside heeds hb hD
    exact h.now_of_stopped stopped
  · have reach : Reachable b (b.run n b.initial) := Reachable.start.run n
    obtain ⟨k, hk, h⟩ := Reachable.start.beside_run heeds hb hD n (beside_initial hb D)
    have reach' : Reachable (b.uncut D) ((b.uncut D).run k (b.uncut D).initial) := Reachable.start.run k
    obtain ⟨l, hs⟩ := reach'.steps_run (m - k)
    rw [← run_add, Nat.add_sub_cancel' (hk.trans hm)] at hs
    exact h.agrees hD reach ended reach' (reach.now_le_stopTime heeds hb) hs
  · obtain ⟨v, reach', h⟩ := reach.beside heeds hb hD
    exact ⟨v, reach', fun n w hs => h.agrees hD reach ended reach' (reach.now_le_stopTime heeds hb) hs⟩

end Law

/-! ### A batch that is cut after 10 ms -/

/-- One target is fetched within 5 ms, another within 10 ms, and the others within 20 ms. -/
def unevenScript : Script :=
  { replies :=
      [("a", [{ after := Span.ofMillis 5, ending := .outcome (.completed 200 7) }]),
       ("b", [{ after := Span.ofMillis 10, ending := .outcome (.completed 200 7) }])]
    fallback := { after := Span.ofMillis 20, ending := .outcome (.completed 200 7) } }

def uneven : Batch :=
  { targets := ["a", "b", "c"], start := 0, limits := .ofConfig {}, breaker := .ofConfig {}, scope := .host
    retry := .ofConfig {}, permits := none, transport := unevenScript.transport
    cancelAt := some (Clock.due 0 (Span.ofMillis 10)), deadline := Clock.timer 0 (Span.ofSeconds 30) }

theorem built_uneven :
    ofConfig? {} ["a", "b", "c"] 0 (some 10) unevenScript.transport [] (fun _ _ => 0) = some uneven := rfl

def unevenEnd : State := uneven.run 20 uneven.initial

/-- The same batch, which has time until its deadline. -/
def unevenWhole : State := (uneven.uncut uneven.deadline).run 20 (uneven.uncut uneven.deadline).initial

/-- Both have the result that was there before the stop; with the rest the one was cancelled, and the other was not. -/
theorem agrees_with_uncut_uneven :
    Agrees uneven unevenEnd unevenWhole ∧
      unevenEnd.results.map (·.outcome.kind) = [none, some .cancelled, some .cancelled] ∧
      unevenWhole.results.map (·.outcome.kind) = [none, none, none] := by
  have heeds := Script.heedsStop_transport (s := unevenScript) rfl (by decide)
  have hD : uneven.stopTime < uneven.deadline := by decide
  obtain ⟨-, inLine, -⟩ := agrees_with_uncut built_uneven heeds hD
  exact ⟨inLine 20 20 (Nat.le_refl _) (by decide +kernel), by decide +kernel, by decide +kernel⟩

end BatchFetch.Batch
