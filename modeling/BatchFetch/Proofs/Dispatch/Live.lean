import BatchFetch.Dispatch.Live
import BatchFetch.Proofs.Dispatch.Stopping

/-! # Runs in real time

That every target has its result does not depend on when things happen, so it holds in real time too, and results
are delivered in the order in which the workers end. A batch whose calls heed the stop always comes to its end: until it
stops each step takes it nearer to its deadline, and after that each step leaves it less to do. -/

namespace BatchFetch.Batch

/-- The workers that have ended, in the order in which they did. -/
def State.ended (s : State) : List Nat := s.delivered.map (·.1) ++ s.exits.map (·.1)

/-- On the way to a state, worker `i` had ended and worker `j` had not. -/
inductive EndsBefore (b : Batch) (i j : Nat) : State → Prop where
  | seen {s : State} (reach : LiveReachable b s) (hi : i < b.targets.length) (done : s.phase i = .done)
      (going : s.phase j ≠ .done) : EndsBefore b i j s
  | step {s t : State} (before : EndsBefore b i j s) (hs : LiveStep b s t) : EndsBefore b i j t

section Reach
variable {b : Batch} {s t : State} {i j : Nat}

/-! ### Timers that fire -/

theorem endBy_eq_done_iff {p : Phase} {n : Nat} : p.endBy n = .done ↔ p = .done := by
  cases p <;> simp [Phase.endBy]

theorem ne_done_of_wakes {wake : Nat} (wakes : s.wakes? i = some wake) : s.phase i ≠ .done := fun done => by
  simp [State.wakes?, done] at wakes

theorem phase_fire {wake : Nat} (wakes : s.wakes? i = some wake) (j : Nat) :
    (s.fire i).phase j = if i = j then (s.phase i).endBy s.now else s.phase j :=
  phase_set rfl (ne_done_of_wakes wakes) j

theorem phase_fire_eq_done_iff {wake : Nat} (wakes : s.wakes? i = some wake) (j : Nat) :
    (s.fire i).phase j = .done ↔ s.phase j = .done := by
  rw [phase_fire wakes]
  split
  · rename_i hij
    rw [endBy_eq_done_iff, hij]
  · exact .rfl

theorem Heeding.fire {wake : Nat} (h : Heeding s) (wakes : s.wakes? i = some wake) : Heeding (s.fire i) := by
  intro j retries permit ends reply hp
  rw [phase_fire wakes] at hp
  split at hp
  · cases hphase : s.phase i with
    | calling =>
      rw [hphase] at hp
      cases hp
      exact h i _ _ _ _ hphase
    | fresh | queued | waiting | backingOff | done =>
      rw [hphase] at hp
      cases hp
  · exact h j retries permit ends reply hp

/-! ### What does not depend on time -/

theorem heeding_initial (b : Batch) : Heeding b.initial := by
  intro i retries permit ends reply hp
  by_cases hi : i < b.targets.length <;> simp [State.phase, initial, hi] at hp

theorem Heeding.move (h : Heeding s) (heeds : ∀ calls target, (b.transport calls target).heedsStop = true)
    (m : Moved b i s t) : Heeding t := by
  intro j retries permit ends reply hp
  by_cases hij : i = j
  · subst hij
    rw [m.reply_of_calling hp]
    exact heeds _ _
  · exact h j retries permit ends reply ((m.phase_of_ne hij).symm.trans hp)

theorem LiveReachable.accounted (reach : LiveReachable b s) : Accounted b s := by
  induction reach with
  | start => exact accounted_initial b
  | step _ hs ih =>
    cases hs with
    | stop | pass => exact ih.congr (fun _ => .rfl) rfl rfl rfl
    | fire i wake wakes => exact ih.congr (phase_fire_eq_done_iff wakes) rfl rfl rfl
    | move i can => exact ih.move (moved_move can)
    | collect i e rest first => exact ih.collect (by simp [first])

theorem LiveReachable.lined (reach : LiveReachable b s) : Lined s := by
  induction reach with
  | start => exact lined_initial b
  | step _ hs ih =>
    cases hs with
    | stop | pass | collect => exact ih
    | move i can => exact ih.move (moved_move can)
    | fire i wake wakes => exact fun j going => ih j (mt (phase_fire_eq_done_iff wakes j).mpr going)

theorem LiveReachable.heeding (heeds : ∀ calls target, (b.transport calls target).heedsStop = true)
    (reach : LiveReachable b s) : Heeding s := by
  induction reach with
  | start => exact heeding_initial b
  | step _ hs ih =>
    cases hs with
    | stop | pass | collect => exact ih
    | move i can => exact ih.move heeds (moved_move can)
    | fire i wake wakes => exact ih.fire wakes

/-- What the next step in line comes to can be come to in real time. -/
theorem LiveReachable.next (reach : LiveReachable b s) (hn : b.next s = some t) : LiveReachable b t := by
  refine reach.step ?_
  cases next_iff.mp hn with
  | stop due => exact .stop due
  | collect i e rest _ exits => exact .collect i e rest exits
  | move i _ _ first => exact .move i (List.find?_some first)
  | wait later ready _ nobody _ soonest => exact .pass later (now_le_of_soonest ready (reach.lined.idle nobody) soonest)

/-! ### The order of results -/

theorem Accounted.mem_ended_iff (h : Accounted b s) (hi : i < b.targets.length) : i ∈ s.ended ↔ s.phase i = .done := by
  have honce := h.once i
  rw [if_pos hi] at honce
  rw [← List.count_pos_iff, State.ended, List.count_append]
  split at honce <;> rename_i hphase
  · exact ⟨fun _ => hphase, fun _ => by omega⟩
  · exact ⟨fun _ => by omega, fun done => absurd done hphase⟩

/-- Whoever ends, ends after those who have ended. -/
theorem LiveStep.ended (hs : LiveStep b s t) : ∃ new, t.ended = s.ended ++ new := by
  cases hs with
  | stop | pass | fire => exact ⟨[], (List.append_nil _).symm⟩
  | move i can =>
    have m := moved_move (b := b) can
    unfold State.ended
    cases m.leaves with
    | going _ exits => exact ⟨[], by rw [m.delivered, exits, List.append_nil]⟩
    | ended e _ exits _ => exact ⟨[i], by rw [m.delivered, exits, List.map_append, List.append_assoc]; rfl⟩
  | collect i e rest first =>
    have exits : (b.collect i e s).exits = rest := by
      show s.exits.erase (i, e) = rest
      rw [first, List.erase_cons_head]
    refine ⟨[], ?_⟩
    unfold State.ended
    rw [delivered_collect, exits, first, List.map_append, List.map_cons, List.append_nil, List.append_assoc]
    rfl

theorem EndsBefore.exists_split (h : EndsBefore b i j s) :
    LiveReachable b s ∧ j < b.targets.length ∧ ∃ early late, s.ended = early ++ late ∧ i ∈ early ∧ j ∉ early := by
  induction h with
  | @seen s reach hi done going =>
    have acc := reach.accounted
    have hj := acc.lt_of_going going
    exact ⟨reach, hj, s.ended, [], (List.append_nil _).symm, (acc.mem_ended_iff hi).mpr done,
      fun hmem => going ((acc.mem_ended_iff hj).mp hmem)⟩
  | step _ hs ih =>
    obtain ⟨reach, hj, early, late, hended, hi, hearly⟩ := ih
    obtain ⟨new, hnew⟩ := hs.ended
    exact ⟨reach.step hs, hj, early, late ++ new, by rw [hnew, hended, List.append_assoc], hi, hearly⟩

/-- When a batch is over, the result of a worker that ended before another one was delivered before its. -/
theorem EndsBefore.sublist (h : EndsBefore b i j s) (ended : s.isOver = true) :
    [i, j].Sublist (s.delivered.map (·.1)) := by
  obtain ⟨reach, hj, early, late, hended, hi, hearly⟩ := h.exists_split
  have hmem : j ∈ s.ended := (reach.accounted.mem_ended_iff hj).mpr (phase_of_isOver ended j)
  have hlate : j ∈ late := (List.mem_append.mp (hended ▸ hmem)).resolve_left hearly
  have hdelivered : s.delivered.map (·.1) = early ++ late := by
    rw [← hended, State.ended, exits_of_isOver ended, List.map_nil, List.append_nil]
  rw [hdelivered]
  exact (List.singleton_sublist.mpr hi).append (List.singleton_sublist.mpr hlate)

end Reach

/-! ### The end of a run -/

/-- How many steps a batch can still take when each of them takes time. -/
def stepsLeft (b : Batch) (s : State) : Nat :=
  s.load + (if s.givenUp then 0 else 1) + if s.stopped then 0 else b.deadline - s.now + 1

section Ending
variable {b : Batch} {s t : State} {i n : Nat}

theorem Moved.load_le (m : Moved b i s t) : t.load ≤ s.load := by
  unfold State.load
  cases m.booked with
  | stays p _ going phases exits _ _ =>
    have := unfinished_set phases m.before
    rw [if_neg going] at this
    rw [exits]
    omega
  | ends e _ _ phases exits _ _ | breaks _ _ _ phases exits _ _ =>
    have := unfinished_set phases m.before
    rw [if_pos rfl] at this
    rw [exits, List.length_append, List.length_singleton]
    omega

/-- Whatever is no stop brings a batch that has not stopped nearer to its deadline, and one that has leaves it less to do. -/
theorem stepsLeft_lt_of_load (stopped : t.stopped = s.stopped) (givenUp : t.givenUp = s.givenUp) (load : t.load ≤ s.load)
    (early : s.stopped = false → s.now < b.deadline) (progress : s.stopped = true → t.load < s.load) (later : s.now < n) :
    b.stepsLeft (t.advance n) < b.stepsLeft s := by
  show t.load + (if t.givenUp then 0 else 1) + (if t.stopped then 0 else b.deadline - n + 1) < _
  unfold stepsLeft
  rw [stopped, givenUp]
  cases hs : s.stopped with
  | false =>
    have := early hs
    simp only [Bool.false_eq_true, if_false]
    omega
  | true =>
    have := progress hs
    simp only [if_true]
    omega

theorem stepsLeft_stop (due : b.stopDue s = true) (n : Nat) : b.stepsLeft ((b.stop s).advance n) < b.stepsLeft s := by
  show s.load + (if s.givenUp || b.callerDue s then 0 else 1) + 0 < _
  unfold stepsLeft
  cases hs : s.stopped with
  | false =>
    have : (if s.givenUp || b.callerDue s then 0 else 1) ≤ if s.givenUp then 0 else 1 := by
      cases s.givenUp <;> cases b.callerDue s <;> decide
    simp only [Bool.false_eq_true, if_false]
    omega
  | true =>
    -- What is stopped already stops again only when the caller gives it up.
    have caller : b.callerDue s = true := by simpa [stopDue, deadlineDue, hs] using due
    have givenUp : s.givenUp = false := by simpa using (Bool.and_eq_true_iff.mp caller).1
    simp only [caller, givenUp, Bool.or_true, Bool.false_eq_true, if_true, if_false]
    omega

/-- Each step takes a batch nearer to its end if time passes with it. -/
theorem stepsLeft_lt (lined : Lined s) (heeding : Heeding s) (hn : b.next s = some t) (later : t.now < n) :
    b.stepsLeft (t.advance n) < b.stepsLeft s := by
  have early : b.stopDue s = false → s.stopped = false → s.now < b.deadline := fun ready running => by
    have : b.deadlineDue s = false := (Bool.or_eq_false_iff.mp ready).2
    simpa [deadlineDue, running] using this
  cases next_iff.mp hn with
  | stop due => exact stepsLeft_stop due n
  | collect i e rest ready exits =>
    have load : (b.collect i e s).load < s.load := load_collect (by simp [exits])
    exact stepsLeft_lt_of_load rfl rfl load.le (early ready) (fun _ => load) later
  | move i ready _ first =>
    have m : Moved b i s (b.move i s) := moved_move (List.find?_some first)
    refine stepsLeft_lt_of_load m.frame.2.1 m.frame.2.2.1 m.load_le (early ready) (fun stopped => ?_) (m.frame.1 ▸ later)
    exact (withdrawn_move stopped heeding m.before).2.load m.before
  | wait wake ready collected nobody going soonest =>
    refine stepsLeft_lt_of_load rfl rfl (Nat.le_refl _) (early ready) (fun stopped => ?_)
      ((now_le_of_soonest ready (lined.idle nobody) soonest).trans_lt later)
    obtain ⟨i, hi⟩ := exists_going going collected
    have can := (withdrawn_move (b := b) stopped heeding hi).1
    rw [lined.idle nobody i] at can
    cases can

/-- A batch that is not over has a next step. -/
theorem exists_next_of_going (lined : Lined s) (heeding : Heeding s) (going : s.isOver = false) : ∃ t, b.next s = some t := by
  by_contra stuck
  have hnone : ∀ t, ¬Next b s t := fun t h => stuck ⟨t, next_iff.mpr h⟩
  have ready : b.stopDue s = false := Bool.eq_false_iff.mpr fun due => hnone _ (.stop due)
  have collected : s.exits = [] := by
    cases hexits : s.exits with
    | nil => rfl
    | cons x rest => exact absurd (.collect x.1 x.2 rest ready hexits) (hnone _)
  have nobody : s.line.find? s.canMove = none := by
    cases hfirst : s.line.find? s.canMove with
    | none => rfl
    | some i => exact absurd (.move i ready collected hfirst) (hnone _)
  obtain ⟨t, hs⟩ := exists_step_of_going (b := b) heeding going
  cases hs with
  | stop due => exact hnone _ (.stop due)
  | move i can => exact absurd (can.symm.trans (lined.idle nobody i)) (by decide)
  | collect i e ended => simp [collected] at ended
  | wait later _ _ _ _ soonest => exact hnone _ (.wait later ready collected nobody going soonest)

theorem LiveReachable.runLive (reach : LiveReachable b s) (lapse : Nat → Nat) (n : Nat) :
    LiveReachable b (b.runLive lapse n s) := by
  induction n generalizing s with
  | zero => exact reach
  | succ n ih =>
    unfold Batch.runLive
    split
    · rename_i t hn
      exact ih ((reach.next hn).step (.pass _ (by omega)))
    · exact reach

/-- Whatever a batch has come to whose calls heed the stop, it comes to its end, however long its steps take. -/
theorem LiveReachable.isOver_runLive (heeds : ∀ calls target, (b.transport calls target).heedsStop = true)
    (reach : LiveReachable b s) (lapse : Nat → Nat) (enough : b.stepsLeft s ≤ n) :
    (b.runLive lapse n s).isOver = true := by
  induction n generalizing s with
  | zero =>
    by_contra going
    obtain ⟨t, hn⟩ := exists_next_of_going (b := b) reach.lined (reach.heeding heeds) (Bool.not_eq_true _ ▸ going)
    have := stepsLeft_lt reach.lined (reach.heeding heeds) hn (Nat.lt_succ_self _)
    omega
  | succ n ih =>
    unfold Batch.runLive
    split
    · rename_i t hn
      have hlt : t.now < t.now + lapse t.now + 1 := by omega
      have := stepsLeft_lt reach.lined (reach.heeding heeds) hn hlt
      exact ih ((reach.next hn).step (.pass _ hlt.le)) (by omega)
    · rename_i hn
      by_contra going
      obtain ⟨t, hs⟩ := exists_next_of_going (b := b) reach.lined (reach.heeding heeds) (Bool.not_eq_true _ ▸ going)
      rw [hn] at hs
      cases hs

theorem stepsLeft_initial (b : Batch) : b.stepsLeft b.initial ≤ b.liveFuel := by
  have hunfinished : b.initial.unfinished ≤ b.targets.length :=
    List.countP_le_length.trans_eq (List.length_map ..)
  have hexits : b.initial.exits.length = 0 := rfl
  have hnow : b.initial.now = b.start := rfl
  unfold stepsLeft State.load liveFuel
  rw [hexits, hnow]
  split <;> split <;> omega

/-- A batch whose calls heed the stop is over when it has run in real time. -/
theorem live_spec (heeds : ∀ calls target, (b.transport calls target).heedsStop = true) (lapse : Nat → Nat) :
    LiveReachable b (b.live lapse) ∧ (b.live lapse).isOver = true :=
  ⟨LiveReachable.start.runLive lapse _, LiveReachable.start.isOver_runLive heeds lapse (stepsLeft_initial b)⟩

end Ending

end BatchFetch.Batch
