import BatchFetch.Proofs.Dispatch.Timing

/-! # Stopping a batch

When a batch stops, every worker that is not done can move, and it ends by that move: it is cancelled where it
waits, and its call is given up, if the transport heeds the stop. So no call begins any more and time stands
still; after a few steps the batch is over, and has kept the results that were there when it stopped. -/

namespace BatchFetch

/-- What holds of the replies of a script holds of its calls. -/
theorem Script.forall_transport {s : Script} {P : Reply → Prop} (fallback : P s.fallback)
    (replies : ∀ x ∈ s.replies, ∀ r ∈ x.2, P r) (calls : List Call) (target : String) : P (s.transport calls target) := by
  unfold transport reply
  split
  · rename_i r rs hlookup
    obtain ⟨l₁, l₂, heq, -⟩ := List.lookup_eq_some_iff.mp hlookup
    refine replies (target, r :: rs) (by simp [heq]) _ ?_
    cases hn : (r :: rs)[calls.countP (·.target == target)]? with
    | none =>
      rw [Option.getD_none, List.getLastD_cons]
      exact List.getLastD_mem_cons
    | some r' => exact List.mem_of_getElem? hn
  · exact fallback

/-- The calls of a script heed the stop if its replies do. -/
theorem Script.heedsStop_transport {s : Script} (fallback : s.fallback.heedsStop = true)
    (replies : ∀ x ∈ s.replies, ∀ r ∈ x.2, r.heedsStop = true) (calls : List Call) (target : String) :
    (s.transport calls target).heedsStop = true := s.forall_transport fallback replies calls target

namespace Batch

/-- Every call in flight is given up at once when the batch is stopped. -/
def Heeding (s : State) : Prop :=
  ∀ i retries permit ends reply, s.phase i = .calling retries permit ends reply → reply.heedsStop = true

/-! ### Calls that heed the stop -/

section Calls
variable {b : Batch} {s t : State} {i : Nat}

/-- A worker that is in a call after its move was in none before, and the transport has just answered. -/
theorem Moved.reply_of_calling (m : Moved b i s t) {retries : UInt32} {permit : Permit} {ends : Nat} {reply : Reply}
    (hp : t.phase i = .calling retries permit ends reply) : reply = b.replyNow i s := by
  have hi := m.before
  cases m with
  | called _ _ _ _ _ _ _ eq =>
    rw [phase_self (agrees_of_unqueued eq).phases hi] at hp
    cases hp
    rfl
  | queued _ _ eq | passed _ _ eq | waits _ _ _ _ _ _ _ eq | refused _ _ _ _ _ _ _ eq | failed _ _ _ _ _ _ _ _ eq
  | ended _ _ _ _ _ _ _ _ eq | brokeOff _ _ _ _ _ _ _ _ eq | cancelled _ _ _ eq =>
    rw [phase_self (agrees_of_unqueued eq).phases hi] at hp
    cases hp

/-- Every reply in flight is one of the transport. -/
theorem Reachable.exists_reply (reach : Reachable b s) {retries : UInt32} {permit : Permit} {ends : Nat} {reply : Reply}
    (hp : s.phase i = .calling retries permit ends reply) : ∃ calls target, reply = b.transport calls target := by
  induction reach with
  | start => by_cases hi : i < b.targets.length <;> simp [State.phase, initial, hi] at hp
  | @step s t reach hs ih =>
    rcases reach.moves_or_rests hs i with ⟨can, rfl⟩ | rests
    · exact ⟨_, _, (moved_move can).reply_of_calling hp⟩
    · exact ih (rests.phase ▸ hp)

theorem Reachable.heeding (heeds : ∀ calls target, (b.transport calls target).heedsStop = true)
    (reach : Reachable b s) : Heeding s := by
  intro i retries permit ends reply hp
  obtain ⟨calls, target, rfl⟩ := reach.exists_reply hp
  exact heeds calls target

end Calls

/-! ### Workers of a stopped batch -/

/-- A worker ends as cancelled, and no call begins. -/
structure Withdrawn (b : Batch) (i : Nat) (s t : State) : Prop where
  phases : t.phases = s.phases.set i .done
  exits : ∃ n, t.exits = s.exits ++ [(i, .result (b.resultNow i .cancelled n s))]
  calls : t.calls = s.calls

section Workers
variable {b : Batch} {s t : State} {i : Nat}

theorem withdrawn_cancel {n : Nat} : Withdrawn b i s (b.cancel i n s) :=
  have h := agrees_of_unqueued (unqueued_exit (b := b) (i := i) (s := s) (e := .result (b.resultNow i .cancelled n s)))
  ⟨h.phases, ⟨n, h.exits⟩, congrArg (List.filterMap Event.call?) h.log⟩

/-- A call that is given up is the last one of its worker. -/
theorem withdrawn_endCall {retries : UInt32} {permit : Permit} : Withdrawn b i s (b.endCall i retries permit .cancelled s) := by
  have last : Outcome.cancelled.kind.any (b.retry.shouldRetry retries) = false := by
    simp [Outcome.cancelled, Outcome.failed, RetryPolicy.shouldRetry, ErrorKind.isRetryable]
  have h := agrees_of_unqueued (unqueued_conclude_of_last (i := i)
    (s := b.tell i permit Outcome.cancelled.verdict (s.note [.ended i s.now .cancelled])) last)
  refine ⟨h.phases, ⟨_, h.exits⟩, (congrArg (List.filterMap Event.call?) h.log).trans ?_⟩
  show (b.tell i permit _ (s.note [.ended i s.now .cancelled])).calls = _
  rw [tell, calls_note_noted]
  simp [State.note, State.calls, Event.call?]

/-- Wherever a worker stands, it can end when the batch has stopped, and does so by its next move. -/
theorem withdrawn_move (stopped : s.stopped = true) (heeding : Heeding s) (going : s.phase i ≠ .done) :
    s.canMove i = true ∧ Withdrawn b i s (b.move i s) := by
  unfold State.canMove move
  cases hp : s.phase i with
  | fresh | queued | waiting | backingOff =>
    simp only [stopped, if_true, Bool.true_or]
    exact ⟨trivial, withdrawn_cancel⟩
  | calling retries permit ends reply =>
    simp only [stopped, heeding i retries permit ends reply hp, if_true, Bool.true_and, Bool.true_or]
    exact ⟨trivial, withdrawn_endCall⟩
  | done => exact absurd hp going

theorem exists_going (going : s.isOver = false) (collected : s.exits = []) : ∃ i, s.phase i ≠ .done := by
  unfold State.isOver at going
  rw [collected, List.isEmpty_nil, Bool.and_true, List.all_eq_false] at going
  obtain ⟨p, hp, hne⟩ := going
  obtain ⟨i, hi, rfl⟩ := List.mem_iff_getElem.mp hp
  exact ⟨i, by simpa [State.phase, hi] using hne⟩

/-- A stopped batch that is not over has something to do at once. -/
theorem exists_step_of_stopped (stopped : s.stopped = true) (heeding : Heeding s) (going : s.isOver = false) :
    ∃ t, Step b s t := by
  cases hexits : s.exits with
  | nil =>
    obtain ⟨i, hi⟩ := exists_going going hexits
    exact ⟨_, .move i (withdrawn_move (b := b) stopped heeding hi).1⟩
  | cons x xs => exact ⟨_, .collect x.1 x.2 (by simp [hexits])⟩

/-- A batch that is not over can go on: at the latest it stops when its time is over. -/
theorem exists_step_of_going (heeding : Heeding s) (going : s.isOver = false) : ∃ t, Step b s t := by
  by_cases stopped : s.stopped = true
  · exact exists_step_of_stopped stopped heeding going
  by_cases due : b.stopDue s = true
  · exact ⟨_, .stop due⟩
  by_cases busy : ∃ i, s.canMove i = true
  · obtain ⟨i, can⟩ := busy
    exact ⟨_, .move i can⟩
  cases hexits : s.exits with
  | cons x xs => exact ⟨_, .collect x.1 x.2 (by simp [hexits])⟩
  | nil =>
    have hdeadline : b.deadline ∈ b.wakeTimes s := by simp [wakeTimes, stopped]
    have hsoonest : ∃ t, (b.wakeTimes s).min? = some t :=
      Option.isSome_iff_exists.mp (List.isSome_min?_of_mem hdeadline)
    obtain ⟨t, soonest⟩ := hsoonest
    exact ⟨_, .wait t (by simpa using due) (by simpa using busy) hexits going soonest⟩

end Workers

/-! ### Winding down -/

/-- How many workers have not ended. -/
def State.unfinished (s : State) : Nat := s.phases.countP (· != .done)

/-- What the workers have yet to do: each one ends and is collected. -/
def State.load (s : State) : Nat := 2 * s.unfinished + s.exits.length

/-- How many steps a stopped batch can still take: those of its workers, and the caller may still give the batch up. -/
def toDo (b : Batch) (s : State) : Nat := s.load + if b.callerDue s then 1 else 0

/-- What a stopped batch can come to: it is the same time, no call has begun since, and each result was there before
    or is that of a worker that was cancelled now. -/
structure WindsDown (b : Batch) (s t : State) : Prop where
  now : t.now = s.now
  stopped : t.stopped = true
  calls : t.calls = s.calls
  log : ∃ es, t.log = s.log ++ es ∧ ∀ e ∈ es, e.IsAt b s.now
  gained : ∀ i r, HasResult b t i r →
    HasResult b s i r ∨ r.outcome = .cancelled ∧ r.elapsed = Clock.since s.now b.start

section Steps
variable {b : Batch} {s t u : State} {i n : Nat}

theorem WindsDown.refl (stopped : s.stopped = true) : WindsDown b s s :=
  ⟨rfl, stopped, rfl, ⟨[], log_append_nil rfl, by simp⟩, fun _ _ => .inl⟩

theorem WindsDown.trans (h : WindsDown b s t) (h' : WindsDown b t u) : WindsDown b s u where
  now := h'.now.trans h.now
  stopped := h'.stopped
  calls := h'.calls.trans h.calls
  log := by
    obtain ⟨es, hlog, hes⟩ := h.log
    obtain ⟨es', hlog', hes'⟩ := h'.log
    exact ⟨es ++ es', by rw [hlog', hlog, List.append_assoc], List.forall_mem_append.mpr ⟨hes, h.now ▸ hes'⟩⟩
  gained i r hr := by
    rcases h'.gained i r hr with hr | hr
    · exact h.gained i r hr
    · exact .inr (h.now ▸ hr)

theorem WindsDown.delivered (h : WindsDown b s t) : ∃ rs, t.delivered = s.delivered ++ rs := by
  obtain ⟨es, hlog, -⟩ := h.log
  exact ⟨es.filterMap Event.delivered?, by rw [State.delivered, hlog, List.filterMap_append]; rfl⟩

theorem toDo_stop (due : b.callerDue s = true) : b.toDo (b.stop s) < b.toDo s := by
  have hafter : b.callerDue (b.stop s) = false := by
    show (!(s.givenUp || b.callerDue s) && _) = false
    rw [due, Bool.or_true, Bool.not_true, Bool.false_and]
  show s.load + _ < s.load + _
  rw [due, hafter]
  exact Nat.lt_succ_self _

theorem load_collect {e : Exit} (he : (i, e) ∈ s.exits) : (b.collect i e s).load < s.load := by
  have hlen : (s.exits.erase (i, e)).length < s.exits.length := by
    rw [List.length_erase_of_mem he]
    exact Nat.sub_lt (List.length_pos_of_mem he) Nat.one_pos
  exact Nat.add_lt_add_left hlen (2 * s.unfinished)

theorem toDo_collect {e : Exit} (he : (i, e) ∈ s.exits) : b.toDo (b.collect i e s) < b.toDo s :=
  Nat.add_lt_add_right (load_collect he) _

/-- A worker that has not ended is counted until it ends. -/
theorem unfinished_set {p : Phase} (phases : t.phases = s.phases.set i p) (going : s.phase i ≠ .done) :
    t.unfinished + (if p = .done then 1 else 0) = s.unfinished := by
  have hi := phase_of_done_le going
  have hp : (s.phases[i] != .done) = true := by simpa [State.phase, hi] using going
  have hpos : 0 < s.phases.countP (· != .done) := List.countP_pos_iff.mpr ⟨_, List.getElem_mem hi, hp⟩
  unfold State.unfinished
  rw [phases, List.countP_set hi, if_pos hp]
  by_cases hdone : p = .done
  · simp only [hdone, bne_self_eq_false, Bool.false_eq_true, if_false, if_true]
    omega
  · simp only [hdone, bne_iff_ne, ne_eq, not_false_eq_true, if_true, if_false]
    omega

theorem Withdrawn.unfinished (h : Withdrawn b i s t) (going : s.phase i ≠ .done) : t.unfinished + 1 = s.unfinished :=
  unfinished_set h.phases going

/-- A worker that ends has yet to be collected. -/
theorem Withdrawn.load (h : Withdrawn b i s t) (going : s.phase i ≠ .done) : t.load < s.load := by
  obtain ⟨n, hexits⟩ := h.exits
  have hunfinished := h.unfinished going
  unfold State.load
  rw [hexits, List.length_append, List.length_singleton]
  omega

theorem Withdrawn.toDo (h : Withdrawn b i s t) (m : Moved b i s t) : b.toDo t < b.toDo s := by
  have hcaller : b.callerDue t = b.callerDue s := by
    rw [callerDue, m.frame.1, m.frame.2.2.1]
    rfl
  rw [Batch.toDo, Batch.toDo, hcaller]
  exact Nat.add_lt_add_right (h.load m.before) _

theorem Withdrawn.gained (h : Withdrawn b i s t) (m : Moved b i s t) {j : Nat} {r : FetchResult}
    (hr : HasResult b t j r) : HasResult b s j r ∨ r.outcome = .cancelled ∧ r.elapsed = Clock.since s.now b.start := by
  rcases m.hasResult_or hr with hr | ⟨rfl, e, hexits, rfl⟩
  · exact .inl hr
  · obtain ⟨n, hexits'⟩ := h.exits
    rw [hexits] at hexits'
    cases List.append_cancel_left hexits'
    exact .inr ⟨rfl, rfl⟩

/-- Each step of a stopped batch takes it nearer to its end, and takes no time. -/
theorem Reachable.windsDown_step (heeding : Heeding s) (reach : Reachable b s) (stopped : s.stopped = true)
    (hs : Step b s t) : WindsDown b s t ∧ b.toDo t < b.toDo s := by
  have log := reach.adds_of_step hs
  cases hs with
  | stop due =>
    have due : b.callerDue s = true := by simpa [stopDue, deadlineDue, stopped] using due
    exact ⟨⟨rfl, rfl, rfl, log, fun _ _ => .inl⟩, toDo_stop due⟩
  | move i can =>
    have m := moved_move (b := b) can
    have h := (withdrawn_move (b := b) stopped heeding m.before).2
    exact ⟨⟨m.frame.1, m.frame.2.1.trans stopped, h.calls, log, fun j r => h.gained m⟩, h.toDo m⟩
  | collect i e he =>
    have calls : (b.collect i e s).calls = s.calls := by simp [State.calls, Batch.collect, State.note, Event.call?]
    have hresult := fun j r => (reach.accounted.hasResult_collect (j := j) (r := r) he).mp
    exact ⟨⟨rfl, stopped, calls, log, fun j r hr => .inl (hresult j r hr)⟩, toDo_collect he⟩
  | wait later _ idle collected going _ =>
    obtain ⟨i, hi⟩ := exists_going going collected
    have can := (withdrawn_move (b := b) stopped heeding hi).1
    rw [idle i] at can
    cases can

theorem Reachable.windsDown (heeds : ∀ calls target, (b.transport calls target).heedsStop = true)
    (reach : Reachable b s) (stopped : s.stopped = true) (hs : Steps b n s t) :
    WindsDown b s t ∧ n + b.toDo t ≤ b.toDo s := by
  induction hs with
  | refl => exact ⟨.refl stopped, by omega⟩
  | step hs last ih =>
    have reach' := reach.steps hs
    obtain ⟨h, hle⟩ := ih reach stopped
    obtain ⟨h', hlt⟩ := reach'.windsDown_step (reach'.heeding heeds) h.stopped last
    exact ⟨h.trans h', by omega⟩

/-- A batch never goes on past its deadline, nor past the time at which its caller gives it up. -/
theorem Reachable.now_le (heeds : ∀ calls target, (b.transport calls target).heedsStop = true)
    (hdeadline : b.start ≤ b.deadline) (hcancel : ∀ c, b.cancelAt = some c → b.start ≤ c) (reach : Reachable b s) :
    s.now ≤ b.deadline ∧ ∀ c, b.cancelAt = some c → s.now ≤ c := by
  induction reach with
  | start => exact ⟨hdeadline, hcancel⟩
  | @step s t reach hs ih =>
    cases hrunning : t.stopped with
    | false => exact (reach.step hs).now_le_of_running hdeadline hrunning
    | true =>
      have hnow : t.now = s.now := by
        cases hstopped : s.stopped with
        | true => exact (reach.windsDown_step (reach.heeding heeds) hstopped hs).1.now
        | false =>
          cases hs with
          | stop _ | collect _ _ _ => rfl
          | move i can => exact (moved_move (b := b) can).frame.1
          | wait => exact absurd (hrunning.symm.trans hstopped) (by decide)
      rw [hnow]
      exact ih

end Steps

section Law
variable {c : Config} {targets : List String} {start : Nat} {cancelAfter : Option UInt64} {transport : Transport}
  {earlier : List Call} {draw : Nat → UInt32 → Nat} {b : Batch} {s : State}

theorem since_le_of_le {now bound : Nat} {d : Span} (hbound : bound ≤ start + d.nanos + Clock.late start) (h : now ≤ bound) :
    (Clock.since now start).nanos ≤ d.nanos + Clock.late start := by
  show min (now - start) Span.maxNanos ≤ _
  omega

/-- A batch that was built is not past its timeout, nor past the time at which its caller gives it up. -/
theorem Reachable.now_le_of_built (built : ofConfig? c targets start cancelAfter transport earlier draw = some b)
    (heeds : ∀ calls target, (transport calls target).heedsStop = true) (reach : Reachable b s) :
    s.now ≤ Clock.timer start (Span.ofSeconds c.dispatch.batchTimeoutSecs) ∧
      ∀ ms, cancelAfter = some ms → s.now ≤ Clock.due start (Span.ofMillis ms) := by
  obtain ⟨-, rfl, -, rfl, hcancel, hdeadline⟩ := eq_of_built built
  have hnow : s.now ≤ b.deadline ∧ ∀ c, b.cancelAt = some c → s.now ≤ c := by
    refine reach.now_le heeds (hdeadline ▸ Clock.le_timer _ _) fun t ht => ?_
    obtain ⟨ms, -, rfl⟩ := Option.map_eq_some_iff.mp (hcancel ▸ ht)
    exact Clock.le_due _ _
  refine ⟨hdeadline ▸ hnow.1, ?_⟩
  rintro ms rfl
  exact hnow.2 _ hcancel

/-- It takes no longer than that, but for the millisecond by which a timer may be late. -/
theorem Reachable.since_le_of_built (built : ofConfig? c targets start cancelAfter transport earlier draw = some b)
    (heeds : ∀ calls target, (transport calls target).heedsStop = true) (reach : Reachable b s) :
    (Clock.since s.now start).nanos ≤ (Span.ofSeconds c.dispatch.batchTimeoutSecs).nanos + Clock.late start ∧
      ∀ ms, cancelAfter = some ms → (Clock.since s.now start).nanos ≤ (Span.ofMillis ms).nanos + Clock.late start := by
  obtain ⟨htimeout, hcaller⟩ := reach.now_le_of_built built heeds
  refine ⟨since_le_of_le (Clock.timer_le ⟨c.dispatch.batchTimeoutSecs.toNat * 1000, ?_⟩ start) htimeout, fun ms hms => ?_⟩
  · show c.dispatch.batchTimeoutSecs.toNat * 1000000000 = _
    omega
  · exact since_le_of_le (Clock.due_le ⟨ms.toNat, Nat.mul_comm ..⟩ start) (hcaller ms hms)

/-- The end of a batch that is stopped, over a transport whose calls heed the stop, and in whatever order things happen.
    From the stop on no call begins and no time passes. The results that were there are kept, and what was delivered
    stays in front; a worker that had not ended gets the result that it was cancelled then. There are only so many
    steps left, and there is one as long as the batch is not over. So a batch that starts at a whole millisecond takes no
    longer than its timeout, and no longer than until its caller gives it up; any other one may take a millisecond more,
    for its timers are late by that. And that the timeout is over does not mean that the caller gave it up. -/
theorem ends_at_once_of_stopped
    (built : ofConfig? c targets start cancelAfter transport earlier draw = some b)
    (heeds : ∀ calls target, (transport calls target).heedsStop = true) (reach : Reachable b s) :
    (s.stopped = true → ∀ n t, Steps b n s t →
      t.calls = s.calls ∧ t.now = s.now ∧
      (∀ i r, HasResult b s i r → HasResult b t i r) ∧ (∃ rs, t.delivered = s.delivered ++ rs) ∧
      (∀ i r, HasResult b t i r → s.phase i ≠ .done →
        r.outcome = .cancelled ∧ r.elapsed = Clock.since s.now start) ∧
      (t.isOver = true → ∀ i < targets.length, ∃ r, (i, r) ∈ t.delivered) ∧
      (t.isOver = false → ∃ u, Step b t u) ∧ n ≤ 2 * s.unfinished + s.exits.length + 1) ∧
    s.now ≤ Clock.timer start (Span.ofSeconds c.dispatch.batchTimeoutSecs) ∧
    (∀ ms, cancelAfter = some ms → s.now ≤ Clock.due start (Span.ofMillis ms)) ∧
    (Clock.since s.now start).nanos ≤ (Span.ofSeconds c.dispatch.batchTimeoutSecs).nanos + Clock.late start ∧
    (∀ ms, cancelAfter = some ms → (Clock.since s.now start).nanos ≤ (Span.ofMillis ms).nanos + Clock.late start) ∧
    (s.givenUp = true → ∃ ms, cancelAfter = some ms ∧ Clock.due start (Span.ofMillis ms) ≤ s.now) := by
  obtain ⟨htimeout, hcaller⟩ := reach.now_le_of_built built heeds
  obtain ⟨htook, htookCaller⟩ := reach.since_le_of_built built heeds
  obtain ⟨rfl, rfl, -, rfl, hcancel, -⟩ := eq_of_built built
  refine ⟨fun stopped n t hs => ?_, htimeout, hcaller, htook, htookCaller, fun givenUp => ?_⟩
  · obtain ⟨h, hn⟩ := reach.windsDown heeds stopped hs
    have reach' := reach.steps hs
    refine ⟨h.calls, h.now, fun i r hr => reach.hasResult_steps hs hr, h.delivered, fun i r hr going => ?_,
      fun ended i hi => ?_, ?_, ?_⟩
    · exact (h.gained i r hr).resolve_left fun hr => going (reach.accounted.done_of_hasResult hr)
    · obtain ⟨r, hr⟩ := reach'.accounted.exists_result hi (phase_of_isOver ended i)
      exact ⟨r, (hasResult_iff_of_isOver ended).mp hr⟩
    · exact exists_step_of_stopped h.stopped (reach'.heeding heeds)
    · have : b.toDo s ≤ 2 * s.unfinished + s.exits.length + 1 := by
        unfold toDo State.load
        split <;> omega
      omega
  · obtain ⟨t, ht, hle⟩ := reach.cancelAt_of_givenUp givenUp
    obtain ⟨ms, hms, rfl⟩ := Option.map_eq_some_iff.mp (hcancel ▸ ht)
    exact ⟨ms, hms, hle⟩

end Law

/-! ### A batch that is given up after 10 ms -/

def hangingConfig : Config := { dispatch := { maxConcurrency := some 2 } }

/-- One target is fetched within 5 ms, and the others never answer. -/
def hangingScript : Script :=
  { replies := [("a", [{ after := Span.ofMillis 5, ending := .outcome (.completed 200 7) }])]
    fallback := { ending := .never } }

def hanging : Batch :=
  { targets := ["a", "b", "c", "d"], start := 0, limits := .ofConfig {}, breaker := .ofConfig {}, scope := .host
    retry := .ofConfig {}, permits := some 2, transport := hangingScript.transport
    cancelAt := some (Clock.due 0 (Span.ofMillis 10)), deadline := Clock.timer 0 (Span.ofSeconds 30) }

theorem built_hanging :
    ofConfig? hangingConfig ["a", "b", "c", "d"] 0 (some 10) hangingScript.transport [] (fun _ _ => 0) =
      some hanging := rfl

theorem heedsStop_hangingScript : ∀ calls target, (hangingScript.transport calls target).heedsStop = true :=
  Script.heedsStop_transport rfl (by decide)

/-- The batch has just been given up: two calls are in flight, and one worker waits at the gate. -/
def hangingStopped : State := hanging.run 13 hanging.initial

/-- The worker at the gate makes no call, and ends as cancelled after 10 ms. -/
theorem ends_at_once_of_stopped_hanging :
    ∃ n t, Steps hanging n hangingStopped t ∧ t.isOver = true ∧ t.calls = hangingStopped.calls ∧
      ∃ r, (3, r) ∈ t.delivered ∧ r.outcome = .cancelled ∧ r.elapsed = Span.ofMillis 10 := by
  have reach : Reachable hanging hangingStopped := Reachable.start.run 13
  obtain ⟨n, hs⟩ := reach.steps_run 10
  have ended : (hanging.run 10 hangingStopped).isOver = true := by decide +kernel
  obtain ⟨stop, -⟩ := ends_at_once_of_stopped built_hanging heedsStop_hangingScript reach
  obtain ⟨calls, -, -, -, gained, results, -⟩ := stop (by decide +kernel) n _ hs
  obtain ⟨r, hr⟩ := results ended 3 (by decide)
  obtain ⟨outcome, elapsed⟩ := gained 3 r (.inl hr) (by decide +kernel)
  exact ⟨n, _, hs, ended, calls, r, hr, outcome, elapsed.trans (by decide +kernel)⟩

/-! ### A batch that starts between two milliseconds -/

def briefConfig : Config := { dispatch := { batchTimeoutSecs := 1 } }

def silentTransport : Transport := fun _ _ => { ending := .never }

/-- Its timeout of a second is over after 1001 ms: it is due at the millisecond after that second, and the clock, which
    stood at half a millisecond, goes on by whole ones. -/
theorem took_longer_than_timeout :
    ∃ b s, ofConfig? briefConfig ["a"] 500000 none silentTransport [] (fun _ _ => 0) = some b ∧
      (∀ calls target, (silentTransport calls target).heedsStop = true) ∧ Reachable b s ∧ s.isOver = true ∧
      Clock.since s.now 500000 = Span.ofMillis 1001 ∧
      ¬Clock.since s.now 500000 ≤ Span.ofSeconds briefConfig.dispatch.batchTimeoutSecs := by
  refine ⟨_, _, rfl, fun _ _ => rfl, Reachable.start.run 10, ?_, ?_, ?_⟩ <;> decide +kernel

end Batch

end BatchFetch
