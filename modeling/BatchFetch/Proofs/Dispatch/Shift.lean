import BatchFetch.Dispatch.Dispatcher
import BatchFetch.Proofs.Breaker.Shift
import BatchFetch.Proofs.Dispatch.Attempts

/-! # Batches at another time

Nothing in a batch knows what time it is: limiter, breakers, timers and deadlines compare times with each other only, and
timers fire at whole milliseconds. So a batch that starts later by whole milliseconds takes the same steps so much later,
as long as the transport replies the same. -/

namespace BatchFetch

theorem Clock.since_add (σ now start : Nat) : since (σ + now) (σ + start) = since now start := by
  unfold since
  rw [Nat.add_sub_add_left]

theorem min?_map_add (σ : Nat) (l : List Nat) : (l.map (σ + ·)).min? = l.min?.map (σ + ·) := by
  cases hmin : l.min? with
  | none =>
    rw [List.min?_eq_none_iff.mp hmin]
    rfl
  | some m =>
    obtain ⟨hmem, hle⟩ := List.min?_eq_some_iff.mp hmin
    refine List.min?_eq_some_iff.mpr ⟨List.mem_map.mpr ⟨m, hmem, rfl⟩, fun x hx => ?_⟩
    obtain ⟨y, hy, rfl⟩ := List.mem_map.mp hx
    exact Nat.add_le_add_left (hle y hy) σ

/-- The call at a later time. -/
def Call.after (σ : Nat) (c : Call) : Call := { c with time := σ + c.time }

/-! ### Buckets and registries -/

namespace Bucket
variable {l : Limits} {σ now : Nat} {b : Bucket}

def after (σ : Nat) (b : Bucket) : Bucket := { b with updated := σ + b.updated }

theorem refill_after : (b.after σ).refill l (σ + now) = (b.refill l now).after σ := by
  unfold refill
  rw [show (b.after σ).updated = σ + b.updated from rfl, Clock.since_add]
  rfl

theorem take_after : (b.after σ).take l (σ + now) = ((b.take l now).1, (b.take l now).2.after σ) := by
  unfold take
  rw [refill_after]
  dsimp only
  split
  · rename_i h
    rw [if_pos (show 1 ≤ (b.refill l now).tokens from h)]
    rfl
  · rename_i h
    rw [if_neg (show ¬1 ≤ (b.refill l now).tokens from h)]
    rfl

end Bucket

namespace Registry
variable {r : Registry} {σ now : Nat} {key : String} {b : Breaker} {c : Breaker.Settings} {p : Permit} {v : Verdict}

def after (σ : Nat) (r : Registry) : Registry := { breakers := r.breakers.map fun e => (e.1, e.2.after σ) }

theorem keys_after : (r.after σ).keys = r.keys := by
  unfold keys after
  rw [List.map_map]
  rfl

theorem get_after : (r.after σ).get key = (r.get key).after σ := by
  obtain ⟨entries⟩ := r
  show ((entries.map fun e => (e.1, e.2.after σ)).lookup key).getD {} = ((entries.lookup key).getD {}).after σ
  induction entries with
  | nil => rfl
  | cons e es ih =>
    rw [List.map_cons, List.lookup_cons, List.lookup_cons]
    split
    · rfl
    · exact ih

theorem put_after : (r.after σ).put key (b.after σ) = (r.put key b).after σ := by
  by_cases hmem : key ∈ r.keys
  · have hmem' : key ∈ (r.after σ).keys := by rwa [keys_after]
    rw [put_of_mem hmem, put_of_mem hmem']
    unfold after
    rw [List.map_map, List.map_map]
    congr 1
    refine List.map_congr_left fun e _ => ?_
    by_cases he : e.1 = key <;> simp [he]
  · have hmem' : key ∉ (r.after σ).keys := by rwa [keys_after]
    rw [put_of_not_mem hmem, put_of_not_mem hmem']
    unfold after
    rw [List.map_append]
    rfl

theorem ask_after : (r.after σ).ask c (σ + now) key = ((r.ask c now key).1.after σ, (r.ask c now key).2.after σ) := by
  unfold ask
  rw [get_after, Breaker.ask_after]
  exact Prod.ext rfl put_after

theorem report_after :
    (r.after σ).report c (σ + now) key p v = ((r.report c now key p v).1.after σ, (r.report c now key p v).2.after σ) := by
  unfold report
  rw [get_after, Breaker.report_after]
  exact Prod.ext rfl put_after

end Registry

namespace Batch

/-! ### States -/

def Phase.after (σ : Nat) : Phase → Phase
  | .fresh => .fresh
  | .queued => .queued
  | .waiting since wake => .waiting (σ + since) (σ + wake)
  | .calling retries permit ends reply => .calling retries permit (σ + ends) reply
  | .backingOff retry wake => .backingOff retry (σ + wake)
  | .done => .done

def Event.after (σ : Nat) : Event → Event
  | .tokenTaken i waited => .tokenTaken i waited
  | .refused i t refusal => .refused i (σ + t) refusal
  | .called i call key trial => .called i (call.after σ) key trial
  | .ended i t o => .ended i (σ + t) o
  | .brokeOff i t message => .brokeOff i (σ + t) message
  | .breaker key note => .breaker key note
  | .finished i r => .finished i r

/-- The state in which everything is later. -/
def State.after (σ : Nat) (s : State) : State :=
  { s with
    now := σ + s.now, bucket := s.bucket.after σ, phases := s.phases.map (Phase.after σ), registry := s.registry.after σ
    log := s.log.map (Event.after σ) }

section States
variable {σ : Nat} {s : State} {i wake t : Nat} {p : Phase} {e : Event} {l : List Event}

theorem phase_after : (s.after σ).phase i = (s.phase i).after σ := by
  unfold State.phase
  show ((s.phases.map (Phase.after σ))[i]?).getD .done = _
  rw [List.getElem?_map]
  cases s.phases[i]? <;> rfl

theorem isInside_after : (p.after σ).isInside = p.isInside := by
  cases p <;> rfl

theorem calls_after : (s.after σ).calls = s.calls.map (Call.after σ) := by
  unfold State.calls
  show (s.log.map (Event.after σ)).filterMap Event.call? = _
  rw [List.filterMap_map, List.map_filterMap]
  congr 1
  funext e
  cases e <;> rfl

theorem results_after : (s.after σ).results = s.results := by
  unfold State.results
  show (s.log.map (Event.after σ)).filterMap Event.result? = _
  rw [List.filterMap_map]
  congr 1
  funext e
  cases e <;> rfl

theorem metrics_after : (s.after σ).metrics = s.metrics := by
  unfold State.metrics
  show (s.log.map (Event.after σ)).filterMap Event.metric? = _
  rw [List.filterMap_map]
  congr 1
  funext e
  cases e <;> rfl

theorem inFlight_after (n : Nat) : (e.after σ).inFlight n = e.inFlight n := by
  cases e <;> rfl

theorem peak_after : (s.after σ).peak = s.peak := by
  have hlog : (s.after σ).log = s.log.map (Event.after σ) := rfl
  unfold State.peak
  rw [hlog, List.foldl_map]
  simp only [inFlight_after]

theorem isOver_after : (s.after σ).isOver = s.isOver := by
  unfold State.isOver
  show ((s.phases.map (Phase.after σ)).all (· == .done) && s.exits.isEmpty) = _
  rw [List.all_map]
  congr 2
  funext p
  cases p <;> rfl

theorem note_after : (s.after σ).note (l.map (Event.after σ)) = (s.note l).after σ := by
  simp [State.note, State.after]

theorem enter_after : (s.after σ).enter i (p.after σ) = (s.enter i p).after σ := by
  simp [State.enter, State.after]

theorem sleep_after : (s.after σ).sleep i (p.after σ) (σ + wake) = (s.sleep i p wake).after σ := by
  unfold State.sleep
  rw [enter_after]
  show (if σ + s.now < σ + wake then _ else _) = _
  by_cases h : s.now < wake
  · rw [if_pos h, if_pos (Nat.add_lt_add_left h σ)]
    rfl
  · rw [if_neg h, if_neg (by omega)]

theorem givePermit_after : (s.after σ).givePermit = s.givePermit.after σ := by
  unfold State.givePermit
  dsimp only [State.after]
  cases s.gate[s.free + 1 - 1]? <;> rfl

theorem canMove_after : (s.after σ).canMove i = s.canMove i := by
  unfold State.canMove
  rw [phase_after]
  cases s.phase i with
  | fresh | queued | done => rfl
  | waiting | calling | backingOff => simp [Phase.after, State.after]

theorem wakes?_after : (s.after σ).wakes? i = (s.wakes? i).map (σ + ·) := by
  unfold State.wakes?
  rw [phase_after]
  cases s.phase i with
  | calling retries permit ends reply =>
    simp only [Phase.after]
    split <;> rfl
  | fresh | queued | waiting | backingOff | done => rfl

end States

/-! ### Batches -/

/-- A batch is another one whole milliseconds later: it starts, is given up and runs out of time so much later, and the
    transport replies the same to calls that are so much later. -/
structure Later (σ : Nat) (b b' : Batch) : Prop where
  whole : 1000000 ∣ σ
  targets : b.targets = b'.targets
  start : b.start = σ + b'.start
  limits : b.limits = b'.limits
  breaker : b.breaker = b'.breaker
  scope : b.scope = b'.scope
  retry : b.retry = b'.retry
  plain : b'.retry.jitter = false
  permits : b.permits = b'.permits
  replies : ∀ calls target,
    b.transport (b.earlier ++ calls.map (Call.after σ)) target = b'.transport (b'.earlier ++ calls) target
  cancelAt : b.cancelAt = b'.cancelAt.map (σ + ·)
  deadline : b.deadline = σ + b'.deadline

section Steps
variable {σ : Nat} {b b' : Batch} {s t : State} {i : Nat} {e : Exit} {o : Outcome} {retries : UInt32} {p : Permit}

namespace Later

theorem target (h : Later σ b b') : b.target i = b'.target i := by
  unfold Batch.target
  rw [h.targets]

theorem key (h : Later σ b b') : b.key i = b'.key i := by
  unfold Batch.key
  rw [h.scope, h.target]

theorem since (h : Later σ b b') : Clock.since (s.after σ).now b.start = Clock.since s.now b'.start := by
  rw [h.start]
  exact Clock.since_add σ s.now b'.start

theorem timer (h : Later σ b b') (d : Span) : Clock.timer (s.after σ).now d = σ + Clock.timer s.now d :=
  Clock.timer_add h.whole s.now d

theorem due (h : Later σ b b') (d : Span) : Clock.due (s.after σ).now d = σ + Clock.due s.now d :=
  Clock.due_add h.whole s.now d

theorem exit (h : Later σ b b') : b.exit i e (s.after σ) = (b'.exit i e s).after σ := by
  have hstate : ∀ s : State, { ((s.after σ).enter i .done).leaveGate i with
        line := (s.after σ).line.erase i, exits := (s.after σ).exits ++ [(i, e)] } =
      State.after σ { (s.enter i .done).leaveGate i with line := s.line.erase i, exits := s.exits ++ [(i, e)] } := by
    intro s
    rw [show Phase.done = Phase.after σ .done from rfl, enter_after]
    rfl
  unfold Batch.exit
  rw [phase_after, isInside_after, h.permits]
  dsimp only
  split
  · rw [← givePermit_after]
    exact congrArg State.givePermit (hstate s)
  · exact hstate s

theorem finish (h : Later σ b b') (n : Nat) : b.finish i o n (s.after σ) = (b'.finish i o n s).after σ := by
  unfold Batch.finish
  rw [h.target, h.since, h.exit]

theorem cancel (h : Later σ b b') (n : Nat) : b.cancel i n (s.after σ) = (b'.cancel i n s).after σ := h.finish n

theorem conclude (h : Later σ b b') : b.conclude i retries o (s.after σ) = (b'.conclude i retries o s).after σ := by
  unfold Batch.conclude
  rw [h.retry]
  split
  · dsimp only
    rw [delay_of_plain h.plain, delay_of_plain h.plain, h.timer]
    exact sleep_after (p := .backingOff (retries + 1) _)
  · exact h.finish _

theorem noteBreaker {α : Type} {turn : Breaker.Turn α} {r : Registry} {key : String} :
    (s.after σ).noteBreaker key (turn.after σ) (r.after σ) = (s.noteBreaker key turn r).after σ := by
  have hnotes : (turn.after σ).notes.map (Event.breaker key) = (turn.notes.map (.breaker key)).map (Event.after σ) := by
    rw [List.map_map]
    rfl
  unfold State.noteBreaker
  rw [hnotes]
  exact note_after (s := { s with registry := r })

theorem attempt (h : Later σ b b') : b.attempt i retries (s.after σ) = (b'.attempt i retries s).after σ := by
  have hask : (s.after σ).registry.ask b.breaker (s.after σ).now (b.key i) =
      ((s.registry.ask b'.breaker s.now (b'.key i)).1.after σ, (s.registry.ask b'.breaker s.now (b'.key i)).2.after σ) := by
    rw [h.breaker, h.key]
    exact Registry.ask_after
  unfold Batch.attempt
  dsimp only
  rw [hask]
  generalize s.registry.ask b'.breaker s.now (b'.key i) = turn
  obtain ⟨turn, registry⟩ := turn
  dsimp only
  rw [noteBreaker, h.key, show (turn.after σ).answer = turn.answer from rfl]
  generalize s.noteBreaker (b'.key i) turn registry = s
  cases turn.answer with
  | refused retryIn =>
    dsimp only
    rw [← h.conclude]
    exact congrArg _ (note_after (l := [.refused i s.now ⟨b'.key i, retryIn⟩]))
  | granted permit =>
    dsimp only
    rw [h.target, calls_after, h.replies, h.due, ← sleep_after, ← note_after]
    rfl

theorem tell (h : Later σ b b') (v : Verdict) : b.tell i p v (s.after σ) = (b'.tell i p v s).after σ := by
  have hreport : (s.after σ).registry.report b.breaker (s.after σ).now (b.key i) p v =
      ((s.registry.report b'.breaker s.now (b'.key i) p v).1.after σ,
        (s.registry.report b'.breaker s.now (b'.key i) p v).2.after σ) := by
    rw [h.breaker, h.key]
    exact Registry.report_after
  unfold Batch.tell
  rw [hreport, h.key]
  exact noteBreaker

theorem endCall (h : Later σ b b') : b.endCall i retries p o (s.after σ) = (b'.endCall i retries p o s).after σ := by
  unfold Batch.endCall
  rw [← h.conclude, ← h.tell, ← note_after]
  rfl

theorem breakOff (h : Later σ b b') (message : String) :
    b.breakOff i p message (s.after σ) = (b'.breakOff i p message s).after σ := by
  unfold Batch.breakOff
  rw [← h.exit, ← h.tell, ← note_after]
  rfl

theorem look (h : Later σ b b') (since : Nat) : b.look i (σ + since) (s.after σ) = (b'.look i since s).after σ := by
  have htake : (s.after σ).bucket.take b.limits (s.after σ).now =
      ((s.bucket.take b'.limits s.now).1, (s.bucket.take b'.limits s.now).2.after σ) := by
    rw [h.limits]
    exact Bucket.take_after
  unfold Batch.look
  rw [htake]
  generalize s.bucket.take b'.limits s.now = answer
  obtain ⟨answer, bucket⟩ := answer
  cases answer with
  | granted =>
    dsimp only
    rw [← h.attempt, ← note_after, show (s.after σ).now = σ + s.now from rfl, Clock.since_add]
    rfl
  | wait d =>
    dsimp only
    rw [h.timer, ← sleep_after]
    rfl

theorem move (h : Later σ b b') : b.move i (s.after σ) = (b'.move i s).after σ := by
  have hstopped : (s.after σ).stopped = s.stopped := rfl
  unfold Batch.move
  rw [phase_after]
  cases s.phase i with
  | fresh =>
    dsimp only [Phase.after]
    rw [hstopped, h.permits]
    split
    · exact h.cancel 1
    · split
      · exact enter_after (p := .waiting s.now s.now)
      · show (if s.gate.length < s.free then _ else _) = _
        split
        · exact enter_after (s := s.takePermit) (p := .waiting s.now s.now)
        · exact enter_after (s := { s with gate := s.gate ++ [i] }) (p := .queued)
  | queued =>
    dsimp only [Phase.after]
    rw [hstopped]
    split
    · exact h.cancel 1
    · exact enter_after (s := (s.leaveGate i).takePermit) (p := .waiting s.now s.now)
  | waiting since wake =>
    dsimp only [Phase.after]
    rw [hstopped]
    split
    · exact h.cancel 1
    · exact h.look since
  | calling retries permit ends reply =>
    dsimp only [Phase.after]
    rw [hstopped]
    split
    · exact h.endCall
    · cases reply.ending with
      | outcome o => exact h.endCall
      | panic message => exact h.breakOff message
      | never => rfl
  | backingOff retry wake =>
    dsimp only [Phase.after]
    rw [hstopped]
    split
    · exact h.cancel _
    · exact h.attempt
  | done => rfl

theorem collect (h : Later σ b b') : b.collect i e (s.after σ) = (b'.collect i e s).after σ := by
  have hresult : b.resultOf i (s.after σ) e = b'.resultOf i s e := by
    cases e with
    | result r => rfl
    | panic message =>
      unfold Batch.resultOf
      rw [h.since]
      rfl
  unfold Batch.collect
  rw [hresult, ← note_after]
  rfl

theorem callerDue (h : Later σ b b') : b.callerDue (s.after σ) = b'.callerDue s := by
  unfold Batch.callerDue
  rw [h.cancelAt]
  cases b'.cancelAt <;> simp [State.after]

theorem deadlineDue (h : Later σ b b') : b.deadlineDue (s.after σ) = b'.deadlineDue s := by
  unfold Batch.deadlineDue
  rw [h.deadline]
  simp [State.after]

theorem stopDue (h : Later σ b b') : b.stopDue (s.after σ) = b'.stopDue s := by
  unfold Batch.stopDue
  rw [h.callerDue, h.deadlineDue]

theorem stop (h : Later σ b b') : b.stop (s.after σ) = (b'.stop s).after σ := by
  unfold Batch.stop
  rw [h.callerDue]
  rfl

theorem wakeTimes (h : Later σ b b') : b.wakeTimes (s.after σ) = (b'.wakeTimes s).map (σ + ·) := by
  have hworkers : (List.range (s.after σ).phases.length).filterMap (s.after σ).wakes? =
      ((List.range s.phases.length).filterMap s.wakes?).map (σ + ·) := by
    rw [show (s.after σ).phases.length = s.phases.length from List.length_map _, List.map_filterMap]
    congr 1
    funext i
    exact wakes?_after
  unfold Batch.wakeTimes
  rw [hworkers, h.cancelAt, h.deadline, List.map_append, List.map_append]
  congr 1
  · congr 1
    show (if s.givenUp then _ else _) = _
    split
    · rfl
    · cases b'.cancelAt <;> rfl
  · show (if s.stopped then _ else _) = _
    split <;> rfl

theorem soonest (h : Later σ b b') : (b.wakeTimes (s.after σ)).min? = (b'.wakeTimes s).min?.map (σ + ·) := by
  rw [h.wakeTimes]
  exact min?_map_add σ _

/-! ### Runs -/

/-- The next step of the later batch is that of the other one, later. -/
theorem next (h : Later σ b b') : b.next (s.after σ) = (b'.next s).map (State.after σ) := by
  unfold Batch.next
  rw [h.stopDue, h.stop, isOver_after, h.soonest]
  split
  · rfl
  · rw [show (s.after σ).exits = s.exits from rfl]
    cases s.exits with
    | cons x exits => exact congrArg some h.collect
    | nil =>
      dsimp only
      rw [show (s.after σ).line = s.line from rfl, show (s.after σ).canMove = s.canMove from funext fun i => canMove_after]
      cases s.line.find? s.canMove with
      | some i => exact congrArg some h.move
      | none =>
        dsimp only
        split
        · rfl
        · rw [Option.map_map, Option.map_map]
          rfl

theorem run (h : Later σ b b') (n : Nat) : b.run n (s.after σ) = (b'.run n s).after σ := by
  induction n generalizing s with
  | zero => rfl
  | succ n ih =>
    cases hn : b'.next s with
    | some t => rw [run_succ_of_some hn, run_succ_of_some (h.next.trans (congrArg _ hn)), ih]
    | none => rw [run_succ_of_none hn, run_succ_of_none (h.next.trans (congrArg _ hn))]

theorem initial (h : Later σ b b') : b.initial = b'.initial.after σ := by
  have hgivenUp : b.cancelAt.any (· ≤ b.start) = b'.cancelAt.any (· ≤ b'.start) := by
    rw [h.cancelAt, h.start]
    cases b'.cancelAt <;> simp
  unfold Batch.initial
  rw [hgivenUp, h.targets, h.permits, h.start, h.limits]
  simp [State.after, Bucket.full, Bucket.after, Registry.after, Phase.after]

theorem final (h : Later σ b b') : b.final? = b'.final?.map (State.after σ) := by
  unfold Batch.final?
  dsimp only
  rw [h.initial, h.run, isOver_after]
  split <;> rfl

theorem step (h : Later σ b b') (hs : Step b' s t) : Step b (s.after σ) (t.after σ) := by
  cases hs with
  | stop due =>
    rw [← h.stop]
    exact .stop (h.stopDue.trans due)
  | move i can =>
    rw [← h.move]
    exact .move i (canMove_after.trans can)
  | collect i e ended =>
    rw [← h.collect]
    exact .collect i e ended
  | wait t ready idle collected going soonest =>
    refine .wait (σ + t) (h.stopDue.trans ready) (fun i => canMove_after.trans (idle i)) collected
      (isOver_after.trans going) ?_
    rw [h.soonest, soonest]
    rfl

theorem exists_step (h : Later σ b b') {u : State} (hs : Step b (s.after σ) u) : ∃ t, Step b' s t ∧ u = t.after σ := by
  cases hs with
  | stop due => exact ⟨_, .stop (h.stopDue.symm.trans due), h.stop⟩
  | move i can => exact ⟨_, .move i (canMove_after.symm.trans can), h.move⟩
  | collect i e ended => exact ⟨_, .collect i e ended, h.collect⟩
  | wait later ready idle collected going soonest =>
    rw [h.soonest] at soonest
    obtain ⟨t, ht, rfl⟩ := Option.map_eq_some_iff.mp soonest
    exact ⟨_, .wait t (h.stopDue.symm.trans ready) (fun i => canMove_after.symm.trans (idle i)) collected
      (isOver_after.symm.trans going) ht, rfl⟩

/-- Whatever the later batch can come to, in any order of its steps, the other one can come to earlier. -/
theorem reachable_iff (h : Later σ b b') {u : State} : Reachable b u ↔ ∃ s, Reachable b' s ∧ u = s.after σ := by
  constructor
  · intro reach
    induction reach with
    | start => exact ⟨_, .start, h.initial⟩
    | step _ hs ih =>
      obtain ⟨s, reach, rfl⟩ := ih
      obtain ⟨t, ht, rfl⟩ := h.exists_step hs
      exact ⟨t, reach.step ht, rfl⟩
  · rintro ⟨s, reach, rfl⟩
    induction reach with
    | start => exact h.initial ▸ .start
    | step _ hs ih => exact ih.step (h.step hs)

end Later

end Steps

end Batch

end BatchFetch
