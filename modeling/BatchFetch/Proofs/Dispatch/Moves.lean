import BatchFetch.Dispatch.Run

/-! # What a worker can do

Every move of a worker is of one of a few kinds: it goes on towards its token, makes an attempt that is let
through or refused, ends a call, breaks off, or is cancelled. `Moved` says of each kind when it comes about
and what the state is afterwards, up to how the workers queue. -/

namespace BatchFetch.Batch

/-! ### States up to their queues -/

/-- A state without the queues of the workers: those who wait for their turn, and the gate. -/
def State.unqueued (s : State) : State := { s with line := [], gate := [], free := 0 }

structure State.Agrees (t u : State) : Prop where
  now : t.now = u.now
  bucket : t.bucket = u.bucket
  phases : t.phases = u.phases
  registry : t.registry = u.registry
  exits : t.exits = u.exits
  pending : t.pending = u.pending
  stopped : t.stopped = u.stopped
  givenUp : t.givenUp = u.givenUp
  log : t.log = u.log

section Unqueued
variable {b : Batch} {s t : State} {i : Nat}

theorem agrees_of_unqueued (h : t.unqueued = s.unqueued) : t.Agrees s := by
  unfold State.unqueued at h
  simp only [State.mk.injEq] at h
  obtain ⟨now, bucket, phases, -, -, -, registry, exits, pending, stopped, givenUp, log⟩ := h
  exact ⟨now, bucket, phases, registry, exits, pending, stopped, givenUp, log⟩

/-- A log to which nothing was added. -/
theorem log_append_nil (h : t.log = s.log) : t.log = s.log ++ [] := h.trans (List.append_nil _).symm

theorem unqueued_sleep {p : Phase} {wake : Nat} : (s.sleep i p wake).unqueued = (s.enter i p).unqueued := by
  unfold State.sleep
  split <;> rfl

theorem unqueued_givePermit : s.givePermit.unqueued = s.unqueued := by
  unfold State.givePermit
  dsimp only
  split <;> rfl

theorem unqueued_exit {e : Exit} :
    (b.exit i e s).unqueued =
      State.unqueued { s with phases := s.phases.set i .done, exits := s.exits ++ [(i, e)] } := by
  unfold exit
  dsimp only
  split
  · exact unqueued_givePermit
  · rfl

end Unqueued

/-! ### Attempts -/

/-- A worker makes an attempt after so many retries: its first one when it gets its token, which it takes
    out of the bucket, and a further one when its wait is over. -/
inductive Starts (b : Batch) (i : Nat) (s : State) : UInt32 → Bucket → List Event → Prop where
  | token (since wake : Nat) (bucket : Bucket) (before : s.phase i = .waiting since wake)
      (taken : s.bucket.take b.limits s.now = (.granted, bucket)) :
      Starts b i s 0 bucket [.tokenTaken i (Clock.since s.now since)]
  | retry (retry : UInt32) (wake : Nat) (before : s.phase i = .backingOff retry wake) : Starts b i s retry s.bucket []

/-- A call ends with an outcome: it is given up because the batch has stopped, or its reply is there. -/
inductive Ends (s : State) (ends : Nat) (reply : Reply) : Outcome → Prop where
  | stopped (stopped : s.stopped = true) (heeds : reply.heedsStop = true) : Ends s ends reply .cancelled
  | itself (o : Outcome) (due : ends ≤ s.now) (ending : reply.ending = .outcome o)
      (free : ¬(s.stopped = true ∧ reply.heedsStop = true)) : Ends s ends reply o

/-- A worker is between its calls, after so many attempts; before the first one, that is one too. -/
inductive Between (s : State) (i : Nat) : Nat → Prop where
  | fresh (before : s.phase i = .fresh) : Between s i 1
  | queued (before : s.phase i = .queued) : Between s i 1
  | waiting (since wake : Nat) (before : s.phase i = .waiting since wake) : Between s i 1
  | backingOff (retry : UInt32) (wake : Nat) (before : s.phase i = .backingOff retry wake) : Between s i retry.toNat

/-- What the breaker of a worker answers now. -/
def asked (b : Batch) (i : Nat) (s : State) : Breaker.Turn Admission :=
  (s.registry.get (b.key i)).ask b.breaker s.now

def told (b : Batch) (i : Nat) (p : Permit) (v : Verdict) (s : State) : Breaker.Turn Unit :=
  (s.registry.get (b.key i)).report b.breaker s.now p v

def noted {α : Type} (b : Batch) (i : Nat) (t : Breaker.Turn α) : List Event := t.notes.map (.breaker (b.key i))

def resultNow (b : Batch) (i : Nat) (o : Outcome) (attempts : Nat) (s : State) : FetchResult :=
  .finished (b.target i) o attempts (Clock.since s.now b.start)

def replyNow (b : Batch) (i : Nat) (s : State) : Reply := b.transport (b.earlier ++ s.calls) (b.target i)

/-- What comes of a move of a worker. -/
inductive Moved (b : Batch) (i : Nat) (s t : State) : Prop where
  | queued (before : s.phase i = .fresh) (running : s.stopped = false)
      (eq : t.unqueued = State.unqueued { s with phases := s.phases.set i .queued })
  /-- It passes the gate. -/
  | passed (before : s.phase i = .fresh ∨ s.phase i = .queued) (running : s.stopped = false)
      (eq : t.unqueued = State.unqueued { s with phases := s.phases.set i (.waiting s.now s.now) })
  /-- It finds no token. -/
  | waits (since wake : Nat) (d : Span) (bucket : Bucket) (before : s.phase i = .waiting since wake)
      (running : s.stopped = false) (look : s.bucket.take b.limits s.now = (.wait d, bucket))
      (eq : t.unqueued =
        State.unqueued { s with bucket, phases := s.phases.set i (.waiting since (Clock.timer s.now d)) })
  | called (retries : UInt32) (bucket : Bucket) (es : List Event) (permit : Permit)
      (starts : Starts b i s retries bucket es) (running : s.stopped = false)
      (granted : (b.asked i s).answer = .granted permit)
      (eq : t.unqueued =
        State.unqueued
          { s with
            bucket
            registry := s.registry.put (b.key i) (b.asked i s).breaker
            phases := s.phases.set i
              (.calling retries permit (Clock.due s.now (b.replyNow i s).after) (b.replyNow i s))
            log := s.log ++
              (es ++ b.noted i (b.asked i s) ++ [.called i ⟨s.now, b.target i⟩ (b.key i) permit.trial]) })
  | refused (retries : UInt32) (bucket : Bucket) (es : List Event) (retryIn : Span)
      (starts : Starts b i s retries bucket es) (running : s.stopped = false)
      (refusal : (b.asked i s).answer = .refused retryIn)
      (eq : t.unqueued =
        State.unqueued
          { s with
            bucket
            registry := s.registry.put (b.key i) (b.asked i s).breaker
            phases := s.phases.set i .done
            exits := s.exits ++ [(i, .result (b.resultNow i (.refused ⟨b.key i, retryIn⟩) (retries + 1).toNat s))]
            log := s.log ++ (es ++ b.noted i (b.asked i s) ++ [.refused i s.now ⟨b.key i, retryIn⟩]) })
  /-- Its call ends with a failure, and it waits for its next attempt. -/
  | failed (retries : UInt32) (permit : Permit) (ends : Nat) (reply : Reply) (o : Outcome)
      (before : s.phase i = .calling retries permit ends reply) (ended : Ends s ends reply o)
      (again : o.kind.any (b.retry.shouldRetry retries) = true)
      (eq : t.unqueued =
        State.unqueued
          { s with
            registry := s.registry.put (b.key i) (b.told i permit o.verdict s).breaker
            phases := s.phases.set i
              (.backingOff (retries + 1)
                (Clock.timer s.now (b.retry.delay (b.draw i (retries + 1)) (retries + 1))))
            log := s.log ++ ([.ended i s.now o] ++ b.noted i (b.told i permit o.verdict s)) })
  /-- Its call ends, and the worker with it. -/
  | ended (retries : UInt32) (permit : Permit) (ends : Nat) (reply : Reply) (o : Outcome)
      (before : s.phase i = .calling retries permit ends reply) (ended : Ends s ends reply o)
      (last : o.kind.any (b.retry.shouldRetry retries) = false)
      (eq : t.unqueued =
        State.unqueued
          { s with
            registry := s.registry.put (b.key i) (b.told i permit o.verdict s).breaker
            phases := s.phases.set i .done
            exits := s.exits ++ [(i, .result (b.resultNow i o (retries + 1).toNat s))]
            log := s.log ++ ([.ended i s.now o] ++ b.noted i (b.told i permit o.verdict s)) })
  | brokeOff (retries : UInt32) (permit : Permit) (ends : Nat) (reply : Reply) (message : String)
      (before : s.phase i = .calling retries permit ends reply) (due : ends ≤ s.now)
      (ending : reply.ending = .panic message)
      (eq : t.unqueued =
        State.unqueued
          { s with
            registry := s.registry.put (b.key i) (b.told i permit .neutral s).breaker
            phases := s.phases.set i .done
            exits := s.exits ++ [(i, .panic message)]
            log := s.log ++ ([.brokeOff i s.now message] ++ b.noted i (b.told i permit .neutral s)) })
  /-- It is cancelled between its calls. -/
  | cancelled (attempts : Nat) (before : Between s i attempts) (stopped : s.stopped = true)
      (eq : t.unqueued =
        State.unqueued
          { s with
            phases := s.phases.set i .done
            exits := s.exits ++ [(i, .result (b.resultNow i .cancelled attempts s))] })

/-! ### Every move is one of these -/

section Spec
variable {b : Batch} {s : State} {i : Nat}

theorem unqueued_conclude_of_retry {retries : UInt32} {o : Outcome}
    (again : o.kind.any (b.retry.shouldRetry retries) = true) :
    (b.conclude i retries o s).unqueued =
      State.unqueued
        { s with
          phases := s.phases.set i
            (.backingOff (retries + 1)
              (Clock.timer s.now (b.retry.delay (b.draw i (retries + 1)) (retries + 1)))) } := by
  unfold conclude
  rw [if_pos again]
  exact unqueued_sleep

theorem unqueued_conclude_of_last {retries : UInt32} {o : Outcome}
    (last : o.kind.any (b.retry.shouldRetry retries) = false) :
    (b.conclude i retries o s).unqueued =
      State.unqueued
        { s with
          phases := s.phases.set i .done
          exits := s.exits ++ [(i, .result (b.resultNow i o (retries + 1).toNat s))] } := by
  unfold conclude
  rw [if_neg (by simp [last])]
  exact unqueued_exit

theorem calls_note_noted {α : Type} {t : Breaker.Turn α} {r : Registry} :
    (s.noteBreaker (b.key i) t r).calls = s.calls := by
  unfold State.noteBreaker State.note State.calls
  rw [List.filterMap_append, List.filterMap_map]
  simp [Function.comp_def, Event.call?]

theorem unqueued_attempt_of_granted {retries : UInt32} {permit : Permit}
    (granted : (b.asked i s).answer = .granted permit) :
    (b.attempt i retries s).unqueued =
      State.unqueued
        { s with
          registry := s.registry.put (b.key i) (b.asked i s).breaker
          phases := s.phases.set i
            (.calling retries permit (Clock.due s.now (b.replyNow i s).after) (b.replyNow i s))
          log := s.log ++ (b.noted i (b.asked i s) ++ [.called i ⟨s.now, b.target i⟩ (b.key i) permit.trial]) } := by
  unfold attempt asked at *
  simp only [Registry.ask, granted, unqueued_sleep, calls_note_noted]
  simp [State.noteBreaker, State.note, State.enter, State.unqueued, replyNow, noted]

/-- A refusal is never repeated. -/
theorem last_refused (r : CircuitOpen) (retries : UInt32) :
    (Outcome.refused r).kind.any (b.retry.shouldRetry retries) = false := by
  simp [Outcome.refused, Outcome.failed, RetryPolicy.shouldRetry, ErrorKind.isRetryable]

theorem unqueued_attempt_of_refused {retries : UInt32} {retryIn : Span}
    (refusal : (b.asked i s).answer = .refused retryIn) :
    (b.attempt i retries s).unqueued =
      State.unqueued
        { s with
          registry := s.registry.put (b.key i) (b.asked i s).breaker
          phases := s.phases.set i .done
          exits := s.exits ++ [(i, .result (b.resultNow i (.refused ⟨b.key i, retryIn⟩) (retries + 1).toNat s))]
          log := s.log ++ (b.noted i (b.asked i s) ++ [.refused i s.now ⟨b.key i, retryIn⟩]) } := by
  unfold attempt asked at *
  simp only [Registry.ask, refusal, unqueued_conclude_of_last (last_refused _ _)]
  simp [State.noteBreaker, State.note, State.unqueued, resultNow, noted]

theorem moved_cancel {attempts : Nat} (before : Between s i attempts) (stopped : s.stopped = true) :
    Moved b i s (b.cancel i attempts s) := .cancelled attempts before stopped unqueued_exit

theorem moved_attempt {retries : UInt32} {bucket : Bucket} {es : List Event}
    (starts : Starts b i s retries bucket es) (running : s.stopped = false) :
    Moved b i s (b.attempt i retries ({ s with bucket }.note es)) := by
  have hasked : b.asked i ({ s with bucket }.note es) = b.asked i s := rfl
  have hreply : b.replyNow i ({ s with bucket }.note es) = b.replyNow i s := by
    unfold replyNow State.calls State.note
    cases starts <;> simp [List.filterMap_cons, Event.call?]
  cases h : (b.asked i s).answer with
  | granted permit =>
    refine .called retries bucket es permit starts running h ?_
    rw [← hasked] at h
    rw [unqueued_attempt_of_granted h, hasked, hreply]
    simp [State.note]
  | refused retryIn =>
    refine .refused retries bucket es retryIn starts running h ?_
    rw [← hasked] at h
    rw [unqueued_attempt_of_refused h, hasked]
    simp [State.note, resultNow]

theorem moved_endCall {retries : UInt32} {permit : Permit} {ends : Nat} {reply : Reply} {o : Outcome}
    (before : s.phase i = .calling retries permit ends reply) (ended : Ends s ends reply o) :
    Moved b i s (b.endCall i retries permit o s) := by
  cases h : o.kind.any (b.retry.shouldRetry retries) with
  | true =>
    refine .failed retries permit ends reply o before ended h ?_
    unfold endCall
    rw [unqueued_conclude_of_retry h]
    simp [tell, State.noteBreaker, State.note, Registry.report, told, noted]
  | false =>
    refine .ended retries permit ends reply o before ended h ?_
    unfold endCall
    rw [unqueued_conclude_of_last h]
    simp [tell, State.noteBreaker, State.note, Registry.report, told, noted, resultNow]

theorem moved_breakOff {retries : UInt32} {permit : Permit} {ends : Nat} {reply : Reply} {message : String}
    (before : s.phase i = .calling retries permit ends reply) (due : ends ≤ s.now)
    (ending : reply.ending = .panic message) : Moved b i s (b.breakOff i permit message s) := by
  refine .brokeOff retries permit ends reply message before due ending ?_
  unfold breakOff
  rw [unqueued_exit]
  simp [tell, State.noteBreaker, State.note, Registry.report, told, noted]

/-- Every move of a worker that can move is of one of the kinds. -/
theorem moved_move (can : s.canMove i = true) : Moved b i s (b.move i s) := by
  unfold State.canMove at can
  unfold move
  cases hp : s.phase i with
  | fresh =>
    dsimp only
    by_cases hs : s.stopped = true
    · rw [if_pos hs]
      exact moved_cancel (.fresh hp) hs
    · rw [if_neg hs]
      rw [Bool.not_eq_true] at hs
      split
      · exact .passed (.inl hp) hs rfl
      · split
        · exact .passed (.inl hp) hs rfl
        · exact .queued hp hs rfl
  | queued =>
    dsimp only
    by_cases hs : s.stopped = true
    · rw [if_pos hs]
      exact moved_cancel (.queued hp) hs
    · rw [if_neg hs]
      exact .passed (.inr hp) (Bool.not_eq_true _ ▸ hs) rfl
  | waiting since wake =>
    dsimp only
    by_cases hs : s.stopped = true
    · rw [if_pos hs]
      exact moved_cancel (.waiting since wake hp) hs
    · rw [if_neg hs]
      rw [Bool.not_eq_true] at hs
      unfold look
      split
      · rename_i bucket h
        exact moved_attempt (.token since wake bucket hp h) hs
      · rename_i d bucket h
        exact .waits since wake d bucket hp hs h unqueued_sleep
  | calling retries permit ends reply =>
    simp only [hp, Bool.or_eq_true, Bool.and_eq_true, bne_iff_ne, decide_eq_true_eq] at can
    dsimp only
    by_cases h : s.stopped = true ∧ reply.heedsStop = true
    · rw [if_pos (by simp [h])]
      exact moved_endCall hp (.stopped h.1 h.2)
    · rw [if_neg (by simpa using h)]
      obtain ⟨hne, due⟩ := can.resolve_left h
      cases ha : reply.ending with
      | outcome o => exact moved_endCall hp (.itself o due ha h)
      | panic message => exact moved_breakOff hp due ha
      | never => exact absurd ha hne
  | backingOff retry wake =>
    dsimp only
    by_cases hs : s.stopped = true
    · rw [if_pos hs]
      exact moved_cancel (.backingOff retry wake hp) hs
    · rw [if_neg hs]
      -- A retry takes no token.
      have hsame : ({ s with bucket := s.bucket } : State).note [] = s := by simp [State.note]
      have := moved_attempt (b := b) (.retry retry wake hp) (Bool.not_eq_true _ ▸ hs)
      rwa [hsame] at this
  | done => simp [hp] at can

end Spec

/-! ### What all moves have in common -/

section Common
variable {b : Batch} {s t : State} {i : Nat}

theorem phase_of_done_le {s : State} {i : Nat} (h : s.phase i ≠ .done) : i < s.phases.length := by
  refine Nat.lt_of_not_le fun hle => h ?_
  simp [State.phase, List.getElem?_eq_none hle]

theorem phase_set {p : Phase} (h : t.phases = s.phases.set i p) (hi : s.phase i ≠ .done) (j : Nat) :
    t.phase j = if i = j then p else s.phase j := by
  have hlt := phase_of_done_le hi
  unfold State.phase
  rw [h, List.getElem?_set]
  split <;> simp_all

theorem Starts.before {retries : UInt32} {bucket : Bucket} {es : List Event} (h : Starts b i s retries bucket es) :
    s.phase i ≠ .done := by
  cases h <;> simp_all

theorem Between.before {n : Nat} (h : Between s i n) : s.phase i ≠ .done := by
  cases h <;> simp_all

theorem Moved.before (m : Moved b i s t) : s.phase i ≠ .done := by
  cases m with
  | queued before _ _ => simp [before]
  | passed before _ _ => rcases before with h | h <;> simp [h]
  | waits _ _ _ _ before _ _ _ => simp [before]
  | called _ _ _ _ starts _ _ _ => exact starts.before
  | refused _ _ _ _ starts _ _ _ => exact starts.before
  | failed _ _ _ _ _ before _ _ _ => simp [before]
  | ended _ _ _ _ _ before _ _ _ => simp [before]
  | brokeOff _ _ _ _ _ before _ _ _ => simp [before]
  | cancelled _ before _ _ => exact before.before

theorem Moved.phase_of_ne (m : Moved b i s t) {j : Nat} (h : i ≠ j) : t.phase j = s.phase j := by
  have : ∃ p, t.phases = s.phases.set i p := by
    cases m <;> rename_i eq <;> exact ⟨_, (agrees_of_unqueued eq).phases⟩
  obtain ⟨p, hp⟩ := this
  rw [phase_set hp m.before, if_neg h]

/-- No move touches the clock, the tokens of the caller and of the batch, or the targets that are pending. -/
theorem Moved.frame (m : Moved b i s t) :
    t.now = s.now ∧ t.stopped = s.stopped ∧ t.givenUp = s.givenUp ∧ t.pending = s.pending := by
  cases m <;> rename_i eq <;>
    exact ⟨(agrees_of_unqueued eq).now, (agrees_of_unqueued eq).stopped, (agrees_of_unqueued eq).givenUp,
      (agrees_of_unqueued eq).pending⟩

end Common

end BatchFetch.Batch
