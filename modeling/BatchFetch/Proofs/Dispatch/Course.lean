import BatchFetch.Proofs.Breaker.Shift
import BatchFetch.Proofs.Dispatch.Attempts
import BatchFetch.Proofs.Dispatch.Others
import Mathlib.Data.List.Nodup
import Mathlib.Logic.Function.Iterate

/-! # The course of a worker

A worker that shares its endpoint with no other one waits for nothing but its own timers once it has its token.
What it does from then on is its course, which is told here as if the first attempt were made at time zero: one
attempt after another, each of them followed by a wait, until it leaves. Whatever else is in the batch,
and however long the worker waits at the gate and for its token, it goes through this course, at a later time. -/

namespace BatchFetch

namespace Batch

/-! ### Courses -/

/-- What decides the course of a worker. -/
structure Rules where
  target : String
  key : String
  breaker : Breaker.Settings
  retry : RetryPolicy
  /-- The replies to its calls. -/
  reply : Nat → Reply

/-- Where a worker stands on its course. -/
inductive Stage where
  /-- Its next attempt is due at a time. -/
  | due (retry : UInt32) (wake : Nat)
  | calling (retries : UInt32) (permit : Permit) (ends : Nat) (reply : Reply)
  | left (e : Exit)

/-- A worker on its course, with its breaker and the times of its calls so far. -/
structure Course where
  stage : Stage := .due 0 0
  breaker : Breaker := {}
  calls : List Nat := []

namespace Course

/-- The worker leaves with a result; how long it took is not told. -/
def leave (r : Rules) (o : Outcome) (attempts : Nat) (c : Course) : Course :=
  { c with stage := .left (.result (.finished r.target o attempts Span.zero)) }

def attempt (r : Rules) (retries : UInt32) (now : Nat) (c : Course) : Course :=
  let t := c.breaker.ask r.breaker now
  let c := { c with breaker := t.breaker }
  match t.answer with
  | .refused retryIn => c.leave r (.refused ⟨r.key, retryIn⟩) (retries + 1).toNat
  | .granted permit =>
    let reply := r.reply c.calls.length
    { c with stage := .calling retries permit (Clock.due now reply.after) reply, calls := c.calls ++ [now] }

def tell (r : Rules) (now : Nat) (p : Permit) (v : Verdict) (c : Course) : Course :=
  { c with breaker := (c.breaker.report r.breaker now p v).breaker }

def conclude (r : Rules) (retries : UInt32) (now : Nat) (o : Outcome) (c : Course) : Course :=
  if o.kind.any (r.retry.shouldRetry retries) then
    { c with stage := .due (retries + 1) (Clock.timer now (r.retry.delay 0 (retries + 1))) }
  else c.leave r o (retries + 1).toNat

def next (r : Rules) (c : Course) : Course :=
  match c.stage with
  | .due retry wake => c.attempt r retry wake
  | .calling retries permit ends reply =>
    match reply.ending with
    | .outcome o => (c.tell r ends permit o.verdict).conclude r retries ends o
    | .panic message => { c.tell r ends permit .neutral with stage := .left (.panic message) }
    | .never => c
  | .left _ => c

/-- The course after so many moves. -/
def run (r : Rules) (n : Nat) : Course := (next r)^[n] {}

section Next
variable {r : Rules} {c : Course} {retries : UInt32} {permit : Permit} {time : Nat} {reply : Reply} {o : Outcome}

theorem attempt_of_granted (granted : (c.breaker.ask r.breaker time).answer = .granted permit) :
    c.attempt r retries time =
      { stage := .calling retries permit (Clock.due time (r.reply c.calls.length).after) (r.reply c.calls.length)
        breaker := (c.breaker.ask r.breaker time).breaker, calls := c.calls ++ [time] } := by
  unfold attempt
  simp only [granted]

theorem attempt_of_refused {d : Span} (refusal : (c.breaker.ask r.breaker time).answer = .refused d) :
    c.attempt r retries time =
      { c with breaker := (c.breaker.ask r.breaker time).breaker }.leave r (.refused ⟨r.key, d⟩) (retries + 1).toNat := by
  unfold attempt
  simp only [refusal]

theorem next_of_due (stage : c.stage = .due retries time) : c.next r = c.attempt r retries time := by
  rw [next, stage]

theorem next_of_failed (stage : c.stage = .calling retries permit time reply) (ending : reply.ending = .outcome o)
    (again : o.kind.any (r.retry.shouldRetry retries) = true) :
    c.next r =
      { c.tell r time permit o.verdict with
        stage := .due (retries + 1) (Clock.timer time (r.retry.delay 0 (retries + 1))) } := by
  rw [next, stage]
  dsimp only
  rw [ending]
  exact if_pos again

theorem next_of_ended (stage : c.stage = .calling retries permit time reply) (ending : reply.ending = .outcome o)
    (last : o.kind.any (r.retry.shouldRetry retries) = false) :
    c.next r = (c.tell r time permit o.verdict).leave r o (retries + 1).toNat := by
  rw [next, stage]
  dsimp only
  rw [ending]
  exact if_neg (by simp [last])

theorem next_of_brokeOff (stage : c.stage = .calling retries permit time reply) {message : String}
    (ending : reply.ending = .panic message) :
    c.next r = { c.tell r time permit .neutral with stage := .left (.panic message) } := by
  rw [next, stage]
  dsimp only
  rw [ending]

theorem next_of_left {e : Exit} (stage : c.stage = .left e) : c.next r = c := by
  rw [next, stage]

end Next

variable {r : Rules} {n m : Nat} {e e' : Exit}

theorem run_succ : run r (n + 1) = (run r n).next r := Function.iterate_succ_apply' ..

theorem run_eq_of_left (left : (run r n).stage = .left e) (h : n ≤ m) : run r m = run r n := by
  induction m, h using Nat.le_induction with
  | base => rfl
  | succ m _ ih =>
    rw [run_succ, ih]
    exact next_of_left left

/-- A course has one end. -/
theorem run_eq_run (left : (run r n).stage = .left e) (left' : (run r m).stage = .left e') : run r n = run r m := by
  rcases Nat.le_total n m with h | h
  · exact (run_eq_of_left left h).symm
  · exact run_eq_of_left left' h

end Course

/-! ### Workers on their course -/

/-- The phase of a worker at a stage of its course, if the course has begun at some time. -/
def Stage.phase (σ : Nat) : Stage → Phase
  | .due retry wake => .backingOff retry (σ + wake)
  | .calling retries permit ends reply => .calling retries permit (σ + ends) reply
  | .left _ => .done

/-- The result of a worker that leaves so, but for the time that it took. -/
def Exit.Yields (i : Nat) (r : FetchResult) : Exit → Prop
  | .result r' => r.target = r'.target ∧ r.outcome = r'.outcome ∧ r.attempts = r'.attempts
  | .panic m => r.outcome = .failed .internal (brokeOffMessage i m) ∧ r.attempts = 1

def rules (b : Batch) (reply : String → Nat → Reply) (i : Nat) : Rules :=
  { target := b.target i, key := b.key i, breaker := b.breaker, retry := b.retry
    reply := fun n => reply (b.target i) (b.earlier.countP (·.target == b.target i) + n) }

/-- The calls of the target of a worker. -/
def callsFor (b : Batch) (i : Nat) (s : State) : List Call := s.callsOf (· == b.target i)

/-- A worker is on its course, which has begun at some time. -/
structure Follows (b : Batch) (i σ : Nat) (s : State) (c : Course) : Prop where
  phase : s.phase i = c.stage.phase σ
  breaker : s.registry.get (b.key i) = c.breaker.after σ
  calls : (b.callsFor i s).map (·.time) = c.calls.map (σ + ·)
  result : ∀ r, HasResult b s i r → ∃ e, c.stage = .left e ∧ e.Yields i r

/-- A worker has not made its first attempt yet, and its breaker is as new. -/
structure Early (b : Batch) (i : Nat) (s : State) : Prop where
  phase : s.phase i = .fresh ∨ s.phase i = .queued ∨ ∃ since wake, s.phase i = .waiting since wake
  breaker : s.registry.get (b.key i) = {}
  calls : b.callsFor i s = []

section Stages
variable {σ ends wake : Nat} {retries : UInt32} {permit : Permit} {reply : Reply} {g : Stage}

theorem Stage.eq_due (h : g.phase σ = .backingOff retries wake) : ∃ w, g = .due retries w ∧ wake = σ + w := by
  cases g with
  | due retry w =>
    cases h
    exact ⟨w, rfl, rfl⟩
  | calling | left => cases h

theorem Stage.eq_calling (h : g.phase σ = .calling retries permit ends reply) :
    ∃ e, g = .calling retries permit e reply ∧ ends = σ + e := by
  cases g with
  | calling retries permit e reply =>
    cases h
    exact ⟨e, rfl, rfl⟩
  | due | left => cases h

theorem Stage.phase_ne_early : g.phase σ ≠ .fresh ∧ g.phase σ ≠ .queued ∧ ∀ since wake, g.phase σ ≠ .waiting since wake := by
  cases g <;> simp [Stage.phase]

theorem Stage.eq_left (h : g.phase σ = .done) : ∃ e, g = .left e := by
  cases g with
  | left e => exact ⟨e, rfl⟩
  | due | calling => cases h

end Stages

section Moves
variable {b : Batch} {s t : State} {i σ now : Nat} {c : Course} {reply : String → Nat → Reply}

theorem asked_eq (breaker : s.registry.get (b.key i) = c.breaker.after σ) (hnow : s.now = σ + now) :
    b.asked i s = (c.breaker.ask b.breaker now).after σ := by
  unfold asked
  rw [breaker, hnow, Breaker.ask_after]

theorem told_eq {p : Permit} {v : Verdict} (breaker : s.registry.get (b.key i) = c.breaker.after σ)
    (hnow : s.now = σ + now) : b.told i p v s = (c.breaker.report b.breaker now p v).after σ := by
  unfold told
  rw [breaker, hnow, Breaker.report_after]

theorem replyNow_eq (scripted : b.transport = .ofReplies reply)
    (calls : (b.callsFor i s).map (·.time) = c.calls.map (σ + ·)) :
    b.replyNow i s = (b.rules reply i).reply c.calls.length := by
  have hlen : (b.callsFor i s).length = c.calls.length := by
    rw [← List.length_map (f := Call.time), calls, List.length_map]
  rw [replyNow_ofReplies scripted]
  show reply _ (_ + (b.callsFor i s).length) = reply _ _
  rw [hlen]

/-- A call of a batch that has not stopped ends when its reply is there, and not later. -/
theorem Reachable.now_eq_of_reply (reach : Reachable b s) {retries : UInt32} {permit : Permit} {ends : Nat}
    {answer : Reply} (before : s.phase i = .calling retries permit ends answer) (returns : answer.ending ≠ .never)
    (due : ends ≤ s.now) : s.now = ends := by
  have hle : s.now ≤ ends := reach.timely i ends (by simp [State.wakes?, before, returns])
  exact Nat.le_antisymm hle due

theorem Reachable.now_eq_of_ends (reach : Reachable b s) {retries : UInt32} {permit : Permit} {ends : Nat}
    {answer : Reply} {o : Outcome} (before : s.phase i = .calling retries permit ends answer)
    (ended : Ends s ends answer o) (running : s.stopped = false) : answer.ending = .outcome o ∧ s.now = ends := by
  cases ended with
  | stopped stopped _ => simp [running] at stopped
  | itself o due ending _ => exact ⟨ending, reach.now_eq_of_reply before (by simp [ending]) due⟩

/-- A worker that is at work has no result yet. -/
theorem Reachable.not_hasResult (reach : Reachable b s) (going : s.phase i ≠ .done) (r : FetchResult) :
    ¬HasResult b s i r := fun hr => going (reach.accounted.done_of_hasResult hr)

theorem callsFor_own {call : Call} (h : t.calls = s.calls ++ [call]) (hcall : call.target = b.target i) :
    b.callsFor i t = b.callsFor i s ++ [call] := by
  unfold callsFor
  rw [callsOf_concat h, if_pos (by simp [hcall])]

/-- A call of a worker is the one of its course. -/
theorem follows_called (scripted : b.transport = .ofReplies reply) (hσ : 1000000 ∣ σ)
    (breaker : s.registry.get (b.key i) = c.breaker.after σ)
    (calls : (b.callsFor i s).map (·.time) = c.calls.map (σ + ·)) (hnow : s.now = σ + now) (reach : Reachable b t)
    {retries : UInt32} {permit : Permit} (granted : (b.asked i s).answer = .granted permit)
    (hphase : t.phase i = .calling retries permit (Clock.due s.now (b.replyNow i s).after) (b.replyNow i s))
    (hregistry : t.registry = s.registry.put (b.key i) (b.asked i s).breaker)
    (hcalls : t.calls = s.calls ++ [⟨s.now, b.target i⟩]) :
    Follows b i σ t (c.attempt (b.rules reply i) retries now) := by
  have hasked := asked_eq breaker hnow
  rw [hasked] at granted
  rw [Course.attempt_of_granted (r := b.rules reply i) granted, ← replyNow_eq scripted calls]
  refine ⟨?_, ?_, ?_, fun r hr => absurd hr (reach.not_hasResult (by simp [hphase]) r)⟩
  · rw [hphase, hnow, Clock.due_add hσ]
    rfl
  · rw [hregistry, Registry.get_put, if_pos rfl, hasked]
    rfl
  · rw [callsFor_own hcalls rfl, List.map_append, List.map_append, calls, hnow]
    rfl

/-- And so is a refusal. -/
theorem follows_refused (breaker : s.registry.get (b.key i) = c.breaker.after σ)
    (calls : (b.callsFor i s).map (·.time) = c.calls.map (σ + ·)) (hnow : s.now = σ + now) (acc : Accounted b s)
    (m : Moved b i s t) {retries : UInt32} {d : Span} (refusal : (b.asked i s).answer = .refused d)
    (hphase : t.phase i = .done) (hregistry : t.registry = s.registry.put (b.key i) (b.asked i s).breaker)
    (hcalls : t.calls = s.calls)
    (hexits : t.exits = s.exits ++ [(i, .result (b.resultNow i (.refused ⟨b.key i, d⟩) (retries + 1).toNat s))]) :
    Follows b i σ t (c.attempt (b.rules reply i) retries now) := by
  have hasked := asked_eq breaker hnow
  rw [hasked] at refusal
  rw [Course.attempt_of_refused (r := b.rules reply i) refusal]
  refine ⟨hphase, ?_, ?_, fun r hr => ⟨_, rfl, ?_⟩⟩
  · rw [hregistry, Registry.get_put, if_pos rfl, hasked]
    rfl
  · rw [callsFor, callsOf_congr hcalls]
    exact calls
  · rw [m.eq_resultAt acc hexits hr]
    exact ⟨rfl, rfl, rfl⟩

theorem Early.of_same (h : Early b i s) (phase : t.phase i = .queued ∨ ∃ since wake, t.phase i = .waiting since wake)
    (registry : t.registry = s.registry) (log : t.log = s.log) : Early b i t where
  phase := .inr phase
  breaker := registry ▸ h.breaker
  calls := by
    have hcalls : t.calls = s.calls := congrArg (List.filterMap Event.call?) log
    rw [callsFor, callsOf_congr hcalls]
    exact h.calls

/-- The first attempt of a worker is the beginning of its course. -/
theorem Early.move (h : Early b i s) (scripted : b.transport = .ofReplies reply) (whole : 1000000 ∣ s.now)
    (reach : Reachable b s) (can : s.canMove i = true) (running : s.stopped = false) :
    Early b i (b.move i s) ∨ Follows b i s.now (b.move i s) (Course.run (b.rules reply i) 1) := by
  have reach' := reach.step (.move i can)
  have m := moved_move (b := b) can
  have hi := m.before
  have breaker : s.registry.get (b.key i) = ({} : Course).breaker.after s.now := h.breaker
  have calls : (b.callsFor i s).map (·.time) = ({} : Course).calls.map (s.now + ·) := by
    rw [h.calls]
    rfl
  have hphase := h.phase
  cases m with
  | queued _ _ eq =>
    have ha := agrees_of_unqueued eq
    exact .inl (h.of_same (.inl (phase_self ha.phases hi)) ha.registry ha.log)
  | passed _ _ eq =>
    have ha := agrees_of_unqueued eq
    exact .inl (h.of_same (.inr ⟨_, _, phase_self ha.phases hi⟩) ha.registry ha.log)
  | waits _ _ _ _ _ _ _ eq =>
    have ha := agrees_of_unqueued eq
    exact .inl (h.of_same (.inr ⟨_, _, phase_self ha.phases hi⟩) ha.registry ha.log)
  | called retries bucket es permit starts _ granted eq =>
    have ha := agrees_of_unqueued eq
    cases starts with
    | retry retry wake before => simp [before] at hphase
    | token since wake _ before taken =>
      have starts : Starts b i s 0 bucket _ := .token since wake bucket before taken
      exact .inr (follows_called scripted whole breaker calls rfl reach' granted (phase_self ha.phases hi) ha.registry
        (calls_attempted starts ha.log))
  | refused retries bucket es d starts _ refusal eq =>
    have ha := agrees_of_unqueued eq
    have m : Moved b i s (b.move i s) := .refused retries bucket es d starts running refusal eq
    cases starts with
    | retry retry wake before => simp [before] at hphase
    | token since wake _ before taken =>
      have starts : Starts b i s 0 bucket _ := .token since wake bucket before taken
      have hcalls : (b.move i s).calls = s.calls := (calls_attempted starts ha.log).trans (List.append_nil _)
      exact .inr (follows_refused breaker calls rfl reach.accounted m refusal (phase_self ha.phases hi) ha.registry hcalls
        ha.exits)
  | failed _ _ _ _ _ before _ _ _ => simp [before] at hphase
  | ended _ _ _ _ _ before _ _ _ => simp [before] at hphase
  | brokeOff _ _ _ _ _ before _ _ _ => simp [before] at hphase
  | cancelled _ _ stopped _ => simp [running] at stopped

/-- What is left of a course when a call ends. -/
theorem follows_told {p : Permit} {v : Verdict} {e : Event} {g : Stage} (h : Follows b i σ s c) (hnow : s.now = σ + now)
    (he : e.call? = none) (hphase : t.phase i = g.phase σ)
    (hregistry : t.registry = s.registry.put (b.key i) (b.told i p v s).breaker)
    (hlog : t.log = s.log ++ ([e] ++ b.noted i (b.told i p v s)))
    (result : ∀ r, HasResult b t i r → ∃ e, g = .left e ∧ e.Yields i r) :
    Follows b i σ t { c.tell (b.rules reply i) now p v with stage := g } := by
  refine ⟨hphase, ?_, ?_, result⟩
  · rw [hregistry, Registry.get_put, if_pos rfl, told_eq h.breaker hnow]
    rfl
  · rw [callsFor, callsOf_congr (calls_ended he hlog)]
    exact h.calls

/-- A worker on its course goes on with it, at the time at which it is to go on. -/
theorem Follows.move (h : Follows b i σ s c) (scripted : b.transport = .ofReplies reply) (plain : b.retry.jitter = false)
    (hσ : 1000000 ∣ σ) (reach : Reachable b s) (can : s.canMove i = true) (running : s.stopped = false) :
    Follows b i σ (b.move i s) (c.next (b.rules reply i)) := by
  have reach' := reach.step (.move i can)
  have m := moved_move (b := b) can
  have hi := m.before
  have hphase := h.phase
  have acc := reach.accounted
  obtain ⟨hfresh, hqueued, hwaiting⟩ := Stage.phase_ne_early (g := c.stage) (σ := σ)
  rw [← hphase] at hfresh hqueued hwaiting
  cases m with
  | queued before _ _ => exact absurd before hfresh
  | passed before _ _ => exact (before.elim hfresh hqueued).elim
  | waits since wake _ _ before _ _ _ => exact absurd before (hwaiting since wake)
  | cancelled _ _ stopped _ => simp [running] at stopped
  | called retries bucket es permit starts _ granted eq =>
    have ha := agrees_of_unqueued eq
    have hcalls := calls_attempted starts ha.log
    cases starts with
    | token since wake _ before _ => exact absurd before (hwaiting since wake)
    | retry _ wake before =>
      obtain ⟨w, hstage, rfl⟩ := Stage.eq_due (hphase.symm.trans before)
      have hnow : s.now = σ + w := reach.now_eq_of_retry before can running
      rw [Course.next_of_due hstage]
      exact follows_called scripted hσ h.breaker h.calls hnow reach' granted (phase_self ha.phases hi) ha.registry hcalls
  | refused retries bucket es d starts _ refusal eq =>
    have ha := agrees_of_unqueued eq
    have m : Moved b i s (b.move i s) := .refused retries bucket es d starts running refusal eq
    have hcalls : (b.move i s).calls = s.calls := (calls_attempted starts ha.log).trans (List.append_nil _)
    cases starts with
    | token since wake _ before _ => exact absurd before (hwaiting since wake)
    | retry _ wake before =>
      obtain ⟨w, hstage, rfl⟩ := Stage.eq_due (hphase.symm.trans before)
      have hnow : s.now = σ + w := reach.now_eq_of_retry before can running
      rw [Course.next_of_due hstage]
      exact follows_refused h.breaker h.calls hnow acc m refusal (phase_self ha.phases hi) ha.registry hcalls ha.exits
  | failed retries permit ends answer o before ended again eq =>
    have ha := agrees_of_unqueued eq
    obtain ⟨w, hstage, rfl⟩ := Stage.eq_calling (hphase.symm.trans before)
    obtain ⟨ending, hnow⟩ := reach.now_eq_of_ends before ended running
    have hwake : (b.move i s).phase i = (Stage.due (retries + 1)
        (Clock.timer w (b.retry.delay 0 (retries + 1)))).phase σ := by
      rw [phase_self ha.phases hi, hnow, Clock.timer_add hσ, delay_of_plain plain, delay_of_plain plain]
      rfl
    rw [Course.next_of_failed hstage ending again]
    refine follows_told h hnow rfl hwake ha.registry ha.log fun r hr => ?_
    exact absurd hr (reach'.not_hasResult (by simp [hwake, Stage.phase]) r)
  | ended retries permit ends answer o before ended last eq =>
    have ha := agrees_of_unqueued eq
    have m : Moved b i s (b.move i s) := .ended retries permit ends answer o before ended last eq
    obtain ⟨w, hstage, rfl⟩ := Stage.eq_calling (hphase.symm.trans before)
    obtain ⟨ending, hnow⟩ := reach.now_eq_of_ends before ended running
    rw [Course.next_of_ended hstage ending last]
    refine follows_told h hnow rfl (phase_self ha.phases hi) ha.registry ha.log fun r hr => ⟨_, rfl, ?_⟩
    rw [m.eq_resultAt acc ha.exits hr]
    exact ⟨rfl, rfl, rfl⟩
  | brokeOff retries permit ends answer message before due ending eq =>
    have ha := agrees_of_unqueued eq
    have m : Moved b i s (b.move i s) := .brokeOff retries permit ends answer message before due ending eq
    obtain ⟨w, hstage, rfl⟩ := Stage.eq_calling (hphase.symm.trans before)
    have hnow : s.now = σ + w := reach.now_eq_of_reply before (by simp [ending]) due
    rw [Course.next_of_brokeOff hstage ending]
    refine follows_told h hnow rfl (phase_self ha.phases hi) ha.registry ha.log fun r hr => ⟨_, rfl, ?_⟩
    rw [m.eq_resultAt acc ha.exits hr]
    exact ⟨rfl, rfl⟩

end Moves

/-! ### Every run -/

/-- A worker has not begun its course, or has come to some place on it. -/
def OnCourse (b : Batch) (reply : String → Nat → Reply) (i : Nat) (s : State) : Prop :=
  Early b i s ∨ ∃ σ n, 1000000 ∣ σ ∧ Follows b i σ s (Course.run (b.rules reply i) n)

section Runs
variable {b : Batch} {s t : State} {i σ : Nat} {c : Course} {reply : String → Nat → Reply}

/-- What neither the worker nor its endpoint has a part in does not matter. -/
theorem OnCourse.congr (h : OnCourse b reply i s) (hphase : t.phase i = s.phase i)
    (hget : t.registry.get (b.key i) = s.registry.get (b.key i)) (hcalls : b.callsFor i t = b.callsFor i s)
    (hresult : ∀ r, HasResult b t i r → HasResult b s i r) : OnCourse b reply i t := by
  rcases h with h | ⟨σ, n, hσ, h⟩
  · exact .inl ⟨hphase ▸ h.phase, hget.trans h.breaker, hcalls.trans h.calls⟩
  · exact .inr ⟨σ, n, hσ, hphase.trans h.phase, hget.trans h.breaker, hcalls ▸ h.calls, fun r hr => h.result r (hresult r hr)⟩

theorem OnCourse.move (h : OnCourse b reply i s) (scripted : b.transport = .ofReplies reply)
    (plain : b.retry.jitter = false) (whole : 1000000 ∣ s.now) (reach : Reachable b s) (can : s.canMove i = true)
    (running : s.stopped = false) : OnCourse b reply i (b.move i s) := by
  rcases h with early | ⟨σ, n, hσ, h⟩
  · rcases early.move scripted whole reach can running with early | h
    · exact .inl early
    · exact .inr ⟨s.now, 1, whole, h⟩
  · refine .inr ⟨σ, n + 1, hσ, ?_⟩
    rw [Course.run_succ]
    exact h.move scripted plain hσ reach can running

/-- A worker whose key no other worker has is on its course as long as the batch has not stopped. -/
theorem Reachable.onCourse (scripted : b.transport = .ofReplies reply) (plain : b.retry.jitter = false)
    (whole : ∀ {u}, Reachable b u → 1000000 ∣ u.now) (alone : ∀ j < b.targets.length, j ≠ i → b.key j ≠ b.key i)
    (hi : i < b.targets.length) (reach : Reachable b s) (running : s.stopped = false) : OnCourse b reply i s := by
  induction reach with
  | start => exact .inl ⟨.inl (by simp [State.phase, initial, hi]), rfl, rfl⟩
  | @step s t reach hs ih =>
    cases hs with
    | stop _ => cases running
    | move j can =>
      have m := moved_move (b := b) can
      have running : s.stopped = false := m.frame.2.1 ▸ running
      by_cases hij : j = i
      · subst hij
        exact (ih running).move scripted plain (whole reach) reach can running
      · have hkey := alone j (reach.accounted.lt_of_going m.before) hij
        have htarget : (b.target j == b.target i) = false :=
          beq_false_of_ne fun heq => hkey (congrArg (Endpoint.key b.scope) heq)
        exact (ih running).congr (m.phase_of_ne hij) (m.get_of_ne hkey) (m.callsOf_of_ne htarget)
          fun r hr => m.hasResult_of_ne hij hr
    | collect j e he =>
      exact (ih running).congr rfl rfl (callsOf_congr calls_collect)
        fun r hr => (reach.accounted.hasResult_collect he).mp hr
    | wait later _ _ collected _ _ => exact (ih running).congr rfl rfl rfl fun r hr => hasResult_of_advance collected hr

/-- A worker that has ended has come to the end of its course. -/
theorem OnCourse.of_done (h : OnCourse b reply i s) (done : s.phase i = .done) :
    ∃ σ n e, (Course.run (b.rules reply i) n).stage = .left e ∧ Follows b i σ s (Course.run (b.rules reply i) n) := by
  rcases h with early | ⟨σ, n, -, h⟩
  · rcases early.phase with h | h | ⟨since, wake, h⟩ <;> simp [done] at h
  · obtain ⟨e, he⟩ := Stage.eq_left (h.phase.symm.trans done)
    exact ⟨σ, n, e, he, h⟩

end Runs

/-! ### Results that do not depend on what else there is -/

section Law
variable {i j : Nat} {e : Exit} {r r' : FetchResult}

theorem Exit.Yields.alike (h : e.Yields i r) (h' : e.Yields j r') :
    r.attempts = r'.attempts ∧ Alike i j r.outcome r'.outcome := by
  cases e with
  | result x =>
    obtain ⟨-, outcome, attempts⟩ := h
    obtain ⟨-, outcome', attempts'⟩ := h'
    exact ⟨attempts.trans attempts'.symm, outcome ▸ outcome' ▸ .same _⟩
  | panic message =>
    obtain ⟨outcome, attempts⟩ := h
    obtain ⟨outcome', attempts'⟩ := h'
    exact ⟨attempts.trans attempts'.symm, outcome ▸ outcome' ▸ .brokeOff message⟩

variable {c c' : Config} {targets targets' : List String} {start start' : Nat} {cancelAfter cancelAfter' : Option UInt64}
  {reply : String → Nat → Reply} {earlier : List Call} {draw draw' : Nat → UInt32 → Nat} {b b' : Batch} {s s' : State}
  {target : String}

/-- Targets with keys of their own do not share an endpoint. -/
theorem alone_of_nodup (distinct : (b.targets.map (Endpoint.key b.scope)).Nodup) (hi : i < b.targets.length) :
    ∀ j < b.targets.length, j ≠ i → b.key j ≠ b.key i := by
  rw [← map_target_range b, List.map_map] at distinct
  intro j hj hne heq
  exact hne (List.inj_on_of_nodup_map distinct (List.mem_range.mpr hj) (List.mem_range.mpr hi) heq)

/-- The rules for a target do not depend on the limits of a batch, nor on what else is in it. -/
def rulesOf (c : Config) (reply : String → Nat → Reply) (earlier : List Call) (target : String) : Rules :=
  { target, key := Endpoint.key c.circuitBreaker.scope target, breaker := .ofConfig c.circuitBreaker
    retry := .ofConfig c.retries, reply := fun n => reply target (earlier.countP (·.target == target) + n) }

theorem course_of_done (built : ofConfig? c targets start cancelAfter (.ofReplies reply) earlier draw = some b)
    (plain : c.retries.jitter = false) (whole : 1000000 ∣ start)
    (distinct : (targets.map (Endpoint.key c.circuitBreaker.scope)).Nodup) (reach : Reachable b s)
    (running : s.stopped = false) (done : s.phase i = .done) (hi : targets[i]? = some target) :
    ∃ σ n e r, (Course.run (rulesOf c reply earlier target) n).stage = .left e ∧ e.Yields i r ∧ r.target = target ∧
      (∀ m t, Steps b m s t → HasResult b t i r) ∧
      (s.callsOf (· == target)).map (·.time) =
        (Course.run (rulesOf c reply earlier target) n).calls.map (σ + ·) := by
  have hb := eq_ofConfig built
  have htargets : b.targets = targets := by rw [hb]
  have hscope : b.scope = c.circuitBreaker.scope := by rw [hb]
  have hretry : b.retry = .ofConfig c.retries := by rw [hb]
  have hlt : i < b.targets.length := htargets ▸ (List.getElem?_eq_some_iff.mp hi).1
  have htarget : b.target i = target := by
    unfold Batch.target
    rw [htargets, hi]
    rfl
  have hrules : b.rules reply i = rulesOf c reply earlier target := by
    unfold rules Batch.key
    rw [htarget, hb]
    rfl
  have alone := alone_of_nodup (b := b) (htargets ▸ hscope ▸ distinct) hlt
  have h := reach.onCourse (by rw [hb]) (hretry ▸ plain) (fun reach => reach.dvd_now built whole) alone hlt running
  obtain ⟨σ, n, e, left, h⟩ := h.of_done done
  obtain ⟨r, hr⟩ := reach.accounted.exists_result hlt done
  obtain ⟨e', left', yields⟩ := h.result r hr
  rw [hrules] at left left' h
  cases Stage.left.inj (left.symm.trans left')
  refine ⟨σ, n, e, r, left, yields, ?_, fun m t hs => reach.hasResult_steps hs hr, ?_⟩
  · rw [reach.accounted.target_of_hasResult hr, htarget]
  · rw [← h.calls, callsFor, htarget]

/-- The result of a target whose endpoint no other target of its batch has, in a batch without jitter that is not stopped
    before the target is done, depends on the retries, the breakers and the replies to its own calls only: in any two such
    batches, whatever their limits, their targets and the order of them are, it is the same up to the number of a task
    that broke off and the time that it took, and the calls are made at the same times from some time on. -/
theorem agrees_if_alone
    (built : ofConfig? c targets start cancelAfter (.ofReplies reply) earlier draw = some b)
    (built' : ofConfig? c' targets' start' cancelAfter' (.ofReplies reply) earlier draw' = some b')
    (retries : c'.retries = c.retries) (breaker : c'.circuitBreaker = c.circuitBreaker)
    (plain : c.retries.jitter = false) (whole : 1000000 ∣ start) (whole' : 1000000 ∣ start')
    (distinct : (targets.map (Endpoint.key c.circuitBreaker.scope)).Nodup)
    (distinct' : (targets'.map (Endpoint.key c'.circuitBreaker.scope)).Nodup)
    (reach : Reachable b s) (running : s.stopped = false) (done : s.phase i = .done)
    (reach' : Reachable b' s') (running' : s'.stopped = false) (done' : s'.phase j = .done)
    (hi : targets[i]? = some target) (hj : targets'[j]? = some target) :
    ∃ r r', (∀ n t, Steps b n s t → HasResult b t i r) ∧ (∀ n t, Steps b' n s' t → HasResult b' t j r') ∧
      r.target = target ∧ r'.target = target ∧ r.attempts = r'.attempts ∧ Alike i j r.outcome r'.outcome ∧
      ∃ (σ σ' : Nat) (times : List Nat), (s.callsOf (· == target)).map (·.time) = times.map (σ + ·) ∧
        (s'.callsOf (· == target)).map (·.time) = times.map (σ' + ·) := by
  obtain ⟨σ, n, e, r, left, yields, htarget, stays, calls⟩ := course_of_done built plain whole distinct reach running done hi
  obtain ⟨σ', n', e', r', left', yields', htarget', stays', calls'⟩ :=
    course_of_done built' (retries ▸ plain) whole' distinct' reach' running' done' hj
  have hrules : rulesOf c' reply earlier target = rulesOf c reply earlier target := by
    unfold rulesOf
    rw [retries, breaker]
  rw [hrules] at left' calls'
  have hrun := Course.run_eq_run left left'
  rw [← hrun] at left' calls'
  cases Stage.left.inj (left.symm.trans left')
  obtain ⟨attempts, outcome⟩ := yields.alike yields'
  exact ⟨r, r', stays, stays', htarget, htarget', attempts, outcome, σ, σ', _, calls, calls'⟩

end Law

/-! ### A target that waits behind another one, and the same target alone -/

def calmConfig : Config :=
  { retries := { maxRetries := 2, baseDelayMs := 10 }
    circuitBreaker := { failureThreshold := 2, openDurationMs := 1000, scope := .url } }

/-- One worker at a time, and one token in a second. -/
def tightConfig : Config :=
  { calmConfig with
    rateLimit := { requestsPerSecond := ⟨0x3ff0000000000000⟩, burstSize := 1 }
    dispatch := { maxConcurrency := some 1 } }

/-- One target is fetched within 5 ms; the calls of the other one fail. -/
def partlyDownScript : Script :=
  { replies := [("a", [{ after := Span.ofMillis 5, ending := .outcome (.completed 200 7) }])]
    fallback := { ending := .outcome (.failed .connection "no route") } }

def calm : Batch :=
  { targets := ["b"], start := 0, limits := .ofConfig {}, breaker := .make 2 (Span.ofMillis 1000), scope := .url
    retry := .ofConfig calmConfig.retries, permits := none, transport := partlyDownScript.transport
    deadline := Clock.timer 0 (Span.ofSeconds 30) }

def tight : Batch :=
  { calm with
    targets := ["a", "b"], limits := .ofConfig tightConfig.rateLimit, permits := some 1 }

theorem built_calm :
    ofConfig? calmConfig ["b"] 0 none (.ofReplies partlyDownScript.reply) [] (fun _ _ => 0) = some calm := rfl

theorem built_tight :
    ofConfig? tightConfig ["a", "b"] 0 none (.ofReplies partlyDownScript.reply) [] (fun _ _ => 0) = some tight := rfl

def calmEnd : State := calm.run 12 calm.initial

def tightEnd : State := tight.run 20 tight.initial

/-- The breaker of the target that is down refuses the third attempt, with the same words a second later. -/
theorem agrees_if_alone_tight :
    (∃ r r', HasResult tight tightEnd 1 r ∧ HasResult calm calmEnd 0 r' ∧ r.attempts = r'.attempts ∧
      Alike 1 0 r.outcome r'.outcome) ∧
    (tightEnd.callsOf (· == "b")).map (·.time) = [1000000000, 1010000000] ∧
    (calmEnd.callsOf (· == "b")).map (·.time) = [0, 10000000] := by
  have reach : Reachable tight tightEnd := Reachable.start.run 20
  have reach' : Reachable calm calmEnd := Reachable.start.run 12
  have running : tightEnd.stopped = false ∧ tightEnd.phase 1 = .done := by decide +kernel
  have running' : calmEnd.stopped = false ∧ calmEnd.phase 0 = .done := by decide +kernel
  obtain ⟨r, r', stays, stays', -, -, attempts, outcome, -⟩ :=
    agrees_if_alone built_tight built_calm rfl rfl rfl (by decide) (by decide) (by decide) (by decide) reach running.1
      running.2 reach' running'.1 running'.2 (i := 1) (j := 0) rfl rfl
  refine ⟨⟨r, r', stays 0 _ .refl, stays' 0 _ .refl, attempts, outcome⟩, ?_, ?_⟩
  · decide +kernel
  · decide +kernel

end Batch

end BatchFetch
