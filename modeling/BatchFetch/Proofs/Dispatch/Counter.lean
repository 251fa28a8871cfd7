import BatchFetch.Config.Violation
import BatchFetch.Proofs.Dispatch.Course
import BatchFetch.Proofs.Dispatch.Tally

/-! # The counter of attempts

A worker counts its retries with 32 bits, and the number of an attempt is one more. The retry policy never lets the count
of retries pass the most retries that are configured. So the number of an attempt fits too, but for the last attempt under
the largest number of retries there is: that one has the number zero. A worker that never gives up comes to it. -/

namespace BatchFetch.Batch

/-! ### What is counted -/

section Law
variable {c : Config} {targets : List String} {start : Nat} {cancelAfter : Option UInt64} {transport : Transport}
  {earlier : List Call} {draw : Nat → UInt32 → Nat} {b : Batch} {s t : State} {i : Nat}

/-- A worker makes no more attempts than its retries and one. -/
theorem Reckoned.length_le (h : Reckoned b i s) : (attempts i s.log).length ≤ b.retry.maxRetries.toNat + 1 := by
  unfold Reckoned at h
  cases hp : s.phase i with
  | fresh | queued | waiting =>
    simp only [hp] at h
    simp [h.2]
  | calling retries permit ends reply =>
    simp only [hp] at h
    have hle : retries.toNat ≤ b.retry.maxRetries.toNat := UInt32.le_iff_toNat_le.mp h.2.2
    omega
  | backingOff retry wake =>
    simp only [hp] at h
    have hle : retry.toNat ≤ b.retry.maxRetries.toNat := UInt32.le_iff_toNat_le.mp h.2.2.2
    omega
  | done =>
    simp only [hp] at h
    exact h.2.1

/-- A worker that goes on after a wait makes one attempt more. -/
theorem Moved.length_attempts (m : Moved b i s t) {retry : UInt32} {wake : Nat} (before : s.phase i = .backingOff retry wake)
    (running : s.stopped = false) : (attempts i t.log).length = (attempts i s.log).length + 1 := by
  cases m with
  | called _ _ _ _ starts _ _ eq | refused _ _ _ _ starts _ _ eq =>
    rw [(agrees_of_unqueued eq).log, attempts_started starts, Event.record, if_pos rfl, List.length_append,
      List.length_singleton]
  | cancelled _ _ stopped _ => simp [running] at stopped
  | passed early _ _ => simp [before] at early
  | queued hp | waits _ _ _ _ hp | failed _ _ _ _ _ hp | ended _ _ _ _ _ hp | brokeOff _ _ _ _ _ hp => simp [before] at hp

/-- The counter of a worker, whatever comes of its attempts. During an attempt the count of retries and one is the number of
    the attempts so far, which the counter can hold unless these are two to the power of 32; if the attempt is repeated,
    it can. During a wait the count of retries is the number of the attempts, and no more than the most retries. A result
    tells the number of the attempts, but one where none was made, or two to the power of 32; these can be made only with
    the largest number of retries. -/
theorem counter_of_worker (built : ofConfig? c targets start cancelAfter transport earlier draw = some b)
    (reach : Reachable b s) (i : Nat) :
    let made := (attempts i s.log).length
    (∀ retries permit ends reply, s.phase i = .calling retries permit ends reply →
      retries.toNat + 1 = made ∧ ((retries + 1).toNat = made ↔ made ≠ 4294967296) ∧
        ∀ kind, (RetryPolicy.ofConfig c.retries).shouldRetry retries kind = true → (retries + 1).toNat = made) ∧
    (∀ retry wake, s.phase i = .backingOff retry wake → retry.toNat = made ∧ made ≤ c.retries.maxRetries.toNat) ∧
    (∀ r, HasResult b s i r →
      (∃ t m, .brokeOff i t m ∈ s.log) ∨ r.attempts = if made = 4294967296 then 1 else max made 1) ∧
    made ≤ c.retries.maxRetries.toNat + 1 ∧ (c.retries.maxRetries ≠ 4294967295 → made < 4294967296) := by
  obtain ⟨-, -, hretry, -⟩ := eq_of_built built
  have hmost : b.retry.maxRetries = c.retries.maxRetries := congrArg RetryPolicy.maxRetries hretry
  have h := reach.reckoned i
  intro made
  have hle : made ≤ c.retries.maxRetries.toNat + 1 := hmost ▸ h.length_le
  have hlt := c.retries.maxRetries.toNat_lt
  refine ⟨fun retries permit ends reply before => ?_, fun retry wake before => ?_, fun r hr => ?_, hle, fun few => ?_⟩
  · obtain ⟨-, hlen, -⟩ := h.during before
    have hsum : (retries + 1).toNat = (retries.toNat + 1) % 4294967296 := UInt32.toNat_add ..
    refine ⟨hlen.symm, ?_, fun kind again => ?_⟩
    · rw [hsum, ← hlen]
      omega
    · exact (toNat_succ_of_shouldRetry again).1.trans hlen.symm
  · simp only [Reckoned, before] at h
    obtain ⟨-, hlen, -, hretries⟩ := h
    refine ⟨hlen.symm, hlen.trans_le ?_⟩
    rw [← hmost]
    exact UInt32.le_iff_toNat_le.mp hretries
  · have done := reach.accounted.done_of_hasResult hr
    simp only [Reckoned, done] at h
    refine (h.2.2 r hr).imp_right fun reports => reports.attempts.trans ?_
    have hbound : made ≤ 4294967296 := by omega
    split <;> omega
  · have hne : c.retries.maxRetries.toNat ≠ 4294967295 := fun heq => few (UInt32.toNat_inj.mp heq)
    omega

end Law

/-- A target that is reached at the third attempt. -/
theorem counter_of_worker_flaky : HasResult flaky flakyEnd 0 flakyResult ∧ (attempts 0 flakyEnd.log).length = 3 := by
  have hdelivered : HasResult flaky flakyEnd 0 flakyResult := .inl (by decide +kernel)
  have hsound : flakyEnd.log.countP Event.isBreak = 0 := by decide +kernel
  obtain ⟨-, -, hresult, hle, -⟩ := counter_of_worker built_flaky reachable_flakyEnd 0
  refine ⟨hdelivered, ?_⟩
  rcases hresult flakyResult hdelivered with ⟨t, m, hmem⟩ | hattempts
  · exact absurd rfl (List.countP_eq_zero.mp hsound _ hmem)
  · have hthree : flakyResult.attempts = 3 := rfl
    have hfew : flakyConfig.retries.maxRetries.toNat = 2 := rfl
    rw [hthree] at hattempts
    split at hattempts <;> omega

/-! ### A worker that never gives up -/

/-- As many retries as failures that open a breaker, and no wait between them. -/
def tirelessConfig (n : UInt32) : Config :=
  { retries := { maxRetries := n, baseDelayMs := 0 }, circuitBreaker := { failureThreshold := n, scope := .url } }

/-- A call fails at once. -/
def refusing : Reply := { ending := .outcome (.failed .connection "refused") }

/-- A batch whose only target can never be reached. -/
def tireless (n : UInt32) : Batch :=
  { targets := ["a"], start := 0, limits := .ofConfig {}, breaker := .ofConfig (tirelessConfig n).circuitBreaker
    scope := .url, retry := .ofConfig (tirelessConfig n).retries, permits := none
    transport := .ofReplies fun _ _ => refusing, deadline := Clock.timer 0 (Span.ofSeconds 30) }

def tirelessRules (n : UInt32) : Rules := (tireless n).rules (fun _ _ => refusing) 0

/-- A worker after so many failures, in its next call. -/
structure Trying (k : Nat) (c : Course) : Prop where
  stage : c.stage = .calling (.ofNat k) ⟨0, false⟩ 0 refusing
  state : c.breaker.state = .closed
  window : c.breaker.window = 0
  failures : c.breaker.failures = k

/-- A worker on its course from the start of its batch, which has not stopped and in which no time has passed. -/
structure AtStart (b : Batch) (i : Nat) (s : State) (c : Course) : Prop where
  reach : Reachable b s
  running : s.stopped = false
  now : s.now = 0
  follows : Follows b i 0 s c

section Tireless
variable {n : UInt32} {s : State} {b : Batch} {i k : Nat} {c : Course}

theorem built_tireless (n : UInt32) :
    ofConfig? (tirelessConfig n) ["a"] 0 none (.ofReplies fun _ _ => refusing) [] (fun _ _ => 0) = some (tireless n) := rfl

theorem isValid_tirelessConfig (hn : n ≠ 0) : (tirelessConfig n).isValid = true := by
  have standard : ({} : Config).isValid = true := by decide +kernel
  obtain ⟨rate, burst, -, -, openDuration, concurrency, rest⟩ := Config.isValid_iff.mp standard
  exact Config.isValid_iff.mpr ⟨rate, burst, rfl, hn, openDuration, concurrency, rest⟩

/-! The course of its worker is one failure after another, until its breaker opens. -/

theorem timer_tireless (retry : UInt32) : Clock.timer 0 ((tirelessRules n).retry.delay 0 retry) = 0 := by
  have hdelay : (tirelessRules n).retry.delay 0 retry = Span.zero := by
    show Backoff.delay retry (Span.ofMillis 0) none = Span.zero
    unfold Backoff.delay
    split
    · rfl
    · exact Span.ext (by simp)
  rw [hdelay]
  rfl

theorem due_refusing : Clock.due 0 refusing.after = 0 := rfl

theorem attempt_tireless (retry : UInt32) (state : c.breaker.state = .closed) (window : c.breaker.window = 0) :
    c.attempt (tirelessRules n) retry 0 =
      { stage := .calling retry ⟨0, false⟩ 0 refusing, breaker := c.breaker, calls := c.calls ++ [0] } := by
  have asked : c.breaker.ask (tirelessRules n).breaker 0 =
      { answer := .granted ⟨c.breaker.window, false⟩, breaker := c.breaker } := Breaker.ask_closed state
  have hreply : (tirelessRules n).reply c.calls.length = refusing := rfl
  rw [Course.attempt_of_granted (congrArg Breaker.Turn.answer asked), asked, window, hreply, due_refusing]

theorem trying_first : Trying 0 (Course.run (tirelessRules n) 1) := by
  have hfirst : Course.run (tirelessRules n) 1 = ({} : Course).attempt (tirelessRules n) 0 0 := rfl
  rw [hfirst, attempt_tireless 0 rfl rfl]
  exact ⟨rfl, rfl, rfl, rfl⟩

theorem shouldRetry_tireless (hk : k < n.toNat) : (tirelessRules n).retry.shouldRetry (.ofNat k) .connection = true := by
  have hlt : UInt32.ofNat k < n := by
    rw [UInt32.lt_iff_toNat_lt, UInt32.toNat_ofNat_of_lt' (hk.trans n.toNat_lt)]
    exact hk
  show (decide (UInt32.ofNat k < n) && true) = true
  rw [decide_eq_true hlt]
  rfl

/-- A failure is repeated as long as there are retries, and the last of these failures opens the breaker. -/
theorem Trying.next (h : Trying k c) (hk : k < n.toNat) :
    (c.next (tirelessRules n)).stage = .due (.ofNat (k + 1)) 0 ∧
      (c.next (tirelessRules n)).breaker =
        if k + 1 < n.toNat then { c.breaker with failures := k + 1, lastFailure := some 0 }
        else ({ c.breaker with failures := k + 1, lastFailure := some 0 } : Breaker).moveTo .opened := by
  have again : (Outcome.failed .connection "refused").kind.any ((tirelessRules n).retry.shouldRetry (.ofNat k)) = true :=
    shouldRetry_tireless hk
  rw [Course.next_of_failed h.stage rfl again, timer_tireless]
  refine ⟨congrArg (Stage.due · 0) (UInt32.ofNat_add ..).symm, ?_⟩
  have hthreshold : (tirelessRules n).breaker.threshold = n.toNat := Nat.max_eq_left (Nat.zero_lt_of_lt hk)
  have hcount : min (k + 1) Breaker.maxFailures = k + 1 := by
    have hmost := n.toNat_lt
    exact Nat.min_eq_left (show k + 1 ≤ 4294967295 by omega)
  show (c.breaker.report (tirelessRules n).breaker 0 ⟨0, false⟩ .failure).breaker = _
  rw [Breaker.report_failure, h.state, h.failures, hthreshold, hcount]
  by_cases more : k + 1 < n.toNat
  · rw [if_pos more, if_neg (by simpa using more)]
    rfl
  · rw [if_neg more, if_pos (by simpa using more)]
    rfl

theorem Trying.again (h : Trying k c) (hk : k + 1 < n.toNat) :
    Trying (k + 1) ((c.next (tirelessRules n)).next (tirelessRules n)) := by
  obtain ⟨due, hbreaker⟩ := h.next (Nat.lt_of_succ_lt hk)
  rw [if_pos hk] at hbreaker
  rw [Course.next_of_due due, attempt_tireless _ (hbreaker ▸ h.state) (hbreaker ▸ h.window), hbreaker]
  exact ⟨rfl, h.state, h.window, rfl⟩

/-- The attempt after the last retry is refused. -/
theorem Trying.last (h : Trying k c) (hk : k + 1 = n.toNat) :
    (c.next (tirelessRules n)).stage = .due n 0 ∧
      ∃ r, ((c.next (tirelessRules n)).next (tirelessRules n)).stage = .left (.result r) ∧
        r.attempts = max (n + 1).toNat 1 ∧ r.outcome.kind = some .circuitOpen := by
  obtain ⟨due, hbreaker⟩ := h.next (n := n) (by omega)
  rw [if_neg (by omega)] at hbreaker
  rw [hk, UInt32.ofNat_toNat] at due
  have opened : (c.next (tirelessRules n)).breaker.state = .opened := by
    rw [hbreaker]
    rfl
  have hot : (c.next (tirelessRules n)).breaker.cooled (tirelessRules n).breaker 0 = false := by
    rw [hbreaker]
    rfl
  refine ⟨due, ?_⟩
  rw [Course.next_of_due due, Course.attempt_of_refused (congrArg Breaker.Turn.answer (Breaker.ask_opened opened hot))]
  exact ⟨_, rfl, rfl, rfl⟩

/-! The batch comes along with the course. -/

theorem AtStart.move (h : AtStart (tireless n) 0 s c) (can : s.canMove 0 = true) :
    AtStart (tireless n) 0 ((tireless n).move 0 s) (c.next (tirelessRules n)) := by
  have frame := (moved_move (b := tireless n) can).frame
  exact ⟨h.reach.step (.move 0 can), frame.2.1.trans h.running, frame.1.trans h.now,
    h.follows.move rfl rfl (Nat.dvd_zero _) h.reach can h.running⟩

theorem AtStart.canMove_of_calling (h : AtStart b i s c) {retries : UInt32} {permit : Permit} {reply : Reply}
    (stage : c.stage = .calling retries permit 0 reply) (returns : reply.ending ≠ .never) : s.canMove i = true := by
  have hphase := h.follows.phase
  rw [stage] at hphase
  simp [State.canMove, hphase, Stage.phase, returns]

theorem AtStart.canMove_of_due (h : AtStart b i s c) {retry : UInt32} (stage : c.stage = .due retry 0) :
    s.canMove i = true := by
  have hphase := h.follows.phase
  rw [stage] at hphase
  simp [State.canMove, hphase, Stage.phase]

/-- A worker that finds a token makes its first attempt. -/
theorem move_of_token {since wake : Nat} {bucket : Bucket} (before : s.phase i = .waiting since wake)
    (running : s.stopped = false) (taken : s.bucket.take b.limits s.now = (.granted, bucket)) :
    b.move i s = b.attempt i 0 ({ s with bucket }.note [.tokenTaken i (Clock.since s.now since)]) := by
  unfold move look
  simp only [before, running, taken]
  rfl

theorem exists_atStart (n : UInt32) : ∃ s, AtStart (tireless n) 0 s (Course.run (tirelessRules n) 1) := by
  -- The gate is open, and the bucket full.
  let s := (tireless n).initial.enter 0 (.waiting 0 0)
  have reach : Reachable (tireless n) s := Reachable.start.step (.move 0 rfl)
  have early : Early (tireless n) 0 s := ⟨.inr (.inr ⟨0, 0, rfl⟩), rfl, rfl⟩
  obtain ⟨bucket, taken⟩ : ∃ bucket, s.bucket.take (tireless n).limits 0 = (.granted, bucket) :=
    ⟨_, Prod.ext (show ((Bucket.full (.ofConfig {}) 0).take (.ofConfig {}) 0).1 = .granted by decide +kernel) rfl⟩
  obtain ⟨permit, ends, reply, begun⟩ : ∃ permit ends reply,
      ((tireless n).move 0 s).phase 0 = .calling 0 permit ends reply := by
    rw [move_of_token (s := s) rfl rfl taken, State.phase, (agrees_of_unqueued (unqueued_attempt_of_granted rfl)).phases]
    exact ⟨_, _, _, rfl⟩
  have frame := (moved_move (b := tireless n) (show s.canMove 0 = true from rfl)).frame
  refine ⟨(tireless n).move 0 s, reach.step (.move 0 rfl), frame.2.1, frame.1, ?_⟩
  have scripted : (tireless n).transport = .ofReplies fun _ _ => refusing := rfl
  refine (early.move scripted (Nat.dvd_zero _) reach rfl rfl).resolve_left fun still => ?_
  have hphase := still.phase
  rw [begun] at hphase
  simp at hphase

/-- The worker comes to every failure before the last one. -/
theorem exists_trying (hk : k < n.toNat) : ∃ s c, AtStart (tireless n) 0 s c ∧ Trying k c := by
  induction k with
  | zero =>
    obtain ⟨s, h⟩ := exists_atStart n
    exact ⟨s, _, h, trying_first⟩
  | succ k ih =>
    obtain ⟨s, c, h, trying⟩ := ih (Nat.lt_of_succ_lt hk)
    have failed := h.move (h.canMove_of_calling trying.stage nofun)
    have can := failed.canMove_of_due (trying.next (Nat.lt_of_succ_lt hk)).1
    exact ⟨_, _, failed.move can, trying.again hk⟩

/-- With a positive number of retries the worker makes that many attempts and one more, and its result tells how many as far
    as 32 bits can. -/
theorem exists_result_tireless (hn : n ≠ 0) :
    ∃ s r, Reachable (tireless n) s ∧ s.stopped = false ∧ s.phase 0 = .backingOff n 0 ∧ s.canMove 0 = true ∧
      (attempts 0 ((tireless n).move 0 s).log).length = n.toNat + 1 ∧ HasResult (tireless n) ((tireless n).move 0 s) 0 r ∧
      r.attempts = max (n + 1).toNat 1 ∧ r.outcome.kind = some .circuitOpen := by
  obtain ⟨k, hk⟩ : ∃ k, n.toNat = k + 1 := Nat.exists_eq_succ_of_ne_zero fun h => hn (UInt32.toNat_inj.mp h)
  obtain ⟨s, c, h, trying⟩ := exists_trying (n := n) (k := k) (by omega)
  obtain ⟨due, result, left, told, refused⟩ := trying.last hk.symm
  have failed := h.move (h.canMove_of_calling trying.stage nofun)
  have can := failed.canMove_of_due due
  have gone := failed.move can
  have before : ((tireless n).move 0 s).phase 0 = .backingOff n 0 := by
    rw [failed.follows.phase, due]
    rfl
  -- Before the wait there were as many attempts as retries, and the refused one comes after it.
  have made := failed.reach.reckoned 0
  simp only [Reckoned, before] at made
  have done : ((tireless n).move 0 ((tireless n).move 0 s)).phase 0 = .done := by
    rw [gone.follows.phase, left]
    rfl
  obtain ⟨r, hr⟩ := gone.reach.accounted.exists_result (show 0 < 1 by decide) done
  obtain ⟨e, left', yields⟩ := gone.follows.result r hr
  cases Stage.left.inj (left.symm.trans left')
  refine ⟨_, r, failed.reach, failed.running, before, can, ?_, hr, yields.2.2.trans told, ?_⟩
  · rw [(moved_move can).length_attempts before failed.running, made.2.1]
  · rw [yields.2.1]
    exact refused

/-- A batch of one target is over when its worker is collected. -/
theorem isOver_collect {e : Exit} (acc : Accounted b s) (single : b.targets.length = 1) (done : s.phase 0 = .done)
    (he : (0, e) ∈ s.exits) : (b.collect 0 e s).isOver = true := by
  have acc' := acc.collect he
  have first : ∀ {i}, i < b.targets.length → i = 0 := fun hi => Nat.lt_one_iff.mp (single ▸ hi)
  unfold State.isOver
  rw [Bool.and_eq_true, List.all_eq_true, List.isEmpty_iff]
  constructor
  · intro p hp
    obtain ⟨i, hi, rfl⟩ := List.mem_iff_getElem.mp hp
    have hphase : s.phase i = .done := by
      by_contra going
      exact going (first (acc.lt_of_going going) ▸ done)
    have hi : i < s.phases.length := hi
    have hp : s.phases[i] = .done := by simpa [State.phase, hi] using hphase
    exact beq_iff_eq.mpr hp
  · refine List.eq_nil_iff_forall_not_mem.mpr fun x he' => ?_
    obtain ⟨i, e'⟩ := x
    obtain rfl := first (acc'.lt_of_exit he')
    have hexit := count_exits_pos he'
    have hdelivered : 0 < ((b.collect 0 e s).delivered.map (·.1)).count 0 := by
      rw [delivered_collect, List.map_append]
      exact List.count_pos_iff.mpr (List.mem_append_right _ List.mem_cons_self)
    have honce := acc'.once 0
    rw [single, if_pos Nat.one_pos] at honce
    omega

/-- The batch of such a worker ends with its result. -/
theorem exists_end_tireless (hn : n ≠ 0) :
    ∃ s r, Reachable (tireless n) s ∧ s.isOver = true ∧ s.delivered = [(0, r)] ∧
      (attempts 0 s.log).length = n.toNat + 1 ∧ r.attempts = max (n + 1).toNat 1 ∧ r.outcome.kind = some .circuitOpen := by
  obtain ⟨s, r, reach, -, before, can, made, hr, told, refused⟩ := exists_result_tireless hn
  have m := moved_move (b := tireless n) can
  have reach' : Reachable (tireless n) ((tireless n).move 0 s) := reach.step (.move 0 can)
  have done := reach'.accounted.done_of_hasResult hr
  obtain ⟨e, he⟩ : ∃ e, (0, e) ∈ ((tireless n).move 0 s).exits := by
    cases m.leaves with
    | going still => exact absurd done still
    | ended e _ exits _ => exact ⟨e, exits ▸ List.mem_append_right _ List.mem_cons_self⟩
  have last : Step (tireless n) ((tireless n).move 0 s) ((tireless n).collect 0 e ((tireless n).move 0 s)) :=
    .collect 0 e he
  have ended := isOver_collect reach'.accounted rfl done he
  have hmem := (hasResult_iff_of_isOver ended).mp (reach'.hasResult_step last hr)
  refine ⟨_, r, reach'.step last, ended, ?_, ?_, told, refused⟩
  · have hlength : ((tireless n).collect 0 e ((tireless n).move 0 s)).delivered.length = 1 := by
      rw [← List.length_map (·.1), ((reach'.step last).accounted.perm_of_isOver ended).length_eq]
      rfl
    obtain ⟨x, hx⟩ := List.length_eq_one_iff.mp hlength
    rw [hx, List.mem_singleton] at hmem
    rw [hx, hmem]
  · have hlog : ((tireless n).collect 0 e ((tireless n).move 0 s)).log =
        ((tireless n).move 0 s).log ++ [.finished 0 ((tireless n).resultOf 0 ((tireless n).move 0 s) e)] := rfl
    rw [hlog, attempts_append]
    exact made

end Tireless

/-- With the largest number of retries, which the check lets pass, a worker comes to attempt number two to the power of 32.
    The counter does not hold that number, and the result tells of one attempt. -/
theorem counter_wraps :
    (tirelessConfig 4294967295).isValid = true ∧
      ofConfig? (tirelessConfig 4294967295) ["a"] 0 none (.ofReplies fun _ _ => refusing) [] (fun _ _ => 0) =
        some (tireless 4294967295) ∧
      ∃ s r, Reachable (tireless 4294967295) s ∧ s.stopped = false ∧ s.phase 0 = .backingOff 4294967295 0 ∧
        s.canMove 0 = true ∧ (4294967295 : UInt32) + 1 = 0 ∧
        (attempts 0 ((tireless 4294967295).move 0 s).log).length = 4294967296 ∧
        HasResult (tireless 4294967295) ((tireless 4294967295).move 0 s) 0 r ∧ r.attempts = 1 := by
  obtain ⟨s, r, reach, running, before, can, made, hr, told, -⟩ := exists_result_tireless (n := 4294967295) (by decide)
  exact ⟨isValid_tirelessConfig (by decide), built_tireless _, s, r, reach, running, before, can, by decide, made, hr, told⟩

end BatchFetch.Batch
