import BatchFetch.Proofs.Dispatch.Timing
import Mathlib.Data.List.ModifyLast

/-! # The attempts of a worker

A worker makes one attempt after another. Each of them is a call, or is refused by the breaker, and all of them
can be read off the log. A further attempt is made only after a failure that the retry policy repeats, at the
time at which the wait for that retry is over; and what the worker leaves in the end is the outcome of
its latest attempt, or that it was cancelled. -/

namespace BatchFetch.Batch

/-- An attempt of a worker: when it started and, if it has ended, when and with what outcome. -/
structure Attempt where
  start : Nat
  ended : Option (Nat × Outcome) := none
deriving DecidableEq, Repr

/-- What an event means for the attempts of a worker. A refused attempt ends when it starts. -/
def Event.record (i : Nat) (as : List Attempt) : Event → List Attempt
  | .called j call _ _ => if j = i then as ++ [{ start := call.time }] else as
  | .refused j t r => if j = i then as ++ [{ start := t, ended := some (t, .refused r) }] else as
  | .ended j t o => if j = i then as.modifyLast fun a => { a with ended := some (t, o) } else as
  | .tokenTaken _ _ | .brokeOff _ _ _ | .breaker _ _ | .finished _ _ => as

/-- The attempts of a worker in their order. -/
def attempts (i : Nat) (log : List Event) : List Attempt := log.foldl (Event.record i) []

/-! ### Reading the log -/

section Log
variable {b : Batch} {s t : State} {i j now : Nat} {log es : List Event}

theorem attempts_append : attempts i (log ++ es) = es.foldl (Event.record i) (attempts i log) := by
  unfold attempts
  rw [List.foldl_append]

theorem foldl_record_of_same {as : List Attempt} (h : ∀ e ∈ es, ∀ as, Event.record i as e = as) :
    es.foldl (Event.record i) as = as := by
  induction es with
  | nil => rfl
  | cons e es ih =>
    rw [List.foldl_cons, h e (by simp)]
    exact ih fun e' he' => h e' (by simp [he'])

theorem record_of_isOf {e : Event} (h : e.IsOf j) (hij : j ≠ i) (as : List Attempt) : Event.record i as e = as := by
  cases e with
  | called k call key trial => exact if_neg fun hk => hij ((h : k = j).symm.trans hk)
  | refused k t r => exact if_neg fun hk => hij ((h : k = j).symm.trans hk)
  | ended k t o => exact if_neg fun hk => hij ((h : k = j).symm.trans hk)
  | tokenTaken | brokeOff | breaker | finished => rfl

/-- The attempts of a worker are its own affair. -/
theorem Rests.attempts (h : Rests b i s t) : attempts i t.log = attempts i s.log := by
  obtain ⟨es, hlog, hes⟩ := h.log
  rw [hlog, attempts_append]
  refine foldl_record_of_same fun e he as => ?_
  rcases hes e he with ⟨j, hij, isOf⟩ | delivered
  · exact record_of_isOf isOf hij as
  · cases e with
    | finished => rfl
    | tokenTaken | refused | called | ended | brokeOff | breaker => cases delivered

theorem record_noted {α : Type} {turn : Breaker.Turn α} :
    ∀ e ∈ b.noted i turn, ∀ as, Event.record j as e = as := by
  intro e he as
  obtain ⟨n, -, rfl⟩ := List.mem_map.mp he
  rfl

theorem Starts.record {retries : UInt32} {bucket : Bucket} (h : Starts b i s retries bucket es) :
    ∀ e ∈ es, ∀ as, Event.record j as e = as := by
  cases h <;> simp [Event.record]

/-- An attempt is logged after what comes with it. -/
theorem attempts_started {retries : UInt32} {bucket : Bucket} {α : Type} {turn : Breaker.Turn α} {e : Event}
    (h : Starts b i s retries bucket es) :
    attempts i (log ++ (es ++ b.noted i turn ++ [e])) = Event.record i (attempts i log) e := by
  rw [attempts_append, List.foldl_append, List.foldl_append, foldl_record_of_same h.record,
    foldl_record_of_same record_noted]
  rfl

theorem attempts_ended {α : Type} {turn : Breaker.Turn α} {e : Event} :
    attempts i (log ++ ([e] ++ b.noted i turn)) = Event.record i (attempts i log) e := by
  rw [attempts_append, List.foldl_append, foldl_record_of_same record_noted]
  rfl

/-- The end of a call is the end of the latest attempt. -/
theorem attempts_completed {as : List Attempt} {start : Nat} {o : Outcome} {α : Type} {turn : Breaker.Turn α}
    (h : attempts i log = as ++ [{ start := start }]) :
    attempts i (log ++ ([.ended i now o] ++ b.noted i turn)) = as ++ [{ start, ended := some (now, o) }] := by
  rw [attempts_ended, h]
  exact (if_pos rfl).trans (List.modifyLast_concat ..)

end Log

/-! ### One attempt after another -/

/-- An attempt is the one after `k` others, ended with a failure that is repeated, and is followed by one that starts
    when the wait for it is over. -/
def Repeats (p : RetryPolicy) (k : Nat) (a a' : Attempt) : Prop :=
  ∃ t o kind, a.ended = some (t, o) ∧ o.kind = some kind ∧ p.shouldRetry (.ofNat k) kind = true ∧
    a'.start = Clock.timer t (p.delay 0 (.ofNat (k + 1)))

def EachRepeats (p : RetryPolicy) (as : List Attempt) : Prop :=
  ∀ k a a', as[k]? = some a → as[k + 1]? = some a' → Repeats p k a a'

/-- How attempts and the result of their worker fit together: it has the outcome of the latest attempt, which is not
    repeated, or it was cancelled. -/
def Concludes (p : RetryPolicy) (as : List Attempt) (r : FetchResult) : Prop :=
  (∃ a t, as.getLast? = some a ∧ a.ended = some (t, r.outcome) ∧ r.attempts = as.length ∧
    ∀ kind, r.outcome.kind = some kind → p.shouldRetry (.ofNat (as.length - 1)) kind = false) ∨
  r.outcome = .cancelled ∧ r.attempts = max as.length 1

section Lists
variable {p : RetryPolicy} {as : List Attempt} {a a' : Attempt}

theorem eachRepeats_nil : EachRepeats p [] := by
  intro k a a' h
  simp at h

theorem eachRepeats_concat :
    EachRepeats p (as ++ [a]) ↔ EachRepeats p as ∧ ∀ before l, as = before ++ [l] → Repeats p before.length l a := by
  constructor
  · intro h
    refine ⟨fun k x x' hx hx' => ?_, ?_⟩
    · refine h k x x' ?_ ?_
      · rw [List.getElem?_append_left (List.getElem?_eq_some_iff.mp hx).1, hx]
      · rw [List.getElem?_append_left (List.getElem?_eq_some_iff.mp hx').1, hx']
    · rintro before l rfl
      exact h before.length l a (by simp) (by simp)
  · rintro ⟨h, hlast⟩ k x x' hx hx'
    have hlt := (List.getElem?_eq_some_iff.mp hx').1
    rw [List.length_append, List.length_singleton] at hlt
    rw [List.getElem?_append_left (by omega)] at hx
    by_cases hk : k + 1 < as.length
    · rw [List.getElem?_append_left hk] at hx'
      exact h k x x' hx hx'
    · -- The two are the last of the old list and the new one.
      rcases List.eq_nil_or_concat as with rfl | ⟨before, l, rfl⟩
      · simp at hx
      · have hlen : (before.concat l).length = before.length + 1 := by simp
        obtain rfl : k = before.length := by omega
        have hx : l = x := by simpa using hx
        have hx' : a = x' := by simpa [List.getElem?_append] using hx'
        rw [← hx, ← hx']
        exact hlast before l (by simp)

theorem EachRepeats.last (h : EachRepeats p (as ++ [a])) (hstart : a'.start = a.start) : EachRepeats p (as ++ [a']) := by
  obtain ⟨hold, hlast⟩ := eachRepeats_concat.mp h
  refine eachRepeats_concat.mpr ⟨hold, fun before l heq => ?_⟩
  obtain ⟨t, o, kind, hended, hkind, hretry, hnext⟩ := hlast before l heq
  exact ⟨t, o, kind, hended, hkind, hretry, hstart.trans hnext⟩

theorem toNat_succ {n : UInt32} (h : n.toNat + 1 < 4294967296) : (n + 1).toNat = n.toNat + 1 := by
  rw [UInt32.toNat_add]
  exact Nat.mod_eq_of_lt h

theorem toNat_succ_of_le (few : p.maxRetries.toNat < 4294967295) {n : UInt32} (h : n ≤ p.maxRetries) :
    (n + 1).toNat = n.toNat + 1 := by
  have hle : n.toNat ≤ p.maxRetries.toNat := UInt32.le_iff_toNat_le.mp h
  exact toNat_succ (by omega)

theorem ofNat_of_toNat_eq {n : UInt32} {k : Nat} (h : k = n.toNat) : UInt32.ofNat k = n := by
  rw [h, UInt32.ofNat_toNat]

/-- An attempt that is not repeated concludes what its worker does. -/
theorem concludes_of_last (few : p.maxRetries.toNat < 4294967295) {retries : UInt32} (hlen : as.length = retries.toNat)
    (hle : retries ≤ p.maxRetries) {t : Nat} {o : Outcome} (ended : a.ended = some (t, o))
    (last : o.kind.any (p.shouldRetry retries) = false) (target : String) (d : Span) :
    Concludes p (as ++ [a]) (.finished target o (retries + 1).toNat d) := by
  refine .inl ⟨a, t, by simp, ended, ?_, fun kind hkind => ?_⟩
  · show max (retries + 1).toNat 1 = _
    rw [toNat_succ_of_le few hle, List.length_append, List.length_singleton, hlen]
    omega
  · have hkind : o.kind = some kind := hkind
    rw [hkind] at last
    simpa [ofNat_of_toNat_eq hlen] using last

end Lists

/-! ### The invariant -/

/-- What a worker has done so far, by where it stands. -/
def Conduct (b : Batch) (i : Nat) (s : State) : Prop :=
  match s.phase i with
  | .fresh | .queued | .waiting _ _ => attempts i s.log = []
  | .calling retries _ _ _ =>
    ∃ before start, attempts i s.log = before ++ [{ start }] ∧ before.length = retries.toNat ∧
      retries ≤ b.retry.maxRetries
  | .backingOff retry wake =>
    ∃ before start t o kind, attempts i s.log = before ++ [{ start, ended := some (t, o) }] ∧
      before.length + 1 = retry.toNat ∧ retry ≤ b.retry.maxRetries ∧ o.kind = some kind ∧
      b.retry.shouldRetry (.ofNat before.length) kind = true ∧ wake = Clock.timer t (b.retry.delay 0 retry)
  | .done =>
    (attempts i s.log).length ≤ b.retry.maxRetries.toNat + 1 ∧
      ∀ r, HasResult b s i r → (∃ t m, .brokeOff i t m ∈ s.log) ∨ Concludes b.retry (attempts i s.log) r

section Steps
variable {b : Batch} {s t : State} {i j : Nat}

theorem conduct_initial (b : Batch) (i : Nat) : Conduct b i b.initial := by
  unfold Conduct
  by_cases hi : i < b.targets.length
  · simp [State.phase, initial, hi, attempts]
  · simp [State.phase, initial, hi, attempts, HasResult, State.delivered]

theorem Conduct.congr (h : Conduct b i s) (hphase : t.phase i = s.phase i)
    (hattempts : attempts i t.log = attempts i s.log) (hresult : ∀ r, HasResult b t i r → HasResult b s i r)
    (hbroken : ∀ τ m, .brokeOff i τ m ∈ s.log → .brokeOff i τ m ∈ t.log) : Conduct b i t := by
  unfold Conduct at h ⊢
  rw [hphase, hattempts]
  cases hp : s.phase i with
  | done =>
    simp only [hp] at h ⊢
    refine ⟨h.1, fun r hr => (h.2 r (hresult r hr)).imp_left fun ⟨τ, m, hmem⟩ => ⟨τ, m, hbroken τ m hmem⟩⟩
  | fresh | queued | waiting | calling | backingOff => simpa only [hp] using h

theorem Conduct.of_none (none : attempts i t.log = [])
    (early : t.phase i = .queued ∨ ∃ since wake, t.phase i = .waiting since wake) : Conduct b i t := by
  unfold Conduct
  rcases early with hp | ⟨since, wake, hp⟩ <;> simpa only [hp] using none

theorem Conduct.of_done (done : t.phase i = .done) {as : List Attempt} (hattempts : attempts i t.log = as)
    (hlen : as.length ≤ b.retry.maxRetries.toNat + 1)
    (hresult : ∀ r, HasResult b t i r → (∃ τ m, .brokeOff i τ m ∈ t.log) ∨ Concludes b.retry as r) :
    Conduct b i t := by
  unfold Conduct
  rw [done, hattempts]
  exact ⟨hlen, hresult⟩

theorem delay_of_plain {p : RetryPolicy} (plain : p.jitter = false) (draw : Nat) (n : UInt32) :
    p.delay draw n = Backoff.delay n p.baseDelay p.maxDelay := by
  simp [RetryPolicy.delay, plain]

theorem lt_maxRetries_of_shouldRetry {p : RetryPolicy} {retries : UInt32} {kind : ErrorKind}
    (h : p.shouldRetry retries kind = true) : retries < p.maxRetries := by
  unfold RetryPolicy.shouldRetry at h
  exact of_decide_eq_true (Bool.and_eq_true_iff.mp h).1

/-- The number of a retry that the policy allows is no more than its most retries, so it can be counted. -/
theorem toNat_succ_of_shouldRetry {p : RetryPolicy} {retries : UInt32} {kind : ErrorKind}
    (h : p.shouldRetry retries kind = true) :
    (retries + 1).toNat = retries.toNat + 1 ∧ retries.toNat + 1 ≤ p.maxRetries.toNat := by
  have hlt : retries.toNat < p.maxRetries.toNat := UInt32.lt_iff_toNat_lt.mp (lt_maxRetries_of_shouldRetry h)
  have hmost := p.maxRetries.toNat_lt
  exact ⟨toNat_succ (show retries.toNat + 1 < 4294967296 by omega), hlt⟩

/-- A worker that makes an attempt has made as many before as there were retries, and this one comes when it has to. -/
theorem Conduct.before_attempt (h : Conduct b i s) (each : EachRepeats b.retry (attempts i s.log)) (reach : Reachable b s)
    {retries : UInt32} {bucket : Bucket} {es : List Event} (starts : Starts b i s retries bucket es)
    (can : s.canMove i = true) (running : s.stopped = false) :
    (attempts i s.log).length = retries.toNat ∧ retries ≤ b.retry.maxRetries ∧
      ∀ ended, EachRepeats b.retry (attempts i s.log ++ [{ start := s.now, ended }]) := by
  unfold Conduct at h
  cases starts with
  | token since wake _ before taken =>
    simp only [before] at h
    rw [h]
    exact ⟨rfl, UInt32.zero_le, fun ended => eachRepeats_concat.mpr ⟨eachRepeats_nil, by simp⟩⟩
  | retry _ wake before =>
    simp only [before] at h
    obtain ⟨as, start, t, o, kind, heq, hlen, hle, hkind, hretry, rfl⟩ := h
    rw [heq] at each ⊢
    refine ⟨by simpa using hlen, hle, fun ended => eachRepeats_concat.mpr ⟨each, fun l₁ l heq' => ?_⟩⟩
    obtain ⟨rfl, hl⟩ := List.append_inj' heq' rfl
    cases hl
    refine ⟨t, o, kind, rfl, hkind, hretry, ?_⟩
    rw [ofNat_of_toNat_eq hlen]
    exact reach.now_eq_of_retry before can running

/-- A worker in a call has started its attempt, and made as many before as there were retries. -/
theorem Conduct.during (h : Conduct b i s) {retries : UInt32} {permit : Permit} {ends : Nat} {reply : Reply}
    (before : s.phase i = .calling retries permit ends reply) :
    ∃ (as : List Attempt) (start : Nat), attempts i s.log = as ++ [{ start := start }] ∧ as.length = retries.toNat ∧
      retries ≤ b.retry.maxRetries := by
  unfold Conduct at h
  simpa only [before] using h

/-- A worker between its calls has made as many attempts as are counted when it is cancelled. -/
theorem Conduct.between (h : Conduct b i s) {n : Nat} (before : Between s i n) :
    n = max (attempts i s.log).length 1 ∧ (attempts i s.log).length ≤ b.retry.maxRetries.toNat + 1 := by
  unfold Conduct at h
  cases before with
  | fresh hp | queued hp | waiting _ _ hp =>
    simp only [hp] at h
    simp [h]
  | backingOff retry wake hp =>
    simp only [hp] at h
    obtain ⟨as, start, t, o, kind, heq, hlen, hle, -⟩ := h
    have hle : retry.toNat ≤ b.retry.maxRetries.toNat := UInt32.le_iff_toNat_le.mp hle
    rw [heq, List.length_append, List.length_singleton]
    omega

/-- What the move of a worker means for its own attempts. -/
theorem Conduct.moved (plain : b.retry.jitter = false) (few : b.retry.maxRetries.toNat < 4294967295)
    (reach : Reachable b s) (can : s.canMove i = true) (m : Moved b i s t) (h : Conduct b i s)
    (each : EachRepeats b.retry (attempts i s.log)) : Conduct b i t ∧ EachRepeats b.retry (attempts i t.log) := by
  have hi := m.before
  have acc := reach.accounted
  cases m with
  | queued before _ eq =>
    have hu := agrees_of_unqueued eq
    have hnone : attempts i s.log = [] := by simpa only [Conduct, before] using h
    exact ⟨.of_none (hu.log ▸ hnone) (.inl (phase_self hu.phases hi)), hu.log ▸ each⟩
  | passed before _ eq =>
    have hu := agrees_of_unqueued eq
    have hnone : attempts i s.log = [] := by
      rcases before with before | before <;> simpa only [Conduct, before] using h
    exact ⟨.of_none (hu.log ▸ hnone) (.inr ⟨_, _, phase_self hu.phases hi⟩), hu.log ▸ each⟩
  | waits _ _ _ _ before _ _ eq =>
    have hu := agrees_of_unqueued eq
    have hnone : attempts i s.log = [] := by simpa only [Conduct, before] using h
    exact ⟨.of_none (hu.log ▸ hnone) (.inr ⟨_, _, phase_self hu.phases hi⟩), hu.log ▸ each⟩
  | called retries _ es permit starts running _ eq =>
    have hu := agrees_of_unqueued eq
    obtain ⟨hlen, hle, hnext⟩ := h.before_attempt each reach starts can running
    have has : attempts i t.log = attempts i s.log ++ [{ start := s.now }] := by
      rw [hu.log, attempts_started starts]
      exact if_pos rfl
    refine ⟨?_, has ▸ hnext none⟩
    simp only [Conduct, phase_self hu.phases hi, has]
    exact ⟨_, _, rfl, hlen, hle⟩
  | refused retries _ es d starts running _ eq =>
    have hu := agrees_of_unqueued eq
    have m : Moved b i s t := .refused retries _ es d starts running ‹_› eq
    obtain ⟨hlen, hle, hnext⟩ := h.before_attempt each reach starts can running
    have has : attempts i t.log =
        attempts i s.log ++ [{ start := s.now, ended := some (s.now, .refused ⟨b.key i, d⟩) }] := by
      rw [hu.log, attempts_started starts]
      exact if_pos rfl
    have hle' : retries.toNat ≤ b.retry.maxRetries.toNat := UInt32.le_iff_toNat_le.mp hle
    refine ⟨.of_done (phase_self hu.phases hi) has (by simp; omega) fun r hr => .inr ?_, has ▸ hnext _⟩
    rw [m.eq_resultAt acc hu.exits hr]
    exact concludes_of_last few hlen hle rfl (last_refused _ _) _ _
  | failed retries permit ends reply o before ended again eq =>
    have hu := agrees_of_unqueued eq
    obtain ⟨as, start, heq, hlen, hle⟩ := h.during before
    have has : attempts i t.log = as ++ [{ start, ended := some (s.now, o) }] := hu.log ▸ attempts_completed heq
    rw [heq] at each
    obtain ⟨kind, hkind, hretry⟩ := (Option.any_eq_true _ _).mp again
    refine ⟨?_, has ▸ each.last rfl⟩
    simp only [Conduct, phase_self hu.phases hi, has]
    have hlt : retries.toNat < b.retry.maxRetries.toNat :=
      UInt32.lt_iff_toNat_lt.mp (lt_maxRetries_of_shouldRetry hretry)
    refine ⟨as, start, s.now, o, kind, rfl, ?_, ?_, hkind, ?_, ?_⟩
    · rw [toNat_succ_of_le few hle, hlen]
    · rw [UInt32.le_iff_toNat_le, toNat_succ_of_le few hle]
      exact hlt
    · rwa [ofNat_of_toNat_eq hlen]
    · rw [delay_of_plain plain, delay_of_plain plain]
  | ended retries permit ends reply o before ended last eq =>
    have hu := agrees_of_unqueued eq
    have m : Moved b i s t := .ended retries permit ends reply o before ended last eq
    obtain ⟨as, start, heq, hlen, hle⟩ := h.during before
    have has : attempts i t.log = as ++ [{ start, ended := some (s.now, o) }] := hu.log ▸ attempts_completed heq
    rw [heq] at each
    have hle' : retries.toNat ≤ b.retry.maxRetries.toNat := UInt32.le_iff_toNat_le.mp hle
    refine ⟨.of_done (phase_self hu.phases hi) has (by simp; omega) fun r hr => .inr ?_, has ▸ each.last rfl⟩
    rw [m.eq_resultAt acc hu.exits hr]
    exact concludes_of_last few hlen hle rfl last _ _
  | brokeOff retries permit ends reply message before due ending eq =>
    have hu := agrees_of_unqueued eq
    obtain ⟨as, start, heq, hlen, hle⟩ := h.during before
    have has : attempts i t.log = attempts i s.log := by
      rw [hu.log, attempts_ended]
      rfl
    have hle' : retries.toNat ≤ b.retry.maxRetries.toNat := UInt32.le_iff_toNat_le.mp hle
    refine ⟨.of_done (phase_self hu.phases hi) has (by simp [heq]; omega) fun r _ => .inl ⟨s.now, message, ?_⟩, has ▸ each⟩
    simp [hu.log]
  | cancelled n before stopped eq =>
    have hu := agrees_of_unqueued eq
    have m : Moved b i s t := .cancelled n before stopped eq
    have hlog : t.log = s.log := hu.log
    obtain ⟨hn, hlen⟩ := h.between before
    refine ⟨.of_done (phase_self hu.phases hi) (congrArg _ hlog) hlen fun r hr => .inr (.inr ?_), hlog ▸ each⟩
    rw [m.eq_resultAt acc hu.exits hr]
    refine ⟨rfl, ?_⟩
    show max n 1 = _
    omega

theorem Conduct.step (plain : b.retry.jitter = false) (few : b.retry.maxRetries.toNat < 4294967295)
    (reach : Reachable b s) (h : Conduct b i s) (each : EachRepeats b.retry (attempts i s.log)) (hs : Step b s t) :
    Conduct b i t ∧ EachRepeats b.retry (attempts i t.log) := by
  rcases reach.moves_or_rests hs i with ⟨can, rfl⟩ | rests
  · exact h.moved plain few reach can (moved_move can) each
  · exact ⟨h.congr rests.phase rests.attempts rests.result fun _ _ => rests.mem_log, rests.attempts ▸ each⟩

theorem Reachable.conduct (plain : b.retry.jitter = false) (few : b.retry.maxRetries.toNat < 4294967295)
    (reach : Reachable b s) (i : Nat) : Conduct b i s ∧ EachRepeats b.retry (attempts i s.log) := by
  induction reach with
  | start => exact ⟨conduct_initial b i, eachRepeats_nil⟩
  | step reach hs ih => exact ih.1.step plain few reach ih.2 hs

/-- No worker makes more attempts than its retries and one. -/
theorem Conduct.length_le (h : Conduct b i s) : (attempts i s.log).length ≤ b.retry.maxRetries.toNat + 1 := by
  unfold Conduct at h
  cases hp : s.phase i with
  | fresh | queued | waiting =>
    simp only [hp] at h
    simp [h]
  | calling retries permit ends reply =>
    simp only [hp] at h
    obtain ⟨as, start, heq, hlen, hle⟩ := h
    have hle : retries.toNat ≤ b.retry.maxRetries.toNat := UInt32.le_iff_toNat_le.mp hle
    rw [heq, List.length_append, List.length_singleton]
    omega
  | backingOff retry wake =>
    exact (Conduct.between (by simpa only [Conduct, hp] using h) (.backingOff retry wake hp)).2
  | done =>
    simp only [hp] at h
    exact h.1

end Steps

section Law
variable {c : Config} {targets : List String} {start : Nat} {cancelAfter : Option UInt64} {transport : Transport}
  {earlier : List Call} {draw : Nat → UInt32 → Nat} {b : Batch} {s : State} {i : Nat}

/-- The attempts of a worker whose calls do not break off, in whatever order the workers move. There are no more
    than the retries and one. An attempt that another one follows ended with a failure that is repeated after so
    many retries, and the other one starts when the timer of the wait for that retry fires. A worker that has ended
    has a result: the outcome of its latest attempt, which is not repeated, with the number of its attempts; or it
    was cancelled, and then its attempts are counted too, but as one if it made none. -/
theorem attempts_of_worker
    (built : ofConfig? c targets start cancelAfter transport earlier draw = some b)
    (plain : c.retries.jitter = false) (few : c.retries.maxRetries.toNat < 4294967295) (reach : Reachable b s)
    (hi : i < targets.length) (sound : ∀ t m, .brokeOff i t m ∉ s.log) :
    let p := RetryPolicy.ofConfig c.retries
    let as := attempts i s.log
    as.length ≤ c.retries.maxRetries.toNat + 1 ∧
    (∀ k a a', as[k]? = some a → as[k + 1]? = some a' →
      ∃ t o kind, a.ended = some (t, o) ∧ o.kind = some kind ∧ p.shouldRetry (.ofNat k) kind = true ∧
        a'.start = Clock.timer t (Backoff.delay (.ofNat (k + 1)) p.baseDelay p.maxDelay)) ∧
    (s.phase i = .done → ∃ r, HasResult b s i r) ∧
    ∀ r, HasResult b s i r →
      (∃ a t, as.getLast? = some a ∧ a.ended = some (t, r.outcome) ∧ r.attempts = as.length ∧
        ∀ kind, r.outcome.kind = some kind → p.shouldRetry (.ofNat (as.length - 1)) kind = false) ∨
      r.outcome = .cancelled ∧ r.attempts = max as.length 1 := by
  obtain ⟨htargets, -, hretry, -⟩ := eq_of_built built
  obtain ⟨h, each⟩ := reach.conduct (hretry ▸ plain) (hretry ▸ few) i
  refine ⟨?_, fun k a a' hk hk' => ?_, fun done => ?_, fun r hr => ?_⟩
  · have hlen := h.length_le
    rw [hretry] at hlen
    exact hlen
  · obtain ⟨t, o, kind, hended, hkind, hagain, hstart⟩ := each k a a' hk hk'
    rw [hretry] at hagain hstart
    exact ⟨t, o, kind, hended, hkind, hagain, delay_of_plain (p := .ofConfig c.retries) plain 0 _ ▸ hstart⟩
  · exact reach.accounted.exists_result (htargets ▸ hi) done
  · have done := reach.accounted.done_of_hasResult hr
    have hconcludes : Concludes b.retry (attempts i s.log) r := by
      simp only [Conduct, done] at h
      exact (h.2 r hr).resolve_left fun ⟨t, m, hmem⟩ => sound t m hmem
    exact hretry ▸ hconcludes

end Law

/-! ### A target that is reached at the third attempt -/

def flakyConfig : Config := { retries := { maxRetries := 2, baseDelayMs := 10 } }

/-- Two calls fail after 5 ms, and those after them complete. -/
def flakyTransport : Transport := fun calls _ =>
  { after := Span.ofMillis 5
    ending := .outcome (if calls.length < 2 then .failed .connection "no route" else .completed 200 7) }

def flaky : Batch :=
  { targets := ["a"], start := 0, limits := .ofConfig {}, breaker := .ofConfig {}, scope := .host
    retry := .ofConfig flakyConfig.retries, permits := none, transport := flakyTransport
    deadline := Clock.timer 0 (Span.ofSeconds 30) }

theorem built_flaky : ofConfig? flakyConfig ["a"] 0 none flakyTransport [] (fun _ _ => 0) = some flaky := rfl

def flakyEnd : State := flaky.run 20 flaky.initial

theorem reachable_flakyEnd : Reachable flaky flakyEnd := Reachable.start.run 20

def flakyResult : FetchResult := .finished "a" (.completed 200 7) 3 (Span.ofMillis 45)

/-- It takes three attempts, and before the last one is a wait of 20 ms. -/
theorem attempts_of_worker_flaky :
    (attempts 0 flakyEnd.log).length = 3 ∧
      ∀ a a', (attempts 0 flakyEnd.log)[1]? = some a → (attempts 0 flakyEnd.log)[2]? = some a' →
        ∃ t o, a.ended = some (t, o) ∧ a'.start = Clock.timer t (Span.ofMillis 20) := by
  have hsound : ∀ t m, .brokeOff 0 t m ∉ flakyEnd.log := by
    have hall : (flakyEnd.log.all fun e => !e matches .brokeOff _ _ _) = true := by decide +kernel
    intro t m hmem
    simpa using List.all_eq_true.mp hall _ hmem
  obtain ⟨-, hnext, -, hresult⟩ :=
    attempts_of_worker built_flaky rfl (by decide) reachable_flakyEnd (by decide) hsound
  have hdelivered : HasResult flaky flakyEnd 0 flakyResult := .inl (by decide +kernel)
  refine ⟨?_, fun a a' ha ha' => ?_⟩
  · rcases hresult flakyResult hdelivered with ⟨-, -, -, -, hattempts, -⟩ | ⟨hcancelled, -⟩
    · exact hattempts.symm
    · cases hcancelled
  · obtain ⟨t, o, kind, hended, -, -, hstart⟩ := hnext 1 a a' ha ha'
    exact ⟨t, o, hended, hstart⟩

end BatchFetch.Batch
