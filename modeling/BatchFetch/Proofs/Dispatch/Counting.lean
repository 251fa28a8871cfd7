import BatchFetch.Dispatch.Dispatcher
import BatchFetch.Proofs.Dispatch.Counter
import BatchFetch.Proofs.Dispatch.Stopping
import BatchFetch.Proofs.Metrics
import Mathlib.Algebra.Order.BigOperators.Group.Finset

/-! # What the metrics say of a batch

Every counter and every histogram is one count of events in the log of the batch. So what the log says of the batch
when it is over, the metrics say too. -/

namespace BatchFetch.Batch

/-! ### Sums over workers -/

section Sums

theorem sum_count_range {n : Nat} {l : List Nat} (h : ∀ j ∈ l, j < n) :
    ((List.range n).map fun i => l.count i).sum = l.length := by
  have hsum : ∑ i ∈ Finset.range n, (l : Multiset Nat).count i = (l : Multiset Nat).card :=
    Multiset.sum_count_eq_card fun j hj => Finset.mem_range.mpr (h j (Multiset.mem_coe.mp hj))
  simp only [Multiset.coe_count, Multiset.coe_card] at hsum
  rw [← hsum]
  rfl

/-- Each number counts at least once. -/
theorem sum_max_one {α : Type} (f : α → Nat) (l : List α) :
    (l.map fun x => max (f x) 1).sum = (l.map f).sum + l.countP (f · = 0) := by
  induction l with
  | nil => rfl
  | cons x l ih =>
    rw [List.map_cons, List.sum_cons, ih, List.map_cons, List.sum_cons, List.countP_cons]
    by_cases hx : f x = 0
    · simp only [hx, decide_true, if_true]
      omega
    · simp only [hx, decide_false]
      have : max (f x) 1 = f x := by omega
      rw [this]
      simp [Nat.add_assoc]

theorem sum_min_one {α : Type} (f : α → Nat) (l : List α) : (l.map fun x => min (f x) 1).sum = l.countP (f · ≠ 0) := by
  induction l with
  | nil => rfl
  | cons x l ih =>
    rw [List.map_cons, List.sum_cons, ih, List.countP_cons]
    by_cases hx : f x = 0
    · simp [hx]
    · have : min (f x) 1 = 1 := by omega
      simp [hx, this, Nat.add_comm]

/-- What is missing from a sum whose terms are counted in 32 bits. -/
theorem sum_wrapped {α : Type} {f : α → Nat} : ∀ {l : List α}, (∀ x ∈ l, f x ≤ 4294967296) →
    (l.map fun x => max (f x % 4294967296) 1).sum + 4294967295 * l.countP (f · = 4294967296) =
      (l.map fun x => max (f x) 1).sum
  | [], _ => rfl
  | x :: l, h => by
    have htail := sum_wrapped fun y hy => h y (List.mem_cons_of_mem x hy)
    have hx := h x List.mem_cons_self
    rw [List.map_cons, List.sum_cons, List.map_cons, List.sum_cons, List.countP_cons]
    by_cases hfull : f x = 4294967296
    · simp only [hfull, decide_true, if_true]
      omega
    · have hmod : f x % 4294967296 = f x := Nat.mod_eq_of_lt (Nat.lt_of_le_of_ne hx hfull)
      simp only [hfull, hmod, decide_false, Bool.false_eq_true, if_false]
      omega

end Sums

/-! ### Whose events they are -/

section Names
variable {b : Batch} {s t : State} {i : Nat} {f : Event → Option Nat}

/-- An event that names a worker is one of a worker of the batch. -/
theorem Reachable.lt_of_named (hf : ∀ e i j, e.IsOf i → f e = some j → j = i) (reach : Reachable b s) :
    ∀ j ∈ s.log.filterMap f, j < b.targets.length := by
  induction reach with
  | start => exact List.forall_mem_nil _
  | @step s t reach hs ih =>
    have grows : ∀ {i es}, i < b.targets.length → t.log = s.log ++ es → (∀ e ∈ es, e.IsOf i) →
        ∀ j ∈ t.log.filterMap f, j < b.targets.length := by
      intro i es hi hlog hes
      rw [hlog, List.filterMap_append]
      refine List.forall_mem_append.mpr ⟨ih, fun j hj => ?_⟩
      obtain ⟨e, he, heq⟩ := List.mem_filterMap.mp hj
      exact hf e i j (hes e he) heq ▸ hi
    cases hs with
    | stop | wait => exact ih
    | move i can =>
      obtain ⟨es, hlog, hes⟩ := (moved_move (b := b) can).adds
      exact grows (reach.accounted.lt_of_canMove can) hlog fun e he => (hes e he).1
    | collect i e he =>
      exact grows (reach.accounted.lt_of_exit he) rfl fun e' he' => List.mem_singleton.mp he' ▸ rfl

theorem trier_of_isOf {e : Event} {i j : Nat} (h : e.IsOf i) (he : e.trier? = some j) : j = i := by
  cases e with
  | called | refused =>
    cases he
    exact h
  | tokenTaken | ended | brokeOff | breaker | finished => cases he

theorem taker_of_isOf {e : Event} {i j : Nat} (h : e.IsOf i) (he : e.taker? = some j) : j = i := by
  cases e with
  | tokenTaken =>
    cases he
    exact h
  | called | refused | ended | brokeOff | breaker | finished => cases he

/-- The attempts of all workers together are the calls and the refusals. -/
theorem Reachable.sum_attempts (reach : Reachable b s) :
    ((List.range b.targets.length).map fun i => (attempts i s.log).length).sum =
      s.calls.length + s.log.countP Event.isRefusal := by
  have hsum := sum_count_range (reach.lt_of_named fun _ _ _ => trier_of_isOf)
  rw [length_triers] at hsum
  simpa only [length_attempts, State.calls] using hsum

theorem Reachable.sum_tokens (reach : Reachable b s) :
    ((List.range b.targets.length).map fun i => tokens i s.log).sum = s.log.countP (·.taker?.isSome) := by
  rw [← List.length_filterMap_eq_countP]
  exact sum_count_range (reach.lt_of_named fun _ _ _ => taker_of_isOf)

end Names

/-! ### What a transport reports -/

section Sources
variable {b : Batch} {s t : State} {i j τ : Nat} {o : Outcome}

/-- A move logs the end of a call only when the call of its worker ends. -/
theorem Moved.ended_of_mem (m : Moved b i s t) (hmem : .ended j τ o ∈ t.log) :
    .ended j τ o ∈ s.log ∨
      ∃ retries permit ends reply, s.phase i = .calling retries permit ends reply ∧ Ends s ends reply o := by
  cases m with
  | queued _ _ eq | passed _ _ eq | waits _ _ _ _ _ _ _ eq | cancelled _ _ _ eq =>
    exact .inl ((agrees_of_unqueued eq).log ▸ hmem)
  | called _ _ es permit starts _ _ eq | refused _ _ es _ starts _ _ eq =>
    rw [(agrees_of_unqueued eq).log] at hmem
    refine .inl ?_
    cases starts <;> simpa [noted] using hmem
  | failed retries permit ends reply o' before ended _ eq | ended retries permit ends reply o' before ended _ eq =>
    rw [(agrees_of_unqueued eq).log] at hmem
    rcases List.mem_append.mp hmem with hmem | hmem
    · exact .inl hmem
    · obtain ⟨-, -, rfl⟩ : j = i ∧ τ = s.now ∧ o = o' := by simpa [noted] using hmem
      exact .inr ⟨retries, permit, ends, reply, before, ended⟩
  | brokeOff _ _ _ _ _ _ _ _ eq =>
    rw [(agrees_of_unqueued eq).log] at hmem
    exact .inl (by simpa [noted] using hmem)

/-- The outcomes of calls are those of the transport; besides, a call can be cancelled. -/
theorem Reachable.outcome_of_mem (reach : Reachable b s) (hmem : .ended j τ o ∈ s.log) :
    o = .cancelled ∨ ∃ calls target, (b.transport calls target).ending = .outcome o := by
  induction reach with
  | start => exact absurd hmem List.not_mem_nil
  | @step s t reach hs ih =>
    cases hs with
    | stop | wait => exact ih hmem
    | collect i e _ => exact ih (by simpa [collect, State.note] using hmem)
    | move i can =>
      rcases (moved_move (b := b) can).ended_of_mem hmem with hold | ⟨retries, permit, ends, reply, before, ended⟩
      · exact ih hold
      · cases ended with
        | stopped => exact .inl rfl
        | itself _ _ ending _ =>
          obtain ⟨calls, target, rfl⟩ := reach.exists_reply before
          exact .inr ⟨calls, target, ending⟩

end Sources

/-! ### Reading the metrics -/

section Readings
variable {s : State} {name : String} {c : Metric.Counter}

theorem value_metrics : Metric.value s.metrics c = s.log.countP fun e => e.metric?.bind Metric.counter? == some c := by
  rw [Metric.value_eq, State.metrics, List.countP_filterMap]
  refine List.countP_congr fun e _ => ?_
  cases e.metric? <;> simp

theorem total_metrics :
    Metric.total s.metrics name = s.log.countP fun e => (e.metric?.bind Metric.counter?).any (·.name == name) := by
  rw [Metric.total_eq, State.metrics, List.countP_filterMap]
  refine List.countP_congr fun e _ => ?_
  cases e.metric? <;> simp

theorem length_samples_metrics :
    (Metric.samples s.metrics name).length = s.log.countP fun e => (e.metric?.bind Metric.sample?).any (·.1 == name) := by
  rw [Metric.length_samples, State.metrics, List.countP_filterMap]
  refine List.countP_congr fun e _ => ?_
  cases e.metric? <;> simp

theorem total_results : Metric.total s.metrics "fetch_results_total" = s.results.length := by
  rw [total_metrics, State.results, List.length_filterMap_eq_countP]
  refine List.countP_congr fun e _ => ?_
  cases e with
  | breaker key note => cases note <;> simp [Event.metric?, Metric.counter?, Event.result?]
  | tokenTaken | refused | called | ended | brokeOff | finished => simp [Event.metric?, Metric.counter?, Event.result?]

theorem length_durations : (Metric.samples s.metrics "fetch_duration_seconds").length = s.results.length := by
  rw [length_samples_metrics, State.results, List.length_filterMap_eq_countP]
  refine List.countP_congr fun e _ => ?_
  cases e <;> simp [Event.metric?, Metric.sample?, Event.result?]

theorem value_success :
    Metric.value s.metrics ⟨"fetch_results_total", some ("outcome", "success")⟩ = s.results.countP (·.isSuccess) := by
  rw [value_metrics, State.results, List.countP_filterMap]
  refine List.countP_congr fun e _ => ?_
  cases e with
  | finished i r => cases h : r.isSuccess <;> simp [Event.metric?, Metric.counter?, Event.result?, h]
  | breaker key note => cases note <;> simp [Event.metric?, Metric.counter?, Event.result?]
  | tokenTaken | refused | called | ended | brokeOff => simp [Event.metric?, Metric.counter?, Event.result?]

theorem length_waits : (Metric.samples s.metrics "rate_limiter_wait_seconds").length = s.log.countP (·.taker?.isSome) := by
  rw [length_samples_metrics]
  refine List.countP_congr fun e _ => ?_
  cases e <;> simp [Event.metric?, Metric.sample?, Event.taker?]

theorem total_attempts :
    Metric.total s.metrics "fetch_attempts_total" = s.log.countP Event.isReturn + s.log.countP Event.isRefusal := by
  rw [total_metrics]
  induction s.log with
  | nil => rfl
  | cons e log ih =>
    rw [List.countP_cons, List.countP_cons, List.countP_cons, ih]
    cases e with
    | breaker key note => cases note <;> simp [Event.metric?, Metric.counter?, Event.isReturn, Event.isRefusal]
    | refused | ended =>
      simp only [Event.metric?, Metric.counter?, Event.isReturn, Event.isRefusal, Option.bind_some, Option.any_some,
        beq_self_eq_true, Bool.false_eq_true, if_true, if_false]
      omega
    | tokenTaken | called | brokeOff | finished =>
      simp [Event.metric?, Metric.counter?, Event.isReturn, Event.isRefusal]

theorem value_rejections :
    Metric.value s.metrics ⟨"circuit_breaker_rejections_total", none⟩ = s.log.countP Event.isRejection := by
  rw [value_metrics]
  refine List.countP_congr fun e _ => ?_
  cases e with
  | breaker key note => cases note <;> simp [Event.metric?, Metric.counter?, Event.isRejection]
  | tokenTaken | refused | called | ended | brokeOff | finished =>
    simp [Event.metric?, Metric.counter?, Event.isRejection]

/-- The label of an attempt that was refused is no other's. -/
theorem label_circuitOpen (kind : Option ErrorKind) :
    (kind.map (·.name)).getD "ok" = "circuit_open" ↔ kind = some .circuitOpen := by
  cases kind with
  | none => decide
  | some k => cases k <;> decide

theorem value_circuitOpen (own : ∀ i τ o, .ended i τ o ∈ s.log → o.kind ≠ some .circuitOpen) :
    Metric.value s.metrics ⟨"fetch_attempts_total", some ("kind", "circuit_open")⟩ = s.log.countP Event.isRefusal := by
  rw [value_metrics]
  refine List.countP_congr fun e he => ?_
  cases e with
  | breaker key note => cases note <;> simp [Event.metric?, Metric.counter?, Event.isRefusal]
  | refused => simp [Event.metric?, Metric.counter?, Event.isRefusal, ErrorKind.name]
  | ended i τ o =>
    have hother := mt (label_circuitOpen o.kind).mp (own i τ o he)
    simpa [Event.metric?, Metric.counter?, Event.isRefusal] using hother
  | tokenTaken | called | brokeOff | finished => simp [Event.metric?, Metric.counter?, Event.isRefusal]

end Readings

/-! ### A batch that is over -/

/-- How many results were cancelled before their workers made any attempt. -/
def State.cancelledEarly (s : State) : Nat :=
  s.delivered.countP fun x => decide (x.2.outcome = .cancelled ∧ attempts x.1 s.log = [])

/-- How many workers made so many attempts that their counters were at zero again. -/
def wrapped (b : Batch) (s : State) : Nat :=
  (List.range b.targets.length).countP fun i => (attempts i s.log).length = 4294967296

section Law
variable {b : Batch} {s : State} {i : Nat} {r : FetchResult}

theorem Reachable.reckoned_of_isOver (reach : Reachable b s) (ended : s.isOver = true) (i : Nat) :
    tokens i s.log = min (attempts i s.log).length 1 ∧ (attempts i s.log).length ≤ b.retry.maxRetries.toNat + 1 ∧
      ∀ r, HasResult b s i r → (∃ τ m, .brokeOff i τ m ∈ s.log) ∨ Reports (attempts i s.log).length r := by
  have h := reach.reckoned i
  unfold Reckoned at h
  rwa [phase_of_isOver ended] at h

/-- No worker makes more attempts than its retries and one. -/
theorem Reachable.length_attempts_le (reach : Reachable b s) (ended : s.isOver = true) :
    (attempts i s.log).length ≤ b.retry.maxRetries.toNat + 1 := (reach.reckoned_of_isOver ended i).2.1

theorem Reachable.waits_of_isOver (reach : Reachable b s) (ended : s.isOver = true) :
    (Metric.samples s.metrics "rate_limiter_wait_seconds").length =
      (List.range b.targets.length).countP fun i => attempts i s.log ≠ [] := by
  rw [length_waits, ← reach.sum_tokens, List.map_congr_left fun i _ => (reach.reckoned_of_isOver ended i).1, sum_min_one]
  refine List.countP_congr fun i _ => ?_
  simp [List.length_eq_zero_iff]

theorem calling_of_isOver (ended : s.isOver = true) : s.calling = 0 := by
  refine List.countP_eq_zero.mpr fun p hp => ?_
  unfold State.isOver at ended
  have hdone : p = .done := by simpa using List.all_eq_true.mp (Bool.and_eq_true_iff.mp ended).1 p hp
  rw [hdone]
  exact Bool.false_ne_true

/-- In the end every call has returned or has broken off. -/
theorem Reachable.calls_of_isOver (reach : Reachable b s) (ended : s.isOver = true) :
    s.calls.length = s.log.countP Event.isReturn + s.log.countP Event.isBreak := by
  rw [State.calls, List.length_filterMap_eq_countP, reach.balanced.calls, calling_of_isOver ended]
  rfl

theorem wrapped_eq_zero_iff : b.wrapped s = 0 ↔ ∀ i < b.targets.length, (attempts i s.log).length ≠ 4294967296 := by
  simp [wrapped, List.countP_eq_zero]

/-- A counter is at zero again only after a retry more than it can count. -/
theorem Reachable.wrapped_eq_zero (reach : Reachable b s) (ended : s.isOver = true)
    (few : b.retry.maxRetries ≠ 4294967295) : b.wrapped s = 0 := by
  refine wrapped_eq_zero_iff.mpr fun i _ hfull => few (UInt32.toNat_inj.mp ?_)
  have hle := reach.length_attempts_le ended (i := i)
  have hlt := b.retry.maxRetries.toNat_lt
  show _ = 4294967295
  omega

/-- Unless calls break off, the results lack only the attempts of which a counter lost sight. -/
theorem Reachable.sum_attempts_of_isOver (reach : Reachable b s) (ended : s.isOver = true)
    (sound : ∀ e ∈ s.log, e.isBreak = false) :
    (s.results.map (·.attempts)).sum + 4294967295 * b.wrapped s =
      s.log.countP Event.isReturn + s.log.countP Event.isRefusal + s.cancelledEarly := by
  have acc := reach.accounted
  have reports : ∀ x ∈ s.delivered, Reports (attempts x.1 s.log).length x.2 := by
    rintro ⟨i, r⟩ hmem
    refine ((reach.reckoned_of_isOver ended i).2.2 r (.inl hmem)).resolve_left ?_
    rintro ⟨τ, m, hbroke⟩
    exact Bool.noConfusion (sound _ hbroke)
  have hworkers := acc.perm_of_isOver ended
  have hearly : s.cancelledEarly = (List.range b.targets.length).countP fun i => (attempts i s.log).length = 0 := by
    rw [← hworkers.countP_eq, List.countP_map]
    refine List.countP_congr fun x hx => ?_
    have hcancelled := (reports x hx).cancelled
    simp only [Function.comp_apply, decide_eq_true_eq, List.length_eq_zero_iff] at hcancelled ⊢
    exact ⟨And.right, fun hnil => ⟨hcancelled hnil, hnil⟩⟩
  have hcalls : s.calls.length = s.log.countP Event.isReturn := by
    have hbreaks : s.log.countP Event.isBreak = 0 := List.countP_eq_zero.mpr fun e he => by simp [sound e he]
    rw [reach.calls_of_isOver ended, hbreaks]
    rfl
  have hcounted : (s.results.map (·.attempts)).sum =
      ((List.range b.targets.length).map fun i => max ((attempts i s.log).length % 4294967296) 1).sum := by
    rw [results_eq_delivered, List.map_map,
      ← (hworkers.map fun i => max ((attempts i s.log).length % 4294967296) 1).sum_eq, List.map_map]
    exact congrArg List.sum (List.map_congr_left fun x hx => (reports x hx).attempts)
  have hle : ∀ i ∈ List.range b.targets.length, (attempts i s.log).length ≤ 4294967296 := fun i _ =>
    (reach.length_attempts_le ended).trans b.retry.maxRetries.toNat_lt
  calc (s.results.map (·.attempts)).sum + 4294967295 * b.wrapped s
      = ((List.range b.targets.length).map fun i => max (attempts i s.log).length 1).sum := by
        rw [hcounted]
        exact sum_wrapped hle
    _ = s.calls.length + s.log.countP Event.isRefusal + s.cancelledEarly := by
        rw [sum_max_one, reach.sum_attempts, hearly]
    _ = s.log.countP Event.isReturn + s.log.countP Event.isRefusal + s.cancelledEarly := by rw [hcalls]

/-- The metrics account for a batch that is over, whatever happened in it and in which order. There is one result and one
    duration for each target, and as many successes as the summary says; one wait for a token for each worker that made an
    attempt; and one attempt for each call that returned and for each refusal by a breaker. Calls that broke off are all that
    is missing from the attempts. Only a transport that reports an open circuit itself can blur which attempts were refused.
    If no call broke off, no attempt is missing from the results either, where a worker that was cancelled before any attempt
    reports one, unless the most retries are the largest number of 32 bits. Then some are missing just if a worker made
    `2 ^ 32` attempts, for it reports one. -/
theorem metrics_account_for_batch (reach : Reachable b s) (ended : s.isOver = true) :
    let report := BatchReport.ofState b s
    let rejections := Metric.value report.metrics ⟨"circuit_breaker_rejections_total", none⟩
    Metric.total report.metrics "fetch_results_total" = b.targets.length ∧
      (Metric.samples report.metrics "fetch_duration_seconds").length = b.targets.length ∧
      Metric.value report.metrics ⟨"fetch_results_total", some ("outcome", "success")⟩ = report.summary.succeeded ∧
      (Metric.samples report.metrics "rate_limiter_wait_seconds").length =
        (List.range b.targets.length).countP (fun i => attempts i s.log ≠ []) ∧
      Metric.total report.metrics "fetch_attempts_total" = s.log.countP Event.isReturn + rejections ∧
      report.calls.length = s.log.countP Event.isReturn + s.log.countP Event.isBreak ∧
      ((∀ calls target o, (b.transport calls target).ending = .outcome o → o.kind ≠ some .circuitOpen) →
        Metric.value report.metrics ⟨"fetch_attempts_total", some ("kind", "circuit_open")⟩ = rejections) ∧
      ((∀ e ∈ s.log, e.isBreak = false) → b.retry.maxRetries ≠ 4294967295 →
        (report.results.map (·.attempts)).sum =
          Metric.total report.metrics "fetch_attempts_total" + s.cancelledEarly) ∧
      ((∀ e ∈ s.log, e.isBreak = false) →
        ((report.results.map (·.attempts)).sum = Metric.total report.metrics "fetch_attempts_total" + s.cancelledEarly ↔
          ∀ i < b.targets.length, (attempts i s.log).length ≠ 4294967296)) := by
  have hresults := reach.accounted.length_results ended
  have hrejections : Metric.value s.metrics ⟨"circuit_breaker_rejections_total", none⟩ = s.log.countP Event.isRefusal :=
    value_rejections.trans reach.balanced.refusals
  have counted : (∀ e ∈ s.log, e.isBreak = false) → (s.results.map (·.attempts)).sum + 4294967295 * b.wrapped s =
      Metric.total s.metrics "fetch_attempts_total" + s.cancelledEarly := fun sound =>
    (reach.sum_attempts_of_isOver ended sound).trans (congrArg (· + s.cancelledEarly) total_attempts.symm)
  refine ⟨total_results.trans hresults, length_durations.trans hresults, value_success, reach.waits_of_isOver ended, ?_,
    reach.calls_of_isOver ended, fun own => ?_, fun sound few => ?_, fun sound => ?_⟩
  · exact total_attempts.trans (congrArg _ hrejections.symm)
  · refine (value_circuitOpen fun i τ o hmem => ?_).trans hrejections.symm
    rcases reach.outcome_of_mem hmem with rfl | ⟨calls, target, ending⟩
    · decide
    · exact own calls target o ending
  · have := counted sound
    rwa [reach.wrapped_eq_zero ended few] at this
  · have := counted sound
    rw [← wrapped_eq_zero_iff]
    show (s.results.map (·.attempts)).sum = Metric.total s.metrics _ + _ ↔ _
    omega

end Law

/-- With the largest number of retries, which the check lets pass, there is a batch whose only worker makes two to the power
    of 32 attempts, and its result tells of one of them. -/
theorem attempts_missing_of_tireless :
    (tirelessConfig 4294967295).isValid = true ∧
      ofConfig? (tirelessConfig 4294967295) ["a"] 0 none (.ofReplies fun _ _ => refusing) [] (fun _ _ => 0) =
        some (tireless 4294967295) ∧
      ∃ s, Reachable (tireless 4294967295) s ∧ s.isOver = true ∧ (∀ e ∈ s.log, e.isBreak = false) ∧
        (s.results.map (·.attempts)).sum = 1 ∧
        Metric.total s.metrics "fetch_attempts_total" + s.cancelledEarly = 4294967296 := by
  obtain ⟨s, r, reach, ended, delivered, made, told, refused⟩ := exists_end_tireless (n := 4294967295) (by decide)
  have acc := reach.accounted
  have sound : ∀ e ∈ s.log, e.isBreak = false := fun e he => by
    cases e with
    | brokeOff i τ m =>
      -- Whoever breaks off has a result of another kind.
      rcases acc.broken i τ m he with hexit | ⟨r', hr', hkind⟩
      · simp [exits_of_isOver ended] at hexit
      · rw [delivered, List.mem_singleton] at hr'
        cases hr'
        rw [refused] at hkind
        cases hkind
    | tokenTaken | refused | called | ended | breaker | finished => rfl
  have results : (s.results.map (·.attempts)).sum = 1 := by
    rw [results_eq_delivered, delivered]
    exact told
  have made : (attempts 0 s.log).length = 4294967296 := made
  have wrapped : (tireless 4294967295).wrapped s = 1 := by
    show (List.range 1).countP _ = 1
    rw [List.range_one, List.countP_singleton, if_pos (decide_eq_true made)]
  have counted := reach.sum_attempts_of_isOver ended sound
  rw [results, wrapped, ← total_attempts] at counted
  exact ⟨isValid_tirelessConfig (by decide), built_tireless _, s, reach, ended, sound, results, counted.symm⟩

/-! ### A batch in which little goes well -/

/-- One target fails after 5 ms, and the others never answer. -/
def strainedScript : Script :=
  { replies := [("a", [{ after := Span.ofMillis 5, ending := .outcome (.failed .connection "no route") }])]
    fallback := { ending := .never } }

/-- One call at a time, and one failure opens a breaker. It is given up after 30 ms. -/
def strained : Batch :=
  { targets := ["a", "a", "b", "c"], start := 0, limits := .ofConfig {}, breaker := .make 1 (Span.ofMillis 1000)
    scope := .url, retry := .ofConfig { maxRetries := 1, baseDelayMs := 10 }, permits := some 1
    transport := strainedScript.transport, cancelAt := some (Clock.due 0 (Span.ofMillis 30))
    deadline := Clock.timer 0 (Span.ofSeconds 30) }

def strainedEnd : State := strained.run 40 strained.initial

theorem reachable_strainedEnd : Reachable strained strainedEnd := Reachable.start.run 40

/-- Two calls returned and two attempts were refused, and the last worker made none. -/
theorem metrics_account_for_batch_strained :
    Metric.total strainedEnd.metrics "fetch_attempts_total" = 4 ∧
      Metric.value strainedEnd.metrics ⟨"fetch_attempts_total", some ("kind", "circuit_open")⟩ = 2 ∧
      (strainedEnd.results.map (·.attempts)).sum = 5 := by
  obtain ⟨-, -, -, -, total, -, own, sum, -⟩ := metrics_account_for_batch reachable_strainedEnd (by decide +kernel)
  have hrejections : Metric.value strainedEnd.metrics ⟨"circuit_breaker_rejections_total", none⟩ = 2 := by decide +kernel
  have htotal : Metric.total strainedEnd.metrics "fetch_attempts_total" = 4 := by
    refine total.trans ?_
    decide +kernel
  have hown : ∀ calls target o, (strained.transport calls target).ending = .outcome o → o.kind ≠ some .circuitOpen :=
    strainedScript.forall_transport (P := fun r => ∀ o, r.ending = .outcome o → o.kind ≠ some .circuitOpen)
      (by simp [strainedScript]) (by simp [strainedScript, Outcome.failed])
  refine ⟨htotal, (own hown).trans hrejections, ?_⟩
  have hall : (strainedEnd.log.all fun e => !e.isBreak) = true := by decide +kernel
  have hsound : ∀ e ∈ strainedEnd.log, e.isBreak = false := fun e he => by simpa using List.all_eq_true.mp hall e he
  refine (sum hsound (by decide)).trans ?_
  decide +kernel

end BatchFetch.Batch
