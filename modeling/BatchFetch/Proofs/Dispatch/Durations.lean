import BatchFetch.Dispatch.Dispatcher
import BatchFetch.Proofs.Dispatch.Timing

/-! # Durations

A result tells how long its worker took from the start of the batch until it ended. Results are delivered in the order in
which the workers end, so these durations never go down, and the last of them is that of the whole batch. -/

namespace BatchFetch.Batch

/-- On the way to a state worker `i` has ended at time `τ`. -/
inductive EndedAt (b : Batch) (i τ : Nat) : State → Prop where
  | ends {s t : State} (reach : Reachable b s) (hs : Step b s t) (going : s.phase i ≠ .done) (done : t.phase i = .done)
      (time : s.now = τ) : EndedAt b i τ t
  | step {s t : State} (ended : EndedAt b i τ s) (hs : Step b s t) : EndedAt b i τ t

section Durations
variable {b : Batch} {s t : State} {i τ : Nat} {r : FetchResult}

/-! ### Start and end of a worker -/

theorem Moved.ne_fresh (m : Moved b i s t) : t.phase i ≠ .fresh := by
  have hi := m.before
  cases m <;> rename_i eq <;> simp [phase_self (agrees_of_unqueued eq).phases hi]

/-- Time does not pass until every worker has started. -/
theorem Reachable.now_of_fresh (reach : Reachable b s) (fresh : s.phase i = .fresh) : s.now = b.start := by
  induction reach with
  | start => rfl
  | @step s t reach hs ih =>
    cases hs with
    | stop | collect => exact ih fresh
    | move j can =>
      have m := moved_move (b := b) can
      by_cases hij : j = i
      · exact absurd (hij ▸ fresh) (hij ▸ m.ne_fresh)
      · rw [m.frame.1]
        exact ih ((m.phase_of_ne hij).symm.trans fresh)
    | wait later _ idle _ _ _ =>
      have fresh : s.phase i = .fresh := fresh
      have hidle := idle i
      simp [State.canMove, fresh] at hidle

theorem EndedAt.reachable (h : EndedAt b i τ s) : Reachable b s := by
  induction h with
  | ends reach hs => exact reach.step hs
  | step _ hs ih => exact ih.step hs

theorem Reachable.exists_endedAt (reach : Reachable b s) (hi : i < b.targets.length) (done : s.phase i = .done) :
    ∃ τ, EndedAt b i τ s := by
  induction reach with
  | start => simp [State.phase, initial, hi] at done
  | @step s t reach hs ih =>
    by_cases before : s.phase i = .done
    · obtain ⟨τ, h⟩ := ih before
      exact ⟨τ, h.step hs⟩
    · exact ⟨s.now, .ends reach hs before done rfl⟩

/-- A worker that has ended has a result with the duration from the start of the batch until then. -/
theorem EndedAt.exists_result (h : EndedAt b i τ s) : ∃ r, HasResult b s i r ∧ r.elapsed = Clock.since τ b.start := by
  induction h with
  | ends reach hs going done time =>
    subst time
    cases hs with
    | stop | collect | wait => exact absurd done going
    | move j can =>
      have m := moved_move (b := b) can
      by_cases hij : j = i
      · subst hij
        cases m.leaves with
        | going still => exact absurd done still
        | ended e _ exits elapsed =>
          refine ⟨e.resultAt b j _, .inr ⟨e, ?_, by rw [m.frame.1]⟩, elapsed⟩
          rw [exits]
          exact List.mem_append_right _ (List.mem_singleton_self _)
      · exact absurd ((m.phase_of_ne hij).symm.trans done) going
  | step ended hs ih =>
    obtain ⟨r, hr, elapsed⟩ := ih
    exact ⟨r, ended.reachable.hasResult_step hs hr, elapsed⟩

/-! ### The order of results -/

theorem Reachable.elapsed_of_mem_results (reach : Reachable b s) (hr : r ∈ s.results) :
    r.elapsed ≤ Clock.since s.now b.start := by
  rw [results_eq_delivered] at hr
  obtain ⟨⟨i, r⟩, hmem, rfl⟩ := List.mem_map.mp hr
  exact reach.elapsed_le (i := i) (.inl hmem)

/-- What a step delivers took as long as the batch did so far. -/
theorem Reachable.results_step (reach : Reachable b s) (hs : Step b s t) :
    ∃ rs, t.results = s.results ++ rs ∧ ∀ r ∈ rs, r.elapsed = Clock.since s.now b.start := by
  obtain ⟨es, hlog, hes⟩ := reach.adds_of_step hs
  refine ⟨es.filterMap Event.result?, by rw [State.results, hlog, List.filterMap_append]; rfl, fun r hr => ?_⟩
  obtain ⟨e, he, heq⟩ := List.mem_filterMap.mp hr
  have isAt := hes e he
  cases e with
  | finished j r' =>
    cases heq
    exact isAt
  | tokenTaken | refused | ended | brokeOff | breaker | called => cases heq

theorem Reachable.pairwise_elapsed (reach : Reachable b s) : s.results.Pairwise (fun r r' => r.elapsed ≤ r'.elapsed) := by
  induction reach with
  | start => exact .nil
  | step reach hs ih =>
    obtain ⟨rs, hresults, hrs⟩ := reach.results_step hs
    rw [hresults, List.pairwise_append]
    refine ⟨ih, List.pairwise_iff_forall_sublist.mpr fun hsub => ?_, fun r hr r' hr' => ?_⟩
    · have hmem := hsub.subset
      rw [hrs _ (hmem List.mem_cons_self), hrs _ (hmem (List.mem_cons_of_mem _ List.mem_cons_self))]
      exact Nat.le_refl _
    · rw [hrs r' hr']
      exact reach.elapsed_of_mem_results hr

/-! ### The end of the batch -/

/-- A batch is over as soon as its last result is delivered, or at its start if it has no targets. -/
theorem Reachable.last_elapsed (reach : Reachable b s) (ended : s.isOver = true) :
    b.targets = [] ∧ s.now = b.start ∨ ∃ r ∈ s.results, r.elapsed = Clock.since s.now b.start := by
  induction reach with
  | start =>
    refine .inl ⟨?_, rfl⟩
    by_contra hne
    obtain ⟨target, rest, heq⟩ := List.exists_cons_of_ne_nil hne
    simp [State.isOver, initial, heq] at ended
  | @step s t reach hs ih =>
    cases hs with
    | stop _ => exact ih ended
    | move i can =>
      exfalso
      cases (moved_move (b := b) can).leaves with
      | going still => exact still (phase_of_isOver ended i)
      | ended e _ exits => simp [exits_of_isOver ended] at exits
    | collect i e he =>
      refine .inr ⟨b.resultOf i s e, by simp [State.results, collect, State.note, Event.result?], ?_⟩
      rw [reach.accounted.resultOf he]
      exact reach.prompt i e he
    | wait later _ _ _ going _ => exact absurd (going.symm.trans ended) (by decide)

/-- The results of a batch are delivered in the order of their durations. Every worker starts with the batch, and the
    duration of its result is the time from there until the worker ended. The batch itself takes as long as the longest. -/
theorem results_in_order_of_duration (reach : Reachable b s) :
    (BatchReport.ofState b s).results.Pairwise (fun r r' => r.elapsed ≤ r'.elapsed) ∧
      (∀ i, s.phase i = .fresh → s.now = b.start) ∧
      (∀ i r, (i, r) ∈ s.delivered →
        (∃ τ, EndedAt b i τ s) ∧ ∀ τ, EndedAt b i τ s → r.elapsed = Clock.since τ b.start) ∧
      (s.isOver = true →
        (∀ r ∈ (BatchReport.ofState b s).results, r.elapsed ≤ (BatchReport.ofState b s).took) ∧
          if b.targets = [] then (BatchReport.ofState b s).took = Span.zero
          else ∃ r ∈ (BatchReport.ofState b s).results, r.elapsed = (BatchReport.ofState b s).took) := by
  refine ⟨reach.pairwise_elapsed, fun _ fresh => reach.now_of_fresh fresh, fun i r hr => ⟨?_, fun τ h => ?_⟩,
    fun ended => ⟨fun r hr => reach.elapsed_of_mem_results hr, ?_⟩⟩
  · have acc := reach.accounted
    exact reach.exists_endedAt (acc.lt_of_hasResult (.inl hr)) (acc.done_of_hasResult (.inl hr))
  · obtain ⟨r', hr', elapsed⟩ := h.exists_result
    rwa [reach.accounted.hasResult_unique (.inl hr) hr']
  · rcases reach.last_elapsed ended with ⟨hnil, hnow⟩ | ⟨r, hr, elapsed⟩
    · rw [if_pos hnil]
      show Clock.since s.now b.start = _
      rw [hnow]
      simp [Clock.since, Span.ofNanos, Span.zero]
    · rw [if_neg]
      · exact ⟨r, hr, elapsed⟩
      · rintro hnil
        rw [results_eq_delivered] at hr
        obtain ⟨⟨i, r⟩, hmem, -⟩ := List.mem_map.mp hr
        have hi := reach.accounted.lt_of_hasResult (.inl hmem)
        simp [hnil] at hi

end Durations

/-! ### A batch whose workers end in different ways -/

/-- One target is fetched in 5 ms, the call for another breaks off after 10 ms, and the third never answers. -/
def motleyScript : Script :=
  { replies :=
      [("a", [{ after := Span.ofMillis 5, ending := .outcome (.completed 200 7) }]),
       ("b", [{ after := Span.ofMillis 10, ending := .panic "broken" }])]
    fallback := { ending := .never } }

/-- It is given up after 20 ms. -/
def motley : Batch :=
  { targets := ["c", "b", "a"], start := 3000000, limits := .ofConfig {}, breaker := .ofConfig {}, scope := .host
    retry := .ofConfig {}, permits := none, transport := motleyScript.transport
    cancelAt := some (Clock.due 3000000 (Span.ofMillis 20)), deadline := Clock.timer 3000000 (Span.ofSeconds 30) }

def motleyEnd : State := motley.run 20 motley.initial

theorem reachable_motleyEnd : Reachable motley motleyEnd := Reachable.start.run 20

/-- The last result is that of the worker that was given up, and the batch took as long. -/
theorem results_in_order_of_duration_motley :
    (BatchReport.ofState motley motleyEnd).results.Pairwise (fun r r' => r.elapsed ≤ r'.elapsed) ∧
      (BatchReport.ofState motley motleyEnd).results.map (fun r => (r.target, r.outcome.kind, r.elapsed)) =
        [("a", none, Span.ofMillis 5), ("b", some .internal, Span.ofMillis 10), ("c", some .cancelled, Span.ofMillis 20)] ∧
      (BatchReport.ofState motley motleyEnd).took = Span.ofMillis 20 ∧
      ∃ r ∈ (BatchReport.ofState motley motleyEnd).results,
        r.elapsed = (BatchReport.ofState motley motleyEnd).took := by
  obtain ⟨inOrder, -, -, ended⟩ := results_in_order_of_duration reachable_motleyEnd
  obtain ⟨-, last⟩ := ended (by decide +kernel)
  exact ⟨inOrder, by decide +kernel, by decide +kernel, last⟩

end BatchFetch.Batch
