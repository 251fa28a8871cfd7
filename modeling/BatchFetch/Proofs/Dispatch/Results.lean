import BatchFetch.Proofs.Dispatch.Accounting

/-! # The result of a worker

A worker that has ended has one result: the one that it left or, if it broke off, the one that is reported for it.
The result is there from the move on with which the worker ends, is delivered at that same time, and
never changes. -/

namespace BatchFetch.Batch

/-! ### What a move leaves -/

/-- Whether an event is one of a worker. -/
def Event.IsOf (i : Nat) : Event → Prop
  | .tokenTaken j _ | .refused j _ _ | .called j _ _ _ | .ended j _ _ | .brokeOff j _ _ | .finished j _ => j = i
  | .breaker _ _ => True

/-- Whether an event says of itself that it happened at a time. -/
def Event.IsAt (b : Batch) (now : Nat) : Event → Prop
  | .refused _ t _ | .ended _ t _ | .brokeOff _ t _ => t = now
  | .called _ call _ _ => call.time = now
  | .finished _ r => r.elapsed = Clock.since now b.start
  | .tokenTaken _ _ | .breaker _ _ => True

/-- The result of a worker that has ended so, when it is collected at a time. -/
def Exit.resultAt (b : Batch) (i now : Nat) : Exit → FetchResult
  | .result r => r
  | .panic m => .finished (b.target i) (.failed .internal (brokeOffMessage i m)) 1 (Clock.since now b.start)

/-- What a move adds to a log: nothing that is delivered, and what is of the worker and of the time. -/
def Adds (b : Batch) (i now : Nat) (es : List Event) : Prop :=
  ∀ e ∈ es, e.IsOf i ∧ e.IsAt b now ∧ e.delivered? = none

/-- A move leaves its worker at work, or ends it with an exit of that time. -/
inductive Leaves (b : Batch) (i : Nat) (s t : State) : Prop where
  | going (going : t.phase i ≠ .done) (exits : t.exits = s.exits)
  | ended (e : Exit) (done : t.phase i = .done) (exits : t.exits = s.exits ++ [(i, e)])
      (elapsed : (e.resultAt b i s.now).elapsed = Clock.since s.now b.start)

section Moves
variable {b : Batch} {s t : State} {i j now : Nat} {es es' : List Event}

theorem adds_nil : Adds b i now [] := by simp [Adds]

theorem Adds.append (h : Adds b i now es) (h' : Adds b i now es') : Adds b i now (es ++ es') :=
  List.forall_mem_append.mpr ⟨h, h'⟩

theorem adds_singleton {e : Event} (isOf : e.IsOf i) (isAt : e.IsAt b now) (delivered : e.delivered? = none) :
    Adds b i now [e] := by
  simpa [Adds] using ⟨isOf, isAt, delivered⟩

theorem adds_noted {α : Type} {turn : Breaker.Turn α} : Adds b i now (b.noted i turn) := by
  intro e he
  obtain ⟨n, -, rfl⟩ := List.mem_map.mp he
  exact ⟨trivial, trivial, rfl⟩

theorem Starts.adds {retries : UInt32} {bucket : Bucket} (h : Starts b i s retries bucket es) : Adds b i s.now es := by
  cases h with
  | token since wake _ _ _ => exact adds_singleton rfl trivial rfl
  | retry _ wake _ => exact adds_nil

theorem Adds.delivered? (h : Adds b i now es) : es.filterMap Event.delivered? = [] :=
  List.filterMap_eq_nil_iff.mpr fun e he => (h e he).2.2

theorem Moved.adds (m : Moved b i s t) : ∃ es, t.log = s.log ++ es ∧ Adds b i s.now es := by
  cases m with
  | queued _ _ eq => exact ⟨[], log_append_nil (agrees_of_unqueued eq).log, adds_nil⟩
  | passed _ _ eq => exact ⟨[], log_append_nil (agrees_of_unqueued eq).log, adds_nil⟩
  | waits _ _ _ _ _ _ _ eq => exact ⟨[], log_append_nil (agrees_of_unqueued eq).log, adds_nil⟩
  | called _ _ _ _ starts _ _ eq =>
    exact ⟨_, (agrees_of_unqueued eq).log, (starts.adds.append adds_noted).append (adds_singleton rfl rfl rfl)⟩
  | refused _ _ _ _ starts _ _ eq =>
    exact ⟨_, (agrees_of_unqueued eq).log, (starts.adds.append adds_noted).append (adds_singleton rfl rfl rfl)⟩
  | failed _ _ _ _ _ _ _ _ eq =>
    refine ⟨_, (agrees_of_unqueued eq).log, .append ?_ adds_noted⟩
    exact adds_singleton rfl rfl rfl
  | ended _ _ _ _ _ _ _ _ eq =>
    refine ⟨_, (agrees_of_unqueued eq).log, .append ?_ adds_noted⟩
    exact adds_singleton rfl rfl rfl
  | brokeOff _ _ _ _ _ _ _ _ eq =>
    refine ⟨_, (agrees_of_unqueued eq).log, .append ?_ adds_noted⟩
    exact adds_singleton rfl rfl rfl
  | cancelled _ _ _ eq => exact ⟨[], log_append_nil (agrees_of_unqueued eq).log, adds_nil⟩

theorem phase_self {p : Phase} (hphases : t.phases = s.phases.set i p) (hi : s.phase i ≠ .done) : t.phase i = p := by
  rw [phase_set hphases hi, if_pos rfl]

theorem Moved.leaves (m : Moved b i s t) : Leaves b i s t := by
  have hi := m.before
  cases m with
  | queued _ _ eq =>
    have h := agrees_of_unqueued eq
    exact .going (by simp [phase_self h.phases hi]) h.exits
  | passed _ _ eq =>
    have h := agrees_of_unqueued eq
    exact .going (by simp [phase_self h.phases hi]) h.exits
  | waits _ _ _ _ _ _ _ eq =>
    have h := agrees_of_unqueued eq
    exact .going (by simp [phase_self h.phases hi]) h.exits
  | called _ _ _ _ _ _ _ eq =>
    have h := agrees_of_unqueued eq
    exact .going (by simp [phase_self h.phases hi]) h.exits
  | failed _ _ _ _ _ _ _ _ eq =>
    have h := agrees_of_unqueued eq
    exact .going (by simp [phase_self h.phases hi]) h.exits
  | refused _ _ _ _ _ _ _ eq =>
    have h := agrees_of_unqueued eq
    exact .ended _ (phase_self h.phases hi) h.exits rfl
  | ended _ _ _ _ _ _ _ _ eq =>
    have h := agrees_of_unqueued eq
    exact .ended _ (phase_self h.phases hi) h.exits rfl
  | brokeOff _ _ _ _ _ _ _ _ eq =>
    have h := agrees_of_unqueued eq
    exact .ended _ (phase_self h.phases hi) h.exits rfl
  | cancelled _ _ _ eq =>
    have h := agrees_of_unqueued eq
    exact .ended _ (phase_self h.phases hi) h.exits rfl

theorem Moved.delivered (m : Moved b i s t) : t.delivered = s.delivered := by
  obtain ⟨es, hlog, hes⟩ := m.adds
  rw [State.delivered, hlog, List.filterMap_append, hes.delivered?, List.append_nil]
  rfl

theorem delivered_collect {e : Exit} : (b.collect i e s).delivered = s.delivered ++ [(i, b.resultOf i s e)] := by
  simp [State.delivered, Batch.collect, State.note, Event.delivered?]

end Moves

/-! ### The result -/

/-- A worker has a result: it was delivered, or the worker has ended with it and waits to be collected. -/
def HasResult (b : Batch) (s : State) (i : Nat) (r : FetchResult) : Prop :=
  (i, r) ∈ s.delivered ∨ ∃ e, (i, e) ∈ s.exits ∧ r = e.resultAt b i s.now

/-- A worker rests in a step: it stays where it is and gets no result, and what is logged is of others or a delivery. -/
structure Rests (b : Batch) (i : Nat) (s t : State) : Prop where
  phase : t.phase i = s.phase i
  log : ∃ es, t.log = s.log ++ es ∧ ∀ e ∈ es, (∃ j, j ≠ i ∧ e.IsOf j) ∨ e.delivered?.isSome
  result : ∀ r, HasResult b t i r → HasResult b s i r

/-- Those who wait to be collected have ended just now. -/
def Prompt (b : Batch) (s : State) : Prop :=
  ∀ i e, (i, e) ∈ s.exits → (e.resultAt b i s.now).elapsed = Clock.since s.now b.start

section Results
variable {b : Batch} {s t : State} {i j : Nat} {r r' : FetchResult} {e : Exit}

theorem Rests.mem_log (h : Rests b i s t) {e : Event} (he : e ∈ s.log) : e ∈ t.log := by
  obtain ⟨es, hlog, -⟩ := h.log
  rw [hlog]
  exact List.mem_append_left es he

theorem Accounted.resultOf (h : Accounted b s) (he : (i, e) ∈ s.exits) : b.resultOf i s e = e.resultAt b i s.now := by
  cases e with
  | result r => rfl
  | panic m => simp [Batch.resultOf, Exit.resultAt, h.pending_of_exit he]

theorem mem_places (h : HasResult b s i r) : i ∈ s.delivered.map (·.1) ∨ i ∈ s.exits.map (·.1) := by
  rcases h with hmem | ⟨e, hmem, -⟩
  · exact .inl (List.mem_map.mpr ⟨_, hmem, rfl⟩)
  · exact .inr (List.mem_map.mpr ⟨_, hmem, rfl⟩)

theorem Accounted.done_of_hasResult (h : Accounted b s) (hr : HasResult b s i r) : s.phase i = .done := by
  by_contra hi
  have honce := h.once i
  rw [if_neg hi] at honce
  have hle : (if i < b.targets.length then 1 else 0) ≤ 1 := by split <;> decide
  rcases mem_places hr with hmem | hmem
  · have := List.count_pos_iff.mpr hmem
    omega
  · have := List.count_pos_iff.mpr hmem
    omega

theorem eq_of_count_le_one {α : Type} {l : List (Nat × α)} {x y : α} (h : (l.map (·.1)).count i ≤ 1) (hx : (i, x) ∈ l)
    (hy : (i, y) ∈ l) : x = y := by
  obtain ⟨l₁, l₂, rfl⟩ := List.append_of_mem hx
  rcases List.mem_append.mp hy with hy | hy
  · have := List.count_pos_iff.mpr (List.mem_map.mpr ⟨_, hy, rfl⟩ : i ∈ l₁.map (·.1))
    simp at h
    omega
  · rcases List.mem_cons.mp hy with hy | hy
    · cases hy
      rfl
    · have := List.count_pos_iff.mpr (List.mem_map.mpr ⟨_, hy, rfl⟩ : i ∈ l₂.map (·.1))
      simp at h
      omega

/-- A worker has no more than one result. -/
theorem Accounted.hasResult_unique (h : Accounted b s) (hr : HasResult b s i r) (hr' : HasResult b s i r') : r = r' := by
  have honce := h.once i
  have hle : (if i < b.targets.length then 1 else 0) ≤ 1 := by split <;> decide
  have hpos : ∀ {x}, (i, x) ∈ s.delivered → 0 < (s.delivered.map (·.1)).count i := fun hx =>
    List.count_pos_iff.mpr (List.mem_map.mpr ⟨_, hx, rfl⟩)
  have hpos' : ∀ {x}, (i, x) ∈ s.exits → 0 < (s.exits.map (·.1)).count i := fun hx =>
    List.count_pos_iff.mpr (List.mem_map.mpr ⟨_, hx, rfl⟩)
  rcases hr with hr | ⟨e, he, rfl⟩ <;> rcases hr' with hr' | ⟨e', he', rfl⟩
  · exact eq_of_count_le_one (by omega) hr hr'
  · have := hpos hr
    have := hpos' he'
    omega
  · have := hpos hr'
    have := hpos' he
    omega
  · rw [eq_of_count_le_one (by omega) he he']

theorem Accounted.target_of_hasResult (h : Accounted b s) (hr : HasResult b s i r) : r.target = b.target i := by
  rcases hr with hr | ⟨e, he, rfl⟩
  · exact (h.delivered i r hr).1
  · cases e with
    | result r => exact (h.exits i _ he).1
    | panic m => rfl

theorem Accounted.lt_of_hasResult (h : Accounted b s) (hr : HasResult b s i r) : i < b.targets.length := by
  by_contra hi
  have honce := h.once i
  rw [if_neg hi] at honce
  rcases mem_places hr with hmem | hmem
  · have := List.count_pos_iff.mpr hmem
    omega
  · have := List.count_pos_iff.mpr hmem
    omega

/-- A worker that has ended has a result. -/
theorem Accounted.exists_result (h : Accounted b s) (hi : i < b.targets.length) (done : s.phase i = .done) :
    ∃ r, HasResult b s i r := by
  have honce := h.once i
  rw [if_pos hi, if_pos done] at honce
  by_cases hdelivered : i ∈ s.delivered.map (·.1)
  · obtain ⟨⟨j, r⟩, hr, rfl⟩ := List.mem_map.mp hdelivered
    exact ⟨r, .inl hr⟩
  · have hexit : i ∈ s.exits.map (·.1) := by
      refine List.count_pos_iff.mp ?_
      have := List.count_eq_zero.mpr hdelivered
      omega
    obtain ⟨⟨j, e⟩, he, rfl⟩ := List.mem_map.mp hexit
    exact ⟨_, .inr ⟨e, he, rfl⟩⟩

theorem hasResult_iff_of_isOver (ended : s.isOver = true) : HasResult b s i r ↔ (i, r) ∈ s.delivered := by
  unfold HasResult
  rw [exits_of_isOver ended]
  simp

/-! ### What a step does to results -/

theorem Moved.hasResult (m : Moved b i s t) (hr : HasResult b s j r) : HasResult b t j r := by
  rcases hr with hr | ⟨e, he, rfl⟩
  · exact .inl (m.delivered ▸ hr)
  · refine .inr ⟨e, ?_, by rw [m.frame.1]⟩
    cases m.leaves with
    | going _ exits => exact exits ▸ he
    | ended e' _ exits _ =>
      rw [exits]
      exact List.mem_append_left _ he

/-- Only the worker that moves can get a result by it. -/
theorem Moved.hasResult_or (m : Moved b i s t) (hr : HasResult b t j r) :
    HasResult b s j r ∨ j = i ∧ ∃ e, t.exits = s.exits ++ [(i, e)] ∧ r = e.resultAt b i s.now := by
  rcases hr with hr | ⟨e, he, rfl⟩
  · exact .inl (.inl (m.delivered ▸ hr))
  · rw [m.frame.1]
    cases m.leaves with
    | going _ exits => exact .inl (.inr ⟨e, exits ▸ he, rfl⟩)
    | ended e' _ exits _ =>
      rw [exits, List.mem_append, List.mem_singleton] at he
      rcases he with he | he
      · exact .inl (.inr ⟨e, he, rfl⟩)
      · cases he
        exact .inr ⟨rfl, e, exits, rfl⟩

/-- The result of a worker that ends with this move is what it leaves. -/
theorem Moved.eq_resultAt (m : Moved b i s t) (acc : Accounted b s) (exits : t.exits = s.exits ++ [(i, e)])
    (hr : HasResult b t i r) : r = e.resultAt b i s.now := by
  rcases m.hasResult_or hr with hold | ⟨-, e', exits', rfl⟩
  · exact absurd (acc.done_of_hasResult hold) m.before
  · have : (i, e) = (i, e') := by simpa using exits.symm.trans exits'
    cases this
    rfl

theorem Accounted.hasResult_collect (h : Accounted b s) (he : (i, e) ∈ s.exits) :
    HasResult b (b.collect i e s) j r ↔ HasResult b s j r := by
  have hexits : s.exits.Perm ((i, e) :: (b.collect i e s).exits) := List.perm_cons_erase he
  unfold HasResult
  rw [delivered_collect, h.resultOf he]
  constructor
  · rintro (hr | ⟨e', he', rfl⟩)
    · rcases List.mem_append.mp hr with hr | hr
      · exact .inl hr
      · cases List.mem_singleton.mp hr
        exact .inr ⟨e, he, rfl⟩
    · exact .inr ⟨e', hexits.mem_iff.mpr (List.mem_cons_of_mem _ he'), rfl⟩
  · rintro (hr | ⟨e', he', rfl⟩)
    · exact .inl (List.mem_append_left _ hr)
    · rcases List.mem_cons.mp (hexits.mem_iff.mp he') with heq | hrest
      · cases heq
        exact .inl (List.mem_append_right _ (List.mem_singleton_self _))
      · exact .inr ⟨e', hrest, rfl⟩

/-- A result stays, whatever the step. -/
theorem Reachable.hasResult_step (reach : Reachable b s) (hs : Step b s t) (hr : HasResult b s i r) :
    HasResult b t i r := by
  cases hs with
  | stop _ => exact hr
  | move j can => exact (moved_move can).hasResult hr
  | collect j e he => exact (reach.accounted.hasResult_collect he).mpr hr
  | wait later _ _ collected _ _ =>
    refine hr.imp_right fun ⟨e, he, _⟩ => absurd he ?_
    simp [collected]

/-- In a step a worker moves, or it rests. -/
theorem Reachable.moves_or_rests (reach : Reachable b s) (hs : Step b s t) (i : Nat) :
    s.canMove i = true ∧ t = b.move i s ∨ Rests b i s t := by
  cases hs with
  | stop _ => exact .inr ⟨rfl, ⟨[], log_append_nil rfl, by simp⟩, fun _ hr => hr⟩
  | move j can =>
    have m := moved_move (b := b) can
    by_cases hij : j = i
    · subst hij
      exact .inl ⟨can, rfl⟩
    · obtain ⟨es, hlog, hes⟩ := m.adds
      refine .inr ⟨m.phase_of_ne hij, ⟨es, hlog, fun e he => .inl ⟨j, hij, (hes e he).1⟩⟩, fun r hr => ?_⟩
      exact (m.hasResult_or hr).resolve_right fun hor => hij hor.1.symm
  | collect j e he =>
    refine .inr ⟨rfl, ⟨_, rfl, ?_⟩, fun r hr => (reach.accounted.hasResult_collect he).mp hr⟩
    exact fun e' he' => .inr (List.mem_singleton.mp he' ▸ rfl)
  | wait later _ _ collected _ _ =>
    refine .inr ⟨rfl, ⟨[], log_append_nil rfl, by simp⟩, fun r hr => hr.imp_right fun ⟨e, he, _⟩ => absurd he ?_⟩
    show (i, e) ∉ s.exits
    simp [collected]

theorem prompt_initial (b : Batch) : Prompt b b.initial := by
  intro i e he
  simp [initial] at he

theorem Prompt.step (h : Prompt b s) (hs : Step b s t) : Prompt b t := by
  cases hs with
  | stop _ => exact h
  | move i can =>
    have m := moved_move (b := b) can
    intro j e he
    rw [m.frame.1]
    cases m.leaves with
    | going _ exits => exact h j e (exits ▸ he)
    | ended e' _ exits elapsed =>
      rw [exits, List.mem_append, List.mem_singleton] at he
      rcases he with he | he
      · exact h j e he
      · cases he
        exact elapsed
  | collect i e _ => exact fun j e' he' => h j e' (List.mem_of_mem_erase he')
  | wait later _ _ collected _ _ => exact fun j e he => absurd (collected ▸ he) (by simp)

theorem Reachable.prompt (reach : Reachable b s) : Prompt b s := by
  induction reach with
  | start => exact prompt_initial b
  | step _ hs ih => exact ih.step hs

/-- The events of a step are of the time of the step. -/
theorem Reachable.adds_of_step (reach : Reachable b s) (hs : Step b s t) :
    ∃ es, t.log = s.log ++ es ∧ ∀ e ∈ es, e.IsAt b s.now := by
  cases hs with
  | stop _ => exact ⟨[], log_append_nil rfl, by simp⟩
  | move i can =>
    obtain ⟨es, hlog, hes⟩ := (moved_move (b := b) can).adds
    exact ⟨es, hlog, fun e he => (hes e he).2.1⟩
  | collect i e he =>
    refine ⟨[.finished i (b.resultOf i s e)], rfl, fun e' he' => ?_⟩
    rw [List.mem_singleton.mp he']
    show (b.resultOf i s e).elapsed = _
    rw [reach.accounted.resultOf he]
    exact reach.prompt i e he
  | wait later _ _ _ _ _ => exact ⟨[], log_append_nil rfl, by simp⟩

end Results

/-! ### Runs -/

/-- So many steps lead from one state to another. -/
inductive Steps (b : Batch) : Nat → State → State → Prop where
  | refl {s : State} : Steps b 0 s s
  | step {n : Nat} {s t u : State} (hs : Steps b n s t) (last : Step b t u) : Steps b (n + 1) s u

section Runs
variable {b : Batch} {s t : State} {n : Nat}

theorem Reachable.steps (reach : Reachable b s) (hs : Steps b n s t) : Reachable b t := by
  induction hs with
  | refl => exact reach
  | step _ last ih => exact (ih reach).step last

theorem Reachable.hasResult_steps (reach : Reachable b s) (hs : Steps b n s t) {i : Nat} {r : FetchResult}
    (hr : HasResult b s i r) : HasResult b t i r := by
  induction hs with
  | refl => exact hr
  | step hs last ih => exact (reach.steps hs).hasResult_step last (ih reach hr)

theorem Steps.head {u : State} (first : Step b s t) (hs : Steps b n t u) : Steps b (n + 1) s u := by
  induction hs with
  | refl => exact .step .refl first
  | step _ last ih => exact (ih first).step last

theorem Reachable.steps_run (reach : Reachable b s) (n : Nat) : ∃ k, Steps b k s (b.run n s) := by
  induction n generalizing s with
  | zero => exact ⟨0, .refl⟩
  | succ n ih =>
    unfold Batch.run
    split
    · rename_i t hn
      have hs := step_of_next reach.lined hn
      obtain ⟨k, hk⟩ := ih (reach.step hs)
      exact ⟨k + 1, hk.head hs⟩
    · exact ⟨0, .refl⟩

end Runs

end BatchFetch.Batch
