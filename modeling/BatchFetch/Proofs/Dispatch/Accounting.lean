import BatchFetch.Proofs.Assoc
import BatchFetch.Proofs.Dispatch.Running

/-! # Every target has its result

A worker is at work, or it has ended and waits to be collected, or its result was delivered. Each worker is
in exactly one of these places, so a batch that is over has delivered one result for each of its targets;
one for a worker that broke off carries the target that was kept for it. -/

namespace BatchFetch.Batch

def Event.delivered? : Event → Option (Nat × FetchResult)
  | .finished i r => some (i, r)
  | _ => none

/-- The results that were delivered so far, with their workers. -/
def State.delivered (s : State) : List (Nat × FetchResult) := s.log.filterMap Event.delivered?

/-- What a worker leaves is its own: a result of its target, after an attempt at least. -/
def Exit.Fits (b : Batch) (i : Nat) : Exit → Prop
  | .result r => r.target = b.target i ∧ 1 ≤ r.attempts
  | .panic _ => True

/-- Every worker is accounted for. -/
structure Accounted (b : Batch) (s : State) : Prop where
  once : ∀ i, (s.delivered.map (·.1)).count i + (s.exits.map (·.1)).count i +
    (if s.phase i = .done then 0 else 1) = if i < b.targets.length then 1 else 0
  pending : ∀ i < b.targets.length, i ∉ s.delivered.map (·.1) → s.pending.lookup i = some (b.target i)
  exits : ∀ i e, (i, e) ∈ s.exits → e.Fits b i
  delivered : ∀ i r, (i, r) ∈ s.delivered → r.target = b.target i ∧ 1 ≤ r.attempts
  broken : ∀ i t m, .brokeOff i t m ∈ s.log →
    (i, .panic m) ∈ s.exits ∨ ∃ r, (i, r) ∈ s.delivered ∧ r.outcome.kind = some .internal

/-! ### The invariant -/

section Steps
variable {b : Batch} {s t : State} {i : Nat}

theorem accounted_initial (b : Batch) : Accounted b b.initial where
  once i := by
    by_cases hi : i < b.targets.length <;> simp [initial, State.delivered, State.phase, hi]
  pending i hi _ := by
    show ((List.range b.targets.length).zip b.targets).lookup i = _
    rw [List.range_eq_range', lookup_zip_range']
    simp [target, hi]
  exits i e h := by simp [initial] at h
  delivered i r h := by simp [initial, State.delivered] at h
  broken i t m h := by simp [initial] at h

theorem Accounted.congr (h : Accounted b s) (hdone : ∀ i, t.phase i = .done ↔ s.phase i = .done) (hexits : t.exits = s.exits)
    (hpending : t.pending = s.pending) (hlog : t.log = s.log) : Accounted b t := by
  have hdelivered : t.delivered = s.delivered := by rw [State.delivered, hlog]; rfl
  exact
    { once := by simp only [hdelivered, hexits, hdone]; exact h.once
      pending := by rw [hdelivered, hpending]; exact h.pending
      exits := by rw [hexits]; exact h.exits
      delivered := by rw [hdelivered]; exact h.delivered
      broken := by rw [hdelivered, hexits, hlog]; exact h.broken }

/-- What is neither a delivery nor the end of a call that breaks off. -/
def Event.isQuiet : Event → Bool
  | .finished _ _ | .brokeOff _ _ _ => false
  | _ => true

theorem delivered_of_quiet {es : List Event} (h : ∀ e ∈ es, e.isQuiet = true) :
    es.filterMap Event.delivered? = [] ∧ ∀ j τ m, .brokeOff j τ m ∉ es := by
  refine ⟨List.filterMap_eq_nil_iff.mpr fun e he => ?_, fun j τ m hj => by simpa [Event.isQuiet] using h _ hj⟩
  have := h e he
  cases e <;> simp_all [Event.isQuiet, Event.delivered?]

theorem quiet_noted {α : Type} {turn : Breaker.Turn α} : ∀ e ∈ b.noted i turn, e.isQuiet = true := by
  intro e he
  obtain ⟨n, -, rfl⟩ := List.mem_map.mp he
  rfl

theorem Starts.quiet {retries : UInt32} {bucket : Bucket} {es : List Event} (h : Starts b i s retries bucket es) :
    ∀ e ∈ es, e.isQuiet = true := by
  cases h <;> simp [Event.isQuiet]

/-- What a move means for the account: a worker goes on, or ends with what is its own, or breaks off. -/
inductive Booked (b : Batch) (i : Nat) (s t : State) : Prop where
  | stays (p : Phase) (es : List Event) (going : p ≠ .done) (phases : t.phases = s.phases.set i p)
      (exits : t.exits = s.exits) (log : t.log = s.log ++ es) (quiet : ∀ e ∈ es, e.isQuiet = true)
  | ends (e : Exit) (es : List Event) (fits : e.Fits b i) (phases : t.phases = s.phases.set i .done)
      (exits : t.exits = s.exits ++ [(i, e)]) (log : t.log = s.log ++ es) (quiet : ∀ e ∈ es, e.isQuiet = true)
  | breaks (message : String) (time : Nat) (es : List Event) (phases : t.phases = s.phases.set i .done)
      (exits : t.exits = s.exits ++ [(i, .panic message)]) (log : t.log = s.log ++ (.brokeOff i time message :: es))
      (quiet : ∀ e ∈ es, e.isQuiet = true)

theorem Moved.booked (m : Moved b i s t) : Booked b i s t := by
  have fits : ∀ (o : Outcome) (n : Nat), (Exit.result (b.resultNow i o n s)).Fits b i :=
    fun o n => ⟨rfl, FetchResult.one_le_attempts_finished ..⟩
  cases m with
  | queued _ _ eq =>
    have h := agrees_of_unqueued eq
    exact .stays .queued [] (by simp) h.phases h.exits (log_append_nil h.log) (by simp)
  | passed _ _ eq =>
    have h := agrees_of_unqueued eq
    exact .stays _ [] (by simp) h.phases h.exits (log_append_nil h.log) (by simp)
  | waits _ _ _ _ _ _ _ eq =>
    have h := agrees_of_unqueued eq
    exact .stays _ [] (by simp) h.phases h.exits (log_append_nil h.log) (by simp)
  | called _ _ _ _ starts _ _ eq =>
    have h := agrees_of_unqueued eq
    refine .stays _ _ (by simp) h.phases h.exits h.log ?_
    simpa only [List.forall_mem_append, List.forall_mem_singleton] using ⟨⟨starts.quiet, quiet_noted⟩, rfl⟩
  | refused _ _ _ _ starts _ _ eq =>
    have h := agrees_of_unqueued eq
    refine .ends _ _ (fits _ _) h.phases h.exits h.log ?_
    simpa only [List.forall_mem_append, List.forall_mem_singleton] using ⟨⟨starts.quiet, quiet_noted⟩, rfl⟩
  | failed _ _ _ _ _ _ _ _ eq =>
    have h := agrees_of_unqueued eq
    refine .stays _ _ (by simp) h.phases h.exits h.log ?_
    simpa only [List.forall_mem_append, List.forall_mem_singleton] using ⟨rfl, quiet_noted⟩
  | ended _ _ _ _ _ _ _ _ eq =>
    have h := agrees_of_unqueued eq
    refine .ends _ _ (fits _ _) h.phases h.exits h.log ?_
    simpa only [List.forall_mem_append, List.forall_mem_singleton] using ⟨rfl, quiet_noted⟩
  | brokeOff _ _ _ _ message _ _ _ eq =>
    have h := agrees_of_unqueued eq
    exact .breaks message s.now _ h.phases h.exits h.log quiet_noted
  | cancelled _ _ _ eq =>
    have h := agrees_of_unqueued eq
    exact .ends _ [] (fits _ _) h.phases h.exits (log_append_nil h.log) (by simp)

theorem Accounted.stays (h : Accounted b s) {p : Phase} (hp : p ≠ .done) (hi : s.phase i ≠ .done)
    (hphases : t.phases = s.phases.set i p) (hexits : t.exits = s.exits) (hpending : t.pending = s.pending)
    (hdelivered : t.delivered = s.delivered) (hbroken : ∀ j τ m, .brokeOff j τ m ∈ t.log → .brokeOff j τ m ∈ s.log) :
    Accounted b t where
  once j := by
    have := h.once j
    rw [hdelivered, hexits, phase_set hphases hi]
    by_cases hij : i = j
    · subst hij
      simpa [hp, hi] using this
    · simpa [hij] using this
  pending := by
    rw [hdelivered, hpending]
    exact h.pending
  exits := by
    rw [hexits]
    exact h.exits
  delivered := by
    rw [hdelivered]
    exact h.delivered
  broken j τ m hj := by
    rw [hdelivered, hexits]
    exact h.broken j τ m (hbroken j τ m hj)

theorem Accounted.ends (h : Accounted b s) {e : Exit} (hfits : e.Fits b i) (hi : s.phase i ≠ .done)
    (hphases : t.phases = s.phases.set i .done) (hexits : t.exits = s.exits ++ [(i, e)])
    (hpending : t.pending = s.pending) (hdelivered : t.delivered = s.delivered)
    (hbroken : ∀ j τ m, .brokeOff j τ m ∈ t.log → .brokeOff j τ m ∈ s.log ∨ j = i ∧ e = .panic m) :
    Accounted b t where
  once j := by
    have := h.once j
    rw [hdelivered, hexits, phase_set hphases hi, List.map_append, List.count_append]
    by_cases hij : i = j
    · subst hij
      simp only [if_neg hi] at this
      simp
      omega
    · simpa [hij, List.count_singleton] using this
  pending := by
    rw [hdelivered, hpending]
    exact h.pending
  exits j e' hj := by
    rw [hexits, List.mem_append, List.mem_singleton] at hj
    rcases hj with hj | hj
    · exact h.exits j e' hj
    · cases hj
      exact hfits
  delivered := by
    rw [hdelivered]
    exact h.delivered
  broken j τ m hj := by
    rw [hexits, hdelivered]
    rcases hbroken j τ m hj with hj | ⟨rfl, rfl⟩
    · exact (h.broken j τ m hj).imp_left (List.mem_append_left _)
    · exact Or.inl (by simp)

theorem Accounted.move (h : Accounted b s) (m : Moved b i s t) : Accounted b t := by
  have hpending := m.frame.2.2.2
  have hi := m.before
  cases m.booked with
  | stays p es going phases exits log quiet =>
    obtain ⟨hes, hbroken⟩ := delivered_of_quiet quiet
    refine h.stays going hi phases exits hpending ?_ fun j τ m hj => ?_
    · rw [State.delivered, log, List.filterMap_append, hes, List.append_nil, State.delivered]
    · rw [log, List.mem_append, or_iff_left (hbroken j τ m)] at hj
      exact hj
  | ends e es fits phases exits log quiet =>
    obtain ⟨hes, hbroken⟩ := delivered_of_quiet quiet
    refine h.ends fits hi phases exits hpending ?_ fun j τ m hj => ?_
    · rw [State.delivered, log, List.filterMap_append, hes, List.append_nil, State.delivered]
    · rw [log, List.mem_append, or_iff_left (hbroken j τ m)] at hj
      exact Or.inl hj
  | breaks message time es phases exits log quiet =>
    obtain ⟨hes, hbroken⟩ := delivered_of_quiet quiet
    refine h.ends (e := .panic message) trivial hi phases exits hpending ?_ fun j τ m hj => ?_
    · rw [State.delivered, log, List.filterMap_append, List.filterMap_cons_none rfl, hes, List.append_nil,
        State.delivered]
    · rw [log, List.mem_append, List.mem_cons, or_iff_left (hbroken j τ m), Event.brokeOff.injEq] at hj
      exact hj.imp_right fun ⟨hj, _, hm⟩ => ⟨hj, hm ▸ rfl⟩

theorem count_exits_pos {e : Exit} (he : (i, e) ∈ s.exits) : 0 < (s.exits.map (·.1)).count i :=
  List.count_pos_iff.mpr (List.mem_map.mpr ⟨_, he, rfl⟩)

theorem Accounted.lt_of_exit (h : Accounted b s) {e : Exit} (he : (i, e) ∈ s.exits) : i < b.targets.length := by
  by_contra hi
  have hcount := count_exits_pos he
  have honce := h.once i
  rw [if_neg hi] at honce
  omega

theorem Accounted.pending_of_exit (h : Accounted b s) {e : Exit} (he : (i, e) ∈ s.exits) :
    s.pending.lookup i = some (b.target i) := by
  have hi := h.lt_of_exit he
  refine h.pending i hi fun hmem => ?_
  have hcount := count_exits_pos he
  have hdelivered := List.count_pos_iff.mpr hmem
  have honce := h.once i
  rw [if_pos hi] at honce
  omega

theorem Accounted.collect (h : Accounted b s) {e : Exit} (he : (i, e) ∈ s.exits) : Accounted b (b.collect i e s) := by
  have hdelivered : (b.collect i e s).delivered = s.delivered ++ [(i, b.resultOf i s e)] := by
    simp [State.delivered, Batch.collect, State.note, Event.delivered?]
  have hexits : s.exits.Perm ((i, e) :: (b.collect i e s).exits) := List.perm_cons_erase he
  have hphase : (b.collect i e s).phase = s.phase := rfl
  have hlookup := h.pending_of_exit he
  refine ⟨fun j => ?_, fun j hj hmem => ?_, fun j e' hj => ?_, fun j r hj => ?_, fun j τ m hj => ?_⟩
  · -- The worker moves from the exits to the results.
    have hcount := (hexits.map (·.1)).count_eq j
    have := h.once j
    rw [hdelivered, hphase, List.map_append, List.count_append]
    rw [List.map_cons, List.count_cons] at hcount
    simp only [List.map_cons, List.map_nil, List.count_singleton] at *
    omega
  · rw [hdelivered, List.map_append, List.mem_append, not_or] at hmem
    have hne : j ≠ i := by simpa using hmem.2
    show (s.pending.filter (·.1 != i)).lookup j = _
    rw [lookup_filter_ne hne]
    exact h.pending j hj hmem.1
  · exact h.exits j e' (hexits.mem_iff.mpr (List.mem_cons_of_mem _ hj))
  · rw [hdelivered, List.mem_append, List.mem_singleton] at hj
    rcases hj with hj | hj
    · exact h.delivered j r hj
    · cases hj
      cases e with
      | result r => exact h.exits i _ he
      | panic m => simp [resultOf, hlookup, FetchResult.one_le_attempts_finished]
  · have hj : .brokeOff j τ m ∈ s.log := by
      simpa [Batch.collect, State.note] using hj
    rw [hdelivered]
    rcases h.broken j τ m hj with hexit | ⟨r, hr, hkind⟩
    · rcases List.mem_cons.mp (hexits.mem_iff.mp hexit) with heq | hrest
      · cases heq
        exact Or.inr ⟨_, List.mem_append_right _ (List.mem_singleton_self _), rfl⟩
      · exact Or.inl hrest
    · exact Or.inr ⟨r, List.mem_append_left _ hr, hkind⟩

theorem Accounted.step (h : Accounted b s) (hs : Step b s t) : Accounted b t := by
  cases hs with
  | stop _ => exact h.congr (fun _ => .rfl) rfl rfl rfl
  | move i can => exact h.move (moved_move can)
  | collect i e ended => exact h.collect ended
  | wait later _ _ _ _ _ => exact h.congr (fun _ => .rfl) rfl rfl rfl

theorem Reachable.accounted (reach : Reachable b s) : Accounted b s := by
  induction reach with
  | start => exact accounted_initial b
  | step _ hs ih => exact ih.step hs

theorem Accounted.lt_of_going (h : Accounted b s) (going : s.phase i ≠ .done) : i < b.targets.length := by
  by_contra hi
  have honce := h.once i
  rw [if_neg going, if_neg hi] at honce
  omega

theorem Accounted.lt_of_canMove (h : Accounted b s) (can : s.canMove i = true) : i < b.targets.length :=
  h.lt_of_going (moved_move (b := b) can).before

/-! ### Batches that are over -/

theorem phase_of_isOver (ended : s.isOver = true) (i : Nat) : s.phase i = .done := by
  unfold State.isOver at ended
  rw [Bool.and_eq_true, List.all_eq_true] at ended
  unfold State.phase
  cases h : s.phases[i]? with
  | none => rfl
  | some p => simpa using ended.1 p (List.mem_of_getElem? h)

theorem exits_of_isOver (ended : s.isOver = true) : s.exits = [] := by
  unfold State.isOver at ended
  rw [Bool.and_eq_true, List.isEmpty_iff] at ended
  exact ended.2

/-- In a batch that is over each worker has had its result delivered once. -/
theorem Accounted.perm_of_isOver (h : Accounted b s) (ended : s.isOver = true) :
    (s.delivered.map (·.1)).Perm (List.range b.targets.length) := by
  refine List.perm_iff_count.mpr fun i => ?_
  have := h.once i
  rw [exits_of_isOver ended, phase_of_isOver ended] at this
  rw [List.count_range]
  simpa using this

theorem results_eq_delivered (s : State) : s.results = s.delivered.map (·.2) := by
  unfold State.results State.delivered
  rw [List.map_filterMap]
  congr
  funext e
  cases e <;> rfl

theorem map_target_range (b : Batch) : (List.range b.targets.length).map b.target = b.targets := by
  refine List.ext_getElem (by simp) fun i hi _ => ?_
  have : i < b.targets.length := by simpa using hi
  simp [target, this]

theorem Accounted.targets_of_isOver (h : Accounted b s) (ended : s.isOver = true) :
    (s.results.map (·.target)).Perm b.targets := by
  have hmap : s.results.map (·.target) = (s.delivered.map (·.1)).map b.target := by
    rw [results_eq_delivered, List.map_map, List.map_map]
    exact List.map_congr_left fun ⟨i, r⟩ hr => (h.delivered i r hr).1
  rw [hmap, ← map_target_range b]
  exact (h.perm_of_isOver ended).map _

theorem Accounted.length_results (h : Accounted b s) (ended : s.isOver = true) : s.results.length = b.targets.length := by
  rw [← List.length_map (f := (·.target))]
  exact (h.targets_of_isOver ended).length_eq

/-- The result of each worker is delivered in one place only. -/
theorem Accounted.delivered_eq (h : Accounted b s) (ended : s.isOver = true) {i : Nat} (hi : i < b.targets.length) :
    ∃ r, s.delivered.filter (·.1 == i) = [(i, r)] := by
  have hcount : (s.delivered.filter (·.1 == i)).length = 1 := by
    have := h.once i
    rw [exits_of_isOver ended, phase_of_isOver ended, if_pos hi] at this
    rw [← List.countP_eq_length_filter]
    simpa [List.count_eq_countP, List.countP_map, Function.comp_def] using this
  obtain ⟨⟨j, r⟩, hr⟩ := List.length_eq_one_iff.mp hcount
  have hj : (j, r) ∈ s.delivered.filter (·.1 == i) := by rw [hr]; exact List.mem_singleton_self _
  have : j = i := by simpa using (List.mem_filter.mp hj).2
  exact ⟨r, this ▸ hr⟩

end Steps

section Law
variable {c : Config} {targets : List String} {start : Nat} {cancelAfter : Option UInt64} {transport : Transport}
  {earlier : List Call} {draw : Nat → UInt32 → Nat} {b : Batch} {s : State}

theorem targets_of_built (built : ofConfig? c targets start cancelAfter transport earlier draw = some b) :
    b.targets = targets := by
  rw [eq_ofConfig built]

/-- A batch that is over has delivered one result for each of its targets: the targets of the results are
    those of the batch, each as often as it was given; every worker has one result under its own target,
    of kind internal if the worker broke off; and each result is one of an attempt at least. -/
theorem one_result_for_each_target
    (built : ofConfig? c targets start cancelAfter transport earlier draw = some b) (reach : Reachable b s)
    (ended : s.isOver = true) :
    (s.results.map (·.target)).Perm targets ∧
    (∀ i < targets.length, ∃ r, s.delivered.filter (·.1 == i) = [(i, r)] ∧ targets[i]? = some r.target ∧
      ((∃ t m, .brokeOff i t m ∈ s.log) → r.outcome.kind = some .internal)) ∧
    (∀ r ∈ s.results, 1 ≤ r.attempts) := by
  have htargets := targets_of_built built
  have h := reach.accounted
  refine ⟨htargets ▸ h.targets_of_isOver ended, fun i hi => ?_, fun r hr => ?_⟩
  · rw [← htargets] at hi ⊢
    obtain ⟨r, hr⟩ := h.delivered_eq ended hi
    have hmem : ∀ r', (i, r') ∈ s.delivered → r' = r := fun r' hr' => by
      have : (i, r') ∈ s.delivered.filter (·.1 == i) := List.mem_filter.mpr ⟨hr', by simp⟩
      rw [hr, List.mem_singleton] at this
      exact congrArg Prod.snd this
    have hr' : (i, r) ∈ s.delivered :=
      (List.mem_filter.mp (hr ▸ List.mem_singleton_self (i, r) : (i, r) ∈ s.delivered.filter (·.1 == i))).1
    refine ⟨r, hr, ?_, fun ⟨t, m, hbroke⟩ => ?_⟩
    · rw [(h.delivered i r hr').1, target, List.getElem?_eq_getElem hi]
      rfl
    · rcases h.broken i t m hbroke with hexit | ⟨r', hr', hkind⟩
      · simp [exits_of_isOver ended] at hexit
      · exact hmem r' hr' ▸ hkind
  · rw [results_eq_delivered] at hr
    obtain ⟨⟨i, r'⟩, hr', rfl⟩ := List.mem_map.mp hr
    exact (h.delivered i r' hr').2

end Law

/-! ### A batch with a call that breaks off -/

/-- One call at a time, no retries, and one failure opens a breaker for a second. -/
def sampleConfig : Config :=
  { retries := { maxRetries := 0 }
    circuitBreaker := { failureThreshold := 1, openDurationMs := 1000, scope := .url }
    dispatch := { maxConcurrency := some 1 } }

def sampleTransport : Transport := fun calls _ =>
  { ending := if calls.isEmpty then .panic "broken" else .outcome (.failed .connection "no route") }

/-- Three fetches of one target. -/
def sample : Batch :=
  { targets := ["a", "a", "a"], start := 0, limits := .ofConfig {}, breaker := .make 1 (Span.ofMillis 1000)
    scope := .url, retry := .ofConfig { maxRetries := 0 }, permits := some 1, transport := sampleTransport
    deadline := Clock.timer 0 (Span.ofSeconds 30) }

theorem built_sample :
    ofConfig? sampleConfig ["a", "a", "a"] 0 none sampleTransport [] (fun _ _ => 0) = some sample := rfl

def sampleEnd : State := sample.run 40 sample.initial

theorem reachable_sampleEnd : Reachable sample sampleEnd := Reachable.start.run 40

theorem isOver_sampleEnd : sampleEnd.isOver = true := by decide +kernel

/-- The worker that broke off has its result, of kind internal, beside those of the two others. -/
theorem one_result_for_each_target_sample :
    (sampleEnd.results.map (·.target)).Perm ["a", "a", "a"] ∧
      ∃ r, sampleEnd.delivered.filter (·.1 == 0) = [(0, r)] ∧ r.target = "a" ∧ r.outcome.kind = some .internal := by
  obtain ⟨targets, each, -⟩ := one_result_for_each_target built_sample reachable_sampleEnd isOver_sampleEnd
  obtain ⟨r, hr, htarget, hkind⟩ := each 0 (by decide)
  have hbroke : .brokeOff 0 0 "broken" ∈ sampleEnd.log := by decide +kernel
  exact ⟨targets, r, hr, (Option.some.inj htarget).symm, hkind ⟨0, "broken", hbroke⟩⟩

end BatchFetch.Batch
