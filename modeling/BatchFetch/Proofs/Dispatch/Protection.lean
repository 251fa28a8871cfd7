import BatchFetch.Proofs.Dispatch.Accounting
import BatchFetch.Proofs.Dispatch.Endpoint

/-! # Endpoints are protected

Whether an attempt becomes a call depends on the calls to its endpoint that have finished before: on the
failures since the latest success, on the time of the latest failure, and on whether a trial is in flight.
All of this is read off the log of the batch. The breakers do not occur in it, and neither do the retries and
waits of the workers that made the calls. -/

namespace BatchFetch

/-! ### Events in their order -/

/-- Everything in a list is related to what comes before it. -/
def EachAfter {α : Type} (P : List α → α → Prop) (l : List α) : Prop :=
  ∀ before x after, l = before ++ x :: after → P before x

section EachAfter
variable {α : Type} {P : List α → α → Prop} {l xs : List α} {x : α}

theorem eachAfter_nil : EachAfter P [] := by
  intro before x after h
  simp at h

theorem eachAfter_concat (h : EachAfter P l) (hx : P l x) : EachAfter P (l ++ [x]) := by
  intro before y after heq
  rcases List.eq_nil_or_concat after with rfl | ⟨after, z, rfl⟩
  · obtain ⟨rfl, hy⟩ := List.append_inj' heq rfl
    cases hy
    exact hx
  · rw [List.concat_eq_append, ← List.cons_append, ← List.append_assoc] at heq
    exact h before y after (List.append_inj' heq rfl).1

theorem eachAfter_append (h : EachAfter P l) (hxs : ∀ x ∈ xs, ∀ before, P before x) : EachAfter P (l ++ xs) := by
  induction xs using List.reverseRecOn with
  | nil => rwa [List.append_nil]
  | append_singleton xs x ih =>
    rw [← List.append_assoc]
    exact eachAfter_concat (ih fun y hy => hxs y (List.mem_append_left _ hy)) (hxs x (by simp) _)

end EachAfter

namespace Batch

/-! ### The calls to an endpoint -/

/-- What a call to an endpoint says about it when it has finished, and when that is. Without an error it
    is a success. It is a failure if there was no connection, no response in time, no whole response or
    the error of a server, and it says nothing otherwise. -/
def Event.verdictAt? (b : Batch) (key : String) : Event → Option (Nat × Verdict)
  | .ended i t o =>
    if b.key i = key then
      match o.kind with
      | none => some (t, .success)
      | some .connection | some .timeout | some .read | some .serverError => some (t, .failure)
      | some .cancelled | some .circuitOpen | some .invalidRequest | some .internal => none
    else none
  | .tokenTaken _ _ | .refused _ _ _ | .called _ _ _ _ | .brokeOff _ _ _ | .breaker _ _ | .finished _ _ => none

def Event.ending? : Event → Option Nat
  | .ended i _ _ | .brokeOff i _ _ => some i
  | .tokenTaken _ _ | .refused _ _ _ | .called _ _ _ _ | .breaker _ _ | .finished _ _ => none

def Event.attempt? : Event → Option (Nat × Nat)
  | .called i call _ _ => some (i, call.time)
  | .refused i t _ => some (i, t)
  | .tokenTaken _ _ | .ended _ _ _ | .brokeOff _ _ _ | .breaker _ _ | .finished _ _ => none

/-- What the calls to an endpoint have said about it. -/
def verdictsAt (b : Batch) (key : String) (log : List Event) : List (Nat × Verdict) :=
  log.filterMap (Event.verdictAt? b key)

/-- The number of failures of an endpoint since its latest success. -/
def failuresAt (b : Batch) (key : String) (log : List Event) : Nat :=
  ((verdictsAt b key log).rtakeWhile (·.2 != .success)).length

def latestFailureAt? (b : Batch) (key : String) (log : List Event) : Option Nat :=
  ((verdictsAt b key log).filter (·.2 == .failure)).getLast?.map (·.1)

/-- After an event a trial of an endpoint is still in flight: its call has not ended, and the endpoint has
    not failed. -/
def Event.KeepsTrial (b : Batch) (key : String) (i : Nat) (e : Event) : Prop :=
  e.ending? ≠ some i ∧ ∀ t, e.verdictAt? b key ≠ some (t, .failure)

def TrialOf (b : Batch) (key : String) (i : Nat) (log : List Event) : Prop :=
  ∃ call k, Since (.called i call k true) (Event.KeepsTrial b key i) log

/-- A call to an endpoint that was let through as a trial since its latest failure is still in flight. -/
def TrialInFlight (b : Batch) (key : String) (log : List Event) : Prop := ∃ i, b.key i = key ∧ TrialOf b key i log

/-- Whether an endpoint may be called. -/
def Available (b : Batch) (key : String) (log : List Event) (now : Nat) : Prop :=
  failuresAt b key log < b.breaker.threshold ∨
    ∃ t, latestFailureAt? b key log = some t ∧ t + b.breaker.coolDown.nanos ≤ now ∧ ¬TrialInFlight b key log

/-! ### What its breaker notices -/

section Noticed
variable {b : Batch} {key : String} {log log' : List Event} {now : Nat}

theorem verdicts_atKey : Breaker.verdicts (log.filterMap (Event.atKey? b key)) = verdictsAt b key log := by
  unfold Breaker.verdicts verdictsAt
  rw [List.filterMap_filterMap, List.filter_filterMap]
  congr
  funext e
  cases e with
  | ended i t o =>
    by_cases hkey : b.key i = key
    · cases hkind : o.kind with
      | none => simp [Event.atKey?, Event.verdictAt?, Breaker.Event.verdict?, Outcome.verdict, hkey, hkind]
      | some k =>
        cases k <;> simp [Event.atKey?, Event.verdictAt?, Breaker.Event.verdict?, Outcome.verdict,
          ErrorKind.countsAgainstBreaker, ErrorKind.isRetryable, hkey, hkind]
    · simp [Event.atKey?, Event.verdictAt?, hkey]
  | called i call k trial | refused i t r | brokeOff i t m =>
    by_cases hkey : b.key i = key <;> simp [Event.atKey?, Event.verdictAt?, Breaker.Event.verdict?, hkey]
  | tokenTaken | breaker | finished => rfl

theorem failureRun_atKey : Breaker.failureRun (log.filterMap (Event.atKey? b key)) = failuresAt b key log := by
  unfold Breaker.failureRun failuresAt
  rw [verdicts_atKey]

theorem latestFailure?_atKey :
    Breaker.latestFailure? (log.filterMap (Event.atKey? b key)) = latestFailureAt? b key log := by
  unfold Breaker.latestFailure? latestFailureAt?
  rw [verdicts_atKey]

theorem trialOf_concat {i : Nat} {e : Event} :
    TrialOf b key i (log ++ [e]) ↔ (∃ call k, e = .called i call k true) ∨ TrialOf b key i log ∧ e.KeepsTrial b key i := by
  unfold TrialOf
  simp only [since_concat]
  constructor
  · rintro ⟨call, k, h | ⟨h, hkeeps⟩⟩
    · exact .inl ⟨call, k, h⟩
    · exact .inr ⟨⟨call, k, h⟩, hkeeps⟩
  · rintro (⟨call, k, h⟩ | ⟨⟨call, k, h⟩, hkeeps⟩)
    · exact ⟨call, k, .inl h⟩
    · exact ⟨call, k, .inr ⟨h, hkeeps⟩⟩

theorem keepsTrial_ended {i j t : Nat} {o : Outcome} :
    (Event.ended j t o).KeepsTrial b key i ↔ j ≠ i ∧ ¬(b.key j = key ∧ o.verdict = .failure) := by
  unfold Event.KeepsTrial
  refine and_congr (by simp [Event.ending?]) ?_
  by_cases hkey : b.key j = key
  · cases hkind : o.kind with
    | none => simp [Event.verdictAt?, Outcome.verdict, hkey, hkind]
    | some k =>
      cases k <;> simp [Event.verdictAt?, Outcome.verdict, ErrorKind.countsAgainstBreaker, ErrorKind.isRetryable, hkey,
        hkind]
  · simp [Event.verdictAt?, hkey]

theorem inTrial_atKey {i : Nat} (hi : b.key i = key) :
    Breaker.InTrial (log.filterMap (Event.atKey? b key)) i ↔ TrialOf b key i log := by
  induction log using List.reverseRecOn with
  | nil => simp [Breaker.not_inTrial_nil, TrialOf, not_since_nil]
  | append_singleton log e ih =>
    rw [List.filterMap_append, trialOf_concat]
    cases e with
    | called j call k trial =>
      by_cases hj : b.key j = key
      · simp [Event.atKey?, hj, Breaker.inTrial_granted, ih, Event.KeepsTrial, Event.ending?, Event.verdictAt?, or_comm]
      · have hne : j ≠ i := fun h => hj (h ▸ hi)
        simp [Event.atKey?, hj, hne, ih, Event.KeepsTrial, Event.ending?, Event.verdictAt?]
    | refused j t r =>
      by_cases hj : b.key j = key <;>
        simp [Event.atKey?, hj, Breaker.inTrial_refused, ih, Event.KeepsTrial, Event.ending?, Event.verdictAt?]
    | ended j t o =>
      rw [keepsTrial_ended]
      by_cases hj : b.key j = key
      · simp [Event.atKey?, hj, Breaker.inTrial_ended, ih]
      · have hne : j ≠ i := fun h => hj (h ▸ hi)
        simp [Event.atKey?, hj, hne, ih]
    | brokeOff j t m =>
      by_cases hj : b.key j = key
      · simp [Event.atKey?, hj, Breaker.inTrial_ended, ih, Event.KeepsTrial, Event.ending?, Event.verdictAt?]
      · have hne : j ≠ i := fun h => hj (h ▸ hi)
        simp [Event.atKey?, hj, hne, ih, Event.KeepsTrial, Event.ending?, Event.verdictAt?]
    | tokenTaken | breaker | finished =>
      rw [List.filterMap_cons_none rfl, List.filterMap_nil, List.append_nil, ih]
      simp [Event.KeepsTrial, Event.ending?, Event.verdictAt?]

theorem trialInFlight_iff :
    TrialInFlight b key log ↔ ∃ i, b.key i = key ∧ Breaker.InTrial (log.filterMap (Event.atKey? b key)) i :=
  exists_congr fun _ => and_congr_right fun hi => (inTrial_atKey hi).symm

theorem key_of_inTrial {i : Nat} (h : Breaker.InTrial (log.filterMap (Event.atKey? b key)) i) : b.key i = key := by
  obtain ⟨l₁, l₂, h, -⟩ := h
  have hmem : .granted i true ∈ log.filterMap (Event.atKey? b key) := by simp [h]
  obtain ⟨e, -, he⟩ := List.mem_filterMap.mp hmem
  cases e <;> simp [Event.atKey?] at he
  exact he.2.1 ▸ he.1

/-- Whether an endpoint may be called depends on what its breaker notices only. -/
theorem available_iff :
    Available b key log now ↔ Breaker.failureRun (log.filterMap (Event.atKey? b key)) < b.breaker.threshold ∨
      ∃ t, Breaker.latestFailure? (log.filterMap (Event.atKey? b key)) = some t ∧ t + b.breaker.coolDown.nanos ≤ now ∧
        ¬∃ i, Breaker.InTrial (log.filterMap (Event.atKey? b key)) i := by
  have htrial : TrialInFlight b key log ↔ ∃ i, Breaker.InTrial (log.filterMap (Event.atKey? b key)) i := by
    rw [trialInFlight_iff]
    exact exists_congr fun _ => and_iff_right_of_imp key_of_inTrial
  unfold Available
  rw [failureRun_atKey, latestFailure?_atKey, htrial]

theorem available_append {es : List Event} (hes : es.filterMap (Event.atKey? b key) = []) :
    Available b key (log ++ es) now ↔ Available b key log now := by
  rw [available_iff, available_iff, List.filterMap_append, hes, List.append_nil]

theorem failuresAt_append {es : List Event} (hes : es.filterMap (Event.atKey? b key) = []) :
    failuresAt b key (log ++ es) = failuresAt b key log := by
  rw [← failureRun_atKey, ← failureRun_atKey, List.filterMap_append, hes, List.append_nil]

end Noticed

/-! ### One attempt -/

section Attempts
variable {b : Batch} {s t : State} {i : Nat}

/-- The breaker of a worker lets an attempt through exactly if the endpoint may be called. -/
theorem granted_iff_available (hc : b.breaker.Sound) (reach : Reachable b s) :
    (∃ p, (b.asked i s).answer = .granted p) ↔ Available b (b.key i) s.log s.now := by
  rw [available_iff]
  exact ((reach.history (b.key i)).inv hc).granted_iff hc

theorem trial_iff_failures (hc : b.breaker.Sound) (reach : Reachable b s) {p : Permit}
    (granted : (b.asked i s).answer = .granted p) :
    p.trial = true ↔ b.breaker.threshold ≤ failuresAt b (b.key i) s.log := by
  rw [← failureRun_atKey]
  exact ((reach.history (b.key i)).inv hc).trial_iff granted

/-- A trial in flight is that of a worker which is in a call. -/
theorem Reachable.calling_of_trialOf (hc : b.breaker.Sound) (reach : Reachable b s) (h : TrialOf b (b.key i) i s.log) :
    ∃ retries permit ends reply, s.phase i = .calling retries permit ends reply := by
  have hheld := ((reach.history (b.key i)).inv hc).slot.live i ((inTrial_atKey rfl).mpr h)
  have hpermit : (s.phase i).permit?.isSome := by simpa [State.history] using hheld
  cases hp : s.phase i with
  | calling retries permit ends reply => exact ⟨retries, permit, ends, reply, rfl⟩
  | fresh | queued | waiting | backingOff | done => simp [hp, Phase.permit?] at hpermit

end Attempts

/-! ### All attempts -/

/-- What holds of an attempt, given what happened before: it is a call if the endpoint may be called, and a
    trial if there were too many failures; otherwise it is refused. A worker that was refused makes no more
    attempts. -/
def Lawful (b : Batch) (before : List Event) : Event → Prop
  | .called i call key trial =>
    call.target = b.target i ∧ key = b.key i ∧ Available b key before call.time ∧
      (trial = true ↔ b.breaker.threshold ≤ failuresAt b key before) ∧ ∀ t r, .refused i t r ∉ before
  | .refused i t r =>
    r.endpoint = b.key i ∧ ¬Available b (b.key i) before t ∧ ∀ t' r', .refused i t' r' ∉ before
  | .tokenTaken _ _ | .ended _ _ _ | .brokeOff _ _ _ | .breaker _ _ | .finished _ _ => True

theorem lawful_of_attempt?_eq_none {b : Batch} {e : Event} (h : e.attempt? = none) (before : List Event) :
    Lawful b before e := by
  cases e with
  | called | refused => simp [Event.attempt?] at h
  | tokenTaken | ended | brokeOff | breaker | finished => trivial

/-- A worker that was refused has ended with the refusal. -/
def Settled (s : State) : Prop :=
  ∀ i t r, .refused i t r ∈ s.log → s.phase i = .done ∧
    ∃ x, ((i, .result x) ∈ s.exits ∨ (i, x) ∈ s.delivered) ∧ x.outcome = .refused r

/-- What a move means for the attempts: there is none, or a call, or a refusal that ends the worker. -/
inductive Tried (b : Batch) (i : Nat) (s t : State) : Prop where
  | idle (es : List Event) (log : t.log = s.log ++ es) (none : ∀ e ∈ es, e.attempt? = none)
  | called (es : List Event) (permit : Permit) (granted : (b.asked i s).answer = .granted permit)
      (log : t.log = s.log ++ es ++ [.called i ⟨s.now, b.target i⟩ (b.key i) permit.trial])
      (none : ∀ e ∈ es, e.attempt? = none) (unnoticed : ∀ key, es.filterMap (Event.atKey? b key) = [])
  | refused (es : List Event) (d : Span) (x : FetchResult) (refusal : (b.asked i s).answer = .refused d)
      (log : t.log = s.log ++ es ++ [.refused i s.now ⟨b.key i, d⟩]) (none : ∀ e ∈ es, e.attempt? = none)
      (unnoticed : ∀ key, es.filterMap (Event.atKey? b key) = []) (done : t.phase i = .done)
      (exit : (i, .result x) ∈ t.exits) (outcome : x.outcome = .refused ⟨b.key i, d⟩)

section Tried
variable {b : Batch} {s t : State} {i : Nat}

theorem attempt?_noted {α : Type} {turn : Breaker.Turn α} : ∀ e ∈ b.noted i turn, e.attempt? = none := by
  intro e he
  obtain ⟨n, -, rfl⟩ := List.mem_map.mp he
  rfl

theorem Starts.attempt? {retries : UInt32} {bucket : Bucket} {es : List Event} (h : Starts b i s retries bucket es) :
    ∀ e ∈ es, e.attempt? = none := by
  cases h <;> simp [Event.attempt?]

theorem Starts.unnoticed {retries : UInt32} {bucket : Bucket} {es : List Event} (h : Starts b i s retries bucket es)
    {α : Type} (turn : Breaker.Turn α) (key : String) : (es ++ b.noted i turn).filterMap (Event.atKey? b key) = [] := by
  rw [List.filterMap_append, h.atKey?, atKey?_noted]
  rfl

theorem Moved.tried (m : Moved b i s t) : Tried b i s t := by
  have hi := m.before
  cases m with
  | queued _ _ eq => exact .idle [] (log_append_nil (agrees_of_unqueued eq).log) (by simp)
  | passed _ _ eq => exact .idle [] (log_append_nil (agrees_of_unqueued eq).log) (by simp)
  | waits _ _ _ _ _ _ _ eq => exact .idle [] (log_append_nil (agrees_of_unqueued eq).log) (by simp)
  | called _ _ es permit starts _ granted eq =>
    refine .called (es ++ b.noted i (b.asked i s)) permit granted ?_ ?_ (starts.unnoticed _)
    · rw [List.append_assoc]
      exact (agrees_of_unqueued eq).log
    · exact List.forall_mem_append.mpr ⟨starts.attempt?, attempt?_noted⟩
  | refused retries _ es d starts _ refusal eq =>
    have h := agrees_of_unqueued eq
    refine .refused (es ++ b.noted i (b.asked i s)) d (b.resultNow i (.refused ⟨b.key i, d⟩) (retries + 1).toNat s)
      refusal ?_ ?_ (starts.unnoticed _) ?_ ?_ rfl
    · rw [List.append_assoc]
      exact h.log
    · exact List.forall_mem_append.mpr ⟨starts.attempt?, attempt?_noted⟩
    · rw [phase_set h.phases hi, if_pos rfl]
    · rw [h.exits]
      exact List.mem_append_right _ (List.mem_singleton_self _)
  | failed _ _ _ _ _ _ _ _ eq =>
    exact .idle _ (agrees_of_unqueued eq).log (List.forall_mem_append.mpr ⟨by simp [Event.attempt?], attempt?_noted⟩)
  | ended _ _ _ _ _ _ _ _ eq =>
    exact .idle _ (agrees_of_unqueued eq).log (List.forall_mem_append.mpr ⟨by simp [Event.attempt?], attempt?_noted⟩)
  | brokeOff _ _ _ _ _ _ _ _ eq =>
    exact .idle _ (agrees_of_unqueued eq).log (List.forall_mem_append.mpr ⟨by simp [Event.attempt?], attempt?_noted⟩)
  | cancelled _ _ _ eq => exact .idle [] (log_append_nil (agrees_of_unqueued eq).log) (by simp)

theorem settled_initial (b : Batch) : Settled b.initial := by
  intro i t r h
  simp [initial] at h

theorem not_refused_of_attempt? {es : List Event} (none : ∀ e ∈ es, e.attempt? = none) {j τ : Nat} {r : CircuitOpen} :
    .refused j τ r ∉ es := fun h => by simpa [Event.attempt?] using none _ h

theorem Moved.keeps (m : Moved b i s t) : s.exits ⊆ t.exits ∧ s.delivered ⊆ t.delivered := by
  have hdelivered : ∀ es, t.log = s.log ++ es → s.delivered ⊆ t.delivered := fun es hlog => by
    rw [State.delivered, State.delivered, hlog, List.filterMap_append]
    exact List.subset_append_left _ _
  cases m.booked with
  | stays _ es _ _ exits log _ => exact ⟨by rw [exits]; exact List.Subset.refl _, hdelivered _ log⟩
  | ends _ es _ _ exits log _ => exact ⟨by rw [exits]; exact List.subset_append_left _ _, hdelivered _ log⟩
  | breaks _ _ es _ exits log _ => exact ⟨by rw [exits]; exact List.subset_append_left _ _, hdelivered _ log⟩

theorem Settled.move (h : Settled s) (m : Moved b i s t) : Settled t := by
  -- Who was refused before has ended, so this move is not its own.
  have old : ∀ j τ r, .refused j τ r ∈ s.log → t.phase j = .done ∧
      ∃ x, ((j, .result x) ∈ t.exits ∨ (j, x) ∈ t.delivered) ∧ x.outcome = .refused r := by
    intro j τ r hj
    obtain ⟨hdone, x, hx, houtcome⟩ := h j τ r hj
    have hne : i ≠ j := fun hij => m.before (hij ▸ hdone)
    exact ⟨(m.phase_of_ne hne).trans hdone, x, hx.imp (fun h => m.keeps.1 h) (fun h => m.keeps.2 h), houtcome⟩
  intro j τ r hj
  cases m.tried with
  | idle es log none =>
    rw [log, List.mem_append, or_iff_left (not_refused_of_attempt? none)] at hj
    exact old j τ r hj
  | called es permit _ log none _ =>
    rw [log, List.mem_append, List.mem_append, or_iff_left (not_refused_of_attempt? none),
      or_iff_left (by simp)] at hj
    exact old j τ r hj
  | refused es d x _ log none _ done exit outcome =>
    rw [log, List.mem_append, List.mem_append, or_iff_left (not_refused_of_attempt? none), List.mem_singleton] at hj
    rcases hj with hj | hj
    · exact old j τ r hj
    · cases hj
      exact ⟨done, x, .inl exit, outcome⟩

theorem Settled.collect (h : Settled s) {e : Exit} : Settled (b.collect i e s) := by
  intro j τ r hj
  have hj : .refused j τ r ∈ s.log := by simpa [Batch.collect, State.note] using hj
  have hdelivered : (b.collect i e s).delivered = s.delivered ++ [(i, b.resultOf i s e)] := by
    simp [State.delivered, Batch.collect, State.note, Event.delivered?]
  obtain ⟨hdone, x, hx, houtcome⟩ := h j τ r hj
  refine ⟨hdone, x, ?_, houtcome⟩
  rw [hdelivered]
  rcases hx with hexit | hx
  · by_cases heq : (j, Exit.result x) = (i, e)
    · cases heq
      exact .inr (by simp [resultOf])
    · exact .inl ((List.mem_erase_of_ne heq).mpr hexit)
  · exact .inr (List.mem_append_left _ hx)

theorem Settled.step (h : Settled s) (hs : Step b s t) : Settled t := by
  cases hs with
  | stop _ => exact h
  | move i can => exact h.move (moved_move can)
  | collect i e _ => exact h.collect
  | wait later _ _ _ _ _ => exact h

theorem Reachable.settled (reach : Reachable b s) : Settled s := by
  induction reach with
  | start => exact settled_initial b
  | step _ hs ih => exact ih.step hs

theorem Settled.not_refused (h : Settled s) (hi : s.phase i ≠ .done) {es : List Event}
    (none : ∀ e ∈ es, e.attempt? = none) (τ : Nat) (r : CircuitOpen) : .refused i τ r ∉ s.log ++ es := by
  rw [List.mem_append, or_iff_left (not_refused_of_attempt? none)]
  exact fun hr => hi (h i τ r hr).1

theorem lawful_move (hc : b.breaker.Sound) (reach : Reachable b s) (h : EachAfter (Lawful b) s.log)
    (m : Moved b i s t) : EachAfter (Lawful b) t.log := by
  have added : ∀ es, (∀ e ∈ es, e.attempt? = none) → EachAfter (Lawful b) (s.log ++ es) := fun es none =>
    eachAfter_append h fun e he => lawful_of_attempt?_eq_none (none e he)
  cases m.tried with
  | idle es log none =>
    rw [log]
    exact added es none
  | called es permit granted log none unnoticed =>
    rw [log]
    refine eachAfter_concat (added es none) ⟨rfl, rfl, ?_, ?_, reach.settled.not_refused m.before none⟩
    · rw [available_append (unnoticed _)]
      exact (granted_iff_available hc reach).mp ⟨permit, granted⟩
    · rw [failuresAt_append (unnoticed _)]
      exact trial_iff_failures hc reach granted
  | refused es d x refusal log none unnoticed _ _ _ =>
    rw [log]
    refine eachAfter_concat (added es none) ⟨rfl, ?_, reach.settled.not_refused m.before none⟩
    rw [available_append (unnoticed _), ← granted_iff_available hc reach]
    rintro ⟨p, hp⟩
    rw [refusal] at hp
    cases hp

theorem Reachable.lawful (hc : b.breaker.Sound) (reach : Reachable b s) : EachAfter (Lawful b) s.log := by
  induction reach with
  | start => exact eachAfter_nil
  | step reach hs ih =>
    cases hs with
    | stop _ => exact ih
    | move i can => exact lawful_move hc reach ih (moved_move can)
    | collect i e _ => exact eachAfter_concat ih trivial
    | wait later _ _ _ _ _ => exact ih

theorem attempt_logged {retries : UInt32} {bucket : Bucket} {es : List Event} (starts : Starts b i s retries bucket es)
    (running : s.stopped = false) (can : s.canMove i = true) :
    ∃ before e, (b.move i s).log = before ++ [e] ∧ e.attempt? = some (i, s.now) := by
  have hidle : ∀ q, s.phase i = q → (∃ since wake, q = .waiting since wake) ∨ ∃ retry wake, q = .backingOff retry wake := by
    rintro q rfl
    cases starts with
    | token since wake _ before _ => exact .inl ⟨since, wake, before⟩
    | retry _ wake before => exact .inr ⟨_, wake, before⟩
  cases moved_move (b := b) can with
  | called _ _ es' permit _ _ _ eq =>
    exact ⟨_, _, (agrees_of_unqueued eq).log.trans (List.append_assoc _ _ _).symm, rfl⟩
  | refused _ _ es' d _ _ _ eq =>
    exact ⟨_, _, (agrees_of_unqueued eq).log.trans (List.append_assoc _ _ _).symm, rfl⟩
  | waits _ _ _ _ before _ look _ =>
    cases starts with
    | token _ _ _ _ taken => simp [taken] at look
    | retry _ _ before' => simp [before] at before'
  | cancelled _ _ stopped _ => simp [running] at stopped
  | queued before _ _ => simpa using hidle _ before
  | passed before _ _ => rcases before with before | before <;> simpa using hidle _ before
  | failed _ _ _ _ _ before _ _ _ => simpa using hidle _ before
  | ended _ _ _ _ _ before _ _ _ => simpa using hidle _ before
  | brokeOff _ _ _ _ _ before _ _ _ => simpa using hidle _ before

end Tried

/-! ### The law -/

section Law
variable {c : Config} {targets : List String} {start : Nat} {cancelAfter : Option UInt64} {transport : Transport}
  {earlier : List Call} {draw : Nat → UInt32 → Nat} {b : Batch} {s : State}

theorem breaker_of_built (built : ofConfig? c targets start cancelAfter transport earlier draw = some b) :
    b.breaker = .ofConfig c.circuitBreaker := by
  rw [eq_ofConfig built]

/-- An attempt becomes a call exactly if its endpoint has had fewer failures since its latest success than
    the threshold, or if the cool-down after the latest failure is over and no call that was let through as
    a trial since then is in flight. It becomes a trial if there were that many failures. If it does not
    become a call, the worker makes no call any more, and ends with the refusal. A trial in flight is a call
    in which a worker is, so one that ended in whatever way stands in nobody's way; and every attempt that a
    worker makes is one of these. -/
theorem call_of_endpoint_history
    (built : ofConfig? c targets start cancelAfter transport earlier draw = some b) (reach : Reachable b s) :
    (∀ before e after i τ, s.log = before ++ e :: after → e.attempt? = some (i, τ) →
      let key := b.key i
      let n := failuresAt b key before
      let most := max c.circuitBreaker.failureThreshold.toNat 1
      let coolDown := Span.ofMillis c.circuitBreaker.openDurationMs
      ((∃ trial, e = .called i ⟨τ, b.target i⟩ key trial) ↔ n < most ∨
        ∃ t, latestFailureAt? b key before = some t ∧ t + coolDown.nanos ≤ τ ∧ ¬TrialInFlight b key before) ∧
      (∀ trial, e = .called i ⟨τ, b.target i⟩ key trial → (trial = true ↔ most ≤ n)) ∧
      ((¬∃ trial, e = .called i ⟨τ, b.target i⟩ key trial) → ∃ r x, e = .refused i τ r ∧ r.endpoint = key ∧
        (∀ e' ∈ after, ∀ τ', e'.attempt? ≠ some (i, τ')) ∧ s.phase i = .done ∧
        ((i, .result x) ∈ s.exits ∨ (i, x) ∈ s.delivered) ∧ x.outcome = .failed .circuitOpen r.message)) ∧
    (∀ key, TrialInFlight b key s.log → ∃ i retries permit ends reply, b.key i = key ∧
      s.phase i = .calling retries permit ends reply) ∧
    (∀ i retries bucket es, Starts b i s retries bucket es → s.stopped = false → s.canMove i = true →
      ∃ before e, (b.move i s).log = before ++ [e] ∧ e.attempt? = some (i, s.now)) := by
  have hbreaker := breaker_of_built built
  have hc : b.breaker.Sound := hbreaker ▸ Breaker.Settings.sound_make _ _
  refine ⟨fun before e after i τ hlog hattempt => ?_, fun key htrial => ?_, fun i _ _ _ => attempt_logged⟩
  · have hlaw : Lawful b before e := reach.lawful hc before e after hlog
    intro key n most coolDown
    have havailable : Available b key before τ ↔ n < most ∨
        ∃ t, latestFailureAt? b key before = some t ∧ t + coolDown.nanos ≤ τ ∧ ¬TrialInFlight b key before := by
      unfold Available
      rw [hbreaker]
      rfl
    have hmost : b.breaker.threshold = most := by rw [hbreaker]; rfl
    rw [← havailable]
    cases e with
    | called j call k trial =>
      obtain ⟨rfl, rfl⟩ : j = i ∧ call.time = τ := by simpa [Event.attempt?] using hattempt
      obtain ⟨htarget, rfl, hav, htrial, -⟩ := hlaw
      have heq : Event.called j call (b.key j) trial = .called j ⟨call.time, b.target j⟩ key trial := by
        rw [← htarget]
      refine ⟨⟨fun _ => hav, fun _ => ⟨trial, heq⟩⟩, fun trial' h => ?_, fun h => absurd ⟨trial, heq⟩ h⟩
      obtain rfl : trial = trial' := by simpa [heq] using h
      rw [← hmost]
      exact htrial
    | refused j t r =>
      obtain ⟨rfl, rfl⟩ : j = i ∧ t = τ := by simpa [Event.attempt?] using hattempt
      obtain ⟨hendpoint, hav, -⟩ := hlaw
      have hmem : .refused j t r ∈ s.log := by simp [hlog]
      obtain ⟨hdone, x, hx, houtcome⟩ := reach.settled j t r hmem
      refine ⟨by simpa using hav, by simp, fun _ => ⟨r, x, rfl, hendpoint, fun e' he' τ' h => ?_, hdone, hx, houtcome⟩⟩
      -- Any further attempt would come after this refusal.
      obtain ⟨l₁, l₂, rfl⟩ := List.append_of_mem he'
      have hlaw' : Lawful b (before ++ .refused j t r :: l₁) e' := reach.lawful hc _ e' l₂ (by simp [hlog])
      cases e' with
      | called i' call k trial =>
        obtain rfl : i' = j := (by simpa [Event.attempt?] using h : i' = j ∧ _).1
        exact hlaw'.2.2.2.2 t r (by simp)
      | refused i' t' r' =>
        obtain rfl : i' = j := (by simpa [Event.attempt?] using h : i' = j ∧ _).1
        exact hlaw'.2.2 t r (by simp)
      | tokenTaken | ended | brokeOff | breaker | finished => simp [Event.attempt?] at h
    | tokenTaken | ended | brokeOff | breaker | finished => simp [Event.attempt?] at hattempt
  · obtain ⟨i, rfl, hi⟩ := htrial
    obtain ⟨retries, permit, ends, reply, hphase⟩ := reach.calling_of_trialOf hc hi
    exact ⟨i, retries, permit, ends, reply, rfl, hphase⟩

/-- In the sample the call of the first worker, which broke off, counts for nothing, and the third worker is
    refused after the failure of the second. -/
theorem call_of_endpoint_history_sample :
    ∃ before after, sampleEnd.log = before ++ .refused 2 0 ⟨"a", Span.ofMillis 1000⟩ :: after ∧
      1 ≤ failuresAt sample "a" before ∧
      ∃ x, (2, x) ∈ sampleEnd.delivered ∧ x.outcome.kind = some .circuitOpen := by
  obtain ⟨attempts, -, -⟩ := call_of_endpoint_history built_sample reachable_sampleEnd
  have hmem : .refused 2 0 ⟨"a", Span.ofMillis 1000⟩ ∈ sampleEnd.log := by decide +kernel
  obtain ⟨before, after, hlog⟩ := List.append_of_mem hmem
  obtain ⟨called, -, refused⟩ := attempts before _ after 2 0 hlog rfl
  have hnot : ¬∃ trial, Event.refused 2 0 ⟨"a", Span.ofMillis 1000⟩ =
      .called 2 ⟨0, sample.target 2⟩ (sample.key 2) trial := by simp
  obtain ⟨r, x, -, -, -, -, hx, houtcome⟩ := refused hnot
  have hmany : 1 ≤ failuresAt sample "a" before := Nat.le_of_not_lt fun hlt => hnot (called.mpr (.inl hlt))
  rw [exits_of_isOver isOver_sampleEnd] at hx
  exact ⟨before, after, hlog, hmany, x, hx.resolve_left (by simp), by rw [houtcome]; rfl⟩

end Law

end Batch

end BatchFetch
