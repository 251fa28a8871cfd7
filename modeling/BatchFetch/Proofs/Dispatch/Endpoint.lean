import BatchFetch.Proofs.Breaker.Law
import BatchFetch.Proofs.Dispatch.Running
import BatchFetch.Proofs.Endpoint.Registry

/-! # What a batch does to an endpoint

All workers whose targets have one key share one breaker. Seen from there a running batch is a breaker in
use: a worker that starts a call holds a permit until the call ends, and whatever else happens is not
noticed. So what is true of every breaker in use is true of each breaker of a batch. -/

namespace BatchFetch.Batch

def Phase.permit? : Phase → Option Permit
  | .calling _ permit _ _ => some permit
  | .fresh | .queued | .waiting _ _ | .backingOff _ _ | .done => none

/-- What the breaker of a key notices of an event. A call that breaks off goes back as a neutral one. -/
def Event.atKey? (b : Batch) (key : String) : Event → Option (Breaker.Event Nat)
  | .called i _ _ trial => if b.key i = key then some (.granted i trial) else none
  | .refused i _ _ => if b.key i = key then some .refused else none
  | .ended i t o => if b.key i = key then some (.ended i t o.verdict) else none
  | .brokeOff i t _ => if b.key i = key then some (.ended i t .neutral) else none
  | .tokenTaken _ _ | .breaker _ _ | .finished _ _ => none

/-- The breaker of a key in use. -/
def State.history (b : Batch) (key : String) (s : State) : Breaker.History Nat :=
  { now := s.now
    breaker := s.registry.get key
    held := fun i => if b.key i = key then (s.phase i).permit? else none
    events := s.log.filterMap (Event.atKey? b key) }

section Moves
variable {b : Batch} {s t : State} {i : Nat} {key : String}

theorem atKey?_noted {α : Type} {turn : Breaker.Turn α} :
    (b.noted i turn).filterMap (Event.atKey? b key) = [] := by
  unfold noted
  rw [List.filterMap_map]
  simp [Function.comp_def, Event.atKey?]

theorem Starts.atKey? {retries : UInt32} {bucket : Bucket} {es : List Event} (h : Starts b i s retries bucket es) :
    es.filterMap (Event.atKey? b key) = [] := by
  cases h <;> simp [Event.atKey?]

theorem Starts.permit? {retries : UInt32} {bucket : Bucket} {es : List Event} (h : Starts b i s retries bucket es) :
    (s.phase i).permit? = none := by
  cases h <;> simp_all [Phase.permit?]

theorem Between.permit? {n : Nat} (h : Between s i n) : (s.phase i).permit? = none := by
  cases h <;> simp_all [Phase.permit?]

theorem held_set {p : Phase} (hphases : t.phases = s.phases.set i p) (hi : s.phase i ≠ .done) :
    (t.history b (b.key i)).held = Function.update (s.history b (b.key i)).held i p.permit? := by
  funext j
  show (if b.key j = b.key i then (t.phase j).permit? else none) = _
  rw [phase_set hphases hi, Function.update_apply]
  by_cases hij : i = j
  · subst hij
    simp
  · rw [if_neg hij, if_neg (Ne.symm hij)]
    rfl

theorem history_of_noticed {p : Phase} {br : Breaker} {es : List Event} (hi : s.phase i ≠ .done) (hnow : t.now = s.now)
    (hphases : t.phases = s.phases.set i p) (hregistry : t.registry = s.registry.put (b.key i) br)
    (hlog : t.log = s.log ++ es) :
    t.history b (b.key i) =
      { s.history b (b.key i) with
        breaker := br
        held := Function.update (s.history b (b.key i)).held i p.permit?
        events := (s.history b (b.key i)).events ++ es.filterMap (Event.atKey? b (b.key i)) } := by
  refine Breaker.History.ext hnow ?_ (held_set hphases hi) ?_
  · show t.registry.get (b.key i) = br
    rw [hregistry, Registry.get_put, if_pos rfl]
  · show t.log.filterMap _ = _
    rw [hlog, List.filterMap_append]
    rfl

/-- A breaker notices nothing of a move that changes neither it nor a permit of it. -/
theorem history_of_unnoticed {p : Phase} {es : List Event} (hi : s.phase i ≠ .done) (hnow : t.now = s.now)
    (hphases : t.phases = s.phases.set i p) (hheld : b.key i = key → p.permit? = (s.phase i).permit?)
    (hget : t.registry.get key = s.registry.get key) (hlog : t.log = s.log ++ es)
    (hes : es.filterMap (Event.atKey? b key) = []) : t.history b key = s.history b key := by
  refine Breaker.History.ext hnow hget (funext fun j => ?_) ?_
  · show (if b.key j = key then (t.phase j).permit? else none) = if b.key j = key then (s.phase j).permit? else none
    rw [phase_set hphases hi]
    by_cases hij : i = j
    · subst hij
      by_cases hkey : b.key i = key
      · rw [if_pos rfl, hheld hkey]
      · rw [if_neg hkey, if_neg hkey]
    · rw [if_neg hij]
  · show t.log.filterMap _ = s.log.filterMap _
    rw [hlog, List.filterMap_append, hes, List.append_nil]

theorem history_of_ne {p : Phase} {br : Breaker} {es : List Event} (hkey : b.key i ≠ key) (hi : s.phase i ≠ .done)
    (hnow : t.now = s.now) (hphases : t.phases = s.phases.set i p)
    (hregistry : t.registry = s.registry.put (b.key i) br) (hlog : t.log = s.log ++ es)
    (hes : es.filterMap (Event.atKey? b key) = []) : t.history b key = s.history b key := by
  refine history_of_unnoticed hi hnow hphases (fun h => absurd h hkey) ?_ hlog hes
  rw [hregistry, Registry.get_put, if_neg (Ne.symm hkey)]

/-- The breaker of a worker is asked when the worker makes an attempt. -/
theorem noticed_called {bucket : Bucket} {es : List Event} {retries : UInt32} {permit : Permit} {call : Call} {k : String}
    {ends : Nat} {reply : Reply} (starts : Starts b i s retries bucket es)
    (granted : (b.asked i s).answer = .granted permit) (hnow : t.now = s.now)
    (hphases : t.phases = s.phases.set i (.calling retries permit ends reply))
    (hregistry : t.registry = s.registry.put (b.key i) (b.asked i s).breaker)
    (hlog : t.log = s.log ++ (es ++ b.noted i (b.asked i s) ++ [.called i call k permit.trial])) :
    Breaker.History.Step b.breaker (s.history b (b.key i)) (t.history b (b.key i)) := by
  have hask : (s.history b (b.key i)).ask b.breaker i = t.history b (b.key i) := by
    rw [Breaker.History.ask_of_granted (h := s.history b (b.key i)) granted, history_of_noticed starts.before hnow hphases hregistry hlog]
    simp [starts.atKey?, atKey?_noted, Event.atKey?, Phase.permit?, asked, State.history]
  rw [← hask]
  refine .ask i ?_
  simp [State.history, starts.permit?]

theorem noticed_refused {bucket : Bucket} {es : List Event} {retries : UInt32} {d : Span} {time : Nat} {r : CircuitOpen}
    (starts : Starts b i s retries bucket es) (refusal : (b.asked i s).answer = .refused d) (hnow : t.now = s.now)
    (hphases : t.phases = s.phases.set i .done)
    (hregistry : t.registry = s.registry.put (b.key i) (b.asked i s).breaker)
    (hlog : t.log = s.log ++ (es ++ b.noted i (b.asked i s) ++ [.refused i time r])) :
    Breaker.History.Step b.breaker (s.history b (b.key i)) (t.history b (b.key i)) := by
  have hnone : (s.history b (b.key i)).held i = none := by simp [State.history, starts.permit?]
  have hask : (s.history b (b.key i)).ask b.breaker i = t.history b (b.key i) := by
    rw [Breaker.History.ask_of_refused (h := s.history b (b.key i)) refusal, history_of_noticed starts.before hnow hphases hregistry hlog]
    -- The worker has no permit before, and none after.
    rw [show Phase.done.permit? = (s.history b (b.key i)).held i from hnone.symm, Function.update_eq_self]
    simp [starts.atKey?, atKey?_noted, Event.atKey?, asked, State.history]
  rw [← hask]
  exact .ask i hnone

/-- The breaker of a worker is told when a call of the worker ends. -/
theorem noticed_finish {retries : UInt32} {permit : Permit} {ends : Nat} {reply : Reply} {v : Verdict} {p : Phase}
    {e : Event} (before : s.phase i = .calling retries permit ends reply) (hp : p.permit? = none)
    (he : e.atKey? b (b.key i) = some (.ended i s.now v)) (hnow : t.now = s.now)
    (hphases : t.phases = s.phases.set i p)
    (hregistry : t.registry = s.registry.put (b.key i) (b.told i permit v s).breaker)
    (hlog : t.log = s.log ++ ([e] ++ b.noted i (b.told i permit v s))) :
    Breaker.History.Step b.breaker (s.history b (b.key i)) (t.history b (b.key i)) := by
  have hi : s.phase i ≠ .done := by simp [before]
  have hfinish : (s.history b (b.key i)).finish b.breaker i permit v = t.history b (b.key i) := by
    rw [history_of_noticed hi hnow hphases hregistry hlog, hp]
    simp [Breaker.History.finish, atKey?_noted, he, told, State.history]
  rw [← hfinish]
  refine .finish i permit v ?_
  simp [State.history, before, Phase.permit?]

/-- For the breaker of a key a move is a step, or nothing at all. -/
theorem Moved.history (m : Moved b i s t) (key : String) :
    t.history b key = s.history b key ∨ Breaker.History.Step b.breaker (s.history b key) (t.history b key) := by
  have hi := m.before
  cases m with
  | queued before _ eq =>
    have h := agrees_of_unqueued eq
    exact .inl (history_of_unnoticed hi h.now h.phases (fun _ => by simp [before, Phase.permit?])
      (congrArg (·.get key) h.registry) (log_append_nil h.log) rfl)
  | passed before _ eq =>
    have h := agrees_of_unqueued eq
    exact .inl (history_of_unnoticed hi h.now h.phases (fun _ => by rcases before with hp | hp <;> simp [hp, Phase.permit?])
      (congrArg (·.get key) h.registry) (log_append_nil h.log) rfl)
  | waits _ _ _ _ before _ _ eq =>
    have h := agrees_of_unqueued eq
    exact .inl (history_of_unnoticed hi h.now h.phases (fun _ => by simp [before, Phase.permit?])
      (congrArg (·.get key) h.registry) (log_append_nil h.log) rfl)
  | called _ _ _ _ starts _ granted eq =>
    have h := agrees_of_unqueued eq
    by_cases hkey : b.key i = key
    · subst hkey
      exact .inr (noticed_called starts granted h.now h.phases h.registry h.log)
    · refine .inl (history_of_ne hkey hi h.now h.phases h.registry h.log ?_)
      simp [starts.atKey?, atKey?_noted, Event.atKey?, hkey]
  | refused _ _ _ _ starts _ refusal eq =>
    have h := agrees_of_unqueued eq
    by_cases hkey : b.key i = key
    · subst hkey
      exact .inr (noticed_refused starts refusal h.now h.phases h.registry h.log)
    · refine .inl (history_of_ne hkey hi h.now h.phases h.registry h.log ?_)
      simp [starts.atKey?, atKey?_noted, Event.atKey?, hkey]
  | failed _ _ _ _ _ before _ _ eq =>
    have h := agrees_of_unqueued eq
    by_cases hkey : b.key i = key
    · subst hkey
      refine .inr (noticed_finish before rfl ?_ h.now h.phases h.registry h.log)
      exact if_pos rfl
    · refine .inl (history_of_ne hkey hi h.now h.phases h.registry h.log ?_)
      simp [atKey?_noted, Event.atKey?, hkey]
  | ended _ _ _ _ _ before _ _ eq =>
    have h := agrees_of_unqueued eq
    by_cases hkey : b.key i = key
    · subst hkey
      refine .inr (noticed_finish before rfl ?_ h.now h.phases h.registry h.log)
      exact if_pos rfl
    · refine .inl (history_of_ne hkey hi h.now h.phases h.registry h.log ?_)
      simp [atKey?_noted, Event.atKey?, hkey]
  | brokeOff _ _ _ _ _ before _ _ eq =>
    have h := agrees_of_unqueued eq
    by_cases hkey : b.key i = key
    · subst hkey
      refine .inr (noticed_finish before rfl ?_ h.now h.phases h.registry h.log)
      exact if_pos rfl
    · refine .inl (history_of_ne hkey hi h.now h.phases h.registry h.log ?_)
      simp [atKey?_noted, Event.atKey?, hkey]
  | cancelled _ before _ eq =>
    have h := agrees_of_unqueued eq
    exact .inl (history_of_unnoticed hi h.now h.phases (fun _ => before.permit?.symm)
      (congrArg (·.get key) h.registry) (log_append_nil h.log) rfl)

end Moves

/-! ### Every run -/

section Runs
variable {b : Batch} {s t : State} {key : String}

theorem now_le_of_wakes {i later : Nat} (idle : s.canMove i = false) (wakes : s.wakes? i = some later) :
    s.now ≤ later := by
  unfold State.wakes? at wakes
  unfold State.canMove at idle
  cases hp : s.phase i with
  | waiting since wake =>
    simp only [hp, Option.some.injEq, Bool.or_eq_false_iff, decide_eq_false_iff_not] at wakes idle
    omega
  | calling retries permit ends reply =>
    simp only [hp] at wakes idle
    split at wakes
    · cases wakes
    · rename_i hends
      have hlt : ¬ends ≤ s.now := by simpa [hends] using (Bool.or_eq_false_iff.mp idle).2
      cases wakes
      omega
  | backingOff retry wake =>
    simp only [hp, Option.some.injEq, Bool.or_eq_false_iff, decide_eq_false_iff_not] at wakes idle
    omega
  | fresh | queued | done => simp [hp] at wakes

/-- Time only goes on when nothing can happen now, so what comes next is not in the past. -/
theorem now_le_of_soonest {later : Nat} (ready : b.stopDue s = false) (idle : ∀ i, s.canMove i = false)
    (soonest : (b.wakeTimes s).min? = some later) : s.now ≤ later := by
  obtain ⟨caller, deadline⟩ := Bool.or_eq_false_iff.mp ready
  have hmem := List.min?_mem soonest
  unfold wakeTimes at hmem
  rw [List.mem_append, List.mem_append] at hmem
  rcases hmem with (hworker | hcaller) | hdeadline
  · obtain ⟨i, -, wakes⟩ := List.mem_filterMap.mp hworker
    exact now_le_of_wakes (idle i) wakes
  · unfold callerDue at caller
    split at hcaller
    · simp at hcaller
    · simp_all
      omega
  · unfold deadlineDue at deadline
    split at hdeadline
    · simp at hdeadline
    · simp_all
      omega

theorem history_collect {i : Nat} {e : Exit} : (b.collect i e s).history b key = s.history b key := by
  refine Breaker.History.ext rfl rfl rfl ?_
  simp [State.history, Batch.collect, State.note, Event.atKey?]

theorem history_initial : b.initial.history b key = { now := b.start } := by
  refine Breaker.History.ext rfl rfl (funext fun i => ?_) rfl
  show (if b.key i = key then (b.initial.phase i).permit? else none) = none
  by_cases hi : i < b.targets.length <;> simp [State.phase, initial, hi, Phase.permit?]

/-- In every run of a batch the breaker of each key is one that is in use. -/
theorem Reachable.history (reach : Reachable b s) (key : String) : (s.history b key).Reachable b.breaker := by
  induction reach with
  | start =>
    rw [history_initial]
    exact .start b.start
  | step _ hs ih =>
    cases hs with
    | stop _ => exact ih
    | move i can =>
      rcases (moved_move (b := b) can).history key with h | h
      · rw [h]
        exact ih
      · exact ih.step h
    | collect i e _ =>
      rw [history_collect]
      exact ih
    | wait later ready idle _ _ soonest => exact ih.step (.wait later (now_le_of_soonest ready idle soonest))

end Runs

end BatchFetch.Batch
