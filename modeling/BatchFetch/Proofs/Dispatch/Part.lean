import BatchFetch.Proofs.Dispatch.Others
import BatchFetch.Proofs.Dispatch.Plenty
import BatchFetch.Proofs.Dispatch.Timing
import Mathlib.Data.List.Basic
import Mathlib.Data.List.Forall2

/-! # The part of a batch that belongs to a key

The targets of one key make a batch of their own, with the workers of the whole at other places. A state of the part
mirrors a state of the whole if it shows the same of the key: where its workers stand and in which order they are
served, its breaker, its calls and its results. What a worker of the key does in the whole, it does in the part as
well; and what others do is not seen there. -/

namespace BatchFetch.Batch

def ofKey (b : Batch) (key : String) (target : String) : Bool := Endpoint.key b.scope target == key

/-- Whether a worker's target has a key. -/
def serves (b : Batch) (key : String) (i : Nat) : Bool := b.ofKey key (b.target i)

/-- A batch of the targets of one key of another batch, whose workers are found at some places there. Neither has a
    gate, and both have enough tokens. -/
structure Part (b b' : Batch) (key : String) (reply : String → Nat → Reply) (place : Nat → Nat) : Prop where
  start : b'.start = b.start
  breaker : b'.breaker = b.breaker
  scope : b'.scope = b.scope
  retry : b'.retry = b.retry
  earlier : b'.earlier = b.earlier
  cancelAt : b'.cancelAt = b.cancelAt
  deadline : b'.deadline = b.deadline
  scripted : b.transport = .ofReplies reply
  scripted' : b'.transport = .ofReplies reply
  ungated : b.permits = none
  ungated' : b'.permits = none
  ample : Ample b
  ample' : Ample b'
  injective : Function.Injective place
  places : (List.range b'.targets.length).map place = (List.range b.targets.length).filter (b.serves key)
  target : ∀ j < b'.targets.length, b'.target j = b.target (place j)
  delay : ∀ j < b'.targets.length, ∀ retry,
    b.retry.delay (b'.draw j retry) retry = b.retry.delay (b.draw (place j) retry) retry

/-- The results of a worker in both batches are the same but for the number of a task that broke off. -/
structure SameResult (place : Nat → Nat) (x x' : Nat × FetchResult) : Prop where
  worker : x.1 = place x'.1
  target : x.2.target = x'.2.target
  attempts : x.2.attempts = x'.2.attempts
  elapsed : x.2.elapsed = x'.2.elapsed
  outcome : Alike x.1 x'.1 x.2.outcome x'.2.outcome

/-- A state of the part shows what is of the key in a state of the whole. -/
structure Mirrors (b b' : Batch) (key : String) (place : Nat → Nat) (s s' : State) : Prop where
  phases : ∀ j < b'.targets.length, s'.phase j = s.phase (place j)
  line : s'.line.map place = s.line.filter (b.serves key)
  breaker : s'.registry.get key = s.registry.get key
  exits : s'.exits.map (fun x => (place x.1, x.2)) = s.exits.filter fun x => b.serves key x.1
  calls : s'.calls = s.callsOf (b.ofKey key)
  delivered : List.Forall₂ (SameResult place) (s.delivered.filter fun x => b.serves key x.1) s'.delivered

/-- And it does so at the same time. -/
structure Level (b b' : Batch) (key : String) (place : Nat → Nat) (s s' : State) : Prop
    extends Mirrors b b' key place s s' where
  now : s'.now = s.now
  stopped : s'.stopped = s.stopped
  givenUp : s'.givenUp = s.givenUp

section Places
variable {b b' : Batch} {key : String} {reply : String → Nat → Reply} {place : Nat → Nat} {i j : Nat}

theorem Part.mem_places (part : Part b b' key reply place) (hj : j < b'.targets.length) :
    place j < b.targets.length ∧ b.serves key (place j) = true := by
  have hmem : place j ∈ (List.range b'.targets.length).map place := List.mem_map.mpr ⟨j, List.mem_range.mpr hj, rfl⟩
  rw [part.places] at hmem
  obtain ⟨hlt, serves⟩ := List.mem_filter.mp hmem
  exact ⟨List.mem_range.mp hlt, serves⟩

theorem Part.serves_place (part : Part b b' key reply place) (hj : j < b'.targets.length) : b.serves key (place j) = true :=
  (part.mem_places hj).2

/-- The key of a worker of the part is the key of the part. -/
theorem Part.key_place (part : Part b b' key reply place) (hj : j < b'.targets.length) : b.key (place j) = key :=
  eq_of_beq (part.serves_place hj)

theorem Part.key_eq (part : Part b b' key reply place) (hj : j < b'.targets.length) : b'.key j = key := by
  unfold Batch.key
  rw [part.scope, part.target j hj]
  exact part.key_place hj

theorem Part.exists_place (part : Part b b' key reply place) (hi : i < b.targets.length) (serves : b.serves key i = true) :
    ∃ j < b'.targets.length, place j = i := by
  have hmem : i ∈ (List.range b.targets.length).filter (b.serves key) :=
    List.mem_filter.mpr ⟨List.mem_range.mpr hi, serves⟩
  rw [← part.places] at hmem
  obtain ⟨j, hj, rfl⟩ := List.mem_map.mp hmem
  exact ⟨j, List.mem_range.mp hj, rfl⟩

theorem ne_key_of_serves (h : b.serves key i = false) : b.key i ≠ key := ne_of_beq_false h

end Places

/-! ### What a worker of the key does -/

section Own
variable {b b' : Batch} {key : String} {reply : String → Nat → Reply} {place : Nat → Nat} {s s' : State} {j : Nat}

theorem Level.note (h : Level b b' key place s s') {es es' : List Event}
    (calls : es'.filterMap Event.call? = (es.filterMap Event.call?).filter fun call => b.ofKey key call.target)
    (quiet : es.filterMap Event.delivered? = []) (quiet' : es'.filterMap Event.delivered? = []) :
    Level b b' key place (s.note es) (s'.note es') := by
  refine ⟨⟨h.phases, h.line, h.breaker, h.exits, ?_, ?_⟩, h.now, h.stopped, h.givenUp⟩
  · have hcalls : (s.note es).calls = s.calls ++ es.filterMap Event.call? := calls_append rfl
    have hcalls' : (s'.note es').calls = s'.calls ++ es'.filterMap Event.call? := calls_append rfl
    rw [hcalls', h.calls, calls, State.callsOf, State.callsOf, hcalls, List.filter_append]
  · have hdelivered : (s.note es).delivered = s.delivered ++ es.filterMap Event.delivered? := List.filterMap_append
    have hdelivered' : (s'.note es').delivered = s'.delivered ++ es'.filterMap Event.delivered? := List.filterMap_append
    rw [hdelivered, hdelivered', quiet, quiet', List.append_nil, List.append_nil]
    exact h.delivered

/-- Most events are neither calls nor results. -/
theorem Level.noteQuiet (h : Level b b' key place s s') {e e' : Event} (call : e.call? = none) (call' : e'.call? = none)
    (quiet : e.delivered? = none) (quiet' : e'.delivered? = none) :
    Level b b' key place (s.note [e]) (s'.note [e']) := by
  refine h.note ?_ ?_ ?_
  · rw [List.filterMap_cons_none call, List.filterMap_cons_none call']
    rfl
  · exact List.filterMap_cons_none quiet
  · exact List.filterMap_cons_none quiet'

/-- What the breaker of the key did is noted, and the breaker is put back. -/
theorem Level.noteTurn {α : Type} (h : Level b b' key place s s') (t : Breaker.Turn α) :
    Level b b' key place (s.noteBreaker key t (s.registry.put key t.breaker))
      (s'.noteBreaker key t (s'.registry.put key t.breaker)) := by
  have hregistry : Level b b' key place { s with registry := s.registry.put key t.breaker }
      { s' with registry := s'.registry.put key t.breaker } := by
    refine ⟨⟨h.phases, h.line, ?_, h.exits, h.calls, h.delivered⟩, h.now, h.stopped, h.givenUp⟩
    show (s'.registry.put key t.breaker).get key = (s.registry.put key t.breaker).get key
    rw [Registry.get_put, Registry.get_put, if_pos rfl, if_pos rfl]
  have hcall : (t.notes.map (Event.breaker key)).filterMap Event.call? = [] := by
    rw [List.filterMap_map]
    exact List.filterMap_eq_nil_iff.mpr fun _ _ => rfl
  have hquiet : (t.notes.map (Event.breaker key)).filterMap Event.delivered? = [] := by
    rw [List.filterMap_map]
    exact List.filterMap_eq_nil_iff.mpr fun _ _ => rfl
  refine hregistry.note ?_ hquiet hquiet
  rw [hcall]
  rfl

variable (part : Part b b' key reply place) (hj : j < b'.targets.length)
include part hj

theorem Level.enter (h : Level b b' key place s s') (going : s.phase (place j) ≠ .done) (p : Phase) :
    Level b b' key place (s.enter (place j) p) (s'.enter j p) := by
  have going' : s'.phase j ≠ .done := h.phases j hj ▸ going
  have hphase : ∀ k, (s.enter (place j) p).phase k = if place j = k then p else s.phase k := phase_set rfl going
  have hphase' : ∀ k, (s'.enter j p).phase k = if j = k then p else s'.phase k := phase_set rfl going'
  refine ⟨⟨fun k hk => ?_, h.line, h.breaker, h.exits, h.calls, h.delivered⟩, h.now, h.stopped, h.givenUp⟩
  rw [hphase, hphase', h.phases k hk]
  by_cases hjk : j = k
  · rw [if_pos hjk, if_pos (congrArg place hjk)]
  · rw [if_neg hjk, if_neg fun heq => hjk (part.injective heq)]

omit hj in
theorem Level.line_erase (h : Level b b' key place s s') :
    (s'.line.erase j).map place = (s.line.erase (place j)).filter (b.serves key) := by
  rw [List.map_erase part.injective, h.line, List.erase_filter]

theorem Level.toEnd (h : Level b b' key place s s') : Level b b' key place (s.toEnd (place j)) (s'.toEnd j) := by
  refine ⟨⟨h.phases, ?_, h.breaker, h.exits, h.calls, h.delivered⟩, h.now, h.stopped, h.givenUp⟩
  show (s'.line.erase j ++ [j]).map place = (s.line.erase (place j) ++ [place j]).filter (b.serves key)
  rw [List.map_append, h.line_erase part, List.filter_append]
  simp [part.serves_place hj]

theorem Level.sleep (h : Level b b' key place s s') (going : s.phase (place j) ≠ .done) (p : Phase) (wake : Nat) :
    Level b b' key place (s.sleep (place j) p wake) (s'.sleep j p wake) := by
  have hentered := h.enter part hj going p
  unfold State.sleep
  rw [h.now]
  split
  · exact hentered.toEnd part hj
  · exact hentered

theorem Level.exit (h : Level b b' key place s s') (going : s.phase (place j) ≠ .done) (e : Exit) :
    Level b b' key place (b.exit (place j) e s) (b'.exit j e s') := by
  rw [exit_of_outside (by simp [part.ungated]), exit_of_outside (by simp [part.ungated'])]
  have hentered := h.enter part hj going .done
  refine ⟨⟨hentered.phases, h.line_erase part, h.breaker, ?_, h.calls, h.delivered⟩, h.now, h.stopped, h.givenUp⟩
  show (s'.exits ++ [(j, e)]).map _ = (s.exits ++ [(place j, e)]).filter _
  rw [List.map_append, h.exits, List.filter_append]
  simp [part.serves_place hj]

theorem Level.finish (h : Level b b' key place s s') (going : s.phase (place j) ≠ .done) (o : Outcome) (attempts : Nat) :
    Level b b' key place (b.finish (place j) o attempts s) (b'.finish j o attempts s') := by
  unfold Batch.finish
  rw [part.target j hj, part.start, h.now]
  exact h.exit part hj going _

theorem Level.conclude (h : Level b b' key place s s') (going : s.phase (place j) ≠ .done) (retries : UInt32)
    (o : Outcome) : Level b b' key place (b.conclude (place j) retries o s) (b'.conclude j retries o s') := by
  unfold Batch.conclude
  dsimp only
  rw [part.retry, part.delay j hj, h.now]
  split
  · exact h.sleep part hj going _ _
  · exact h.finish part hj going o _

theorem Level.asked (h : Level b b' key place s s') : b'.asked j s' = b.asked (place j) s := by
  unfold Batch.asked
  rw [part.key_eq hj, part.key_place hj, h.breaker, part.breaker, h.now]

theorem Level.told (h : Level b b' key place s s') (p : Permit) (v : Verdict) : b'.told j p v s' = b.told (place j) p v s := by
  unfold Batch.told
  rw [part.key_eq hj, part.key_place hj, h.breaker, part.breaker, h.now]

theorem Level.replyNow (h : Level b b' key place s s') : b'.replyNow j s' = b.replyNow (place j) s := by
  have hcalls : s'.callsOf (· == b.target (place j)) = s.callsOf (· == b.target (place j)) := by
    unfold State.callsOf
    rw [h.calls, State.callsOf, List.filter_filter]
    refine List.filter_congr fun call _ => ?_
    dsimp only
    by_cases htarget : call.target = b.target (place j)
    · have hserves : b.ofKey key call.target = true := htarget ▸ part.serves_place hj
      rw [hserves, Bool.and_true]
    · rw [beq_false_of_ne htarget, Bool.false_and]
  rw [replyNow_ofReplies part.scripted, replyNow_ofReplies part.scripted', part.target j hj, part.earlier, hcalls]

theorem Level.tell (h : Level b b' key place s s') (p : Permit) (v : Verdict) :
    Level b b' key place (b.tell (place j) p v s) (b'.tell j p v s') := by
  rw [tell_eq, tell_eq, h.told part hj, part.key_place hj, part.key_eq hj]
  exact h.noteTurn _

theorem Level.askedIn (h : Level b b' key place s s') : Level b b' key place (b.askedIn (place j) s) (b'.askedIn j s') := by
  unfold Batch.askedIn
  rw [h.asked part hj, part.key_place hj, part.key_eq hj]
  exact h.noteTurn _

theorem Level.attempt (h : Level b b' key place s s') (going : s.phase (place j) ≠ .done) (retries : UInt32) :
    Level b b' key place (b.attempt (place j) retries s) (b'.attempt j retries s') := by
  have hasked := h.asked part hj
  cases hanswer : (b.asked (place j) s).answer with
  | refused d =>
    rw [attempt_of_refused hanswer, attempt_of_refused (hasked ▸ hanswer), part.key_place hj, part.key_eq hj]
    exact ((h.askedIn part hj).noteQuiet rfl rfl rfl rfl).conclude part hj going _ _
  | granted permit =>
    rw [attempt_of_granted hanswer, attempt_of_granted (hasked ▸ hanswer), part.key_place hj, part.key_eq hj,
      h.replyNow part hj, part.target j hj, h.now]
    refine ((h.askedIn part hj).note ?_ rfl rfl).sleep part hj going _ _
    have hserves : b.ofKey key (b.target (place j)) = true := part.serves_place hj
    simp [Event.call?, hserves]

theorem Level.endCall (h : Level b b' key place s s') (going : s.phase (place j) ≠ .done) (retries : UInt32) (p : Permit)
    (o : Outcome) : Level b b' key place (b.endCall (place j) retries p o s) (b'.endCall j retries p o s') := by
  unfold Batch.endCall
  rw [h.now]
  have hended : Level b b' key place (s.note [.ended (place j) s.now o]) (s'.note [.ended j s.now o]) :=
    h.noteQuiet rfl rfl rfl rfl
  exact (hended.tell part hj p o.verdict).conclude part hj going retries o

theorem Level.breakOff (h : Level b b' key place s s') (going : s.phase (place j) ≠ .done) (p : Permit)
    (message : String) : Level b b' key place (b.breakOff (place j) p message s) (b'.breakOff j p message s') := by
  unfold Batch.breakOff
  rw [h.now]
  have hbroken : Level b b' key place (s.note [.brokeOff (place j) s.now message]) (s'.note [.brokeOff j s.now message]) :=
    h.noteQuiet rfl rfl rfl rfl
  exact (hbroken.tell part hj p .neutral).exit part hj going (.panic message)

/-- A worker that looks for its token finds it in both batches. -/
theorem Level.look (h : Level b b' key place s s') (plenty : Plenty b s) (plenty' : Plenty b' s') {since wake : Nat}
    (before : s.phase (place j) = .waiting since wake) :
    Level b b' key place (b.look (place j) since s) (b'.look j since s') := by
  have before' : s'.phase j = .waiting since wake := (h.phases j hj).trans before
  obtain ⟨bucket, hlook⟩ := plenty.look_eq part.ample before
  obtain ⟨bucket', hlook'⟩ := plenty'.look_eq part.ample' before'
  rw [hlook, hlook']
  have htaken : Level b b' key place ({ s with bucket }.note [.tokenTaken (place j) (Clock.since s.now since)])
      ({ s' with bucket := bucket' }.note [.tokenTaken j (Clock.since s'.now since)]) := by
    refine Level.noteQuiet ?_ rfl rfl rfl rfl
    exact ⟨⟨h.phases, h.line, h.breaker, h.exits, h.calls, h.delivered⟩, h.now, h.stopped, h.givenUp⟩
  have going : s.phase (place j) ≠ .done := by simp [before]
  exact htaken.attempt part hj going 0

/-- A worker of the key does the same in both batches. -/
theorem Level.move (h : Level b b' key place s s') (plenty : Plenty b s) (plenty' : Plenty b' s')
    (going : s.phase (place j) ≠ .done) : Level b b' key place (b.move (place j) s) (b'.move j s') := by
  have hphase := h.phases j hj
  unfold Batch.move
  rw [hphase, h.stopped, h.now]
  cases hp : s.phase (place j) with
  | fresh =>
    dsimp only
    split
    · exact h.finish part hj going _ _
    · rw [if_pos (by simp [part.ungated]), if_pos (by simp [part.ungated'])]
      exact h.enter part hj going _
  | queued =>
    dsimp only
    split
    · exact h.finish part hj going _ _
    · have hpassed : Level b b' key place ((s.leaveGate (place j)).takePermit) ((s'.leaveGate j).takePermit) :=
        ⟨⟨h.phases, h.line, h.breaker, h.exits, h.calls, h.delivered⟩, h.now, h.stopped, h.givenUp⟩
      exact hpassed.enter part hj going _
  | waiting since wake =>
    dsimp only
    split
    · exact h.finish part hj going _ _
    · exact h.look part hj plenty plenty' hp
  | calling retries permit ends reply =>
    dsimp only
    split
    · exact h.endCall part hj going _ _ _
    · split
      · exact h.endCall part hj going _ _ _
      · exact h.breakOff part hj going _ _
      · exact h
  | backingOff retry wake =>
    dsimp only
    split
    · exact h.finish part hj going _ _
    · exact h.attempt part hj going _
  | done => exact absurd hp going

/-- A result of the key is delivered in both batches, with the number of the task that broke off as the only difference. -/
theorem Level.collect (h : Level b b' key place s s') (acc : Accounted b s) (acc' : Accounted b' s') {e : Exit}
    (he : (place j, e) ∈ s.exits) (he' : (j, e) ∈ s'.exits) :
    Level b b' key place (b.collect (place j) e s) (b'.collect j e s') := by
  have hserves := part.serves_place hj
  have hresult : SameResult place (place j, b.resultOf (place j) s e) (j, b'.resultOf j s' e) := by
    rw [acc.resultOf he, acc'.resultOf he', h.now]
    cases e with
    | result r => exact ⟨rfl, rfl, rfl, rfl, .same _⟩
    | panic m =>
      unfold Exit.resultAt
      rw [part.start, part.target j hj]
      exact ⟨rfl, rfl, rfl, rfl, .brokeOff m⟩
  refine ⟨⟨h.phases, h.line, h.breaker, ?_, ?_, ?_⟩, h.now, h.stopped, h.givenUp⟩
  · have hinjective : Function.Injective fun x : Nat × Exit => (place x.1, x.2) := by
      rintro ⟨i, e⟩ ⟨k, e'⟩ heq
      simp only [Prod.mk.injEq] at heq ⊢
      exact ⟨part.injective heq.1, heq.2⟩
    show (s'.exits.erase (j, e)).map _ = (s.exits.erase (place j, e)).filter _
    rw [List.map_erase hinjective, h.exits, List.erase_filter]
  · rw [calls_collect, callsOf_congr calls_collect]
    exact h.calls
  · rw [delivered_collect, delivered_collect, List.filter_append]
    refine List.rel_append h.delivered ?_
    simpa [hserves] using hresult

end Own

/-! ### What others do -/

section Others
variable {b b' : Batch} {key : String} {reply : String → Nat → Reply} {place : Nat → Nat} {s s' t t' : State} {i j : Nat}

theorem Part.place_ne (part : Part b b' key reply place) (other : b.serves key i = false) (hj : j < b'.targets.length) :
    i ≠ place j := by
  rintro rfl
  exact absurd (other.symm.trans (part.serves_place hj)) Bool.false_ne_true

/-- The part does not notice the move of a worker of another key. -/
theorem Mirrors.move (h : Mirrors b b' key place s s') (part : Part b b' key reply place) (can : s.canMove i = true)
    (other : b.serves key i = false) : Mirrors b b' key place (b.move i s) s' := by
  have m := moved_move (b := b) can
  refine ⟨fun j hj => ?_, ?_, ?_, ?_, ?_, ?_⟩
  · rw [h.phases j hj, m.phase_of_ne (part.place_ne other hj)]
  · rw [h.line, filter_line_move other part.ungated]
  · rw [h.breaker, m.get_of_ne (ne_key_of_serves other)]
  · rw [h.exits]
    cases m.leaves with
    | going _ exits => rw [exits]
    | ended e _ exits _ =>
      rw [exits, List.filter_append]
      simp [other]
  · rw [h.calls, m.callsOf_of_ne other]
  · rw [m.delivered]
    exact h.delivered

theorem Mirrors.collect (h : Mirrors b b' key place s s') {e : Exit} (other : b.serves key i = false) :
    Mirrors b b' key place (b.collect i e s) s' := by
  refine ⟨h.phases, h.line, h.breaker, ?_, ?_, ?_⟩
  · rw [h.exits]
    exact (filter_erase_of_false (q := fun x : Nat × Exit => b.serves key x.1) other).symm
  · rw [h.calls, callsOf_congr calls_collect]
  · rw [delivered_collect, List.filter_append]
    simpa [other] using h.delivered

/-! ### What can happen -/

/-- In a batch without a gate nobody waits at it. -/
theorem Reachable.not_queued (ungated : b.permits = none) (reach : Reachable b s) (i : Nat) : s.phase i ≠ .queued := by
  induction reach with
  | start => by_cases hi : i < b.targets.length <;> simp [State.phase, initial, hi]
  | @step s t _ hs ih =>
    cases hs with
    | stop | collect | wait => exact ih
    | move k can =>
      have m := moved_move (b := b) can
      by_cases hki : k = i
      · subst hki
        have hi := m.before
        cases m with
        | queued before running _ =>
          have hmove : b.move k s = s.enter k (.waiting s.now s.now) := by
            unfold Batch.move
            rw [before]
            simp [running, ungated]
          rw [hmove, phase_enter hi]
          exact Phase.noConfusion
        | passed _ _ eq | waits _ _ _ _ _ _ _ eq | called _ _ _ _ _ _ _ eq | refused _ _ _ _ _ _ _ eq
        | failed _ _ _ _ _ _ _ _ eq | ended _ _ _ _ _ _ _ _ eq | brokeOff _ _ _ _ _ _ _ _ eq | cancelled _ _ _ eq =>
          rw [phase_self (agrees_of_unqueued eq).phases hi]
          exact Phase.noConfusion
      · rw [m.phase_of_ne hki]
        exact ih

theorem Mirrors.canMove_eq (h : Mirrors b b' key place s s') (hj : j < b'.targets.length) (now : s'.now = s.now)
    (stopped : s'.stopped = s.stopped) (served : s.phase (place j) ≠ .queued) : s'.canMove j = s.canMove (place j) := by
  unfold State.canMove
  rw [h.phases j hj, now, stopped]
  cases hp : s.phase (place j) with
  | queued => exact absurd hp served
  | fresh | waiting | calling | backingOff | done => rfl

/-- Whatever the part waits for, the whole waits for, too. -/
theorem Mirrors.mem_wakeTimes (h : Mirrors b b' key place s s') (part : Part b b' key reply place) (acc' : Accounted b' s')
    (stopped : s'.stopped = s.stopped) (givenUp : s'.givenUp = s.givenUp) {wake : Nat} (hmem : wake ∈ b'.wakeTimes s') :
    wake ∈ b.wakeTimes s := by
  unfold wakeTimes at hmem
  rw [part.cancelAt, part.deadline, stopped, givenUp, List.append_assoc, List.mem_append] at hmem
  rcases hmem with hworker | hbatch
  · obtain ⟨j, -, wakes⟩ := List.mem_filterMap.mp hworker
    have hj : j < b'.targets.length := acc'.lt_of_going fun hdone => by simp [State.wakes?, hdone] at wakes
    rw [wakes?_eq, h.phases j hj, ← wakes?_eq] at wakes
    exact mem_wakeTimes_of_wakes wakes
  · unfold wakeTimes
    rw [List.append_assoc]
    exact List.mem_append_right _ hbatch

theorem Level.stopDue_eq (h : Level b b' key place s s') (part : Part b b' key reply place) :
    b'.stopDue s' = b.stopDue s := by
  unfold stopDue callerDue deadlineDue
  rw [part.cancelAt, part.deadline, h.now, h.stopped, h.givenUp]

theorem Level.stop (h : Level b b' key place s s') (part : Part b b' key reply place) :
    Level b b' key place (b.stop s) (b'.stop s') := by
  refine ⟨⟨h.phases, h.line, h.breaker, h.exits, h.calls, h.delivered⟩, h.now, rfl, ?_⟩
  show (s'.givenUp || b'.callerDue s') = (s.givenUp || b.callerDue s)
  unfold callerDue
  rw [part.cancelAt, h.now, h.givenUp]

theorem Mirrors.exits_eq_nil (h : Mirrors b b' key place s s') (collected : s.exits = []) : s'.exits = [] := by
  have hexits := h.exits
  rw [collected] at hexits
  exact List.map_eq_nil_iff.mp hexits

/-- A part is over if the whole is. -/
theorem Mirrors.isOver (h : Mirrors b b' key place s s') (plenty' : Plenty b' s') (ended : s.isOver = true) :
    s'.isOver = true := by
  unfold State.isOver
  rw [Bool.and_eq_true, List.all_eq_true, List.isEmpty_iff]
  refine ⟨fun p hp => ?_, h.exits_eq_nil (exits_of_isOver ended)⟩
  obtain ⟨j, hj, rfl⟩ := List.mem_iff_getElem.mp hp
  have hphase : s'.phases[j] = s'.phase j := by simp [State.phase, hj]
  rw [hphase, h.phases j (plenty'.length ▸ hj), phase_of_isOver ended]
  rfl

end Others

end BatchFetch.Batch
