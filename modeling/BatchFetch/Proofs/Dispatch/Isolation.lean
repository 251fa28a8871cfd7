import BatchFetch.Proofs.Dispatch.Attempts
import BatchFetch.Proofs.Dispatch.Cutting
import BatchFetch.Proofs.Dispatch.Part

/-! # Endpoints are isolated

A batch without a gate and with enough tokens is compared with its part of one key. The two go on together while
something of the key happens; the part is left behind while only others are at work, and catches up when the clock
comes to the time for which it waits; and it may be over before the whole is. So the calls and the results of the
key are those of the part, whatever the other endpoints do. -/

namespace BatchFetch.Batch

/-- Nothing is left to do in a batch at its time, and it is not over. -/
structure Resting (b : Batch) (s : State) : Prop where
  ready : b.stopDue s = false
  idle : ∀ i, s.canMove i = false
  collected : s.exits = []
  going : s.isOver = false

/-- A state of the part beside a state of the whole. -/
inductive Beheld (b b' : Batch) (key : String) (place : Nat → Nat) (s s' : State) : Prop where
  | level (h : Level b b' key place s s')
  /-- The part waits for a later time. -/
  | behind (h : Mirrors b b' key place s s') (stopped : s'.stopped = s.stopped) (givenUp : s'.givenUp = s.givenUp)
      (resting : Resting b' s') (late : ∀ wake ∈ b'.wakeTimes s', s.now < wake)
  /-- The part is at its end. -/
  | ahead (h : Mirrors b b' key place s s') (ended : s'.isOver = true)

section Steps
variable {b b' : Batch} {key : String} {reply : String → Nat → Reply} {place : Nat → Nat} {s s' t t' : State}
  {i j later : Nat} {e : Exit}

theorem Beheld.mirrors (h : Beheld b b' key place s s') : Mirrors b b' key place s s' := by
  cases h with
  | level h => exact h.toMirrors
  | behind h _ _ _ _ => exact h
  | ahead h _ => exact h

theorem Mirrors.advance (h : Mirrors b b' key place s s') (u u' : Nat) :
    Mirrors b b' key place (s.advance u) (s'.advance u') :=
  ⟨h.phases, h.line, h.breaker, h.exits, h.calls, h.delivered⟩

theorem Level.canMove_place (h : Level b b' key place s s') (part : Part b b' key reply place) (reach : Reachable b s)
    (hj : j < b'.targets.length) : s'.canMove j = s.canMove (place j) :=
  h.canMove_eq hj h.now h.stopped (reach.not_queued part.ungated _)

/-- Two states are level when a worker of the key can move. -/
theorem Beheld.level_of_canMove (h : Beheld b b' key place s s') (part : Part b b' key reply place)
    (reach : Reachable b s) (hj : j < b'.targets.length) (can : s.canMove (place j) = true) :
    Level b b' key place s s' := by
  have served := reach.not_queued part.ungated (place j)
  cases h with
  | level h => exact h
  | behind h stopped givenUp resting late =>
    have asleep : Asleep s.now s' :=
      ⟨resting.idle, resting.collected, fun k wake wakes => late wake (mem_wakeTimes_of_wakes wakes)⟩
    have hcan : (s'.advance s.now).canMove j = s.canMove (place j) :=
      (h.advance s.now s.now).canMove_eq hj rfl stopped served
    exact absurd (asleep.canMove_advance.symm.trans (hcan.trans can)) Bool.false_ne_true
  | ahead h ended =>
    have hdone : s.phase (place j) = .done := (h.phases j hj).symm.trans (phase_of_isOver ended j)
    exact absurd hdone (moved_move (b := b) can).before

/-- Such a worker can move in the part, too. -/
theorem Beheld.exists_own (h : Beheld b b' key place s s') (part : Part b b' key reply place) (reach : Reachable b s)
    (can : s.canMove i = true) (own : b.serves key i = true) :
    ∃ j < b'.targets.length, place j = i ∧ s'.canMove j = true ∧ Level b b' key place s s' := by
  obtain ⟨j, hj, rfl⟩ := part.exists_place (reach.accounted.lt_of_canMove can) own
  have hlevel := h.level_of_canMove part reach hj can
  exact ⟨j, hj, rfl, (hlevel.canMove_place part reach hj).trans can, hlevel⟩

/-- Two states are level when a worker of the key waits to be collected. -/
theorem Beheld.level_of_mem_exits (h : Beheld b b' key place s s') (own : b.serves key i = true)
    (he : (i, e) ∈ s.exits) : Level b b' key place s s' := by
  have hne : s'.exits ≠ [] := by
    intro hnil
    have hexits := h.mirrors.exits
    have hmem : (i, e) ∈ s.exits.filter fun x => b.serves key x.1 := List.mem_filter.mpr ⟨he, own⟩
    rw [← hexits, hnil] at hmem
    cases hmem
  cases h with
  | level h => exact h
  | behind _ _ _ resting _ => exact absurd resting.collected hne
  | ahead _ ended => exact absurd (exits_of_isOver ended) hne

/-- The part does not notice the moves of others. -/
theorem Beheld.move_of_ne (h : Beheld b b' key place s s') (part : Part b b' key reply place) (can : s.canMove i = true)
    (other : b.serves key i = false) : Beheld b b' key place (b.move i s) s' := by
  obtain ⟨hnow, hstopped, hgivenUp, -⟩ := (moved_move (b := b) can).frame
  have hmirrors := h.mirrors.move part can other
  cases h with
  | level h =>
    exact .level ⟨hmirrors, h.now.trans hnow.symm, h.stopped.trans hstopped.symm, h.givenUp.trans hgivenUp.symm⟩
  | behind h stopped givenUp resting late =>
    exact .behind hmirrors (stopped.trans hstopped.symm) (givenUp.trans hgivenUp.symm) resting (hnow ▸ late)
  | ahead h ended => exact .ahead hmirrors ended

theorem Beheld.collect_of_ne (h : Beheld b b' key place s s') (other : b.serves key i = false) :
    Beheld b b' key place (b.collect i e s) s' := by
  have hmirrors := h.mirrors.collect (e := e) other
  cases h with
  | level h => exact .level ⟨hmirrors, h.now, h.stopped, h.givenUp⟩
  | behind h stopped givenUp resting late => exact .behind hmirrors stopped givenUp resting late
  | ahead h ended => exact .ahead hmirrors ended

/-- A part that is not over is stopped together with the whole. -/
theorem Beheld.stop (h : Beheld b b' key place s s') (part : Part b b' key reply place) (due : b.stopDue s = true) :
    Beheld b b' key place (b.stop s) s' ∨ b'.stopDue s' = true ∧ Beheld b b' key place (b.stop s) (b'.stop s') := by
  cases h with
  | level h => exact .inr ⟨(h.stopDue_eq part).trans due, .level (h.stop part)⟩
  | behind h stopped givenUp resting late =>
    -- Both times at which a batch is stopped are among those for which the part waits.
    exfalso
    rcases Bool.or_eq_true_iff.mp due with caller | deadline
    · obtain ⟨kept, hcancel⟩ := Bool.and_eq_true_iff.mp caller
      obtain ⟨c, hc, hle⟩ := (Option.any_eq_true _ _).mp hcancel
      have hkept : s'.givenUp = false := givenUp.trans (by simpa using kept)
      have hmem : c ∈ b'.wakeTimes s' := by
        unfold wakeTimes
        simp [hkept, part.cancelAt, hc]
      exact absurd (late c hmem) (Nat.not_lt.mpr (of_decide_eq_true hle))
    · obtain ⟨running, hle⟩ := Bool.and_eq_true_iff.mp deadline
      have hrunning : s'.stopped = false := stopped.trans (by simpa using running)
      have hmem : b.deadline ∈ b'.wakeTimes s' := by
        unfold wakeTimes
        simp [hrunning, part.deadline]
      exact absurd (late _ hmem) (Nat.not_lt.mpr (of_decide_eq_true hle))
  | ahead h ended => exact .inl (.ahead ⟨h.phases, h.line, h.breaker, h.exits, h.calls, h.delivered⟩ ended)

/-- The clock of the part goes on when that of the whole comes to the time for which the part waits. -/
theorem wait_beside (h : Mirrors b b' key place s s') (part : Part b b' key reply place) (acc' : Accounted b' s')
    (stopped : s'.stopped = s.stopped) (givenUp : s'.givenUp = s.givenUp) (resting : Resting b' s')
    (soonest : (b.wakeTimes s).min? = some later) :
    Beheld b b' key place (s.advance later) s' ∨
      (b'.wakeTimes s').min? = some later ∧ Beheld b b' key place (s.advance later) (s'.advance later) := by
  have hle : ∀ wake ∈ b'.wakeTimes s', later ≤ wake := fun wake hmem =>
    le_of_mem_wakeTimes soonest (h.mem_wakeTimes part acc' stopped givenUp hmem)
  by_cases hlater : later ∈ b'.wakeTimes s'
  · exact .inr ⟨List.min?_eq_some_iff.mpr ⟨hlater, hle⟩, .level ⟨h.advance later later, rfl, stopped, givenUp⟩⟩
  · refine .inl (.behind (h.advance later s'.now) stopped givenUp resting fun wake hmem => ?_)
    refine Nat.lt_of_le_of_ne (hle wake hmem) ?_
    rintro rfl
    exact hlater hmem

/-- A part rests when the whole does, or is over. -/
theorem Beheld.rests (h : Beheld b b' key place s s') (part : Part b b' key reply place) (reach : Reachable b s)
    (acc' : Accounted b' s') (ready : b.stopDue s = false) (idle : ∀ i, s.canMove i = false) (collected : s.exits = []) :
    s'.isOver = true ∨ (s'.stopped = s.stopped ∧ s'.givenUp = s.givenUp) ∧ Resting b' s' := by
  cases h with
  | level h =>
    cases hover : s'.isOver with
    | true => exact .inl rfl
    | false =>
      refine .inr ⟨⟨h.stopped, h.givenUp⟩, (h.stopDue_eq part).trans ready, fun j => ?_, h.exits_eq_nil collected, hover⟩
      rw [← Bool.not_eq_true]
      intro can
      have hj := acc'.lt_of_canMove can
      rw [h.canMove_place part reach hj, idle] at can
      cases can
  | behind _ stopped givenUp resting _ => exact .inr ⟨⟨stopped, givenUp⟩, resting⟩
  | ahead _ ended => exact .inl ended

theorem Beheld.wait (h : Beheld b b' key place s s') (part : Part b b' key reply place) (reach : Reachable b s)
    (acc' : Accounted b' s') (ready : b.stopDue s = false) (idle : ∀ i, s.canMove i = false) (collected : s.exits = [])
    (soonest : (b.wakeTimes s).min? = some later) :
    Beheld b b' key place (s.advance later) s' ∨
      Resting b' s' ∧ (b'.wakeTimes s').min? = some later ∧ Beheld b b' key place (s.advance later) (s'.advance later) := by
  rcases h.rests part reach acc' ready idle collected with ended | ⟨⟨stopped, givenUp⟩, resting⟩
  · exact .inl (.ahead (h.mirrors.advance later s'.now) ended)
  · exact (wait_beside h.mirrors part acc' stopped givenUp resting soonest).imp_right fun h => ⟨resting, h⟩

theorem Level.moved (h : Level b b' key place s s') (part : Part b b' key reply place) (reach : Reachable b s)
    (reach' : Reachable b' s') (hj : j < b'.targets.length) (can : s.canMove (place j) = true) :
    Level b b' key place (b.move (place j) s) (b'.move j s') :=
  h.move part hj (reach.plenty part.ample) (reach'.plenty part.ample') (moved_move (b := b) can).before

/-- Whatever step the whole takes, the part stays where it is or takes a step, too. -/
theorem Beheld.step (h : Beheld b b' key place s s') (part : Part b b' key reply place) (reach : Reachable b s)
    (reach' : Reachable b' s') (hs : Step b s t) :
    Beheld b b' key place t s' ∨ ∃ t', Step b' s' t' ∧ Beheld b b' key place t t' := by
  cases hs with
  | stop due => exact (h.stop part due).imp_right fun ⟨due', h⟩ => ⟨_, .stop due', h⟩
  | move i can =>
    cases other : b.serves key i with
    | false => exact .inl (h.move_of_ne part can other)
    | true =>
      obtain ⟨j, hj, rfl, can', hlevel⟩ := h.exists_own part reach can other
      exact .inr ⟨_, .move j can', .level (hlevel.moved part reach reach' hj can)⟩
  | collect i e he =>
    cases other : b.serves key i with
    | false => exact .inl (h.collect_of_ne other)
    | true =>
      have hlevel := h.level_of_mem_exits other he
      have hmem : (i, e) ∈ s.exits.filter fun x => b.serves key x.1 := List.mem_filter.mpr ⟨he, other⟩
      rw [← hlevel.exits] at hmem
      obtain ⟨⟨j, e⟩, he', ⟨⟩⟩ := List.mem_map.mp hmem
      exact .inr ⟨_, .collect j e he', .level (hlevel.collect part (reach'.accounted.lt_of_exit he') reach.accounted
        reach'.accounted he he')⟩
  | wait later ready idle collected _ soonest =>
    refine (h.wait part reach reach'.accounted ready idle collected soonest).imp_right fun ⟨resting, soonest', h⟩ => ?_
    exact ⟨_, .wait later resting.ready resting.idle resting.collected resting.going soonest', h⟩

/-- The first one in a list is the first one among those that are kept of it, if it is one of them. -/
theorem find?_filter_of_pos {α : Type} {p q : α → Bool} {l : List α} {x : α} (hq : q x = true)
    (first : l.find? p = some x) : (l.filter q).find? p = some x := by
  obtain ⟨hp, before, after, rfl, nobody⟩ := List.find?_eq_some_iff_append.mp first
  rw [List.filter_append, List.filter_cons_of_pos hq]
  exact List.find?_eq_some_iff_append.mpr ⟨hp, _, _, rfl, fun a ha => nobody a (List.mem_filter.mp ha).1⟩

/-- A part that is level serves the same worker as the whole when that is one of its own. -/
theorem Level.find?_eq (h : Level b b' key place s s') (part : Part b b' key reply place) (reach : Reachable b s)
    (acc' : Accounted b' s') (hj : j < b'.targets.length) (first : s.line.find? s.canMove = some (place j)) :
    s'.line.find? s'.canMove = some j := by
  have hfirst := find?_filter_of_pos (part.serves_place hj) first
  rw [← h.line, List.find?_map, Option.map_eq_some_iff] at hfirst
  obtain ⟨k, hk, hplace⟩ := hfirst
  cases part.injective hplace
  obtain ⟨can, before, after, hline, nobody⟩ := List.find?_eq_some_iff_append.mp hk
  refine List.find?_eq_some_iff_append.mpr ⟨(h.canMove_place part reach hj).trans can, before, after, hline, fun a ha => ?_⟩
  rw [Bool.not_eq_true', ← Bool.not_eq_true]
  intro can'
  have hnot := nobody a ha
  simp [← h.canMove_place part reach (acc'.lt_of_canMove can'), can'] at hnot

/-- With the workers served in line, the part stays where it is or takes its next step, too. -/
theorem Beheld.next (h : Beheld b b' key place s s') (part : Part b b' key reply place) (reach : Reachable b s)
    (reach' : Reachable b' s') (hn : b.next s = some t) :
    Beheld b b' key place t s' ∨ ∃ t', b'.next s' = some t' ∧ Beheld b b' key place t t' := by
  cases next_iff.mp hn with
  | stop due => exact (h.stop part due).imp_right fun ⟨due', h⟩ => ⟨_, next_iff.mpr (.stop due'), h⟩
  | collect i e rest ready exits =>
    have he : (i, e) ∈ s.exits := by simp [exits]
    cases other : b.serves key i with
    | false => exact .inl (h.collect_of_ne other)
    | true =>
      have hlevel := h.level_of_mem_exits other he
      have hexits := hlevel.exits
      rw [exits, List.filter_cons_of_pos (by exact other)] at hexits
      obtain ⟨⟨j, e⟩, rest', exits', ⟨⟩, -⟩ := List.map_eq_cons_iff.mp hexits
      have he' : (j, e) ∈ s'.exits := by simp [exits']
      refine .inr ⟨_, next_iff.mpr (.collect j e rest' ((hlevel.stopDue_eq part).trans ready) exits'), .level ?_⟩
      exact hlevel.collect part (reach'.accounted.lt_of_exit he') reach.accounted reach'.accounted he he'
  | move i ready collected first =>
    have can : s.canMove i = true := List.find?_some first
    cases other : b.serves key i with
    | false => exact .inl (h.move_of_ne part can other)
    | true =>
      obtain ⟨j, hj, rfl, -, hlevel⟩ := h.exists_own part reach can other
      have first' := hlevel.find?_eq part reach reach'.accounted hj first
      have ready' := (hlevel.stopDue_eq part).trans ready
      exact .inr ⟨_, next_iff.mpr (.move j ready' (hlevel.exits_eq_nil collected) first'),
        .level (hlevel.moved part reach reach' hj can)⟩
  | wait later ready collected nobody going soonest =>
    have idle := reach.lined.idle nobody
    refine (h.wait part reach reach'.accounted ready idle collected soonest).imp_right fun ⟨resting, soonest', h⟩ => ?_
    have nobody' : s'.line.find? s'.canMove = none := List.find?_eq_none.mpr fun j _ => by simp [resting.idle j]
    exact ⟨_, next_iff.mpr (.wait later resting.ready resting.collected nobody' resting.going soonest'), h⟩

theorem Beheld.run (n : Nat) (h : Beheld b b' key place s s') (part : Part b b' key reply place) (reach : Reachable b s)
    (reach' : Reachable b' s') : ∃ k ≤ n, Beheld b b' key place (b.run n s) (b'.run k s') := by
  induction n generalizing s s' with
  | zero => exact ⟨0, Nat.le_refl _, h⟩
  | succ n ih =>
    cases hn : b.next s with
    | none =>
      rw [run_succ_of_none hn]
      exact ⟨0, Nat.zero_le _, h⟩
    | some t =>
      rw [run_succ_of_some hn]
      have reacht := reach.step (step_of_next reach.lined hn)
      rcases h.next part reach reach' hn with h | ⟨t', hn', h⟩
      · obtain ⟨k, hk, h⟩ := ih h reacht reach'
        exact ⟨k, Nat.le_succ_of_le hk, h⟩
      · obtain ⟨k, hk, h⟩ := ih h reacht (reach'.step (step_of_next reach'.lined hn'))
        exact ⟨k + 1, Nat.succ_le_succ hk, run_succ_of_some hn' ▸ h⟩

/-- In whatever order things happen in the whole, they can happen so in the part. -/
theorem Reachable.beheld (start : Beheld b b' key place b.initial b'.initial) (part : Part b b' key reply place)
    (reach : Reachable b s) : ∃ s', Reachable b' s' ∧ Beheld b b' key place s s' := by
  induction reach with
  | start => exact ⟨_, .start, start⟩
  | step reach hs ih =>
    obtain ⟨s', reach', h⟩ := ih
    rcases h.step part reach reach' hs with h | ⟨t', hs', h⟩
    · exact ⟨s', reach', h⟩
    · exact ⟨t', reach'.step hs', h⟩

/-- A part that is over shows the same from then on. -/
theorem Mirrors.run_of_isOver (n : Nat) (h : Mirrors b b' key place s s') (ended : s'.isOver = true) :
    Mirrors b b' key place s (b'.run n s') ∧ (b'.run n s').isOver = true := by
  induction n generalizing s' with
  | zero => exact ⟨h, ended⟩
  | succ n ih =>
    cases hn : b'.next s' with
    | none =>
      rw [run_succ_of_none hn]
      exact ⟨h, ended⟩
    | some t' =>
      rw [run_succ_of_some hn]
      cases next_iff.mp hn with
      | stop _ => exact ih ⟨h.phases, h.line, h.breaker, h.exits, h.calls, h.delivered⟩ ended
      | collect i e rest _ exits => cases (exits_of_isOver ended).symm.trans exits
      | move i _ _ first =>
        exact absurd (phase_of_isOver ended i) (moved_move (b := b') (List.find?_some first)).before
      | wait _ _ _ _ going _ => cases going.symm.trans ended

end Steps

/-! ### The targets of a key -/

/-- The batch of those targets that have a key, with random numbers of its own. -/
def ofTargets (b : Batch) (key : String) (draw : Nat → UInt32 → Nat) : Batch :=
  { b with targets := b.targets.filter (b.ofKey key), draw }

/-- The workers whose targets have a key. -/
def placesOf (b : Batch) (key : String) : List Nat := (List.range b.targets.length).filter (b.serves key)

/-- The worker that has the target of a worker of the part. Beyond those there is nothing to be found. -/
def place (b : Batch) (key : String) (j : Nat) : Nat := ((b.placesOf key)[j]?).getD (b.targets.length + j)

section Targets
variable {b : Batch} {key : String} {reply : String → Nat → Reply} {draw' : Nat → UInt32 → Nat} {j : Nat}

theorem place_of_lt (hj : j < (b.placesOf key).length) : b.place key j = (b.placesOf key)[j] := by
  simp [place, hj]

theorem place_of_le (hj : (b.placesOf key).length ≤ j) : b.place key j = b.targets.length + j := by
  simp [place, hj]

theorem place_lt (hj : j < (b.placesOf key).length) : b.place key j < b.targets.length := by
  rw [place_of_lt hj]
  exact List.mem_range.mp (List.mem_filter.mp (List.getElem_mem hj)).1

theorem place_injective : Function.Injective (b.place key) := by
  intro j k heq
  rcases Nat.lt_or_ge j (b.placesOf key).length with hj | hj <;>
    rcases Nat.lt_or_ge k (b.placesOf key).length with hk | hk
  · rw [place_of_lt hj, place_of_lt hk] at heq
    exact (List.getElem_inj (List.nodup_range.filter _)).mp heq
  · have := place_lt hj
    rw [heq, place_of_le hk] at this
    omega
  · have := place_lt hk
    rw [← heq, place_of_le hj] at this
    omega
  · rw [place_of_le hj, place_of_le hk] at heq
    exact Nat.add_left_cancel heq

theorem map_place : (List.range (b.placesOf key).length).map (b.place key) = b.placesOf key := by
  refine List.ext_getElem (by simp) fun j hj hj' => ?_
  rw [List.getElem_map, List.getElem_range, place_of_lt hj']

theorem map_target_placesOf : (b.placesOf key).map b.target = b.targets.filter (b.ofKey key) := by
  conv_rhs => rw [← map_target_range b, List.filter_map]
  rfl

theorem length_ofTargets : (b.ofTargets key draw').targets.length = (b.placesOf key).length := by
  show (b.targets.filter (b.ofKey key)).length = _
  rw [← map_target_placesOf, List.length_map]

/-- The targets of a key are a part of their batch. -/
theorem part_ofTargets (scripted : b.transport = .ofReplies reply) (ungated : b.permits = none) (ample : Ample b)
    (draws : b.retry.jitter = true → ∀ j < (b.ofTargets key draw').targets.length, draw' j = b.draw (b.place key j)) :
    Part b (b.ofTargets key draw') key reply (b.place key) where
  start := rfl
  breaker := rfl
  scope := rfl
  retry := rfl
  earlier := rfl
  cancelAt := rfl
  deadline := rfl
  scripted := scripted
  scripted' := scripted
  ungated := ungated
  ungated' := ungated
  ample := ample
  ample' := by
    have hle : (b.ofTargets key draw').targets.length ≤ b.targets.length := List.length_filter_le ..
    refine ⟨ample.round, ample.rate, hle.trans ample.small, le_trans ?_ ample.capacity⟩
    exact_mod_cast hle
  injective := place_injective
  places := by
    rw [length_ofTargets]
    exact map_place
  target j hj := by
    have hj' : j < (b.placesOf key).length := length_ofTargets ▸ hj
    have htargets : (b.ofTargets key draw').targets[j]? = ((b.placesOf key).map b.target)[j]? :=
      congrArg (·[j]?) map_target_placesOf.symm
    rw [target, htargets, place_of_lt hj']
    simp [hj']
  delay j hj retry := by
    cases jitter : b.retry.jitter with
    | false => rw [delay_of_plain jitter, delay_of_plain jitter]
    | true => rw [show (b.ofTargets key draw').draw j = b.draw (b.place key j) from draws jitter j hj]

theorem level_initial {b' : Batch} {place : Nat → Nat} (part : Part b b' key reply place) :
    Level b b' key place b.initial b'.initial where
  phases j hj := by
    have hlt := (part.mem_places hj).1
    simp [State.phase, initial, hj, hlt]
  line := part.places
  breaker := rfl
  exits := rfl
  calls := rfl
  delivered := .nil
  now := part.start
  stopped := by
    show b'.cancelAt.any (· ≤ b'.start) = b.cancelAt.any (· ≤ b.start)
    rw [part.cancelAt, part.start]
  givenUp := by
    show b'.cancelAt.any (· ≤ b'.start) = b.cancelAt.any (· ≤ b.start)
    rw [part.cancelAt, part.start]

end Targets

/-! ### What is seen of a key -/

/-- Two results are the same up to the number of a task that broke off. -/
structure AlikeResults (r r' : FetchResult) : Prop where
  target : r.target = r'.target
  attempts : r.attempts = r'.attempts
  elapsed : r.elapsed = r'.elapsed
  outcome : ∃ i j, Alike i j r.outcome r'.outcome

/-- A batch has come as far as another one: it is at the same time, or it is over, or has nothing to do until later. -/
def Abreast (b' : Batch) (t t' : State) : Prop :=
  t'.now = t.now ∨ t'.isOver = true ∨ ∀ u, Step b' t' u → t.now < u.now

/-- The calls and the results of the targets of a key, in their order, are all the calls and results of another batch. -/
structure Shows (scope : Scope) (key : String) (t t' : State) : Prop where
  calls : t'.calls = t.callsOf fun target => Endpoint.key scope target == key
  results : List.Forall₂ AlikeResults (t.results.filter fun r => Endpoint.key scope r.target == key) t'.results

section Views
variable {b b' : Batch} {key : String} {place : Nat → Nat} {s s' : State}

theorem Mirrors.shows (h : Mirrors b b' key place s s') (acc : Accounted b s) : Shows b.scope key s s' := by
  refine ⟨h.calls, ?_⟩
  have hfilter : (s.delivered.filter fun x => Endpoint.key b.scope x.2.target == key) =
      s.delivered.filter fun x => b.serves key x.1 := by
    refine List.filter_congr fun x hx => ?_
    rw [(acc.delivered x.1 x.2 hx).1]
    rfl
  rw [results_eq_delivered, results_eq_delivered, List.filter_map, List.forall₂_map_left_iff, List.forall₂_map_right_iff]
  show List.Forall₂ _ (s.delivered.filter fun x => Endpoint.key b.scope x.2.target == key) _
  rw [hfilter]
  exact h.delivered.imp fun x x' same => ⟨same.target, same.attempts, same.elapsed, _, _, same.outcome⟩

theorem Beheld.abreast (h : Beheld b b' key place s s') : Abreast b' s s' := by
  cases h with
  | level h => exact .inl h.now
  | behind _ _ _ resting late =>
    refine .inr (.inr fun u hs => ?_)
    cases hs with
    | stop due => exact absurd (resting.ready.symm.trans due) Bool.false_ne_true
    | move i can => exact absurd ((resting.idle i).symm.trans can) Bool.false_ne_true
    | collect i e he =>
      rw [resting.collected] at he
      cases he
    | wait later _ _ _ _ soonest => exact late later (List.min?_eq_some_iff.mp soonest).1
  | ahead _ ended => exact .inr (.inl ended)

end Views

section Law
variable {c : Config} {targets : List String} {start : Nat} {cancelAfter : Option UInt64} {reply : String → Nat → Reply}
  {earlier : List Call} {draw draw' : Nat → UInt32 → Nat} {key : String} {b b' : Batch}

/-- A batch without a gate and with a token for each of its targets is compared with the batch of those of its targets
    that have a key, at the same time, with the same replies and the same limit of time. Whatever the other targets do,
    the calls with their times and the results in their order are the same: at every moment of a run, when the run is
    over, and in whatever order things happen. If waits are random, the workers have to draw the same numbers. -/
theorem endpoint_isolated
    (built : ofConfig? c targets start cancelAfter (.ofReplies reply) earlier draw = some b)
    (built' : ofConfig? c (targets.filter fun target => Endpoint.key c.circuitBreaker.scope target == key) start
      cancelAfter (.ofReplies reply) earlier draw' = some b')
    (ungated : c.dispatch.maxConcurrency = none) (fits : targets.length ≤ c.rateLimit.burstSize.toNat)
    (draws : c.retries.jitter = true → ∀ j < b'.targets.length, draw' j = draw (b.place key j)) :
    (∀ n, ∃ k ≤ n, Shows c.circuitBreaker.scope key (b.run n b.initial) (b'.run k b'.initial) ∧
      Abreast b' (b.run n b.initial) (b'.run k b'.initial)) ∧
    (∀ n m, n ≤ m → (b.run n b.initial).isOver = true → (b'.run m b'.initial).isOver = true ∧
      Shows c.circuitBreaker.scope key (b.run n b.initial) (b'.run m b'.initial)) ∧
    ∀ t, Reachable b t → ∃ t', Reachable b' t' ∧ Shows c.circuitBreaker.scope key t t' ∧ Abreast b' t t' ∧
      (t.isOver = true → t'.isOver = true) := by
  have hb := eq_ofConfig built
  have hb' : b' = b.ofTargets key draw' := by
    rw [eq_ofConfig built', hb]
    rfl
  have hscope : b.scope = c.circuitBreaker.scope := by rw [hb]
  have part : Part b b' key reply (b.place key) := by
    rw [hb'] at draws ⊢
    refine part_ofTargets (by rw [hb]) (by rw [hb, ungated]; rfl) (ample_of_built built fits) fun jitter => ?_
    have hdraw : b.draw = draw := by rw [hb]
    rw [hb] at jitter
    exact hdraw ▸ draws jitter
  have initial : Beheld b b' key (b.place key) b.initial b'.initial := .level (level_initial part)
  have run : ∀ n, ∃ k ≤ n, Beheld b b' key (b.place key) (b.run n b.initial) (b'.run k b'.initial) :=
    fun n => initial.run n part .start .start
  rw [← hscope]
  refine ⟨fun n => ?_, fun n m hnm ended => ?_, fun t reach => ?_⟩
  · obtain ⟨k, hk, h⟩ := run n
    exact ⟨k, hk, h.mirrors.shows (Reachable.start.run n).accounted, h.abreast⟩
  · obtain ⟨k, hk, h⟩ := run n
    have ended' := h.mirrors.isOver ((Reachable.start.run k).plenty part.ample') ended
    obtain ⟨h', stays⟩ := h.mirrors.run_of_isOver (m - k) ended'
    rw [← run_add, Nat.add_sub_cancel' (hk.trans hnm)] at h' stays
    exact ⟨stays, h'.shows (Reachable.start.run n).accounted⟩
  · obtain ⟨t', reach', h⟩ := reach.beheld initial part
    exact ⟨t', reach', h.mirrors.shows reach.accounted, h.abreast, h.mirrors.isOver (reach'.plenty part.ample')⟩

end Law

/-! ### An endpoint between one that fails and one that never answers -/

def mixedConfig : Config :=
  { retries := { maxRetries := 1, baseDelayMs := 10 }
    circuitBreaker := { failureThreshold := 2, openDurationMs := 1000, scope := .url } }

/-- The first call of one target breaks off, the second one fails, and the third one succeeds. -/
def mixedScript : Script :=
  { replies :=
      [("a", [{ ending := .panic "boom" }, { ending := .outcome (.failed .connection "no route") },
        { after := Span.ofMillis 5, ending := .outcome (.completed 200 7) }]),
       ("b", [{ ending := .never }])]
    fallback := { ending := .outcome (.failed .connection "no route") } }

def mixed : Batch :=
  { targets := ["c", "a", "b", "a"], start := 0, limits := .ofConfig {}, breaker := .make 2 (Span.ofMillis 1000)
    scope := .url, retry := .ofConfig mixedConfig.retries, permits := none, transport := mixedScript.transport
    cancelAt := some (Clock.due 0 (Span.ofMillis 100)), deadline := Clock.timer 0 (Span.ofSeconds 30) }

def unmixed : Batch := { mixed with targets := ["a", "a"] }

theorem built_mixed :
    ofConfig? mixedConfig ["c", "a", "b", "a"] 0 (some 100) (.ofReplies mixedScript.reply) [] (fun _ _ => 0) =
      some mixed := rfl

theorem built_unmixed :
    ofConfig? mixedConfig (["c", "a", "b", "a"].filter fun target => Endpoint.key .url target == "a") 0 (some 100)
      (.ofReplies mixedScript.reply) [] (fun _ _ => 0) = some unmixed := rfl

def mixedEnd : State := mixed.run 40 mixed.initial

/-- The call that breaks off is that of the second worker of the one batch, and of the first worker of the other. -/
theorem endpoint_isolated_mixed :
    mixedEnd.isOver = true ∧ (unmixed.run 40 unmixed.initial).isOver = true ∧
      Shows .url "a" mixedEnd (unmixed.run 40 unmixed.initial) ∧
      (mixedEnd.callsOf (· == "a")).map (·.time) = [0, 0, 10000000] ∧
      mixedEnd.results.map (·.target) = ["a", "c", "a", "b"] := by
  have ended : mixedEnd.isOver = true := by decide +kernel
  obtain ⟨-, isolated, -⟩ := endpoint_isolated built_mixed built_unmixed rfl (by decide) fun _ _ _ => rfl
  obtain ⟨ended', shows⟩ := isolated 40 40 (Nat.le_refl _) ended
  exact ⟨ended, ended', shows, by decide +kernel, by decide +kernel⟩

end BatchFetch.Batch
