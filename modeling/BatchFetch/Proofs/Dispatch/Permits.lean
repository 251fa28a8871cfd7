import BatchFetch.Proofs.Dispatch.Building
import BatchFetch.Proofs.Dispatch.Timing

/-! # Permits

A worker of a batch with a gate holds a permit from the move on by which it passes the gate until it ends,
however it ends. So each permit is free, or held by a worker that is inside; and as long as one is free, whoever
is first at the gate can pass it. -/

namespace BatchFetch.Batch

/-- How many workers are past the gate and have not ended. -/
def State.inside (s : State) : Nat := s.phases.countP Phase.isInside

/-- How many workers are in a call. -/
def State.calling (s : State) : Nat := s.phases.countP (·.permit?.isSome)

/-! ### Counting workers -/

section Counting
variable {b : Batch} {s t : State} {i : Nat}

theorem Moved.phases (m : Moved b i s t) : t.phases = s.phases.set i (t.phase i) := by
  have : ∃ p, t.phases = s.phases.set i p := by
    cases m <;> rename_i eq <;> exact ⟨_, (agrees_of_unqueued eq).phases⟩
  obtain ⟨p, hp⟩ := this
  rwa [phase_self hp m.before]

/-- The count of workers of some kind changes with the one that moves. -/
theorem countP_phases {p : Phase} (q : Phase → Bool) (hphases : t.phases = s.phases.set i p) (hi : s.phase i ≠ .done) :
    t.phases.countP q + (if q (s.phase i) then 1 else 0) = s.phases.countP q + if q p then 1 else 0 := by
  have hlt := phase_of_done_le hi
  have hphase : s.phases[i] = s.phase i := by simp [State.phase, hlt]
  have hpos : q s.phases[i] = true → 0 < s.phases.countP q := fun hq =>
    List.countP_pos_iff.mpr ⟨_, List.getElem_mem hlt, hq⟩
  rw [hphases, List.countP_set hlt, ← hphase]
  by_cases hq : q s.phases[i] = true
  · have := hpos hq
    simp only [hq, if_true]
    omega
  · simp only [if_neg hq]
    omega

theorem calling_le_inside (s : State) : s.calling ≤ s.inside :=
  List.countP_mono_left fun p _ h => by cases p <;> simp_all [Phase.permit?, Phase.isInside]

end Counting

/-! ### What a move does at the gate -/

/-- A worker that is inside keeps its permit, or ends and gives it back. -/
inductive Keeps (i : Nat) (s t : State) : Prop where
  | keeps (inside : (t.phase i).isInside = true) (free : t.free = s.free) (gate : t.gate = s.gate)
  | gives (done : t.phase i = .done) (free : t.free = s.free + 1) (gate : t.gate = s.gate.erase i)

/-- What a move of a worker does at the gate. -/
inductive Gated (i : Nat) (s t : State) : Prop where
  | queues (before : s.phase i = .fresh) (after : t.phase i = .queued) (free : t.free = s.free)
      (gate : t.gate = s.gate ++ [i])
  /-- It passes at once. -/
  | enters (before : s.phase i = .fresh) (inside : (t.phase i).isInside = true) (free : t.free + 1 = s.free)
      (gate : t.gate = s.gate)
  /-- It passes when it is its turn. -/
  | passes (before : s.phase i = .queued) (inside : (t.phase i).isInside = true) (free : t.free + 1 = s.free)
      (gate : t.gate = s.gate.erase i)
  /-- It ends outside. -/
  | leaves (before : s.phase i = .fresh ∨ s.phase i = .queued) (done : t.phase i = .done) (free : t.free = s.free)
      (gate : t.gate = s.gate.erase i)
  | within (before : (s.phase i).isInside = true) (keeps : Keeps i s t)

section Gate
variable {b : Batch} {s t u : State} {i : Nat}

/-- What else changed in between does not matter. -/
theorem Keeps.congr (h : Keeps i u t) (free : u.free = s.free) (gate : u.gate = s.gate) : Keeps i s t := by
  cases h with
  | keeps inside free' gate' => exact .keeps inside (free'.trans free) (gate'.trans gate)
  | gives done free' gate' => exact .gives done (free ▸ free') (gate ▸ gate')

theorem gate_givePermit : s.givePermit.gate = s.gate ∧ s.givePermit.free = s.free + 1 := by
  unfold State.givePermit
  dsimp only
  split <;> exact ⟨rfl, rfl⟩

theorem phase_enter {p : Phase} (hi : s.phase i ≠ .done) : (s.enter i p).phase i = p :=
  phase_self (s := s) rfl hi

theorem inside_ne_done (inside : (s.phase i).isInside = true) : s.phase i ≠ .done := by
  intro h
  rw [h] at inside
  cases inside

theorem keeps_sleep {p : Phase} {wake : Nat} (inside : (s.phase i).isInside = true) (hp : p.isInside = true) :
    Keeps i s (s.sleep i p wake) := by
  have hphase : (s.sleep i p wake).phase i = p :=
    phase_self (agrees_of_unqueued unqueued_sleep).phases (inside_ne_done inside)
  refine .keeps (hphase.symm ▸ hp) ?_ ?_ <;>
  · unfold State.sleep
    split <;> rfl

variable (gated : b.permits.isSome = true)
include gated

theorem keeps_exit {e : Exit} (inside : (s.phase i).isInside = true) : Keeps i s (b.exit i e s) := by
  have hexit : b.exit i e s =
      State.givePermit { (s.enter i .done).leaveGate i with
        line := s.line.erase i, exits := s.exits ++ [(i, e)] } := by
    unfold exit
    simp only [inside, gated, and_self, if_true]
    rfl
  refine .gives phase_exit ?_ ?_
  · rw [hexit, gate_givePermit.2]
    rfl
  · rw [hexit, gate_givePermit.1]
    rfl

theorem keeps_conclude {retries : UInt32} {o : Outcome} (inside : (s.phase i).isInside = true) :
    Keeps i s (b.conclude i retries o s) := by
  unfold conclude
  split
  · exact keeps_sleep inside rfl
  · exact keeps_exit gated inside

theorem keeps_attempt {retries : UInt32} (inside : (s.phase i).isInside = true) :
    Keeps i s (b.attempt i retries s) := by
  unfold attempt
  dsimp only
  split
  · exact (keeps_conclude gated (s := (s.noteBreaker _ _ _).note _) inside).congr rfl rfl
  · rename_i permit _
    exact (keeps_sleep (s := (s.noteBreaker _ _ _).note _) (p := .calling retries permit _ _) inside rfl).congr rfl rfl

theorem keeps_look {since : Nat} (inside : (s.phase i).isInside = true) : Keeps i s (b.look i since s) := by
  unfold look
  split
  · rename_i bucket _
    have h : Keeps i _ (b.attempt i 0 ({ s with bucket }.note [.tokenTaken i (Clock.since s.now since)])) :=
      keeps_attempt gated inside
    exact h.congr rfl rfl
  · rename_i bucket _
    exact (keeps_sleep (s := { s with bucket }) (p := .waiting since _) inside rfl).congr rfl rfl

theorem keeps_endCall {retries : UInt32} {permit : Permit} {o : Outcome} (inside : (s.phase i).isInside = true) :
    Keeps i s (b.endCall i retries permit o s) :=
  (keeps_conclude gated (s := b.tell i permit o.verdict (s.note [.ended i s.now o])) inside).congr rfl rfl

theorem keeps_breakOff {permit : Permit} {message : String} (inside : (s.phase i).isInside = true) :
    Keeps i s (b.breakOff i permit message s) :=
  (keeps_exit gated (s := b.tell i permit .neutral (s.note [.brokeOff i s.now message])) inside).congr rfl rfl

omit gated in
/-- Who ends outside has no permit to give back. -/
theorem leaves_cancel {attempts : Nat} (before : s.phase i = .fresh ∨ s.phase i = .queued) :
    Gated i s (b.cancel i attempts s) := by
  have outside : (s.phase i).isInside = false := by
    rcases before with h | h <;> rw [h] <;> rfl
  refine .leaves before phase_exit ?_ ?_
  · show (b.exit i _ s).free = s.free
    rw [exit_of_outside (by simp [outside])]
    rfl
  · show (b.exit i _ s).gate = s.gate.erase i
    rw [exit_of_outside (by simp [outside])]
    rfl

theorem gated_move (can : s.canMove i = true) : Gated i s (b.move i s) := by
  have hi := (moved_move (b := b) can).before
  have closed : b.permits.isNone = false := by
    rw [← Option.not_isSome, gated]
    rfl
  unfold State.canMove at can
  unfold move
  cases hp : s.phase i with
  | fresh =>
    dsimp only
    split
    · exact leaves_cancel (.inl hp)
    · rw [if_neg (by simp [closed])]
      split
      · rename_i room
        refine .enters hp ?_ ?_ rfl
        · rw [phase_enter (s := s.takePermit) hi]
          rfl
        · exact Nat.sub_add_cancel (Nat.lt_of_le_of_lt (Nat.zero_le _) room)
      · exact .queues hp (phase_enter (s := { s with gate := s.gate ++ [i] }) hi) rfl rfl
  | queued =>
    simp only [hp, Bool.or_eq_true, decide_eq_true_eq] at can
    dsimp only
    split
    · exact leaves_cancel (.inr hp)
    · rename_i running
      have room := can.resolve_left running
      refine .passes hp ?_ ?_ rfl
      · rw [phase_enter (s := (s.leaveGate i).takePermit) hi]
        rfl
      · exact Nat.sub_add_cancel (Nat.lt_of_le_of_lt (Nat.zero_le _) room)
  | waiting since wake =>
    have inside : (s.phase i).isInside = true := by rw [hp]; rfl
    refine .within inside ?_
    dsimp only
    split
    · exact keeps_exit gated inside
    · exact keeps_look gated inside
  | calling retries permit ends reply =>
    have inside : (s.phase i).isInside = true := by rw [hp]; rfl
    refine .within inside ?_
    dsimp only
    split
    · exact keeps_endCall gated inside
    · split
      · exact keeps_endCall gated inside
      · exact keeps_breakOff gated inside
      · exact .keeps inside rfl rfl
  | backingOff retry wake =>
    have inside : (s.phase i).isInside = true := by rw [hp]; rfl
    refine .within inside ?_
    dsimp only
    split
    · exact keeps_exit gated inside
    · exact keeps_attempt gated inside
  | done => exact absurd hp hi

end Gate

/-! ### Every run -/

/-- What always holds at the gate of a batch with so many permits. -/
structure Guarded (n : Nat) (s : State) : Prop where
  conserved : s.free + s.inside = n
  queued : ∀ i, i ∈ s.gate ↔ s.phase i = .queued
  once : s.gate.Nodup

section Runs
variable {b : Batch} {s t : State} {i n : Nat}

theorem guarded_initial (permits : b.permits = some n) : Guarded n b.initial where
  conserved := by
    have hinside : b.initial.inside = 0 := by simp [State.inside, initial, Phase.isInside]
    rw [hinside]
    show b.permits.getD 0 + 0 = n
    rw [permits]
    rfl
  queued i := by
    by_cases hi : i < b.targets.length <;> simp [initial, State.phase, hi]
  once := List.nodup_nil

theorem Moved.inside (m : Moved b i s t) :
    t.inside + (if (s.phase i).isInside then 1 else 0) = s.inside + if (t.phase i).isInside then 1 else 0 :=
  countP_phases _ m.phases m.before

/-- Who is at the gate after the move of a worker: the others who were there before and, if it waits, the worker. -/
theorem Moved.mem_gate_iff (m : Moved b i s t) (h : Guarded n s) {gate : List Nat}
    (others : ∀ j, i ≠ j → (j ∈ gate ↔ j ∈ s.gate)) (own : i ∈ gate ↔ t.phase i = .queued) (j : Nat) :
    j ∈ gate ↔ t.phase j = .queued := by
  by_cases hij : i = j
  · exact hij ▸ own
  · rw [others j hij, m.phase_of_ne hij, h.queued]

theorem Guarded.erase (h : Guarded n s) (m : Moved b i s t) (after : t.phase i ≠ .queued) (gate : t.gate = s.gate.erase i) :
    (∀ j, j ∈ t.gate ↔ t.phase j = .queued) ∧ t.gate.Nodup := by
  rw [gate]
  refine ⟨m.mem_gate_iff h (fun j hij => List.mem_erase_of_ne (Ne.symm hij)) ?_, h.once.erase i⟩
  simp [after, h.once.mem_erase_iff]

theorem Guarded.same (h : Guarded n s) (m : Moved b i s t) (before : s.phase i ≠ .queued) (after : t.phase i ≠ .queued)
    (gate : t.gate = s.gate) : (∀ j, j ∈ t.gate ↔ t.phase j = .queued) ∧ t.gate.Nodup := by
  rw [gate]
  refine ⟨m.mem_gate_iff h (fun j _ => Iff.rfl) ?_, h.once⟩
  rw [h.queued, iff_false_left before]
  exact after

theorem ne_queued_of_inside {p : Phase} (inside : p.isInside = true) : p ≠ .queued := by
  rintro rfl
  cases inside

theorem Guarded.move (h : Guarded n s) (gated : b.permits.isSome = true) (can : s.canMove i = true) :
    Guarded n (b.move i s) := by
  have m := moved_move (b := b) can
  have hinside := m.inside
  have hconserved := h.conserved
  cases gated_move (b := b) gated can with
  | queues before after free gate =>
    have hmem : i ∉ s.gate := by simp [h.queued, before]
    refine ⟨?_, ?_, ?_⟩
    · rw [before, after, if_neg (by simp [Phase.isInside]), if_neg (by simp [Phase.isInside])] at hinside
      omega
    · rw [gate]
      refine m.mem_gate_iff h (fun j hij => ?_) (by simp [after])
      simp [Ne.symm hij]
    · rw [gate]
      refine List.nodup_append.mpr ⟨h.once, by simp, fun j hj k hk heq => ?_⟩
      rw [List.mem_singleton.mp hk] at heq
      exact hmem (heq ▸ hj)
  | enters before inside free gate =>
    obtain ⟨queued, once⟩ := h.same m (by simp [before]) (ne_queued_of_inside inside) gate
    refine ⟨?_, queued, once⟩
    have outside : (s.phase i).isInside = false := by rw [before]; rfl
    rw [outside, inside, if_neg Bool.false_ne_true, if_pos rfl] at hinside
    omega
  | passes before inside free gate =>
    obtain ⟨queued, once⟩ := h.erase m (ne_queued_of_inside inside) gate
    refine ⟨?_, queued, once⟩
    have outside : (s.phase i).isInside = false := by rw [before]; rfl
    rw [outside, inside, if_neg Bool.false_ne_true, if_pos rfl] at hinside
    omega
  | leaves before done free gate =>
    obtain ⟨queued, once⟩ := h.erase m (by simp [done]) gate
    refine ⟨?_, queued, once⟩
    have outside : (s.phase i).isInside = false := by
      rcases before with h | h <;> rw [h] <;> rfl
    rw [outside, done, if_neg Bool.false_ne_true, if_neg (by simp [Phase.isInside])] at hinside
    omega
  | within before keeps =>
    cases keeps with
    | keeps inside free gate =>
      obtain ⟨queued, once⟩ := h.same m (ne_queued_of_inside before) (ne_queued_of_inside inside) gate
      refine ⟨?_, queued, once⟩
      rw [before, inside] at hinside
      omega
    | gives done free gate =>
      obtain ⟨queued, once⟩ := h.erase m (by simp [done]) gate
      refine ⟨?_, queued, once⟩
      rw [before, done, if_pos rfl, if_neg (by simp [Phase.isInside])] at hinside
      omega

theorem Reachable.guarded (permits : b.permits = some n) (reach : Reachable b s) : Guarded n s := by
  induction reach with
  | start => exact guarded_initial permits
  | step _ hs ih =>
    cases hs with
    | stop | collect | wait => exact ⟨ih.conserved, ih.queued, ih.once⟩
    | move i can => exact ih.move (permits ▸ rfl) can

/-- Whoever is first at the gate can pass it if a permit is free. -/
theorem Guarded.inside_of_idle (h : Guarded n s) (idle : ∀ i, s.canMove i = false) (waits : s.phase i = .queued) :
    s.inside = n := by
  have hconserved := h.conserved
  have hmem : i ∈ s.gate := (h.queued i).mpr waits
  cases hgate : s.gate with
  | nil => simp [hgate] at hmem
  | cons first rest =>
    have hfirst : s.phase first = .queued := (h.queued first).mp (by simp [hgate])
    have hidle := idle first
    simp only [State.canMove, hfirst, hgate, List.idxOf_cons_self, Bool.or_eq_false_iff, decide_eq_false_iff_not] at hidle
    omega

end Runs

/-! ### Calls in flight -/

/-- The calls in flight after what was logged, and the most that there were at once. -/
def flight (log : List Event) : Nat × Nat :=
  log.foldl (fun (n, most) e => (e.inFlight n, max most (e.inFlight n))) (0, 0)

/-- The log tells how many workers are in a call, and that there never were more than so many. -/
structure Aloft (n : Nat) (s : State) : Prop where
  now : (flight s.log).1 = s.calling
  most : (flight s.log).2 ≤ n

section Flight
variable {b : Batch} {s t : State} {i n : Nat} {log es : List Event} {e : Event}

theorem flight_concat :
    flight (log ++ [e]) = (e.inFlight (flight log).1, max (flight log).2 (e.inFlight (flight log).1)) := by
  unfold flight
  rw [List.foldl_append]
  rfl

theorem flight_le (log : List Event) : (flight log).1 ≤ (flight log).2 := by
  induction log using List.reverseRecOn with
  | nil => exact Nat.le_refl 0
  | append_singleton log e _ =>
    rw [flight_concat]
    exact Nat.le_max_right _ _

/-- What neither begins nor ends a call. -/
def Event.IsGrounded (e : Event) : Prop := ∀ n, e.inFlight n = n

theorem flight_of_grounded (grounded : ∀ e ∈ es, e.IsGrounded) : flight (log ++ es) = flight log := by
  induction es using List.reverseRecOn with
  | nil => rw [List.append_nil]
  | append_singleton es e ih =>
    obtain ⟨hes, he⟩ := List.forall_mem_append.mp grounded
    rw [← List.append_assoc, flight_concat, ih hes, he e (List.mem_singleton_self e), Nat.max_eq_left (flight_le log)]

theorem grounded_singleton (h : e.IsGrounded) : ∀ e' ∈ [e], e'.IsGrounded := by
  intro e' he'
  exact List.mem_singleton.mp he' ▸ h

theorem grounded_noted {α : Type} {turn : Breaker.Turn α} : ∀ e ∈ b.noted i turn, e.IsGrounded := by
  intro e he
  obtain ⟨note, -, rfl⟩ := List.mem_map.mp he
  exact fun _ => rfl

theorem Starts.grounded {retries : UInt32} {bucket : Bucket} (h : Starts b i s retries bucket es) :
    ∀ e ∈ es, e.IsGrounded := by
  cases h with
  | token => exact grounded_singleton fun _ => rfl
  | retry => exact List.forall_mem_nil _

/-- A call begins after what comes with it. -/
theorem flight_begun {retries : UInt32} {bucket : Bucket} {α : Type} {turn : Breaker.Turn α}
    (h : Starts b i s retries bucket es) : flight (log ++ (es ++ b.noted i turn ++ [e])) = flight (log ++ [e]) := by
  have hes : flight (log ++ (es ++ b.noted i turn)) = flight log :=
    flight_of_grounded (List.forall_mem_append.mpr ⟨h.grounded, grounded_noted⟩)
  rw [← List.append_assoc, flight_concat, hes, flight_concat]

theorem flight_ended {α : Type} {turn : Breaker.Turn α} : flight (log ++ ([e] ++ b.noted i turn)) = flight (log ++ [e]) := by
  rw [← List.append_assoc]
  exact flight_of_grounded grounded_noted

theorem Moved.calling (m : Moved b i s t) :
    t.calling + (if (s.phase i).permit?.isSome then 1 else 0) =
      s.calling + if (t.phase i).permit?.isSome then 1 else 0 := countP_phases _ m.phases m.before

theorem Aloft.stays (h : Aloft n s) (m : Moved b i s t) (before : (s.phase i).permit? = none)
    (after : (t.phase i).permit? = none) (log : flight t.log = flight s.log) : Aloft n t := by
  have hcalling := m.calling
  rw [before, after] at hcalling
  refine ⟨?_, log ▸ h.most⟩
  rw [log, h.now]
  exact (Nat.add_right_cancel hcalling).symm

theorem Aloft.ends (h : Aloft n s) (m : Moved b i s t) (before : (s.phase i).permit?.isSome = true)
    (after : (t.phase i).permit? = none) (log : flight t.log = flight (s.log ++ [e]))
    (he : ∀ k, e.inFlight k = k - 1) : Aloft n t := by
  have hcalling := m.calling
  rw [before, after, if_pos rfl, if_neg (by simp)] at hcalling
  have hmost := h.most
  have hle := flight_le s.log
  rw [flight_concat, he, h.now] at log
  rw [h.now] at hle
  constructor
  · rw [log]
    show s.calling - 1 = t.calling
    omega
  · rw [log]
    show max (flight s.log).2 (s.calling - 1) ≤ n
    omega

theorem Aloft.begins (h : Aloft n s) (m : Moved b i s t) (before : (s.phase i).permit? = none)
    (after : (t.phase i).permit?.isSome = true) (log : flight t.log = flight (s.log ++ [e]))
    (he : ∀ k, e.inFlight k = k + 1) (room : t.calling ≤ n) : Aloft n t := by
  have hcalling := m.calling
  rw [before, after, if_pos rfl, if_neg (by simp)] at hcalling
  rw [flight_concat, he, h.now] at log
  constructor
  · rw [log]
    exact hcalling.symm
  · rw [log]
    exact Nat.max_le.mpr ⟨h.most, hcalling ▸ room⟩

theorem Aloft.move (h : Aloft n s) (m : Moved b i s t) (room : t.calling ≤ n) : Aloft n t := by
  have hi := m.before
  cases hm : m with
  | queued before _ eq =>
    have ha := agrees_of_unqueued eq
    refine h.stays m (by rw [before]; rfl) ?_ (congrArg flight ha.log)
    rw [phase_self ha.phases hi]
    rfl
  | passed before _ eq =>
    have ha := agrees_of_unqueued eq
    refine h.stays m (by rcases before with hp | hp <;> rw [hp] <;> rfl) ?_ (congrArg flight ha.log)
    rw [phase_self ha.phases hi]
    rfl
  | waits _ _ _ _ before _ _ eq =>
    have ha := agrees_of_unqueued eq
    refine h.stays m (by rw [before]; rfl) ?_ (congrArg flight ha.log)
    rw [phase_self ha.phases hi]
    rfl
  | called _ _ _ _ starts _ _ eq =>
    have ha := agrees_of_unqueued eq
    refine h.begins m starts.permit? ?_ ((congrArg flight ha.log).trans (flight_begun starts)) (fun _ => rfl) room
    rw [phase_self ha.phases hi]
    rfl
  | refused _ _ _ _ starts _ _ eq =>
    have ha := agrees_of_unqueued eq
    refine h.stays m starts.permit? ?_ ((congrArg flight ha.log).trans ((flight_begun starts).trans ?_))
    · rw [phase_self ha.phases hi]
      rfl
    · exact flight_of_grounded (grounded_singleton fun _ => rfl)
  | failed _ _ _ _ _ before _ _ eq =>
    have ha := agrees_of_unqueued eq
    refine h.ends m (by rw [before]; rfl) ?_ ((congrArg flight ha.log).trans flight_ended) fun _ => rfl
    rw [phase_self ha.phases hi]
    rfl
  | ended _ _ _ _ _ before _ _ eq =>
    have ha := agrees_of_unqueued eq
    refine h.ends m (by rw [before]; rfl) ?_ ((congrArg flight ha.log).trans flight_ended) fun _ => rfl
    rw [phase_self ha.phases hi]
    rfl
  | brokeOff _ _ _ _ _ before _ _ eq =>
    have ha := agrees_of_unqueued eq
    refine h.ends m (by rw [before]; rfl) ?_ ((congrArg flight ha.log).trans flight_ended) fun _ => rfl
    rw [phase_self ha.phases hi]
    rfl
  | cancelled _ before _ eq =>
    have ha := agrees_of_unqueued eq
    refine h.stays m before.permit? ?_ (congrArg flight ha.log)
    rw [phase_self ha.phases hi]
    rfl

theorem Guarded.inside_le (h : Guarded n s) : s.inside ≤ n := by
  rw [← h.conserved]
  exact Nat.le_add_left ..

theorem Reachable.aloft (permits : b.permits = some n) (reach : Reachable b s) : Aloft n s := by
  induction reach with
  | start =>
    refine ⟨(List.countP_eq_zero.mpr fun p hp => ?_).symm, Nat.zero_le n⟩
    obtain ⟨_, _, rfl⟩ := List.mem_map.mp hp
    exact Bool.false_ne_true
  | @step s t reach hs ih =>
    cases hs with
    | stop | wait => exact ⟨ih.now, ih.most⟩
    | collect i e _ =>
      have hlog : flight (b.collect i e s).log = flight s.log := flight_of_grounded (grounded_singleton fun _ => rfl)
      exact ⟨hlog ▸ ih.now, hlog ▸ ih.most⟩
    | move i can =>
      refine ih.move (moved_move can) ?_
      exact (calling_le_inside _).trans ((reach.step (.move i can)).guarded permits).inside_le

end Flight

/-! ### The batches of a configuration -/

section Law
variable {c : Config} {n : UInt64}

/-- In a batch with a cap no more workers than that are ever past the gate, and no more calls in flight. No permit is
    lost: those that are not free are with the workers past the gate; nobody waits at the gate while less than all are
    given away, once nothing is left to be done; and when all workers have ended, whatever ended them, all are free. -/
theorem cap_without_lost_permits (set : c.dispatch.maxConcurrency = some n) (fits : max n.toNat 1 ≤ mostPermits)
    (targets : List String) (start : Nat) (cancelAfter : Option UInt64) (transport : Transport) (earlier : List Call)
    (draw : Nat → UInt32 → Nat) :
    ∃ b, ofConfig? c targets start cancelAfter transport earlier draw = some b ∧ ∀ s, Reachable b s →
      s.inside ≤ max n.toNat 1 ∧ s.calling ≤ max n.toNat 1 ∧ s.peak ≤ max n.toNat 1 ∧
      s.free + s.inside = max n.toNat 1 ∧
      ((∀ i, s.canMove i = false) → (∃ i, s.phase i = .queued) → s.inside = max n.toNat 1) ∧
      ((∀ i, s.phase i = .done) → s.free = max n.toNat 1) := by
  have hfits : ∀ k, c.dispatch.maxConcurrency = some k → max k.toNat 1 ≤ mostPermits := by
    intro k hk
    exact Option.some.inj (set.symm.trans hk) ▸ fits
  obtain ⟨b, built⟩ := exists_built_iff.mpr hfits
  refine ⟨b, built, fun s reach => ?_⟩
  have permits : b.permits = some (max n.toNat 1) := by
    rw [eq_ofConfig built, set]
    rfl
  have h := reach.guarded permits
  refine ⟨h.inside_le, (calling_le_inside s).trans h.inside_le, (reach.aloft permits).most, h.conserved,
    fun idle ⟨i, waits⟩ => h.inside_of_idle idle waits, fun ended => ?_⟩
  have hinside : s.inside = 0 := by
    refine List.countP_eq_zero.mpr fun p hp => ?_
    obtain ⟨i, hi, rfl⟩ := List.mem_iff_getElem.mp hp
    have hphase : s.phases[i] = s.phase i := by simp [State.phase, hi]
    rw [hphase, ended i]
    exact Bool.false_ne_true
  rw [← h.conserved, hinside]
  rfl

end Law

/-! ### A batch with one permit -/

def narrowConfig : Config := { dispatch := { maxConcurrency := some 1, batchTimeoutSecs := 5 } }

/-- The first call breaks off after a second, the others never end. -/
def narrowTransport : Transport := fun calls _ =>
  if calls.isEmpty then { after := Span.ofMillis 1000, ending := .panic "broken" } else { ending := .never }

def narrow : Batch :=
  { targets := ["a", "b", "c"], start := 0, limits := .ofConfig {}, breaker := .ofConfig {}, scope := .host
    retry := .ofConfig {}, permits := some 1, transport := narrowTransport
    deadline := Clock.timer 0 (Span.ofSeconds 5) }

theorem built_narrow :
    ofConfig? narrowConfig ["a", "b", "c"] 0 none narrowTransport [] (fun _ _ => 0) = some narrow := rfl

/-- The second call hangs, and one worker is still at the gate. -/
def narrowHanging : State := narrow.run 9 narrow.initial

def narrowEnd : State := narrow.run 20 narrow.initial

/-- While the second worker hangs it has the permit that the first one gave back when it broke off. At the end, after the
    third one was cancelled at the gate and the second one in its call, the permit is free. -/
theorem cap_without_lost_permits_narrow :
    (∀ i, narrowHanging.canMove i = false) ∧ narrowHanging.phase 2 = .queued ∧ narrowHanging.inside = 1 ∧
      narrowHanging.calling ≤ 1 ∧ narrowEnd.peak ≤ 1 ∧ narrowEnd.free = 1 := by
  obtain ⟨b, built, law⟩ := cap_without_lost_permits (c := narrowConfig) (n := 1) rfl (by decide) ["a", "b", "c"] 0 none
    narrowTransport [] (fun _ _ => 0)
  obtain rfl : narrow = b := Option.some.inj (built_narrow.symm.trans built)
  have hanging : Reachable narrow narrowHanging := Reachable.start.run 9
  have idle : ∀ i, narrowHanging.canMove i = false := hanging.lined.idle (by decide +kernel)
  have waits : narrowHanging.phase 2 = .queued := by decide +kernel
  have done : ∀ i, narrowEnd.phase i = .done := phase_of_isOver (by decide +kernel)
  obtain ⟨-, calling, -, -, served, -⟩ := law narrowHanging hanging
  obtain ⟨-, -, peak, -, -, free⟩ := law narrowEnd (Reachable.start.run 20)
  exact ⟨idle, waits, served idle ⟨2, waits⟩, calling, peak, free done⟩

end BatchFetch.Batch
