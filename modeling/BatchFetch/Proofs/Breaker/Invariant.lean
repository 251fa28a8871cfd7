import BatchFetch.Proofs.Breaker.History

/-! # Breakers in use

A breaker, the permits that are held, and what has happened so far. The invariant says what the fields of
the breaker mean in terms of the events: how far the count of failures goes, when a breaker is closed, and
that the trial slot is taken exactly while the one trial since the latest failure is running. -/

namespace BatchFetch

/-- A permit owns the trial slot of a breaker: it is a trial's, and from the present window. -/
def Permit.OwnsSlot (p : Permit) (b : Breaker) : Prop := p.trial = true ∧ p.window = b.window

namespace Breaker

/-- Settings with a threshold that a count of failures can reach, and not without any failure. -/
structure Settings.Sound (c : Settings) : Prop where
  pos : 0 < c.threshold
  le : c.threshold ≤ maxFailures

theorem Settings.sound_make (threshold : UInt32) (coolDown : Span) : (make threshold coolDown).Sound where
  pos := Nat.lt_of_lt_of_le Nat.one_pos (Nat.le_max_right ..)
  le := by
    have := threshold.toNat_lt
    show max threshold.toNat 1 ≤ 4294967295
    omega

/-- A breaker in use: the time, the permits that are held by the calls, and what has happened. -/
@[ext] structure History (ι : Type) where
  now : Nat
  breaker : Breaker := {}
  held : ι → Option Permit := fun _ => none
  events : List (Event ι) := []

namespace History
variable {ι : Type} [DecidableEq ι]

def ask (c : Settings) (i : ι) (h : History ι) : History ι :=
  match (h.breaker.ask c h.now).answer with
  | .granted p =>
    { h with
      breaker := (h.breaker.ask c h.now).breaker
      held := Function.update h.held i (some p)
      events := h.events ++ [.granted i p.trial] }
  | .refused _ => { h with breaker := (h.breaker.ask c h.now).breaker, events := h.events ++ [.refused] }

def finish (c : Settings) (i : ι) (p : Permit) (v : Verdict) (h : History ι) : History ι :=
  { h with
    breaker := (h.breaker.report c h.now p v).breaker
    held := Function.update h.held i none
    events := h.events ++ [.ended i h.now v] }

theorem ask_of_granted {c : Settings} {i : ι} {h : History ι} {p : Permit}
    (granted : (h.breaker.ask c h.now).answer = .granted p) :
    h.ask c i =
      { h with
        breaker := (h.breaker.ask c h.now).breaker
        held := Function.update h.held i (some p)
        events := h.events ++ [.granted i p.trial] } := by
  simp only [ask, granted]

theorem ask_of_refused {c : Settings} {i : ι} {h : History ι} {d : Span}
    (refused : (h.breaker.ask c h.now).answer = .refused d) :
    h.ask c i = { h with breaker := (h.breaker.ask c h.now).breaker, events := h.events ++ [.refused] } := by
  simp only [ask, refused]

/-- What can happen to a breaker in use. -/
inductive Step (c : Settings) : History ι → History ι → Prop where
  | wait {h : History ι} (later : Nat) (le : h.now ≤ later) : Step c h { h with now := later }
  | ask {h : History ι} (i : ι) (free : h.held i = none) : Step c h (h.ask c i)
  /-- A call that holds a permit ends, or its permit is dropped. -/
  | finish {h : History ι} (i : ι) (p : Permit) (v : Verdict) (held : h.held i = some p) :
      Step c h (h.finish c i p v)

inductive Reachable (c : Settings) : History ι → Prop where
  | start (now : Nat) : Reachable c { now }
  | step {h h' : History ι} (reach : Reachable c h) (hs : Step c h h') : Reachable c h'

end History

/-! ### What the operations do -/

section Operations
variable {c : Settings} {now t : Nat} {b : Breaker} {p : Permit}

@[simp] theorem state_freeTrial : (b.freeTrial p).state = b.state := by
  unfold freeTrial
  split <;> rfl

@[simp] theorem window_freeTrial : (b.freeTrial p).window = b.window := by
  unfold freeTrial
  split <;> rfl

@[simp] theorem failures_freeTrial : (b.freeTrial p).failures = b.failures := by
  unfold freeTrial
  split <;> rfl

@[simp] theorem lastFailure_freeTrial : (b.freeTrial p).lastFailure = b.lastFailure := by
  unfold freeTrial
  split <;> rfl

theorem trialRunning_freeTrial :
    (b.freeTrial p).trialRunning = true ↔ b.trialRunning = true ∧ ¬p.OwnsSlot b := by
  unfold freeTrial Permit.OwnsSlot
  split <;> simp_all

@[simp] theorem cooled_freeTrial : (b.freeTrial p).cooled c now = b.cooled c now := by
  unfold cooled
  rw [lastFailure_freeTrial]

theorem freeTrial_of_idle (h : b.trialRunning = false) : b.freeTrial p = b := by
  unfold freeTrial
  split
  · cases b; simp_all
  · rfl

theorem ask_closed (h : b.state = .closed) : b.ask c now = { answer := .granted ⟨b.window, false⟩, breaker := b } := by
  simp [ask, h]

theorem ask_cooled (h : b.state = .opened) (hc : b.cooled c now = true) :
    b.ask c now =
      { answer := .granted ⟨b.window + 1, true⟩
        breaker := { b with state := .halfOpen, window := b.window + 1, trialRunning := true }
        notes := [.moved .halfOpen] } := by
  simp [ask, h, hc, moveTo, giveTrial]

theorem ask_opened (h : b.state = .opened) (hc : b.cooled c now = false) :
    b.ask c now = { answer := .refused (b.remaining c now), breaker := b, notes := [.refused] } := by
  simp [ask, h, hc]

theorem ask_taken (h : b.state = .halfOpen) (ht : b.trialRunning = true) :
    b.ask c now = { answer := .refused Span.zero, breaker := b, notes := [.refused] } := by
  simp [ask, h, ht]

theorem ask_free (h : b.state = .halfOpen) (ht : b.trialRunning = false) :
    b.ask c now = { answer := .granted ⟨b.window, true⟩, breaker := { b with trialRunning := true } } := by
  simp [ask, h, ht, giveTrial]

theorem report_neutral : (b.report c now p .neutral).breaker = b.freeTrial p := rfl

theorem report_success :
    (b.report c now p .success).breaker =
      if b.state = .closed then { b.freeTrial p with failures := 0, lastFailure := none }
      else ({ b.freeTrial p with failures := 0, lastFailure := none } : Breaker).moveTo .closed := by
  simp only [report, state_freeTrial]
  split <;> rfl

theorem report_failure :
    (b.report c now p .failure).breaker =
      if b.state = .halfOpen ∨ b.state = .closed ∧ c.threshold ≤ min (b.failures + 1) maxFailures then
        ({ b.freeTrial p with
            failures := min (b.failures + 1) maxFailures, lastFailure := some now } : Breaker).moveTo .opened
      else { b.freeTrial p with failures := min (b.failures + 1) maxFailures, lastFailure := some now } := by
  simp only [report, state_freeTrial, failures_freeTrial]
  split <;> rfl

theorem cooled_mono {later : Nat} (le : now ≤ later) (h : b.cooled c now = true) : b.cooled c later = true := by
  unfold cooled at h ⊢
  split
  · simp_all
    omega
  · rfl

/-! A refusal is counted where a caller is refused, and nowhere else. -/

theorem notes_of_granted (granted : (b.ask c now).answer = .granted p) : (b.ask c now).notes.count .refused = 0 := by
  cases hstate : b.state with
  | closed => simp [ask_closed hstate]
  | opened => cases hc : b.cooled c now <;> simp_all [ask_opened, ask_cooled]
  | halfOpen => cases ht : b.trialRunning <;> simp_all [ask_free, ask_taken]

theorem notes_of_refused {d : Span} (refused : (b.ask c now).answer = .refused d) : (b.ask c now).notes.count .refused = 1 := by
  cases hstate : b.state with
  | closed => simp [ask_closed hstate] at refused
  | opened => cases hc : b.cooled c now <;> simp_all [ask_opened, ask_cooled]
  | halfOpen => cases ht : b.trialRunning <;> simp_all [ask_free, ask_taken]

theorem notes_report {v : Verdict} : (b.report c now p v).notes.count .refused = 0 := by
  unfold report
  cases v with
  | neutral => simp
  | success =>
    dsimp only
    split <;> simp
  | failure =>
    dsimp only
    split <;> simp

end Operations

/-! ### The invariant -/

/-- What the counts and the state of a breaker mean. -/
structure Counts {ι : Type} (c : Settings) (now : Nat) (b : Breaker) (es : List (Event ι)) : Prop where
  failures : b.failures = min (failureRun es) maxFailures
  lastFailure : b.lastFailure = if failureRun es = 0 then none else latestFailure? es
  known : 0 < failureRun es → (latestFailure? es).isSome
  past : ∀ t, latestFailure? es = some t → t ≤ now
  closed : b.state = .closed ↔ failureRun es < c.threshold

/-- What the trial slot and the windows of a breaker mean. -/
structure Slot {ι : Type} (b : Breaker) (held : ι → Option Permit) (es : List (Event ι)) : Prop where
  idle : b.state ≠ .halfOpen → b.trialRunning = false
  untried : b.state = .opened → ∀ i, ¬InTrial es i
  taken : b.state = .halfOpen → (b.trialRunning = true ↔ ∃ i, InTrial es i)
  owner : b.state = .halfOpen → ∀ i, InTrial es i ↔ ∃ p, held i = some p ∧ p.OwnsSlot b
  single : b.state = .halfOpen → ∀ i j, InTrial es i → InTrial es j → i = j
  live : ∀ i, InTrial es i → (held i).isSome
  windows : ∀ i p, held i = some p → p.window ≤ b.window

/-- What the fields of a breaker in use mean. A half-open one has always cooled down. -/
structure Inv {ι : Type} (c : Settings) (h : History ι) : Prop where
  counts : Counts c h.now h.breaker h.events
  cooled : h.breaker.state = .halfOpen → h.breaker.cooled c h.now = true
  slot : Slot h.breaker h.held h.events

section Counts
variable {ι : Type} {c : Settings} {now : Nat} {b b' : Breaker} {es es' : List (Event ι)} {i : ι} {p : Permit}

/-- Only successes and failures change what is counted. -/
theorem Counts.frame (k : Counts c now b es) {later : Nat} (le : now ≤ later) (hf : b'.failures = b.failures)
    (hl : b'.lastFailure = b.lastFailure) (hs : b'.state = .closed ↔ b.state = .closed)
    (hv : verdicts es' = verdicts es) : Counts c later b' es' where
  failures := by rw [hf, failureRun_congr hv, k.failures]
  lastFailure := by rw [hl, failureRun_congr hv, latestFailure?_congr hv, k.lastFailure]
  known := by rw [failureRun_congr hv, latestFailure?_congr hv]; exact k.known
  past t ht := Nat.le_trans (k.past t (latestFailure?_congr hv ▸ ht)) le
  closed := by rw [hs, failureRun_congr hv, k.closed]

theorem Counts.success (hc : c.Sound) (k : Counts c now b es) :
    Counts c now (b.report c now p .success).breaker (es ++ [.ended i now .success]) where
  failures := by
    rw [report_success, failureRun_ended]
    split <;> rfl
  lastFailure := by
    rw [report_success, failureRun_ended]
    split <;> rfl
  known h := by simp [failureRun_ended] at h
  past := by
    rw [latestFailure?_ended]
    exact k.past
  closed := by
    rw [report_success, failureRun_ended]
    split <;> simp_all [moveTo, hc.pos]

theorem Counts.failure (hc : c.Sound) (k : Counts c now b es) :
    Counts c now (b.report c now p .failure).breaker (es ++ [.ended i now .failure]) where
  failures := by
    have := k.failures
    rw [report_failure, failureRun_ended]
    split <;> simp only [moveTo] <;> omega
  lastFailure := by
    rw [report_failure, failureRun_ended, latestFailure?_ended]
    split <;> simp [moveTo]
  known _ := by simp [latestFailure?_ended]
  past t ht := by
    rw [latestFailure?_ended, if_pos rfl] at ht
    cases ht
    exact Nat.le_refl _
  closed := by
    -- The count of failures reaches the threshold when their number does.
    have hcount : c.threshold ≤ min (b.failures + 1) maxFailures ↔ ¬failureRun es + 1 < c.threshold := by
      have hle := hc.le
      have hf := k.failures
      omega
    have hk := k.closed
    rw [report_failure, failureRun_ended]
    simp only [hcount]
    cases hs : b.state with
    | closed => by_cases hn : failureRun es + 1 < c.threshold <;> simp [hs, hn, moveTo]
    | opened | halfOpen =>
      simp only [hs, reduceCtorEq, false_iff] at hk
      simp [hs, moveTo]
      omega

end Counts

/-! ### The trial slot -/

section Slot
variable {ι : Type} {c : Settings} {now : Nat} {b : Breaker} {held : ι → Option Permit} {es : List (Event ι)} {i : ι}
  {p : Permit}

theorem Slot.refused (k : Slot b held es) : Slot b held (es ++ [.refused]) where
  idle := k.idle
  untried hs j := by simpa only [inTrial_refused] using k.untried hs j
  taken hs := by simpa only [inTrial_refused] using k.taken hs
  owner hs j := by simpa only [inTrial_refused] using k.owner hs j
  single hs j l := by simpa only [inTrial_refused] using k.single hs j l
  live j := by simpa only [inTrial_refused] using k.live j
  windows := k.windows

variable [DecidableEq ι]

theorem window_update {w : Nat} (k : ∀ j q, held j = some q → q.window ≤ w) (hp : p.window ≤ w) :
    ∀ j q, Function.update held i (some p) j = some q → q.window ≤ w := by
  intro j q hj
  rw [Function.update_apply] at hj
  split at hj
  · cases hj
    exact hp
  · exact k j q hj

theorem window_remove {w w' : Nat} (k : ∀ j q, held j = some q → q.window ≤ w) (hw : w ≤ w') :
    ∀ j q, Function.update held i none j = some q → q.window ≤ w' := by
  intro j q hj
  rw [Function.update_apply] at hj
  split at hj
  · cases hj
  · exact Nat.le_trans (k j q hj) hw

theorem live_update {trial : Bool} (k : ∀ j, InTrial es j → (held j).isSome) :
    ∀ j, InTrial (es ++ [.granted i trial]) j → (Function.update held i (some p) j).isSome := by
  intro j hj
  rw [Function.update_apply]
  split
  · rfl
  · rename_i hne
    exact k j ((inTrial_granted.mp hj).resolve_right fun h => hne h.1.symm)

theorem live_remove {v : Verdict} (k : ∀ j, InTrial es j → (held j).isSome) :
    ∀ j, InTrial (es ++ [.ended i now v]) j → (Function.update held i none j).isSome := by
  intro j hj
  obtain ⟨hj, hne, -⟩ := inTrial_ended.mp hj
  rw [Function.update_apply, if_neg (Ne.symm hne)]
  exact k j hj

theorem Slot.passed (k : Slot b held es) (hs : b.state = .closed) :
    Slot b (Function.update held i (some ⟨b.window, false⟩)) (es ++ [.granted i false]) where
  idle := k.idle
  untried ho := absurd (hs.symm.trans ho) (by simp)
  taken ho := absurd (hs.symm.trans ho) (by simp)
  owner ho := absurd (hs.symm.trans ho) (by simp)
  single ho := absurd (hs.symm.trans ho) (by simp)
  live := live_update k.live
  windows := window_update k.windows (Nat.le_refl _)

/-- A trial is let through where no other runs, in a window where no other permit owns the slot. -/
theorem Slot.tried (k : Slot b held es) {w : Nat} (hw : b.window ≤ w) (hnone : ∀ j, ¬InTrial es j)
    (hown : ∀ j q, held j = some q → ¬(q.trial = true ∧ q.window = w)) :
    Slot { b with state := .halfOpen, window := w, trialRunning := true }
      (Function.update held i (some ⟨w, true⟩)) (es ++ [.granted i true]) where
  idle hs := absurd rfl hs
  untried hs := by simp at hs
  taken _ := by simp [inTrial_granted, hnone]
  owner _ j := by
    simp only [inTrial_granted, hnone, false_or, and_true, Function.update_apply, Permit.OwnsSlot]
    by_cases hj : j = i
    · simp [hj]
    · simp only [if_neg hj, Ne.symm hj, false_iff]
      rintro ⟨q, hq, hown'⟩
      exact hown j q hq hown'
  single _ j l hj hl := by
    simp only [inTrial_granted, hnone, false_or, and_true] at hj hl
    exact hj.symm.trans hl
  live := live_update k.live
  windows := window_update (fun j q hq => Nat.le_trans (k.windows j q hq) hw) (Nat.le_refl _)

/-- A neutral end frees the slot exactly if the call was the running trial. -/
theorem Slot.neutral (k : Slot b held es) (hp : held i = some p) :
    Slot (b.freeTrial p) (Function.update held i none) (es ++ [.ended i now .neutral]) where
  idle hs := by
    have := k.idle (by simpa using hs)
    rwa [freeTrial_of_idle this]
  untried hs j hj := k.untried (by simpa using hs) j (inTrial_ended.mp hj).1
  taken hs := by
    have hs' : b.state = .halfOpen := by simpa using hs
    rw [trialRunning_freeTrial, k.taken hs']
    simp only [inTrial_ended, ne_eq, reduceCtorEq, not_false_eq_true, and_true]
    -- The call that ends is the running trial exactly if its permit owns the slot.
    have hown : InTrial es i ↔ p.OwnsSlot b := by simp [k.owner hs', hp]
    constructor
    · rintro ⟨⟨j, hj⟩, hno⟩
      exact ⟨j, hj, fun hij => hno (hown.mp (hij ▸ hj))⟩
    · rintro ⟨j, hj, hij⟩
      exact ⟨⟨j, hj⟩, fun ho => hij (k.single hs' i j (hown.mpr ho) hj)⟩
  owner hs j := by
    simp only [inTrial_ended, Function.update_apply, Permit.OwnsSlot, window_freeTrial, ne_eq, reduceCtorEq,
      not_false_eq_true, and_true]
    by_cases hj : j = i
    · simp [hj]
    · simpa [hj, Ne.symm hj, Permit.OwnsSlot] using k.owner (by simpa using hs) j
  single hs j l hj hl :=
    k.single (by simpa using hs) j l (inTrial_ended.mp hj).1 (inTrial_ended.mp hl).1
  live := live_remove k.live
  windows := by
    rw [window_freeTrial]
    exact window_remove k.windows (Nat.le_refl _)

theorem Slot.success (k : Slot b held es) :
    Slot (b.report c now p .success).breaker (Function.update held i none) (es ++ [.ended i now .success]) := by
  have hs : (b.report c now p .success).breaker.state = .closed := by
    rw [report_success]
    split <;> simp_all [moveTo]
  refine ⟨fun _ => ?_, by simp [hs], by simp [hs], by simp [hs], by simp [hs], live_remove k.live, ?_⟩
  · rw [report_success]
    split
    · have := k.idle (by simp_all)
      simp [freeTrial_of_idle this, this]
    · rfl
  · refine window_remove k.windows ?_
    rw [report_success]
    split <;> simp [moveTo]

theorem Slot.failure (k : Slot b held es) :
    Slot (b.report c now p .failure).breaker (Function.update held i none) (es ++ [.ended i now .failure]) := by
  have hs : (b.report c now p .failure).breaker.state ≠ .halfOpen := by
    rw [report_failure]
    split <;> simp_all [moveTo]
  have hnone : ∀ j, ¬InTrial (es ++ [.ended i now .failure]) j := fun j hj => (inTrial_ended.mp hj).2.2 rfl
  refine ⟨fun _ => ?_, fun _ => hnone, fun h => absurd h hs, fun h => absurd h hs, fun h => absurd h hs,
    live_remove k.live, ?_⟩
  · rw [report_failure]
    split
    · rfl
    · have := k.idle (by simp_all)
      simp [freeTrial_of_idle this, this]
  · refine window_remove k.windows ?_
    rw [report_failure]
    split <;> simp [moveTo]

end Slot

/-! ### Every step -/

section Steps
variable {ι : Type} {c : Settings} {h : History ι}

theorem inv_start (hc : c.Sound) (now : Nat) : Inv c ({ now } : History ι) where
  counts :=
    { failures := rfl
      lastFailure := rfl
      known := fun h => absurd h (Nat.lt_irrefl 0)
      past := fun t ht => by simp [latestFailure?] at ht
      closed := by simpa [failureRun] using hc.pos }
  cooled h := by simp at h
  slot :=
    { idle := fun _ => rfl
      untried := fun _ _ => not_inTrial_nil
      taken := by simp
      owner := by simp
      single := by simp
      live := fun i hi => absurd hi not_inTrial_nil
      windows := by simp }

theorem Inv.wait (inv : Inv c h) {later : Nat} (le : h.now ≤ later) : Inv c { h with now := later } where
  counts := inv.counts.frame le rfl rfl Iff.rfl rfl
  cooled hs := cooled_mono le (inv.cooled hs)
  slot := inv.slot

variable [DecidableEq ι]

theorem Inv.ask (inv : Inv c h) (i : ι) : Inv c (h.ask c i) := by
  have frame : ∀ {b : Breaker} {e : Event ι}, b.failures = h.breaker.failures → b.lastFailure = h.breaker.lastFailure →
      (b.state = .closed ↔ h.breaker.state = .closed) → verdicts (h.events ++ [e]) = verdicts h.events →
      Counts c h.now b (h.events ++ [e]) := inv.counts.frame (Nat.le_refl _)
  unfold History.ask
  cases hs : h.breaker.state with
  | closed =>
    rw [ask_closed hs]
    exact ⟨frame rfl rfl Iff.rfl verdicts_granted, inv.cooled, inv.slot.passed hs⟩
  | opened =>
    cases hc : h.breaker.cooled c h.now with
    | false =>
      rw [ask_opened hs hc]
      exact ⟨frame rfl rfl Iff.rfl verdicts_refused, inv.cooled, inv.slot.refused⟩
    | true =>
      rw [ask_cooled hs hc]
      refine ⟨frame rfl rfl (by simp [hs]) verdicts_granted, fun _ => hc,
        inv.slot.tried (Nat.le_succ _) (inv.slot.untried hs) fun j p hp hq => ?_⟩
      -- No permit is from the window that begins now.
      have := inv.slot.windows j p hp
      omega
  | halfOpen =>
    cases ht : h.breaker.trialRunning with
    | true =>
      rw [ask_taken hs ht]
      exact ⟨frame rfl rfl Iff.rfl verdicts_refused, inv.cooled, inv.slot.refused⟩
    | false =>
      have hnone : ∀ j, ¬InTrial h.events j := fun j hj => by
        have := (inv.slot.taken hs).mpr ⟨j, hj⟩
        simp [ht] at this
      have slot := inv.slot.tried (i := i) (Nat.le_refl _) hnone fun j p hp hq =>
        hnone j ((inv.slot.owner hs j).mpr ⟨p, hp, hq⟩)
      rw [← hs] at slot
      rw [ask_free hs ht]
      exact ⟨frame rfl rfl Iff.rfl verdicts_granted, inv.cooled, slot⟩

theorem Inv.finish (hc : c.Sound) (inv : Inv c h) {i : ι} {p : Permit} (v : Verdict) (hp : h.held i = some p) :
    Inv c (h.finish c i p v) := by
  cases v with
  | neutral =>
    refine ⟨inv.counts.frame (Nat.le_refl _) failures_freeTrial lastFailure_freeTrial ?_ ?_, fun hs => ?_,
      inv.slot.neutral hp⟩
    · exact Iff.of_eq (congrArg (· = CircuitState.closed) state_freeTrial)
    · exact verdicts_ended
    · exact cooled_freeTrial.trans (inv.cooled (state_freeTrial.symm.trans hs))
  | success =>
    refine ⟨inv.counts.success hc, fun hs => ?_, inv.slot.success⟩
    change (h.breaker.report c h.now p .success).breaker.state = .halfOpen at hs
    rw [report_success] at hs
    split at hs <;> simp_all [moveTo]
  | failure =>
    refine ⟨inv.counts.failure hc, fun hs => ?_, inv.slot.failure⟩
    change (h.breaker.report c h.now p .failure).breaker.state = .halfOpen at hs
    rw [report_failure] at hs
    split at hs <;> simp_all [moveTo]

theorem History.Reachable.inv (hc : c.Sound) (reach : h.Reachable c) : Inv c h := by
  induction reach with
  | start now => exact inv_start hc now
  | step _ hs ih =>
    cases hs with
    | wait later le => exact ih.wait le
    | ask i _ => exact ih.ask i
    | finish i p v held => exact ih.finish hc v held

end Steps

end Breaker

end BatchFetch
