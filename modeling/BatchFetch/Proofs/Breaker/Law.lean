import BatchFetch.Proofs.Breaker.Invariant

/-! # What a breaker answers and shows

Both depend on the failures since the latest success, on the time of the latest failure, and on whether a
trial is running, and on nothing else. A breaker with fewer failures than its threshold is closed and
lets everyone through. With more it cools down after the latest failure, and then lets through one trial
at a time. -/

namespace BatchFetch.Breaker

section Answers
variable {ι : Type} {c : Settings} {h : History ι}

theorem Inv.latest (hc : c.Sound) (inv : Inv c h) (hn : c.threshold ≤ failureRun h.events) :
    ∃ t, latestFailure? h.events = some t ∧ h.breaker.lastFailure = some t ∧ t ≤ h.now := by
  have hpos : 0 < failureRun h.events := Nat.lt_of_lt_of_le hc.pos hn
  obtain ⟨t, ht⟩ := Option.isSome_iff_exists.mp (inv.counts.known hpos)
  refine ⟨t, ht, ?_, inv.counts.past t ht⟩
  rw [inv.counts.lastFailure, if_neg (Nat.pos_iff_ne_zero.mp hpos), ht]

theorem Inv.not_closed (inv : Inv c h) (hn : c.threshold ≤ failureRun h.events) : h.breaker.state ≠ .closed :=
  fun hs => Nat.not_lt.mpr hn (inv.counts.closed.mp hs)

theorem cooled_iff {b : Breaker} {now t : Nat} (ht : b.lastFailure = some t) :
    b.cooled c now = true ↔ c.coolDown.nanos ≤ now - t := by
  simp [cooled, ht]

/-- A breaker with too many failures is open, or half-open and cooled down. -/
theorem Inv.opened_or_halfOpen (inv : Inv c h) (hn : c.threshold ≤ failureRun h.events) :
    h.breaker.state = .opened ∨ h.breaker.state = .halfOpen ∧ h.breaker.cooled c h.now = true := by
  cases hs : h.breaker.state with
  | closed => exact absurd hs (inv.not_closed hn)
  | opened => exact Or.inl rfl
  | halfOpen => exact Or.inr ⟨rfl, inv.cooled hs⟩

theorem Inv.answer_cooling (inv : Inv c h) (hn : c.threshold ≤ failureRun h.events) {t : Nat}
    (ht : h.breaker.lastFailure = some t) (hcool : h.now - t < c.coolDown.nanos) :
    (h.breaker.ask c h.now).answer = .refused (c.coolDown.minus (h.now - t)) := by
  have hc : h.breaker.cooled c h.now = false := by
    rw [← Bool.not_eq_true, cooled_iff ht]
    omega
  rcases inv.opened_or_halfOpen hn with hs | ⟨-, hc'⟩
  · rw [ask_opened hs hc]
    simp [remaining, ht]
  · simp [hc] at hc'

theorem Inv.answer_taken (inv : Inv c h) (hn : c.threshold ≤ failureRun h.events) {i : ι}
    (hi : InTrial h.events i) : (h.breaker.ask c h.now).answer = .refused Span.zero := by
  rcases inv.opened_or_halfOpen hn with hs | ⟨hs, -⟩
  · exact absurd hi (inv.slot.untried hs i)
  · rw [ask_taken hs ((inv.slot.taken hs).mpr ⟨i, hi⟩)]

theorem Inv.answer_free (inv : Inv c h) (hn : c.threshold ≤ failureRun h.events)
    (hcool : h.breaker.cooled c h.now = true) (hfree : ¬∃ i, InTrial h.events i) :
    ∃ p, (h.breaker.ask c h.now).answer = .granted p ∧ p.trial = true := by
  rcases inv.opened_or_halfOpen hn with hs | ⟨hs, -⟩
  · rw [ask_cooled hs hcool]
    exact ⟨_, rfl, rfl⟩
  · have ht : h.breaker.trialRunning = false := by
      rw [← Bool.not_eq_true, inv.slot.taken hs]
      exact hfree
    rw [ask_free hs ht]
    exact ⟨_, rfl, rfl⟩

/-- A call that is not the running trial leaves the breaker as it is when it ends neutrally. -/
theorem Inv.neutral_of_not_inTrial (inv : Inv c h) {i : ι} {p : Permit} (hp : h.held i = some p)
    (hi : ¬InTrial h.events i) : (h.breaker.report c h.now p .neutral).breaker = h.breaker := by
  rw [report_neutral]
  by_cases hs : h.breaker.state = .halfOpen
  · have hno : ¬p.OwnsSlot h.breaker := fun ho => hi ((inv.slot.owner hs i).mpr ⟨p, hp, ho⟩)
    exact if_neg hno
  · exact freeTrial_of_idle (inv.slot.idle hs)

/-- Nobody is refused after the cool-down unless a trial is running, and its permit is held. -/
theorem Inv.granted_or_inTrial (hc : c.Sound) (inv : Inv c h) {later : Nat}
    (le : h.now + c.coolDown.nanos ≤ later) :
    (∃ p, (h.breaker.ask c later).answer = .granted p) ∨
      ∃ i p, InTrial h.events i ∧ h.held i = some p := by
  by_cases hn : c.threshold ≤ failureRun h.events
  · by_cases hi : ∃ i, InTrial h.events i
    · obtain ⟨i, hi⟩ := hi
      rcases inv.opened_or_halfOpen hn with hs | ⟨hs, -⟩
      · exact absurd hi (inv.slot.untried hs i)
      · obtain ⟨p, hp, -⟩ := (inv.slot.owner hs i).mp hi
        exact Or.inr ⟨i, p, hi, hp⟩
    · obtain ⟨t, -, ht, hle⟩ := inv.latest hc hn
      have hcool : h.breaker.cooled c later = true := (cooled_iff ht).mpr (by omega)
      have inv' : Inv c { h with now := later } := inv.wait (by omega)
      obtain ⟨p, hp, -⟩ := inv'.answer_free hn hcool hi
      exact Or.inl ⟨p, hp⟩
  · have hs := inv.counts.closed.mpr (Nat.lt_of_not_le hn)
    exact Or.inl ⟨_, by rw [ask_closed hs]⟩

theorem Inv.trial_of_granted (inv : Inv c h) (hn : c.threshold ≤ failureRun h.events) {now : Nat} {p : Permit}
    (hp : (h.breaker.ask c now).answer = .granted p) : p.trial = true := by
  rcases inv.opened_or_halfOpen hn with hs | ⟨hs, -⟩
  · cases hcool : h.breaker.cooled c now with
    | false => simp [ask_opened hs hcool] at hp
    | true =>
      simp only [ask_cooled hs hcool, Admission.granted.injEq] at hp
      rw [← hp]
  · cases ht : h.breaker.trialRunning with
    | true => simp [ask_taken hs ht] at hp
    | false =>
      simp only [ask_free hs ht, Admission.granted.injEq] at hp
      rw [← hp]

/-- Whom a breaker lets through: everyone below the threshold, and otherwise, once it has cooled down, those
    who come while no trial is running. -/
theorem Inv.granted_iff (hc : c.Sound) (inv : Inv c h) :
    (∃ p, (h.breaker.ask c h.now).answer = .granted p) ↔ failureRun h.events < c.threshold ∨
      ∃ t, latestFailure? h.events = some t ∧ t + c.coolDown.nanos ≤ h.now ∧ ¬∃ i, InTrial h.events i := by
  by_cases hn : failureRun h.events < c.threshold
  · rw [ask_closed (inv.counts.closed.mpr hn)]
    exact ⟨fun _ => Or.inl hn, fun _ => ⟨_, rfl⟩⟩
  · have hn' : c.threshold ≤ failureRun h.events := Nat.le_of_not_lt hn
    obtain ⟨t, ht, hlast, hle⟩ := inv.latest hc hn'
    rw [or_iff_right hn]
    constructor
    · rintro ⟨p, hp⟩
      refine ⟨t, ht, ?_, fun ⟨i, hi⟩ => ?_⟩
      · refine Nat.le_of_not_lt fun hlt => ?_
        rw [inv.answer_cooling hn' hlast (by omega)] at hp
        cases hp
      · rw [inv.answer_taken hn' hi] at hp
        cases hp
    · rintro ⟨t', ht', hcool, hfree⟩
      obtain rfl : t = t' := Option.some.inj (ht.symm.trans ht')
      obtain ⟨p, hp, -⟩ := inv.answer_free hn' ((cooled_iff hlast).mpr (by omega)) hfree
      exact ⟨p, hp⟩

theorem Inv.trial_iff (inv : Inv c h) {p : Permit} (hp : (h.breaker.ask c h.now).answer = .granted p) :
    p.trial = true ↔ c.threshold ≤ failureRun h.events := by
  refine ⟨fun htrial => Nat.le_of_not_lt fun hn => ?_, fun hn => inv.trial_of_granted hn hp⟩
  rw [ask_closed (inv.counts.closed.mpr hn)] at hp
  cases hp
  cases htrial

theorem Inv.inTrial_unique (inv : Inv c h) (hn : c.threshold ≤ failureRun h.events) {i j : ι}
    (hi : InTrial h.events i) (hj : InTrial h.events j) : i = j := by
  rcases inv.opened_or_halfOpen hn with hs | ⟨hs, -⟩
  · exact absurd hi (inv.slot.untried hs i)
  · exact inv.slot.single hs i j hi hj

/-- Once the running trial has ended, no matter how, the breaker grants after another cool-down. -/
theorem Inv.granted_of_finish [DecidableEq ι] (hc : c.Sound) (inv : Inv c h)
    (hn : c.threshold ≤ failureRun h.events) {i : ι} {p : Permit} (hi : InTrial h.events i)
    (hp : h.held i = some p) (v : Verdict) {later : Nat} (le : h.now + c.coolDown.nanos ≤ later) :
    ∃ q, ((h.finish c i p v).breaker.ask c later).answer = .granted q := by
  rcases (inv.finish hc v hp).granted_or_inTrial hc le with hq | ⟨j, -, hj, -⟩
  · exact hq
  · obtain ⟨hj, hne, -⟩ := inTrial_ended.mp hj
    exact absurd (inv.inTrial_unique hn hi hj) hne

/-- The state that the history of a breaker says a caller sees. -/
def shownState (c : Settings) (now : Nat) (es : List (Event ι)) : CircuitState :=
  if failureRun es < c.threshold then .closed
  else if (latestFailure? es).any fun t => now - t < c.coolDown.nanos then .opened
  else .halfOpen

theorem shownState_of_lt {now : Nat} {es : List (Event ι)} (hn : failureRun es < c.threshold) :
    shownState c now es = .closed := if_pos hn

theorem shownState_of_le {now t : Nat} {es : List (Event ι)} (hn : c.threshold ≤ failureRun es)
    (ht : latestFailure? es = some t) :
    shownState c now es = if now - t < c.coolDown.nanos then .opened else .halfOpen := by
  unfold shownState
  rw [if_neg (Nat.not_lt.mpr hn), ht]
  simp

theorem shownState_congr {κ : Type} {es : List (Event ι)} {es' : List (Event κ)} (hv : verdicts es' = verdicts es)
    (now : Nat) : shownState c now es' = shownState c now es := by
  unfold shownState
  rw [failureRun_congr hv, latestFailure?_congr hv]

theorem Inv.stateAt_eq (hc : c.Sound) (inv : Inv c h) : h.breaker.stateAt c h.now = shownState c h.now h.events := by
  unfold stateAt
  by_cases hn : failureRun h.events < c.threshold
  · simp [inv.counts.closed.mpr hn, shownState_of_lt hn]
  · have hn : c.threshold ≤ failureRun h.events := Nat.le_of_not_lt hn
    obtain ⟨t, ht, hlast, -⟩ := inv.latest hc hn
    have hcool : h.breaker.cooled c h.now = true ↔ c.coolDown.nanos ≤ h.now - t := cooled_iff hlast
    rw [shownState_of_le hn ht]
    rcases inv.opened_or_halfOpen hn with hs | ⟨hs, hready⟩
    · by_cases hlt : h.now - t < c.coolDown.nanos
      · simp [hs, hcool, hlt]
      · simp [hs, hcool, hlt, Nat.le_of_not_lt hlt]
    · simp [hs, Nat.not_lt.mpr (hcool.mp hready)]

end Answers

/-! ### The laws -/

section Laws
variable {ι : Type} [DecidableEq ι]

/-- What a breaker answers follows from its history: it lets everyone through as long as there are fewer
    failures since the latest success than its threshold; otherwise it refuses until the cool-down after
    the latest failure is over, and then lets a trial through exactly if no trial has been let through
    since that failure that is still running. Only the running trial owns the slot, so no other call that
    ends neutrally changes anything; and a breaker refuses for good under no circumstances. -/
theorem answer_of_history (threshold : UInt32) (coolDown : Span) {h : History ι}
    (reach : h.Reachable (.make threshold coolDown)) :
    let c := Settings.make threshold coolDown
    let answer := (h.breaker.ask c h.now).answer
    let n := failureRun h.events
    let most := max threshold.toNat 1
    ((∃ p, answer = .granted p ∧ p.trial = false) ↔ n < most) ∧
    (most ≤ n → ∃ t, latestFailure? h.events = some t ∧ t ≤ h.now ∧
      (h.now - t < coolDown.nanos →
        answer = .refused (coolDown.minus (h.now - t)) ∧ Span.zero < coolDown.minus (h.now - t)) ∧
      (coolDown.nanos ≤ h.now - t →
        (answer = .refused Span.zero ↔ ∃ i, InTrial h.events i) ∧
        ((∃ p, answer = .granted p ∧ p.trial = true) ↔ ¬∃ i, InTrial h.events i)) ∧
      (∀ i j, InTrial h.events i → InTrial h.events j → i = j)) ∧
    (∀ i p, h.held i = some p → ¬InTrial h.events i →
      (h.breaker.report c h.now p .neutral).breaker = h.breaker) ∧
    (∀ later, h.now + coolDown.nanos ≤ later → (∃ p, (h.breaker.ask c later).answer = .granted p) ∨
      ∃ i p, InTrial h.events i ∧ h.held i = some p ∧
        ∀ v, ∃ q, ((h.finish c i p v).breaker.ask c later).answer = .granted q) := by
  intro c answer n most
  have hc : c.Sound := Settings.sound_make threshold coolDown
  have inv : Inv c h := reach.inv hc
  refine ⟨⟨fun ⟨p, hp, htrial⟩ => ?_, fun hn => ?_⟩, fun hn => ?_, fun i p => inv.neutral_of_not_inTrial,
    fun later le => ?_⟩
  · by_contra hlt
    have := inv.trial_of_granted (Nat.le_of_not_lt hlt) hp
    simp [htrial] at this
  · rw [show answer = _ from congrArg Turn.answer (ask_closed (inv.counts.closed.mpr hn))]
    exact ⟨_, rfl, rfl⟩
  · obtain ⟨t, ht, hlast, hle⟩ := inv.latest hc hn
    refine ⟨t, ht, hle, fun hcool => ⟨inv.answer_cooling hn hlast hcool, ?_⟩, fun hcool => ?_,
      fun i j => inv.inTrial_unique hn⟩
    · show 0 < coolDown.nanos - (h.now - t)
      omega
    · have hcool' := (cooled_iff (c := c) hlast).mpr hcool
      by_cases hi : ∃ i, InTrial h.events i
      · obtain ⟨i, hi'⟩ := hi
        have ha : answer = .refused Span.zero := inv.answer_taken hn hi'
        simp [ha, show ∃ i, InTrial h.events i from ⟨i, hi'⟩]
      · obtain ⟨p, hp, htrial⟩ := inv.answer_free hn hcool' hi
        have ha : answer = .granted p := hp
        simp [ha, hi, htrial]
  · by_cases hn : c.threshold ≤ n
    · rcases inv.granted_or_inTrial hc le with hg | ⟨i, p, hi, hp⟩
      · exact Or.inl hg
      · exact Or.inr ⟨i, p, hi, hp, fun v => inv.granted_of_finish hc hn hi hp v le⟩
    · exact Or.inl ⟨_, by rw [ask_closed (inv.counts.closed.mpr (Nat.lt_of_not_le hn))]⟩

/-- A breaker with a threshold of one failure and a second of cool-down whose first call fails at once, and
    whose second call is the trial a second later. -/
def tried : History Nat :=
  let c := Settings.make 1 (Span.ofSeconds 1)
  let h := ((({ now := 0 } : History Nat).ask c 0).finish c 0 ⟨0, false⟩ .failure)
  ({ h with now := 1000000000 } : History Nat).ask c 1

theorem reachable_tried : tried.Reachable (.make 1 (Span.ofSeconds 1)) :=
  (((History.Reachable.start 0).step (.ask 0 rfl)).step (.finish 0 ⟨0, false⟩ .failure rfl)).step
    (.wait 1000000000 (by decide)) |>.step (.ask 1 rfl)

/-- The trial makes the breaker refuse the next caller. -/
theorem answer_of_history_tried :
    tried.Reachable (.make 1 (Span.ofSeconds 1)) ∧ (tried.breaker.ask (.make 1 (Span.ofSeconds 1)) tried.now).answer =
      .refused Span.zero ∧ ∃ i, InTrial tried.events i := by
  obtain ⟨-, tooMany, -⟩ := answer_of_history 1 (Span.ofSeconds 1) reachable_tried
  obtain ⟨t, ht, -, -, cooled, -⟩ := tooMany (by decide)
  cases ht
  have hrefused : (tried.breaker.ask (.make 1 (Span.ofSeconds 1)) tried.now).answer = .refused Span.zero := rfl
  exact ⟨reachable_tried, hrefused, (cooled (by decide)).1.mp hrefused⟩

/-- What a breaker shows follows from the times of its successes and failures: its count is the number of
    failures since the latest success, as far as it can be counted, and it is closed below the threshold,
    open during the cool-down after the latest failure, and half-open afterwards. Two breakers with the same
    successes and failures show the same, whatever else happened to them. -/
theorem state_of_history (threshold : UInt32) (coolDown : Span) {h : History ι}
    (reach : h.Reachable (.make threshold coolDown)) :
    let c := Settings.make threshold coolDown
    let n := failureRun h.events
    let most := max threshold.toNat 1
    h.breaker.failures = min n 4294967295 ∧
    (∀ now, h.now ≤ now →
      (h.breaker.stateAt c now = .closed ↔ n < most) ∧
      (h.breaker.stateAt c now = .opened ↔
        most ≤ n ∧ ∃ t, latestFailure? h.events = some t ∧ now - t < coolDown.nanos) ∧
      (h.breaker.stateAt c now = .halfOpen ↔
        most ≤ n ∧ ∃ t, latestFailure? h.events = some t ∧ coolDown.nanos ≤ now - t)) ∧
    (∀ {κ : Type} [DecidableEq κ] {h' : History κ}, h'.Reachable c → verdicts h'.events = verdicts h.events →
      h'.breaker.failures = h.breaker.failures ∧
      ∀ now, h.now ≤ now → h'.now ≤ now → h'.breaker.stateAt c now = h.breaker.stateAt c now) := by
  intro c n most
  have hc : c.Sound := Settings.sound_make threshold coolDown
  have inv : Inv c h := reach.inv hc
  refine ⟨inv.counts.failures, fun now le => ?_, fun reach' hv => ⟨?_, fun now le le' => ?_⟩⟩
  · have hs : h.breaker.stateAt c now = shownState c now h.events := (inv.wait le).stateAt_eq hc
    by_cases hn : n < most
    · rw [hs, shownState_of_lt hn]
      simp [hn, Nat.not_le.mpr hn]
    · have hn' : most ≤ n := Nat.le_of_not_lt hn
      obtain ⟨t, ht, -⟩ := inv.latest hc hn'
      rw [hs, shownState_of_le hn' ht, ht]
      by_cases hlt : now - t < coolDown.nanos
      · simp [hn, hn', c, Settings.make, hlt, Nat.not_le.mpr hlt]
      · simp [hn, hn', c, Settings.make, hlt, Nat.le_of_not_lt hlt]
  · rw [(reach'.inv hc).counts.failures, failureRun_congr hv, inv.counts.failures]
  · rw [((reach'.inv hc).wait le').stateAt_eq hc, (inv.wait le).stateAt_eq hc]
    exact shownState_congr hv now

theorem state_of_history_tried :
    tried.Reachable (.make 1 (Span.ofSeconds 1)) ∧ tried.breaker.failures = 1 ∧
      tried.breaker.stateAt (.make 1 (Span.ofSeconds 1)) 5000000000 = .halfOpen := by
  obtain ⟨count, shown, -⟩ := state_of_history 1 (Span.ofSeconds 1) reachable_tried
  exact ⟨reachable_tried, count, (shown 5000000000 (by decide)).2.2.mpr ⟨by decide, 0, rfl, by decide⟩⟩

end Laws

end BatchFetch.Breaker
