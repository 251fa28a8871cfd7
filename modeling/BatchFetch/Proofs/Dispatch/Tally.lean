import BatchFetch.Proofs.Dispatch.Attempts
import BatchFetch.Proofs.Dispatch.Permits

/-! # The books of a batch

What is counted while a batch runs comes from several places: the limiter, the breakers, the workers and the collecting of
their results. When the batch is over the counts fit together, whatever happened and in which order. -/

namespace BatchFetch

namespace Batch

/-! ### Kinds of events -/

namespace Event

/-- The worker that takes its token with an event. -/
def taker? : Event → Option Nat
  | .tokenTaken i _ => some i
  | _ => none

/-- The worker that makes an attempt with an event. -/
def trier? : Event → Option Nat
  | .called i _ _ _ | .refused i _ _ => some i
  | _ => none

/-- A call returns. -/
def isReturn : Event → Bool
  | .ended _ _ _ => true
  | _ => false

def isBreak : Event → Bool
  | .brokeOff _ _ _ => true
  | _ => false

/-- A worker is refused. -/
def isRefusal : Event → Bool
  | .refused _ _ _ => true
  | _ => false

/-- A breaker counts a refusal. -/
def isRejection : Event → Bool
  | .breaker _ .refused => true
  | _ => false

end Event

/-- How many tokens a worker has taken. -/
def tokens (i : Nat) (log : List Event) : Nat := (log.filterMap Event.taker?).count i

section Log
variable {b : Batch} {s t : State} {i j : Nat} {log es : List Event}

theorem tokens_append : tokens i (log ++ es) = tokens i log + tokens i es := by
  unfold tokens
  rw [List.filterMap_append, List.count_append]

theorem tokens_noted {α : Type} {turn : Breaker.Turn α} : tokens j (b.noted i turn) = 0 := by
  unfold tokens noted
  rw [List.filterMap_map]
  simp [Function.comp_def, Event.taker?]

theorem countP_noted {α : Type} {turn : Breaker.Turn α} {p : Event → Bool}
    (hnote : ∀ key note, p (.breaker key note) = false) : (b.noted i turn).countP p = 0 := by
  unfold noted
  rw [List.countP_map]
  simp [Function.comp_def, hnote]

theorem rejections_noted {α : Type} {turn : Breaker.Turn α} :
    (b.noted i turn).countP Event.isRejection = turn.notes.count .refused := by
  unfold noted
  rw [List.countP_map, List.count_eq_countP]
  refine List.countP_congr fun note _ => ?_
  cases note <;> simp [Event.isRejection]

theorem length_modifyLast {α : Type} (f : α → α) (l : List α) : (l.modifyLast f).length = l.length := by
  rcases List.eq_nil_or_concat l with rfl | ⟨l, x, rfl⟩
  · rfl
  · rw [List.concat_eq_append, List.modifyLast_concat, List.length_append, List.length_append]
    rfl

theorem length_attempts : (attempts i log).length = (log.filterMap Event.trier?).count i := by
  induction log using List.reverseRecOn with
  | nil => rfl
  | append_singleton log e ih =>
    rw [attempts_append, List.filterMap_append, List.count_append, ← ih]
    cases e with
    | called j | refused j =>
      by_cases hj : j = i <;> simp [Event.record, Event.trier?, hj]
    | ended j =>
      by_cases hj : j = i <;> simp [Event.record, Event.trier?, List.filterMap_cons, hj, length_modifyLast]
    | tokenTaken | brokeOff | breaker | finished => rfl

theorem tokens_ended {α : Type} {turn : Breaker.Turn α} {e : Event} (he : e.taker? = none) :
    tokens i (log ++ ([e] ++ b.noted i turn)) = tokens i log := by
  rw [tokens_append, tokens_append, tokens_noted]
  simp [tokens, he]

theorem Rests.tokens (h : Rests b i s t) : tokens i t.log = tokens i s.log := by
  obtain ⟨es, hlog, hes⟩ := h.log
  rw [hlog, tokens_append]
  refine Nat.add_eq_left.mpr (List.count_eq_zero.mpr fun hmem => ?_)
  obtain ⟨e, he, heq⟩ := List.mem_filterMap.mp hmem
  rcases hes e he with ⟨j, hij, isOf⟩ | delivered
  · cases e with
    | tokenTaken k =>
      cases heq
      exact hij isOf.symm
    | refused | called | ended | brokeOff | breaker | finished => cases heq
  · cases e with
    | finished => cases heq
    | tokenTaken | refused | called | ended | brokeOff | breaker => cases delivered

theorem length_attempts_ended {now : Nat} {o : Outcome} {α : Type} {turn : Breaker.Turn α} :
    (attempts i (log ++ ([.ended j now o] ++ b.noted i turn))).length = (attempts i log).length := by
  rw [attempts_ended]
  dsimp only [Event.record]
  split
  · exact length_modifyLast _ _
  · rfl

/-- Every attempt is a call, or is refused. -/
theorem length_triers :
    (log.filterMap Event.trier?).length = (log.filterMap Event.call?).length + log.countP Event.isRefusal := by
  induction log with
  | nil => rfl
  | cons e log ih =>
    rw [List.countP_cons]
    cases e with
    | called | refused =>
      simp only [List.filterMap_cons, Event.trier?, Event.call?, Event.isRefusal, List.length_cons, Bool.false_eq_true,
        if_true, if_false] at ih ⊢
      omega
    | tokenTaken | ended | brokeOff | breaker | finished => exact ih

/-- Of what is logged with an attempt, only the attempt itself is of a kind to which no tokens and notes belong. -/
theorem countP_started {retries : UInt32} {bucket : Bucket} {α : Type} {turn : Breaker.Turn α} {e : Event} {p : Event → Bool}
    (starts : Starts b i s retries bucket es) (hnote : ∀ key note, p (.breaker key note) = false)
    (htoken : ∀ i waited, p (.tokenTaken i waited) = false) :
    (es ++ b.noted i turn ++ [e]).countP p = if p e then 1 else 0 := by
  have hes : es.countP p = 0 := by
    cases starts with
    | token => simp [htoken]
    | retry => rfl
  rw [List.countP_append, List.countP_append, hes, countP_noted hnote, List.countP_singleton, Nat.zero_add]

theorem countP_ended {α : Type} {turn : Breaker.Turn α} {e : Event} {p : Event → Bool}
    (hnote : ∀ key note, p (.breaker key note) = false) :
    ([e] ++ b.noted i turn).countP p = if p e then 1 else 0 := by
  rw [List.countP_append, countP_noted hnote, List.countP_singleton, Nat.add_zero]

theorem rejections_started {retries : UInt32} {bucket : Bucket} {α : Type} {turn : Breaker.Turn α} {e : Event}
    (starts : Starts b i s retries bucket es) (he : e.isRejection = false) :
    (es ++ b.noted i turn ++ [e]).countP Event.isRejection = turn.notes.count .refused := by
  have hes : es.countP Event.isRejection = 0 := by
    cases starts <;> rfl
  rw [List.countP_append, List.countP_append, hes, rejections_noted, List.countP_singleton, he, Nat.zero_add]
  rfl

theorem rejections_ended {α : Type} {turn : Breaker.Turn α} {e : Event} (he : e.isRejection = false) :
    ([e] ++ b.noted i turn).countP Event.isRejection = turn.notes.count .refused := by
  rw [List.countP_append, rejections_noted, List.countP_singleton, he]
  exact Nat.zero_add _

end Log

/-! ### Calls and refusals -/

/-- What the log says about calls and refusals: each refusal is counted by a breaker, and each call has returned, has
    broken off, or is in flight. -/
structure Balanced (s : State) : Prop where
  refusals : s.log.countP Event.isRejection = s.log.countP Event.isRefusal
  calls : s.log.countP (·.call?.isSome) = s.log.countP Event.isReturn + s.log.countP Event.isBreak + s.calling

section Balance
variable {b : Batch} {s t : State} {i : Nat} {es : List Event}

theorem Balanced.quiet (h : Balanced s) (log : t.log = s.log) (calling : t.calling = s.calling) : Balanced t := by
  constructor
  · rw [log]
    exact h.refusals
  · rw [log, calling]
    exact h.calls

theorem Moved.calling_eq {p : Phase} (m : Moved b i s t) (hphases : t.phases = s.phases.set i p)
    (before : (s.phase i).permit? = none) (after : p.permit? = none) : t.calling = s.calling := by
  have hcalling := m.calling
  rw [phase_self hphases m.before, before, after] at hcalling
  exact Nat.add_right_cancel hcalling

theorem Balanced.adds {p : Phase} (h : Balanced s) (m : Moved b i s t) (hphases : t.phases = s.phases.set i p)
    (hlog : t.log = s.log ++ es) (refusals : es.countP Event.isRejection = es.countP Event.isRefusal)
    (calls : es.countP (·.call?.isSome) + (if (s.phase i).permit?.isSome then 1 else 0) =
      es.countP Event.isReturn + es.countP Event.isBreak + if p.permit?.isSome then 1 else 0) : Balanced t := by
  have hcalling := m.calling
  rw [phase_self hphases m.before] at hcalling
  have hrefusals := h.refusals
  have hcalls := h.calls
  constructor
  · rw [hlog, List.countP_append, List.countP_append]
    omega
  · rw [hlog, List.countP_append, List.countP_append, List.countP_append]
    omega

theorem Balanced.move (h : Balanced s) (m : Moved b i s t) : Balanced t := by
  cases hm : m with
  | queued before _ eq =>
    have ha := agrees_of_unqueued eq
    exact h.quiet ha.log (m.calling_eq ha.phases (by rw [before]; rfl) rfl)
  | passed before _ eq =>
    have ha := agrees_of_unqueued eq
    exact h.quiet ha.log (m.calling_eq ha.phases (by rcases before with hp | hp <;> rw [hp] <;> rfl) rfl)
  | waits _ _ _ _ before _ _ eq =>
    have ha := agrees_of_unqueued eq
    exact h.quiet ha.log (m.calling_eq ha.phases (by rw [before]; rfl) rfl)
  | cancelled _ before _ eq =>
    have ha := agrees_of_unqueued eq
    exact h.quiet ha.log (m.calling_eq ha.phases before.permit? rfl)
  | called _ _ _ _ starts _ granted eq =>
    have ha := agrees_of_unqueued eq
    have hnotes : (b.asked i s).notes.count .refused = 0 := Breaker.notes_of_granted granted
    refine h.adds m ha.phases ha.log ?_ ?_
    · rw [rejections_started starts rfl, hnotes, countP_started starts (fun _ _ => rfl) fun _ _ => rfl]
      rfl
    · rw [starts.permit?, countP_started starts (fun _ _ => rfl) fun _ _ => rfl,
        countP_started starts (fun _ _ => rfl) fun _ _ => rfl, countP_started starts (fun _ _ => rfl) fun _ _ => rfl]
      rfl
  | refused _ _ _ _ starts _ refusal eq =>
    have ha := agrees_of_unqueued eq
    have hnotes : (b.asked i s).notes.count .refused = 1 := Breaker.notes_of_refused refusal
    refine h.adds m ha.phases ha.log ?_ ?_
    · rw [rejections_started starts rfl, hnotes, countP_started starts (fun _ _ => rfl) fun _ _ => rfl]
      rfl
    · rw [starts.permit?, countP_started starts (fun _ _ => rfl) fun _ _ => rfl,
        countP_started starts (fun _ _ => rfl) fun _ _ => rfl, countP_started starts (fun _ _ => rfl) fun _ _ => rfl]
      rfl
  | failed _ _ _ _ _ before _ _ eq | ended _ _ _ _ _ before _ _ eq | brokeOff _ _ _ _ _ before _ _ eq =>
    have ha := agrees_of_unqueued eq
    refine h.adds m ha.phases ha.log ?_ ?_
    · rw [rejections_ended rfl, told, Breaker.notes_report, countP_ended fun _ _ => rfl]
      rfl
    · rw [before, countP_ended fun _ _ => rfl, countP_ended fun _ _ => rfl, countP_ended fun _ _ => rfl]
      rfl

theorem balanced_initial (b : Batch) : Balanced b.initial := by
  have hcalling : b.initial.calling = 0 := by
    refine List.countP_eq_zero.mpr fun p hp => ?_
    obtain ⟨_, _, rfl⟩ := List.mem_map.mp hp
    exact Bool.false_ne_true
  refine ⟨rfl, ?_⟩
  rw [hcalling]
  rfl

theorem countP_collect {e : Exit} {p : Event → Bool} (hp : ∀ j r, p (.finished j r) = false) :
    (b.collect i e s).log.countP p = s.log.countP p := by
  show (s.log ++ _).countP p = _
  rw [List.countP_append, List.countP_singleton, hp]
  rfl

theorem Reachable.balanced (reach : Reachable b s) : Balanced s := by
  induction reach with
  | start => exact balanced_initial b
  | step _ hs ih =>
    cases hs with
    | stop | wait => exact ⟨ih.refusals, ih.calls⟩
    | move i can => exact ih.move (moved_move can)
    | collect i e _ =>
      constructor
      · rw [countP_collect fun _ _ => rfl, countP_collect fun _ _ => rfl]
        exact ih.refusals
      · rw [countP_collect fun _ _ => rfl, countP_collect fun _ _ => rfl, countP_collect fun _ _ => rfl]
        exact ih.calls

end Balance

/-! ### The attempts of a worker and its result -/

/-- What a result says of a number of attempts: how many they were, as far as a counter of 32 bits can tell; and a worker
    without any was cancelled. -/
structure Reports (n : Nat) (r : FetchResult) : Prop where
  attempts : r.attempts = max (n % 4294967296) 1
  cancelled : n = 0 → r.outcome = .cancelled

/-- How many tokens a worker has taken and how many attempts it has made, by where it stands. -/
def Reckoned (b : Batch) (i : Nat) (s : State) : Prop :=
  match s.phase i with
  | .fresh | .queued | .waiting _ _ => tokens i s.log = 0 ∧ attempts i s.log = []
  | .calling retries _ _ _ =>
    tokens i s.log = 1 ∧ (attempts i s.log).length = retries.toNat + 1 ∧ retries ≤ b.retry.maxRetries
  | .backingOff retry _ =>
    tokens i s.log = 1 ∧ (attempts i s.log).length = retry.toNat ∧ 0 < retry.toNat ∧ retry ≤ b.retry.maxRetries
  | .done =>
    tokens i s.log = min (attempts i s.log).length 1 ∧ (attempts i s.log).length ≤ b.retry.maxRetries.toNat + 1 ∧
      ∀ r, HasResult b s i r → (∃ τ m, .brokeOff i τ m ∈ s.log) ∨ Reports (attempts i s.log).length r

section Reckoning
variable {b : Batch} {s t : State} {i j : Nat} {es : List Event} {retries : UInt32}

theorem reckoned_initial (b : Batch) (i : Nat) : Reckoned b i b.initial := by
  unfold Reckoned
  by_cases hi : i < b.targets.length
  · simp [State.phase, initial, hi, tokens, attempts]
  · simp [State.phase, initial, hi, tokens, attempts, HasResult, State.delivered]

theorem Reckoned.congr (h : Reckoned b i s) (hphase : t.phase i = s.phase i) (htokens : tokens i t.log = tokens i s.log)
    (hattempts : attempts i t.log = attempts i s.log) (hresult : ∀ r, HasResult b t i r → HasResult b s i r)
    (hbroken : ∀ τ m, .brokeOff i τ m ∈ s.log → .brokeOff i τ m ∈ t.log) : Reckoned b i t := by
  unfold Reckoned at h ⊢
  rw [hphase, htokens, hattempts]
  cases hp : s.phase i with
  | done =>
    simp only [hp] at h ⊢
    obtain ⟨htoken, hle, hreports⟩ := h
    refine ⟨htoken, hle, fun r hr => (hreports r (hresult r hr)).imp_left ?_⟩
    rintro ⟨τ, m, hmem⟩
    exact ⟨τ, m, hbroken τ m hmem⟩
  | fresh | queued | waiting | calling | backingOff => simpa only [hp] using h

theorem Reckoned.early (h : Reckoned b i s)
    (before : s.phase i = .fresh ∨ s.phase i = .queued ∨ ∃ since wake, s.phase i = .waiting since wake) :
    tokens i s.log = 0 ∧ attempts i s.log = [] := by
  unfold Reckoned at h
  rcases before with hp | hp | ⟨since, wake, hp⟩ <;> simpa only [hp] using h

/-- A worker that starts an attempt has its token then, and has made as many attempts as there were retries. -/
theorem Reckoned.starts (h : Reckoned b i s) {bucket : Bucket} (starts : Starts b i s retries bucket es) :
    tokens i s.log + tokens i es = 1 ∧ (attempts i s.log).length = retries.toNat ∧ retries ≤ b.retry.maxRetries := by
  cases starts with
  | token since wake _ before _ =>
    obtain ⟨htokens, hattempts⟩ := h.early (.inr (.inr ⟨since, wake, before⟩))
    refine ⟨?_, by rw [hattempts]; rfl, UInt32.zero_le⟩
    rw [htokens]
    simp [tokens, Event.taker?]
  | retry _ wake before =>
    simp only [Reckoned, before] at h
    obtain ⟨htokens, hlen, -, hle⟩ := h
    exact ⟨htokens, hlen, hle⟩

theorem Reckoned.during (h : Reckoned b i s) {permit : Permit} {ends : Nat} {reply : Reply}
    (before : s.phase i = .calling retries permit ends reply) :
    tokens i s.log = 1 ∧ (attempts i s.log).length = retries.toNat + 1 ∧ retries ≤ b.retry.maxRetries := by
  simpa only [Reckoned, before] using h

theorem reports_of_last {n : Nat} (hn : n = retries.toNat + 1) (target : String) (o : Outcome) (d : Span) :
    Reports n (.finished target o (retries + 1).toNat d) where
  attempts := by
    show max (retries + 1).toNat 1 = _
    rw [UInt32.toNat_add, hn]
    rfl
  cancelled hzero := by omega

theorem Reckoned.cancelled (h : Reckoned b i s) {n : Nat} (before : Between s i n) :
    tokens i s.log = min (attempts i s.log).length 1 ∧ (attempts i s.log).length ≤ b.retry.maxRetries.toNat ∧
      n = max (attempts i s.log).length 1 := by
  have none : tokens i s.log = 0 ∧ attempts i s.log = [] →
      tokens i s.log = min (attempts i s.log).length 1 ∧ (attempts i s.log).length ≤ b.retry.maxRetries.toNat ∧
        1 = max (attempts i s.log).length 1 := by
    rintro ⟨htokens, hattempts⟩
    simp [htokens, hattempts]
  cases before with
  | fresh hp => exact none (h.early (.inl hp))
  | queued hp => exact none (h.early (.inr (.inl hp)))
  | waiting since wake hp => exact none (h.early (.inr (.inr ⟨since, wake, hp⟩)))
  | backingOff retry wake hp =>
    simp only [Reckoned, hp] at h
    obtain ⟨htokens, hlen, hpos, hle⟩ := h
    have hle : retry.toNat ≤ b.retry.maxRetries.toNat := UInt32.le_iff_toNat_le.mp hle
    omega

theorem Reckoned.of_done {n : Nat} (done : t.phase i = .done) (htokens : tokens i t.log = min n 1)
    (hlen : (attempts i t.log).length = n) (hle : n ≤ b.retry.maxRetries.toNat + 1)
    (hresult : ∀ r, HasResult b t i r → (∃ τ m, .brokeOff i τ m ∈ t.log) ∨ Reports n r) : Reckoned b i t := by
  unfold Reckoned
  rw [done, hlen]
  exact ⟨htokens, hle, hresult⟩

theorem Reckoned.move (h : Reckoned b i s) (acc : Accounted b s) (m : Moved b i s t) : Reckoned b i t := by
  have hi := m.before
  cases hm : m with
  | queued before _ eq =>
    have ha := agrees_of_unqueued eq
    have hearly := h.early (.inl before)
    rw [← ha.log] at hearly
    simpa only [Reckoned, phase_self ha.phases hi] using hearly
  | passed before _ eq =>
    have ha := agrees_of_unqueued eq
    have hearly := h.early (before.imp_right .inl)
    rw [← ha.log] at hearly
    simpa only [Reckoned, phase_self ha.phases hi] using hearly
  | waits since wake _ _ before _ _ eq =>
    have ha := agrees_of_unqueued eq
    have hearly := h.early (.inr (.inr ⟨since, wake, before⟩))
    rw [← ha.log] at hearly
    simpa only [Reckoned, phase_self ha.phases hi] using hearly
  | called retries _ es permit starts _ _ eq =>
    have ha := agrees_of_unqueued eq
    obtain ⟨htokens, hlen, hle⟩ := h.starts starts
    have has : attempts i t.log = attempts i s.log ++ [{ start := s.now }] := by
      rw [ha.log, attempts_started starts]
      exact if_pos rfl
    have hone : tokens i t.log = 1 := by
      rw [ha.log, tokens_append, tokens_append, tokens_append, tokens_noted, ← htokens]
      rfl
    simp only [Reckoned, phase_self ha.phases hi]
    refine ⟨hone, ?_, hle⟩
    rw [has, List.length_append, hlen]
    rfl
  | refused retries _ es d starts _ _ eq =>
    have ha := agrees_of_unqueued eq
    obtain ⟨htokens, hlen, hle⟩ := h.starts starts
    have has : attempts i t.log =
        attempts i s.log ++ [{ start := s.now, ended := some (s.now, .refused ⟨b.key i, d⟩) }] := by
      rw [ha.log, attempts_started starts]
      exact if_pos rfl
    have hone : tokens i t.log = 1 := by
      rw [ha.log, tokens_append, tokens_append, tokens_append, tokens_noted, ← htokens]
      rfl
    have hle : retries.toNat ≤ b.retry.maxRetries.toNat := UInt32.le_iff_toNat_le.mp hle
    refine .of_done (n := retries.toNat + 1) (phase_self ha.phases hi) (by omega) ?_ (by omega) fun r hr => .inr ?_
    · rw [has, List.length_append, hlen]
      rfl
    · rw [m.eq_resultAt acc ha.exits hr]
      exact reports_of_last rfl _ _ _
  | failed retries permit ends reply o before _ again eq =>
    have ha := agrees_of_unqueued eq
    obtain ⟨htokens, hlen, hle⟩ := h.during before
    obtain ⟨kind, -, hretry⟩ := (Option.any_eq_true _ _).mp again
    obtain ⟨hsucc, hlt⟩ := toNat_succ_of_shouldRetry hretry
    simp only [Reckoned, phase_self ha.phases hi]
    refine ⟨?_, ?_, ?_, ?_⟩
    · rw [ha.log, tokens_ended rfl, htokens]
    · rw [ha.log, length_attempts_ended, hlen, hsucc]
    · rw [hsucc]
      exact Nat.succ_pos _
    · rw [UInt32.le_iff_toNat_le, hsucc]
      exact hlt
  | ended retries permit ends reply o before _ _ eq =>
    have ha := agrees_of_unqueued eq
    obtain ⟨htokens, hlen, hle⟩ := h.during before
    have hle : retries.toNat ≤ b.retry.maxRetries.toNat := UInt32.le_iff_toNat_le.mp hle
    have hone : tokens i t.log = 1 := by rw [ha.log, tokens_ended rfl, htokens]
    refine .of_done (phase_self ha.phases hi) (by omega) ?_ (n := retries.toNat + 1) (by omega) fun r hr => .inr ?_
    · rw [ha.log, length_attempts_ended, hlen]
    · rw [m.eq_resultAt acc ha.exits hr]
      exact reports_of_last rfl _ _ _
  | brokeOff retries permit ends reply message before _ _ eq =>
    have ha := agrees_of_unqueued eq
    obtain ⟨htokens, hlen, hle⟩ := h.during before
    have hle : retries.toNat ≤ b.retry.maxRetries.toNat := UInt32.le_iff_toNat_le.mp hle
    have hone : tokens i t.log = 1 := by rw [ha.log, tokens_ended rfl, htokens]
    refine .of_done (phase_self ha.phases hi) (by omega) ?_ (n := retries.toNat + 1) (by omega) fun r _ => .inl ?_
    · rw [ha.log, attempts_ended]
      exact hlen
    · exact ⟨s.now, message, by simp [ha.log]⟩
  | cancelled n before _ eq =>
    have ha := agrees_of_unqueued eq
    have hlog : t.log = s.log := ha.log
    obtain ⟨htokens, hle, rfl⟩ := h.cancelled before
    refine .of_done (phase_self ha.phases hi) (hlog ▸ htokens) (congrArg (fun log => (attempts i log).length) hlog)
      (Nat.le_succ_of_le hle) fun r hr => .inr ?_
    rw [m.eq_resultAt acc ha.exits hr]
    refine ⟨?_, fun _ => rfl⟩
    show max (max (attempts i s.log).length 1) 1 = _
    rw [Nat.mod_eq_of_lt (hle.trans_lt b.retry.maxRetries.toNat_lt)]
    omega

theorem Reckoned.step (h : Reckoned b i s) (reach : Reachable b s) (hs : Step b s t) : Reckoned b i t := by
  rcases reach.moves_or_rests hs i with ⟨can, rfl⟩ | rests
  · exact h.move reach.accounted (moved_move can)
  · exact h.congr rests.phase rests.tokens rests.attempts rests.result fun _ _ => rests.mem_log

theorem Reachable.reckoned (reach : Reachable b s) (i : Nat) : Reckoned b i s := by
  induction reach with
  | start => exact reckoned_initial b i
  | step reach hs ih => exact ih.step reach hs

end Reckoning

end Batch

end BatchFetch
