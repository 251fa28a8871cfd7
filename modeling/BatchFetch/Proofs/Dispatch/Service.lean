import BatchFetch.Proofs.Dispatch.Others
import BatchFetch.Proofs.Dispatch.Shift

/-! # One batch after another

A dispatcher builds limiter, breakers and permits anew for each batch. All that goes on from one batch to the next is the
clock and how far the transport is, so every batch is as good as the first one. -/

namespace BatchFetch

/-- The report of the batch when it is that much later. -/
def BatchReport.after (σ : Nat) (r : BatchReport) : BatchReport := { r with calls := r.calls.map (Call.after σ) }

namespace Batch
section Built
variable {σ : Nat} {c : Config} {targets : List String} {start start' : Nat} {cancelAfter : Option UInt64} {t t' : Transport}
  {earlier earlier' : List Call} {draw draw' : Nat → UInt32 → Nat} {b b' : Batch} {s : State}
  {reply : String → Nat → Reply}

theorem Later.report (h : Later σ b b') : BatchReport.ofState b (s.after σ) = (BatchReport.ofState b' s).after σ := by
  unfold BatchReport.ofState
  rw [results_after, calls_after, peak_after, metrics_after, h.since]
  rfl

/-- Whether a batch can be built does not depend on when, and what came before. -/
theorem built_at (built : ofConfig? c targets start cancelAfter t earlier draw = some b) :
    ∃ b', ofConfig? c targets start' cancelAfter t' earlier' draw' = some b' := by
  unfold ofConfig? at built ⊢
  dsimp only at built ⊢
  split at built
  · cases built
  · rename_i h
    rw [if_neg h]
    exact ⟨_, rfl⟩

/-- A scripted transport replies the same to later calls when it is at the same position. -/
theorem replies_after (same : ∀ target, earlier.countP (·.target == target) = earlier'.countP (·.target == target))
    (calls : List Call) (target : String) :
    Transport.ofReplies reply (earlier ++ calls.map (Call.after σ)) target =
      Transport.ofReplies reply (earlier' ++ calls) target := by
  unfold Transport.ofReplies
  rw [List.countP_append, List.countP_append, List.countP_map, same]
  rfl

theorem later_of_built (whole : 1000000 ∣ σ) (hstart : start = σ + start') (plain : c.retries.jitter = false)
    (same : ∀ target, earlier.countP (·.target == target) = earlier'.countP (·.target == target))
    (built : ofConfig? c targets start cancelAfter (.ofReplies reply) earlier draw = some b)
    (built' : ofConfig? c targets start' cancelAfter (.ofReplies reply) earlier' draw' = some b') : Later σ b b' := by
  subst hstart
  obtain rfl := eq_ofConfig built
  obtain rfl := eq_ofConfig built'
  exact
    { whole, plain, targets := rfl, start := rfl, limits := rfl, breaker := rfl, scope := rfl, retry := rfl, permits := rfl
      replies := replies_after same
      cancelAt := by
        cases cancelAfter with
        | none => rfl
        | some ms => exact congrArg some (Clock.due_add whole start' _)
      deadline := Clock.timer_add whole start' _ }

end Built
end Batch

namespace Dispatcher

/-- What can become of a dispatcher: it starts at some whole millisecond, runs batches of any targets, which may be cancelled
    or run out of time, and rests in between until another whole millisecond. -/
inductive InService (c : Config) (t : Transport) : Dispatcher → Prop where
  | fresh (now : Nat) (whole : 1000000 ∣ now) : InService c t { now }
  | rests {d : Dispatcher} (served : InService c t d) (now : Nat) (later : d.now ≤ now) (whole : 1000000 ∣ now) :
      InService c t { d with now }
  | runs {d d' : Dispatcher} {report : BatchReport} (served : InService c t d) (targets : List String)
      (cancelAfter : Option UInt64) (draw : Nat → UInt32 → Nat)
      (ran : d.dispatch? c t draw targets cancelAfter = some (report, d')) : InService c t d'

section Service
variable {c : Config} {t : Transport} {d : Dispatcher} {reply : String → Nat → Reply}

theorem InService.whole (served : InService c t d) : 1000000 ∣ d.now := by
  induction served with
  | fresh now whole => exact whole
  | rests _ now _ whole => exact whole
  | runs _ targets cancelAfter draw ran ih =>
    obtain ⟨b, built, came⟩ := Option.bind_eq_some_iff.mp ran
    obtain ⟨s, ended, heq⟩ := Option.map_eq_some_iff.mp came
    cases heq
    exact (Batch.reachable_of_final ended).1.dvd_now built ih

/-- No batch sees anything of those before it, nor what time it is. Whenever it starts and whatever the dispatcher did before,
    it has the results of the first batch of a dispatcher that starts at time zero, in the same order and with the same
    durations; it makes the same calls at the same times from its start on; and it takes as long, has as many calls in flight
    at once and records the same metrics. The transport has to be at the same position for each target, and there must be no
    chance in the waits of retries. -/
theorem batch_as_if_first (plain : c.retries.jitter = false) (served : InService c (.ofReplies reply) d) (calls : List Call)
    (same : ∀ target, d.calls.countP (·.target == target) = calls.countP (·.target == target)) (targets : List String)
    (cancelAfter : Option UInt64) (draw draw' : Nat → UInt32 → Nat) :
    d.dispatch? c (.ofReplies reply) draw targets cancelAfter =
      (({ calls } : Dispatcher).dispatch? c (.ofReplies reply) draw' targets cancelAfter).map fun (report, d') =>
        (report.after d.now, { now := d.now + d'.now, calls := d.calls ++ (report.after d.now).calls }) := by
  unfold dispatch?
  cases built : Batch.ofConfig? c targets d.now cancelAfter (.ofReplies reply) d.calls draw with
  | none =>
    cases built' : Batch.ofConfig? c targets 0 cancelAfter (.ofReplies reply) calls draw' with
    | none => rfl
    | some b' =>
      have hsome : ∃ b, Batch.ofConfig? c targets d.now cancelAfter (.ofReplies reply) d.calls draw = some b :=
        Batch.built_at built'
      simp [built] at hsome
  | some b =>
    obtain ⟨b', built'⟩ := Batch.built_at built
    have h := Batch.later_of_built served.whole (Nat.add_zero d.now).symm plain same built built'
    rw [built', Option.bind_some, Option.bind_some, h.final]
    cases b'.final? with
    | none => rfl
    | some s =>
      simp only [Option.map_some, h.report, Batch.calls_after]
      rfl

end Service

/-! ### A batch after one that failed -/

/-- One failure opens a breaker for a second. -/
def touchyConfig : Config :=
  { retries := { maxRetries := 0 }, circuitBreaker := { failureThreshold := 1, openDurationMs := 1000 } }

/-- The first call fails after 5 ms, and those after it complete in the same time. -/
def touchyScript : Script :=
  { replies :=
      [("a", [{ after := Span.ofMillis 5, ending := .outcome (.failed .connection "no route") },
        { after := Span.ofMillis 5, ending := .outcome (.completed 200 7) }])]
    fallback := { ending := .never } }

/-- The dispatcher 15 ms after a batch whose only call failed. -/
def touchy : Dispatcher := { now := 20000000, calls := [⟨0, "a"⟩] }

theorem inService_touchy : InService touchyConfig (.ofReplies touchyScript.reply) touchy := by
  have hran : (({} : Dispatcher).dispatch? touchyConfig (.ofReplies touchyScript.reply) (fun _ _ => 0) ["a"] none).map
      Prod.snd = some { now := 5000000, calls := [⟨0, "a"⟩] } := by decide +kernel
  obtain ⟨⟨report, d⟩, ran, rfl⟩ := Option.map_eq_some_iff.mp hran
  exact .rests (.runs (.fresh 0 (by decide)) _ _ _ ran) 20000000 (by decide) (by decide)

/-- The next batch finds the breaker closed: its call is made at once, and completes. -/
theorem batch_as_if_first_touchy :
    (touchy.dispatch? touchyConfig (.ofReplies touchyScript.reply) (fun _ _ => 0) ["a"] none).map
        (fun x => (x.1.results, x.1.calls, x.1.took, x.2.now)) =
      some ([.finished "a" (.completed 200 7) 1 (Span.ofMillis 5)], [⟨20000000, "a"⟩], Span.ofMillis 5, 25000000) := by
  rw [batch_as_if_first rfl inService_touchy [⟨7, "a"⟩] (by simp [touchy]) ["a"] none _ (fun _ _ => 1)]
  decide +kernel

end Dispatcher

end BatchFetch
