import BatchFetch.Fetch.Http
import Mathlib.Algebra.Ring.Nat

/-! # Responses

A response is read chunk by chunk until its body ends or breaks off, or the deadline elapses. What becomes of it depends
on its status and on how the reading ends: a body that is there in time has the size of its chunks, and of any other one
only the status is kept. -/

namespace BatchFetch

/-! ### Reading chunk by chunk -/

namespace Exchange

/-- What comes of reading the rest of a body, when some nanoseconds are over and some bytes are there. Each chunk that is
    there before the deadline is counted; what comes after the deadline is not seen any more. -/
inductive Reads (limit : Span) (b : Body) : Nat → Nat → List Chunk → Reading → Prop where
  | chunk {elapsed size : Nat} {c : Chunk} {cs : List Chunk} {r : Reading} : elapsed + c.after.nanos ≤ limit.nanos →
      Reads limit b (elapsed + c.after.nanos) (size + c.size) cs r → Reads limit b elapsed size (c :: cs) r
  | lateChunk {elapsed size : Nat} {c : Chunk} {cs : List Chunk} : limit.nanos < elapsed + c.after.nanos →
      Reads limit b elapsed size (c :: cs) .late
  | whole {elapsed size : Nat} : elapsed + b.after.nanos ≤ limit.nanos → b.ending = .complete →
      Reads limit b elapsed size [] (.whole size)
  | broken {elapsed size : Nat} {e : Fault} : elapsed + b.after.nanos ≤ limit.nanos → b.ending = .broken e →
      Reads limit b elapsed size [] (.broken e)
  | stalled {elapsed size : Nat} : b.ending = .stalled → Reads limit b elapsed size [] .late
  | lateEnd {elapsed size : Nat} : limit.nanos < elapsed + b.after.nanos → Reads limit b elapsed size [] .late

/-- Reading a body from its first chunk on. -/
def Body.ReadsAs (limit : Span) (b : Body) (r : Reading) : Prop := Reads limit b 0 0 b.chunks r

section Reading
variable {limit : Span} {b : Body} {elapsed size n : Nat} {c : Chunk} {cs : List Chunk} {e : Fault} {r r' : Reading}

/-- What comes of reading a body that is not late. -/
def Body.endsAs (b : Body) (size : Nat) : Reading :=
  match b.ending with
  | .complete => .whole size
  | .broken e => .broken e
  | .stalled => .late

theorem reads_nil : Reads limit b elapsed size [] r ↔
    r = if limit.nanos < elapsed + b.after.nanos then .late else b.endsAs size := by
  constructor
  · intro h
    cases h with
    | whole inTime ending => rw [if_neg (Nat.not_lt.mpr inTime), Body.endsAs, ending]
    | broken inTime ending => rw [if_neg (Nat.not_lt.mpr inTime), Body.endsAs, ending]
    | stalled ending => rw [Body.endsAs, ending, ite_self]
    | lateEnd late => rw [if_pos late]
  · rintro rfl
    split
    · rename_i late
      exact .lateEnd late
    · rename_i inTime
      unfold Body.endsAs
      cases ending : b.ending with
      | complete => exact .whole (Nat.not_lt.mp inTime) ending
      | broken e => exact .broken (Nat.not_lt.mp inTime) ending
      | stalled => exact .stalled ending

theorem reads_cons : Reads limit b elapsed size (c :: cs) r ↔
    if limit.nanos < elapsed + c.after.nanos then r = .late
    else Reads limit b (elapsed + c.after.nanos) (size + c.size) cs r := by
  split
  · rename_i late
    refine ⟨fun h => ?_, fun h => h ▸ .lateChunk late⟩
    cases h with
    | chunk inTime _ => exact absurd late (Nat.not_lt.mpr inTime)
    | lateChunk _ => rfl
  · rename_i inTime
    refine ⟨fun h => ?_, .chunk (Nat.not_lt.mp inTime)⟩
    cases h with
    | chunk _ h => exact h
    | lateChunk late => exact absurd late inTime

/-- The reading only depends on when the body ends and how: no chunk is counted twice, and none is left out. -/
theorem reads_iff : Reads limit b elapsed size cs r ↔
    r = if limit.nanos < elapsed + totalNanos cs + b.after.nanos then .late else b.endsAs (size + totalSize cs) := by
  induction cs generalizing elapsed size with
  | nil => exact reads_nil
  | cons c cs ih =>
    rw [reads_cons, ih, totalNanos, totalSize, ← Nat.add_assoc, ← Nat.add_assoc]
    split
    · rename_i late
      rw [if_pos (by omega)]
    · exact Iff.rfl

/-- Chunk by chunk, a body is read as it is read at once. -/
theorem readsAs_iff : b.ReadsAs limit r ↔ b.read limit = r := by
  unfold Body.ReadsAs Body.read Body.nanos
  rw [reads_iff, Nat.zero_add, Nat.zero_add]
  exact eq_comm

theorem totalSize_eq_sum (cs : List Chunk) : totalSize cs = (cs.map (·.size)).sum := by
  induction cs with
  | nil => rfl
  | cons c cs ih => rw [totalSize, ih, List.map_cons, List.sum_cons]

theorem size_of_whole (h : b.ReadsAs limit (.whole n)) : n = (b.chunks.map (·.size)).sum := by
  rw [← totalSize_eq_sum]
  have h := reads_iff.mp h
  split at h
  · cases h
  · unfold Body.endsAs at h
    split at h
    · rw [Reading.whole.inj h, Nat.zero_add]
    · cases h
    · cases h

theorem ending_of_broken (h : b.ReadsAs limit (.broken e)) : b.ending = .broken e := by
  have h := reads_iff.mp h
  split at h
  · cases h
  · unfold Body.endsAs at h
    split at h
    · cases h
    · rename_i ending
      rw [ending, Reading.broken.inj h]
    · cases h

end Reading

/-! ### Outcomes -/

section Outcomes
variable {limit : Span} {status n : Nat} {e : Fault} {r : Reading}

theorem isServerError_iff : isServerError status = true ↔ 500 ≤ status ∧ status < 600 := by
  unfold isServerError
  rw [Bool.and_eq_true, decide_eq_true_iff, decide_eq_true_iff]

/-- A fault that is none of the builder's leaves three kinds, and the deadline counts before the other two. -/
theorem Fault.kind_of_sent (sent : e.stage ≠ .builder) :
    (e.kind = .timeout ∨ e.kind = .read ∨ e.kind = .connection) ∧ (e.kind = .timeout ↔ e.timedOut = true) := by
  unfold Fault.kind
  cases e.timedOut with
  | true => simp
  | false => cases h : e.stage <;> simp_all

/-- A body that is there keeps its size, whatever the status. -/
theorem responseOutcome_of_failing (failing : 500 ≤ status ∧ status < 600) :
    responseOutcome limit status (.whole n) =
      { status := some status, size := some n, kind := some .serverError, error := some (statusText status) } :=
  if_pos (isServerError_iff.mpr failing)

theorem responseOutcome_of_not_failing (h : ¬(500 ≤ status ∧ status < 600)) :
    responseOutcome limit status (.whole n) = .completed status n :=
  if_neg fun failing => h (isServerError_iff.mp failing)

/-- Of a body that breaks off, nothing is kept but the status. -/
theorem responseOutcome_of_broken (limit : Span) (status : Nat) (sent : e.stage ≠ .builder) :
    let o := responseOutcome limit status (.broken e)
    o.size = none ∧ o.kind = some e.kind ∧ o.verdict = .failure ∧ o.isSuccess = false := by
  refine ⟨rfl, rfl, ?_, rfl⟩
  obtain ⟨kind | kind | kind, -⟩ := Fault.kind_of_sent sent
  all_goals
    show (if e.kind.countsAgainstBreaker then Verdict.failure else .neutral) = _
    rw [kind]
    rfl

end Outcomes

end Exchange

/-! ### Responses -/

namespace Http
open Exchange

section Responses
variable {target : String} {u : Url} {after : Span} {status : Nat} {body : Body}

/-- What becomes of a response. However many chunks of whatever size there are, the body is read in exactly one way:
    it is there in time, it breaks off, or the deadline elapses. If it is there, its size is that of its chunks, and the
    outcome is a failure exactly if the status is that of a failing server. If it is not, the status is kept and no size,
    and the kind of the failure tells whether a deadline elapsed. So the endpoint is blamed for failing statuses and for
    bodies that were not there, and a fetch succeeds if the body was there with a status from 200 to 399. -/
theorem attempt_of_response (c : Config.Transport) (net : Network) (calls : List Call) (parsed : url? target = .ok u)
    (answered : exchange net calls u = .response after status body)
    (sent : ∀ e, body.ending = .broken e → e.stage ≠ .builder) :
    let o := attempt c net calls target
    let failing := 500 ≤ status ∧ status < 600
    let whole := ∃ n, body.ReadsAs (readLimit c) (.whole n)
    let late := body.ReadsAs (readLimit c) .late ∨ ∃ e, body.ReadsAs (readLimit c) (.broken e) ∧ e.timedOut = true
    (∃ r, ∀ r', body.ReadsAs (readLimit c) r' ↔ r' = r) ∧ o.status = some status ∧
    (whole → o.size = some (body.chunks.map (·.size)).sum ∧ (failing → o.kind = some .serverError) ∧
      (¬failing → o.kind = none ∧ o.error = none)) ∧
    (¬whole → o.size = none ∧ (o.kind = some .timeout ∨ o.kind = some .read ∨ o.kind = some .connection) ∧
      (o.kind = some .timeout ↔ late)) ∧
    (o.verdict = .failure ↔ failing ∨ ¬whole) ∧ (o.isSuccess = true ↔ whole ∧ 200 ≤ status ∧ status < 400) := by
  intro o failing whole late
  have ho : o = responseOutcome (readLimit c) status (body.read (readLimit c)) := by
    show attempt c net calls target = _
    unfold attempt
    rw [parsed]
    show (exchange net calls u).outcome _ = _
    rw [answered]
    rfl
  have once : ∀ r, body.ReadsAs (readLimit c) r ↔ r = body.read (readLimit c) := fun r => readsAs_iff.trans eq_comm
  refine ⟨⟨_, once⟩, ?_⟩
  -- How the body is read settles whether it is there, and all that is said of the other case is idle.
  cases hread : body.read (readLimit c) with
  | whole n =>
    rw [hread] at ho once
    have here : body.ReadsAs (readLimit c) (.whole n) := (once _).mpr rfl
    have hwhole : whole := ⟨n, here⟩
    by_cases hfailing : failing
    · rw [ho, responseOutcome_of_failing hfailing, size_of_whole here]
      refine ⟨rfl, fun _ => ⟨rfl, fun _ => rfl, fun h => absurd hfailing h⟩, fun h => absurd hwhole h, ?_, ?_⟩
      · exact iff_of_true rfl (.inl hfailing)
      · exact iff_of_false Bool.false_ne_true fun h => by omega
    · rw [ho, responseOutcome_of_not_failing hfailing, size_of_whole here]
      refine ⟨rfl, fun _ => ⟨rfl, fun h => absurd h hfailing, fun _ => ⟨rfl, rfl⟩⟩, fun h => absurd hwhole h, ?_, ?_⟩
      · exact iff_of_false nofun fun h => h.elim hfailing fun h => h hwhole
      · simp [Outcome.isSuccess, Outcome.completed, hwhole]
  | broken e =>
    rw [hread] at ho once
    have here : body.ReadsAs (readLimit c) (.broken e) := (once _).mpr rfl
    have hwhole : ¬whole := fun ⟨n, h⟩ => nomatch (once _).mp h
    have hlate : late ↔ e.timedOut = true := by
      constructor
      · rintro (h | ⟨e', h, timedOut⟩)
        · cases (once _).mp h
        · cases (once _).mp h
          exact timedOut
      · exact fun timedOut => .inr ⟨e, here, timedOut⟩
    obtain ⟨kinds, timeout⟩ := Fault.kind_of_sent (sent e (ending_of_broken here))
    obtain ⟨size, kind, verdict, success⟩ :=
      responseOutcome_of_broken (readLimit c) status (sent e (ending_of_broken here))
    rw [ho, hlate, size, kind, verdict, success]
    refine ⟨rfl, fun h => absurd h hwhole, fun _ => ⟨rfl, ?_, ?_⟩, ?_, ?_⟩
    · exact kinds.imp (congrArg some) (.imp (congrArg some) (congrArg some))
    · rw [Option.some_inj]
      exact timeout
    · exact iff_of_true rfl (.inr hwhole)
    · exact iff_of_false Bool.false_ne_true fun h => hwhole h.1
  | late =>
    rw [hread] at ho once
    have here : body.ReadsAs (readLimit c) .late := (once _).mpr rfl
    have hwhole : ¬whole := fun ⟨n, h⟩ => nomatch (once _).mp h
    rw [ho]
    refine ⟨rfl, fun h => absurd h hwhole, fun _ => ⟨rfl, .inl rfl, iff_of_true rfl (.inl here)⟩, ?_, ?_⟩
    · exact iff_of_true rfl (.inr hwhole)
    · exact iff_of_false Bool.false_ne_true fun h => hwhole h.1

end Responses

/-- A network in which every request gets a response with three chunks, one of them empty. -/
def answering (status : Nat) (ending : BodyEnd) : Network := fun _ _ =>
  .response (Span.ofMillis 1) status
    { chunks := [{ size := 3 }, { after := Span.ofMillis 2, size := 0 }, { size := 4 }], ending }

/-- The URL of this machine. -/
def loopbackUrl : Url := { scheme := "http".toList, host := some (.ipv6 [0, 0, 0, 0, 0, 0, 0, 1]), path := ['/'] }

theorem url?_loopback : url? "http://[::1]/" = .ok loopbackUrl := by decide +kernel

theorem exchange_loopback (net : Network) (calls : List Call) :
    exchange net calls loopbackUrl = net calls loopbackUrl := by
  have : requestUrl loopbackUrl = loopbackUrl := by decide +kernel
  unfold exchange
  rw [this]
  exact if_pos (by decide +kernel)

theorem attempt_of_response_unavailable :
    let o := attempt {} (answering 503 .complete) [] "http://[::1]/"
    o.kind = some .serverError ∧ o.size = some 7 ∧ o.verdict = .failure := by
  obtain ⟨-, -, whole, -, verdict, -⟩ := attempt_of_response {} (answering 503 .complete) []
    url?_loopback (exchange_loopback _ _) (by nofun)
  obtain ⟨size, failing, -⟩ := whole ⟨7, readsAs_iff.mpr (by decide +kernel)⟩
  exact ⟨failing (by decide), size, verdict.mpr (.inl (by decide))⟩

/-- Statuses from 600 on are above those of a failing server, and are taken for no failure. -/
theorem no_failure_of_high_status :
    let o := attempt {} (answering 600 .complete) [] "http://[::1]/"
    o.status = some 600 ∧ o.size = some 7 ∧ o.kind = none ∧ o.error = none ∧ o.verdict = .success := by
  have ho : attempt {} (answering 600 .complete) [] "http://[::1]/" = .completed 600 7 := by
    unfold attempt
    rw [url?_loopback]
    decide +kernel
  rw [ho]
  exact ⟨rfl, rfl, rfl, rfl, rfl⟩

end Http

end BatchFetch
