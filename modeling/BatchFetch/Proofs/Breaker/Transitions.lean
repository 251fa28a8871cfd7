import BatchFetch.Breaker.Session
import BatchFetch.Proofs.Breaker.Invariant
import BatchFetch.Proofs.Metrics
import Mathlib.Data.List.Chain
import Mathlib.Data.List.Count

/-! # The path of a breaker through its states

Every change of state is counted, and so is every refusal. Whoever asks and whatever permit comes back, at any time and
out of any window, the changes that were counted lead along the edges of an automaton from the closed state to the one
that the breaker is in. So the counters stay in balance, and they tell how many trials an open breaker let through and how
many callers were refused. -/

namespace BatchFetch

/-- The state that a breaker is said to have entered. -/
def Metric.entered? : Metric → Option CircuitState
  | .breaker (.moved next) => some next
  | _ => none

namespace Breaker

/-- How often the metrics say that a state was entered. -/
def entries (ms : List Metric) (next : CircuitState) : Nat :=
  Metric.value ms ⟨"circuit_breaker_transitions_total", some ("to", next.name)⟩

/-- How many refusals the metrics speak of. -/
def refusals (ms : List Metric) : Nat := Metric.value ms ⟨"circuit_breaker_rejections_total", none⟩

section Readings
variable {ms : List Metric} {next : CircuitState}

theorem entries_eq : entries ms next = (ms.filterMap Metric.entered?).count next := by
  unfold entries
  rw [Metric.value_eq, List.count_filterMap]
  refine List.countP_congr fun m _ => ?_
  cases m with
  | attempt | result | tokenWait => simp [Metric.counter?, Metric.entered?]
  | breaker note =>
    cases note with
    | refused => simp [Metric.counter?, Metric.entered?]
    | moved to' => cases to' <;> cases next <;> simp [Metric.counter?, Metric.entered?, CircuitState.name]

theorem refusals_eq : refusals ms = ms.count (.breaker .refused) := by
  unfold refusals
  rw [Metric.value_eq, List.count_eq_countP]
  refine List.countP_congr fun m _ => ?_
  cases m with
  | attempt | result | tokenWait => simp [Metric.counter?]
  | breaker note => cases note <;> simp [Metric.counter?]

end Readings

/-! ### Records -/

/-- What is done to a breaker: a caller asks for admission, or a permit comes back. A permit that is dropped comes back
    with a neutral verdict. -/
inductive Access where
  | ask (now : Nat)
  | report (now : Nat) (p : Permit) (v : Verdict)
deriving DecidableEq, Repr

/-- A breaker, what was counted, and for every caller who asked the state of the breaker before and the answer. -/
structure Record where
  breaker : Breaker := {}
  metrics : List Metric := []
  asked : List (CircuitState × Admission) := []
deriving DecidableEq, Repr

namespace Record

/-- The states that were entered, in order. -/
def entered (r : Record) : List CircuitState := r.metrics.filterMap Metric.entered?

/-- The record after the breaker took a turn. -/
def after {α : Type} (r : Record) (t : Turn α) : Record :=
  { r with breaker := t.breaker, metrics := r.metrics ++ t.notes.map .breaker }

def step (c : Settings) (r : Record) : Access → Record
  | .ask now =>
    { r.after (r.breaker.ask c now) with asked := r.asked ++ [(r.breaker.state, (r.breaker.ask c now).answer)] }
  | .report now p v => r.after (r.breaker.report c now p v)

/-- The record of a new breaker to which one thing after another is done. -/
def run (c : Settings) (as : List Access) : Record := as.foldl (step c) {}

end Record

/-- A caller found the breaker open and was let through for a trial. -/
def isProbe : CircuitState × Admission → Bool
  | (.opened, .granted p) => p.trial
  | _ => false

def isRefusal : CircuitState × Admission → Bool
  | (_, .refused _) => true
  | _ => false

theorem isProbe_iff {s : CircuitState} {a : Admission} :
    isProbe (s, a) = true ↔ s = .opened ∧ ∃ p, a = .granted p ∧ p.trial = true := by
  cases s <;> cases a <;> simp [isProbe]

/-! ### The automaton -/

/-- The changes of state that a breaker can make. -/
inductive Passes : CircuitState → CircuitState → Prop where
  | trip : Passes .closed .opened
  | probe : Passes .opened .halfOpen
  | recover : Passes .halfOpen .closed
  | relapse : Passes .halfOpen .opened
  /-- A call that was let through before the breaker opened ends well. -/
  | late : Passes .opened .closed

theorem Passes.ne {s t : CircuitState} (h : Passes s t) : s ≠ t := by cases h <;> exact nofun

theorem not_passes_halfOpen : ¬Passes .closed .halfOpen := nofun

section Turns
variable {α : Type} {c : Settings} {b : Breaker} {now : Nat} {p : Permit} {v : Verdict}

/-- The changes of state that a turn counts. -/
def Turn.entered (t : Turn α) : List CircuitState := (t.notes.map Metric.breaker).filterMap Metric.entered?

/-- In a turn a breaker keeps its state and counts no change, or it counts the one that it makes. -/
def Turn.Leads (b : Breaker) (t : Turn α) : Prop :=
  t.entered = [] ∧ t.breaker.state = b.state ∨
    ∃ next, Passes b.state next ∧ t.entered = [next] ∧ t.breaker.state = next

/-- What an answer counts: an open breaker becomes half-open where it lets a caller through for a trial, and no other answer
    changes the state. -/
theorem ask_cases (b : Breaker) (c : Settings) (now : Nat) :
    (b.ask c now).entered = [] ∧ (b.ask c now).breaker.state = b.state ∧ isProbe (b.state, (b.ask c now).answer) = false ∨
      b.state = .opened ∧ (b.ask c now).entered = [.halfOpen] ∧ (b.ask c now).breaker.state = .halfOpen ∧
        isProbe (b.state, (b.ask c now).answer) = true := by
  cases hs : b.state with
  | closed =>
    rw [ask_closed hs]
    exact .inl ⟨rfl, hs, rfl⟩
  | opened =>
    cases hc : b.cooled c now with
    | false =>
      rw [ask_opened hs hc]
      exact .inl ⟨rfl, hs, rfl⟩
    | true =>
      rw [ask_cooled hs hc]
      exact .inr ⟨rfl, rfl, rfl, rfl⟩
  | halfOpen =>
    cases ht : b.trialRunning with
    | true =>
      rw [ask_taken hs ht]
      exact .inl ⟨rfl, hs, rfl⟩
    | false =>
      rw [ask_free hs ht]
      exact .inl ⟨rfl, hs, rfl⟩

theorem leads_ask : (b.ask c now).Leads b := by
  rcases ask_cases b c now with ⟨none, same, -⟩ | ⟨hs, one, state, -⟩
  · exact .inl ⟨none, same⟩
  · exact .inr ⟨.halfOpen, hs ▸ .probe, one, state⟩

/-- What a verdict counts: a success closes a breaker that is not closed, and a failure opens one that is not open. -/
theorem report_cases (b : Breaker) (c : Settings) (now : Nat) (p : Permit) (v : Verdict) :
    (b.report c now p v).entered = [] ∧ (b.report c now p v).breaker.state = b.state ∨
      b.state ≠ .closed ∧ (b.report c now p v).entered = [.closed] ∧ (b.report c now p v).breaker.state = .closed ∨
      b.state ≠ .opened ∧ (b.report c now p v).entered = [.opened] ∧ (b.report c now p v).breaker.state = .opened := by
  unfold report
  cases v with
  | neutral => exact .inl ⟨rfl, state_freeTrial⟩
  | success =>
    simp only [state_freeTrial]
    split
    · exact .inl ⟨rfl, rfl⟩
    · rename_i hs
      exact .inr (.inl ⟨hs, rfl, rfl⟩)
  | failure =>
    simp only [state_freeTrial]
    split
    · rename_i hs
      refine .inr (.inr ⟨?_, rfl, rfl⟩)
      rcases hs with hs | ⟨hs, -⟩ <;> rw [hs] <;> exact nofun
    · exact .inl ⟨rfl, rfl⟩

theorem leads_report : (b.report c now p v).Leads b := by
  rcases report_cases b c now p v with kept | ⟨hs, moved⟩ | ⟨hs, moved⟩
  · exact .inl kept
  · refine .inr ⟨.closed, ?_, moved⟩
    cases h : b.state with
    | closed => exact absurd h hs
    | opened => exact .late
    | halfOpen => exact .recover
  · refine .inr ⟨.opened, ?_, moved⟩
    cases h : b.state with
    | closed => exact .trip
    | opened => exact absurd h hs
    | halfOpen => exact .relapse

/-- The half-open state is entered once for each trial that an open breaker lets through. -/
theorem probes_ask : (b.ask c now).entered.count .halfOpen = [(b.state, (b.ask c now).answer)].countP isProbe := by
  rw [List.countP_singleton]
  rcases ask_cases b c now with ⟨none, -, probe⟩ | ⟨-, one, -, probe⟩
  · rw [none, probe]
    rfl
  · rw [one, probe]
    rfl

theorem probes_report : (b.report c now p v).entered.count .halfOpen = 0 := by
  rcases report_cases b c now p v with ⟨h, -⟩ | ⟨-, h, -⟩ | ⟨-, h, -⟩ <;> rw [h] <;> rfl

theorem refusals_ask : (b.ask c now).notes.count .refused = [(b.state, (b.ask c now).answer)].countP isRefusal := by
  cases h : (b.ask c now).answer with
  | granted p => exact notes_of_granted h
  | refused d => exact notes_of_refused h

end Turns

/-! ### Paths -/

/-- A path of changes leads from the closed state to a state. How often each state was entered on it is in balance: the
    breaker was opened before it was closed or half-open again, and all but the first time it was opened after one of
    these. -/
structure LeadsTo (path : List CircuitState) (s : CircuitState) : Prop where
  edges : (.closed :: path).IsChain Passes
  last : (.closed :: path).getLast? = some s
  closings : path.count .closed + (if s = .closed then 0 else 1) ≤ path.count .opened
  probes : path.count .halfOpen + (if s = .opened then 1 else 0) ≤ path.count .opened
  openings : path.count .opened ≤ path.count .closed + path.count .halfOpen + (if s = .opened then 1 else 0)

theorem leadsTo_nil : LeadsTo [] .closed := ⟨.singleton _, rfl, by decide, by decide, by decide⟩

theorem LeadsTo.concat {path : List CircuitState} {s next : CircuitState} (h : LeadsTo path s) (passes : Passes s next) :
    LeadsTo (path ++ [next]) next := by
  have hcount : ∀ t, (path ++ [next]).count t = path.count t + if next = t then 1 else 0 := fun t => by
    rw [List.count_append, List.count_singleton]
    simp only [beq_iff_eq]
  obtain ⟨edges, last, closings, probes, openings⟩ := h
  refine ⟨?_, ?_, ?_, ?_, ?_⟩
  · rw [← List.cons_append, List.isChain_append]
    refine ⟨edges, .singleton _, fun x hx y hy => ?_⟩
    rw [last, Option.mem_some_iff] at hx
    rw [List.head?_singleton, Option.mem_some_iff] at hy
    rwa [← hx, ← hy]
  · rw [← List.cons_append, List.getLast?_concat]
  all_goals
    simp only [hcount]
    cases passes <;> simp at closings probes openings ⊢ <;> omega

/-! ### Every run -/

namespace Record
variable {c : Settings} {r : Record}

@[simp] theorem entered_after {α : Type} {t : Turn α} : (r.after t).entered = r.entered ++ t.entered := List.filterMap_append

/-- What the metrics of a breaker tell about it. -/
structure Tells (r : Record) : Prop where
  path : LeadsTo r.entered r.breaker.state
  probes : r.entered.count .halfOpen = r.asked.countP isProbe
  refusals : r.metrics.count (.breaker .refused) = r.asked.countP isRefusal

theorem path_after {α : Type} {t : Turn α} (h : LeadsTo r.entered r.breaker.state) (leads : t.Leads r.breaker) :
    LeadsTo (r.after t).entered (r.after t).breaker.state := by
  rw [entered_after]
  rcases leads with ⟨none, same⟩ | ⟨next, passes, one, rfl⟩
  · rw [none, List.append_nil]
    exact same ▸ h
  · rw [one]
    exact h.concat passes

theorem count_refused_after {α : Type} {t : Turn α} :
    (r.after t).metrics.count (.breaker .refused) = r.metrics.count (.breaker .refused) + t.notes.count .refused := by
  show (r.metrics ++ t.notes.map Metric.breaker).count _ = _
  rw [List.count_append, List.count_map_of_injective _ _ fun _ _ => Metric.breaker.inj]

theorem tells_start : Tells {} := ⟨leadsTo_nil, rfl, rfl⟩

theorem Tells.step (h : Tells r) (a : Access) : Tells (r.step c a) := by
  cases a with
  | ask now =>
    refine ⟨path_after h.path leads_ask, ?_, ?_⟩
    · show (r.after (r.breaker.ask c now)).entered.count _ = (r.asked ++ [_]).countP _
      rw [entered_after, List.count_append, List.countP_append, h.probes, probes_ask]
    · show (r.after (r.breaker.ask c now)).metrics.count _ = (r.asked ++ [_]).countP _
      rw [count_refused_after, List.countP_append, h.refusals, refusals_ask]
  | report now p v =>
    refine ⟨path_after h.path leads_report, ?_, ?_⟩
    · show (r.after (r.breaker.report c now p v)).entered.count _ = r.asked.countP _
      rw [entered_after, List.count_append, h.probes, probes_report, Nat.add_zero]
    · show (r.after (r.breaker.report c now p v)).metrics.count _ = r.asked.countP _
      rw [count_refused_after, h.refusals, notes_report, Nat.add_zero]

theorem tells_run (as : List Access) : Tells (run c as) := by
  suffices every : ∀ r, Tells r → Tells (as.foldl (step c) r) from every {} tells_start
  induction as with
  | nil => exact fun r h => h
  | cons a as ih => exact fun r h => ih _ (h.step a)

end Record

/-- What can be read off the metrics of a breaker, whoever asked it for admission and whatever permits came back, at any
    time. The states that it entered, in order, are a path of the automaton from the closed state to the present one, so
    no state was entered from itself and the half-open one never from the closed one. The half-open state is entered
    exactly when an open breaker lets a caller through for a trial. The counters are in balance after everything that
    happens, and the refusals are those that callers heard. -/
theorem metrics_of_run (c : Settings) (as : List Access) :
    let r := Record.run c as
    let count := entries r.metrics
    ((.closed :: r.entered).IsChain Passes ∧ (.closed :: r.entered).getLast? = some r.breaker.state) ∧
      ((∀ s, ¬[s, s] <:+: .closed :: r.entered) ∧ ¬[.closed, .halfOpen] <:+: .closed :: r.entered) ∧
      ((∀ now, .halfOpen ∈ (r.breaker.ask c now).entered ↔
          r.breaker.state = .opened ∧ ∃ p, (r.breaker.ask c now).answer = .granted p ∧ p.trial = true) ∧
        (∀ now p v, .halfOpen ∉ (r.breaker.report c now p v).entered) ∧ count .halfOpen = r.asked.countP isProbe) ∧
      ((∀ s, count s = r.entered.count s) ∧ count .closed ≤ count .opened ∧ count .halfOpen ≤ count .opened ∧
        count .opened ≤ count .closed + count .halfOpen + 1) ∧
      refusals r.metrics = r.asked.countP isRefusal := by
  intro r count
  obtain ⟨⟨edges, last, closings, probes, openings⟩, hprobes, hrefusals⟩ := Record.tells_run (c := c) as
  have hcount : ∀ s, count s = r.entered.count s := fun s => entries_eq
  have adjacent : ∀ s t, [s, t] <:+: .closed :: r.entered → Passes s t := fun s t hin =>
    List.isChain_pair.mp <| List.IsChain.infix edges hin
  refine ⟨⟨edges, last⟩, ⟨fun s hin => (adjacent s s hin).ne rfl, fun hin => not_passes_halfOpen (adjacent _ _ hin)⟩,
    ⟨fun now => ?_, fun now p v => ?_, (hcount _).trans hprobes⟩, ⟨hcount, ?_, ?_, ?_⟩, refusals_eq.trans hrefusals⟩
  · rw [← List.count_pos_iff, probes_ask, List.countP_singleton, ← isProbe_iff]
    split <;> simp [*]
  · exact List.count_eq_zero.mp probes_report
  · rw [hcount, hcount]
    exact Nat.le_of_add_right_le closings
  · rw [hcount, hcount]
    exact Nat.le_of_add_right_le probes
  · rw [hcount, hcount, hcount]
    refine openings.trans (Nat.add_le_add_left ?_ _)
    split <;> decide

/-- A trial fails and one succeeds, and a call from before the next failure ends well after it. -/
example : (Record.run (.make 1 (.ofMillis 1000))
      [.ask 0, .report 0 ⟨0, false⟩ .failure, .ask 1000000000, .report 1000000000 ⟨2, true⟩ .failure, .ask 1500000000,
        .ask 2000000000, .report 2000000000 ⟨4, true⟩ .success, .report 2000000001 ⟨5, false⟩ .failure,
        .report 2000000002 ⟨5, false⟩ .success]).entered =
    [.opened, .halfOpen, .opened, .halfOpen, .closed, .opened, .closed] := by
  decide +kernel

/-! ### Sessions -/

/-- The answer of a caller who asked for admission. -/
def Use.Answer.admission? : Use.Answer → Option Admission
  | .admission answer => some answer
  | _ => none

/-- What callers hear in a session who ask for admission. -/
def Session.admissions (c : Settings) : Session → List Use → List Admission
  | _, [] => []
  | s, u :: us => (s.step c u).1.admission?.toList ++ (s.step c u).2.admissions c us

/-- A record is that of a session in which callers have heard some answers so far. -/
structure Record.IsOf (r : Record) (s : Session) (heard : List Admission) : Prop where
  breaker : r.breaker = s.breaker
  metrics : r.metrics = s.metrics
  heard : r.asked.map (·.2) = heard

namespace Record.IsOf
variable {c : Settings} {r : Record} {s : Session} {heard : List Admission}

theorem ask (h : r.IsOf s heard) :
    (r.step c (.ask s.now)).IsOf (s.after (s.breaker.ask c s.now)) (heard ++ [(s.breaker.ask c s.now).answer]) := by
  obtain ⟨hbreaker, hmetrics, hheard⟩ := h
  rw [← hbreaker]
  refine ⟨rfl, congrArg (· ++ _) hmetrics, ?_⟩
  rw [← hheard]
  exact List.map_append

theorem report (h : r.IsOf s heard) (p : Permit) (v : Verdict) :
    (r.step c (.report s.now p v)).IsOf (s.report c p v) heard := by
  obtain ⟨hbreaker, hmetrics, hheard⟩ := h
  unfold Session.report
  rw [← hbreaker]
  exact ⟨rfl, congrArg (· ++ _) hmetrics, hheard⟩

theorem release (h : r.IsOf s heard) (id : String) (v : Verdict) :
    ∃ as : List Access, (as.foldl (Record.step c) r).IsOf (s.release c id v).2 heard := by
  unfold Session.release
  split
  · rename_i p _
    obtain ⟨hbreaker, hmetrics, hheard⟩ := h.report (c := c) p v
    exact ⟨[.report s.now p v], hbreaker, hmetrics, hheard⟩
  · exact ⟨[], h⟩

theorem hold (h : r.IsOf s heard) (id : String) (p : Permit) :
    ∃ as : List Access, (as.foldl (Record.step c) r).IsOf (s.hold c id p) heard := by
  obtain ⟨as, hbreaker, hmetrics, hheard⟩ := h.release (c := c) id .neutral
  exact ⟨as, hbreaker, hmetrics, hheard⟩

/-- A use of a breaker is a few accesses to it. -/
theorem step (h : r.IsOf s heard) (u : Use) :
    ∃ as : List Access, (as.foldl (Record.step c) r).IsOf (s.step c u).2 (heard ++ (s.step c u).1.admission?.toList) := by
  cases u with
  | advance d =>
    have silent : (s.step c (.advance d)).1.admission?.toList = [] := rfl
    rw [silent, List.append_nil]
    exact ⟨[], h.breaker, h.metrics, h.heard⟩
  | complete id v | drop id =>
    have silent : ∀ v, (s.release c id v).1.admission? = none := fun v => by
      unfold Session.release
      split <;> rfl
    unfold Session.step
    rw [silent, Option.toList_none, List.append_nil]
    exact h.release id _
  | call id =>
    have asked := h.ask (c := c)
    unfold Session.step
    dsimp only
    split
    · rename_i p _
      obtain ⟨as, h'⟩ := asked.hold (c := c) id p
      exact ⟨.ask s.now :: as, h'⟩
    · exact ⟨[.ask s.now], asked⟩
  | guarded v =>
    have asked := h.ask (c := c)
    unfold Session.step
    dsimp only
    split
    · rename_i p _
      exact ⟨[.ask s.now, .report s.now p v], asked.report p v⟩
    · exact ⟨[.ask s.now], asked⟩

end Record.IsOf

/-- The metrics of every session of a new breaker are those of a run, with the answers that its callers heard. -/
theorem run_of_uses (c : Settings) (now : Nat) (us : List Use) :
    ∃ as, (Record.run c as).IsOf (us.foldl (fun s u => (s.step c u).2) { now }) (Session.admissions c { now } us) := by
  suffices every : ∀ (us : List Use) (r : Record) (s : Session) (heard : List Admission), r.IsOf s heard →
      ∃ as : List Access, (as.foldl (Record.step c) r).IsOf (us.foldl (fun s u => (s.step c u).2) s)
        (heard ++ s.admissions c us) from every us {} { now } [] ⟨rfl, rfl, rfl⟩
  intro us
  induction us with
  | nil => exact fun r s heard h => ⟨[], by rwa [Session.admissions, List.append_nil]⟩
  | cons u us ih =>
    intro r s heard h
    obtain ⟨as, h'⟩ := h.step (c := c) u
    obtain ⟨as', h''⟩ := ih _ _ _ h'
    refine ⟨as ++ as', ?_⟩
    rw [List.foldl_append, Session.admissions, ← List.append_assoc]
    exact h''

end Breaker

end BatchFetch
