import BatchFetch.Proofs.Dispatch.Endpoint
import BatchFetch.Proofs.Dispatch.Results

/-! # What a worker leaves alone

A move of a worker touches the breaker of its own endpoint and no other one, and the call that it may begin is one of
its own target. So the calls of some targets, and the breaker of a key, are the affair of those workers alone. And if
there is no gate, a worker that queues anew does not change the order of the others. -/

namespace BatchFetch

/-- A transport that replies to a call by how many calls of the same target came before. -/
def Transport.ofReplies (reply : String → Nat → Reply) : Transport :=
  fun calls target => reply target (calls.countP (·.target == target))

theorem Script.transport_eq (s : Script) : s.transport = .ofReplies s.reply := rfl

namespace Batch

/-- Two outcomes are the same, or those of two workers that broke off with the same message. -/
inductive Alike (i j : Nat) : Outcome → Outcome → Prop where
  | same (o : Outcome) : Alike i j o o
  | brokeOff (message : String) :
      Alike i j (.failed .internal (brokeOffMessage i message)) (.failed .internal (brokeOffMessage j message))

/-- The calls so far of the targets of some kind. -/
def State.callsOf (q : String → Bool) (s : State) : List Call := s.calls.filter fun call => q call.target

section Calls
variable {b : Batch} {s t : State} {i : Nat} {es : List Event} {q : String → Bool} {key : String}

theorem calls_append (hlog : t.log = s.log ++ es) : t.calls = s.calls ++ es.filterMap Event.call? := by
  unfold State.calls
  rw [hlog, List.filterMap_append]

theorem call?_noted {α : Type} {turn : Breaker.Turn α} : (b.noted i turn).filterMap Event.call? = [] := by
  refine List.filterMap_eq_nil_iff.mpr fun e he => ?_
  obtain ⟨note, -, rfl⟩ := List.mem_map.mp he
  rfl

theorem Starts.call? {retries : UInt32} {bucket : Bucket} (h : Starts b i s retries bucket es) :
    es.filterMap Event.call? = [] := by
  cases h <;> rfl

/-- An attempt begins no call but the one that is logged with it. -/
theorem calls_attempted {retries : UInt32} {bucket : Bucket} {α : Type} {turn : Breaker.Turn α} {e : Event}
    (starts : Starts b i s retries bucket es) (hlog : t.log = s.log ++ (es ++ b.noted i turn ++ [e])) :
    t.calls = s.calls ++ e.call?.toList := by
  rw [calls_append hlog, List.filterMap_append, List.filterMap_append, starts.call?, call?_noted]
  cases h : e.call? <;> simp [h]

theorem calls_ended {α : Type} {turn : Breaker.Turn α} {e : Event} (he : e.call? = none)
    (hlog : t.log = s.log ++ ([e] ++ b.noted i turn)) : t.calls = s.calls := by
  rw [calls_append hlog, List.filterMap_append, call?_noted, List.filterMap_cons_none he]
  simp

theorem Moved.calls (m : Moved b i s t) : t.calls = s.calls ∨ t.calls = s.calls ++ [⟨s.now, b.target i⟩] := by
  cases m with
  | queued _ _ eq | passed _ _ eq | waits _ _ _ _ _ _ _ eq | cancelled _ _ _ eq =>
    exact .inl (congrArg (List.filterMap Event.call?) (agrees_of_unqueued eq).log)
  | called _ _ _ _ starts _ _ eq => exact .inr (calls_attempted starts (agrees_of_unqueued eq).log)
  | refused _ _ _ _ starts _ _ eq =>
    refine .inl ((calls_attempted starts (agrees_of_unqueued eq).log).trans ?_)
    exact List.append_nil _
  | failed _ _ _ _ _ _ _ _ eq | ended _ _ _ _ _ _ _ _ eq | brokeOff _ _ _ _ _ _ _ _ eq =>
    exact .inl (calls_ended rfl (agrees_of_unqueued eq).log)

theorem callsOf_congr (h : t.calls = s.calls) : t.callsOf q = s.callsOf q := by
  unfold State.callsOf
  rw [h]

theorem callsOf_concat {call : Call} (h : t.calls = s.calls ++ [call]) :
    t.callsOf q = s.callsOf q ++ if q call.target then [call] else [] := by
  unfold State.callsOf
  rw [h, List.filter_append]
  cases hq : q call.target <;> simp [hq]

theorem Moved.callsOf_of_ne (m : Moved b i s t) (hq : q (b.target i) = false) : t.callsOf q = s.callsOf q := by
  rcases m.calls with h | h
  · exact callsOf_congr h
  · rw [callsOf_concat h, if_neg (by simp [hq]), List.append_nil]

theorem calls_collect {e : Exit} : (b.collect i e s).calls = s.calls := by
  have hlog : (b.collect i e s).log = s.log ++ [.finished i (b.resultOf i s e)] := rfl
  exact (calls_append hlog).trans (List.append_nil _)

theorem Moved.get_of_ne (m : Moved b i s t) (hkey : b.key i ≠ key) : t.registry.get key = s.registry.get key := by
  have get_put : ∀ br, (s.registry.put (b.key i) br).get key = s.registry.get key := fun br => by
    rw [Registry.get_put, if_neg (Ne.symm hkey)]
  cases m with
  | queued _ _ eq | passed _ _ eq | waits _ _ _ _ _ _ _ eq | cancelled _ _ _ eq =>
    exact congrArg (·.get key) (agrees_of_unqueued eq).registry
  | called _ _ _ _ _ _ _ eq | refused _ _ _ _ _ _ _ eq | failed _ _ _ _ _ _ _ _ eq | ended _ _ _ _ _ _ _ _ eq
  | brokeOff _ _ _ _ _ _ _ _ eq =>
    rw [(agrees_of_unqueued eq).registry]
    exact get_put _

/-- The reply to a worker depends on the calls of its own target only. -/
theorem replyNow_ofReplies {reply : String → Nat → Reply} (scripted : b.transport = .ofReplies reply) :
    b.replyNow i s =
      reply (b.target i) (b.earlier.countP (·.target == b.target i) + (s.callsOf (· == b.target i)).length) := by
  unfold replyNow State.callsOf
  rw [scripted, Transport.ofReplies, List.countP_append, ← List.countP_eq_length_filter]

/-- A worker gets no result from a move of another one. -/
theorem Moved.hasResult_of_ne (m : Moved b i s t) {j : Nat} (hij : i ≠ j) {r : FetchResult} (hr : HasResult b t j r) :
    HasResult b s j r := (m.hasResult_or hr).resolve_right fun h => hij h.1.symm

/-- Nor does it get one while the clock goes on. -/
theorem hasResult_of_advance {later : Nat} (collected : s.exits = []) {r : FetchResult}
    (hr : HasResult b (s.advance later) i r) : HasResult b s i r := by
  refine hr.imp_right fun ⟨e, he, _⟩ => absurd he ?_
  show (i, e) ∉ s.exits
  simp [collected]

end Calls

/-! ### Equations of an attempt -/

section Attempt
variable {b : Batch} {s : State} {i : Nat} {retries : UInt32}

/-- The state in which an attempt has asked the breaker. -/
def askedIn (b : Batch) (i : Nat) (s : State) : State :=
  s.noteBreaker (b.key i) (b.asked i s) (s.registry.put (b.key i) (b.asked i s).breaker)

theorem attempt_of_refused {d : Span} (refusal : (b.asked i s).answer = .refused d) :
    b.attempt i retries s =
      b.conclude i retries (.refused ⟨b.key i, d⟩) ((b.askedIn i s).note [.refused i s.now ⟨b.key i, d⟩]) := by
  unfold attempt askedIn asked at *
  simp only [Registry.ask, refusal]
  rfl

theorem attempt_of_granted {permit : Permit} (granted : (b.asked i s).answer = .granted permit) :
    b.attempt i retries s =
      ((b.askedIn i s).note [.called i ⟨s.now, b.target i⟩ (b.key i) permit.trial]).sleep i
        (.calling retries permit (Clock.due s.now (b.replyNow i s).after) (b.replyNow i s))
        (Clock.due s.now (b.replyNow i s).after) := by
  unfold attempt askedIn asked at *
  simp only [Registry.ask, granted, calls_note_noted]
  rfl

theorem tell_eq {p : Permit} {v : Verdict} :
    b.tell i p v s = s.noteBreaker (b.key i) (b.told i p v s) (s.registry.put (b.key i) (b.told i p v s).breaker) := rfl

end Attempt

/-! ### The line -/

theorem filter_erase_of_false {α : Type} [BEq α] [LawfulBEq α] {q : α → Bool} {a : α} {l : List α} (hq : q a = false) :
    (l.erase a).filter q = l.filter q := by
  rw [← List.erase_filter]
  exact List.erase_of_not_mem fun hmem => by simp [hq] at hmem

section Line
variable {b : Batch} {s : State} {i : Nat} {q : Nat → Bool} (hq : q i = false)
include hq

theorem filter_line_toEnd : (s.toEnd i).line.filter q = s.line.filter q := by
  show (s.line.erase i ++ [i]).filter q = _
  rw [List.filter_append, filter_erase_of_false hq]
  simp [hq]

theorem filter_line_sleep {p : Phase} {wake : Nat} : (s.sleep i p wake).line.filter q = s.line.filter q := by
  unfold State.sleep
  split
  · exact filter_line_toEnd (s := s.enter i p) hq
  · rfl

variable (ungated : b.permits = none)
include ungated

theorem filter_line_exit {e : Exit} : (b.exit i e s).line.filter q = s.line.filter q := by
  rw [exit_of_outside (by simp [ungated])]
  exact filter_erase_of_false hq

theorem filter_line_conclude {retries : UInt32} {o : Outcome} :
    (b.conclude i retries o s).line.filter q = s.line.filter q := by
  unfold conclude
  dsimp only
  split
  · exact filter_line_sleep hq
  · exact filter_line_exit hq ungated

theorem filter_line_attempt {retries : UInt32} : (b.attempt i retries s).line.filter q = s.line.filter q := by
  cases hanswer : (b.asked i s).answer with
  | refused d =>
    rw [attempt_of_refused hanswer, filter_line_conclude hq ungated]
    rfl
  | granted permit =>
    rw [attempt_of_granted hanswer, filter_line_sleep hq]
    rfl

theorem filter_line_look {since : Nat} : (b.look i since s).line.filter q = s.line.filter q := by
  unfold look
  split
  · exact (filter_line_attempt hq ungated).trans rfl
  · exact (filter_line_sleep hq).trans rfl

/-- A batch without a gate keeps the order of the other workers. -/
theorem filter_line_move : (b.move i s).line.filter q = s.line.filter q := by
  unfold move
  split
  · split
    · exact filter_line_exit hq ungated
    · rw [if_pos (by simp [ungated])]
      rfl
  · split
    · exact filter_line_exit hq ungated
    · rfl
  · split
    · exact filter_line_exit hq ungated
    · exact filter_line_look hq ungated
  · split
    · exact (filter_line_conclude hq ungated).trans rfl
    · split
      · exact (filter_line_conclude hq ungated).trans rfl
      · exact (filter_line_exit hq ungated).trans rfl
      · rfl
  · split
    · exact filter_line_exit hq ungated
    · exact filter_line_attempt hq ungated
  · rfl

end Line

end Batch

end BatchFetch
