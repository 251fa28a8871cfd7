import BatchFetch.Breaker.Basic
import Mathlib.Data.List.DropRight
import Mathlib.Logic.Function.Basic

/-! # The history of a breaker

Callers ask a breaker for admission, hold the permits they are given, and give them back with a verdict;
a permit that is dropped goes back as a neutral one. What happened is a list of events, the latest last.
This file holds what such a list says by itself, without a look at the breaker: how many failures there
were since the latest success, when the latest failure was, and which trial is still running. -/

namespace BatchFetch

/-! ### Since an event -/

/-- `x` is in the list, and everything after it satisfies `Q`. -/
def Since {α : Type} (x : α) (Q : α → Prop) (l : List α) : Prop :=
  ∃ l₁ l₂, l = l₁ ++ x :: l₂ ∧ ∀ y ∈ l₂, Q y

theorem not_since_nil {α : Type} {x : α} {Q : α → Prop} : ¬Since x Q [] := by
  rintro ⟨l₁, l₂, h, -⟩
  simp at h

theorem since_concat {α : Type} {x y : α} {Q : α → Prop} {l : List α} :
    Since x Q (l ++ [y]) ↔ y = x ∨ Since x Q l ∧ Q y := by
  constructor
  · rintro ⟨l₁, l₂, h, hQ⟩
    rcases List.eq_nil_or_concat l₂ with rfl | ⟨l₃, z, rfl⟩
    · exact Or.inl (List.head_eq_of_cons_eq (List.append_inj' h rfl).2)
    · rw [List.concat_eq_append] at h hQ
      obtain ⟨rfl, hz⟩ := List.append_inj' (h.trans (List.append_assoc l₁ (x :: l₃) [z]).symm) rfl
      obtain rfl := List.head_eq_of_cons_eq hz
      exact Or.inr ⟨⟨l₁, l₃, rfl, fun w hw => hQ w (by simp [hw])⟩, hQ _ (by simp)⟩
  · rintro (rfl | ⟨⟨l₁, l₂, rfl, hQ⟩, hy⟩)
    · exact ⟨l, [], rfl, by simp⟩
    · refine ⟨l₁, l₂ ++ [y], by simp, fun z hz => ?_⟩
      rcases List.mem_append.mp hz with hz | hz
      · exact hQ z hz
      · rwa [List.mem_singleton.mp hz]

namespace Breaker

/-! ### Events -/

/-- What happens at a breaker. A call has a name that no other call has while its permit is held. -/
inductive Event (ι : Type) where
  | granted (call : ι) (trial : Bool)
  | refused
  | ended (call : ι) (time : Nat) (verdict : Verdict)
deriving DecidableEq, Repr

variable {ι : Type}

namespace Event

def verdict? : Event ι → Option (Nat × Verdict)
  | .ended _ t v => some (t, v)
  | .granted _ _ | .refused => none

def ending? : Event ι → Option ι
  | .ended i _ _ => some i
  | .granted _ _ | .refused => none

end Event

/-- The successes and failures among the events, with their times. -/
def verdicts (es : List (Event ι)) : List (Nat × Verdict) :=
  (es.filterMap Event.verdict?).filter (·.2 != .neutral)

/-- The number of failures since the latest success. -/
def failureRun (es : List (Event ι)) : Nat :=
  ((verdicts es).rtakeWhile (·.2 != .success)).length

def latestFailure? (es : List (Event ι)) : Option Nat :=
  ((verdicts es).filter (·.2 == .failure)).getLast?.map (·.1)

/-- A call was let through as a trial, and since then it has not ended and there was no failure. -/
def InTrial (es : List (Event ι)) (i : ι) : Prop :=
  Since (.granted i true) (fun e => e.ending? ≠ some i ∧ ∀ t, e.verdict? ≠ some (t, .failure)) es

/-! ### One more event -/

section Concat
variable {es : List (Event ι)} {i j : ι} {t : Nat} {v : Verdict} {trial : Bool}

@[simp] theorem verdicts_nil : verdicts ([] : List (Event ι)) = [] := rfl

@[simp] theorem verdicts_granted : verdicts (es ++ [.granted i trial]) = verdicts es := by
  simp [verdicts, Event.verdict?]

@[simp] theorem verdicts_refused : verdicts (es ++ [.refused]) = verdicts es := by
  simp [verdicts, Event.verdict?]

theorem verdicts_ended :
    verdicts (es ++ [.ended i t v]) = if v = .neutral then verdicts es else verdicts es ++ [(t, v)] := by
  cases v <;> simp [verdicts, Event.verdict?]

theorem failureRun_congr {κ : Type} {es : List (Event ι)} {es' : List (Event κ)} (h : verdicts es = verdicts es') :
    failureRun es = failureRun es' := by
  unfold failureRun
  rw [h]

theorem latestFailure?_congr {κ : Type} {es : List (Event ι)} {es' : List (Event κ)}
    (h : verdicts es = verdicts es') : latestFailure? es = latestFailure? es' := by
  unfold latestFailure?
  rw [h]

theorem failureRun_ended :
    failureRun (es ++ [.ended i t v]) =
      match v with
      | .success => 0
      | .failure => failureRun es + 1
      | .neutral => failureRun es := by
  unfold failureRun
  rw [verdicts_ended]
  cases v <;> simp

theorem latestFailure?_ended :
    latestFailure? (es ++ [.ended i t v]) = if v = .failure then some t else latestFailure? es := by
  unfold latestFailure?
  rw [verdicts_ended]
  cases v <;> simp

theorem not_inTrial_nil : ¬InTrial ([] : List (Event ι)) i := not_since_nil

theorem inTrial_granted : InTrial (es ++ [.granted j trial]) i ↔ InTrial es i ∨ j = i ∧ trial = true := by
  unfold InTrial
  rw [since_concat]
  simp [Event.ending?, Event.verdict?, or_comm]

theorem inTrial_refused : InTrial (es ++ [.refused]) i ↔ InTrial es i := by
  unfold InTrial
  rw [since_concat]
  simp [Event.ending?, Event.verdict?]

theorem inTrial_ended : InTrial (es ++ [.ended j t v]) i ↔ InTrial es i ∧ j ≠ i ∧ v ≠ .failure := by
  unfold InTrial
  rw [since_concat]
  simp [Event.ending?, Event.verdict?]

end Concat

end Breaker

end BatchFetch
