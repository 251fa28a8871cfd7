import BatchFetch.Breaker.Session
import BatchFetch.Proofs.Assoc
import BatchFetch.Proofs.Breaker.Invariant

/-! # Sessions have histories

A session calls its permits by names, and a name can be used again. In its history every call has a number
of its own instead. Each use of the breaker is a few steps of the history, so whatever holds of a breaker
in use holds in every session. -/

namespace BatchFetch.Breaker

open Session

/-- A history goes along with a session: a permit that is held under a name is that of a call, and the calls
    from `next` on have not been made. -/
structure Follows (s : Session) (h : History Nat) (call : String → Nat) (next : Nat) : Prop where
  now : h.now = s.now
  breaker : h.breaker = s.breaker
  held : ∀ id p, s.permit? id = some p → h.held (call id) = some p
  made : ∀ id p, s.permit? id = some p → call id < next
  distinct : ∀ id id' p p', s.permit? id = some p → s.permit? id' = some p' → call id = call id' → id = id'
  fresh : ∀ n, next ≤ n → h.held n = none

def HasHistory (c : Settings) (s : Session) : Prop :=
  ∃ h call next, History.Reachable c h ∧ Follows s h call next

section Uses
variable {c : Settings} {s : Session} {h : History Nat} {call : String → Nat} {next : Nat} {id : String} {p : Permit}
  {v : Verdict}

theorem follows_start (now : Nat) : Follows { now } { now } (fun _ => 0) 0 where
  now := rfl
  breaker := rfl
  held id p hp := by simp [permit?] at hp
  made id p hp := by simp [permit?] at hp
  distinct id id' p p' hp := by simp [permit?] at hp
  fresh _ _ := rfl

/-- A caller who is let through makes the next call of the history. -/
theorem Follows.granted (f : Follows s h call next) (granted : (s.breaker.ask c s.now).answer = .granted p) :
    Follows (s.after (s.breaker.ask c s.now)) (h.ask c next) call (next + 1) ∧ (h.ask c next).held next = some p := by
  have granted' : (h.breaker.ask c h.now).answer = .granted p := by rwa [f.breaker, f.now]
  have hheld : (h.ask c next).held = Function.update h.held next (some p) := by rw [History.ask_of_granted granted']
  refine ⟨⟨?_, ?_, fun id q hq => ?_, fun id q hq => ?_, f.distinct, fun n hn => ?_⟩, ?_⟩
  · rw [History.ask_of_granted granted']
    exact f.now
  · rw [History.ask_of_granted granted', f.breaker, f.now]
    rfl
  · rw [hheld, Function.update_of_ne (Nat.ne_of_lt (f.made id q hq))]
    exact f.held id q hq
  · exact Nat.lt_succ_of_lt (f.made id q hq)
  · rw [hheld, Function.update_of_ne (Nat.ne_of_gt hn)]
    exact f.fresh n (Nat.le_of_succ_le hn)
  · rw [hheld, Function.update_self]

theorem Follows.refused {d : Span} (f : Follows s h call next) (refused : (s.breaker.ask c s.now).answer = .refused d) :
    Follows (s.after (s.breaker.ask c s.now)) (h.ask c next) call next := by
  have refused' : (h.breaker.ask c h.now).answer = .refused d := by rwa [f.breaker, f.now]
  rw [History.ask_of_refused refused']
  exact ⟨f.now, by rw [f.breaker, f.now]; rfl, f.held, f.made, f.distinct, f.fresh⟩

/-- A call whose permit has no name ends. -/
theorem Follows.report (f : Follows s h call next) {n : Nat} (hn : ∀ id q, s.permit? id = some q → call id ≠ n) :
    Follows (s.report c p v) (h.finish c n p v) call next where
  now := f.now
  breaker := by
    show (h.breaker.report c h.now p v).breaker = (s.breaker.report c s.now p v).breaker
    rw [f.breaker, f.now]
  held id q hq := by
    show Function.update h.held n none (call id) = some q
    rw [Function.update_of_ne (hn id q hq)]
    exact f.held id q hq
  made := f.made
  distinct := f.distinct
  fresh m hm := by
    show Function.update h.held n none m = none
    rw [Function.update_apply, f.fresh m hm, ite_self]

def forget (s : Session) (id : String) : Session := { s with held := s.held.filter (·.1 != id) }

theorem permit?_forget_self : (forget s id).permit? id = none := lookup_filter_self s.held

theorem permit?_forget_of_ne {id' : String} (hne : id' ≠ id) : (forget s id).permit? id' = s.permit? id' :=
  lookup_filter_ne hne s.held

theorem ne_of_permit?_forget {id' : String} {q : Permit} (hq : (forget s id).permit? id' = some q) : id' ≠ id := by
  rintro rfl
  rw [permit?_forget_self] at hq
  cases hq

theorem Follows.forget (f : Follows s h call next) : Follows (Breaker.forget s id) h call next := by
  have hsame : ∀ id' q, (Breaker.forget s id).permit? id' = some q → s.permit? id' = some q := fun id' q hq =>
    permit?_forget_of_ne (ne_of_permit?_forget hq) ▸ hq
  exact
    { f with
      held := fun id' q hq => f.held id' q (hsame id' q hq)
      made := fun id' q hq => f.made id' q (hsame id' q hq)
      distinct := fun id₁ id₂ q₁ q₂ h₁ h₂ => f.distinct id₁ id₂ q₁ q₂ (hsame id₁ q₁ h₁) (hsame id₂ q₂ h₂) }

/-- A permit is given up: its call ends. Without a permit of that name nothing happens. -/
theorem Follows.release (reach : History.Reachable c h) (f : Follows s h call next) (v : Verdict) (id : String) :
    ∃ h', History.Reachable c h' ∧ Follows (s.release c id v).2 h' call next ∧ (s.release c id v).2.permit? id = none ∧
      (∀ id' q, (s.release c id v).2.permit? id' = some q → s.permit? id' = some q) ∧
      ∀ n, (∀ q, s.permit? id = some q → call id ≠ n) → h'.held n = h.held n := by
  unfold Session.release
  cases hp : s.permit? id with
  | none => exact ⟨h, reach, f, hp, fun _ _ hq => hq, fun _ _ => rfl⟩
  | some q =>
    refine ⟨h.finish c (call id) q v, reach.step (.finish _ _ _ (f.held id q hp)), ?_, permit?_forget_self,
      fun id' q' hq => permit?_forget_of_ne (ne_of_permit?_forget hq) ▸ hq, fun n hn => ?_⟩
    · refine f.forget.report fun id' q' hq' heq => ?_
      have hne := ne_of_permit?_forget hq'
      rw [permit?_forget_of_ne hne] at hq'
      exact hne (f.distinct id' id q' q hq' hp heq)
    · exact Function.update_of_ne (hn q rfl).symm _ _

theorem Follows.named (f : Follows s h call next) {n : Nat} (hn : n < next) (hp : h.held n = some p)
    (free : s.permit? id = none) (hne : ∀ id' q, s.permit? id' = some q → call id' ≠ n) :
    Follows { s with held := s.held ++ [(id, p)] } h (Function.update call id n) next := by
  have hlookup : ∀ id' q, ({ s with held := s.held ++ [(id, p)] } : Session).permit? id' = some q →
      id' = id ∧ q = p ∨ id' ≠ id ∧ s.permit? id' = some q := by
    intro id' q hq
    unfold permit? at hq free ⊢
    rw [List.lookup_append] at hq
    by_cases hid : id' = id
    · subst hid
      rw [free] at hq
      simp at hq
      exact .inl ⟨rfl, hq.symm⟩
    · simp [List.lookup_cons, beq_false_of_ne hid] at hq
      exact .inr ⟨hid, hq⟩
  refine { f with held := fun id' q hq => ?_, made := fun id' q hq => ?_, distinct := fun id₁ id₂ q₁ q₂ h₁ h₂ heq => ?_ }
  · rcases hlookup id' q hq with ⟨rfl, rfl⟩ | ⟨hid, hq⟩
    · rwa [Function.update_self]
    · rw [Function.update_of_ne hid]
      exact f.held id' q hq
  · rcases hlookup id' q hq with ⟨rfl, rfl⟩ | ⟨hid, hq⟩
    · rwa [Function.update_self]
    · rw [Function.update_of_ne hid]
      exact f.made id' q hq
  · rcases hlookup id₁ q₁ h₁ with ⟨rfl, rfl⟩ | ⟨hid₁, hold₁⟩ <;> rcases hlookup id₂ q₂ h₂ with ⟨rfl, rfl⟩ | ⟨hid₂, hold₂⟩
    · rfl
    · rw [Function.update_self, Function.update_of_ne hid₂] at heq
      exact absurd heq.symm (hne id₂ q₂ hold₂)
    · rw [Function.update_self, Function.update_of_ne hid₁] at heq
      exact absurd heq (hne id₁ q₁ hold₁)
    · rw [Function.update_of_ne hid₁, Function.update_of_ne hid₂] at heq
      exact f.distinct id₁ id₂ q₁ q₂ hold₁ hold₂ heq

/-! ### Every use -/

theorem HasHistory.release (hs : HasHistory c s) (v : Verdict) (id : String) : HasHistory c (s.release c id v).2 := by
  obtain ⟨h, call, next, reach, f⟩ := hs
  obtain ⟨h', reach', f', -⟩ := f.release reach v id
  exact ⟨h', call, next, reach', f'⟩

theorem HasHistory.step (hs : HasHistory c s) (u : Use) : HasHistory c (s.step c u).2 := by
  cases u with
  | advance d =>
    obtain ⟨h, call, next, reach, f⟩ := hs
    refine ⟨{ h with now := s.now + d.nanos }, call, next, reach.step (.wait _ ?_), ?_⟩
    · rw [f.now]
      exact Nat.le_add_right ..
    · exact ⟨rfl, f.breaker, f.held, f.made, f.distinct, f.fresh⟩
  | complete id v => exact hs.release v id
  | drop id => exact hs.release .neutral id
  | call id =>
    obtain ⟨h, call, next, reach, f⟩ := hs
    have reach' := reach.step (.ask next (f.fresh next (Nat.le_refl _)))
    unfold Session.step
    dsimp only
    split
    · rename_i p granted
      obtain ⟨f', hnext⟩ := f.granted granted
      -- An older permit of this name is dropped only now that the new one was given.
      obtain ⟨h', reach'', f'', free, hsame, hheld⟩ := f'.release reach' .neutral id
      refine ⟨h', Function.update call id next, next + 1, reach'', f''.named (Nat.lt_succ_self next) ?_ free ?_⟩
      · rw [hheld next fun q hq => Nat.ne_of_lt (f.made id q hq)]
        exact hnext
      · exact fun id' q hq => Nat.ne_of_lt (f.made id' q (hsame id' q hq))
    · rename_i d refused
      exact ⟨h.ask c next, call, next, reach', f.refused refused⟩
  | guarded v =>
    obtain ⟨h, call, next, reach, f⟩ := hs
    have reach' := reach.step (.ask next (f.fresh next (Nat.le_refl _)))
    unfold Session.step
    dsimp only
    split
    · rename_i p granted
      obtain ⟨f', hnext⟩ := f.granted granted
      refine ⟨(h.ask c next).finish c next p v, call, next + 1, reach'.step (.finish next p v hnext), f'.report ?_⟩
      exact fun id q hq => Nat.ne_of_lt (f.made id q hq)
    · rename_i d refused
      exact ⟨h.ask c next, call, next, reach', f.refused refused⟩

/-- Every session of a new breaker has a history. -/
theorem hasHistory_of_uses (now : Nat) (us : List Use) :
    HasHistory c (us.foldl (fun s u => (s.step c u).2) { now }) := by
  have start : HasHistory c { now } := ⟨{ now }, _, 0, .start now, follows_start now⟩
  generalize ({ now } : Session) = s at start
  induction us generalizing s with
  | nil => exact start
  | cons u us ih => exact ih _ (start.step u)

end Uses

end BatchFetch.Breaker
