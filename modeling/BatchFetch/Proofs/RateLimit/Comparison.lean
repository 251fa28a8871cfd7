import BatchFetch.Proofs.RateLimit.Session
import BatchFetch.Proofs.RateLimit.Waiting

/-! # A more generous limiter

Two limiters are tried at the same times, and the second one has at least the rate and the capacity of the first. It
may refuse a caller whom the first one grants a token, since it can have given away more before. But with exact
arithmetic it is never behind: what it holds less than the first one is no more than what it has given away more. -/

namespace BatchFetch.Bucket

/-! ### Tries -/

/-- What callers hear who try to take a token of a bucket, one after another, at some times. -/
def tries (l : Limits) : Bucket → List Nat → List Answer
  | _, [] => []
  | b, t :: ts => (b.take l t).1 :: tries l (b.take l t).2 ts

/-- How many tokens were granted. -/
def granted (answers : List Answer) : Nat := answers.count .granted

section Tries
variable {l : Limits} {b : Bucket} {t : Nat} {ts : List Nat}

@[simp] theorem granted_nil : granted [] = 0 := rfl

theorem granted_tries_cons :
    granted (tries l b (t :: ts)) = granted [(b.take l t).1] + granted (tries l (b.take l t).2 ts) := by
  show ([(b.take l t).1] ++ tries l (b.take l t).2 ts).count .granted = _
  exact List.count_append

/-- The first answers do not depend on the tries that come after them. -/
theorem take_tries : ∀ {ts : List Nat} {b : Bucket} (n : Nat), (tries l b ts).take n = tries l b (ts.take n)
  | [], _, n => by rw [tries, List.take_nil, List.take_nil, tries]
  | _ :: _, _, 0 => rfl
  | _ :: _, _, n + 1 => congrArg (List.cons _) (take_tries n)

/-- A try leaves the bucket refilled, with one token less if that was granted. -/
theorem take_cases (exact : l.round = .exact) (b : Bucket) (t : Nat) :
    granted [(b.take l t).1] = 1 ∧ 1 ≤ (b.refill l t).tokens ∧ (b.take l t).2 = ⟨(b.refill l t).tokens - 1, t⟩ ∨
      granted [(b.take l t).1] = 0 ∧ (b.refill l t).tokens < 1 ∧ (b.take l t).2 = ⟨(b.refill l t).tokens, t⟩ := by
  unfold take
  dsimp only
  by_cases enough : 1 ≤ (b.refill l t).tokens
  · rw [if_pos enough, exact]
    exact .inl ⟨rfl, enough, rfl⟩
  · rw [if_neg enough]
    exact .inr ⟨rfl, not_le.mp enough, rfl⟩

end Tries

/-! ### Recorded sessions -/

/-- The times at which tokens are tried for in a session. -/
def triedAt : Nat → List Use → List Nat
  | _, [] => []
  | now, .advance d :: us => triedAt (now + d.nanos) us
  | now, .tryTake :: us => now :: triedAt now us
  | now, _ :: us => triedAt now us

/-- What callers hear in a session who try to take a token. -/
def Session.tried (l : Limits) : Session → List Use → List Bool
  | _, [] => []
  | s, u :: us =>
    match (s.step l u).1 with
    | .taken granted => granted :: (s.step l u).2.tried l us
    | _ => (s.step l u).2.tried l us

/-- In a session of tries the bucket is tried at their times. -/
theorem tried_eq {l : Limits} {us : List Use} {s : Session} (only : ∀ u ∈ us, u = .tryTake ∨ ∃ d, u = .advance d) :
    s.tried l us = (tries l s.bucket (triedAt s.now us)).map fun a => decide (a = .granted) := by
  induction us generalizing s with
  | nil => rfl
  | cons u us ih =>
    rw [List.forall_mem_cons] at only
    obtain ⟨rfl | ⟨d, rfl⟩, rest⟩ := only
    · exact congrArg (List.cons _) (ih rest)
    · exact ih rest

/-! ### Two limiters at once -/

/-- The second of two buckets has granted so many tokens more than the first one, and holds no less if these are added.
    They were looked at together the last time, unless the second one is still full. -/
structure Ahead (l' : Limits) (lead : Nat) (b b' : Bucket) : Prop where
  tokens : b.tokens ≤ b'.tokens + lead
  abreast : b'.updated = b.updated ∨ l'.capacity ≤ b'.tokens

section Comparison
variable {l l' : Limits} {b b' : Bucket} {lead made made' : Nat}

theorem ahead_full (capacity : l.capacity ≤ l'.capacity) : Ahead l' 0 (full l made) (full l' made') where
  tokens := by
    show l.capacity ≤ l'.capacity + (0 : Nat)
    rw [Nat.cast_zero, add_zero]
    exact capacity
  abreast := .inr (le_refl _)

variable (exact : l.round = .exact) (exact' : l'.round = .exact) (nonneg : 0 ≤ l.rate) (rate : l.rate ≤ l'.rate)
  (capacity : l.capacity ≤ l'.capacity)
include exact exact' nonneg rate capacity

/-- Neither the higher rate nor the higher capacity lets the second bucket fall behind. -/
theorem Ahead.refill (h : Ahead l' lead b b') (t : Nat) :
    (b.refill l t).tokens ≤ (b'.refill l' t).tokens + lead := by
  have hlead : (0 : Rat) ≤ lead := Nat.cast_nonneg lead
  have hcapacity := refill_le_capacity l t b
  rw [tokens_refill exact', ← min_add_add_right, le_min_iff]
  refine ⟨?_, by linarith⟩
  rcases h.abreast with together | still
  · have gained := mul_le_mul_of_nonneg_right rate (inSeconds_nonneg (Clock.since t b.updated))
    have htokens := h.tokens
    rw [together, tokens_refill exact]
    exact (min_le_left _ _).trans (by linarith)
  · have gained := mul_nonneg (nonneg.trans rate) (inSeconds_nonneg (Clock.since t b'.updated))
    linarith

/-- A try keeps the second limiter ahead by what it has granted more. -/
theorem Ahead.take (h : Ahead l' lead b b') (t : Nat) :
    ∃ lead', Ahead l' lead' (b.take l t).2 (b'.take l' t).2 ∧
      lead + granted [(b'.take l' t).1] = lead' + granted [(b.take l t).1] := by
  have htokens := h.refill exact exact' nonneg rate capacity t
  rcases take_cases exact b t with ⟨hgrant, enough, hb⟩ | ⟨hgrant, short, hb⟩ <;>
    rcases take_cases exact' b' t with ⟨hgrant', enough', hb'⟩ | ⟨hgrant', short', hb'⟩ <;>
    rw [hgrant, hgrant', hb, hb']
  · refine ⟨lead, ⟨?_, .inl rfl⟩, rfl⟩
    show (b.refill l t).tokens - 1 ≤ (b'.refill l' t).tokens - 1 + lead
    linarith
  · -- The second one has no token left, so it has granted more before, and is one token less ahead.
    have hpos : 0 < lead := by
      by_contra hzero
      rw [Nat.eq_zero_of_not_pos hzero, Nat.cast_zero, add_zero] at htokens
      exact absurd (enough.trans htokens) (not_le.mpr short')
    obtain ⟨less, rfl⟩ := Nat.exists_eq_succ_of_ne_zero hpos.ne'
    refine ⟨less, ⟨?_, .inl rfl⟩, rfl⟩
    rw [Nat.cast_succ] at htokens
    show (b.refill l t).tokens - 1 ≤ (b'.refill l' t).tokens + less
    linarith
  · refine ⟨lead + 1, ⟨?_, .inl rfl⟩, rfl⟩
    rw [Nat.cast_succ]
    show (b.refill l t).tokens ≤ (b'.refill l' t).tokens - 1 + (lead + 1)
    linarith
  · exact ⟨lead, ⟨htokens, .inl rfl⟩, rfl⟩

theorem Ahead.granted_le (h : Ahead l' lead b b') (ts : List Nat) :
    granted (tries l b ts) ≤ lead + granted (tries l' b' ts) := by
  induction ts generalizing b b' lead with
  | nil => exact Nat.zero_le _
  | cons t ts ih =>
    obtain ⟨lead', ahead, hlead⟩ := h.take exact exact' nonneg rate capacity t
    have hrest := ih ahead
    rw [granted_tries_cons, granted_tries_cons]
    omega

/-- More generous limits never admit less: of two new limiters, the second with at least the rate and at least the
    capacity of the first one, the second one has granted at least as many tokens after each of a sequence of tries at
    common times. Neither the order of the times matters, nor when the limiters were made. -/
theorem granted_le_granted (made made' : Nat) (ts : List Nat) (n : Nat) :
    granted ((tries l (full l made) ts).take n) ≤ granted ((tries l' (full l' made') ts).take n) := by
  have ahead : Ahead l' 0 (full l made) (full l' made') := ahead_full capacity
  have hle := ahead.granted_le exact exact' nonneg rate capacity (ts.take n)
  rwa [Nat.zero_add, ← take_tries, ← take_tries] at hle

end Comparison

/-- One token at most, and three in a second. -/
def brisk : Limits := { round := .exact, capacity := 1, rate := 3 }

/-- One token at most, and two in a second. -/
def steady : Limits := { brisk with rate := 2 }

/-- After four tenths of a second only the faster limiter has a token. It has none after half a second, when the slower one
    has, but until then it has granted as many. -/
theorem granted_le_granted_brisk :
    tries steady (full steady 0) [0, 400000000, 500000000] = [.granted, .wait ⟨100000000, by decide⟩, .granted] ∧
      tries brisk (full brisk 0) [0, 400000000, 500000000] = [.granted, .granted, .wait ⟨233333333, by decide⟩] ∧
      ∀ n, granted ((tries steady (full steady 0) [0, 400000000, 500000000]).take n) ≤
        granted ((tries brisk (full brisk 0) [0, 400000000, 500000000]).take n) := by
  refine ⟨by decide +kernel, by decide +kernel, fun n => ?_⟩
  exact granted_le_granted rfl rfl (by decide +kernel) (by decide +kernel) (by decide +kernel) 0 0 _ n

end BatchFetch.Bucket
