import BatchFetch.Proofs.Dispatch.Permits
import BatchFetch.Proofs.Number.Rounding

/-! # Enough tokens

A bucket that is full at first and holds a token for each target of a batch keeps no worker waiting: a token that is
taken is the worker's own, and rounding does not lose the part of a token that would be missing then. -/

namespace BatchFetch

/-! ### A bucket with enough tokens -/

section Bucket
variable {l : Limits} {bucket : Bucket} {now k : Nat}

theorem Span.inSeconds_binary64_nonneg (d : Span) : 0 ≤ d.inSeconds .binary64 := by
  unfold Span.inSeconds
  refine Rounding.binary64_nonneg (add_nonneg ?_ ?_)
  · exact Rounding.binary64_nonneg (Nat.cast_nonneg _)
  · refine Rounding.binary64_nonneg ?_
    rw [Rat.mkRat_eq_div]
    exact div_nonneg (by exact_mod_cast Nat.zero_le _) (by norm_num)

theorem Bucket.le_refill (round : l.round = .binary64) (rate : 0 ≤ l.rate) (small : k ≤ twoTo 53)
    (capacity : (k : Rat) ≤ l.capacity) (tokens : (k : Rat) ≤ bucket.tokens) :
    (k : Rat) ≤ (bucket.refill l now).tokens := by
  have hgained : 0 ≤ l.round ((Clock.since now bucket.updated).inSeconds l.round * l.rate) := by
    rw [round]
    exact Rounding.binary64_nonneg (mul_nonneg (Span.inSeconds_binary64_nonneg _) rate)
  unfold Bucket.refill
  dsimp only
  split
  · rw [round] at hgained ⊢
    exact Rounding.natCast_le_binary64 small (tokens.trans (le_add_of_nonneg_right hgained))
  · exact capacity

/-- Whoever looks at a bucket with so many tokens takes one, and leaves the others. -/
theorem Bucket.take_of_le (round : l.round = .binary64) (rate : 0 ≤ l.rate) (small : k + 1 ≤ twoTo 53)
    (capacity : ((k + 1 : Nat) : Rat) ≤ l.capacity) (tokens : ((k + 1 : Nat) : Rat) ≤ bucket.tokens) :
    ∃ bucket', bucket.take l now = (.granted, bucket') ∧ (k : Rat) ≤ bucket'.tokens := by
  have hrefill : ((k + 1 : Nat) : Rat) ≤ (bucket.refill l now).tokens :=
    Bucket.le_refill round rate small capacity tokens
  have hone : (1 : Rat) ≤ (bucket.refill l now).tokens := by
    refine le_trans ?_ hrefill
    exact_mod_cast Nat.le_add_left 1 k
  refine ⟨_, if_pos hone, ?_⟩
  show (k : Rat) ≤ l.round ((bucket.refill l now).tokens - 1)
  rw [round]
  refine Rounding.natCast_le_binary64 (by omega) ?_
  rw [le_sub_iff_add_le]
  exact_mod_cast hrefill

end Bucket

namespace Batch

/-! ### A batch with enough tokens -/

/-- A batch whose bucket holds a token for each of its targets. -/
structure Ample (b : Batch) : Prop where
  round : b.limits.round = .binary64
  rate : 0 ≤ b.limits.rate
  small : b.targets.length ≤ twoTo 53
  capacity : (b.targets.length : Rat) ≤ b.limits.capacity

/-- Whether a worker in a phase has its token still to take. -/
def Phase.wantsToken : Phase → Bool
  | .fresh | .queued | .waiting _ _ => true
  | .calling _ _ _ _ | .backingOff _ _ | .done => false

def State.wanting (s : State) : Nat := s.phases.countP Phase.wantsToken

/-- There is a token for each worker that has its own still to take. -/
structure Plenty (b : Batch) (s : State) : Prop where
  length : s.phases.length = b.targets.length
  tokens : (s.wanting : Rat) ≤ s.bucket.tokens

section Runs
variable {b : Batch} {s t : State} {i : Nat}

theorem Moved.wanting (m : Moved b i s t) :
    t.wanting + (if (s.phase i).wantsToken then 1 else 0) = s.wanting + if (t.phase i).wantsToken then 1 else 0 :=
  countP_phases _ m.phases m.before

theorem Starts.bucket_eq {retries : UInt32} {bucket : Bucket} {es : List Event} (h : Starts b i s retries bucket es) :
    (s.phase i).wantsToken = false ∧ bucket = s.bucket ∨
      (s.phase i).wantsToken = true ∧ s.bucket.take b.limits s.now = (.granted, bucket) := by
  cases h with
  | token since wake _ before taken =>
    rw [before]
    exact .inr ⟨rfl, taken⟩
  | retry _ wake before =>
    rw [before]
    exact .inl ⟨rfl, rfl⟩

/-- A worker that has its token still to take finds one, and leaves one for each of the others. -/
theorem Plenty.take (h : Plenty b s) (ample : Ample b) (wants : (s.phase i).wantsToken = true) (now : Nat) :
    ∃ k bucket, s.wanting = k + 1 ∧ s.bucket.take b.limits now = (.granted, bucket) ∧ (k : Rat) ≤ bucket.tokens := by
  have hlt : i < s.phases.length := phase_of_done_le fun hdone => by simp [hdone, Phase.wantsToken] at wants
  have hphase : s.phases[i] = s.phase i := by simp [State.phase, hlt]
  have hpos : 0 < s.wanting := List.countP_pos_iff.mpr ⟨_, List.getElem_mem hlt, hphase ▸ wants⟩
  obtain ⟨k, hk⟩ := Nat.exists_eq_add_of_lt hpos
  rw [Nat.zero_add] at hk
  have hle : k + 1 ≤ b.targets.length := hk ▸ h.length ▸ List.countP_le_length
  have hcapacity : ((k + 1 : Nat) : Rat) ≤ b.limits.capacity := le_trans (by exact_mod_cast hle) ample.capacity
  obtain ⟨bucket, taken, tokens⟩ :=
    Bucket.take_of_le ample.round ample.rate (hle.trans ample.small) hcapacity (hk ▸ h.tokens)
  exact ⟨k, bucket, hk, taken, tokens⟩

theorem plenty_initial (ample : Ample b) : Plenty b b.initial where
  length := List.length_map ..
  tokens := by
    have hle : b.initial.wanting ≤ b.targets.length :=
      List.countP_le_length.trans_eq (List.length_map ..)
    exact le_trans (by exact_mod_cast hle) ample.capacity

/-- A move that takes no token leaves enough of them. -/
theorem Plenty.same (h : Plenty b s) (m : Moved b i s t) (bucket : t.bucket = s.bucket)
    (going : (s.phase i).wantsToken = false → (t.phase i).wantsToken = false) : Plenty b t := by
  have hwanting := m.wanting
  refine ⟨by rw [m.phases, List.length_set, h.length], ?_⟩
  have hle : t.wanting ≤ s.wanting := by
    cases hs : (s.phase i).wantsToken with
    | true =>
      rw [hs, if_pos rfl] at hwanting
      split at hwanting <;> omega
    | false =>
      rw [hs, going hs] at hwanting
      exact (Nat.add_right_cancel hwanting).le
  rw [bucket]
  exact le_trans (by exact_mod_cast hle) h.tokens

/-- So does an attempt, with or without a token. -/
theorem Plenty.attempted (h : Plenty b s) (ample : Ample b) (m : Moved b i s t) {retries : UInt32} {es : List Event}
    (starts : Starts b i s retries t.bucket es) (after : (t.phase i).wantsToken = false) : Plenty b t := by
  rcases starts.bucket_eq with ⟨-, bucket⟩ | ⟨wants, taken⟩
  · exact h.same m bucket fun _ => after
  · obtain ⟨k, bucket, hk, taken', tokens⟩ := h.take ample wants s.now
    have hbucket : t.bucket = bucket := congrArg Prod.snd (taken.symm.trans taken')
    have hwanting := m.wanting
    rw [wants, after, if_pos rfl, if_neg Bool.false_ne_true, hk] at hwanting
    refine ⟨by rw [m.phases, List.length_set, h.length], ?_⟩
    rw [Nat.add_right_cancel hwanting, hbucket]
    exact tokens

theorem Plenty.move (h : Plenty b s) (ample : Ample b) (m : Moved b i s t) : Plenty b t := by
  have hi := m.before
  cases hm : m with
  | queued before _ eq =>
    exact h.same m (agrees_of_unqueued eq).bucket fun hs => by simp [before, Phase.wantsToken] at hs
  | passed before _ eq =>
    refine h.same m (agrees_of_unqueued eq).bucket fun hs => ?_
    rcases before with hp | hp <;> simp [hp, Phase.wantsToken] at hs
  | waits since wake d bucket before _ look eq =>
    -- It does not come to this.
    obtain ⟨-, bucket', -, taken, -⟩ := h.take ample (by rw [before]; rfl) s.now
    cases look.symm.trans taken
  | called retries bucket es permit starts _ _ eq =>
    have ha := agrees_of_unqueued eq
    have hbucket : t.bucket = bucket := ha.bucket
    refine h.attempted ample m (hbucket ▸ starts) ?_
    rw [phase_self ha.phases hi]
    rfl
  | refused retries bucket es d starts _ _ eq =>
    have ha := agrees_of_unqueued eq
    have hbucket : t.bucket = bucket := ha.bucket
    refine h.attempted ample m (hbucket ▸ starts) ?_
    rw [phase_self ha.phases hi]
    rfl
  | failed _ _ _ _ _ _ _ _ eq | ended _ _ _ _ _ _ _ _ eq | brokeOff _ _ _ _ _ _ _ _ eq | cancelled _ _ _ eq =>
    have ha := agrees_of_unqueued eq
    refine h.same m ha.bucket fun _ => ?_
    rw [phase_self ha.phases hi]
    rfl

theorem Reachable.plenty (ample : Ample b) (reach : Reachable b s) : Plenty b s := by
  induction reach with
  | start => exact plenty_initial ample
  | step _ hs ih =>
    cases hs with
    | stop | collect | wait => exact ⟨ih.length, ih.tokens⟩
    | move i can => exact ih.move ample (moved_move can)

/-- No worker waits for its token. -/
theorem Plenty.look_eq (h : Plenty b s) (ample : Ample b) {since wake : Nat} (before : s.phase i = .waiting since wake) :
    ∃ bucket, b.look i since s =
      b.attempt i 0 ({ s with bucket }.note [.tokenTaken i (Clock.since s.now since)]) := by
  obtain ⟨-, bucket, -, taken, -⟩ := h.take ample (i := i) (by rw [before]; rfl) s.now
  refine ⟨bucket, ?_⟩
  unfold look
  rw [taken]

end Runs

section Built
variable {c : Config} {targets : List String} {start : Nat} {cancelAfter : Option UInt64} {transport : Transport}
  {earlier : List Call} {draw : Nat → UInt32 → Nat} {b : Batch}

theorem ample_of_built (built : ofConfig? c targets start cancelAfter transport earlier draw = some b)
    (fits : targets.length ≤ c.rateLimit.burstSize.toNat) : Ample b := by
  obtain rfl := eq_ofConfig built
  refine ⟨rfl, (Limits.rate_pos _ _).le, ?_, ?_⟩
  · have := c.rateLimit.burstSize.toNat_lt
    have htwo : 4294967296 ≤ twoTo 53 := by decide
    exact (fits.trans this.le).trans htwo
  · show (targets.length : Rat) ≤ ((max c.rateLimit.burstSize.toNat 1 : Nat) : Rat)
    exact_mod_cast fits.trans (Nat.le_max_left _ _)

end Built

end Batch

end BatchFetch
