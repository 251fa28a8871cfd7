import BatchFetch.Proofs.Number.Rounding
import BatchFetch.Proofs.RateLimit.Window

/-! # What a refused caller is told

Who finds no token is told to wait for as long as the bucket needs to gain the missing part of one, to the nearest
nanosecond. With exact arithmetic there is a token after that wait unless it was rounded down; one nanosecond
later there always is one. A caller who comes back just in time after a wait that was rounded down is told to
wait for no time at all. -/

namespace BatchFetch.Bucket

/-- How many nanoseconds a bucket needs to gain what it lacks of a token. -/
def lack (l : Limits) (b : Bucket) : Rat := (1 - b.tokens) / l.rate * 1000000000

/-! ### The wait -/

section Wait
variable {l : Limits} {b b' : Bucket} {w : Span} {now : Nat}

theorem take_of_refused (h : b.take l now = (.wait w, b')) :
    b' = b.refill l now ∧ b'.tokens < 1 ∧ w = b'.wait l := by
  unfold take at h
  dsimp only at h
  split at h
  · cases h
  · rename_i short
    cases h
    exact ⟨rfl, not_le.mp short, rfl⟩

theorem granted_of_enough (h : 1 ≤ (b.refill l now).tokens) : (b.take l now).1 = .granted := by
  unfold take
  dsimp only
  rw [if_pos h]

theorem refused_of_short (h : ¬1 ≤ (b.refill l now).tokens) :
    (b.take l now).1 = .wait ((b.refill l now).wait l) := by
  unfold take
  dsimp only
  rw [if_neg h]

theorem granted_iff : (b.take l now).1 = .granted ↔ 1 ≤ (b.refill l now).tokens := by
  refine ⟨fun h => ?_, granted_of_enough⟩
  by_contra short
  rw [refused_of_short short] at h
  cases h

theorem tokens_refill (exact : l.round = .exact) :
    (b.refill l now).tokens = min (b.tokens + l.rate * (Clock.since now b.updated).inSeconds .exact) l.capacity := by
  unfold refill
  rw [exact]
  show (if b.tokens + (Clock.since now b.updated).inSeconds .exact * l.rate ≤ l.capacity then _ else _) = _
  rw [min_def, mul_comm]
  rfl

theorem lack_le_iff (rate : 0 < l.rate) (n : Rat) : b.lack l ≤ n ↔ 1 ≤ b.tokens + l.rate * (n / 1000000000) := by
  have hdiv : (1 - b.tokens) / l.rate * 1000000000 ≤ n ↔ (1 - b.tokens) / l.rate ≤ n / 1000000000 := by
    rw [le_div_iff₀ (by norm_num)]
  unfold lack
  rw [hdiv, div_le_iff₀ rate, sub_le_iff_le_add', mul_comm l.rate]

/-- What a bucket lacks is a positive fraction, of which its wait is the nearest whole number. -/
theorem exists_fraction (exact : l.round = .exact) (rate : 0 < l.rate) (short : b.tokens < 1) :
    ∃ a d, 0 < d ∧ b.wait l = Span.ofNanos (roundEven a d) ∧ b.lack l = (a : Nat) / (d : Nat) := by
  generalize hq : (1 - b.tokens) / l.rate = q
  have hpos : 0 < q := hq ▸ div_pos (sub_pos.mpr short) rate
  refine ⟨q.num.toNat * 1000000000, q.den, q.den_pos, ?_, ?_⟩
  · unfold wait
    rw [exact]
    show Span.ofNanos (roundEven (((1 - b.tokens) / l.rate).num.toNat * 1000000000) ((1 - b.tokens) / l.rate).den) = _
    rw [hq]
  · have hnum : ((q.num.toNat : Nat) : Rat) = q.num := by
      exact_mod_cast congrArg (Int.cast (R := Rat)) (Int.toNat_of_nonneg (Rat.num_nonneg.mpr hpos.le))
    unfold lack
    rw [hq, Nat.cast_mul, hnum]
    nth_rewrite 1 [← Rat.num_div_den q]
    push_cast
    ring

/-- The wait is no time at all if the bucket lacks what it gains in half a nanosecond, or less. -/
theorem wait_eq_zero_iff (exact : l.round = .exact) (rate : 0 < l.rate) (short : b.tokens < 1) :
    b.wait l = .zero ↔ b.lack l ≤ 1 / 2 := by
  obtain ⟨a, d, hd, hwait, hlack⟩ := exists_fraction exact rate short
  have hzero : b.wait l = .zero ↔ roundEven a d = 0 := by
    rw [hwait]
    refine ⟨fun h => ?_, fun h => by rw [h]; rfl⟩
    have hnanos : min (roundEven a d) Span.maxNanos = 0 := congrArg Span.nanos h
    have : 0 < Span.maxNanos := by decide
    omega
  have hrat : (0 : Rat) < d := by exact_mod_cast hd
  have hhalf : (a : Rat) ≤ 1 / 2 * d ↔ (2 : Rat) * a ≤ d := by
    constructor <;> intro h <;> linarith
  rw [hzero, hlack, roundEven_eq_zero_iff hd, div_le_iff₀ hrat, hhalf]
  exact_mod_cast Iff.rfl

/-- The wait is what the bucket lacks, to the nearest nanosecond, or the longest span. -/
theorem wait_near (exact : l.round = .exact) (rate : 0 < l.rate) (short : b.tokens < 1) (known : b.wait l ≠ .longest) :
    |((b.wait l).nanos : Rat) - b.lack l| ≤ 1 / 2 := by
  obtain ⟨a, d, hd, hwait, hlack⟩ := exists_fraction exact rate short
  have hnanos : (b.wait l).nanos = roundEven a d := by
    rw [hwait, Span.nanos_ofNanos]
    refine Nat.min_eq_left (Nat.le_of_not_lt fun hlong => known ?_)
    rw [hwait]
    exact Span.ext (Nat.min_eq_right hlong.le)
  have hrat : (0 : Rat) < d := by exact_mod_cast hd
  obtain ⟨above, below⟩ := roundEven_near a hd
  have above' : (2 : Rat) * (d * roundEven a d) ≤ 2 * a + d := by exact_mod_cast above
  have below' : (2 : Rat) * a ≤ 2 * (d * roundEven a d) + d := by exact_mod_cast below
  have hnear : roundEven a d - 1 / 2 ≤ (a : Rat) / d ∧ (a : Rat) / d ≤ roundEven a d + 1 / 2 := by
    rw [le_div_iff₀ hrat, div_le_iff₀ hrat]
    constructor <;> linarith
  rw [hnanos, hlack, abs_le]
  constructor <;> linarith [hnear.1, hnear.2]

end Wait

/-! ### Until somebody takes a token -/

namespace History
variable {ι : Type} {l : Limits} {h h' h'' : History ι} {start : Bucket}

/-- What a history comes to while nobody takes a token. -/
inductive Unserved [DecidableEq ι] (l : Limits) (h : History ι) : History ι → Prop where
  | refl : Unserved l h h
  | step {h' h'' : History ι} (unserved : Unserved l h h') (hs : Step l h' h'') (none : h''.taken = h'.taken) :
      Unserved l h h''

/-- A bucket has gained tokens since it was in another state, and none were taken: it holds what it held and what
    it has gained, as far as it has room. -/
structure Gained (l : Limits) (start b : Bucket) : Prop where
  later : start.updated ≤ b.updated
  most : b.tokens ≤ start.tokens + l.rate * (Clock.seconds b.updated - Clock.seconds start.updated)
  least : l.capacity ≤ b.tokens ∨
    start.tokens + l.rate * (Clock.since b.updated start.updated).inSeconds .exact ≤ b.tokens

theorem Gained.refl (l : Limits) (b : Bucket) : Gained l b b where
  later := Nat.le_refl _
  most := by rw [sub_self, mul_zero, add_zero]
  least := by
    refine .inr ?_
    rw [inSeconds_exact]
    show _ + l.rate * (((min (b.updated - b.updated) Span.maxNanos : Nat) : Rat) / 1000000000) ≤ _
    rw [Nat.sub_self, Nat.zero_min, Nat.cast_zero, zero_div, mul_zero, add_zero]

/-- The time since the start is no longer than the times from look to look. -/
theorem inSeconds_since_add_le {a b c : Nat} (hab : a ≤ b) (hbc : b ≤ c) :
    (Clock.since c a).inSeconds .exact ≤ (Clock.since b a).inSeconds .exact + (Clock.since c b).inSeconds .exact := by
  have hle : (Clock.since c a).nanos ≤ (Clock.since b a).nanos + (Clock.since c b).nanos := by
    show min (c - a) _ ≤ min (b - a) _ + min (c - b) _
    omega
  have hrat : ((Clock.since c a).nanos : Rat) ≤ (Clock.since b a).nanos + (Clock.since c b).nanos := by exact_mod_cast hle
  rw [inSeconds_exact, inSeconds_exact, inSeconds_exact, ← add_div]
  exact div_le_div_of_nonneg_right hrat (by norm_num)

theorem Gained.refill {b : Bucket} {now : Nat} (exact : l.round = .exact) (rate : 0 < l.rate) (g : Gained l start b)
    (looked : b.updated ≤ now) : Gained l start (b.refill l now) where
  later := g.later.trans looked
  most := by
    have hrefill := refill_le exact rate looked
    have hmost := g.most
    show _ ≤ _ + l.rate * (Clock.seconds now - _)
    linarith
  least := by
    have hsince := mul_le_mul_of_nonneg_left (inSeconds_since_add_le g.later looked) rate.le
    have hgain := mul_nonneg rate.le (inSeconds_nonneg (Clock.since now b.updated))
    show _ ∨ _ + l.rate * (Clock.since now start.updated).inSeconds .exact ≤ _
    rw [tokens_refill exact, le_min_iff, le_min_iff]
    by_cases full : l.capacity ≤ b.tokens + l.rate * (Clock.since now b.updated).inSeconds .exact
    · exact .inl ⟨full, le_refl _⟩
    · rcases g.least with hfull | hleast
      · exact absurd (hfull.trans (le_add_of_nonneg_right hgain)) full
      · refine .inr ⟨?_, ?_⟩ <;> linarith

/-- There is a token once the bucket has gained what it lacked of one. -/
theorem Gained.enough {b : Bucket} (rate : 0 < l.rate) (capacity : 1 ≤ l.capacity) (g : Gained l start b)
    (h : start.lack l ≤ (Clock.since b.updated start.updated).nanos) : 1 ≤ b.tokens := by
  rcases g.least with full | least
  · exact capacity.trans full
  · rw [inSeconds_exact] at least
    exact ((lack_le_iff rate _).mp h).trans least

/-- What holds until somebody takes a token. -/
theorem Unserved.gained [DecidableEq ι] (exact : l.round = .exact) (rate : 0 < l.rate) (looked : h.bucket.updated ≤ h.now)
    (unserved : Unserved l h h') : h'.bucket.updated ≤ h'.now ∧ Gained l h.bucket h'.bucket := by
  induction unserved with
  | refl => exact ⟨looked, .refl l h.bucket⟩
  | step _ hs none ih =>
    obtain ⟨looked, gained⟩ := ih
    cases hs.served with
    | alone later bucket _ => exact ⟨bucket ▸ looked.trans later, bucket ▸ gained⟩
    | refilled now bucket _ =>
      rw [bucket, now]
      exact ⟨Nat.le_refl _, gained.refill exact rate looked⟩
    | granted _ _ _ taken =>
      rw [taken] at none
      exact absurd none (by simp)

/-! ### After the wait -/

section Waited
variable {b : Bucket} {now n : Nat}

theorem nanos_since_add (hn : n ≤ Span.maxNanos) {t : Nat} : (Clock.since (t + n) t).nanos = n := by
  show min (t + n - t) _ = n
  rw [Nat.add_sub_cancel_left]
  exact Nat.min_eq_left hn

/-- A bucket that is looked at after so many nanoseconds has a token if it gains what it lacked in that time. -/
theorem Gained.granted_iff (rate : 0 < l.rate) (capacity : 1 ≤ l.capacity) (full : Gained l start (b.refill l now))
    (hnow : now = start.updated + n) (hn : n ≤ Span.maxNanos) : (b.take l now).1 = .granted ↔ start.lack l ≤ n := by
  have hseconds : Clock.seconds now - Clock.seconds start.updated = (n : Rat) / 1000000000 := by
    rw [hnow]
    unfold Clock.seconds
    push_cast
    ring
  refine Bucket.granted_iff.trans ⟨fun enough => ?_, fun enough => full.enough rate capacity ?_⟩
  · have hmost := full.most
    rw [show (b.refill l now).updated = now from rfl, hseconds] at hmost
    exact (lack_le_iff rate _).mpr (enough.trans hmost)
  · rw [show (b.refill l now).updated = now from rfl, hnow, nanos_since_add hn]
    exact enough

/-- If it lacked no more than what it gains in half a nanosecond beyond that time, a caller who finds no token is told to
    wait for no time. -/
theorem Gained.zero_of_refused (exact : l.round = .exact) (rate : 0 < l.rate) (capacity : 1 ≤ l.capacity)
    (full : Gained l start (b.refill l now)) (hnow : now = start.updated + n) (hn : n ≤ Span.maxNanos)
    (near : start.lack l ≤ n + 1 / 2) (refusal : (b.take l now).1 ≠ .granted) : (b.take l now).1 = .wait .zero := by
  subst hnow
  have still : ¬1 ≤ (b.refill l (start.updated + n)).tokens := fun enough => refusal (granted_of_enough enough)
  rw [refused_of_short still, (wait_eq_zero_iff exact rate (not_le.mp still)).mpr]
  rw [lack_le_iff rate, add_div, mul_add] at near
  rw [lack_le_iff rate]
  rcases full.least with hfull | hleast
  · exact absurd (capacity.trans hfull) still
  · rw [inSeconds_exact, show (b.refill l (start.updated + n)).updated = start.updated + n from rfl, nanos_since_add hn] at hleast
    linarith

/-- After a longer time it has a token. -/
theorem Gained.granted_of_lt (rate : 0 < l.rate) (capacity : 1 ≤ l.capacity) (full : Gained l start (b.refill l now))
    (hnow : start.updated + n < now) (hn : n < Span.maxNanos) (near : start.lack l ≤ n + 1 / 2) :
    (b.take l now).1 = .granted := by
  refine granted_of_enough (full.enough rate capacity ?_)
  have hnext : n + 1 ≤ (Clock.since now start.updated).nanos := by
    show n + 1 ≤ min (now - start.updated) _
    omega
  have hrat : (n : Rat) + 1 ≤ (Clock.since now start.updated).nanos := by exact_mod_cast hnext
  show _ ≤ ((Clock.since now start.updated).nanos : Rat)
  linarith

end Waited

variable [DecidableEq ι] {w : Span}

/-- Who is refused is told to wait for what the bucket lacks of a token, to the nearest nanosecond; that is no time at
    all if it lacks at most half a nanosecond. If nobody takes a token in the meantime there is one after
    the wait exactly if the wait was not rounded down; otherwise the answer is then to wait for no time at
    all. At any later time there is a token. -/
theorem granted_after_wait_iff (exact : l.round = .exact) (rate : 0 < l.rate) (capacity : 1 ≤ l.capacity)
    (refused : h.bucket.take l h.now = (.wait w, h'.bucket)) (now : h'.now = h.now) (known : w ≠ .longest) :
    |(w.nanos : Rat) - h'.bucket.lack l| ≤ 1 / 2 ∧
    (w = .zero ↔ h'.bucket.lack l ≤ 1 / 2) ∧
    ∀ h'', Unserved l h' h'' →
      (h''.now = h.now + w.nanos →
        ((h''.bucket.take l h''.now).1 = .granted ↔ h'.bucket.lack l ≤ w.nanos) ∧
        ((h''.bucket.take l h''.now).1 ≠ .granted → (h''.bucket.take l h''.now).1 = .wait .zero)) ∧
      (h.now + w.nanos < h''.now → (h''.bucket.take l h''.now).1 = .granted) := by
  obtain ⟨hbucket, short, rfl⟩ := take_of_refused refused
  have near := wait_near exact rate short known
  have hlack : h'.bucket.lack l ≤ (h'.bucket.wait l).nanos + 1 / 2 := by linarith [(abs_le.mp near).1]
  have hlongest : (h'.bucket.wait l).nanos < Span.maxNanos :=
    Nat.lt_of_le_of_ne (h'.bucket.wait l).nanos_le fun hmax => known (Span.ext hmax)
  have hlooked : h'.bucket.updated = h.now := by
    rw [hbucket]
    rfl
  refine ⟨near, wait_eq_zero_iff exact rate short, fun h'' unserved => ?_⟩
  obtain ⟨looked, gained⟩ := unserved.gained exact rate (hlooked.trans now.symm).le
  -- What the bucket holds when somebody looks at it next.
  have full := gained.refill exact rate looked
  rw [← hlooked]
  refine ⟨fun hnow => ⟨?_, fun refusal => ?_⟩, fun hnow => ?_⟩
  · exact full.granted_iff rate capacity hnow hlongest.le
  · exact full.zero_of_refused exact rate capacity hnow hlongest.le hlack refusal
  · exact full.granted_of_lt rate capacity hnow hlongest hlack

/-- One token at most, and three more in a second. -/
def thirds : Limits := { round := .exact, capacity := 1, rate := 3 }

/-- Somebody has just taken the token. -/
def spent : History Nat := ({ now := 0, bucket := .full thirds 0 } : History Nat).look thirds

/-- Somebody else wants one at once, and is refused. -/
def refusedThird : History Nat := spent.look thirds

/-- A third of a second later, as far as a whole number of nanoseconds can tell. -/
def afterThird : History Nat := { refusedThird with now := 333333333 }

theorem granted_after_wait_iff_third :
    (spent.bucket.take thirds spent.now = (.wait ⟨333333333, by decide⟩, refusedThird.bucket) ∧
      refusedThird.now = spent.now) ∧
    ((afterThird.bucket.take thirds afterThird.now).1 = .granted ↔ refusedThird.bucket.lack thirds ≤ 333333333) ∧
    (({ afterThird with now := 333333334 } : History Nat).bucket.take thirds 333333334).1 = .granted := by
  have refused : spent.bucket.take thirds spent.now = (.wait ⟨333333333, by decide⟩, refusedThird.bucket) := by
    decide +kernel
  obtain ⟨-, -, after⟩ :=
    granted_after_wait_iff (h := spent) (l := thirds) rfl (by decide +kernel) (by decide +kernel) refused rfl (by decide)
  refine ⟨⟨refused, rfl⟩, ?_, ?_⟩
  · exact_mod_cast ((after afterThird (.step .refl (.wait 333333333 (by decide)) rfl)).1 rfl).1
  · exact (after { afterThird with now := 333333334 } (.step .refl (.wait 333333334 (by decide)) rfl)).2 (by decide)

/-- A refused caller who waits for just as long as told is refused again, and then told not to wait at all. -/
theorem refused_after_wait_third :
    Reachable thirds spent ∧ (spent.bucket.take thirds spent.now).1 = .wait ⟨333333333, by decide⟩ ∧
      (refusedThird.bucket.take thirds (spent.now + 333333333)).1 = .wait .zero := by
  refine ⟨(Reachable.start 0).step .tryTake, ?_, ?_⟩ <;> decide +kernel

end History

end BatchFetch.Bucket
