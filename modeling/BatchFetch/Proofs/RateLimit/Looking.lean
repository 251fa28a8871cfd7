import BatchFetch.Proofs.RateLimit.Waiting
import BatchFetch.RateLimit.Session

/-! # Looking at a bucket

Callers come to one bucket: some try to take a token, some ask how many there are, and some wait for one until their
stop fires. Whoever takes no token in the end leaves no trace: with exact arithmetic it makes no difference how often
and when a bucket was looked at, so all others hear what they would have heard without that caller. -/

namespace BatchFetch.Bucket

/-! ### Refills in steps -/

section Refill
variable {l : Limits} {b b' : Bucket} {now last t u : Nat}

/-- A time that is no longer than the longest span is the sum of its parts. -/
theorem inSeconds_since_add {a t u : Nat} (hat : a ≤ t) (htu : t ≤ u) (near : u ≤ a + Span.maxNanos) :
    (Clock.since u a).inSeconds .exact = (Clock.since t a).inSeconds .exact + (Clock.since u t).inSeconds .exact := by
  have hnanos : (Clock.since u a).nanos = (Clock.since t a).nanos + (Clock.since u t).nanos := by
    show min (u - a) _ = min (t - a) _ + min (u - t) _
    omega
  rw [inSeconds_exact, inSeconds_exact, inSeconds_exact, hnanos, Nat.cast_add, add_div]

/-- A bucket that is refilled on the way holds what it holds when it is refilled once, though its capacity may have cut
    what it gained on the way. -/
theorem refill_refill (exact : l.round = .exact) (rate : 0 ≤ l.rate) (looked : b.updated ≤ t) (htu : t ≤ u)
    (near : u ≤ b.updated + Span.maxNanos) : (b.refill l t).refill l u = b.refill l u := by
  have gained : 0 ≤ l.rate * (Clock.since u t).inSeconds .exact := mul_nonneg rate (inSeconds_nonneg _)
  have tokens : ((b.refill l t).refill l u).tokens = (b.refill l u).tokens := by
    rw [tokens_refill exact, tokens_refill exact, tokens_refill exact, inSeconds_since_add looked htu near, mul_add,
      ← add_assoc]
    show min (min _ l.capacity + l.rate * (Clock.since u t).inSeconds .exact) l.capacity = _
    rw [min_add, min_assoc, min_eq_right (le_add_of_nonneg_right gained)]
  exact congrArg (Bucket.mk · u) tokens

/-- Nobody who looks at one of two buckets from one point in time to another can tell which one it is. -/
def Alike (l : Limits) (now last : Nat) (b b' : Bucket) : Prop :=
  ∀ t, now ≤ t → t ≤ last → b.refill l t = b'.refill l t

theorem Alike.later (a : Alike l now last b b') (later : now ≤ t) : Alike l t last b b' := fun u htu hu =>
  a u (later.trans htu) hu

/-- A look at one of the two is never noticed. -/
theorem Alike.refill (a : Alike l now last b b') (exact : l.round = .exact) (rate : 0 ≤ l.rate) (later : now ≤ t)
    (looked : b.updated ≤ t) (near : last ≤ b.updated + Span.maxNanos) : Alike l t last (b.refill l t) b' :=
  fun u htu hu => (refill_refill exact rate looked htu (hu.trans near)).trans (a u (later.trans htu) hu)

end Refill

/-! ### What callers want and hear -/

/-- What a caller wants of a bucket. -/
inductive Request where
  | tryTake
  | available
  /-- The caller waits for a token, until its stop fires at a point in time. -/
  | acquire (stopAt : Option Nat)
deriving DecidableEq, Repr

/-- How far a caller has come. -/
inductive Stage where
  | new
  | asleep (wake : Nat)
  | gone
deriving DecidableEq, Repr

def Stage.isAsleep (now : Nat) : Stage → Bool
  | .asleep wake => now < wake
  | _ => false

/-- What a caller hears. -/
inductive Reply where
  | tokens (count : Rat)
  | refused
  | granted
  | wait (d : Span)
  | cancelled
deriving DecidableEq

/-- What a caller does whose turn it is: what it hears, and the bucket and the caller's stage after that. Who waits looks
    first whether its stop has fired, and looks at the bucket only when its sleep is over. -/
def serve (l : Limits) (now : Nat) (b : Bucket) : Stage → Request → Option Reply × Bucket × Stage
  | .gone, _ => (none, b, .gone)
  | _, .available => (some (.tokens (b.available l now).1), (b.available l now).2, .gone)
  | _, .tryTake =>
    match b.take l now with
    | (.granted, b) => (some .granted, b, .gone)
    | (.wait _, b) => (some .refused, b, .gone)
  | stage, .acquire stopAt =>
    if stopAt.any (· ≤ now) then (some .cancelled, b, .gone)
    else if stage.isAsleep now then (none, b, stage)
    else
      match b.take l now with
      | (.granted, b) => (some .granted, b, .gone)
      | (.wait d, b) => (some (.wait d), b, .asleep (Clock.timer now d))

section Serve
variable {l : Limits} {b b' : Bucket} {now : Nat} {stage : Stage} {wants : Request}

theorem serve_acquire {stopAt : Option Nat} (going : stage ≠ .gone) :
    serve l now b stage (.acquire stopAt) =
      if stopAt.any (· ≤ now) then (some .cancelled, b, .gone)
      else if stage.isAsleep now then (none, b, stage)
      else
        match b.take l now with
        | (.granted, b) => (some .granted, b, .gone)
        | (.wait d, b) => (some (.wait d), b, .asleep (Clock.timer now d)) := by
  cases stage with
  | gone => exact absurd rfl going
  | new => rfl
  | asleep => rfl

/-- What can come of a turn. Those who hear nothing or are cancelled leave the bucket alone, and all others look at it;
    only those who are granted a token take one. -/
theorem serve_cases (l : Limits) (now : Nat) (b : Bucket) (stage : Stage) (wants : Request) :
    serve l now b stage wants = (none, b, stage) ∨
    serve l now b stage wants = (some .cancelled, b, .gone) ∨
    (∃ r next, serve l now b stage wants = (some r, b.refill l now, next) ∧ r ≠ .granted ∧
      (next = .gone ∨ ∃ d, r = .wait d)) ∨
    serve l now b stage wants = (some .granted, (b.take l now).2, .gone) := by
  have refused : ∀ {d b₁}, b.take l now = (.wait d, b₁) → b₁ = b.refill l now := fun h => (take_of_refused h).1
  unfold serve
  split
  · exact .inl rfl
  · exact .inr (.inr (.inl ⟨_, _, rfl, by simp, .inl rfl⟩))
  · split
    · rename_i h
      rw [h]
      exact .inr (.inr (.inr rfl))
    · rename_i h
      rw [refused h]
      exact .inr (.inr (.inl ⟨_, _, rfl, by simp, .inl rfl⟩))
  · split
    · exact .inr (.inl rfl)
    · split
      · exact .inl rfl
      · split
        · rename_i h
          rw [h]
          exact .inr (.inr (.inr rfl))
        · rename_i h
          rw [refused h]
          exact .inr (.inr (.inl ⟨_, _, rfl, by simp, .inr ⟨_, rfl⟩⟩))

/-- Callers hear the same of two buckets that are alike, and leave both alone or make them equal. -/
theorem serve_congr (stage : Stage) (wants : Request) (h : b.refill l now = b'.refill l now) :
    (serve l now b stage wants).1 = (serve l now b' stage wants).1 ∧
    (serve l now b stage wants).2.2 = (serve l now b' stage wants).2.2 ∧
    ((serve l now b stage wants).2.1 = (serve l now b' stage wants).2.1 ∨
      (serve l now b stage wants).2.1 = b ∧ (serve l now b' stage wants).2.1 = b') := by
  have htake : b.take l now = b'.take l now := by
    unfold take
    rw [h]
  have havailable : b.available l now = b'.available l now := by
    unfold available
    rw [h]
  unfold serve
  rw [htake, havailable]
  split
  · exact ⟨rfl, rfl, .inr ⟨rfl, rfl⟩⟩
  · exact ⟨rfl, rfl, .inl rfl⟩
  · exact ⟨rfl, rfl, .inl rfl⟩
  · split
    · exact ⟨rfl, rfl, .inr ⟨rfl, rfl⟩⟩
    · split
      · exact ⟨rfl, rfl, .inr ⟨rfl, rfl⟩⟩
      · exact ⟨rfl, rfl, .inl rfl⟩

theorem updated_take : (b.take l now).2.updated = now := by
  unfold take
  dsimp only
  split <;> rfl

end Serve

/-! ### One turn after another -/

/-- A caller gets its turn at a point in time. -/
structure Turn (ι : Type) where
  time : Nat
  caller : ι
deriving DecidableEq

/-- A bucket, and how far those have come who want something of it. -/
structure Crowd (ι : Type) where
  bucket : Bucket
  stage : ι → Stage := fun _ => .new

namespace Crowd
variable {ι : Type} [DecidableEq ι]

def turn (l : Limits) (wants : ι → Request) (s : Crowd ι) (t : Turn ι) : Option Reply × Crowd ι :=
  let (reply, b, stage) := serve l t.time s.bucket (s.stage t.caller) (wants t.caller)
  (reply, { bucket := b, stage := Function.update s.stage t.caller stage })

/-- What is heard when callers get their turns one after another. -/
def heard (l : Limits) (wants : ι → Request) : Crowd ι → List (Turn ι) → List (Turn ι × Reply)
  | _, [] => []
  | s, t :: ts => ((s.turn l wants t).1.map (t, ·)).toList ++ (s.turn l wants t).2.heard l wants ts

/-- The crowd when all these turns are over. -/
def after (l : Limits) (wants : ι → Request) (s : Crowd ι) (ts : List (Turn ι)) : Crowd ι :=
  ts.foldl (fun s t => (s.turn l wants t).2) s

/-- A caller who takes no token in the end: it only asks how many there are, or its try is refused, or it is cancelled
    while it waits. -/
def TakesNone (wants : ι → Request) (hs : List (Turn ι × Reply)) (i : ι) : Prop :=
  wants i = .available ∨
  wants i = .tryTake ∧ (∃ h ∈ hs, h.1.caller = i ∧ h.2 = .refused) ∨
  (∃ stopAt, wants i = .acquire stopAt) ∧ ∃ h ∈ hs, h.1.caller = i ∧ h.2 = .cancelled

section Turns
variable {l : Limits} {wants : ι → Request} {s s' : Crowd ι} {t : Turn ι} {ts : List (Turn ι)} {i : ι} {r : Reply}

theorem bucket_turn (h : (s.turn l wants t).1 ≠ some .granted) :
    (s.turn l wants t).2.bucket = s.bucket ∨ (s.turn l wants t).2.bucket = s.bucket.refill l t.time := by
  unfold turn at h ⊢
  rcases serve_cases l t.time s.bucket (s.stage t.caller) (wants t.caller) with heq | heq | ⟨r, next, heq, -⟩ | heq <;>
    rw [heq] at h ⊢
  · exact .inl rfl
  · exact .inl rfl
  · exact .inr rfl
  · exact absurd rfl h

/-- The bucket was looked at in this turn, or not since an earlier one. -/
theorem updated_turn (l : Limits) (wants : ι → Request) (s : Crowd ι) (t : Turn ι) :
    (s.turn l wants t).2.bucket.updated = s.bucket.updated ∨ (s.turn l wants t).2.bucket.updated = t.time := by
  unfold turn
  rcases serve_cases l t.time s.bucket (s.stage t.caller) (wants t.caller) with heq | heq | ⟨r, next, heq, -⟩ | heq <;>
    rw [heq]
  · exact .inl rfl
  · exact .inl rfl
  · exact .inr rfl
  · exact .inr updated_take

/-- Who is not told to wait has come to the end. -/
theorem stage_turn (h : (s.turn l wants t).1 = some r) :
    (s.turn l wants t).2.stage t.caller = .gone ∨ ∃ d, r = .wait d := by
  unfold turn at h ⊢
  dsimp only
  rw [Function.update_self]
  rcases serve_cases l t.time s.bucket (s.stage t.caller) (wants t.caller)
    with heq | heq | ⟨r', next, heq, -, hnext⟩ | heq <;> rw [heq] at h ⊢
  · cases h
  · exact .inl rfl
  · cases h
    exact hnext
  · exact .inl rfl

theorem turn_of_gone (h : s.stage t.caller = .gone) : s.turn l wants t = (none, s) := by
  unfold turn
  rw [h]
  show (none, { s with stage := Function.update s.stage t.caller .gone }) = _
  rw [← h, Function.update_eq_self]

theorem stage_turn_of_ne (h : i ≠ t.caller) : (s.turn l wants t).2.stage i = s.stage i := Function.update_of_ne h ..

theorem mem_heard_cons {h : Turn ι × Reply} : h ∈ s.heard l wants (t :: ts) ↔
    h.1 = t ∧ (s.turn l wants t).1 = some h.2 ∨ h ∈ (s.turn l wants t).2.heard l wants ts := by
  obtain ⟨u, r⟩ := h
  simp only [heard, List.mem_append, Option.mem_toList, Option.map_eq_some_iff, Prod.mk.injEq]
  constructor
  · rintro (⟨r', hr, rfl, rfl⟩ | h)
    · exact .inl ⟨rfl, hr⟩
    · exact .inr h
  · rintro (⟨rfl, hr⟩ | h)
    · exact .inl ⟨r, hr, rfl, rfl⟩
    · exact .inr h

/-- Who has come to the end hears nothing more. -/
theorem caller_ne_of_gone (h : s.stage i = .gone) : ∀ x ∈ s.heard l wants ts, x.1.caller ≠ i := by
  induction ts generalizing s with
  | nil => simp [heard]
  | cons t ts ih =>
    intro x hx
    by_cases ht : t.caller = i
    · subst ht
      rw [mem_heard_cons, turn_of_gone h] at hx
      rcases hx with ⟨-, hx⟩ | hx
      · cases hx
      · exact ih h x hx
    · rcases mem_heard_cons.mp hx with ⟨rfl, -⟩ | hx
      · exact ht
      · exact ih ((stage_turn_of_ne (Ne.symm ht)).trans h) x hx

/-- What a caller hears in the end, it hears once. -/
theorem final_unique {x y : Turn ι × Reply} (hx : x ∈ s.heard l wants ts) (hy : y ∈ s.heard l wants ts)
    (same : x.1.caller = y.1.caller) (finalX : ∀ d, x.2 ≠ .wait d) (finalY : ∀ d, y.2 ≠ .wait d) : x = y := by
  induction ts generalizing s with
  | nil => cases hx
  | cons t ts ih =>
    have answered : ∀ {z : Turn ι × Reply}, z.1 = t → (s.turn l wants t).1 = some z.2 → (∀ d, z.2 ≠ .wait d) →
        ∀ w ∈ (s.turn l wants t).2.heard l wants ts, w.1.caller ≠ z.1.caller := fun {z} ht hz final => by
      rw [ht]
      exact caller_ne_of_gone ((stage_turn hz).resolve_right fun ⟨d, hd⟩ => final d hd)
    -- If only one of the two is heard in this turn, it is the caller's last, and the other is not heard any more.
    rcases mem_heard_cons.mp hx with ⟨htx, hx'⟩ | hx' <;> rcases mem_heard_cons.mp hy with ⟨hty, hy'⟩ | hy'
    · exact Prod.ext (htx.trans hty.symm) (Option.some.inj (hx'.symm.trans hy'))
    · exact absurd same.symm (answered htx hx' finalX y hy')
    · exact absurd same (answered hty hy' finalY x hx')
    · exact ih hx' hy'

theorem exists_turn_of_mem {x : Turn ι × Reply} (hx : x ∈ s.heard l wants ts) :
    ∃ s' : Crowd ι, (s'.turn l wants x.1).1 = some x.2 := by
  induction ts generalizing s with
  | nil => cases hx
  | cons t ts ih =>
    rcases mem_heard_cons.mp hx with ⟨rfl, hx⟩ | hx
    · exact ⟨s, hx⟩
    · exact ih hx

theorem not_granted_of_available (h : wants t.caller = .available) : (s.turn l wants t).1 ≠ some .granted := by
  unfold turn
  rw [h]
  cases s.stage t.caller <;> exact nofun

theorem TakesNone.not_granted (none : TakesNone wants (s.heard l wants ts) i) :
    ∀ x ∈ s.heard l wants ts, x.1.caller = i → x.2 ≠ .granted := by
  intro x hx hcaller hgranted
  have once : ∀ y ∈ s.heard l wants ts, y.1.caller = i → (∀ d, y.2 ≠ .wait d) → y.2 = .granted := by
    intro y hy hy' final
    rw [← hgranted, final_unique hy hx (hy'.trans hcaller.symm) final (by simp [hgranted])]
  rcases none with hwants | ⟨-, y, hy, hcaller', hreply⟩ | ⟨-, y, hy, hcaller', hreply⟩
  · obtain ⟨s', hs'⟩ := exists_turn_of_mem hx
    exact not_granted_of_available (hcaller ▸ hwants) (hgranted ▸ hs')
  · have := once y hy hcaller' (by simp [hreply])
    rw [hreply] at this
    cases this
  · have := once y hy hcaller' (by simp [hreply])
    rw [hreply] at this
    cases this

end Turns

/-! ### With and without those who take none -/

/-- One crowd goes along with another from which some callers are missing: the others have come equally far, and nobody
    can tell the buckets apart. -/
structure Follows (l : Limits) (hidden : ι → Bool) (made now : Nat) (s s' : Crowd ι) : Prop where
  stage : ∀ i, hidden i = false → s'.stage i = s.stage i
  started : made ≤ s.bucket.updated
  looked : s.bucket.updated ≤ now
  alike : Alike l now (made + Span.maxNanos) s.bucket s'.bucket

section Follows
variable {l : Limits} {wants : ι → Request} {hidden : ι → Bool} {made now : Nat} {s s' : Crowd ι} {t : Turn ι}
  {ts : List (Turn ι)}

/-- A turn of a caller who is missing, and takes no token. -/
theorem Follows.hide (f : Follows l hidden made now s s') (exact : l.round = .exact) (rate : 0 ≤ l.rate)
    (later : now ≤ t.time) (missing : hidden t.caller = true) (none : (s.turn l wants t).1 ≠ some .granted) :
    Follows l hidden made t.time (s.turn l wants t).2 s' := by
  have stage : ∀ i, hidden i = false → s'.stage i = (s.turn l wants t).2.stage i := fun i hi => by
    have hne : i ≠ t.caller := fun h => by
      rw [h, missing] at hi
      cases hi
    rw [stage_turn_of_ne hne]
    exact f.stage i hi
  have looked := f.looked.trans later
  rcases bucket_turn none with heq | heq
  · exact ⟨stage, heq ▸ f.started, heq ▸ looked, heq ▸ f.alike.later later⟩
  -- The missing caller looked: its refill is the first part of the one that the others see.
  · refine ⟨stage, heq ▸ f.started.trans looked, heq ▸ Nat.le_refl _, ?_⟩
    rw [heq]
    exact f.alike.refill exact rate later looked (Nat.add_le_add_right f.started _)

/-- A turn of a caller who is there in both. -/
theorem Follows.turn (f : Follows l hidden made now s s') (wants : ι → Request) (later : now ≤ t.time)
    (last : t.time ≤ made + Span.maxNanos) (shown : hidden t.caller = false) :
    (s'.turn l wants t).1 = (s.turn l wants t).1 ∧
      Follows l hidden made t.time (s.turn l wants t).2 (s'.turn l wants t).2 := by
  obtain ⟨reply, stage, bucket⟩ :=
    serve_congr (s.stage t.caller) (wants t.caller) (f.alike t.time later last)
  have hstage := f.stage t.caller shown
  have looked := f.looked.trans later
  have started : made ≤ (s.turn l wants t).2.bucket.updated ∧ (s.turn l wants t).2.bucket.updated ≤ t.time := by
    rcases updated_turn l wants s t with heq | heq <;> rw [heq]
    · exact ⟨f.started, looked⟩
    · exact ⟨f.started.trans looked, Nat.le_refl _⟩
  unfold Crowd.turn at started ⊢
  rw [hstage]
  refine ⟨reply.symm, fun i hi => ?_, started.1, started.2, ?_⟩
  · dsimp only
    by_cases hi' : i = t.caller
    · rw [hi', Function.update_self, Function.update_self, stage]
    · rw [Function.update_of_ne hi', Function.update_of_ne hi', f.stage i hi]
  · rcases bucket with heq | ⟨heq, heq'⟩
    · exact fun u _ _ => congrArg (refill l u) heq
    · show Alike l t.time _ (serve ..).2.1 (serve ..).2.1
      rw [heq, heq']
      exact f.alike.later later

/-- The others hear the same with and without those who are missing. -/
theorem Follows.heard (f : Follows l hidden made now s s') (exact : l.round = .exact) (rate : 0 ≤ l.rate)
    (order : ts.Pairwise (·.time ≤ ·.time)) (times : ∀ t ∈ ts, now ≤ t.time ∧ t.time ≤ made + Span.maxNanos)
    (none : ∀ x ∈ s.heard l wants ts, hidden x.1.caller = true → x.2 ≠ .granted) :
    s'.heard l wants (ts.filter fun t => !hidden t.caller) = (s.heard l wants ts).filter fun x => !hidden x.1.caller := by
  induction ts generalizing s s' now with
  | nil => rfl
  | cons t ts ih =>
    obtain ⟨first, order⟩ := List.pairwise_cons.mp order
    obtain ⟨later, last⟩ := times t List.mem_cons_self
    have times' : ∀ u ∈ ts, t.time ≤ u.time ∧ u.time ≤ made + Span.maxNanos := fun u hu =>
      ⟨first u hu, (times u (List.mem_cons_of_mem _ hu)).2⟩
    have none' := fun x hx => none x (mem_heard_cons.mpr (.inr hx))
    show _ = List.filter _ (((s.turn l wants t).1.map (t, ·)).toList ++ _)
    rw [List.filter_append]
    cases shown : hidden t.caller with
    | true =>
      have quiet : (s.turn l wants t).1 ≠ some .granted := fun h =>
        none (t, .granted) (mem_heard_cons.mpr (.inl ⟨rfl, h⟩)) shown rfl
      have hhead : (((s.turn l wants t).1.map (t, ·)).toList).filter (fun x => !hidden x.1.caller) = [] := by
        cases (s.turn l wants t).1 <;> simp [shown]
      rw [hhead, List.nil_append, List.filter_cons_of_neg (by simp [shown])]
      exact ih (f.hide exact rate later shown quiet) order times' none'
    | false =>
      obtain ⟨reply, f'⟩ := f.turn wants later last shown
      have hhead : (((s.turn l wants t).1.map (t, ·)).toList).filter (fun x => !hidden x.1.caller) =
          ((s.turn l wants t).1.map (t, ·)).toList := by
        cases (s.turn l wants t).1 <;> simp [shown]
      rw [hhead, List.filter_cons_of_pos (by simp [shown]), ← ih f' order times' none', ← reply]
      rfl

end Follows

/-! ### Recorded sessions -/

section Sessions
variable {l : Limits} {wants : ι → Request} {s : Crowd ι} {x : Session} {i : ι} {q : Line} {w : Nat}
  {stopAt : Option Nat}

/-- A session in which somebody tries to take a token, or asks how many there are, is a turn. -/
theorem step_tryTake (bucket : s.bucket = x.bucket) (new : s.stage i = .new) (tries : wants i = .tryTake) :
    (x.step l .tryTake).1 = .taken ((s.turn l wants ⟨x.now, i⟩).1 = some .granted) ∧
      (x.step l .tryTake).2.bucket = (s.turn l wants ⟨x.now, i⟩).2.bucket := by
  unfold turn Session.step
  dsimp only
  rw [new, tries, bucket]
  unfold serve
  rcases x.bucket.take l x.now with ⟨_ | d, b⟩ <;> simp

theorem step_available (bucket : s.bucket = x.bucket) (new : s.stage i = .new) (asks : wants i = .available) :
    (s.turn l wants ⟨x.now, i⟩).1 = some (.tokens (x.bucket.available l x.now).1) ∧
      (x.step l .available).2.bucket = (s.turn l wants ⟨x.now, i⟩).2.bucket := by
  unfold turn
  dsimp only
  rw [new, asks, bucket]
  exact ⟨rfl, rfl⟩

/-- What a caller does in a turn who waits and is not asleep. -/
theorem turn_of_awake {t : Turn ι} (waits : wants t.caller = .acquire stopAt)
    (awake : (s.stage t.caller).isAsleep t.time = false) (going : s.stage t.caller ≠ .gone) :
    s.turn l wants t =
      if stopAt.any (· ≤ t.time) then (some .cancelled, { s with stage := Function.update s.stage t.caller .gone })
      else
        match s.bucket.take l t.time with
        | (.granted, b) => (some .granted, { bucket := b, stage := Function.update s.stage t.caller .gone })
        | (.wait d, b) =>
          (some (.wait d), { bucket := b, stage := Function.update s.stage t.caller (.asleep (Clock.timer t.time d)) }) := by
  unfold turn
  rw [waits, serve_acquire going, awake]
  by_cases fired : stopAt.any (· ≤ t.time) = true
  · rw [if_pos fired, if_pos fired]
  · rw [if_neg fired, if_neg fired, if_neg Bool.false_ne_true]
    rcases s.bucket.take l t.time with ⟨_ | d, b⟩ <;> rfl

theorem run_of_nil (h : q.waiting = []) (n : Nat) : q.run l stopAt n = q := by
  cases n with
  | zero => rfl
  | succ n =>
    unfold Line.run
    rw [show q.next? = none by unfold Line.next?; rw [h]; rfl]

theorem run_of_fired (waiting : q.waiting = [w]) (fired : stopAt.any (· ≤ w) = true) (n : Nat) :
    (q.run l stopAt (n + 1)).bucket = q.bucket ∧ (q.run l stopAt (n + 1)).admitted = q.admitted := by
  unfold Line.run
  rw [show q.next? = some w by unfold Line.next?; rw [waiting]; rfl]
  cases stopAt with
  | none => cases fired
  | some c =>
    dsimp only
    rw [if_pos (by simpa using fired)]
    exact ⟨rfl, rfl⟩

theorem run_of_look (waiting : q.waiting = [w]) (fired : stopAt.any (· ≤ w) = false) (n : Nat) :
    q.run l stopAt (n + 1) = (q.look l w).run l stopAt n := by
  conv_lhs => unfold Line.run
  rw [show q.next? = some w by unfold Line.next?; rw [waiting]; rfl]
  cases stopAt with
  | none => rfl
  | some c =>
    dsimp only
    rw [if_neg (by simpa using fired)]

/-- A line of one caller is what the caller does in some turns. -/
theorem exists_turns_of_line (n : Nat) (bucket : s.bucket = q.bucket) (waits : wants i = .acquire stopAt)
    (waiting : q.waiting = [w]) (awake : (s.stage i).isAsleep w = false) (going : s.stage i ≠ .gone) :
    ∃ ts, (∀ t ∈ ts, t.caller = i) ∧ (s.after l wants ts).bucket = (q.run l stopAt n).bucket ∧
      ((∃ t, (t, .granted) ∈ s.heard l wants ts) ↔ (q.run l stopAt n).admitted ≠ q.admitted) := by
  induction n generalizing q s w with
  | zero => exact ⟨[], by simp, bucket, by simp [heard, Line.run]⟩
  | succ n ih =>
    have hturn := turn_of_awake (l := l) (t := ⟨w, i⟩) waits awake going
    cases fired : stopAt.any (· ≤ w) with
    | true =>
      obtain ⟨hbucket, hadmitted⟩ := run_of_fired (l := l) waiting fired n
      rw [if_pos fired] at hturn
      refine ⟨[⟨w, i⟩], by simp, ?_, ?_⟩
      · rw [hbucket, ← bucket]
        show (s.turn l wants ⟨w, i⟩).2.bucket = _
        rw [hturn]
      · simp [heard, hturn, hadmitted]
    | false =>
      rw [if_neg (by simp [fired]), bucket] at hturn
      rw [run_of_look waiting fired]
      have hlook : q.look l w = match q.bucket.take l w with
          | (.granted, b) => { now := w, bucket := b, waiting := [], admitted := q.admitted ++ [w] }
          | (.wait d, b) => { now := w, bucket := b, waiting := [Clock.timer w d], admitted := q.admitted } := by
        unfold Line.look
        rw [waiting, List.erase_cons_head]
        rfl
      rcases htake : q.bucket.take l w with ⟨_ | d, b⟩
      · rw [htake] at hturn hlook
        rw [hlook, run_of_nil rfl]
        refine ⟨[⟨w, i⟩], by simp, ?_, ?_⟩
        · show (s.turn l wants ⟨w, i⟩).2.bucket = _
          rw [hturn]
        · simp [heard, hturn]
      · rw [htake] at hturn hlook
        -- It has to wait: what is left of the line begins when its sleep is over.
        obtain ⟨ts, callers, hafter, hheard⟩ := ih (s := (s.turn l wants ⟨w, i⟩).2) (q := q.look l w)
          (w := Clock.timer w d) (by rw [hturn, hlook]) (by rw [hlook]) (by rw [hturn]; simp [Stage.isAsleep])
          (by rw [hturn]; simp)
        refine ⟨⟨w, i⟩ :: ts, by simpa using callers, hafter, ?_⟩
        rw [show q.admitted = (q.look l w).admitted by rw [hlook], ← hheard]
        simp [heard, hturn]

/-- A session in which somebody waits for a token is what a caller does in some turns: it takes one if it is let
    through, and none if it is cancelled. -/
theorem exists_turns_of_acquire (cancelMs : Option Nat) (bucket : s.bucket = x.bucket) (new : s.stage i = .new)
    (waits : wants i = .acquire (cancelMs.map fun ms => Clock.due x.now (Span.ofNanos (ms * 1000000)))) :
    ∃ ts, (∀ t ∈ ts, t.caller = i) ∧ (s.after l wants ts).bucket = (x.step l (.acquire cancelMs)).2.bucket ∧
      ((∃ t, (t, .granted) ∈ s.heard l wants ts) ↔ ∃ waited, (x.step l (.acquire cancelMs)).1 = .admitted waited) := by
  obtain ⟨ts, callers, hafter, hheard⟩ := exists_turns_of_line (l := l) (q := .arrive x.now x.bucket 1) (Line.looks 1)
    bucket waits rfl (by rw [new]; rfl) (by rw [new]; simp)
  refine ⟨ts, callers, hafter.trans ?_, hheard.trans ?_⟩ <;> unfold Session.step Session.settle <;> dsimp only
  · split <;> rename_i heq <;> exact congrArg (fun r => r.2.bucket) heq
  · show Line.admitted _ ≠ [] ↔ _
    cases ((Line.arrive x.now x.bucket 1).run l (cancelMs.map fun ms => Clock.due x.now (Span.ofNanos (ms * 1000000))) (Line.looks 1)).admitted <;>
      simp

end Sessions

/-- Who takes no token is not noticed. For every rate and capacity and all who come to a new bucket, in whatever order
    and as often as they get their turns while the clock can tell the time: if some of them only ask how many tokens
    there are, are refused, or are cancelled while they wait, then all others hear the same with and without those.
    Who is cancelled was never granted a token, and only a turn in which one is granted does more to a bucket than to
    refill it; and who waits and whose stop has fired is cancelled in its next turn, however many tokens there are. -/
theorem heard_without_those_who_take_none {l : Limits} (exact : l.round = .exact) (rate : 0 ≤ l.rate)
    (wants : ι → Request) (made : Nat) (ts : List (Turn ι)) (order : ts.Pairwise (·.time ≤ ·.time))
    (times : ∀ t ∈ ts, made ≤ t.time ∧ t.time ≤ made + Span.maxNanos) :
    let s : Crowd ι := { bucket := .full l made }
    (∀ hidden : ι → Bool, (∀ i, hidden i = true → TakesNone wants (s.heard l wants ts) i) →
      s.heard l wants (ts.filter fun t => !hidden t.caller) = (s.heard l wants ts).filter fun x => !hidden x.1.caller) ∧
    (∀ x ∈ s.heard l wants ts, x.2 = .cancelled →
      ∀ y ∈ s.heard l wants ts, y.1.caller = x.1.caller → y.2 ≠ .granted) ∧
    (∀ (s : Crowd ι) (t : Turn ι), (s.turn l wants t).1 ≠ some .granted →
      (s.turn l wants t).2.bucket = s.bucket ∨ (s.turn l wants t).2.bucket = s.bucket.refill l t.time) ∧
    ∀ (s : Crowd ι) (t : Turn ι) (stopAt : Nat), wants t.caller = .acquire (some stopAt) → stopAt ≤ t.time →
      s.stage t.caller ≠ .gone →
      s.turn l wants t = (some .cancelled, { s with stage := Function.update s.stage t.caller .gone }) := by
  intro s
  refine ⟨fun hidden none => ?_, fun x hx hcancelled y hy same hgranted => ?_, fun _ _ => bucket_turn, ?_⟩
  · have f : Follows l hidden made made s s := ⟨fun _ _ => rfl, Nat.le_refl _, Nat.le_refl _, fun _ _ _ => rfl⟩
    exact f.heard exact rate order times fun x hx missing => (none _ missing).not_granted x hx rfl
  · have heq := final_unique hy hx same (by simp [hgranted]) (by simp [hcancelled])
    rw [heq, hcancelled] at hgranted
    cases hgranted
  · intro s t stopAt hwants hfired hstage
    have fired : (some stopAt).any (· ≤ t.time) = true := decide_eq_true hfired
    unfold turn
    rw [hwants, serve_acquire hstage, if_pos fired]

/-- One takes a token, one asks how many are left, one takes that and one finds none. Of two who wait, one is cancelled
    when a tenth of a second is over, and the other has the next token after a quarter of a second. -/
def busyWants : Nat → Request
  | 1 => .available
  | 4 => .acquire (some 100000000)
  | 5 => .acquire none
  | _ => .tryTake

def busyTurns : List (Turn Nat) :=
  [⟨0, 0⟩, ⟨0, 1⟩, ⟨0, 2⟩, ⟨0, 3⟩, ⟨50000000, 4⟩, ⟨50000000, 5⟩, ⟨100000000, 4⟩, ⟨250000000, 5⟩]

/-- Who takes no token in the end. -/
def busyHidden (i : Nat) : Bool := [1, 3, 4].contains i

def busy : Crowd Nat := { bucket := .full History.sampleLimits 0 }

theorem heard_without_those_who_take_none_busy :
    (∀ i, busyHidden i = true → TakesNone busyWants (busy.heard History.sampleLimits busyWants busyTurns) i) ∧
    busy.heard History.sampleLimits busyWants [⟨0, 0⟩, ⟨0, 2⟩, ⟨50000000, 5⟩, ⟨250000000, 5⟩] =
      [(⟨0, 0⟩, .granted), (⟨0, 2⟩, .granted), (⟨50000000, 5⟩, .wait ⟨200000000, by decide⟩),
        (⟨250000000, 5⟩, .granted)] := by
  have none : ∀ i, busyHidden i = true → TakesNone busyWants (busy.heard History.sampleLimits busyWants busyTurns) i := by
    intro i hi
    have hmem : i = 1 ∨ i = 3 ∨ i = 4 := by simpa [busyHidden] using hi
    rcases hmem with rfl | rfl | rfl
    · exact .inl rfl
    · exact .inr (.inl ⟨rfl, (⟨0, 3⟩, .refused), by decide +kernel, rfl, rfl⟩)
    · exact .inr (.inr ⟨⟨_, rfl⟩, (⟨100000000, 4⟩, .cancelled), by decide +kernel, rfl, rfl⟩)
  refine ⟨none, ?_⟩
  obtain ⟨others, -⟩ := heard_without_those_who_take_none (l := History.sampleLimits) rfl
    (by decide +kernel) busyWants 0 busyTurns (by decide +kernel) (by decide +kernel)
  exact (others busyHidden none).trans (by decide +kernel)

end Crowd

end BatchFetch.Bucket
