import BatchFetch.RateLimit.Bucket
import Mathlib.Logic.Function.Basic

/-! # The history of a bucket

Callers try to take a token, ask how many there are, or wait for one: who waits looks at the bucket, sleeps
for as long as it is told, and looks again, until it has a token or is cancelled. Any number of callers may
do so, in any order, while time goes on. Whatever a caller does, the bucket is left alone, or refilled, or
loses one token after that. -/

namespace BatchFetch.Bucket

/-- A bucket in use. -/
structure History (ι : Type) where
  now : Nat
  bucket : Bucket
  /-- When those who wait for a token look at the bucket again. -/
  waiting : ι → Option Nat := fun _ => none
  /-- When tokens were taken, the latest last. -/
  taken : List Nat := []

namespace History

section Looks
variable {ι : Type} {l : Limits} {h : History ι}

/-- Somebody wants a token, and takes it if there is one. -/
def look (l : Limits) (h : History ι) : History ι :=
  let (answer, b) := h.bucket.take l h.now
  { h with bucket := b, taken := if answer = .granted then h.taken ++ [h.now] else h.taken }

/-- A step leaves the bucket alone, or refills it, or takes one token after that. -/
inductive Served (l : Limits) (h h' : History ι) : Prop where
  | alone (later : h.now ≤ h'.now) (bucket : h'.bucket = h.bucket) (taken : h'.taken = h.taken)
  | refilled (now : h'.now = h.now) (bucket : h'.bucket = h.bucket.refill l h.now) (taken : h'.taken = h.taken)
  | granted (now : h'.now = h.now) (enough : 1 ≤ (h.bucket.refill l h.now).tokens)
      (bucket : h'.bucket = { tokens := l.round ((h.bucket.refill l h.now).tokens - 1), updated := h.now })
      (taken : h'.taken = h.taken ++ [h.now])

theorem look_of_enough (enough : 1 ≤ (h.bucket.refill l h.now).tokens) :
    h.look l =
      { h with
        bucket := { tokens := l.round ((h.bucket.refill l h.now).tokens - 1), updated := h.now }
        taken := h.taken ++ [h.now] } := by
  have htake : h.bucket.take l h.now =
      (.granted, { tokens := l.round ((h.bucket.refill l h.now).tokens - 1), updated := h.now }) := if_pos enough
  unfold look
  rw [htake]
  rfl

theorem look_of_short (short : ¬1 ≤ (h.bucket.refill l h.now).tokens) :
    h.look l = { h with bucket := h.bucket.refill l h.now } := by
  have htake : h.bucket.take l h.now = (.wait ((h.bucket.refill l h.now).wait l), h.bucket.refill l h.now) :=
    if_neg short
  unfold look
  rw [htake]
  rfl

theorem served_look : Served l h (h.look l) := by
  by_cases enough : 1 ≤ (h.bucket.refill l h.now).tokens
  · rw [look_of_enough enough]
    exact .granted rfl enough rfl rfl
  · rw [look_of_short enough]
    exact .refilled rfl rfl rfl

end Looks

section Steps
variable {ι : Type} [DecidableEq ι] {l : Limits} {h h' : History ι}

/-- A caller who waits looks at the bucket. It is through, or learns when to look again. -/
def poll (l : Limits) (i : ι) (h : History ι) : History ι :=
  let wake : Option Nat :=
    match (h.bucket.take l h.now).1 with
    | .granted => none
    | .wait d => some (Clock.timer h.now d)
  { h.look l with waiting := Function.update h.waiting i wake }

/-- What can happen to a bucket. -/
inductive Step (l : Limits) : History ι → History ι → Prop where
  | wait {h : History ι} (t : Nat) (later : h.now ≤ t) : Step l h { h with now := t }
  /-- A caller tries to take a token, and does not wait. -/
  | tryTake {h : History ι} : Step l h (h.look l)
  | available {h : History ι} : Step l h { h with bucket := (h.bucket.available l h.now).2 }
  /-- A caller who is ready to wait comes, and looks at once. -/
  | come {h : History ι} (i : ι) (new : h.waiting i = none) :
      Step l h { h with waiting := Function.update h.waiting i (some h.now) }
  | poll {h : History ι} (i : ι) (wake : Nat) (waits : h.waiting i = some wake) (due : wake ≤ h.now) :
      Step l h (h.poll l i)
  /-- A caller waits no longer. -/
  | cancel {h : History ι} (i : ι) : Step l h { h with waiting := Function.update h.waiting i none }

/-- What a bucket can come to that was full at its start. -/
inductive Reachable (l : Limits) : History ι → Prop where
  | start (now : Nat) : Reachable l { now, bucket := .full l now }
  | step {h h' : History ι} (reach : Reachable l h) (hs : Step l h h') : Reachable l h'

theorem Step.served (hs : Step l h h') : Served l h h' := by
  cases hs with
  | wait t later => exact .alone later rfl rfl
  | tryTake => exact served_look
  | available => exact .refilled rfl rfl rfl
  | come i _ => exact .alone (Nat.le_refl _) rfl rfl
  | poll i wake _ _ =>
    -- Who waits and who does not are served alike.
    cases served_look (l := l) (h := h) with
    | alone later bucket taken => exact .alone later bucket taken
    | refilled now bucket taken => exact .refilled now bucket taken
    | granted now enough bucket taken => exact .granted now enough bucket taken
  | cancel i => exact .alone (Nat.le_refl _) rfl rfl

end Steps

end History

end BatchFetch.Bucket
