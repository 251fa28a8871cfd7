import BatchFetch.Endpoint.Session
import BatchFetch.Proofs.Breaker.Invariant
import BatchFetch.Proofs.Endpoint.Registry
import Mathlib.Data.Finset.Card

/-! # A registry is a family of breakers

Callers come to a registry, each with a target: they look at the breaker of the target, ask it for admission, or report
how a call ended, and a call may hold its permit as long as it likes. Seen from one key the registry is a single breaker,
to which happens what is done at that key and nothing else. -/

namespace BatchFetch

/-! ### What is done at a breaker -/

namespace Breaker

/-- What a caller does at a breaker. A permit that is dropped is reported as neutral. -/
inductive Act (ι : Type) where
  | look
  | ask (call : ι)
  | finish (call : ι) (verdict : Verdict)

/-- What a caller sees of a breaker: the answer if it asked for admission, the state, and the failures. -/
structure View where
  admission : Option Admission
  state : CircuitState
  failures : Nat
deriving DecidableEq

namespace History
variable {ι : Type} [DecidableEq ι]

/-- Something is done at a time. A call asks for a permit only if it holds none, and ends only if it holds one. -/
def act (c : Settings) (now : Nat) (h : History ι) : Act ι → Option Admission × History ι
  | .look => (none, { h with now })
  | .ask i =>
    match h.held i with
    | none => (some (h.breaker.ask c now).answer, { h with now }.ask c i)
    | some _ => (none, { h with now })
  | .finish i v =>
    match h.held i with
    | none => (none, { h with now })
    | some p => (none, { h with now }.finish c i p v)

/-- What is seen of a breaker when one thing after another is done at it. -/
def views (c : Settings) : History ι → List (Nat × Act ι) → List View
  | _, [] => []
  | h, (now, a) :: as =>
    let (admission, h) := h.act c now a
    { admission, state := h.breaker.stateAt c now, failures := h.breaker.failures } :: h.views c as

end History

end Breaker

namespace Registry

/-- The view of its breaker that a caller has in what it sees of a registry. -/
def Sight.view (s : Sight) : Breaker.View := { admission := s.admission, state := s.state, failures := s.failures }

/-- Something is done at the breaker of a target at a time. -/
structure Visit (ι : Type) where
  time : Nat
  target : String
  act : Breaker.Act ι

def Visit.key {ι : Type} (scope : Scope) (v : Visit ι) : String := Endpoint.key scope v.target

/-- A registry, and the permits that calls hold at each key. -/
structure Lent (ι : Type) where
  registry : Registry := {}
  held : String → ι → Option Permit := fun _ _ => none

namespace Lent
variable {ι : Type} [DecidableEq ι]

/-- The registry after a turn of the breaker of a key, when a call holds a permit there or none. -/
def settle (key : String) (call : ι) (p : Option Permit) (registry : Registry) (s : Lent ι) : Lent ι :=
  { registry, held := Function.update s.held key (Function.update (s.held key) call p) }

/-- Something is done at the breaker of a key. -/
def act (c : Breaker.Settings) (now : Nat) (key : String) (s : Lent ι) : Breaker.Act ι → Option Admission × Lent ι
  | .look => (none, s)
  | .ask i =>
    match s.held key i with
    | none =>
      let (t, registry) := s.registry.ask c now key
      match t.answer with
      | .granted p => (some t.answer, s.settle key i (some p) registry)
      | .refused _ => (some t.answer, { s with registry })
    | some _ => (none, s)
  | .finish i v =>
    match s.held key i with
    | none => (none, s)
    | some p => (none, s.settle key i none (s.registry.report c now key p v).2)

/-- A caller looks up the breaker of its target, and does something there. -/
def visit (c : Config.CircuitBreaker) (s : Lent ι) (v : Visit ι) : Sight × Lent ι :=
  let key := v.key c.scope
  let (admission, s) := { s with registry := s.registry.touch key }.act (.ofConfig c) v.time key v.act
  (({ now := v.time, registry := s.registry } : Session).see (.ofConfig c) key admission, s)

/-- What the callers see who come one after another. -/
def sights (c : Config.CircuitBreaker) : Lent ι → List (Visit ι) → List Sight
  | _, [] => []
  | s, v :: vs => (s.visit c v).1 :: (s.visit c v).2.sights c vs

def after (c : Config.CircuitBreaker) (s : Lent ι) (vs : List (Visit ι)) : Lent ι := vs.foldl (fun s v => (s.visit c v).2) s

end Lent

/-! ### One visit -/

/-- A breaker in use goes along with that of a key. -/
structure Tracks {ι : Type} (s : Lent ι) (key : String) (h : Breaker.History ι) : Prop where
  breaker : h.breaker = s.registry.get key
  held : h.held = s.held key

theorem get_touch {r : Registry} {key k : String} : (r.touch key).get k = r.get k := by
  unfold touch
  rw [get_put]
  split
  · rename_i hk
    rw [hk]
  · rfl

theorem Tracks.touch {ι : Type} {s : Lent ι} {k : String} {h : Breaker.History ι} (ht : Tracks s k h) (key : String) :
    Tracks { s with registry := s.registry.touch key } k h :=
  ⟨ht.breaker.trans get_touch.symm, ht.held⟩

section Visits
variable {ι : Type} [DecidableEq ι] {c : Config.CircuitBreaker} {settings : Breaker.Settings} {s : Lent ι} {v : Visit ι}
  {key k : String} {now : Nat} {h : Breaker.History ι} {i : ι} {p : Option Permit} {b : Breaker}

theorem Tracks.settle (breaker : h.breaker = b) (held : h.held = Function.update (s.held key) i p) :
    Tracks (s.settle key i p (s.registry.put key b)) key h where
  breaker := by
    show _ = (s.registry.put key b).get key
    rw [breaker, get_put, if_pos rfl]
  held := by
    show _ = Function.update s.held key _ key
    rw [held, Function.update_self]

theorem Tracks.settle_of_ne (ht : Tracks s k h) (hk : k ≠ key) : Tracks (s.settle key i p (s.registry.put key b)) k h where
  breaker := by
    show _ = (s.registry.put key b).get k
    rw [get_put, if_neg hk]
    exact ht.breaker
  held := by
    show _ = Function.update s.held key _ k
    rw [Function.update_of_ne hk]
    exact ht.held

/-- What is done at the breaker of a key is done at the one that goes along with it. -/
theorem Tracks.act (ht : Tracks s key h) (a : Breaker.Act ι) :
    (s.act settings now key a).1 = (h.act settings now a).1 ∧
      Tracks (s.act settings now key a).2 key (h.act settings now a).2 := by
  obtain ⟨before, b, held, es⟩ := h
  obtain rfl : b = s.registry.get key := ht.breaker
  obtain rfl : held = s.held key := ht.held
  cases a with
  | look => exact ⟨rfl, rfl, rfl⟩
  | ask i =>
    cases hp : s.held key i with
    | some p =>
      simp only [Lent.act, Breaker.History.act, hp]
      exact ⟨trivial, rfl, rfl⟩
    | none =>
      simp only [Lent.act, Breaker.History.act, hp, Registry.ask]
      cases answer : ((s.registry.get key).ask settings now).answer with
      | granted p =>
        rw [Breaker.History.ask_of_granted (p := p) answer]
        exact ⟨rfl, .settle rfl rfl⟩
      | refused d =>
        rw [Breaker.History.ask_of_refused (d := d) answer]
        refine ⟨rfl, ?_, rfl⟩
        show _ = (s.registry.put key _).get key
        rw [get_put, if_pos rfl]
  | finish i v =>
    cases hp : s.held key i with
    | none =>
      simp only [Lent.act, Breaker.History.act, hp]
      exact ⟨trivial, rfl, rfl⟩
    | some p =>
      simp only [Lent.act, Breaker.History.act, hp, Registry.report]
      exact ⟨trivial, .settle rfl rfl⟩

/-- What an act at a key does to a registry: nothing, or a turn of the breaker of that key. -/
theorem act_cases (settings : Breaker.Settings) (now : Nat) (key : String) (s : Lent ι) (a : Breaker.Act ι) :
    (s.act settings now key a).2 = s ∨ ∃ b, (s.act settings now key a).2 = { s with registry := s.registry.put key b } ∨
      ∃ i p, (s.act settings now key a).2 = s.settle key i p (s.registry.put key b) := by
  cases a with
  | look => exact .inl rfl
  | ask i =>
    cases hp : s.held key i with
    | some p => exact .inl (by simp only [Lent.act, hp])
    | none =>
      simp only [Lent.act, hp, Registry.ask]
      split
      · exact .inr ⟨_, .inr ⟨_, _, rfl⟩⟩
      · exact .inr ⟨_, .inl rfl⟩
  | finish i v =>
    cases hp : s.held key i with
    | none => exact .inl (by simp only [Lent.act, hp])
    | some p =>
      simp only [Lent.act, hp, Registry.report]
      exact .inr ⟨_, .inr ⟨_, _, rfl⟩⟩

/-- What is done at one key leaves the breakers of the others alone. -/
theorem Tracks.act_of_ne (ht : Tracks s k h) (hk : k ≠ key) (a : Breaker.Act ι) :
    Tracks (s.act settings now key a).2 k h := by
  rcases act_cases settings now key s a with heq | ⟨b, heq | ⟨i, p, heq⟩⟩ <;> rw [heq]
  · exact ht
  · refine ⟨?_, ht.held⟩
    show _ = (s.registry.put key b).get k
    rw [get_put, if_neg hk]
    exact ht.breaker
  · exact ht.settle_of_ne hk

/-- No act adds a key to a registry that has the key where it is done. -/
theorem keys_act (hkey : key ∈ s.registry.keys) (a : Breaker.Act ι) :
    (s.act settings now key a).2.registry.keys = s.registry.keys := by
  have put : ∀ b, (s.registry.put key b).keys = s.registry.keys := fun b => by rw [keys_put, if_pos hkey]
  rcases act_cases settings now key s a with heq | ⟨b, heq | ⟨i, p, heq⟩⟩ <;> rw [heq]
  · exact put b
  · exact put b

/-- A visit adds the key of its target, if it is new. -/
theorem keys_visit : (s.visit c v).2.registry.keys = (s.registry.touch (v.key c.scope)).keys :=
  keys_act (s := { s with registry := s.registry.touch (v.key c.scope) }) (mem_keys_put.mpr (.inr rfl)) v.act

theorem Tracks.visit (ht : Tracks s (v.key c.scope) h) :
    (s.visit c v).1.admission = (h.act (.ofConfig c) v.time v.act).1 ∧
      Tracks (s.visit c v).2 (v.key c.scope) (h.act (.ofConfig c) v.time v.act).2 := (ht.touch _).act v.act

theorem Tracks.visit_of_ne (ht : Tracks s k h) (hk : k ≠ v.key c.scope) : Tracks (s.visit c v).2 k h :=
  (ht.touch _).act_of_ne hk v.act

theorem Tracks.view (ht : Tracks s (v.key c.scope) h) :
    (s.visit c v).1.view =
      { admission := (h.act (.ofConfig c) v.time v.act).1
        state := (h.act (.ofConfig c) v.time v.act).2.breaker.stateAt (.ofConfig c) v.time
        failures := (h.act (.ofConfig c) v.time v.act).2.breaker.failures } := by
  obtain ⟨hadmission, hafter⟩ := ht.visit
  rw [hafter.breaker, ← hadmission]
  rfl

theorem key_visit : (s.visit c v).1.key = v.key c.scope := rfl

theorem size_visit : (s.visit c v).1.size = (s.visit c v).2.registry.size := rfl

theorem mem_keys_visit : k ∈ (s.visit c v).2.registry.keys ↔ k ∈ s.registry.keys ∨ k = v.key c.scope := by
  rw [keys_visit]
  exact mem_keys_put

theorem nodup_keys_visit (h : s.registry.keys.Nodup) : (s.visit c v).2.registry.keys.Nodup := by
  rw [keys_visit]
  exact nodup_keys_put h

theorem place_keys_visit (h : k ∈ s.registry.keys) : (s.visit c v).2.registry.place k = s.registry.place k := by
  have hkeys := keys_visit (c := c) (s := s) (v := v)
  unfold place
  rw [hkeys]
  exact place_put h

end Visits

/-! ### One visit after another -/

section Sights
variable {ι : Type} [DecidableEq ι] {c : Config.CircuitBreaker} {s : Lent ι} {vs : List (Visit ι)} {k : String} {n : Nat}
  {h : Breaker.History ι}

theorem after_append {ws : List (Visit ι)} : s.after c (vs ++ ws) = (s.after c vs).after c ws := List.foldl_append

theorem length_sights : ∀ {vs : List (Visit ι)} {s : Lent ι}, (s.sights c vs).length = vs.length
  | [], _ => rfl
  | _ :: _, _ => congrArg Nat.succ length_sights

theorem keys_sights : ∀ {vs : List (Visit ι)} {s : Lent ι}, (s.sights c vs).map Sight.key = vs.map (Visit.key c.scope)
  | [], _ => rfl
  | _ :: _, _ => congrArg (List.cons _) keys_sights

/-- Each caller comes to the registry as those before it left it. -/
theorem getElem_sights : ∀ {vs : List (Visit ι)} {s : Lent ι} {n : Nat} (hn : n < vs.length),
    (s.sights c vs)[n]? = some ((s.after c (vs.take n)).visit c vs[n]).1
  | _ :: _, _, 0, _ => rfl
  | _ :: vs, s, n + 1, hn => by
    show (Lent.sights c _ vs)[n]? = _
    rw [getElem_sights (Nat.lt_of_succ_lt_succ hn)]
    rfl

theorem mem_keys_after : k ∈ (s.after c vs).registry.keys ↔ k ∈ s.registry.keys ∨ k ∈ vs.map (Visit.key c.scope) := by
  induction vs generalizing s with
  | nil => simp [Lent.after]
  | cons v vs ih =>
    show k ∈ ((s.visit c v).2.after c vs).registry.keys ↔ _
    rw [ih, mem_keys_visit, List.map_cons, List.mem_cons, or_assoc]

theorem nodup_keys_after (h : s.registry.keys.Nodup) : (s.after c vs).registry.keys.Nodup := by
  induction vs generalizing s with
  | nil => exact h
  | cons v vs ih => exact ih (nodup_keys_visit h)

/-- A key keeps its place. -/
theorem place_after (h : k ∈ s.registry.keys) : (s.after c vs).registry.place k = s.registry.place k := by
  induction vs generalizing s with
  | nil => rfl
  | cons v vs ih => exact (ih (mem_keys_visit.mpr (.inl h))).trans (place_keys_visit h)

theorem after_take_succ (hn : n < vs.length) :
    s.after c (vs.take (n + 1)) = ((s.after c (vs.take n)).visit c vs[n]).2 := by
  rw [List.take_succ_eq_append_getElem hn, after_append]
  rfl

/-- There is a breaker for each key that callers came for. -/
theorem size_after : (({} : Lent ι).after c vs).registry.size = (vs.map (Visit.key c.scope)).toFinset.card := by
  have hnodup : (({} : Lent ι).after c vs).registry.keys.Nodup := nodup_keys_after List.nodup_nil
  rw [size_eq, ← List.toFinset_card_of_nodup hnodup]
  congr 1
  ext k
  rw [List.mem_toFinset, List.mem_toFinset, mem_keys_after]
  exact or_iff_right List.not_mem_nil

theorem sizes_sights :
    (({} : Lent ι).sights c vs).map Sight.size =
      (List.range vs.length).map (fun n => ((vs.take (n + 1)).map (Visit.key c.scope)).toFinset.card) := by
  refine List.ext_getElem? fun n => ?_
  rw [List.getElem?_map, List.getElem?_map]
  rcases Nat.lt_or_ge n vs.length with hn | hn
  · rw [getElem_sights hn, List.getElem?_range hn, Option.map_some, Option.map_some, size_visit, ← after_take_succ hn,
      size_after]
  · rw [List.getElem?_eq_none (length_sights.trans_le hn), List.getElem?_eq_none (List.length_range.trans_le hn)]
    rfl

/-- What a caller saw as the place of its breaker is the place of the key from then on. -/
theorem place_of_mem_sights {a : Sight} (ha : a ∈ s.sights c vs) :
    a.key ∈ (s.after c vs).registry.keys ∧ a.place = (s.after c vs).registry.place a.key := by
  induction vs generalizing s with
  | nil => cases ha
  | cons v vs ih =>
    rcases List.mem_cons.mp ha with rfl | ha
    · have hkey : v.key c.scope ∈ (s.visit c v).2.registry.keys := mem_keys_visit.mpr (.inr rfl)
      exact ⟨(mem_keys_after (s := (s.visit c v).2)).mpr (.inl hkey), (place_after hkey).symm⟩
    · exact ih ha

/-- Those who come for a key see what they would see of a breaker of their own, to which happens only what they do. -/
theorem Tracks.views (ht : Tracks s k h) :
    ((s.sights c vs).filter (·.key = k)).map Sight.view =
      h.views (.ofConfig c) ((vs.filter (·.key c.scope = k)).map fun v => (v.time, v.act)) := by
  induction vs generalizing s h with
  | nil => rfl
  | cons v vs ih =>
    by_cases hk : v.key c.scope = k
    · subst hk
      have hhead := ht.view (v := v)
      have htail := ih ht.visit.2
      simp only [Lent.sights, List.filter_cons, key_visit, decide_true, if_true, List.map_cons, Breaker.History.views,
        hhead, htail]
    · have htail := ih (ht.visit_of_ne (v := v) (Ne.symm hk))
      simpa only [Lent.sights, List.filter_cons, key_visit, hk, decide_false, Bool.false_eq_true, if_false] using htail

end Sights

/-! ### Recorded sessions -/

section Sessions
variable {ι : Type} [DecidableEq ι] {c : Config.CircuitBreaker} {s : Lent ι} {x : Session} {target : String} {i : ι}
  {verdict : Verdict}

/-- A lookup is a visit by a caller who only looks. -/
theorem step_lookup (hr : s.registry = x.registry) :
    (x.step c.scope (.ofConfig c) (.lookup target)).1 = some (s.visit c ⟨x.now, target, .look⟩).1 ∧
      (x.step c.scope (.ofConfig c) (.lookup target)).2.registry = (s.visit c ⟨x.now, target, .look⟩).2.registry := by
  obtain ⟨r, held⟩ := s
  obtain rfl : r = x.registry := hr
  exact ⟨rfl, rfl⟩

/-- A call is two visits: one asks for admission, and one ends the call if it was let through. -/
theorem step_call (hr : s.registry = x.registry) (free : s.held (Endpoint.key c.scope target) i = none) :
    let asked := s.visit c ⟨x.now, target, .ask i⟩
    let ended := asked.2.visit c ⟨x.now, target, .finish i verdict⟩
    (x.step c.scope (.ofConfig c) (.call target verdict)).1 = some { ended.1 with admission := asked.1.admission } ∧
      (x.step c.scope (.ofConfig c) (.call target verdict)).2.registry = ended.2.registry := by
  obtain ⟨r, held⟩ := s
  obtain rfl : r = x.registry := hr
  change held (Endpoint.key c.scope target) i = none at free
  cases answer : ((x.registry.get (Endpoint.key c.scope target)).ask (.ofConfig c) x.now).answer with
  | refused d =>
    simp only [Session.step, Session.call, Lent.visit, Visit.key, Lent.act, Registry.ask, Registry.touch, Session.see,
      free, answer, get_put, put_put, if_true]
    exact ⟨trivial, trivial⟩
  | granted p =>
    simp only [Session.step, Session.call, Lent.visit, Visit.key, Lent.act, Lent.settle, Registry.ask, Registry.report,
      Registry.touch, Session.see, free, answer, get_put, put_put, if_true, Function.update_self]
    exact ⟨trivial, trivial⟩

end Sessions

/-- A registry is a family of independent breakers, one for each endpoint key. Whoever comes, for whatever target and to do
    what, two callers find the same breaker if and only if their targets have the same key; that breaker is kept under the
    key; there are as many breakers as there were different keys so far; and what is seen at a key are the answers, states
    and failures of a single new breaker that gets only what was done there. -/
theorem family_of_breakers {ι : Type} [DecidableEq ι] (c : Config.CircuitBreaker) (vs : List (Visit ι)) :
    let seen := ({} : Lent ι).sights c vs
    let r := (({} : Lent ι).after c vs).registry
    seen.map Sight.key = vs.map (Visit.key c.scope) ∧
      (∀ a ∈ seen, ∀ b ∈ seen, a.place = b.place ↔ a.key = b.key) ∧
      (∀ a ∈ seen, r.breakers[a.place]? = some (a.key, r.get a.key)) ∧
      seen.map Sight.size =
        (List.range vs.length).map (fun n => ((vs.take (n + 1)).map (Visit.key c.scope)).toFinset.card) ∧
      r.size = (vs.map (Visit.key c.scope)).toFinset.card ∧ (r.isEmpty = true ↔ r.size = 0) ∧
      ∀ key, (seen.filter (·.key = key)).map Sight.view =
        ({ now := 0 } : Breaker.History ι).views (.ofConfig c)
          ((vs.filter (·.key c.scope = key)).map fun v => (v.time, v.act)) := by
  intro seen r
  refine ⟨keys_sights, fun a ha b hb => ?_, fun a ha => ?_, sizes_sights, size_after, isEmpty_iff, fun key => ?_⟩
  · obtain ⟨hkey, hplace⟩ := place_of_mem_sights ha
    rw [hplace, (place_of_mem_sights hb).2]
    exact place_inj hkey
  · obtain ⟨hkey, hplace⟩ := place_of_mem_sights ha
    rw [hplace]
    exact entry_at_place hkey
  · exact Tracks.views ⟨rfl, rfl⟩

end Registry

end BatchFetch
