import BatchFetch.Proofs.Config.Fields

/-! # The schema

All fields of a configuration, section by section, with what their values may be. -/

namespace BatchFetch.Config

/-- A field that is known: its name, what its value may be, and the plain value that a section shows for it. -/
structure Known (σ : Type) where
  name : String
  kind : Kind
  shown : σ → Option Toml

section Known
variable {σ α : Type} {d : σ} {k : Known σ} {fit : Fit α} {put : σ → α → σ} {name : String} {kind : Kind}
  {shown : σ → Option Toml}

/-- A field shows the value that was written for it, or else the default. -/
def Known.law (d : σ) (k : Known σ) : Law σ where
  name := k.name
  Fits := k.kind.Fits
  Written v s := k.shown s = some (k.kind.plain v)
  Missing s := k.shown s = k.shown d

theorem obeys_field {write : α → Toml} (reads : fit.Reads kind write)
    (h : ∀ s x, shown (put s x) = some (write x)) : (field name fit put).Obeys (Known.law d ⟨name, kind, shown⟩) where
  name := rfl
  accepts s v := by
    show (∃ t, (fit v).map (put s) = some t) ↔ kind.Fits v
    rw [← reads.accepts v]
    simp
  sets s v t heq := by
    obtain ⟨x, hx, rfl⟩ := Option.map_eq_some_iff.mp heq
    show shown (put s x) = some (kind.plain v)
    rw [h, reads.writes v x hx]

theorem spares_field (h : ∀ s x, k.shown (put s x) = k.shown s) : (field name fit put).Spares (k.law d) := by
  intro s v t heq
  obtain ⟨x, -, rfl⟩ := Option.map_eq_some_iff.mp heq
  exact ⟨fun w hw => (h s x).trans hw, fun hs => (h s x).trans hs⟩

end Known

/-! ### Sections -/

def RateLimit.known : List (Known RateLimit) :=
  [⟨"requests_per_second", .number, fun s => some (.float s.requestsPerSecond)⟩,
    ⟨"burst_size", .unsigned 0x100000000, fun s => some (.integer s.burstSize.toNat)⟩]

def Retries.known : List (Known Retries) :=
  [⟨"max_retries", .unsigned 0x100000000, fun s => some (.integer s.maxRetries.toNat)⟩,
    ⟨"base_delay_ms", .unsigned 0x10000000000000000, fun s => some (.integer s.baseDelayMs.toNat)⟩,
    ⟨"max_delay_ms", .unsigned 0x10000000000000000, fun s => s.maxDelayMs.map fun n => .integer n.toNat⟩,
    ⟨"jitter", .boolean, fun s => some (.boolean s.jitter)⟩,
    ⟨"retry_server_errors", .boolean, fun s => some (.boolean s.retryServerErrors)⟩]

def CircuitBreaker.known : List (Known CircuitBreaker) :=
  [⟨"failure_threshold", .unsigned 0x100000000, fun s => some (.integer s.failureThreshold.toNat)⟩,
    ⟨"open_duration_ms", .unsigned 0x10000000000000000, fun s => some (.integer s.openDurationMs.toNat)⟩,
    ⟨"scope", .oneOf ["url", "host", "global"], fun s => some (.string s.scope.name)⟩]

def Dispatch.known : List (Known Dispatch) :=
  [⟨"max_concurrency", .unsigned 0x10000000000000000, fun s => s.maxConcurrency.map fun n => .integer n.toNat⟩,
    ⟨"batch_timeout_secs", .unsigned 0x10000000000000000, fun s => some (.integer s.batchTimeoutSecs.toNat)⟩]

def Transport.known : List (Known Transport) :=
  [⟨"connect_timeout_ms", .unsigned 0x10000000000000000, fun s => some (.integer s.connectTimeoutMs.toNat)⟩,
    ⟨"request_timeout_ms", .unsigned 0x10000000000000000, fun s => some (.integer s.requestTimeoutMs.toNat)⟩,
    ⟨"read_timeout_ms", .unsigned 0x10000000000000000, fun s => some (.integer s.readTimeoutMs.toNat)⟩,
    ⟨"pool_max_idle_per_host", .unsigned 0x10000000000000000, fun s => some (.integer s.poolMaxIdlePerHost.toNat)⟩,
    ⟨"pool_idle_timeout_secs", .unsigned 0x10000000000000000, fun s => some (.integer s.poolIdleTimeoutSecs.toNat)⟩,
    ⟨"user_agent", .text, fun s => some (.string s.userAgent)⟩]

def Observability.known : List (Known Observability) :=
  [⟨"log_level", .text, fun s => some (.string s.logLevel)⟩,
    ⟨"log_format", .oneOf ["pretty", "json"], fun s => some (.string s.logFormat.name)⟩,
    ⟨"metrics_enabled", .boolean, fun s => some (.boolean s.metricsEnabled)⟩,
    ⟨"metrics_address", .text, fun s => some (.string s.metricsAddress)⟩]

theorem RateLimit.governed (d : RateLimit) : Governed RateLimit.fields (RateLimit.known.map (·.law d)) := by
  refine .cons (obeys_field Fit.reads_binary64 fun _ _ => rfl) ?_ ?_ <|
    .cons (obeys_field Fit.reads_uint32 fun _ _ => rfl) ?_ ?_ .nil
  all_goals simp [spares_field]

theorem Retries.governed (d : Retries) : Governed Retries.fields (Retries.known.map (·.law d)) := by
  refine .cons (obeys_field Fit.reads_uint32 fun _ _ => rfl) ?_ ?_ <|
    .cons (obeys_field Fit.reads_uint64 fun _ _ => rfl) ?_ ?_ <|
    .cons (obeys_field Fit.reads_uint64 fun _ _ => rfl) ?_ ?_ <|
    .cons (obeys_field Fit.reads_boolean fun _ _ => rfl) ?_ ?_ <|
    .cons (obeys_field Fit.reads_boolean fun _ _ => rfl) ?_ ?_ .nil
  all_goals simp [spares_field]

theorem CircuitBreaker.governed (d : CircuitBreaker) :
    Governed CircuitBreaker.fields (CircuitBreaker.known.map (·.law d)) := by
  refine .cons (obeys_field Fit.reads_uint32 fun _ _ => rfl) ?_ ?_ <|
    .cons (obeys_field Fit.reads_uint64 fun _ _ => rfl) ?_ ?_ <|
    .cons (obeys_field (Fit.reads_oneOf Scope.name Scope.all) fun _ _ => rfl) ?_ ?_ .nil
  all_goals simp [spares_field]

theorem Dispatch.governed (d : Dispatch) : Governed Dispatch.fields (Dispatch.known.map (·.law d)) := by
  refine .cons (obeys_field Fit.reads_uint64 fun _ _ => rfl) ?_ ?_ <|
    .cons (obeys_field Fit.reads_uint64 fun _ _ => rfl) ?_ ?_ .nil
  all_goals simp [spares_field]

theorem Transport.governed (d : Transport) : Governed Transport.fields (Transport.known.map (·.law d)) := by
  refine .cons (obeys_field Fit.reads_uint64 fun _ _ => rfl) ?_ ?_ <|
    .cons (obeys_field Fit.reads_uint64 fun _ _ => rfl) ?_ ?_ <|
    .cons (obeys_field Fit.reads_uint64 fun _ _ => rfl) ?_ ?_ <|
    .cons (obeys_field Fit.reads_uint64 fun _ _ => rfl) ?_ ?_ <|
    .cons (obeys_field Fit.reads_uint64 fun _ _ => rfl) ?_ ?_ <|
    .cons (obeys_field Fit.reads_string fun _ _ => rfl) ?_ ?_ .nil
  all_goals simp [spares_field]

theorem Observability.governed (d : Observability) :
    Governed Observability.fields (Observability.known.map (·.law d)) := by
  refine .cons (obeys_field Fit.reads_string fun _ _ => rfl) ?_ ?_ <|
    .cons (obeys_field (Fit.reads_oneOf LogFormat.name LogFormat.all) fun _ _ => rfl) ?_ ?_ <|
    .cons (obeys_field Fit.reads_boolean fun _ _ => rfl) ?_ ?_ <|
    .cons (obeys_field Fit.reads_string fun _ _ => rfl) ?_ ?_ .nil
  all_goals simp [spares_field]

/-! ### The whole configuration -/

/-- A field of a section as a field of what the section is part of. -/
def Known.within {σ τ : Type} (get : τ → σ) (k : Known σ) : Known τ where
  name := k.name
  kind := k.kind
  shown c := k.shown (get c)

/-- A section that is known: its name, and its fields in order. -/
structure Part where
  name : String
  known : List (Known Config)

/-- All sections with all their fields. -/
def schema : List Part :=
  [⟨"rate_limit", RateLimit.known.map (·.within rateLimit)⟩,
    ⟨"retries", Retries.known.map (·.within retries)⟩,
    ⟨"circuit_breaker", CircuitBreaker.known.map (·.within circuitBreaker)⟩,
    ⟨"dispatch", Dispatch.known.map (·.within dispatch)⟩,
    ⟨"transport", Transport.known.map (·.within transport)⟩,
    ⟨"observability", Observability.known.map (·.within observability)⟩]

namespace Part

def names (p : Part) : List String := p.known.map (·.name)

/-- The members of a section. The items of an array have the names of the fields in order; a date has no members. -/
def members? (p : Part) : Toml → Option (List (String × Toml))
  | .table members => some members
  | .array items => some (p.names.zip items)
  | .dateTime => some []
  | _ => none

/-- A section fits if its members do, and each of its fields shows the value that was written for it, or else the
    default. -/
def law (p : Part) : Law Config where
  name := p.name
  Fits v := ∃ members, p.members? v = some members ∧
    ∀ k ∈ p.known, ∀ x, members.lookup k.name = some x → k.kind.Fits x
  Written v c := ∃ members, p.members? v = some members ∧ ∀ k ∈ p.known,
    (∀ x, members.lookup k.name = some x → k.shown c = some (k.kind.plain x)) ∧
      (members.lookup k.name = none → k.shown c = k.shown {})
  Missing c := ∀ k ∈ p.known, k.shown c = k.shown {}

end Part

section Sections
variable {σ : Type} {d : σ} {fs : List (Field σ)} {known : List (Known σ)} {get : Config → σ} {put : Config → σ → Config}
  {name : String} {p : Part}

theorem ofSection_eq (governed : Governed fs (known.map (·.law d))) (names : (known.map (·.name)).Nodup) (v : Toml) :
    ofSection fs d v = ((⟨name, known.map (·.within get)⟩ : Part).members? v).bind fun members => ofMembers fs members d := by
  have hnames : fs.map (·.name) = known.map (·.name) := by
    rw [governed.map_name, List.map_map]
    rfl
  have hpart : (⟨name, known.map (·.within get)⟩ : Part).names = known.map (·.name) := by
    unfold Part.names
    rw [List.map_map]
    rfl
  cases v with
  | array items =>
    show ofItems fs items d = ofMembers fs (Part.names _ |>.zip items) d
    rw [ofItems_eq (hnames ▸ names), hnames, hpart]
  | dateTime => exact (ofMembers_nil fs d).symm
  | table | string | integer | float | boolean => rfl

theorem obeys_section (governed : Governed fs (known.map (·.law d))) (names : (known.map (·.name)).Nodup)
    (default : get {} = d) (get_put : ∀ c x, get (put c x) = x) :
    (field name (ofSection fs d) put).Obeys (Part.law ⟨name, known.map (·.within get)⟩) where
  name := rfl
  accepts c v := by
    have hfits : ∀ members : List (String × Toml), (∃ x, ofMembers fs members d = some x) ↔
        ∀ k ∈ known.map (·.within get), ∀ x, members.lookup k.name = some x → k.kind.Fits x := fun members => by
      rw [governed.accepts members d, List.forall_mem_map, List.forall_mem_map]
      rfl
    constructor
    · rintro ⟨t, heq⟩
      obtain ⟨x, hx, -⟩ := Option.map_eq_some_iff.mp heq
      rw [ofSection_eq governed names v] at hx
      obtain ⟨members, hmembers, hx⟩ := Option.bind_eq_some_iff.mp hx
      exact ⟨members, hmembers, (hfits members).mp ⟨x, hx⟩⟩
    · rintro ⟨members, hmembers, hknown⟩
      obtain ⟨x, hx⟩ := (hfits members).mpr hknown
      refine ⟨put c x, Option.map_eq_some_iff.mpr ⟨x, ?_, rfl⟩⟩
      rw [ofSection_eq governed names v, hmembers]
      exact hx
  sets c v t heq := by
    obtain ⟨x, hx, rfl⟩ := Option.map_eq_some_iff.mp heq
    rw [ofSection_eq governed names v] at hx
    obtain ⟨members, hmembers, hx⟩ := Option.bind_eq_some_iff.mp hx
    refine ⟨members, hmembers, List.forall_mem_map.mpr fun k hk => ?_⟩
    have hsays := governed.says (List.forall_mem_map.mpr fun _ _ => rfl) hx (k.law d) (List.mem_map.mpr ⟨k, hk, rfl⟩)
    show (∀ x, _ → k.shown (get _) = _) ∧ (_ → k.shown (get _) = k.shown (get _))
    rw [get_put, default]
    exact hsays

theorem spares_section (h : ∀ c x, ∀ k ∈ p.known, k.shown (put c x) = k.shown c) :
    (field name (ofSection fs d) put).Spares p.law := by
  intro c v t heq
  obtain ⟨x, -, rfl⟩ := Option.map_eq_some_iff.mp heq
  refine ⟨fun w ⟨members, hmembers, hknown⟩ => ⟨members, hmembers, fun k hk => ?_⟩, fun hmissing k hk => ?_⟩
  · rw [h c x k hk]
    exact hknown k hk
  · rw [h c x k hk]
    exact hmissing k hk

end Sections

theorem governed : Governed fields (schema.map (·.law)) := by
  refine .cons (obeys_section (RateLimit.governed _) (by decide) rfl fun _ _ => rfl) ?_ ?_ <|
    .cons (obeys_section (Retries.governed _) (by decide) rfl fun _ _ => rfl) ?_ ?_ <|
    .cons (obeys_section (CircuitBreaker.governed _) (by decide) rfl fun _ _ => rfl) ?_ ?_ <|
    .cons (obeys_section (Dispatch.governed _) (by decide) rfl fun _ _ => rfl) ?_ ?_ <|
    .cons (obeys_section (Transport.governed _) (by decide) rfl fun _ _ => rfl) ?_ ?_ <|
    .cons (obeys_section (Observability.governed _) (by decide) rfl fun _ _ => rfl) ?_ ?_ .nil
  all_goals simp [spares_section, Known.within]

end BatchFetch.Config
