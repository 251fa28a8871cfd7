import BatchFetch.Config.Load
import BatchFetch.Proofs.Config.Schema
import BatchFetch.Proofs.Toml.Keys
import Mathlib.Data.Int.CharZero

/-! # Decoding

A document is decoded if and only if every section that is known is a table or an array, and every value that is written
for a field fits it; and then each field shows the value that was written for it, or else its default. Nothing else of the
document matters, nor does the order in which it is written. -/

namespace BatchFetch.Config

/-! ### What a document writes -/

namespace Part
variable {p : Part} {members : List (String × Toml)} {k : Known Config} {v : Toml}

/-- A document writes a value for a field of a section: under its name in a table, or in its place in an array. -/
def Writes (p : Part) (members : List (String × Toml)) (k : Known Config) (v : Toml) : Prop :=
  (∃ entries, (p.name, .table entries) ∈ members ∧ (k.name, v) ∈ entries) ∨
    ∃ items, (p.name, .array items) ∈ members ∧ (k, v) ∈ p.known.zip items

/-- If a section is there, it is a table or an array. -/
def Shaped (p : Part) (members : List (String × Toml)) : Prop :=
  ∀ v, (p.name, v) ∈ members → (∃ entries, v = .table entries) ∨ ∃ items, v = .array items

end Part

/-- Every section is a table or an array, and every value that is written for a field fits it. -/
def Suits (members : List (String × Toml)) : Prop :=
  ∀ p ∈ schema, p.Shaped members ∧ ∀ k ∈ p.known, ∀ v, p.Writes members k v → k.kind.Fits v

/-- Each field shows the value that is written for it, or its default if there is none. -/
def Shows (members : List (String × Toml)) (c : Config) : Prop :=
  ∀ p ∈ schema, ∀ k ∈ p.known, (∀ v, p.Writes members k v → k.shown c = some (k.kind.plain v)) ∧
    ((∀ v, ¬p.Writes members k v) → k.shown c = k.shown {})

/-- No section is a date. -/
def Undated (members : List (String × Toml)) : Prop := ∀ p ∈ schema, (p.name, .dateTime) ∉ members

/-- Two documents write the same values, in whatever order and beside whatever else. -/
def Alike (members members' : List (String × Toml)) : Prop :=
  ∀ p ∈ schema, (p.Shaped members ↔ p.Shaped members') ∧
    ∀ k ∈ p.known, ∀ v, p.Writes members k v ↔ p.Writes members' k v

/-- A document written otherwise: in another order, beside other things, or with an array in place of the table of a section. -/
inductive Respelled : List (String × Toml) → List (String × Toml) → Prop where
  | order {members members' : List (String × Toml)} (h : members.Perm members') : Respelled members members'
  | unknown {members : List (String × Toml)} {key : String} (unknown : ∀ p ∈ schema, p.name ≠ key) (v : Toml) :
      Respelled ((key, v) :: members) members
  | entries {members : List (String × Toml)} {p : Part} (hp : p ∈ schema) {entries entries' : List (String × Toml)}
      (same : ∀ k ∈ p.known, ∀ v, (k.name, v) ∈ entries ↔ (k.name, v) ∈ entries') :
      Respelled ((p.name, .table entries) :: members) ((p.name, .table entries') :: members)
  | items {members : List (String × Toml)} {p : Part} (hp : p ∈ schema) (items : List Toml) :
      Respelled ((p.name, .array items) :: members) ((p.name, .table (p.names.zip items)) :: members)
  | symm {members members' : List (String × Toml)} (h : Respelled members members') : Respelled members' members
  | trans {members members' members'' : List (String × Toml)} (h : Respelled members members')
      (h' : Respelled members' members'') : Respelled members members''

/-! ### A section is what is written for it -/

theorem nodup_names : ∀ p ∈ schema, p.names.Nodup := by decide

section Sections
variable {members : List (String × Toml)} {p : Part} {k : Known Config} {c : Config}

theorem members?_eq_some_iff {v : Toml} (h : v ≠ .dateTime) :
    (∃ entries, p.members? v = some entries) ↔ (∃ entries, v = .table entries) ∨ ∃ items, v = .array items := by
  cases v <;> simp [Part.members?] at h ⊢

/-- Under distinct keys, what is found is what is written. -/
theorem writes_iff (distinct : Toml.Distinct (.table members)) (hp : p ∈ schema) (hk : k ∈ p.known) {v x : Toml}
    {entries : List (String × Toml)} (hv : (p.name, v) ∈ members) (undated : v ≠ .dateTime)
    (hentries : p.members? v = some entries) : p.Writes members k x ↔ entries.lookup k.name = some x := by
  have keys := distinct.nodup_keys
  have only : ∀ w, (p.name, w) ∈ members → w = v := fun w hw =>
    Option.some.inj (((lookup_eq_some_iff_mem keys).mpr hw).symm.trans ((lookup_eq_some_iff_mem keys).mpr hv))
  cases v with
  | table ms =>
    cases hentries
    rw [lookup_eq_some_iff_mem (distinct.of_mem hv).nodup_keys]
    constructor
    · rintro (⟨ms, hms, hx⟩ | ⟨items, hitems, -⟩)
      · cases only _ hms
        exact hx
      · cases only _ hitems
    · exact fun hx => .inl ⟨entries, hv, hx⟩
  | array items =>
    cases hentries
    rw [Part.names, lookup_zip_map (nodup_names p hp) hk]
    constructor
    · rintro (⟨ms, hms, -⟩ | ⟨items', hitems, hx⟩)
      · cases only _ hms
      · cases only _ hitems
        exact hx
    · exact fun hx => .inr ⟨items, hv, hx⟩
  | dateTime => exact absurd rfl undated
  | string | integer | float | boolean => cases hentries

theorem not_writes_of_none (keys : (members.map (·.1)).Nodup) (none : members.lookup p.name = none) (x : Toml) :
    ¬p.Writes members k x := by
  rintro (⟨ms, hms, -⟩ | ⟨items, hitems, -⟩)
  · rw [(lookup_eq_some_iff_mem keys).mpr hms] at none
    cases none
  · rw [(lookup_eq_some_iff_mem keys).mpr hitems] at none
    cases none

theorem fits_iff (distinct : Toml.Distinct (.table members)) (undated : Undated members) (hp : p ∈ schema) :
    (∀ v, members.lookup p.name = some v → p.law.Fits v) ↔
      p.Shaped members ∧ ∀ k ∈ p.known, ∀ x, p.Writes members k x → k.kind.Fits x := by
  have keys := distinct.nodup_keys
  cases hlookup : members.lookup p.name with
  | none =>
    refine ⟨fun _ => ⟨fun v hv => ?_, fun k _ x hx => absurd hx (not_writes_of_none keys hlookup x)⟩, fun _ => by simp⟩
    rw [(lookup_eq_some_iff_mem keys).mpr hv] at hlookup
    cases hlookup
  | some v =>
    have hv := (lookup_eq_some_iff_mem keys).mp hlookup
    have hdate : v ≠ .dateTime := fun heq => undated p hp (heq ▸ hv)
    simp only [Option.some.injEq, forall_eq']
    constructor
    · rintro ⟨entries, hentries, hfits⟩
      refine ⟨fun w hw => ?_, fun k hk x hx => ?_⟩
      · have heq : v = w := Option.some.inj (hlookup.symm.trans ((lookup_eq_some_iff_mem keys).mpr hw))
        exact heq ▸ (members?_eq_some_iff hdate).mp ⟨entries, hentries⟩
      · exact hfits k hk x ((writes_iff distinct hp hk hv hdate hentries).mp hx)
    · rintro ⟨shaped, hfits⟩
      obtain ⟨entries, hentries⟩ := (members?_eq_some_iff hdate).mpr (shaped v hv)
      exact ⟨entries, hentries, fun k hk x hx => hfits k hk x ((writes_iff distinct hp hk hv hdate hentries).mpr hx)⟩

end Sections

/-! ### Decoded documents -/

section Documents
variable {members members' : List (String × Toml)} {c c' : Config}

theorem decodes_iff (distinct : Toml.Distinct (.table members)) (undated : Undated members) :
    (∃ c, ofDocument? members = some c) ↔ Suits members := by
  refine (governed.accepts members {}).trans ?_
  rw [List.forall_mem_map]
  exact forall₂_congr fun p hp => fits_iff distinct undated hp

theorem shows_of_decoded (distinct : Toml.Distinct (.table members)) (undated : Undated members)
    (decoded : ofDocument? members = some c) : Shows members c := by
  intro p hp k hk
  have missing : ∀ l ∈ schema.map (·.law), l.Missing ({} : Config) :=
    List.forall_mem_map.mpr fun _ _ _ _ => rfl
  obtain ⟨written, missing⟩ := governed.says missing decoded p.law (List.mem_map.mpr ⟨p, hp, rfl⟩)
  have keys := distinct.nodup_keys
  cases hlookup : members.lookup p.name with
  | none => exact ⟨fun x hx => absurd hx (not_writes_of_none keys hlookup x), fun _ => missing hlookup k hk⟩
  | some v =>
    have hv := (lookup_eq_some_iff_mem keys).mp hlookup
    obtain ⟨entries, hentries, hknown⟩ := written v hlookup
    obtain ⟨hwritten, hmissing⟩ := hknown k hk
    have hwrites := fun x => writes_iff (x := x) distinct hp hk hv (fun heq => undated p hp (heq ▸ hv)) hentries
    refine ⟨fun x hx => hwritten x ((hwrites x).mp hx), fun none => hmissing ?_⟩
    exact Option.eq_none_iff_forall_ne_some.mpr fun x hx => none x ((hwrites x).mpr hx)

/-! ### A configuration is what it shows -/

theorem Scope.name_inj {x y : Scope} : x.name = y.name ↔ x = y := by
  refine ⟨fun h => ?_, congrArg _⟩
  have hx := Scope.ofName?_name x
  rw [h, Scope.ofName?_name y] at hx
  exact (Option.some.inj hx).symm

theorem LogFormat.name_inj {x y : LogFormat} : x.name = y.name ↔ x = y := by
  cases x <;> cases y <;> simp [LogFormat.name]

theorem map_integer_inj {x y : Option UInt64} :
    x.map (fun n => Toml.integer n.toNat) = y.map (fun n => Toml.integer n.toNat) ↔ x = y := by
  refine Option.map_inj_right fun n m h => ?_
  simpa [UInt64.toNat_inj] using h

theorem eq_of_shown (h : ∀ p ∈ schema, ∀ k ∈ p.known, k.shown c = k.shown c') : c = c' := by
  obtain ⟨⟨⟩, ⟨⟩, ⟨⟩, ⟨⟩, ⟨⟩, ⟨⟩⟩ := c
  obtain ⟨⟨⟩, ⟨⟩, ⟨⟩, ⟨⟩, ⟨⟩, ⟨⟩⟩ := c'
  simp [schema, RateLimit.known, Retries.known, CircuitBreaker.known, Dispatch.known, Transport.known, Observability.known,
    Known.within, UInt32.toNat_inj, UInt64.toNat_inj, map_integer_inj, Scope.name_inj,
    LogFormat.name_inj] at h
  simp [h]

theorem eq_of_shows (h : Shows members c) (h' : Shows members c') : c = c' := by
  refine eq_of_shown fun p hp k hk => ?_
  obtain ⟨written, missing⟩ := h p hp k hk
  obtain ⟨written', missing'⟩ := h' p hp k hk
  by_cases hx : ∃ x, p.Writes members k x
  · obtain ⟨x, hx⟩ := hx
    rw [written x hx, written' x hx]
  · rw [missing (not_exists.mp hx), missing' (not_exists.mp hx)]

/-- What a document is decoded to is the configuration that shows what it writes. -/
theorem decoded_iff (distinct : Toml.Distinct (.table members)) (undated : Undated members) :
    ofDocument? members = some c ↔ Suits members ∧ Shows members c := by
  constructor
  · intro decoded
    exact ⟨(decodes_iff distinct undated).mp ⟨c, decoded⟩, shows_of_decoded distinct undated decoded⟩
  · rintro ⟨suits, shows'⟩
    obtain ⟨d, decoded⟩ := (decodes_iff distinct undated).mpr suits
    rw [eq_of_shows shows' (shows_of_decoded distinct undated decoded)]
    exact decoded

/-! ### Documents that write the same -/

theorem Alike.suits_iff (h : Alike members members') : Suits members ↔ Suits members' := by
  refine forall₂_congr fun p hp => and_congr (h p hp).1 ?_
  refine forall₂_congr fun k hk => forall_congr' fun v => ?_
  rw [(h p hp).2 k hk v]

theorem Alike.shows_iff (h : Alike members members') : Shows members c ↔ Shows members' c := by
  refine forall₂_congr fun p hp => forall₂_congr fun k hk => ?_
  have hwrites := (h p hp).2 k hk
  simp only [hwrites]

theorem Alike.ofDocument?_eq (h : Alike members members') (distinct : Toml.Distinct (.table members))
    (distinct' : Toml.Distinct (.table members')) (undated : Undated members) (undated' : Undated members') :
    ofDocument? members = ofDocument? members' := by
  refine Option.ext fun c => ?_
  rw [decoded_iff distinct undated, decoded_iff distinct' undated', h.suits_iff, h.shows_iff]

theorem alike_of_mem_iff (h : ∀ p ∈ schema, ∀ v, (p.name, v) ∈ members ↔ (p.name, v) ∈ members') :
    Alike members members' := by
  intro p hp
  have hmem := h p hp
  simp only [Part.Shaped, Part.Writes, hmem, implies_true, and_self]

/-- The order of the sections does not matter. -/
theorem alike_of_perm (h : members.Perm members') : Alike members members' :=
  alike_of_mem_iff fun _ _ _ => h.mem_iff

/-- What is not a section does not matter. -/
theorem alike_of_unknown {key : String} (unknown : ∀ p ∈ schema, p.name ≠ key) (v : Toml) :
    Alike ((key, v) :: members) members := by
  refine alike_of_mem_iff fun p hp w => ?_
  rw [List.mem_cons, Prod.mk.injEq]
  simp [unknown p hp]

theorem Part.shaped_cons {q : Part} {m : String × Toml} : q.Shaped (m :: members) ↔ q.Shaped [m] ∧ q.Shaped members := by
  unfold Part.Shaped
  simp only [List.mem_cons, List.not_mem_nil, or_false, or_imp, forall_and]

theorem Part.writes_cons {q : Part} {m : String × Toml} {k : Known Config} {x : Toml} :
    q.Writes (m :: members) k x ↔ q.Writes [m] k x ∨ q.Writes members k x := by
  unfold Part.Writes
  simp only [List.mem_cons, List.not_mem_nil, or_false, or_and_right, exists_or]
  exact or_or_or_comm

/-- Of a section only what it writes for the fields that are known matters. -/
theorem alike_of_section {p : Part} {v v' : Toml} (hp : p ∈ schema) (shaped : p.Shaped [(p.name, v)] ↔ p.Shaped [(p.name, v')])
    (writes : ∀ k ∈ p.known, ∀ x, p.Writes [(p.name, v)] k x ↔ p.Writes [(p.name, v')] k x) :
    Alike ((p.name, v) :: members) ((p.name, v') :: members) := by
  intro q hq
  have names : (schema.map (·.name)).Nodup := by decide
  by_cases hname : q.name = p.name
  · obtain rfl : q = p := List.inj_on_of_nodup_map names hq hp hname
    refine ⟨?_, fun k hk x => ?_⟩
    · rw [Part.shaped_cons, shaped, ← Part.shaped_cons]
    · rw [Part.writes_cons, writes k hk x, ← Part.writes_cons]
  · have other : ∀ w : Toml, q.Shaped ((p.name, w) :: members) ↔ q.Shaped members := fun w => by
      rw [Part.shaped_cons, Part.Shaped]
      simp [hname]
    have other' : ∀ (w : Toml) (k : Known Config) (x : Toml), q.Writes ((p.name, w) :: members) k x ↔ q.Writes members k x :=
      fun w k x => by
        rw [Part.writes_cons, Part.Writes]
        simp [hname]
    exact ⟨(other v).trans (other v').symm, fun k _ x => (other' v k x).trans (other' v' k x).symm⟩

/-- The order of the fields in a table does not matter, nor does what is not a field. -/
theorem alike_of_entries {p : Part} {entries entries' : List (String × Toml)} (hp : p ∈ schema)
    (same : ∀ k ∈ p.known, ∀ x, (k.name, x) ∈ entries ↔ (k.name, x) ∈ entries') :
    Alike ((p.name, .table entries) :: members) ((p.name, .table entries') :: members) := by
  refine alike_of_section hp (by simp [Part.Shaped]) fun k hk x => ?_
  simpa [Part.Writes] using same k hk x

/-- An array of a section is as good as the table of its items under the names of the fields. -/
theorem alike_of_items {p : Part} (hp : p ∈ schema) (items : List Toml) :
    Alike ((p.name, .array items) :: members) ((p.name, .table (p.names.zip items)) :: members) := by
  have names := nodup_names p hp
  have keys : ((p.names.zip items).map (·.1)).Nodup := by
    show ((p.names.zip items).map Prod.fst).Nodup
    rw [List.zip_eq_zip_take_min, List.map_fst_zip (by simp)]
    exact names.take
  refine alike_of_section hp (by simp [Part.Shaped]) fun k hk x => ?_
  have hitem : (k, x) ∈ p.known.zip items ↔ (k.name, x) ∈ p.names.zip items := by
    rw [← lookup_eq_some_iff_mem keys, ← lookup_zip_map names hk]
    rfl
  simpa [Part.Writes] using hitem

theorem Alike.symm (h : Alike members members') : Alike members' members :=
  fun p hp => ⟨(h p hp).1.symm, fun k hk v => ((h p hp).2 k hk v).symm⟩

theorem Alike.trans {members'' : List (String × Toml)} (h : Alike members members') (h' : Alike members' members'') :
    Alike members members'' :=
  fun p hp => ⟨(h p hp).1.trans (h' p hp).1, fun k hk v => ((h p hp).2 k hk v).trans ((h' p hp).2 k hk v)⟩

/-- A document that is written otherwise writes the same, and has a date for a section only if the other one has. -/
theorem Respelled.alike (h : Respelled members members') : Alike members members' ∧ (Undated members ↔ Undated members') := by
  induction h with
  | order h =>
    refine ⟨alike_of_perm h, ?_⟩
    unfold Undated
    simp only [h.mem_iff]
  | @unknown members key unknown v =>
    refine ⟨alike_of_unknown unknown v, forall₂_congr fun p hp => not_congr ?_⟩
    simp [unknown p hp]
  | entries hp same =>
    refine ⟨alike_of_entries hp same, forall₂_congr fun q _ => not_congr ?_⟩
    simp
  | items hp items =>
    refine ⟨alike_of_items hp items, forall₂_congr fun q _ => not_congr ?_⟩
    simp
  | symm _ ih => exact ⟨ih.1.symm, ih.2.symm⟩
  | trans _ _ ih ih' => exact ⟨ih.1.trans ih'.1, ih.2.trans ih'.2⟩

end Documents

/-! ### Texts -/

section Texts
variable {s : String} {members : List (String × Toml)}

theorem ofText_of_decoded {c : Config} (read : Toml.read? s = some members) (decoded : ofDocument? members = some c) :
    ofText s = c.checked := by
  unfold ofText
  rw [read]
  dsimp only
  rw [decoded]

theorem ofText_of_misfit (read : Toml.read? s = some members) (misfit : ofDocument? members = none) :
    ofText s = .error .misfit := by
  unfold ofText
  rw [read]
  dsimp only
  rw [misfit]

theorem checked_eq (c : Config) :
    c.checked = if c.violations = [] then .ok c else .error (.invalid c.violations) := by
  unfold checked isValid
  simp only [List.isEmpty_iff]

/-- A text that is a document in which no section is a date. It is decoded if and only if the document suits, to the only configuration
    that shows what it writes, whose fields all have a name in the schema. That configuration is the answer if it has no
    violations, and otherwise the answer is its violations. Any other document that writes the same has the same
    answer, in particular one that is written in another order or beside other things. -/
theorem ofText_of_document (read : Toml.read? s = some members) (undated : Undated members) :
    ((∃ c, ofDocument? members = some c) ↔ Suits members) ∧
    (∀ c, ofDocument? members = some c ↔ Suits members ∧ Shows members c) ∧
    (∀ c c' : Config, (∀ p ∈ schema, ∀ k ∈ p.known, k.shown c = k.shown c') → c = c') ∧
    (∀ c, ofText s = .ok c ↔ ofDocument? members = some c ∧ c.violations = []) ∧
    (∀ c, ofDocument? members = some c → c.violations ≠ [] → ofText s = .error (.invalid c.violations)) ∧
    (¬Suits members → ofText s = .error .misfit) ∧
    (∀ members', Respelled members members' → Undated members' ∧ Alike members members') ∧
    ∀ s' members', Toml.read? s' = some members' → Undated members' → Alike members members' → ofText s' = ofText s := by
  have distinct := Toml.distinct_of_read? read
  refine ⟨decodes_iff distinct undated, fun c => decoded_iff distinct undated, fun _ _ => eq_of_shown, fun c => ?_,
    fun c decoded violated => ?_, fun misfit => ?_, fun members' respelled => ?_, fun s' members' read' undated' alike => ?_⟩
  · cases hd : ofDocument? members with
    | none =>
      rw [ofText_of_misfit read hd]
      simp
    | some d =>
      rw [ofText_of_decoded read hd, checked_eq, Option.some.injEq]
      split
      · rename_i valid
        rw [Except.ok.injEq]
        exact ⟨fun heq => ⟨heq, heq ▸ valid⟩, fun h => h.1⟩
      · rename_i violated
        simp only [reduceCtorEq, false_iff, not_and]
        rintro rfl
        exact violated
  · rw [ofText_of_decoded read decoded, checked_eq, if_neg violated]
  · refine ofText_of_misfit read (Option.eq_none_iff_forall_ne_some.mpr fun c decoded => misfit ?_)
    exact (decodes_iff distinct undated).mp ⟨c, decoded⟩
  · exact ⟨respelled.alike.2.mp undated, respelled.alike.1⟩
  · have heq := alike.ofDocument?_eq distinct (Toml.distinct_of_read? read') undated undated'
    unfold ofText
    rw [read, read']
    dsimp only
    rw [heq]

end Texts

/-! ### A document in which all forms occur -/

def mixedText : String :=
  "retries = [7]\n[circuit_breaker]\nscope = \x7b global = [] \x7d\n[rate_limit]\nextra = 1979-05-27\nrequests_per_second = 20\n"

def mixedConfig : Config :=
  { rateLimit := { requestsPerSecond := ⟨0x4034000000000000⟩ }
    retries := { maxRetries := 7 }
    circuitBreaker := { scope := .everything } }

theorem ofText_of_document_mixed :
    ∃ members, Toml.read? mixedText = some members ∧ Undated members ∧ Suits members ∧ Shows members mixedConfig ∧
      ofText mixedText = .ok mixedConfig := by
  have hsome : (Toml.read? mixedText).isSome = true := by decide +kernel
  have answer : ofText mixedText = .ok mixedConfig := by decide +kernel
  obtain ⟨members, hread⟩ := Option.isSome_iff_exists.mp hsome
  have undated : Undated members := by
    have hdates : ∀ p ∈ schema, ∀ m ∈ (Toml.read? mixedText).getD [], m.1 = p.name → (m.2 matches .dateTime) = false := by
      decide +kernel
    rw [hread] at hdates
    exact fun p hp hm => Bool.noConfusion (hdates p hp _ hm rfl)
  obtain ⟨-, decoded, -, ok, -⟩ := ofText_of_document hread undated
  obtain ⟨suits, shows'⟩ := (decoded mixedConfig).mp ((ok mixedConfig).mp answer).1
  exact ⟨members, hread, undated, suits, shows', answer⟩

end BatchFetch.Config
