import BatchFetch.Config.Decoded
import Mathlib.Data.List.Basic

/-! # Fields, one by one

The values of a section are set one field after another. What is said here of a single field, which values fit it and what comes of
them, carries over to all fields of a section, since none of them touches what another one sets. -/

namespace BatchFetch.Config

/-! ### Values that fit -/

/-- What the value of a field may be. -/
inductive Kind where
  /-- An integer that is not negative, and below a bound. -/
  | unsigned (bound : Int)
  | number
  | boolean
  | text
  | oneOf (names : List String)

namespace Kind

/-- Which values fit. A name may also be the only key of a table in which it has an empty value. -/
def Fits : Kind → Toml → Prop
  | unsigned bound, .integer n => 0 ≤ n ∧ n < bound
  | number, .float _ => True
  | number, .integer _ => True
  | boolean, .boolean _ => True
  | text, .string _ => True
  | oneOf names, .string s => s ∈ names
  | oneOf names, .table [(k, .table [])] => k ∈ names
  | oneOf names, .table [(k, .array [])] => k ∈ names
  | _, _ => False

/-- A value that fits, in the plain form: a number as a float, and a name by itself. -/
def plain : Kind → Toml → Toml
  | number, .integer n => .float (Binary64.ofFraction (n < 0) n.natAbs 1)
  | oneOf _, .table [(k, _)] => .string k
  | _, v => v

end Kind

/-- The values that can be read are those of a kind, and what is read from one is its plain form. -/
structure Fit.Reads {α : Type} (fit : Fit α) (kind : Kind) (write : α → Toml) : Prop where
  accepts : ∀ v, (∃ x, fit v = some x) ↔ kind.Fits v
  writes : ∀ v x, fit v = some x → write x = kind.plain v

namespace Fit

theorem reads_uint32 : uint32.Reads (.unsigned 0x100000000) fun n => .integer n.toNat where
  accepts v := by
    cases v <;> simp [uint32, Kind.Fits]
  writes v x h := by
    cases v <;> simp only [uint32, reduceCtorEq] at h
    split at h
    · rename_i n hn
      cases h
      have below : n.toNat < UInt32.size := by
        unfold UInt32.size
        omega
      rw [UInt32.toNat_ofNat_of_lt' below, Int.toNat_of_nonneg hn.1]
      rfl
    · cases h

theorem reads_uint64 : uint64.Reads (.unsigned 0x10000000000000000) fun n => .integer n.toNat where
  accepts v := by
    cases v <;> simp [uint64, Kind.Fits]
  writes v x h := by
    cases v <;> simp only [uint64, reduceCtorEq] at h
    split at h
    · rename_i n hn
      cases h
      have below : n.toNat < UInt64.size := by
        unfold UInt64.size
        omega
      rw [UInt64.toNat_ofNat_of_lt' below, Int.toNat_of_nonneg hn.1]
      rfl
    · cases h

theorem reads_binary64 : binary64.Reads .number .float where
  accepts v := by
    cases v <;> simp [binary64, Kind.Fits]
  writes v x h := by
    cases v <;> simp [binary64] at h <;> simp [Kind.plain, h]

theorem reads_boolean : boolean.Reads .boolean .boolean where
  accepts v := by
    cases v <;> simp [boolean, Kind.Fits]
  writes v x h := by
    cases v <;> simp [boolean] at h
    simp [Kind.plain, h]

theorem reads_string : string.Reads .text .string where
  accepts v := by
    cases v <;> simp [string, Kind.Fits]
  writes v x h := by
    cases v <;> simp [string] at h
    simp [Kind.plain, h]

theorem exists_find?_iff {α : Type} {name : α → String} {all : List α} {s : String} :
    (∃ x, all.find? (name · == s) = some x) ↔ s ∈ all.map name := by
  rw [← Option.isSome_iff_exists, List.find?_isSome, List.mem_map]
  simp only [beq_iff_eq]

theorem isEmpty_iff {v : Toml} : isEmpty v = true ↔ v = .table [] ∨ v = .array [] := by
  cases v <;> simp [isEmpty]

theorem reads_oneOf {α : Type} (name : α → String) (all : List α) :
    (oneOf name all).Reads (.oneOf (all.map name)) fun x => .string (name x) where
  accepts v := by
    unfold oneOf
    split
    · exact exists_find?_iff
    · rename_i k v
      by_cases hempty : isEmpty v = true
      · rw [if_pos hempty]
        rcases isEmpty_iff.mp hempty with rfl | rfl
        · exact exists_find?_iff
        · exact exists_find?_iff
      · rw [if_neg hempty]
        simp only [reduceCtorEq, exists_false, false_iff]
        unfold Kind.Fits
        split <;> simp_all [isEmpty]
    · simp only [reduceCtorEq, exists_false, false_iff]
      unfold Kind.Fits
      split <;> simp_all
  writes v x h := by
    have hname : ∀ s, all.find? (name · == s) = some x → name x = s := fun s hs => by
      simpa using List.find?_some hs
    unfold oneOf at h
    split at h
    · rw [hname _ h]
      rfl
    · split at h
      · rw [hname _ h]
        rfl
      · cases h
    · cases h

end Fit

/-! ### Laws of fields -/

/-- What is said of a field: its name, which values fit it, what holds once one of them is set, and what holds as
    long as none is. -/
structure Law (σ : Type) where
  name : String
  Fits : Toml → Prop
  Written : Toml → σ → Prop
  Missing : σ → Prop

section Laws
variable {σ α : Type} {f : Field σ} {fs : List (Field σ)} {l : Law σ} {ls : List (Law σ)} {s t : σ}
  {members members' : List (String × Toml)}

/-- A field is as a law says. -/
structure Field.Obeys (f : Field σ) (l : Law σ) : Prop where
  name : f.name = l.name
  accepts : ∀ s v, (∃ t, f.set s v = some t) ↔ l.Fits v
  sets : ∀ s v t, f.set s v = some t → l.Written v t

/-- A field does not touch what a law of another one says. -/
def Field.Spares (f : Field σ) (l : Law σ) : Prop :=
  ∀ s v t, f.set s v = some t → (∀ w, l.Written w s → l.Written w t) ∧ (l.Missing s → l.Missing t)

/-- Each field has its law, and none touches what the laws of the others say. -/
inductive Governed : List (Field σ) → List (Law σ) → Prop where
  | nil : Governed [] []
  | cons {f : Field σ} {fs : List (Field σ)} {l : Law σ} {ls : List (Law σ)} (head : f.Obeys l)
      (spares : ∀ l' ∈ ls, f.Spares l') (spared : ∀ f' ∈ fs, f'.Spares l) (tail : Governed fs ls) :
      Governed (f :: fs) (l :: ls)

theorem ofMembers_cons (f : Field σ) (fs : List (Field σ)) (members : List (String × Toml)) (s : σ) :
    ofMembers (f :: fs) members s =
      (match members.lookup f.name with
        | some v => f.set s v
        | none => some s).bind (ofMembers fs members) := by
  unfold ofMembers
  rw [List.foldlM_cons]
  rfl

/-- Values can be set exactly if each of them fits its field. -/
theorem Governed.accepts (g : Governed fs ls) (members : List (String × Toml)) (s : σ) :
    (∃ t, ofMembers fs members s = some t) ↔ ∀ l ∈ ls, ∀ v, members.lookup l.name = some v → l.Fits v := by
  induction g generalizing s with
  | nil => simp [ofMembers]
  | @cons f fs l ls head _ _ _ ih =>
    rw [List.forall_mem_cons, ofMembers_cons, head.name]
    cases hv : members.lookup l.name with
    | none => simpa using ih s
    | some v =>
      simp only [Option.bind_eq_some_iff, Option.some.injEq, forall_eq']
      constructor
      · rintro ⟨t, u, hu, ht⟩
        exact ⟨(head.accepts s v).mp ⟨u, hu⟩, (ih u).mp ⟨t, ht⟩⟩
      · rintro ⟨hfits, hrest⟩
        obtain ⟨u, hu⟩ := (head.accepts s v).mpr hfits
        obtain ⟨t, ht⟩ := (ih u).mpr hrest
        exact ⟨t, u, hu, ht⟩

theorem spared_of_ofMembers (h : ∀ f ∈ fs, f.Spares l) (heq : ofMembers fs members s = some t) :
    (∀ w, l.Written w s → l.Written w t) ∧ (l.Missing s → l.Missing t) := by
  induction fs generalizing s with
  | nil =>
    cases heq
    exact ⟨fun _ h => h, fun h => h⟩
  | cons f fs ih =>
    obtain ⟨hf, hfs⟩ := List.forall_mem_cons.mp h
    rw [ofMembers_cons] at heq
    obtain ⟨u, hu, heq⟩ := Option.bind_eq_some_iff.mp heq
    obtain ⟨written, missing⟩ := ih hfs heq
    split at hu
    · obtain ⟨written', missing'⟩ := hf _ _ _ hu
      exact ⟨fun w hw => written w (written' w hw), fun hs => missing (missing' hs)⟩
    · cases hu
      exact ⟨written, missing⟩

/-- What the laws say of the values that are there and of those that are missing. -/
theorem Governed.says (g : Governed fs ls) (missing : ∀ l ∈ ls, l.Missing s) (heq : ofMembers fs members s = some t) :
    ∀ l ∈ ls, (∀ v, members.lookup l.name = some v → l.Written v t) ∧ (members.lookup l.name = none → l.Missing t) := by
  induction g generalizing s with
  | nil => simp
  | @cons f fs l ls head spares spared _ ih =>
    obtain ⟨hl, hls⟩ := List.forall_mem_cons.mp missing
    rw [ofMembers_cons, head.name] at heq
    obtain ⟨u, hu, heq⟩ := Option.bind_eq_some_iff.mp heq
    obtain ⟨written, kept⟩ := spared_of_ofMembers spared heq
    cases hv : members.lookup l.name with
    | none =>
      rw [hv] at hu
      cases hu
      refine List.forall_mem_cons.mpr ⟨⟨?_, fun _ => kept hl⟩, ih hls heq⟩
      simp [hv]
    | some v =>
      rw [hv] at hu
      refine List.forall_mem_cons.mpr ⟨⟨?_, ?_⟩, ih (fun l' hl' => (spares l' hl' _ _ _ hu).2 (hls l' hl')) heq⟩
      · rw [hv]
        rintro _ ⟨⟩
        exact written v (head.sets _ _ _ hu)
      · simp [hv]

theorem Governed.map_name (g : Governed fs ls) : fs.map (·.name) = ls.map (·.name) := by
  induction g with
  | nil => rfl
  | cons head _ _ _ ih => rw [List.map_cons, List.map_cons, head.name, ih]

/-! ### Fields in an array -/

theorem ofMembers_congr (h : ∀ f ∈ fs, members.lookup f.name = members'.lookup f.name) (s : σ) :
    ofMembers fs members s = ofMembers fs members' s := by
  induction fs generalizing s with
  | nil => rfl
  | cons f fs ih =>
    obtain ⟨hf, hfs⟩ := List.forall_mem_cons.mp h
    rw [ofMembers_cons, ofMembers_cons, hf, funext (ih hfs)]

theorem ofMembers_nil (fs : List (Field σ)) (s : σ) : ofMembers fs [] s = some s := by
  induction fs with
  | nil => rfl
  | cons f fs ih => rwa [ofMembers_cons]

/-- An array of the fields in order is as good as a table in which each of its items has the name of its field. -/
theorem ofItems_eq (names : (fs.map (·.name)).Nodup) (items : List Toml) (s : σ) :
    ofItems fs items s = ofMembers fs ((fs.map (·.name)).zip items) s := by
  induction fs generalizing items s with
  | nil => rfl
  | cons f fs ih =>
    obtain ⟨hnew, hnames⟩ := List.nodup_cons.mp names
    cases items with
    | nil => exact (ofMembers_nil _ s).symm
    | cons v items =>
      have htail : ofMembers fs ((f.name, v) :: (fs.map (·.name)).zip items) = ofItems fs items := by
        funext u
        rw [ih hnames]
        refine ofMembers_congr (fun f' hf' => ?_) u
        have hne : f'.name ≠ f.name := fun heq => hnew (List.mem_map.mpr ⟨f', hf', heq⟩)
        rw [List.lookup_cons, beq_false_of_ne hne]
      rw [List.map_cons, List.zip_cons_cons, ofMembers_cons, List.lookup_cons, beq_self_eq_true, htail]
      unfold ofItems
      rw [List.zip_cons_cons, List.foldlM_cons]
      rfl

end Laws

end BatchFetch.Config
