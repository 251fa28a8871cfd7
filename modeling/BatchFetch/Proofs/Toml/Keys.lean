import BatchFetch.Proofs.Assoc
import BatchFetch.Toml.Document
import Mathlib.Data.List.Nodup

/-! # Each key once

No table of a document has a key twice. Tables in the making grow by an entry under a new key, or by a change of what
stands under an old one, so their keys stay distinct at every depth; and a value is read from tables that
were made so. -/

namespace BatchFetch.Toml

/-- No table in a value has a key twice. -/
inductive Distinct : Toml → Prop where
  | string (s : String) : Distinct (.string s)
  | integer (n : Int) : Distinct (.integer n)
  | float (x : Binary64) : Distinct (.float x)
  | boolean (b : Bool) : Distinct (.boolean b)
  | dateTime : Distinct .dateTime
  | array {items : List Toml} (each : ∀ v ∈ items, Distinct v) : Distinct (.array items)
  | table {members : List (String × Toml)} (keys : (members.map (·.1)).Nodup) (each : ∀ m ∈ members, Distinct m.2) :
      Distinct (.table members)

theorem Distinct.nodup_keys {members : List (String × Toml)} (h : Distinct (.table members)) :
    (members.map (·.1)).Nodup := by
  cases h with
  | table keys _ => exact keys

theorem Distinct.of_mem {members : List (String × Toml)} (h : Distinct (.table members)) {m : String × Toml}
    (hm : m ∈ members) : m.2.Distinct := by
  cases h with
  | table _ each => exact each m hm

/-- No table that came of an entry has a key twice. -/
inductive Entry.Distinct : Entry → Prop where
  | value {v : Toml} (distinct : v.Distinct) : Distinct (.value v)
  | table {implicit dotted : Bool} {members : Entries} (keys : (members.map (·.1)).Nodup)
      (each : ∀ m ∈ members, Distinct m.2) : Distinct (.table implicit dotted members)
  | tables {items : List Entries} (keys : ∀ es ∈ items, (es.map (·.1)).Nodup)
      (each : ∀ es ∈ items, ∀ m ∈ es, Distinct m.2) : Distinct (.tables items)

/-! ### Tables in the making -/

namespace Entries

structure Distinct (es : Entries) : Prop where
  keys : (es.map (·.1)).Nodup
  each : ∀ m ∈ es, m.2.Distinct

variable {es t : Entries} {e : Entry} {k : String}

theorem values_eq (es : Entries) : Entry.toValue.values es = es.map fun m => (m.1, m.2.toValue) := by
  induction es with
  | nil => rfl
  | cons m es ih =>
    show (m.1, m.2.toValue) :: Entry.toValue.values es = _
    rw [ih, List.map_cons]

theorem rows_eq (items : List Entries) :
    Entry.toValue.rows items = items.map fun es => .table (Entry.toValue.values es) := by
  induction items with
  | nil => rfl
  | cons es items ih =>
    show .table (Entry.toValue.values es) :: Entry.toValue.rows items = _
    rw [ih, List.map_cons]

theorem keys_values (es : Entries) : (Entry.toValue.values es).map (·.1) = es.map (·.1) := by
  rw [values_eq, List.map_map]
  rfl

theorem distinct_nil : Distinct [] := ⟨.nil, by simp⟩

theorem Distinct.concat (h : es.Distinct) (new : k ∉ es.map (·.1)) (he : e.Distinct) : Distinct (es ++ [(k, e)]) where
  keys := by
    rw [List.map_append, List.map_singleton, List.nodup_append]
    refine ⟨h.keys, List.nodup_singleton k, fun a ha b hb => ?_⟩
    rw [List.mem_singleton.mp hb]
    rintro rfl
    exact new ha
  each := by
    refine List.forall_mem_append.mpr ⟨h.each, ?_⟩
    simpa using he

theorem Distinct.put (h : es.Distinct) (he : e.Distinct) : (es.put k e).Distinct := by
  unfold Entries.put
  split
  · constructor
    · have hkeys : (es.map fun x => if x.1 == k then (k, e) else x).map (·.1) = es.map (·.1) := by
        rw [List.map_map]
        refine List.map_congr_left fun x _ => ?_
        rw [Function.comp_apply]
        split
        · rename_i hk
          exact (beq_iff_eq.mp hk).symm
        · rfl
      exact hkeys ▸ h.keys
    · intro m hm
      obtain ⟨x, hx, rfl⟩ := List.mem_map.mp hm
      split
      · exact he
      · exact h.each x hx
  · rename_i hnew
    refine h.concat (fun hk => hnew ?_) he
    obtain ⟨x, hx, rfl⟩ := List.mem_map.mp hk
    exact List.any_eq_true.mpr ⟨x, hx, beq_self_eq_true _⟩

theorem Distinct.of_lookup (h : es.Distinct) (hk : es.lookup k = some e) : e.Distinct :=
  h.each _ (mem_of_lookup hk)

theorem distinct_of_table {implicit dotted : Bool} (h : Entry.Distinct (.table implicit dotted es)) : es.Distinct := by
  cases h with
  | table keys each => exact ⟨keys, each⟩

theorem Distinct.table (h : es.Distinct) (implicit dotted : Bool) : Entry.Distinct (.table implicit dotted es) :=
  .table h.keys h.each

theorem distinct_of_tables {items : List Entries} (h : Entry.Distinct (.tables items)) : ∀ es ∈ items, es.Distinct := by
  cases h with
  | tables keys each => exact fun es hes => ⟨keys es hes, each es hes⟩

theorem distinct_tables {items : List Entries} (h : ∀ es ∈ items, es.Distinct) : Entry.Distinct (.tables items) :=
  .tables (fun es hes => (h es hes).keys) fun es hes => (h es hes).each

/-- A change of a table at a path keeps keys distinct if it does so in the table that it finds there. -/
theorem Distinct.change {dotted : Bool} {f : Bool → Entries → Option Entries}
    (hf : ∀ here inner t, Distinct inner → f here inner = some t → t.Distinct) (path : List String) :
    ∀ (here : Bool) {es t : Entries}, es.Distinct → Entries.change dotted f here path es = some t → t.Distinct := by
  induction path with
  | nil => exact fun here es t h heq => hf here es t h heq
  | cons k path ih =>
    intro here es t h heq
    unfold Entries.change at heq
    split at heq
    · obtain ⟨inner, hinner, rfl⟩ := Option.map_eq_some_iff.mp heq
      exact h.put ((ih _ distinct_nil hinner).table _ _)
    · cases heq
    · rename_i hk
      split at heq
      · cases heq
      · obtain ⟨inner, hinner, rfl⟩ := Option.map_eq_some_iff.mp heq
        exact h.put ((ih _ (distinct_of_table (h.of_lookup hk)) hinner).table _ _)
    · rename_i items hk
      have hitems := distinct_of_tables (h.of_lookup hk)
      split at heq
      · cases heq
      · rename_i last hlast
        obtain ⟨inner, hinner, rfl⟩ := Option.map_eq_some_iff.mp heq
        refine h.put (distinct_tables (List.forall_mem_append.mpr ⟨fun es hes => ?_, ?_⟩))
        · exact hitems es (List.dropLast_subset items hes)
        · simpa using ih _ (hitems last (List.mem_of_getLast? hlast)) hinner

theorem Distinct.insert (h : es.Distinct) {path : List String} {v : Toml} (hv : v.Distinct)
    (heq : es.insert path k v = some t) : t.Distinct := by
  refine Distinct.change (fun here inner t hinner heq => ?_) path false h heq
  split at heq
  · cases heq
  · rename_i hnew
    cases heq
    refine hinner.concat (fun hk => hnew (.inr ?_)) (.value hv)
    obtain ⟨x, hx, rfl⟩ := List.mem_map.mp hk
    exact List.any_eq_true.mpr ⟨x, hx, beq_self_eq_true _⟩

theorem Distinct.insertAll {pairs : List (List String × Toml)} (hpairs : ∀ p ∈ pairs, p.2.Distinct) (h : es.Distinct)
    (heq : Entries.insertAll pairs es = some t) : t.Distinct := by
  induction pairs generalizing es with
  | nil =>
    cases heq
    exact h
  | cons p pairs ih =>
    obtain ⟨hp, hpairs⟩ := List.forall_mem_cons.mp hpairs
    unfold Entries.insertAll at heq
    rw [List.foldlM_cons] at heq
    obtain ⟨inner, hinner, hrest⟩ := Option.bind_eq_some_iff.mp heq
    obtain ⟨k, -, hinsert⟩ := Option.bind_eq_some_iff.mp hinner
    exact ih hpairs (h.insert hp hinsert) hrest

theorem Distinct.addTable {path : List String} {pairs : List (List String × Toml)} (hpairs : ∀ p ∈ pairs, p.2.Distinct)
    (h : es.Distinct) (heq : es.addTable path k pairs = some t) : t.Distinct := by
  refine Distinct.change (fun here inner t hinner heq => ?_) path false h heq
  split at heq
  · obtain ⟨new, hnew, rfl⟩ := Option.map_eq_some_iff.mp heq
    exact hinner.put ((distinct_nil.insertAll hpairs hnew).table _ _)
  · rename_i hk
    obtain ⟨new, hnew, rfl⟩ := Option.map_eq_some_iff.mp heq
    exact hinner.put (((distinct_of_table (hinner.of_lookup hk)).insertAll hpairs hnew).table _ _)
  · cases heq

theorem Distinct.addRow {path : List String} {pairs : List (List String × Toml)} (hpairs : ∀ p ∈ pairs, p.2.Distinct)
    (h : es.Distinct) (heq : es.addRow path k pairs = some t) : t.Distinct := by
  refine Distinct.change (fun here inner t hinner heq => ?_) path false h heq
  split at heq
  · obtain ⟨new, hnew, rfl⟩ := Option.map_eq_some_iff.mp heq
    exact hinner.put (distinct_tables (by simpa using distinct_nil.insertAll hpairs hnew))
  · rename_i items hk
    obtain ⟨new, hnew, rfl⟩ := Option.map_eq_some_iff.mp heq
    refine hinner.put (distinct_tables (List.forall_mem_append.mpr ⟨distinct_of_tables (hinner.of_lookup hk), ?_⟩))
    simpa using distinct_nil.insertAll hpairs hnew
  · cases heq

end Entries

theorem Entry.Distinct.toValue {e : Entry} (h : e.Distinct) : e.toValue.Distinct := by
  induction h with
  | value distinct => exact distinct
  | table keys _ ih =>
    refine .table (Entries.keys_values _ ▸ keys) ?_
    rw [Entries.values_eq]
    exact List.forall_mem_map.mpr ih
  | @tables items keys _ ih =>
    refine .array ?_
    rw [Entries.rows_eq]
    refine List.forall_mem_map.mpr fun es hes => .table (Entries.keys_values es ▸ keys es hes) ?_
    rw [Entries.values_eq]
    exact List.forall_mem_map.mpr (ih es hes)

theorem Entries.Distinct.toTable {es : Entries} (h : es.Distinct) : Toml.Distinct (.table es.toTable) :=
  (h.table false false).toValue

/-! ### Values -/

namespace Read

/-- What a reader reads has a property. -/
def Yields {α : Type} (r : Reader α) (P : α → Prop) : Prop := ∀ cs x rest, r cs = some (x, rest) → P x

variable {item : Reader Toml}

theorem yields_dateTime : Yields dateTime Distinct := by
  intro cs v rest h
  obtain ⟨_, -, heq⟩ := Option.map_eq_some_iff.mp h
  cases heq
  exact .dateTime

theorem distinct_of_integer? {negative : Bool} {n : Nat} {v : Toml} (h : integer? negative n = some v) : v.Distinct := by
  unfold integer? at h
  split at h
  all_goals
    split at h
    · cases h
      exact .integer _
    · cases h

theorem yields_based (base : Nat) : Yields (based base) Distinct := by
  intro cs v rest h
  obtain ⟨_, -, h⟩ := Option.bind_eq_some_iff.mp h
  obtain ⟨_, hn, h⟩ := Option.bind_eq_some_iff.mp h
  cases h
  exact distinct_of_integer? hn

theorem yields_special : Yields special Distinct := by
  intro cs v rest h
  unfold special at h
  dsimp only at h
  split at h
  · cases h
    exact .float _
  · cases h
    exact .float _
  · cases h

theorem yields_decimal : Yields decimal Distinct := by
  intro cs v rest h
  unfold decimal at h
  dsimp only at h
  obtain ⟨_, -, h⟩ := Option.bind_eq_some_iff.mp h
  obtain ⟨_, -, h⟩ := Option.bind_eq_some_iff.mp h
  obtain ⟨_, -, h⟩ := Option.bind_eq_some_iff.mp h
  split at h
  · obtain ⟨_, hn, h⟩ := Option.bind_eq_some_iff.mp h
    cases h
    exact distinct_of_integer? hn
  · obtain ⟨_, hx, h⟩ := Option.bind_eq_some_iff.mp h
    cases h
    unfold float? at hx
    dsimp only at hx
    split at hx
    · cases hx
    · cases hx
      exact .float _

theorem Yields.or {α : Type} {r r' : Reader α} {P : α → Prop} (h : Yields r P) (h' : Yields r' P) :
    Yields (fun cs => (r cs).or (r' cs)) P := by
  intro cs x rest heq
  rcases Option.or_eq_some_iff.mp heq with heq | ⟨-, heq⟩
  · exact h cs x rest heq
  · exact h' cs x rest heq

theorem yields_number : Yields number Distinct := by
  intro cs v rest h
  unfold number at h
  split at h
  · exact yields_based _ _ _ _ h
  · exact yields_based _ _ _ _ h
  · exact yields_based _ _ _ _ h
  · exact yields_special.or yields_decimal _ _ _ h

theorem yields_scalar : Yields scalar Distinct := by
  intro cs v rest h
  unfold scalar at h
  split at h
  · cases h
  · split at h
    · obtain ⟨_, -, heq⟩ := Option.map_eq_some_iff.mp h
      cases heq
      exact .string _
    split at h
    · exact yields_dateTime.or yields_number _ _ _ h
    split at h
    · obtain ⟨_, -, heq⟩ := Option.map_eq_some_iff.mp h
      cases heq
      exact .boolean _
    split at h
    · obtain ⟨_, -, heq⟩ := Option.map_eq_some_iff.mp h
      cases heq
      exact .boolean _
    · exact yields_number _ _ _ h

theorem yields_items (hitem : Yields item Distinct) (n : Nat) : Yields (items item n) fun vs => ∀ v ∈ vs, v.Distinct := by
  induction n with
  | zero =>
    intro cs vs rest h
    cases h
  | succ n ih =>
    intro cs vs rest h
    unfold items at h
    split at h
    · cases h
      simp
    · split at h
      · cases h
      · rename_i v _ hv
        have hv := hitem _ _ _ hv
        split at h
        · cases h
          simpa using hv
        · obtain ⟨⟨vs', rest'⟩, hvs, heq⟩ := Option.map_eq_some_iff.mp h
          cases heq
          exact List.forall_mem_cons.mpr ⟨hv, ih _ _ _ hvs⟩
        · cases h

theorem yields_pair (hitem : Yields item Distinct) : Yields (pair item) fun p => p.2.Distinct := by
  intro cs p rest h
  unfold pair at h
  split at h
  · obtain ⟨⟨v, rest'⟩, hv, heq⟩ := Option.map_eq_some_iff.mp h
    cases heq
    exact hitem _ _ _ hv
  · cases h

theorem yields_pairs (hitem : Yields item Distinct) (n : Nat) :
    Yields (pairs item n) fun ps => ∀ p ∈ ps, p.2.Distinct := by
  induction n with
  | zero =>
    intro cs ps rest h
    cases h
  | succ n ih =>
    intro cs ps rest h
    unfold pairs at h
    split at h
    · cases h
    · rename_i p _ hp
      have hp := yields_pair hitem _ _ _ hp
      split at h
      · cases h
        simpa using hp
      · obtain ⟨⟨ps', rest'⟩, hps, heq⟩ := Option.map_eq_some_iff.mp h
        cases heq
        exact List.forall_mem_cons.mpr ⟨hp, ih _ _ _ hps⟩
      · cases h

theorem yields_inlineTable (hitem : Yields item Distinct) : Yields (inlineTable item) Distinct := by
  intro cs v rest h
  unfold inlineTable at h
  split at h
  · cases h
    exact Entries.distinct_nil.toTable
  · split at h
    · cases h
    · rename_i hps
      obtain ⟨es, hes, heq⟩ := Option.map_eq_some_iff.mp h
      cases heq
      exact (Entries.distinct_nil.insertAll (yields_pairs hitem _ _ _ _ hps) hes).toTable

theorem yields_value (depth : Nat) : Yields (value depth) Distinct := by
  induction depth with
  | zero =>
    intro cs v rest h
    unfold value at h
    split at h
    · cases h
    · cases h
    · exact yields_scalar _ _ _ h
  | succ depth ih =>
    intro cs v rest h
    unfold value at h
    split at h
    · obtain ⟨⟨vs, rest'⟩, hvs, heq⟩ := Option.map_eq_some_iff.mp h
      cases heq
      exact .array (yields_items ih _ _ _ _ hvs)
    · exact yields_inlineTable ih _ _ _ h
    · exact yields_scalar _ _ _ h

/-! ### Documents -/

/-- A line that says something says no value in which a table has a key twice. -/
def Line.Distinct : Line → Prop
  | .pair _ v => v.Distinct
  | .table _ | .row _ => True

theorem distinct_of_line {cs rest : List Char} {l : Line} (h : line cs = some (l, rest)) : l.Distinct := by
  unfold line at h
  split at h
  · unfold header at h
    split at h
    · split at h
      · cases h
        trivial
      · cases h
    · split at h
      · cases h
        trivial
      · cases h
    · cases h
  · obtain ⟨⟨⟨k, v⟩, rest'⟩, hpair, heq⟩ := Option.map_eq_some_iff.mp h
    cases heq
    exact yields_pair (yields_value _) _ _ _ hpair

theorem distinct_of_lines {fuel : Nat} {cs : List Char} {ls : List Line} (h : lines fuel cs = some ls) :
    ∀ l ∈ ls, l.Distinct := by
  induction fuel generalizing cs ls with
  | zero => cases h
  | succ fuel ih =>
    unfold lines at h
    split at h
    · cases h
      simp
    · split at h
      · cases h
        simp
      · cases h
    · obtain ⟨⟨l, _⟩, hl, h⟩ := Option.bind_eq_some_iff.mp h
      obtain ⟨_, -, h⟩ := Option.bind_eq_some_iff.mp h
      obtain ⟨ls', hls, h⟩ := Option.bind_eq_some_iff.mp h
      cases h
      exact List.forall_mem_cons.mpr ⟨distinct_of_line hl, ih hls⟩

theorem distinct_of_splitPairs {ls : List Line} (h : ∀ l ∈ ls, l.Distinct) :
    (∀ p ∈ (splitPairs ls).1, p.2.Distinct) ∧ ∀ l ∈ (splitPairs ls).2, l.Distinct := by
  induction ls with
  | nil => simp [splitPairs]
  | cons l ls ih =>
    obtain ⟨hl, hls⟩ := List.forall_mem_cons.mp h
    cases l with
    | pair k v =>
      obtain ⟨hpairs, hrest⟩ := ih hls
      exact ⟨List.forall_mem_cons.mpr ⟨hl, hpairs⟩, hrest⟩
    | table k => exact ⟨by simp [splitPairs], h⟩
    | row k => exact ⟨by simp [splitPairs], h⟩

theorem distinct_of_addLines {ls : List Line} {es t : Entries} (hls : ∀ l ∈ ls, l.Distinct) (h : es.Distinct)
    (heq : addLines ls es = some t) : t.Distinct := by
  induction ls generalizing es with
  | nil =>
    cases heq
    exact h
  | cons l ls ih =>
    replace hls := (List.forall_mem_cons.mp hls).2
    have hpairs := (distinct_of_splitPairs hls).1
    cases l with
    | pair k v => exact ih hls h heq
    | table k =>
      obtain ⟨_, -, heq⟩ := Option.bind_eq_some_iff.mp heq
      obtain ⟨es', hes, heq⟩ := Option.bind_eq_some_iff.mp heq
      exact ih hls (h.addTable hpairs hes) heq
    | row k =>
      obtain ⟨_, -, heq⟩ := Option.bind_eq_some_iff.mp heq
      obtain ⟨es', hes, heq⟩ := Option.bind_eq_some_iff.mp heq
      exact ih hls (h.addRow hpairs hes) heq

theorem distinct_of_build {ls : List Line} {es : Entries} (hls : ∀ l ∈ ls, l.Distinct) (h : build ls = some es) :
    es.Distinct := by
  obtain ⟨hpairs, hrest⟩ := distinct_of_splitPairs hls
  obtain ⟨es', hes, h⟩ := Option.bind_eq_some_iff.mp h
  exact distinct_of_addLines hrest (Entries.distinct_nil.insertAll hpairs hes) h

end Read

/-- No table of a document has a key twice, at whatever depth. -/
theorem distinct_of_read? {s : String} {members : List (String × Toml)} (h : read? s = some members) :
    Distinct (.table members) := by
  obtain ⟨ls, hls, h⟩ := Option.bind_eq_some_iff.mp h
  obtain ⟨es, hes, h⟩ := Option.bind_eq_some_iff.mp h
  cases h
  exact (Read.distinct_of_build (Read.distinct_of_lines hls) hes).toTable

end BatchFetch.Toml
