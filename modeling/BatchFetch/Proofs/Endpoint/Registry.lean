import BatchFetch.Endpoint.Registry
import BatchFetch.Proofs.Assoc

/-! # Breakers by key

A registry keeps the breakers of different keys apart: what is put at a key is found there, and the
breakers of all other keys stay as they are. -/

namespace BatchFetch.Registry

section Get
variable {r : Registry} {key k : String} {b : Breaker}

theorem put_of_mem (h : key ∈ r.keys) :
    r.put key b = { breakers := r.breakers.map fun e => if e.1 == key then (key, b) else e } :=
  if_pos (List.contains_iff_mem.mpr h)

theorem put_of_not_mem (h : key ∉ r.keys) : r.put key b = { breakers := r.breakers ++ [(key, b)] } :=
  if_neg (by simpa using h)

theorem get_put : (r.put key b).get k = if k = key then b else r.get k := by
  unfold put get keys
  by_cases hmem : key ∈ r.breakers.map (·.1)
  · rw [if_pos (by simpa using hmem), lookup_replace]
    split
    · obtain ⟨e, he, rfl⟩ := List.mem_map.mp hmem
      have hsome : (r.breakers.lookup e.1).isSome :=
        List.lookup_isSome_iff.mpr ⟨e, he, beq_self_eq_true e.1⟩
      obtain ⟨b', hb'⟩ := Option.isSome_iff_exists.mp hsome
      simp [hb']
    · rfl
  · rw [if_neg (by simpa using hmem), List.lookup_append]
    by_cases hk : k = key
    · subst hk
      have hnone : r.breakers.lookup k = none :=
        List.lookup_eq_none_iff.mpr fun e he => bne_iff_ne.mpr fun heq => hmem (List.mem_map.mpr ⟨e, he, heq.symm⟩)
      simp [hnone]
    · simp [hk, List.lookup_cons, beq_false_of_ne hk]

end Get

section Keys
variable {r : Registry} {key k : String} {b : Breaker}

/-- A key keeps its place; a new one comes last. -/
theorem keys_put : (r.put key b).keys = if key ∈ r.keys then r.keys else r.keys ++ [key] := by
  by_cases hmem : key ∈ r.keys
  · rw [put_of_mem hmem, if_pos hmem]
    unfold keys
    rw [List.map_map]
    refine List.map_congr_left fun e _ => ?_
    by_cases he : e.1 = key <;> simp [he]
  · rw [put_of_not_mem hmem, if_neg hmem]
    simp [keys]

theorem mem_keys_put : k ∈ (r.put key b).keys ↔ k ∈ r.keys ∨ k = key := by
  rw [keys_put]
  split
  · rename_i hmem
    exact ⟨.inl, fun h => h.elim id fun hk => hk ▸ hmem⟩
  · simp

/-- What was put at a key before is gone. -/
theorem put_put {b' : Breaker} : (r.put key b).put key b' = r.put key b' := by
  have hthere : key ∈ (r.put key b).keys := mem_keys_put.mpr (.inr rfl)
  by_cases hmem : key ∈ r.keys
  · rw [put_of_mem hthere, put_of_mem hmem, put_of_mem hmem, List.map_map]
    congr 1
    refine List.map_congr_left fun e _ => ?_
    by_cases he : e.1 = key <;> simp [he]
  · have hother : ∀ e ∈ r.breakers, (if e.1 == key then (key, b') else e) = e := fun e he =>
      if_neg (by simpa using fun heq : e.1 = key => hmem (List.mem_map.mpr ⟨e, he, heq⟩))
    rw [put_of_mem hthere, put_of_not_mem hmem, put_of_not_mem hmem, List.map_append, List.map_congr_left hother]
    simp

theorem nodup_keys_put (h : r.keys.Nodup) : (r.put key b).keys.Nodup := by
  rw [keys_put]
  split
  · exact h
  · rename_i hmem
    exact List.nodup_append.mpr ⟨h, by simp, fun x hx y hy heq => hmem (List.mem_singleton.mp hy ▸ heq ▸ hx)⟩

theorem place_put (h : k ∈ r.keys) : (r.put key b).place k = r.place k := by
  unfold place
  rw [keys_put]
  split
  · rfl
  · exact List.idxOf_append_of_mem h

theorem place_inj (h : k ∈ r.keys) : r.place k = r.place key ↔ k = key := List.idxOf_inj h

theorem size_eq : r.size = r.keys.length := (List.length_map _).symm

theorem isEmpty_iff : r.isEmpty = true ↔ r.size = 0 := by
  unfold isEmpty size
  rw [List.isEmpty_iff, List.length_eq_zero_iff]

/-- The breaker of a key is at the place of the key. -/
theorem entry_at_place (h : k ∈ r.keys) : r.breakers[r.place k]? = some (k, r.get k) := by
  obtain ⟨entries⟩ := r
  change k ∈ entries.map (·.1) at h
  show entries[(entries.map (·.1)).idxOf k]? = some (k, (entries.lookup k).getD {})
  induction entries with
  | nil => simp at h
  | cons e es ih =>
    obtain ⟨k', b⟩ := e
    rw [List.map_cons, List.idxOf_cons, List.lookup_cons]
    by_cases hk : k' = k
    · subst hk
      simp
    · have hmem : k ∈ es.map (·.1) := (List.mem_cons.mp h).resolve_left fun heq => hk heq.symm
      rw [beq_false_of_ne hk, beq_false_of_ne (Ne.symm hk)]
      exact ih hmem

end Keys

end BatchFetch.Registry
