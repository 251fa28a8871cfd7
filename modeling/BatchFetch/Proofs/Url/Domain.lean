import BatchFetch.Proofs.Elements
import BatchFetch.Url.Domain

/-! # What domain names consist of

A domain name that was read has ASCII characters only, and none that would end it or set something apart in a URL. A
plain name is read as itself. -/

namespace BatchFetch

theorem Utf8.decode?_encode (cs : List Char) : decode? (encode cs) = some cs := by
  have bytes : (⟨(encode cs).toArray⟩ : ByteArray) = cs.utf8Encode := by
    apply ByteArray.ext
    simp [List.utf8Encode, encode]
  unfold decode? String.fromUTF8?
  rw [bytes, dif_pos (.intro cs rfl), Option.map_some]
  exact congrArg some String.toList_ofList

namespace Url

theorem Percent.decode_of_not_mem {cs : List Char} (h : '%' ∉ cs) : Percent.decode cs = Utf8.encode cs := by
  induction cs with
  | nil => rfl
  | cons c cs ih =>
    obtain ⟨hc, hcs⟩ := not_or.mp (mt List.mem_cons.mpr h)
    rw [Percent.decode, ih hcs]
    · rfl
    · rintro _ _ _ rfl -
      exact hc rfl

namespace Domain

variable {c : Char} {cs name label : List Char}

theorem isPlain_iff : isPlain name = true ↔
    (∀ c ∈ name, isAscii c = true ∧ c.isUpper = false ∧ isForbidden c = false) ∧
      ∀ label ∈ name.splitOn '.', mark.isPrefixOf label = false := by
  simp [isPlain, and_assoc]

theorem toLower_of_not_isUpper (h : c.isUpper = false) : c.toLower = c := dif_neg (of_decide_eq_false h)

theorem map_toLower (h : ∀ c ∈ cs, c.isUpper = false) : cs.map Char.toLower = cs :=
  (List.map_congr_left fun c hc => toLower_of_not_isUpper (h c hc)).trans (List.map_id cs)

/-- A plain name stands for itself. -/
theorem read?_of_isPlain (h : isPlain name = true) : read? name = some name := by
  obtain ⟨hchars, -⟩ := isPlain_iff.mp h
  have percent : '%' ∉ name := fun hmem => absurd (hchars '%' hmem).2.2 (by decide)
  have small := map_toLower fun c hc => (hchars c hc).2.1
  unfold read? ascii?
  rw [Percent.decode_of_not_mem percent, Utf8.decode?_encode, Option.bind_eq_bind, Option.bind_some, small, if_pos h]

/-! ### Written labels -/

/-- A character that may stand in a written name. -/
def Written (c : Char) : Prop := isAscii c = true ∧ isForbidden c = false

instance : DecidablePred Written := fun c => inferInstanceAs (Decidable (isAscii c = true ∧ isForbidden c = false))

theorem written_digitChar : ∀ d < 36, Written (Punycode.digitChar d) := by decide +kernel

theorem written_of_mem_mark (h : c ∈ mark) : Written c := by
  simp only [mark, List.mem_cons, List.not_mem_nil, or_false] at h
  rcases h with rfl | rfl | rfl | rfl <;> decide

theorem written_of_mem_number {bias k q : Nat} (h : c ∈ Punycode.number bias k q) : Written c := by
  have hthreshold (k : Nat) : Punycode.threshold bias k ≤ 26 := by
    unfold Punycode.threshold
    omega
  induction k, q using Punycode.number.induct bias with
  | case1 k q t small =>
    rw [Punycode.number, if_pos small] at h
    rw [List.mem_singleton.mp h]
    exact written_digitChar q (by have := hthreshold k; omega)
  | case2 k q t large ih =>
    rw [Punycode.number, if_neg large] at h
    rcases List.mem_cons.mp h with rfl | h
    · have ht : t ≤ 26 := hthreshold k
      have := Nat.mod_lt (q - t) (y := 36 - t) (by omega)
      exact written_digitChar (t + (q - t) % (36 - t)) (by omega)
    · exact ih h

theorem written_of_mem_pass {basic n : Nat} {w : Punycode.Writing} (d : Char) (h : ∀ c ∈ w.digits, Written c) :
    ∀ c ∈ (w.pass basic n d).digits, Written c := by
  unfold Punycode.Writing.pass
  split
  · exact h
  · split
    · intro c hc
      exact (List.mem_append.mp hc).elim (h c) written_of_mem_number
    · exact h

theorem written_of_mem_all {basic from_ : Nat} {ns : List Nat} {w : Punycode.Writing}
    (h : ∀ c ∈ w.digits, Written c) : ∀ c ∈ (Punycode.Writing.all basic label from_ ns w).digits, Written c := by
  have hfold (n : Nat) (cs : List Char) (w : Punycode.Writing) (h : ∀ c ∈ w.digits, Written c) :
      ∀ c ∈ (cs.foldl (Punycode.Writing.pass basic n) w).digits, Written c := by
    induction cs generalizing w with
    | nil => exact h
    | cons d cs ih => exact ih _ (written_of_mem_pass d h)
  induction ns generalizing from_ w with
  | nil => exact h
  | cons n ns ih => exact ih (hfold n label _ h)

theorem written_of_mem_encode (h : c ∈ Punycode.encode label) : c ∈ label ∧ isAscii c = true ∨ Written c := by
  unfold Punycode.encode at h
  rcases List.mem_append.mp h with h | h
  · rcases List.mem_append.mp h with h | h
    · exact .inl (List.mem_filter.mp h)
    · split at h
      · cases h
      · rw [List.mem_singleton.mp h]
        exact .inr (by decide)
  · exact .inr (written_of_mem_all (fun c hc => absurd hc List.not_mem_nil) c h)

/-! ### Labels that are read -/

theorem toNat_ofNat {n : Nat} (h : n.isValidChar) : (Char.ofNat n).toNat = n := by
  unfold Char.ofNat
  rw [dif_pos h]
  rfl

/-- A reading in progress has put in characters beyond ASCII only. -/
def Beyond (basic : List Char) (r : Punycode.Reading) : Prop :=
  (∀ c ∈ r.label, isAscii c = true → c ∈ basic) ∧ 128 ≤ r.codePoint

theorem Beyond.insert? {basic : List Char} {r r' : Punycode.Reading} (b : Beyond basic r) (h : r.insert? = some r') :
    Beyond basic r' := by
  unfold Punycode.Reading.insert? at h
  dsimp only at h
  split at h
  · rename_i valid
    cases h
    -- Code points only grow, so no character that is put in is ASCII.
    have hcode : 128 ≤ r.codePoint + (r.place + r.delta) / (r.label.length + 1) := Nat.le_add_right_of_le b.2
    refine ⟨fun c hc ascii => ?_, hcode⟩
    have hplace := Nat.mod_lt (r.place + r.delta) (Nat.succ_pos r.label.length)
    rcases (List.mem_insertIdx (Nat.le_of_lt_succ hplace)).mp hc with rfl | hc
    · unfold isAscii at ascii
      rw [toNat_ofNat valid.2] at ascii
      exact absurd (of_decide_eq_true ascii) (Nat.not_lt.mpr hcode)
    · exact b.1 c hc ascii
  · cases h

theorem Beyond.digit? {basic : List Char} {r r' : Punycode.Reading} (b : Beyond basic r) (h : r.digit? c = some r') :
    Beyond basic r' := by
  unfold Punycode.Reading.digit? at h
  obtain ⟨d, -, h⟩ := Option.bind_eq_some_iff.mp h
  dsimp only at h
  split at h
  · exact Beyond.insert? (r := { r with delta := r.delta + d * r.weight }) b h
  · split at h
    · cases h
      exact b
    · cases h

theorem Beyond.foldlM {basic digits : List Char} {r r' : Punycode.Reading} (b : Beyond basic r)
    (h : digits.foldlM Punycode.Reading.digit? r = some r') : Beyond basic r' := by
  induction digits generalizing r with
  | nil =>
    cases h
    exact b
  | cons d digits ih =>
    rw [List.foldlM_cons] at h
    obtain ⟨r₁, hr₁, h⟩ := Option.bind_eq_some_iff.mp h
    exact ih (b.digit? hr₁) h

/-- A label that is read from its writing has no ASCII character that is not in the writing. -/
theorem mem_of_decode? {writing : List Char} (h : Punycode.decode? writing = some label) (hc : c ∈ label)
    (ascii : isAscii c = true) : c ∈ writing := by
  unfold Punycode.decode? at h
  dsimp only at h
  split at h
  · obtain ⟨r, hr, h⟩ := Option.bind_eq_some_iff.mp h
    have beyond : Beyond (Punycode.split writing).1 r :=
      Beyond.foldlM ⟨fun c hc _ => hc, Nat.le_refl _⟩ hr
    split at h
    · cases h
      have hbasic := beyond.1 c hc ascii
      unfold Punycode.split at hbasic
      dsimp only at hbasic
      split at hbasic
      · cases hbasic
      · exact List.mem_of_mem_take hbasic
    · cases h
  · cases h

/-- A label that is meant has no ASCII character that may not stand in a name. -/
theorem written_of_meant? {raw : List Char} (hraw : ∀ c ∈ raw, isForbidden c = false) (h : meant? raw = some label)
    (hc : c ∈ label) (ascii : isAscii c = true) : Written c := by
  unfold meant? at h
  split at h
  · dsimp only at h
    split at h
    · cases h
    · split at h
      · rename_i l hl
        split at h
        · cases h
          exact ⟨ascii, hraw c (List.mem_of_mem_drop (mem_of_decode? hl hc ascii))⟩
        · cases h
      · cases h
  · cases h
    exact ⟨ascii, hraw c hc⟩

theorem written_of_written? {w : List Char} (hlabel : ∀ c ∈ label, isAscii c = true → Written c)
    (h : written? label = some w) (hc : c ∈ w) : Written c := by
  unfold written? at h
  split at h
  · rename_i all
    cases h
    exact hlabel c hc (List.all_eq_true.mp all c hc)
  · split at h
    · cases h
    · cases h
      rcases List.mem_append.mp hc with hc | hc
      · exact written_of_mem_mark hc
      · exact (written_of_mem_encode hc).elim (fun h => hlabel c h.1 h.2) id

theorem written_of_labels? {labels : List (List Char)} (h : labels? cs = some labels) (hlabel : label ∈ labels)
    (hc : c ∈ label) (ascii : isAscii c = true) : Written c := by
  obtain ⟨name, -, h⟩ := Option.bind_eq_some_iff.mp h
  split at h
  · cases h
  · rename_i allowed
    obtain ⟨labels', hlabels', h⟩ := Option.bind_eq_some_iff.mp h
    split at h
    · cases h
      obtain ⟨raw, hraw, hmeant⟩ := exists_of_mem_mapM hlabels' label hlabel
      refine written_of_meant? (fun d hd => ?_) hmeant hc ascii
      exact (Bool.not_eq_true _).mp fun hd' => allowed (List.any_eq_true.mpr ⟨d, mem_of_mem_splitOn hraw hd, hd'⟩)
    · cases h

/-- All characters of a name that was read may stand in a written name. -/
theorem written_of_read? (h : read? cs = some name) (hc : c ∈ name) : Written c := by
  obtain ⟨text, -, h⟩ := Option.bind_eq_some_iff.mp h
  unfold ascii? at h
  split at h
  · rename_i plain
    cases h
    obtain ⟨ascii, -, allowed⟩ := (isPlain_iff.mp plain).1 c hc
    exact ⟨ascii, allowed⟩
  · obtain ⟨labels, hlabels, h⟩ := Option.bind_eq_some_iff.mp h
    obtain ⟨written, hwritten, rfl⟩ := Option.map_eq_some_iff.mp h
    rcases mem_intercalate hc with rfl | ⟨w, hw, hc⟩
    · decide
    · obtain ⟨label, hlabel, hw⟩ := exists_of_mem_mapM hwritten w hw
      exact written_of_written? (fun c hc ascii => written_of_labels? hlabels hlabel hc ascii) hw hc

end Domain

end Url

end BatchFetch
