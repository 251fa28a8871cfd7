import BatchFetch.Proofs.Elements
import BatchFetch.Proofs.Text.Decimal
import BatchFetch.Proofs.Url.Domain
import BatchFetch.Url.Ipv4
import BatchFetch.Url.Ipv6

/-! # Addresses and their texts

The text of an address is read as that address. -/

namespace BatchFetch.Url

/-! ### Addresses of four bytes -/

namespace Ipv4

theorem number?_digits : ∀ n < 256, number? (Decimal.digits n) = some n := by decide +kernel

theorem bytes_lt {a n : Nat} (h : n ∈ bytes a) : n < 256 := by
  simp only [bytes, List.mem_cons, List.not_mem_nil, or_false] at h
  omega

theorem dot_not_mem_digits (n : Nat) : '.' ∉ Decimal.digits n := fun h =>
  absurd (Decimal.isDigit_of_mem_digits h) (by decide)

theorem splitOn_text (a : Nat) : (text a).splitOn '.' = (bytes a).map Decimal.digits := by
  refine List.splitOn_intercalate '.' (fun l hl => ?_) (by simp [bytes])
  obtain ⟨n, -, rfl⟩ := List.mem_map.mp hl
  exact dot_not_mem_digits n

theorem parts_text (a : Nat) : parts (text a) = (bytes a).map Decimal.digits := by
  unfold parts
  rw [splitOn_text]
  exact if_neg fun h => Decimal.digits_ne_nil _ (Option.some.inj h)

theorem assemble?_bytes {a : Nat} (h : a < 0x100000000) : assemble? (bytes a) = some a := by
  have fits : a % 256 < twoTo 8 := Nat.mod_lt a (by decide)
  have value : Decimal.valueOf 256 [a / 0x1000000 % 256, a / 0x10000 % 256, a / 256 % 256] * 256 + a % 256 = a := by
    simp only [Decimal.valueOf, List.foldl_cons, List.foldl_nil]
    omega
  unfold assemble?
  simp only [bytes, List.reverse_cons, List.reverse_nil, List.nil_append, List.cons_append, List.length_cons,
    List.length_nil]
  rw [if_pos ⟨by decide, by simp; omega, fits⟩]
  exact congrArg some value

theorem read?_text {a : Nat} (h : a < 0x100000000) : read? (text a) = some a := by
  have numbers : ((bytes a).map Decimal.digits).mapM number? = some ((bytes a).map id) :=
    mapM_map fun n hn => number?_digits n (bytes_lt hn)
  unfold read?
  rw [parts_text, numbers, List.map_id]
  exact assemble?_bytes h

theorem endsInNumber_text (a : Nat) : endsInNumber (text a) = true := by
  have all : (Decimal.digits (a % 256)).all Decimal.isDigit = true :=
    List.all_eq_true.mpr fun c hc => (Decimal.isDigit_eq c).trans (Decimal.isDigit_of_mem_digits hc)
  unfold endsInNumber
  rw [parts_text]
  show (!(Decimal.digits (a % 256)).isEmpty && (Decimal.digits (a % 256)).all Decimal.isDigit || _) = true
  rw [all, List.isEmpty_eq_false_iff.mpr (Decimal.digits_ne_nil _)]
  rfl

theorem four_bytes : ∀ k < 4, 256 ^ k * twoTo (8 * (4 - k)) = 0x100000000 := by decide

/-- An address that was read has four bytes. -/
theorem lt_of_read? {host : List Char} {a : Nat} (h : read? host = some a) : a < 0x100000000 := by
  obtain ⟨numbers, -, h⟩ := Option.bind_eq_some_iff.mp h
  unfold assemble? at h
  split at h
  · cases h
  · split at h
    · rename_i last others _ hfits
      obtain ⟨hlength, hbytes, hlast⟩ := hfits
      cases h
      have hvalue := Decimal.valueOf_lt 256 others.reverse fun d hd =>
        of_decide_eq_true (List.all_eq_true.mp hbytes d (List.mem_reverse.mp hd))
      rw [List.length_reverse] at hvalue
      calc Decimal.valueOf 256 others.reverse * twoTo (8 * (4 - others.length)) + last
          < (Decimal.valueOf 256 others.reverse + 1) * twoTo (8 * (4 - others.length)) := by
            rw [Nat.add_mul, Nat.one_mul]
            omega
        _ ≤ 256 ^ others.length * twoTo (8 * (4 - others.length)) := Nat.mul_le_mul_right _ hvalue
        _ = 0x100000000 := four_bytes _ hlength
    · cases h

theorem plain_of_isDigit {c : Char} (h : c.isDigit = true) :
    Domain.isAscii c = true ∧ c.isUpper = false ∧ Domain.isForbidden c = false :=
  Decimal.of_isDigit (p := fun c => Domain.isAscii c = true ∧ c.isUpper = false ∧ Domain.isForbidden c = false) h
    (by decide)

theorem text_ne_nil (a : Nat) : text a ≠ [] := by
  simp [text, bytes, List.intercalate_cons_cons]

/-- The text of an address is a name that needs no mapping. -/
theorem isPlain_text (a : Nat) : Domain.isPlain (text a) = true := by
  refine Domain.isPlain_iff.mpr ⟨fun c hc => ?_, fun label hlabel => ?_⟩
  · rcases mem_intercalate hc with rfl | ⟨l, hl, hc⟩
    · decide
    · obtain ⟨n, -, rfl⟩ := List.mem_map.mp hl
      exact plain_of_isDigit (Decimal.isDigit_of_mem_digits hc)
  · rw [splitOn_text] at hlabel
    obtain ⟨n, -, rfl⟩ := List.mem_map.mp hlabel
    obtain ⟨d, ds, hds⟩ := List.exists_cons_of_ne_nil (Decimal.digits_ne_nil n)
    have hd := Decimal.isDigit_of_mem_digits (n := n) (c := d) (by rw [hds]; exact List.mem_cons_self)
    have hx : 'x' ≠ d := fun h => by
      rw [← h] at hd
      cases hd
    rw [hds]
    show ('x' == d && _) = false
    rw [beq_eq_false_iff_ne.mpr hx, Bool.false_and]

end Ipv4

/-! ### Addresses of eight groups -/

namespace Ipv6

variable {g i n : Nat} {gs : List Nat} {cs l r : List Char}

/-- The groups of an address: eight numbers of sixteen bits. -/
def Fits (gs : List Nat) : Prop := gs.length = 8 ∧ ∀ g ∈ gs, g < 0x10000

theorem group?_lt (h : group? cs = some g) : g < 0x10000 := by
  unfold group? at h
  split at h
  · rename_i hcs
    cases h
    exact Nat.lt_of_lt_of_le (Decimal.valueIn_lt cs) (Nat.pow_le_pow_right (by decide) hcs.2.1)
  · cases h

theorem byte?_lt (h : byte? cs = some g) : g < 256 := by
  unfold byte? at h
  split at h
  · split at h
    · rename_i hn
      cases h
      exact hn.1
    · cases h
  · cases h

theorem last?_lt (h : last? cs = some gs) : ∀ g ∈ gs, g < 0x10000 := by
  unfold last? at h
  split at h
  · rename_i g hg
    cases h
    simpa using group?_lt hg
  · unfold dotted? at h
    split at h
    · rename_i a b c d hbytes
      have hlt : ∀ n ∈ [a, b, c, d], n < 256 := fun n hn =>
        have ⟨_, _, hbyte⟩ := exists_of_mem_mapM hbytes n hn
        byte?_lt hbyte
      simp only [List.forall_mem_cons] at hlt
      cases h
      simp only [List.forall_mem_cons]
      refine ⟨by omega, by omega, by simp⟩
    · cases h

theorem groups?_lt {last : List Char → Option (List Nat)}
    (hlast : ∀ cs gs, last cs = some gs → ∀ g ∈ gs, g < 0x10000) (h : groups? last cs = some gs) :
    ∀ g ∈ gs, g < 0x10000 := by
  unfold groups? at h
  dsimp only at h
  split at h
  · rename_i first end_ hfirst hend
    cases h
    obtain ⟨piece, -, hpiece⟩ := Option.bind_eq_some_iff.mp hend
    intro g hg
    rcases List.mem_append.mp hg with hg | hg
    · obtain ⟨_, _, hgroup⟩ := exists_of_mem_mapM hfirst g hg
      exact group?_lt hgroup
    · exact hlast piece end_ hpiece g hg
  · cases h

theorem groupsOrNone?_lt {last : List Char → Option (List Nat)}
    (hlast : ∀ cs gs, last cs = some gs → ∀ g ∈ gs, g < 0x10000) (h : groupsOrNone? last cs = some gs) :
    ∀ g ∈ gs, g < 0x10000 := by
  unfold groupsOrNone? at h
  split at h
  · cases h
    exact fun g hg => absurd hg List.not_mem_nil
  · exact groups?_lt hlast h

/-- An address that was read has eight groups. -/
theorem fits_of_read? (h : read? cs = some gs) : Fits gs := by
  unfold read? at h
  split at h
  · rename_i left right _
    split at h
    · rename_i a b ha hb
      split at h
      · rename_i short
        cases h
        refine ⟨by simp; omega, fun g hg => ?_⟩
        rcases List.mem_append.mp hg with hg | hg
        · rcases List.mem_append.mp hg with hg | hg
          · refine groupsOrNone?_lt (fun cs gs h => ?_) ha g hg
            obtain ⟨g, hgroup, rfl⟩ := Option.map_eq_some_iff.mp h
            simpa using group?_lt hgroup
          · rw [List.eq_of_mem_replicate hg]
            decide
        · exact groupsOrNone?_lt (fun _ _ => last?_lt) hb g hg
      · cases h
    · cases h
  · split at h
    · rename_i gs' hgs
      split at h
      · rename_i hlength
        cases h
        exact ⟨hlength, groups?_lt (fun _ _ => last?_lt) hgs⟩
      · cases h
    · cases h

/-! The text of an address is read back piece by piece. -/

theorem group?_toDigits (h : g < 0x10000) : group? (Nat.toDigits 16 g) = some g := by
  have short : (Nat.toDigits 16 g).length ≤ 4 := (Nat.length_toDigits_le_iff (by decide) (by decide)).mpr h
  have hex : (Nat.toDigits 16 g).all (fun c => (Decimal.hexDigit? c).isSome) = true :=
    List.all_eq_true.mpr fun c hc => by
      obtain ⟨d, hd, rfl⟩ := Decimal.exists_of_mem_toDigits (by decide) hc
      rw [Decimal.hexDigit?_digitChar d hd, Option.isSome_some]
  unfold group?
  rw [if_pos ⟨Nat.length_toDigits_pos, short, hex⟩, Decimal.valueIn_toDigits (by decide) (by decide)]

theorem last?_toDigits (h : g < 0x10000) : last? (Nat.toDigits 16 g) = some [g] := by
  unfold last?
  rw [group?_toDigits h]

theorem colon_not_mem_toDigits (g : Nat) : ':' ∉ Nat.toDigits 16 g := fun h => by
  obtain ⟨d, hd, heq⟩ := Decimal.exists_of_mem_toDigits (by decide) h
  have : ∀ d < 16, ':' ≠ d.digitChar := by decide
  exact this d hd heq

theorem splitGap_cons {c : Char} (h : c ≠ ':' ∨ r.head? ≠ some ':') :
    splitGap (c :: r) = (splitGap r).map fun (a, b) => (c :: a, b) := by
  conv_lhs => unfold splitGap
  split
  · rename_i heq
    cases heq
    exact absurd rfl (h.resolve_left (not_not.mpr rfl))
  · rename_i heq
    cases heq
    rfl
  · rename_i heq
    cases heq

theorem splitGap_append (h : ':' ∉ l) (r : List Char) :
    splitGap (l ++ r) = (splitGap r).map fun (a, b) => (l ++ a, b) := by
  induction l with
  | nil => simp
  | cons c l ih =>
    obtain ⟨hc, hl⟩ := not_or.mp (mt List.mem_cons.mpr h)
    rw [List.cons_append, splitGap_cons (.inl (Ne.symm hc)), ih hl, Option.map_map]
    rfl

theorem joined_cons_cons (g g' : Nat) (gs : List Nat) :
    joined (g :: g' :: gs) = Nat.toDigits 16 g ++ ':' :: joined (g' :: gs) := by
  simp [joined, List.intercalate_cons_cons]

theorem head?_joined (g : Nat) (gs : List Nat) (r : List Char) : (joined (g :: gs) ++ r).head? ≠ some ':' := by
  obtain ⟨d, ds, hds⟩ := List.exists_cons_of_ne_nil (Nat.toDigits_ne_nil (n := g) (b := 16))
  have hd : d ≠ ':' := fun h => colon_not_mem_toDigits g (by rw [hds, h]; exact List.mem_cons_self)
  cases gs with
  | nil => simpa [joined, hds] using hd
  | cons g' gs => simpa [joined_cons_cons, hds] using hd

/-- No gap is found among groups with single colons between them. -/
theorem splitGap_joined (gs : List Nat) (r : List Char) :
    splitGap (joined gs ++ r) = (splitGap r).map fun (a, b) => (joined gs ++ a, b) := by
  induction gs with
  | nil => simp [joined]
  | cons g gs ih =>
    cases gs with
    | nil => simpa [joined] using splitGap_append (colon_not_mem_toDigits g) r
    | cons g' gs =>
      rw [joined_cons_cons, List.append_assoc, splitGap_append (colon_not_mem_toDigits g), List.cons_append,
        splitGap_cons (.inr (head?_joined g' gs r)), ih, Option.map_map, Option.map_map]
      simp [Function.comp_def]

theorem groups?_joined {last : List Char → Option (List Nat)}
    (hlast : ∀ g < 0x10000, last (Nat.toDigits 16 g) = some [g]) (hne : gs ≠ []) (h : ∀ g ∈ gs, g < 0x10000) :
    groups? last (joined gs) = some gs := by
  have pieces : (joined gs).splitOn ':' = gs.map (Nat.toDigits 16) := by
    refine List.splitOn_intercalate ':' (fun l hl => ?_) (by simpa using hne)
    obtain ⟨g, -, rfl⟩ := List.mem_map.mp hl
    exact colon_not_mem_toDigits g
  have first : (gs.dropLast.map (Nat.toDigits 16)).mapM group? = some (gs.dropLast.map id) :=
    mapM_map fun g hg => group?_toDigits (h g (List.dropLast_subset gs hg))
  have final : (gs.map (Nat.toDigits 16)).getLast?.bind last = some [gs.getLast hne] := by
    rw [List.getLast?_map, List.getLast?_eq_some_getLast hne]
    exact hlast _ (h _ (List.getLast_mem hne))
  unfold groups?
  dsimp only
  rw [pieces, final, ← List.map_dropLast, first, List.map_id]
  exact congrArg some (List.dropLast_append_getLast hne)

theorem groupsOrNone?_joined {last : List Char → Option (List Nat)}
    (hlast : ∀ g < 0x10000, last (Nat.toDigits 16 g) = some [g]) (h : ∀ g ∈ gs, g < 0x10000) :
    groupsOrNone? last (joined gs) = some gs := by
  unfold groupsOrNone?
  cases gs with
  | nil => rfl
  | cons g gs =>
    have hne : (joined (g :: gs)).isEmpty = false := by
      cases gs with
      | nil => simp [joined]
      | cons g' gs => simp [joined_cons_cons]
    rw [hne]
    exact groups?_joined hlast (List.cons_ne_nil g gs) h

theorem zeros_spec (gs : List Nat) : zeros gs ≤ gs.length ∧ gs = List.replicate (zeros gs) 0 ++ gs.drop (zeros gs) := by
  induction gs with
  | nil => exact ⟨Nat.le_refl _, rfl⟩
  | cons g gs ih =>
    obtain ⟨hlength, hgs⟩ := ih
    by_cases hg : g = 0
    · have hzeros : zeros (g :: gs) = zeros gs + 1 := by simp [zeros, hg]
      rw [hzeros, List.length_cons, List.drop_succ_cons, List.replicate_succ, List.cons_append, ← hgs, hg]
      exact ⟨Nat.succ_le_succ hlength, rfl⟩
    · have hzeros : zeros (g :: gs) = 0 := by simp [zeros, hg]
      rw [hzeros]
      exact ⟨Nat.zero_le _, rfl⟩

/-- Where an address is said to have a run of zeros, it has one. -/
theorem longestGap_spec (gs : List Nat) :
    (longestGap gs).1 + (longestGap gs).2 ≤ gs.length ∧
      gs = gs.take (longestGap gs).1 ++ List.replicate (longestGap gs).2 0 ++
        gs.drop ((longestGap gs).1 + (longestGap gs).2) := by
  induction gs with
  | nil => exact ⟨Nat.le_refl _, rfl⟩
  | cons g gs ih =>
    unfold longestGap
    dsimp only
    split
    -- The longest run begins here, or it is one of the later groups.
    · rw [Nat.zero_add, List.take_zero, List.nil_append]
      exact zeros_spec (g :: gs)
    · obtain ⟨hlength, hgs⟩ := ih
      refine ⟨by simp; omega, ?_⟩
      rw [Nat.add_right_comm, List.take_succ_cons, List.drop_succ_cons, List.cons_append, List.cons_append, ← hgs]

theorem read?_text (h : Fits gs) : read? (text gs) = some gs := by
  obtain ⟨hlength, hlt⟩ := h
  obtain ⟨hgap, hgs⟩ := longestGap_spec gs
  unfold text
  dsimp only
  split
  · have hnone : splitGap (joined gs) = none := by simpa [splitGap] using splitGap_joined gs []
    have hread : groups? last? (joined gs) = some gs :=
      groups?_joined (fun _ => last?_toDigits) (List.ne_nil_of_length_eq_add_one hlength) hlt
    unfold read?
    rw [hnone]
    dsimp only
    rw [hread]
    exact if_pos hlength
  -- The address is split at its gap, and as many zeros are filled in as the run had.
  · rename_i long
    generalize (longestGap gs).1 = i, (longestGap gs).2 = n at hgap hgs long
    have hsplit : splitGap (joined (gs.take i) ++ [':', ':'] ++ joined (gs.drop (i + n))) =
        some (joined (gs.take i), joined (gs.drop (i + n))) := by
      rw [List.append_assoc, splitGap_joined]
      simp [splitGap]
    have hleft : groupsOrNone? (fun g => (group? g).map ([·])) (joined (gs.take i)) = some (gs.take i) :=
      groupsOrNone?_joined (fun g hg => by rw [group?_toDigits hg]; rfl) fun g hg => hlt g (List.mem_of_mem_take hg)
    have hright : groupsOrNone? last? (joined (gs.drop (i + n))) = some (gs.drop (i + n)) :=
      groupsOrNone?_joined (fun _ => last?_toDigits) fun g hg => hlt g (List.mem_of_mem_drop hg)
    have hmissing : 8 - (gs.take i).length - (gs.drop (i + n)).length = n := by
      rw [List.length_take, List.length_drop]
      omega
    unfold read?
    rw [hsplit]
    dsimp only
    rw [hleft, hright]
    dsimp only
    rw [hmissing, ← hgs]
    refine if_pos ?_
    rw [List.length_take, List.length_drop]
    omega

theorem mem_joined {c : Char} (h : c ∈ joined gs) : c = ':' ∨ ∃ d < 16, c = d.digitChar := by
  rcases mem_intercalate h with h | ⟨l, hl, hc⟩
  · exact .inl h
  · obtain ⟨g, -, rfl⟩ := List.mem_map.mp hl
    exact .inr (Decimal.exists_of_mem_toDigits (by decide) hc)

/-- The text of an address has digits and colons only. -/
theorem mem_text {c : Char} (h : c ∈ text gs) : c = ':' ∨ ∃ d < 16, c = d.digitChar := by
  unfold text at h
  dsimp only at h
  split at h
  · exact mem_joined h
  · rcases List.mem_append.mp h with h | h
    · rcases List.mem_append.mp h with h | h
      · exact mem_joined h
      · exact .inl (by simpa using h)
    · exact mem_joined h

end Ipv6

end BatchFetch.Url
