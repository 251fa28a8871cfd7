import BatchFetch.Proofs.Url.Addresses
import BatchFetch.Url.Basic

/-! # Hosts and their texts

The text of a host that was read has nothing in it that would end it inside of a URL, apart from the colons between the
brackets of an address. It is read back as the same host; of a domain name that is not plain this has to be known. -/

namespace BatchFetch.Url.Host

variable {c : Char} {cs l name : List Char} {x : Host} {gs : List Nat}

/-! ### Characters -/

/-- A character that may stand in a host other than an address in brackets. -/
def InName (c : Char) : Prop := isForbidden c = false ∧ 32 < c.toNat ∧ c.toNat < 127

instance : DecidablePred InName := fun c => inferInstanceAs (Decidable (isForbidden c = false ∧ _ ∧ _))

/-- A character that may stand in the text of a host. -/
def InText (c : Char) : Prop := 32 < c.toNat ∧ c.toNat < 127 ∧ c ∉ ['#', '/', '?', '@', '\\', '|']

instance : DecidablePred InText := fun c => inferInstanceAs (Decidable (_ ∧ _ ∧ c ∉ ['#', '/', '?', '@', '\\', '|']))

theorem of_ascii {p : Char → Prop} (h : c.toNat < 128) (ascii : ∀ n < 128, p (Char.ofNat n)) : p c := by
  have hp := ascii c.toNat h
  rwa [Char.ofNat_toNat] at hp

theorem inText_of_inName (h : InName c) : InText c ∧ c ≠ ':' ∧ c ≠ '[' := by
  obtain ⟨allowed, low, high⟩ := h
  have hnot (d : Char) (hd : isForbidden d = true) : c ≠ d := fun h => by
    rw [h, hd] at allowed
    cases allowed
  refine ⟨⟨low, high, ?_⟩, hnot ':' (by decide), hnot '[' (by decide)⟩
  simp only [List.mem_cons, List.not_mem_nil, or_false, not_or]
  exact ⟨hnot _ (by decide), hnot _ (by decide), hnot _ (by decide), hnot _ (by decide), hnot _ (by decide),
    hnot _ (by decide)⟩

theorem inName_of_written (h : Domain.Written c) : InName c :=
  of_ascii (p := fun c => Domain.Written c → InName c) (of_decide_eq_true h.1) (by decide +kernel) h

theorem inName_upperDigit (n : Nat) : InName (Percent.upperDigit n) := by
  by_cases h : n < 16
  · have : ∀ n < 16, InName (Percent.upperDigit n) := by decide +kernel
    exact this n h
  · unfold Percent.upperDigit
    rw [List.getElem?_eq_none (by simpa using h)]
    decide

/-- What is encoded in a host of any text has characters of a name only. -/
theorem inName_of_mem_encode (h : ∀ d ∈ cs, isForbidden d = false) (hc : c ∈ Percent.encode Percent.controls cs) :
    InName c := by
  obtain ⟨d, hd, hc⟩ := List.mem_flatMap.mp hc
  split at hc
  · obtain ⟨b, -, hc⟩ := List.mem_flatMap.mp hc
    simp only [Percent.byte, List.mem_cons, List.not_mem_nil, or_false] at hc
    rcases hc with rfl | rfl | rfl
    · decide
    · exact inName_upperDigit _
    · exact inName_upperDigit _
  · rename_i kept
    rw [List.mem_singleton.mp hc]
    simp only [Bool.or_eq_true, decide_eq_true_eq, not_or, Bool.not_eq_true] at kept
    exact of_ascii (p := fun d => Percent.controls d = false → isForbidden d = false → InName d) (by omega)
      (by decide +kernel) kept.1 (h d hd)

theorem encode_of_inName (h : ∀ c ∈ cs, InName c) : Percent.encode Percent.controls cs = cs := by
  unfold Percent.encode
  induction cs with
  | nil => rfl
  | cons c cs ih =>
    obtain ⟨⟨-, low, high⟩, hcs⟩ := List.forall_mem_cons.mp h
    have kept : ¬(Percent.controls c || decide (127 < c.toNat)) = true := by
      simp [Percent.controls]
      omega
    rw [List.flatMap_cons, if_neg kept, ih hcs, List.singleton_append]

/-! ### Where a host ends -/

theorem splitPort_cons {bracketed : Bool} (h : ¬(c = ':' ∧ !bracketed)) (cs : List Char) :
    splitPort bracketed (c :: cs) =
      (c :: (splitPort (c == '[' || bracketed && c != ']') cs).1, (splitPort (c == '[' || bracketed && c != ']') cs).2) :=
  if_neg h

theorem splitPort_of_not_mem (colon : ':' ∉ l) (bracket : '[' ∉ l) (r : List Char) :
    splitPort false (l ++ r) = (l ++ (splitPort false r).1, (splitPort false r).2) := by
  induction l with
  | nil => rfl
  | cons c l ih =>
    obtain ⟨hcolon, colon⟩ := not_or.mp (mt List.mem_cons.mpr colon)
    obtain ⟨hbracket, bracket⟩ := not_or.mp (mt List.mem_cons.mpr bracket)
    have hflag : (c == '[' || false && c != ']') = false := by simp [Ne.symm hbracket]
    rw [List.cons_append, splitPort_cons fun h => hcolon h.1.symm, hflag, ih colon bracket]
    rfl

/-- Inside of brackets a colon begins no port. -/
theorem splitPort_of_bracketed (bracket : ']' ∉ l) (r : List Char) :
    splitPort true (l ++ ']' :: r) = (l ++ ']' :: (splitPort false r).1, (splitPort false r).2) := by
  induction l with
  | nil => rfl
  | cons c l ih =>
    obtain ⟨hbracket, bracket⟩ := not_or.mp (mt List.mem_cons.mpr bracket)
    have hflag : (c == '[' || true && c != ']') = true := by simp [Ne.symm hbracket]
    rw [List.cons_append, splitPort_cons (by simp), hflag, ih bracket]
    rfl

/-! ### Texts of hosts -/

/-- The text of a host inside of a URL: it is not empty, it has only characters of its own, and a port begins behind
    it. -/
structure Closed (text : List Char) : Prop where
  nonempty : text ≠ []
  chars : ∀ c ∈ text, InText c
  port : ∀ r, splitPort false (text ++ r) = (text ++ (splitPort false r).1, (splitPort false r).2)

theorem closed_of_inName (hne : name ≠ []) (h : ∀ c ∈ name, InName c) : Closed name where
  nonempty := hne
  chars c hc := (inText_of_inName (h c hc)).1
  port := splitPort_of_not_mem (fun hc => (inText_of_inName (h _ hc)).2.1 rfl) fun hc =>
    (inText_of_inName (h _ hc)).2.2 rfl

theorem inText_of_mem_ipv6 (h : c ∈ Ipv6.text gs) : InText c ∧ c ≠ ']' := by
  rcases Ipv6.mem_text h with rfl | ⟨d, hd, rfl⟩
  · decide
  · have : ∀ d < 16, InText d.digitChar ∧ d.digitChar ≠ ']' := by decide +kernel
    exact this d hd

theorem closed_ipv6 (gs : List Nat) : Closed (ipv6 gs).text where
  nonempty := List.cons_ne_nil _ _
  chars c hc := by
    simp only [text, List.cons_append, List.mem_cons, List.mem_append, List.not_mem_nil, or_false] at hc
    rcases hc with rfl | hc | rfl
    · decide
    · exact (inText_of_mem_ipv6 hc).1
    · decide
  port r := by
    -- The colons of the address are inside of the brackets.
    have inside := splitPort_of_bracketed (l := Ipv6.text gs) (fun h => (inText_of_mem_ipv6 h).2 rfl) r
    have whole : (ipv6 gs).text ++ r = '[' :: (Ipv6.text gs ++ ']' :: r) := by simp [text]
    rw [whole, splitPort_cons (by decide)]
    show ('[' :: (splitPort true _).1, (splitPort true _).2) = _
    rw [inside]
    simp [text]

/-! ### What is read -/

theorem bracketed?_eq_ok (h : bracketed? cs = .ok x) : ∃ gs, x = .ipv6 gs ∧ Ipv6.Fits gs := by
  unfold bracketed? at h
  split at h
  · rename_i gs hgs
    split at hgs
    · cases h
      exact ⟨gs, rfl, Ipv6.fits_of_read? hgs⟩
    · cases hgs
  · cases h

theorem special?_eq_ok (h : special? cs = .ok x) : (∃ gs, x = .ipv6 gs ∧ Ipv6.Fits gs) ∨
    (∃ a, x = .ipv4 a ∧ a < 0x100000000) ∨
    ∃ name, x = .domain name ∧ name ≠ [] ∧ (∀ c ∈ name, Domain.Written c) ∧ Ipv4.endsInNumber name = false := by
  unfold special? at h
  split at h
  · exact .inl (bracketed?_eq_ok h)
  · split at h
    · cases h
    · rename_i name hname
      split at h
      · cases h
      · rename_i hne
        split at h
        · split at h
          · rename_i a ha
            cases h
            exact .inr (.inl ⟨a, rfl, Ipv4.lt_of_read? ha⟩)
          · cases h
        · rename_i hends
          cases h
          exact .inr (.inr ⟨name, rfl, fun h => hne (by rw [h]; rfl), fun c => Domain.written_of_read? hname,
            (Bool.not_eq_true _).mp hends⟩)

theorem verbatim?_eq_ok (h : verbatim? cs = .ok x) : (∃ gs, x = .ipv6 gs ∧ Ipv6.Fits gs) ∨
    ∃ name, x = .verbatim name ∧ ∀ c ∈ name, InName c := by
  unfold verbatim? at h
  split at h
  · exact .inl (bracketed?_eq_ok h)
  · split at h
    · cases h
    · rename_i allowed
      cases h
      refine .inr ⟨_, rfl, fun c hc => inName_of_mem_encode (fun d hd => ?_) hc⟩
      exact (Bool.not_eq_true _).mp fun h => allowed (List.any_eq_true.mpr ⟨d, hd, h⟩)

theorem closed_of_special? (h : special? cs = .ok x) : Closed x.text := by
  rcases special?_eq_ok h with ⟨gs, rfl, -⟩ | ⟨a, rfl, -⟩ | ⟨name, rfl, hne, hwritten, -⟩
  · exact closed_ipv6 gs
  · refine closed_of_inName (Ipv4.text_ne_nil a) fun c hc => inName_of_written ?_
    obtain ⟨ascii, -, allowed⟩ := (Domain.isPlain_iff.mp (Ipv4.isPlain_text a)).1 c hc
    exact ⟨ascii, allowed⟩
  · exact closed_of_inName hne fun c hc => inName_of_written (hwritten c hc)

theorem closed_of_verbatim? (h : verbatim? cs = .ok x) (hne : x.isEmpty = false) : Closed x.text := by
  rcases verbatim?_eq_ok h with ⟨gs, rfl, -⟩ | ⟨name, rfl, hname⟩
  · exact closed_ipv6 gs
  · exact closed_of_inName (List.isEmpty_eq_false_iff.mp hne) hname

/-! ### Reading back -/

theorem bracketed?_text (h : Ipv6.Fits gs) : bracketed? (Ipv6.text gs ++ [']']) = .ok (.ipv6 gs) := by
  unfold bracketed?
  rw [if_pos (by simp), List.dropLast_concat, Ipv6.read?_text h]

/-- A domain name that is not plain stands for itself, as a plain one does. -/
def Settled (x : Host) : Prop := ∀ name, x = .domain name → Domain.isPlain name = false → Domain.read? name = some name

theorem settled_of_isPlain (h : Domain.isPlain name = true) : (domain name).Settled := by
  rintro _ ⟨⟩ hnot
  rw [h] at hnot
  cases hnot

theorem Settled.read? (h : (domain name).Settled) : Domain.read? name = some name := by
  cases plain : Domain.isPlain name with
  | true => exact Domain.read?_of_isPlain plain
  | false => exact h name rfl plain

/-- A domain name that stands for itself is taken as it is, and is an address if it looks like one. -/
theorem special?_of_name (hne : name ≠ []) (bracket : '[' ∉ name) (hread : Domain.read? name = some name) :
    special? name =
      if Ipv4.endsInNumber name then
        match Ipv4.read? name with
        | some address => .ok (.ipv4 address)
        | none => .error .ipv4
      else .ok (.domain name) := by
  unfold special?
  split
  · exact absurd List.mem_cons_self bracket
  · rw [hread]
    exact if_neg (by rwa [List.isEmpty_iff])

theorem special?_text (h : special? cs = .ok x) (settled : x.Settled) : special? x.text = .ok x := by
  rcases special?_eq_ok h with ⟨gs, rfl, fits⟩ | ⟨a, rfl, small⟩ | ⟨name, rfl, hne, hwritten, hends⟩
  · exact bracketed?_text fits
  · have plain := Ipv4.isPlain_text a
    show special? (Ipv4.text a) = _
    rw [special?_of_name (Ipv4.text_ne_nil a) ?_ (Domain.read?_of_isPlain plain), if_pos (Ipv4.endsInNumber_text a),
      Ipv4.read?_text small]
    intro hmem
    exact absurd ((Domain.isPlain_iff.mp plain).1 _ hmem).2.2 (by decide)
  · show special? name = _
    rw [special?_of_name hne (fun hmem => absurd (hwritten _ hmem).2 (by decide)) settled.read?,
      if_neg (ne_true_of_eq_false hends)]

theorem verbatim?_text (h : verbatim? cs = .ok x) : verbatim? x.text = .ok x := by
  rcases verbatim?_eq_ok h with ⟨gs, rfl, fits⟩ | ⟨name, rfl, hname⟩
  · exact bracketed?_text fits
  · have allowed : ¬name.any isForbidden = true := fun h => by
      obtain ⟨c, hc, hc'⟩ := List.any_eq_true.mp h
      rw [(hname c hc).1] at hc'
      cases hc'
    show verbatim? name = _
    unfold verbatim?
    split
    · exact absurd rfl (inText_of_inName (hname '[' List.mem_cons_self)).2.2
    · rw [if_neg allowed, encode_of_inName hname]

end BatchFetch.Url.Host
