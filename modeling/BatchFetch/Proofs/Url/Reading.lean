import BatchFetch.Endpoint.Key
import BatchFetch.Proofs.Text.Decimal
import BatchFetch.Proofs.Url.Host
import Mathlib.Data.List.TakeDrop
import Mathlib.Data.List.TakeWhile

/-! # What a URL says of its endpoint

The endpoint of a URL depends on its scheme and on the part of its authority that is behind the user. Written out, an
endpoint is read as itself. -/

namespace BatchFetch.Url

variable {c : Char} {scheme cs ds rest site text : List Char} {special : Bool} {p : Nat} {port : Option Nat} {x : Host}
  {e : Endpoint}

/-! ### Splitting -/

theorem span_append {f : Char → Bool} {l r : List Char} (h : ∀ c ∈ l, f c = true) (hr : r.head?.any f = false) :
    (l ++ r).span f = (l, r) := by
  have hr' : r.takeWhile f = [] ∧ r.dropWhile f = r := by
    cases r with
    | nil => exact ⟨rfl, rfl⟩
    | cons c r => simp [show f c = false from hr]
  rw [List.span_eq_takeWhile_dropWhile, List.takeWhile_append_of_pos h, List.dropWhile_append_of_pos h, hr'.1, hr'.2,
    List.append_nil]

theorem span_eq_self {f : Char → Bool} {l : List Char} (h : ∀ c ∈ l, f c = true) : l.span f = (l, []) := by
  have := span_append h (r := []) rfl
  rwa [List.append_nil] at this

/-! ### Schemes -/

/-- A scheme as it is kept: a small letter, and what may follow it in a scheme. -/
structure IsScheme (scheme : List Char) : Prop where
  first : scheme.head?.any Char.isAlpha = true
  chars : ∀ c ∈ scheme, isSchemeChar c = true ∧ c.isUpper = false

theorem lt_of_isSchemeChar (h : isSchemeChar c = true) : c.toNat < 128 := by
  have alphanum (h : c.isAlphanum = true) : c.toNat < 128 := by
    rcases (Bool.or_eq_true _ _).mp h with h | h
    · rcases (Bool.or_eq_true _ _).mp h with h | h
      · have small : c.val ≤ 90 := (of_decide_eq_true h).2
        exact Nat.lt_of_le_of_lt small (by decide)
      · have small : c.val ≤ 122 := of_decide_eq_true ((Bool.and_eq_true _ _).mp h).2
        exact Nat.lt_of_le_of_lt small (by decide)
    · have small : c.val ≤ 57 := of_decide_eq_true ((Bool.and_eq_true _ _).mp h).2
      exact Nat.lt_of_le_of_lt small (by decide)
  simp only [isSchemeChar, Bool.or_eq_true, beq_iff_eq] at h
  rcases h with ((h | rfl) | rfl) | rfl
  · exact alphanum h
  · decide
  · decide
  · decide

theorem toLower_of_isSchemeChar (h : isSchemeChar c = true) :
    (isSchemeChar c.toLower = true ∧ c.toLower.isUpper = false) ∧ (c.isAlpha = true → c.toLower.isAlpha = true) :=
  Host.of_ascii (p := fun c => isSchemeChar c = true → (isSchemeChar c.toLower = true ∧ c.toLower.isUpper = false) ∧
    (c.isAlpha = true → c.toLower.isAlpha = true)) (lt_of_isSchemeChar h) (by decide +kernel) h

theorem visible_of_isSchemeChar (h : isSchemeChar c = true) : 32 < c.toNat :=
  Host.of_ascii (p := fun c => isSchemeChar c = true → 32 < c.toNat) (lt_of_isSchemeChar h) (by decide +kernel) h

theorem isScheme_of_scheme? (h : scheme? cs = some (scheme, rest)) : IsScheme scheme := by
  cases cs with
  | nil => cases h
  | cons c cs =>
    rw [scheme?, List.span_eq_takeWhile_dropWhile] at h
    split at h
    · rename_i raw rest' heq
      split at h
      · rename_i alpha
        cases h
        obtain ⟨rfl, -⟩ := Prod.mk.inj heq
        have chars (d : Char) (hd : d ∈ (c :: cs).takeWhile isSchemeChar) : isSchemeChar d = true :=
          List.mem_takeWhile_imp hd
        have hc : isSchemeChar c = true := by
          unfold isSchemeChar Char.isAlphanum
          rw [alpha]
          rfl
        constructor
        · rw [List.takeWhile_cons_of_pos hc]
          exact (toLower_of_isSchemeChar hc).2 alpha
        · intro d hd
          obtain ⟨d', hd', rfl⟩ := List.mem_map.mp hd
          exact (toLower_of_isSchemeChar (chars d' hd')).1
      · cases h
    · cases h

theorem scheme?_append (h : IsScheme scheme) (rest : List Char) :
    scheme? (scheme ++ ':' :: rest) = some (scheme, rest) := by
  obtain ⟨first, chars⟩ := h
  cases scheme with
  | nil => cases first
  | cons c cs =>
    have hspan : (c :: (cs ++ ':' :: rest)).span isSchemeChar = (c :: cs, ':' :: rest) :=
      span_append (fun d hd => (chars d hd).1) rfl
    rw [List.cons_append, scheme?, hspan]
    simp only
    rw [if_pos (show c.isAlpha = true from first), Domain.map_toLower fun d hd => (chars d hd).2]

/-- A text of visible characters has nothing to be left out. -/
theorem cleaned_of_forall (h : ∀ c ∈ cs, 32 < c.toNat) : cleaned cs = cs := by
  have kept (l : List Char) (hl : ∀ c ∈ l, 32 < c.toNat) : l.dropWhile (fun c => decide (c.toNat ≤ 32)) = l := by
    cases l with
    | nil => rfl
    | cons c l => exact List.dropWhile_cons_of_neg (by simpa using hl c List.mem_cons_self)
  unfold cleaned
  dsimp only
  rw [kept cs h, kept cs.reverse fun c hc => h c (List.mem_reverse.mp hc), List.reverse_reverse, List.filter_eq_self]
  intro c hc
  rw [Bool.not_eq_true', Bool.eq_false_iff]
  intro among
  have hmem : c ∈ ['\t', '\n', '\r'] := List.contains_iff_mem.mp among
  simp only [List.mem_cons, List.not_mem_nil, or_false] at hmem
  rcases hmem with rfl | rfl | rfl <;> exact absurd (h _ hc) (by decide)

/-! ### Hosts and ports -/

namespace Host

theorem closed_of_host? (h : host? special cs = .ok x) (hne : x.isEmpty = false) : Closed x.text := by
  unfold host? at h
  split at h
  · exact closed_of_verbatim? h hne
  · split at h
    · cases h
    · exact closed_of_special? h

theorem special?_of_host? (h : host? true cs = .ok x) : special? cs = .ok x := by
  unfold host? at h
  split at h
  · contradiction
  · split at h
    · cases h
    · exact h

/-- A host is read from its text, if its name stands for itself. -/
theorem host?_text (h : host? special cs = .ok x) (hne : x.isEmpty = false) (settled : x.Settled) :
    host? special x.text = .ok x := by
  unfold host? at h ⊢
  split at h
  · rename_i plain
    rw [if_pos plain, verbatim?_text h]
  · rename_i special
    split at h
    · cases h
    · rw [if_neg special, if_neg (show ¬x.text.isEmpty = true from ne_true_of_eq_false hne), special?_text h settled]

/-- The port that is written behind a host is found again. -/
theorem Closed.splitPort_portText (h : Closed text) (port : Option Nat) :
    splitPort false (text ++ portText port) = (text, port.map Decimal.digits) := by
  rw [h.port]
  cases port <;> simp [portText, splitPort]

end Host

theorem all_isDigit_digits (p : Nat) : (Decimal.digits p).all Decimal.isDigit = true :=
  List.all_eq_true.mpr fun c hc => (Decimal.isDigit_eq c).trans (Decimal.isDigit_of_mem_digits hc)

/-- A port that is written in digits; what a backslash would cut off is not there. -/
theorem port?_of_digits (digits : ds.all Decimal.isDigit = true) (small : Decimal.value ds ≤ 65535) :
    port? scheme (ds.takeWhile (· != '\\')) =
      .ok (if ds.isEmpty ∨ defaultPort? scheme = some (Decimal.value ds) then none else some (Decimal.value ds)) := by
  have whole : ds.takeWhile (· != '\\') = ds := List.takeWhile_eq_self_iff.mpr fun c hc =>
    Decimal.of_isDigit (p := fun c => (c != '\\') = true)
      ((Decimal.isDigit_eq c).symm.trans (List.all_eq_true.mp digits c hc)) (by decide)
  unfold port?
  rw [whole, digits]
  exact if_neg (Nat.not_lt.mpr small)

theorem le_of_port? (h : port? scheme ds = .ok (some p)) : p ≤ 65535 := by
  unfold port? at h
  dsimp only at h
  split at h
  · cases h
  · split at h
    · cases h
    · rename_i small
      split at h
      · cases h
      · cases h
        exact Nat.not_lt.mp small

theorem le_of_defaultPort? (h : defaultPort? scheme = some p) : p ≤ 65535 := by
  obtain ⟨entry, hfind, hport⟩ := Option.bind_eq_some_iff.mp h
  have small : ∀ entry ∈ specialSchemes, ∀ p ∈ entry.2, p ≤ 65535 := by decide
  exact small entry (List.mem_of_find?_eq_some hfind) p hport

/-! ### Sites -/

/-- The endpoint that a site names, the part of an authority behind the user; none without a host. -/
def endpoint? (scheme site : List Char) : Option Endpoint :=
  let (hostText, portText) := splitPort false site
  match host? (isSpecial scheme) hostText with
  | .error _ => none
  | .ok host =>
    if host.isEmpty then none
    else (port? scheme ((portText.getD []).takeWhile (· != '\\'))).toOption.map fun port =>
      { scheme, host, port := port.or (defaultPort? scheme) }

theorem endpoint?_nil : endpoint? scheme [] = none := by
  unfold endpoint? host? splitPort
  cases isSpecial scheme <;> rfl

theorem endpoint?_eq_some_iff : endpoint? scheme site = some e ↔
    ∃ host port, host? (isSpecial scheme) (splitPort false site).1 = .ok host ∧ host.isEmpty = false ∧
      port? scheme (((splitPort false site).2.getD []).takeWhile (· != '\\')) = .ok port ∧
      e = { scheme, host, port := port.or (defaultPort? scheme) } := by
  unfold endpoint?
  obtain ⟨hostText, portText⟩ := splitPort false site
  constructor
  · intro h
    dsimp only at h
    split at h
    · cases h
    · rename_i host hhost
      split at h
      · cases h
      · rename_i hne
        cases hport : port? scheme ((portText.getD []).takeWhile (· != '\\')) with
        | error =>
          rw [hport] at h
          cases h
        | ok port =>
          rw [hport] at h
          cases h
          exact ⟨host, port, hhost, (Bool.not_eq_true _).mp hne, rfl, rfl⟩
  · rintro ⟨host, port, hhost, hne, hport, rfl⟩
    dsimp only at hhost hport ⊢
    rw [hhost]
    dsimp only
    rw [if_neg (ne_true_of_eq_false hne), hport]
    rfl

/-- Neither the user nor what comes behind the authority has a part in the endpoint. -/
theorem ofUrl?_afterSlashes? (scheme cs : List Char) : (afterSlashes? scheme cs).toOption.bind Endpoint.ofUrl? =
    endpoint? scheme (userInfo (cs.takeWhile fun c => !endsAuthority (isSpecial scheme) c)).rest := by
  unfold afterSlashes?
  simp only [List.span_eq_takeWhile_dropWhile]
  generalize cs.takeWhile _ = authority
  generalize cs.dropWhile _ = rest
  split
  -- A lone sign for a user is refused, and the empty site behind it has no host either.
  · rename_i h
    rw [h.1]
    exact endpoint?_nil.symm
  · unfold endpoint?
    generalize userInfo authority = info
    obtain ⟨hostText, portText⟩ := splitPort false info.rest
    dsimp only
    cases host? (isSpecial scheme) hostText with
    | error => rfl
    | ok host =>
      generalize port? scheme _ = port
      cases hempty : host.isEmpty with
      | true =>
        simp only [bind, Except.bind, hempty, if_true]
        split
        · rfl
        · cases port <;> rfl
      | false =>
        simp only [bind, Except.bind, hempty]
        cases port <;> rfl

theorem splitLast_append (h : '@' ∉ site) (info : List Char) :
    splitLast '@' site = none ∧ splitLast '@' (info ++ '@' :: site) = some (info, site) := by
  have other (c : Char) (hc : c ∈ site.reverse) : (c != '@') = true :=
    bne_iff_ne.mpr fun heq => h (heq ▸ List.mem_reverse.mp hc)
  constructor
  · unfold splitLast
    rw [List.takeWhile_eq_self_iff.mpr other, List.reverse_reverse]
    exact if_neg (Nat.lt_irrefl _)
  · have after : (info ++ '@' :: site).reverse.takeWhile (· != '@') = site.reverse := by
      rw [List.reverse_append, List.reverse_cons, List.append_assoc, List.takeWhile_append_of_pos other]
      simp
    unfold splitLast
    rw [after, List.reverse_reverse]
    have before : (info ++ '@' :: site).length - site.length - 1 = info.length := by
      rw [List.length_append, List.length_cons]
      omega
    dsimp only
    rw [before, List.take_left, if_pos]
    rw [List.length_append, List.length_cons]
    omega

/-- The last `@` of an authority ends the user. -/
theorem rest_userInfo {user : List Char} (huser : user = [] ∨ user.getLast? = some '@') (hsite : '@' ∉ site) :
    (userInfo (user ++ site)).rest = site := by
  unfold userInfo
  rcases huser with rfl | huser
  · rw [List.nil_append, (splitLast_append hsite []).1]
  · obtain ⟨info, rfl⟩ := List.getLast?_eq_some_iff.mp huser
    rw [List.append_assoc, List.singleton_append, (splitLast_append hsite info).2]

/-- A character that may stand in a site: it neither ends the authority nor the user. -/
def InSite (c : Char) : Prop := 32 < c.toNat ∧ (∀ special, endsAuthority special c = false) ∧ c ≠ '@'

instance : DecidablePred InSite := fun c =>
  inferInstanceAs (Decidable (_ ∧ (∀ special, endsAuthority special c = false) ∧ _))

theorem inSite_of_inText (h : Host.InText c) : InSite c :=
  Host.of_ascii (p := fun c => Host.InText c → InSite c) (Nat.lt_succ_of_lt h.2.1) (by decide +kernel) h

theorem inSite_of_mem_portText (h : c ∈ portText port) : InSite c := by
  cases port with
  | none => cases h
  | some p =>
    rcases List.mem_cons.mp h with rfl | h
    · decide
    · exact Decimal.of_isDigit (p := InSite) (Decimal.isDigit_of_mem_digits h) (by decide)

/-! ### Files -/

theorem isDrive_of_closed (closed : Host.Closed text) : Path.isDrive text = false := by
  rw [Bool.eq_false_iff]
  intro drive
  unfold Path.isDrive at drive
  split at drive
  -- The colon of a drive would begin a port, and a bar is in no host.
  · rename_i a b
    simp only [Bool.and_eq_true, Bool.or_eq_true, beq_iff_eq] at drive
    obtain ⟨alpha, rfl | rfl⟩ := drive
    · have colon : a ≠ ':' := by
        rintro rfl
        exact absurd alpha (by decide)
      have bracket : a ≠ '[' := by
        rintro rfl
        exact absurd alpha (by decide)
      have := congrArg Prod.fst (closed.port [])
      simp [splitPort, colon, bracket] at this
    · exact absurd (closed.chars '|' (by simp)) (by decide)
  · cases drive

theorem splitTail_of_forall (h : ∀ c ∈ cs, c ≠ '#' ∧ c ≠ '?') : splitTail special cs = (cs, none, none) := by
  have hash : cs.span (· != '#') = (cs, []) := span_eq_self fun c hc => bne_iff_ne.mpr (h c hc).1
  have mark : cs.span (· != '?') = (cs, []) := span_eq_self fun c hc => bne_iff_ne.mpr (h c hc).2
  unfold splitTail
  rw [hash]
  dsimp only
  rw [mark]
  rfl

/-- The host of a file is one of a special scheme other than that of this machine, and a file has no port. -/
theorem exists_of_ofUrl?_file? (h : (file? scheme cs).toOption.bind Endpoint.ofUrl? = some e) :
    ∃ text, text.isEmpty = false ∧ Host.special? text = .ok e.host ∧ e.host ≠ .domain "localhost".toList ∧
      e = { scheme, host := e.host, port := defaultPort? scheme } := by
  unfold file? at h
  generalize splitTail true cs = tail at h
  obtain ⟨front, query, fragment⟩ := tail
  match front with
  | [] | [_] => cases h
  | a :: b :: front =>
    dsimp only at h
    split at h
    · rw [List.span_eq_takeWhile_dropWhile] at h
      dsimp only at h
      generalize front.takeWhile _ = text at h
      split at h
      · cases h
      · split at h
        · simp only [bind, Except.bind, pure, Except.pure, Except.toOption, Option.bind_some, Endpoint.ofUrl?,
            ite_self] at h
          cases h
        · rename_i hne
          cases hread : Host.special? text with
          | error =>
            rw [hread] at h
            cases h
          | ok host =>
            rw [hread] at h
            simp only [Except.map, bind, Except.bind, pure, Except.pure, Except.toOption, Option.bind_some,
              Endpoint.ofUrl?, Option.map_eq_some_iff] at h
            obtain ⟨x, hx, rfl⟩ := h
            split at hx
            · cases hx
            · rename_i far
              cases hx
              refine ⟨text, (Bool.not_eq_true _).mp hne, hread, ?_, rfl⟩
              rintro rfl
              exact far (by simp)
    · cases h

/-- A file is found again on another machine. -/
theorem ofUrl?_file?_text (scheme : List Char) (closed : Host.Closed text) (h : Host.special? text = .ok x)
    (far : x ≠ .domain "localhost".toList) :
    (file? scheme ('/' :: '/' :: text)).toOption.bind Endpoint.ofUrl? =
      some { scheme, host := x, port := defaultPort? scheme } := by
  have ends (c : Char) (hc : c ∈ text) : isSlash true c = false ∧ c ≠ '?' ∧ c ≠ '#' := by
    simpa [endsAuthority, and_assoc] using (inSite_of_inText (closed.chars c hc)).2.1 true
  have tail : splitTail true ('/' :: '/' :: text) = ('/' :: '/' :: text, none, none) := by
    refine splitTail_of_forall fun c hc => ?_
    rcases List.mem_cons.mp hc with rfl | hc
    · decide
    · rcases List.mem_cons.mp hc with rfl | hc
      · decide
      · exact (ends c hc).2.symm
  have whole : text.span (!isSlash true ·) = (text, []) := span_eq_self fun _ hc => by simp [(ends _ hc).1]
  have other : (some x == some (Host.domain "localhost".toList)) = false := by simpa using far
  unfold file?
  rw [tail]
  dsimp only
  rw [if_pos ⟨rfl, rfl⟩, whole]
  dsimp only
  rw [if_neg (ne_true_of_eq_false (isDrive_of_closed closed)), if_neg (mt List.isEmpty_iff.mp closed.nonempty), h]
  simp only [Except.map, bind, Except.bind, pure, Except.pure, Except.toOption, Option.bind_some, Endpoint.ofUrl?, other]
  rfl

end BatchFetch.Url
