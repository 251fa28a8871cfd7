import BatchFetch.Proofs.Url.Reading

/-! # Keys of endpoints

With the scope of hosts, targets share a key if they are URLs with the same scheme, host and port, and not otherwise: the
key of a target with an endpoint is read as this endpoint, so it is no target without one. -/

namespace BatchFetch.Endpoint
open Url (cleaned defaultPort? endpoint? endsAuthority host? InSite IsScheme isSlash isSpecial portText scheme? splitPort
  userInfo)

variable {s t target : String} {scheme rest site : List Char} {d e : Endpoint}

/-! ### Endpoints of targets -/

/-- An endpoint that a target may have. -/
structure Proper (e : Endpoint) : Prop where
  scheme : IsScheme e.scheme
  host : ∃ text, host? (isSpecial e.scheme) text = .ok e.host
  nonempty : e.host.isEmpty = false
  port : ∀ p, e.port = some p → p ≤ 65535
  default : e.port = none → defaultPort? e.scheme = none
  file : e.scheme = "file".toList → e.port = none ∧ e.host ≠ .domain "localhost".toList

theorem Proper.closed (h : e.Proper) : Url.Host.Closed e.host.text := by
  obtain ⟨text, hread⟩ := h.host
  exact Url.Host.closed_of_host? hread h.nonempty

/-- The endpoint of what follows a scheme. -/
def after? (scheme rest : List Char) : Option Endpoint :=
  if scheme = "file".toList then (Url.file? scheme rest).toOption.bind ofUrl?
  else
    let authority (cs : List Char) : List Char := cs.takeWhile fun c => !endsAuthority (isSpecial scheme) c
    if isSpecial scheme then endpoint? scheme (userInfo (authority (rest.dropWhile (isSlash true)))).rest
    else if ['/', '/'].isPrefixOf rest then endpoint? scheme (userInfo (authority (rest.drop 2))).rest
    else none

theorem ofTarget?_eq (target : String) :
    ofTarget? target = (scheme? (cleaned target.toList)).bind fun (scheme, rest) => after? scheme rest := by
  unfold ofTarget? Url.read?
  cases scheme? (cleaned target.toList) with
  | none => rfl
  | some found =>
    obtain ⟨scheme, rest⟩ := found
    unfold after?
    rw [Option.bind_some]
    dsimp only
    split
    · rfl
    · split
      · exact Url.ofUrl?_afterSlashes? scheme _
      · unfold Url.plain?
        split
        · exact Url.ofUrl?_afterSlashes? scheme _
        · rename_i other
          rw [if_neg]
          · rfl
          · intro slashes
            obtain ⟨cs, rfl⟩ := List.isPrefixOf_iff_prefix.mp slashes
            exact other cs rfl

/-- The parts of a target: a scheme, a user that ends with `@` or none, the site, and what comes behind the authority. -/
structure Written (scheme user site rest : List Char) (target : String) : Prop where
  text : scheme? (cleaned target.toList) = some (scheme, '/' :: '/' :: (user ++ site ++ rest))
  sign : user = [] ∨ user.getLast? = some '@'
  nonempty : site ≠ []
  last : '@' ∉ site
  inside : (user ++ site).any (endsAuthority (isSpecial scheme)) = false
  ended : rest.head?.all (endsAuthority (isSpecial scheme)) = true

/-- The endpoint of a target is that of its site; files have rules of their own. -/
theorem ofTarget?_of_written {user : List Char} (h : Written scheme user site rest target)
    (file : scheme ≠ "file".toList) : ofTarget? target = endpoint? scheme site := by
  have inside := fun c hc => (Bool.not_eq_true _).mp (List.any_eq_false.mp h.inside c hc)
  have authority : (user ++ site ++ rest).takeWhile (fun c => !endsAuthority (isSpecial scheme) c) = user ++ site := by
    rw [List.takeWhile_append_of_pos fun c hc => by rw [inside c hc]; rfl]
    cases rest with
    | nil => simp
    | cons c rest => simp [show endsAuthority (isSpecial scheme) c = true from h.ended]
  rw [ofTarget?_eq, h.text, Option.bind_some]
  dsimp only
  rw [after?, if_neg file]
  dsimp only
  split
  · rename_i special
    have first : (user ++ site ++ rest).dropWhile (isSlash true) = user ++ site ++ rest := by
      obtain ⟨c, l, hl⟩ := List.exists_cons_of_ne_nil (List.append_ne_nil_of_right_ne_nil user h.nonempty)
      have hc := inside c (hl ▸ List.mem_cons_self)
      simp only [endsAuthority, Bool.or_eq_false_iff, special] at hc
      rw [hl]
      exact List.dropWhile_cons_of_neg (ne_true_of_eq_false hc.1.1)
    rw [List.dropWhile_cons_of_pos rfl, List.dropWhile_cons_of_pos rfl, first, authority,
      Url.rest_userInfo h.sign h.last]
  · show endpoint? scheme (userInfo ((user ++ site ++ rest).takeWhile _)).rest = _
    rw [authority, Url.rest_userInfo h.sign h.last]

/-- The site of an endpoint names it. -/
theorem endpoint?_text (h : e.Proper) (settled : e.host.Settled) :
    endpoint? e.scheme (e.host.text ++ portText e.port) = some e := by
  obtain ⟨text, hread⟩ := h.host
  have hhost := Url.Host.host?_text hread h.nonempty settled
  have hport : ∃ port, Url.port? e.scheme (((e.port.map Decimal.digits).getD []).takeWhile (· != '\\')) = .ok port ∧
      e.port = port.or (defaultPort? e.scheme) := by
    cases given : e.port with
    | none => exact ⟨none, rfl, (h.default given).symm⟩
    | some p =>
      have small : Decimal.value (Decimal.digits p) ≤ 65535 := (Decimal.value_digits p).symm ▸ h.port p given
      have hread : Url.port? e.scheme ((Decimal.digits p).takeWhile (· != '\\')) = _ :=
        Url.port?_of_digits (Url.all_isDigit_digits p) small
      refine ⟨_, hread, ?_⟩
      rw [Decimal.value_digits]
      split
      · rename_i absent
        exact (absent.resolve_left (by simp [Decimal.digits_ne_nil])).symm
      · rfl
  obtain ⟨port, hport, heq⟩ := hport
  rw [Url.endpoint?_eq_some_iff, h.closed.splitPort_portText]
  exact ⟨e.host, port, hhost, h.nonempty, hport, congrArg (Endpoint.mk e.scheme e.host) heq⟩

theorem proper_of_endpoint? (hscheme : IsScheme scheme) (file : scheme ≠ "file".toList)
    (h : endpoint? scheme site = some e) : e.Proper := by
  obtain ⟨host, port, hhost, hne, hport, rfl⟩ := Url.endpoint?_eq_some_iff.mp h
  exact {
    scheme := hscheme
    host := ⟨_, hhost⟩
    nonempty := hne
    port := fun p hp => by
      rcases Option.or_eq_some_iff.mp hp with rfl | ⟨-, hp⟩
      · exact Url.le_of_port? hport
      · exact Url.le_of_defaultPort? hp
    default := fun hnone => (Option.or_eq_none_iff.mp hnone).2
    file := fun h => (file h).elim }

theorem proper_of_ofTarget? (h : ofTarget? target = some e) : e.Proper := by
  rw [ofTarget?_eq] at h
  obtain ⟨⟨scheme, rest⟩, hread, h⟩ := Option.bind_eq_some_iff.mp h
  have hscheme := Url.isScheme_of_scheme? hread
  unfold after? at h
  dsimp only at h
  split at h
  · rename_i file
    subst file
    obtain ⟨text, hne, hhost, far, he⟩ := Url.exists_of_ofUrl?_file? h
    have nonempty := (Url.Host.closed_of_special? hhost).nonempty
    have hdefault : defaultPort? "file".toList = none := by decide
    rw [he]
    exact {
      scheme := hscheme
      host := ⟨text, (if_neg (ne_true_of_eq_false hne)).trans hhost⟩
      nonempty := (Bool.not_eq_true _).mp (mt List.isEmpty_iff.mp nonempty)
      port := fun p hp => nomatch hdefault.symm.trans hp
      default := id
      file := fun _ => ⟨hdefault, far⟩ }
  · rename_i file
    split at h
    · exact proper_of_endpoint? hscheme file h
    · split at h
      · exact proper_of_endpoint? hscheme file h
      · cases h

theorem toList_text (e : Endpoint) :
    e.text.toList = e.scheme ++ ':' :: '/' :: '/' :: (e.host.text ++ portText e.port) := by
  simp [text]

theorem Proper.written (h : e.Proper) : Written e.scheme [] (e.host.text ++ portText e.port) [] e.text := by
  have hsite (c : Char) (hc : c ∈ e.host.text ++ portText e.port) : InSite c :=
    (List.mem_append.mp hc).elim (fun hc => Url.inSite_of_inText (h.closed.chars c hc)) Url.inSite_of_mem_portText
  have visible : ∀ c ∈ e.scheme ++ ':' :: '/' :: '/' :: (e.host.text ++ portText e.port), 32 < c.toNat := by
    intro c hc
    simp only [List.mem_append, List.mem_cons] at hc
    rcases hc with hc | rfl | rfl | rfl | hc
    · exact Url.visible_of_isSchemeChar (h.scheme.chars c hc).1
    · decide
    · decide
    · decide
    · exact (hsite c (List.mem_append.mpr hc)).1
  exact {
    text := by
      rw [toList_text, Url.cleaned_of_forall visible, Url.scheme?_append h.scheme, List.nil_append, List.append_nil]
    sign := .inl rfl
    nonempty := List.append_ne_nil_of_left_ne_nil h.closed.nonempty _
    last := fun hmem => (hsite _ hmem).2.2 rfl
    inside := List.any_eq_false.mpr fun c hc => ne_true_of_eq_false ((hsite c hc).2.1 _)
    ended := rfl }

/-- An endpoint is read from its text, if the name of its host stands for itself. -/
theorem ofTarget?_text (h : e.Proper) (settled : e.host.Settled) : ofTarget? e.text = some e := by
  by_cases file : e.scheme = "file".toList
  -- Files are read by rules of their own. They have no port, so that none is written.
  · obtain ⟨hport, far⟩ := h.file file
    obtain ⟨text, hread⟩ := h.host
    have hspecial := Url.Host.host?_text hread h.nonempty settled
    rw [ofTarget?_eq, h.written.text, Option.bind_some]
    obtain ⟨scheme, host, port⟩ := e
    subst file hport
    dsimp only
    have found := Url.ofUrl?_file?_text "file".toList h.closed (Url.Host.special?_of_host? hspecial) far
    rw [show portText none = [] from rfl, List.nil_append, List.append_nil, List.append_nil, after?, if_pos rfl, found]
    rfl
  · rw [ofTarget?_of_written h.written file, endpoint?_text h settled]

theorem eq_of_text_eq (hd : d.Proper) (he : e.Proper) (h : d.text = e.text) :
    d.scheme = e.scheme ∧ d.host.text = e.host.text ∧ d.port = e.port := by
  have hlist := congrArg String.toList h
  rw [toList_text, toList_text] at hlist
  have hscheme := congrArg scheme? hlist
  rw [Url.scheme?_append hd.scheme, Url.scheme?_append he.scheme, Option.some_inj, Prod.mk.injEq] at hscheme
  obtain ⟨hscheme, hrest⟩ := hscheme
  have hsite := congrArg (splitPort false) (List.cons.inj (List.cons.inj hrest).2).2
  rw [hd.closed.splitPort_portText, he.closed.splitPort_portText, Prod.mk.injEq] at hsite
  exact ⟨hscheme, hsite.1, Option.map_injective Decimal.digits_injective hsite.2⟩

/-! ### Keys -/

/-- A target writes a host and maybe a port. -/
def Names (scheme host : List Char) (port : Option (List Char)) (target : String) : Prop :=
  ∃ user site rest, Written scheme user site rest target ∧ splitPort false site = (host, port)

/-- A written port, if there is one, is that of the scheme. -/
def IsDefault (scheme : List Char) (port : Option (List Char)) : Prop :=
  ∀ ds, port = some ds → ds.all Decimal.isDigit = true ∧ defaultPort? scheme = some (Decimal.value ds)

theorem IsDefault.port? {port : Option (List Char)} (h : IsDefault scheme port) :
    Url.port? scheme ((port.getD []).takeWhile (· != '\\')) = .ok none := by
  cases port with
  | none => rfl
  | some ds =>
    obtain ⟨digits, value⟩ := h ds rfl
    rw [Option.getD_some, Url.port?_of_digits digits (Url.le_of_defaultPort? value), if_pos (.inr value)]

/-- Hosts that are written alike make one endpoint, if the ports are written alike too or are those of the scheme. -/
theorem ofTarget?_eq_of_names {host : List Char} {port port' : Option (List Char)} (file : scheme ≠ "file".toList)
    (hs : Names scheme host port s) (ht : Names scheme host port' t)
    (hport : port = port' ∨ IsDefault scheme port ∧ IsDefault scheme port') : ofTarget? s = ofTarget? t := by
  obtain ⟨user, site, rest, hs, hsite⟩ := hs
  obtain ⟨user', site', rest', ht, hsite'⟩ := ht
  rw [ofTarget?_of_written hs file, ofTarget?_of_written ht file]
  unfold endpoint?
  rw [hsite, hsite']
  dsimp only
  rcases hport with rfl | ⟨hport, hport'⟩
  · rfl
  · rw [hport.port?, hport'.port?]

theorem ofTarget?_eq_some_iff : ofTarget? target = some e ↔
    ∃ u h, Url.read? target = .ok u ∧ u.host = some h ∧
      e = { scheme := u.scheme, host := h, port := u.effectivePort? } := by
  unfold ofTarget? ofUrl?
  cases Url.read? target with
  | error => simp [Except.toOption]
  | ok u =>
    show u.host.map _ = some e ↔ _
    rw [Option.map_eq_some_iff]
    constructor
    · rintro ⟨h, hh, rfl⟩
      exact ⟨u, h, rfl, hh, rfl⟩
    · rintro ⟨v, h, hv, hh, rfl⟩
      cases hv
      exact ⟨h, hh, rfl⟩

theorem ofTarget?_eq_none_iff : ofTarget? target = none ↔ ∀ u, Url.read? target = .ok u → u.host = none := by
  unfold ofTarget? ofUrl?
  cases Url.read? target with
  | error => simp [Except.toOption]
  | ok u => simp [Except.toOption]

theorem key_of_some (h : ofTarget? target = some e) : key .host target = e.text := by rw [key, h]; rfl

theorem key_of_none (h : ofTarget? target = none) : key .host target = target := by rw [key, h]; rfl

/-- The key of a target with an endpoint is a target with this endpoint. -/
theorem ofTarget?_key (h : ofTarget? target = some e) (settled : e.host.Settled) :
    ofTarget? (key .host target) = some e := by
  rw [key_of_some h, ofTarget?_text (proper_of_ofTarget? h) settled]

/-- A target without an endpoint is no key of a target with one. -/
theorem key_ne_of_none (hs : ofTarget? s = some e) (settled : e.host.Settled) (ht : ofTarget? t = none) :
    key .host s ≠ key .host t := by
  intro heq
  have found := ofTarget?_key hs settled
  rw [heq, key_of_none ht, ht] at found
  cases found

/-- Two targets have the same key if and only if both have an endpoint and it is written alike, or neither has one and they
    are the same; if only one has an endpoint, its domain name has to stand for itself. Users, paths, queries and fragments
    have no part in the endpoint, and neither has a written port that is that of the scheme. -/
theorem key_eq_iff (s t : String)
    (hs : (∀ v, Url.read? t = .ok v → v.host = none) → ∀ u h, Url.read? s = .ok u → u.host = some h → h.Settled)
    (ht : (∀ v, Url.read? s = .ok v → v.host = none) → ∀ u h, Url.read? t = .ok u → u.host = some h → h.Settled) :
    (key .host s = key .host t ↔
      (∃ u v h k, Url.read? s = .ok u ∧ u.host = some h ∧ Url.read? t = .ok v ∧ v.host = some k ∧
        u.scheme = v.scheme ∧ h.text = k.text ∧ u.effectivePort? = v.effectivePort?) ∨
      ((∀ u, Url.read? s = .ok u → u.host = none) ∧ (∀ v, Url.read? t = .ok v → v.host = none) ∧ s = t)) ∧
    ∀ scheme host port port', scheme ≠ "file".toList → Names scheme host port s → Names scheme host port' t →
      (port = port' ∨ IsDefault scheme port ∧ IsDefault scheme port') →
        ofTarget? s = ofTarget? t ∧ ((ofTarget? s).isSome = true → key .host s = key .host t) := by
  constructor
  · rw [← ofTarget?_eq_none_iff] at hs ht ⊢
    rw [← ofTarget?_eq_none_iff]
    constructor
    · intro heq
      cases hd : ofTarget? s with
      | none =>
        cases he : ofTarget? t with
        | none => exact .inr ⟨rfl, rfl, by rwa [key_of_none hd, key_of_none he] at heq⟩
        | some e =>
          obtain ⟨v, k, hv, hk, rfl⟩ := ofTarget?_eq_some_iff.mp he
          exact absurd heq.symm (key_ne_of_none he (ht hd v k hv hk) hd)
      | some d =>
        obtain ⟨u, h, hu, hh, rfl⟩ := ofTarget?_eq_some_iff.mp hd
        cases he : ofTarget? t with
        | none => exact absurd heq (key_ne_of_none hd (hs he u h hu hh) he)
        | some e =>
          obtain ⟨v, k, hv, hk, rfl⟩ := ofTarget?_eq_some_iff.mp he
          rw [key_of_some hd, key_of_some he] at heq
          exact .inl ⟨u, v, h, k, hu, hh, hv, hk, eq_of_text_eq (proper_of_ofTarget? hd) (proper_of_ofTarget? he) heq⟩
    · rintro (⟨u, v, h, k, hu, hh, hv, hk, hscheme, htext, hport⟩ | ⟨hd, he, rfl⟩)
      · rw [key_of_some (ofTarget?_eq_some_iff.mpr ⟨u, h, hu, hh, rfl⟩),
          key_of_some (ofTarget?_eq_some_iff.mpr ⟨v, k, hv, hk, rfl⟩), text, text]
        dsimp only
        rw [hscheme, htext, hport]
      · rfl
  · intro scheme host port port' file hs ht hport
    have heq := ofTarget?_eq_of_names file hs ht hport
    refine ⟨heq, fun hsome => ?_⟩
    obtain ⟨e, he⟩ := Option.isSome_iff_exists.mp hsome
    rw [key_of_some he, key_of_some (heq ▸ he)]

theorem key_eq_iff_port_eighty :
    Names "http".toList "example.com".toList (some "80".toList) "http://me@example.com:80/a?b#c" ∧
    Names "http".toList "example.com".toList none "http://example.com" ∧
    ofTarget? "http://me@example.com:80/a?b#c" = ofTarget? "http://example.com" ∧
    key .host "http://me@example.com:80/a?b#c" = key .host "http://example.com" ∧
    key .host "example.com:80" ≠ key .host "http://example.com" := by
  have hs : Url.read? "http://me@example.com:80/a?b#c" = .ok
      { scheme := "http".toList, username := "me".toList, host := some (.domain "example.com".toList),
        path := "/a".toList, query := some "b".toList, fragment := some "c".toList } := by decide +kernel
  have ht : Url.read? "http://example.com" = .ok
      { scheme := "http".toList, host := some (.domain "example.com".toList), path := "/".toList } := by decide +kernel
  have hnone : Url.read? "example.com:80" = .ok { scheme := "example.com".toList, path := "80".toList } := by
    decide +kernel
  have settled {target : String} {u : Url} (hread : Url.read? target = .ok u)
      (hhost : u.host = none ∨ u.host = some (.domain "example.com".toList)) :
      ∀ v h, Url.read? target = .ok v → v.host = some h → h.Settled := by
    intro v h hv hh
    obtain rfl := Except.ok.inj (hread.symm.trans hv)
    rcases hhost with hhost | hhost
    · cases hhost.symm.trans hh
    · obtain rfl := Option.some.inj (hhost.symm.trans hh)
      exact Url.Host.settled_of_isPlain (by decide +kernel)
  have names : Names "http".toList "example.com".toList (some "80".toList) "http://me@example.com:80/a?b#c" :=
    ⟨"me@".toList, "example.com:80".toList, "/a?b#c".toList,
      ⟨by decide, .inr (by decide), by decide, by decide, by decide, by decide⟩, by decide⟩
  have names' : Names "http".toList "example.com".toList none "http://example.com" :=
    ⟨[], "example.com".toList, [], ⟨by decide, .inl rfl, by decide, by decide, by decide, by decide⟩, by decide⟩
  have eighty : IsDefault "http".toList (some "80".toList) := by
    rintro _ ⟨⟩
    decide
  obtain ⟨iff, same⟩ := key_eq_iff "http://me@example.com:80/a?b#c" "http://example.com" (fun _ => settled hs (.inr rfl))
    fun _ => settled ht (.inr rfl)
  obtain ⟨apart, -⟩ := key_eq_iff "example.com:80" "http://example.com" (fun _ => settled hnone (.inl rfl))
    fun _ => settled ht (.inr rfl)
  refine ⟨names, names', (same _ _ _ _ (by decide) names names' (.inr ⟨eighty, fun _ h => nomatch h⟩)).1,
    iff.mpr (.inl ⟨_, _, _, _, hs, rfl, ht, rfl, rfl, rfl, rfl⟩), fun heq => ?_⟩
  rcases apart.mp heq with ⟨u, v, h, k, hu, hh, -⟩ | ⟨-, none, -⟩
  · obtain rfl := Except.ok.inj (hnone.symm.trans hu)
    cases hh
  · cases none _ ht

end BatchFetch.Endpoint
