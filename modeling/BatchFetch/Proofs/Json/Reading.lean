import BatchFetch.Proofs.Json.Grammar

/-! # Reading JSON

A reader that finds in every document the value that it spells. So no document spells two values, and two values that
are written alike are the same. -/

namespace BatchFetch.Json

/-! ### The reader -/

def dropBlanks (cs : List Char) : List Char := cs.dropWhile isBlank

def readUnit? : List Char → Option (Nat × List Char)
  | a :: b :: c :: d :: cs =>
    if [a, b, c, d].all (fun x => (Decimal.hexDigit? x).isSome) then some (Decimal.valueIn 16 [a, b, c, d], cs) else none
  | _ => none

/-- The character of a unit that is no half of a surrogate pair. -/
def ofUnit? (n : Nat) : Option Char := if n < 0xD800 ∨ 0xE000 ≤ n then some (Char.ofNat n) else none

/-- The character of a surrogate pair. -/
def ofPair? (high low : Nat) : Option Char :=
  if (0xD800 ≤ high ∧ high < 0xDC00) ∧ 0xDC00 ≤ low ∧ low < 0xE000 then
    some (Char.ofNat (0x10000 + (high - 0xD800) * 0x400 + (low - 0xDC00)))
  else none

/-- Reads the second unit of a surrogate pair. -/
def readPair? (high : Nat) : List Char → Option (Char × List Char)
  | '\\' :: 'u' :: cs => do
    let (low, cs) ← readUnit? cs
    (ofPair? high low).map (·, cs)
  | _ => none

/-- Reads a character inside a text. -/
def readChar? : List Char → Option (Char × List Char)
  | '\\' :: 'u' :: cs => do
    let (n, cs) ← readUnit? cs
    ((ofUnit? n).map (·, cs)).or (readPair? n cs)
  | '\\' :: l :: cs => (letters.lookup l).map (·, cs)
  | c :: cs => if 32 ≤ c.toNat ∧ c ≠ '"' ∧ c ≠ '\\' then some (c, cs) else none
  | [] => none

/-- Reads the rest of a text up to the quote behind it; none has more than `n` characters. -/
def readText? : Nat → List Char → Option (List Char × List Char)
  | 0, _ => none
  | n + 1, cs =>
    if cs.head? = some '"' then some ([], cs.tail)
    else do
      let (c, cs) ← readChar? cs
      let (s, cs) ← readText? n cs
      some (c :: s, cs)

def readNumber? (cs : List Char) : Option (Nat × List Char) :=
  let ds := cs.takeWhile Char.isDigit
  if ds = [] ∨ ds.head? = some '0' ∧ ds ≠ ['0'] then none else some (Decimal.value ds, cs.dropWhile Char.isDigit)

/-- Reads a name and the colon behind it. -/
def readName? (n : Nat) (cs : List Char) : Option (String × List Char) :=
  match dropBlanks cs with
  | '"' :: cs => do
    let (s, cs) ← readText? n cs
    match dropBlanks cs with
    | ':' :: cs => some (String.ofList s, cs)
    | _ => none
  | _ => none

mutual

/-- Reads a value that has at most `n` characters. -/
def readValue? : Nat → List Char → Option (Json × List Char)
  | 0, _ => none
  | n + 1, cs =>
    match cs with
    | '[' :: cs =>
      match dropBlanks cs with
      | ']' :: rest => some (.list [], rest)
      | _ => (readItems? n cs).map fun (xs, rest) => (.list xs, rest)
    | '{' :: cs =>
      match dropBlanks cs with
      | '}' :: rest => some (.object [], rest)
      | _ => (readMembers? n cs).map fun (ms, rest) => (.object ms, rest)
    | '"' :: cs => (readText? n cs).map fun (s, rest) => (.text (String.ofList s), rest)
    | 'n' :: 'u' :: 'l' :: 'l' :: rest => some (.null, rest)
    | cs => (readNumber? cs).map fun (n, rest) => (.number n, rest)

/-- Reads items that have less than `n` characters together, and the bracket behind them. -/
def readItems? : Nat → List Char → Option (List Json × List Char)
  | 0, _ => none
  | n + 1, cs => do
    let (x, cs) ← readValue? n (dropBlanks cs)
    match dropBlanks cs with
    | ',' :: cs =>
      let (xs, cs) ← readItems? n cs
      some (x :: xs, cs)
    | ']' :: cs => some ([x], cs)
    | _ => none

/-- Reads members that have less than `n` characters together, and the brace behind them. -/
def readMembers? : Nat → List Char → Option (List (String × Json) × List Char)
  | 0, _ => none
  | n + 1, cs => do
    let (k, cs) ← readName? n cs
    let (x, cs) ← readValue? n (dropBlanks cs)
    match dropBlanks cs with
    | ',' :: cs =>
      let (ms, cs) ← readMembers? n cs
      some ((k, x) :: ms, cs)
    | '}' :: cs => some ([(k, x)], cs)
    | _ => none

end

/-- Reads a document. -/
def read? (s : String) : Option Json := do
  let (x, rest) ← readValue? s.toList.length (dropBlanks s.toList)
  if rest.all isBlank then some x else none

/-! ### Blanks and characters -/

section Parts
variable {c : Char} {n : Nat} {s : String} {v w cs ds rest : List Char} {x : Json}

theorem dropBlanks_append (hw : Blanks w) (cs : List Char) : dropBlanks (w ++ cs) = dropBlanks cs :=
  List.dropWhile_append_of_pos hw

theorem dropBlanks_cons (h : isBlank c = false) (cs : List Char) : dropBlanks (c :: cs) = c :: cs :=
  List.dropWhile_cons_of_neg (by simp [h])

theorem isDigit_of_isBlank (h : isBlank c = true) : c.isDigit = false := by
  simp only [isBlank, Bool.or_eq_true, beq_iff_eq] at h
  rcases h with ((rfl | rfl) | rfl) | rfl <;> rfl

theorem readUnit?_of_spells (h : SpellsUnit n ds) (rest : List Char) : readUnit? (ds ++ rest) = some (n, rest) := by
  obtain ⟨hlength, hdigits, rfl⟩ := h
  match ds, hlength with
  | [a, b, c, d], _ => exact if_pos (List.all_eq_true.mpr hdigits)

theorem ofUnit?_toNat (c : Char) : ofUnit? c.toNat = some c := by
  have : c.toNat < 0xD800 ∨ 0xE000 ≤ c.toNat := c.valid.imp_right fun h => h.1
  rw [ofUnit?, if_pos this, Char.ofNat_toNat]

/-- A character above U+FFFF is that of its two units, and the first of them stands for no character. -/
theorem ofPair?_toNat (large : 0x10000 ≤ c.toNat) :
    ofUnit? (0xD800 + (c.toNat - 0x10000) / 0x400) = none ∧
      ofPair? (0xD800 + (c.toNat - 0x10000) / 0x400) (0xDC00 + (c.toNat - 0x10000) % 0x400) = some c := by
  have small : c.toNat < 0x110000 := c.valid.elim (fun h => Nat.lt_trans h (by decide)) fun h => h.2
  have value : 0x10000 + (0xD800 + (c.toNat - 0x10000) / 0x400 - 0xD800) * 0x400 +
      (0xDC00 + (c.toNat - 0x10000) % 0x400 - 0xDC00) = c.toNat := by omega
  constructor
  · exact if_neg (by omega)
  · rw [ofPair?, if_pos (by omega), value, Char.ofNat_toNat]

theorem readChar?_pair {high low : Nat} {hs ls : List Char} (hhigh : SpellsUnit high hs) (hlow : SpellsUnit low ls)
    (hnone : ofUnit? high = none) (hpair : ofPair? high low = some c) (rest : List Char) :
    readChar? ('\\' :: 'u' :: hs ++ '\\' :: 'u' :: ls ++ rest) = some (c, rest) := by
  simp only [List.append_assoc, List.cons_append, readChar?, readPair?, readUnit?_of_spells hhigh, hnone,
    readUnit?_of_spells hlow, hpair, Option.bind_eq_bind, Option.bind_some, Option.map_some, Option.map_none,
    Option.none_or]

theorem readChar?_of_spells (h : SpellsChar c cs) (rest : List Char) : readChar? (cs ++ rest) = some (c, rest) := by
  cases h with
  | plain printed quote backslash =>
    rw [List.singleton_append]
    unfold readChar?
    split
    · rename_i heq
      exact absurd (List.cons.inj heq).1 backslash
    · rename_i heq
      exact absurd (List.cons.inj heq).1 backslash
    · rename_i heq
      cases heq
      exact if_pos ⟨printed, quote, backslash⟩
    · rename_i heq
      cases heq
  | letter hmem =>
    simp only [letters, List.mem_cons, Prod.mk.injEq, List.not_mem_nil, or_false] at hmem
    rcases hmem with ⟨rfl, rfl⟩ | ⟨rfl, rfl⟩ | ⟨rfl, rfl⟩ | ⟨rfl, rfl⟩ | ⟨rfl, rfl⟩ | ⟨rfl, rfl⟩ | ⟨rfl, rfl⟩ |
      ⟨rfl, rfl⟩ <;> rfl
  | unit hunit =>
    simp only [List.cons_append, readChar?, readUnit?_of_spells hunit, ofUnit?_toNat, Option.bind_eq_bind,
      Option.bind_some, Option.map_some, Option.some_or]
  | pair large hhigh hlow =>
    obtain ⟨hnone, hpair⟩ := ofPair?_toNat large
    exact readChar?_pair hhigh hlow hnone hpair rest

/-- No spelling of a character starts with a quote. -/
theorem head_of_spellsChar (h : SpellsChar c cs) : ∃ a as, cs = a :: as ∧ a ≠ '"' := by
  cases h with
  | plain _ quote _ => exact ⟨_, _, rfl, quote⟩
  | letter _ => exact ⟨_, _, rfl, by decide⟩
  | unit _ => exact ⟨_, _, rfl, by decide⟩
  | pair _ _ _ => exact ⟨_, _, rfl, by decide⟩

theorem readText?_of_spells {s : List Char} (h : SpellsChars s cs) (rest : List Char) (enough : cs.length < n) :
    readText? n (cs ++ '"' :: rest) = some (s, rest) := by
  induction h generalizing n with
  | nil =>
    cases n with
    | zero => cases enough
    | succ n => rfl
  | @cons c s a b hc _ ih =>
    cases n with
    | zero => cases enough
    | succ n =>
      obtain ⟨d, ds, rfl, quote⟩ := head_of_spellsChar hc
      rw [List.length_append, List.length_cons] at enough
      have hread := readChar?_of_spells hc (b ++ '"' :: rest)
      rw [List.append_assoc, readText?, if_neg (by simpa using quote), hread]
      simp only [Option.bind_eq_bind, Option.bind_some]
      rw [ih (by omega)]
      rfl

theorem readNumber?_of_spells (h : SpellsNumber n cs) (apart : ∀ c ∈ rest.head?, c.isDigit = false) :
    readNumber? (cs ++ rest) = some (n, rest) := by
  obtain ⟨hne, hdigits, hzero, rfl⟩ := h
  have htake : rest.takeWhile Char.isDigit = [] := by
    cases rest with
    | nil => rfl
    | cons c rest => exact List.takeWhile_cons_of_neg (by simpa using apart c rfl)
  have hdrop : rest.dropWhile Char.isDigit = rest := by
    cases rest with
    | nil => rfl
    | cons c rest => exact List.dropWhile_cons_of_neg (by simpa using apart c rfl)
  unfold readNumber?
  rw [List.takeWhile_append_of_pos hdigits, List.dropWhile_append_of_pos hdigits, htake, hdrop, List.append_nil]
  exact if_neg (by rintro (h | ⟨h, h'⟩); exacts [hne h, h' (hzero h)])

theorem readName?_of_spells {u name t : List Char} (hu : Blanks u) (hname : SpellsText s name) (ht : Blanks t)
    (rest : List Char) (enough : name.length ≤ n) :
    readName? n (u ++ name ++ t ++ ':' :: rest) = some (s, rest) := by
  obtain ⟨body, hbody, rfl⟩ := hname
  have hread := readText?_of_spells hbody (t ++ ':' :: rest) (n := n) (by simp at enough; omega)
  unfold readName?
  simp only [List.append_assoc, List.cons_append, List.nil_append, dropBlanks_append hu, dropBlanks_cons (c := '"') rfl,
    hread, Option.bind_eq_bind, Option.bind_some, dropBlanks_append ht, dropBlanks_cons (c := ':') rfl,
    String.ofList_toList]

end Parts

/-! ### Values -/

section Values
variable {n : Nat} {x y : Json} {xs : List Json} {ms : List (String × Json)} {s : String} {v w cs rest : List Char}

/-- A spelling starts neither with a blank nor with what ends a list. -/
theorem head_of_spells (h : Spells x cs) : ∃ a as, cs = a :: as ∧ isBlank a = false ∧ a ≠ ']' := by
  cases h with
  | null => exact ⟨_, _, rfl, rfl, by decide⟩
  | number h =>
    obtain ⟨hne, hdigits, -, -⟩ := h
    obtain ⟨a, as, rfl⟩ := List.exists_cons_of_ne_nil hne
    have ha := hdigits a List.mem_cons_self
    refine ⟨a, as, rfl, ?_, fun h => by rw [h] at ha; cases ha⟩
    cases hblank : isBlank a with
    | false => rfl
    | true =>
      rw [isDigit_of_isBlank hblank] at ha
      cases ha
  | text h =>
    obtain ⟨body, -, rfl⟩ := h
    exact ⟨_, _, rfl, rfl, by decide⟩
  | noItems _ => exact ⟨_, _, rfl, rfl, by decide⟩
  | list _ => exact ⟨_, _, rfl, rfl, by decide⟩
  | noMembers _ => exact ⟨_, _, rfl, rfl, by decide⟩
  | object _ => exact ⟨_, _, rfl, rfl, by decide⟩

theorem dropBlanks_spells (hv : Blanks v) (h : Spells x cs) (rest : List Char) :
    dropBlanks (v ++ (cs ++ rest)) = cs ++ rest := by
  obtain ⟨a, as, rfl, ha, -⟩ := head_of_spells h
  rw [dropBlanks_append hv, List.cons_append, dropBlanks_cons ha]

theorem head_of_spellsItems (h : SpellsItems xs cs) (rest : List Char) :
    (dropBlanks (cs ++ rest)).head? ≠ some ']' := by
  cases h with
  | last hv hx hw =>
    obtain ⟨a, as, heq, -, ha⟩ := head_of_spells hx
    rw [List.append_assoc, List.append_assoc, dropBlanks_spells hv hx, heq]
    simpa using ha
  | more hv hx hw _ =>
    obtain ⟨a, as, heq, -, ha⟩ := head_of_spells hx
    rw [List.append_assoc, List.append_assoc, List.append_assoc, dropBlanks_spells hv hx, heq]
    simpa using ha

theorem head_of_spellsMembers (h : SpellsMembers ms cs) (rest : List Char) :
    (dropBlanks (cs ++ rest)).head? ≠ some '}' := by
  cases h with
  | last hu hname _ _ _ _ =>
    obtain ⟨body, -, rfl⟩ := hname
    simp [dropBlanks_append hu, dropBlanks_cons (c := '"') rfl]
  | more hu hname _ _ _ _ _ =>
    obtain ⟨body, -, rfl⟩ := hname
    simp [dropBlanks_append hu, dropBlanks_cons (c := '"') rfl]

/-- What follows a value inside of another one is no digit. -/
theorem apart_of_blanks {c : Char} (hw : Blanks w) (hc : c.isDigit = false) :
    ∀ a ∈ (w ++ c :: rest).head?, a.isDigit = false := by
  intro a ha
  cases w with
  | nil =>
    obtain rfl : c = a := Option.some.inj ha
    exact hc
  | cons b w =>
    obtain rfl : b = a := Option.some.inj ha
    exact isDigit_of_isBlank (hw b List.mem_cons_self)

theorem readValue?_noItems (hw : Blanks w) : readValue? (n + 1) ('[' :: w ++ [']'] ++ rest) = some (.list [], rest) := by
  simp only [readValue?, List.cons_append, List.append_assoc, List.nil_append, dropBlanks_append hw,
    dropBlanks_cons (c := ']') rfl]

theorem readValue?_noMembers (hw : Blanks w) :
    readValue? (n + 1) ('{' :: w ++ ['}'] ++ rest) = some (.object [], rest) := by
  simp only [readValue?, List.cons_append, List.append_assoc, List.nil_append, dropBlanks_append hw,
    dropBlanks_cons (c := '}') rfl]

theorem readValue?_list (h : (dropBlanks cs).head? ≠ some ']') :
    readValue? (n + 1) ('[' :: cs) = (readItems? n cs).map fun (xs, rest) => (.list xs, rest) := by
  rw [readValue?]
  split
  · rename_i heq
    rw [heq] at h
    exact absurd rfl h
  · rfl

theorem readValue?_object (h : (dropBlanks cs).head? ≠ some '}') :
    readValue? (n + 1) ('{' :: cs) = (readMembers? n cs).map fun (ms, rest) => (.object ms, rest) := by
  rw [readValue?]
  split
  · rename_i heq
    rw [heq] at h
    exact absurd rfl h
  · rfl

theorem readValue?_number {a : Char} (h : a.isDigit = true) :
    readValue? (n + 1) (a :: cs) = (readNumber? (a :: cs)).map fun (n, rest) => (.number n, rest) := by
  unfold readValue?
  split
  case h_5 => rfl
  all_goals
    rename_i heq
    cases heq
    exact absurd h (by decide)

-- The recursion is on the spelling. The count goes down with each part, and is enough for its characters.
mutual

/-- The reader finds every value, whatever follows it. -/
theorem readValue?_of_spells {x : Json} {cs : List Char} {n : Nat} (h : Spells x cs) (rest : List Char)
    (enough : cs.length ≤ n) (apart : ∀ c ∈ rest.head?, c.isDigit = false) :
    readValue? n (cs ++ rest) = some (x, rest) := by
  obtain ⟨a, as, hcons, -⟩ := head_of_spells h
  cases n with
  | zero =>
    rw [hcons] at enough
    cases enough
  | succ n =>
    match h with
    | .null => rfl
    | .number hn =>
      have hdigit := hn.2.1 a (by rw [hcons]; exact List.mem_cons_self)
      have hread := readNumber?_of_spells hn apart
      rw [hcons, List.cons_append] at hread ⊢
      rw [readValue?_number hdigit, hread]
      rfl
    | .text ⟨body, hbody, heq⟩ =>
      have hread := readText?_of_spells hbody rest (n := n) (by simp [heq] at enough; omega)
      simp only [heq, List.cons_append, List.append_assoc, List.nil_append, readValue?, hread, Option.map_some,
        String.ofList_toList]
    | .noItems hw => exact readValue?_noItems hw
    | .list hxs =>
      simp only [List.cons_append, List.length_cons, List.length_append, List.append_assoc, List.nil_append] at enough ⊢
      rw [readValue?_list (head_of_spellsItems hxs _), readItems?_of_spells hxs rest (by simp at enough; omega)]
      rfl
    | .noMembers hw => exact readValue?_noMembers hw
    | .object hms =>
      simp only [List.cons_append, List.length_cons, List.length_append, List.append_assoc, List.nil_append] at enough ⊢
      rw [readValue?_object (head_of_spellsMembers hms _), readMembers?_of_spells hms rest (by simp at enough; omega)]
      rfl

theorem readItems?_of_spells {xs : List Json} {cs : List Char} {n : Nat} (h : SpellsItems xs cs) (rest : List Char)
    (enough : cs.length < n) : readItems? n (cs ++ ']' :: rest) = some (xs, rest) := by
  cases n with
  | zero => cases enough
  | succ n =>
    match h with
    | @SpellsItems.last x v cs w hv hx hw =>
      simp only [List.length_append] at enough
      have hread := readValue?_of_spells (n := n) hx (w ++ ']' :: rest) (by omega) (apart_of_blanks hw rfl)
      simp only [readItems?, List.append_assoc, dropBlanks_spells hv hx, hread, Option.bind_eq_bind, Option.bind_some,
        dropBlanks_append hw, dropBlanks_cons (c := ']') rfl]
    | @SpellsItems.more x xs v cs w ds hv hx hw hxs =>
      simp only [List.length_append, List.length_cons] at enough
      have hread := readValue?_of_spells (n := n) hx (w ++ ',' :: (ds ++ ']' :: rest)) (by omega)
        (apart_of_blanks hw rfl)
      have hmore := readItems?_of_spells (n := n) hxs rest (by omega)
      simp only [readItems?, List.append_assoc, List.cons_append, dropBlanks_spells hv hx, hread, Option.bind_eq_bind,
        Option.bind_some, dropBlanks_append hw, dropBlanks_cons (c := ',') rfl, hmore]

theorem readMembers?_of_spells {ms : List (String × Json)} {cs : List Char} {n : Nat}
    (h : SpellsMembers ms cs) (rest : List Char) (enough : cs.length < n) :
    readMembers? n (cs ++ '}' :: rest) = some (ms, rest) := by
  cases n with
  | zero => cases enough
  | succ n =>
    match h with
    | @SpellsMembers.last k x u name t v cs w hu hname ht hv hx hw =>
      simp only [List.length_append, List.length_cons] at enough
      have hread := readValue?_of_spells (n := n) hx (w ++ '}' :: rest) (by omega) (apart_of_blanks hw rfl)
      have hname := fun rest => readName?_of_spells (n := n) hu hname ht rest (by omega)
      simp only [List.append_assoc] at hname
      simp only [readMembers?, List.append_assoc, List.cons_append, hname, dropBlanks_spells hv hx, hread,
        Option.bind_eq_bind, Option.bind_some, dropBlanks_append hw, dropBlanks_cons (c := '}') rfl]
    | @SpellsMembers.more k x ms u name t v cs w ds hu hname ht hv hx hw hms =>
      simp only [List.length_append, List.length_cons] at enough
      have hread := readValue?_of_spells (n := n) hx (w ++ ',' :: (ds ++ '}' :: rest)) (by omega)
        (apart_of_blanks hw rfl)
      have hname := fun rest => readName?_of_spells (n := n) hu hname ht rest (by omega)
      simp only [List.append_assoc] at hname
      have hmore := readMembers?_of_spells (n := n) hms rest (by omega)
      simp only [readMembers?, List.append_assoc, List.cons_append, hname, dropBlanks_spells hv hx, hread,
        Option.bind_eq_bind, Option.bind_some, dropBlanks_append hw, dropBlanks_cons (c := ',') rfl, hmore]

end

end Values

/-! ### Documents -/

section Documents
variable {x y : Json} {s : String}

theorem read?_of_isDocument (h : IsDocument x s) : read? s = some x := by
  obtain ⟨v, cs, w, hv, hx, hw, heq⟩ := h
  have apart : ∀ c ∈ w.head?, c.isDigit = false := fun c hc => isDigit_of_isBlank (hw c (List.mem_of_mem_head? hc))
  have hread := readValue?_of_spells (n := s.toList.length) hx w (by simp [heq]; omega) apart
  unfold read?
  rw [heq] at hread ⊢
  rw [List.append_assoc, dropBlanks_spells hv hx, ← List.append_assoc, hread]
  exact if_pos (List.all_eq_true.mpr hw)

/-- Blanks, and a character as a surrogate pair. -/
example : read? " [7 ,\"\\uD83D\\ude00\"]\n" = some (.list [.number 7, .text "😀"]) := by cbv

/-- A text is a document of one value at most. -/
theorem IsDocument.unique (hx : IsDocument x s) (hy : IsDocument y s) : x = y :=
  Option.some.inj ((read?_of_isDocument hx).symm.trans (read?_of_isDocument hy))

theorem read?_document (x : Json) : read? x.document = some x := read?_of_isDocument (isDocument_document x)

theorem document_injective : Function.Injective document := fun x y h =>
  (isDocument_document x).unique (h ▸ isDocument_document y)

end Documents

end BatchFetch.Json
