import BatchFetch.Json.Written
import BatchFetch.Proofs.Text.Decimal
import Mathlib.Tactic.SplitIfs

/-! # The grammar of JSON

Which characters spell a value. Blanks may stand before and after every value and every name; a character of a text may
stand for itself, or be escaped by a letter or by its code in one or two units of sixteen bits; a number has no zero
before its other digits. What is written of a value spells it. -/

namespace BatchFetch.Json

def isBlank (c : Char) : Bool := c == ' ' || c == '\t' || c == '\n' || c == '\r'

def Blanks (w : List Char) : Prop := ∀ c ∈ w, isBlank c = true

/-- The letters that stand for a character after a backslash. -/
def letters : List (Char × Char) :=
  [('"', '"'), ('\\', '\\'), ('/', '/'), ('b', '\x08'), ('f', '\x0c'), ('n', '\n'), ('r', '\r'), ('t', '\t')]

/-- Four digits, in either case, write a unit of sixteen bits. -/
def SpellsUnit (n : Nat) (ds : List Char) : Prop :=
  ds.length = 4 ∧ (∀ d ∈ ds, (Decimal.hexDigit? d).isSome = true) ∧ Decimal.valueIn 16 ds = n

/-- The spellings of a character inside a text. A character above U+FFFF is the two units of a surrogate pair. -/
inductive SpellsChar : Char → List Char → Prop where
  | plain {c : Char} : 32 ≤ c.toNat → c ≠ '"' → c ≠ '\\' → SpellsChar c [c]
  | letter {l c : Char} : (l, c) ∈ letters → SpellsChar c ['\\', l]
  | unit {c : Char} {ds : List Char} : SpellsUnit c.toNat ds → SpellsChar c ('\\' :: 'u' :: ds)
  | pair {c : Char} {hs ls : List Char} : 0x10000 ≤ c.toNat → SpellsUnit (0xD800 + (c.toNat - 0x10000) / 0x400) hs →
      SpellsUnit (0xDC00 + (c.toNat - 0x10000) % 0x400) ls → SpellsChar c ('\\' :: 'u' :: hs ++ '\\' :: 'u' :: ls)

inductive SpellsChars : List Char → List Char → Prop where
  | nil : SpellsChars [] []
  | cons {c : Char} {s a b : List Char} : SpellsChar c a → SpellsChars s b → SpellsChars (c :: s) (a ++ b)

def SpellsText (s : String) (cs : List Char) : Prop := ∃ body, SpellsChars s.toList body ∧ cs = '"' :: body ++ ['"']

def SpellsNumber (n : Nat) (cs : List Char) : Prop :=
  cs ≠ [] ∧ (∀ c ∈ cs, c.isDigit = true) ∧ (cs.head? = some '0' → cs = ['0']) ∧ Decimal.value cs = n

mutual

/-- The spellings of a value. -/
inductive Spells : Json → List Char → Prop where
  | null : Spells .null ['n', 'u', 'l', 'l']
  | number {n : Nat} {cs : List Char} : SpellsNumber n cs → Spells (.number n) cs
  | text {s : String} {cs : List Char} : SpellsText s cs → Spells (.text s) cs
  | noItems {w : List Char} : Blanks w → Spells (.list []) ('[' :: w ++ [']'])
  | list {xs : List Json} {cs : List Char} : SpellsItems xs cs → Spells (.list xs) ('[' :: cs ++ [']'])
  | noMembers {w : List Char} : Blanks w → Spells (.object []) ('{' :: w ++ ['}'])
  | object {ms : List (String × Json)} {cs : List Char} : SpellsMembers ms cs →
      Spells (.object ms) ('{' :: cs ++ ['}'])

/-- The spellings of one or more items. -/
inductive SpellsItems : List Json → List Char → Prop where
  | last {x : Json} {v cs w : List Char} : Blanks v → Spells x cs → Blanks w → SpellsItems [x] (v ++ cs ++ w)
  | more {x : Json} {xs : List Json} {v cs w ds : List Char} : Blanks v → Spells x cs → Blanks w → SpellsItems xs ds →
      SpellsItems (x :: xs) (v ++ cs ++ w ++ ',' :: ds)

/-- The spellings of one or more members. -/
inductive SpellsMembers : List (String × Json) → List Char → Prop where
  | last {k : String} {x : Json} {u name t v cs w : List Char} : Blanks u → SpellsText k name → Blanks t → Blanks v →
      Spells x cs → Blanks w → SpellsMembers [(k, x)] (u ++ name ++ t ++ ':' :: (v ++ cs ++ w))
  | more {k : String} {x : Json} {ms : List (String × Json)} {u name t v cs w ds : List Char} :
      Blanks u → SpellsText k name → Blanks t → Blanks v → Spells x cs → Blanks w → SpellsMembers ms ds →
      SpellsMembers ((k, x) :: ms) (u ++ name ++ t ++ ':' :: (v ++ cs ++ w ++ ',' :: ds))

end

/-- A document is a value with blanks around it. -/
def IsDocument (x : Json) (s : String) : Prop := ∃ v cs w, Blanks v ∧ Spells x cs ∧ Blanks w ∧ s.toList = v ++ cs ++ w

/-! ### What is written -/

theorem blanks_nil : Blanks [] := fun _ h => absurd h List.not_mem_nil

theorem blanks_space : Blanks [' '] := by simp [Blanks, isBlank]

theorem blanks_indent (depth : Nat) : Blanks (indent depth) := by
  intro c hc
  rcases List.mem_cons.mp hc with rfl | hc
  · rfl
  · rw [List.eq_of_mem_replicate hc]
    rfl

theorem spellsUnit_of_control {n : Nat} (h : n < 32) :
    SpellsUnit n ['0', '0', hexDigit (n / 16), hexDigit (n % 16)] := by
  have digits : ∀ n < 32, ['0', '0', hexDigit (n / 16), hexDigit (n % 16)].all (Decimal.hexDigit? · |>.isSome) = true ∧
      Decimal.valueIn 16 ['0', '0', hexDigit (n / 16), hexDigit (n % 16)] = n := by decide
  exact ⟨rfl, List.all_eq_true.mp (digits n h).1, (digits n h).2⟩

theorem spellsChar_escape (c : Char) : SpellsChar c (escape c) := by
  unfold escape
  split_ifs with quote backslash b t n f r control
  · exact .letter (by simp [letters, quote])
  · exact .letter (by simp [letters, backslash])
  · exact .letter (by simp [letters, b])
  · exact .letter (by simp [letters, t])
  · exact .letter (by simp [letters, n])
  · exact .letter (by simp [letters, f])
  · exact .letter (by simp [letters, r])
  · exact .unit (spellsUnit_of_control control)
  · exact .plain (Nat.not_lt.mp control) quote backslash

theorem spellsText_quote (s : String) : SpellsText s (quote s) := by
  refine ⟨s.toList.flatMap escape, ?_, rfl⟩
  induction s.toList with
  | nil => exact .nil
  | cons c cs ih => exact .cons (spellsChar_escape c) ih

theorem spellsNumber_digits (n : Nat) : SpellsNumber n (Decimal.digits n) :=
  ⟨Decimal.digits_ne_nil n, fun _ => Decimal.isDigit_of_mem_digits, Decimal.digits_of_head_zero, Decimal.value_digits n⟩

mutual

/-- What is written of a value spells it, at every depth. -/
theorem spells_write (depth : Nat) : ∀ x : Json, Spells x (x.write depth)
  | .null => .null
  | .number n => by
    rw [write]
    exact .number (spellsNumber_digits n)
  | .text s => by
    rw [write]
    exact .text (spellsText_quote s)
  | .list [] => by
    rw [write]
    exact .noItems blanks_nil
  | .list (x :: xs) => by
    rw [write]
    have := spellsItems_write (depth + 1) (spells_write (depth + 1) x) (blanks_indent depth) xs
    simpa [List.append_assoc] using Spells.list this
  | .object [] => by
    rw [write]
    exact .noMembers blanks_nil
  | .object ((k, x) :: ms) => by
    rw [write]
    have := spellsMembers_write (depth + 1) k (spells_write (depth + 1) x) (blanks_indent depth) ms
    simpa [List.append_assoc] using Spells.object this

theorem spellsItems_write (depth : Nat) {x : Json} {cs w : List Char} (hx : Spells x cs) (hw : Blanks w) :
    ∀ xs : List Json, SpellsItems (x :: xs) (indent depth ++ cs ++ writeItems depth xs ++ w)
  | [] => by
    rw [writeItems, List.append_nil]
    exact .last (blanks_indent depth) hx hw
  | y :: ys => by
    rw [writeItems]
    have := SpellsItems.more (blanks_indent depth) hx blanks_nil (spellsItems_write depth (spells_write depth y) hw ys)
    simpa [List.append_assoc] using this

theorem spellsMembers_write (depth : Nat) (k : String) {x : Json} {cs w : List Char} (hx : Spells x cs) (hw : Blanks w) :
    ∀ ms : List (String × Json),
      SpellsMembers ((k, x) :: ms) (indent depth ++ quote k ++ [':', ' '] ++ cs ++ writeMembers depth ms ++ w)
  | [] => by
    rw [writeMembers, List.append_nil]
    have := SpellsMembers.last (blanks_indent depth) (spellsText_quote k) blanks_nil blanks_space hx hw
    simpa [List.append_assoc] using this
  | (j, y) :: ms => by
    rw [writeMembers]
    have := SpellsMembers.more (blanks_indent depth) (spellsText_quote k) blanks_nil blanks_space hx blanks_nil
      (spellsMembers_write depth j (spells_write depth y) hw ms)
    simpa [List.append_assoc] using this

end

theorem isDocument_document (x : Json) : IsDocument x x.document :=
  ⟨[], x.write 0, [], blanks_nil, spells_write 0 x, blanks_nil, by simp [document]⟩

end BatchFetch.Json
