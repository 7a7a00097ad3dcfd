import Mathlib.Data.List.DropRight
import Mathlib.Data.Nat.Digits.Defs
import BlobDepot.Decimal.Numeral
import BlobDepot.Text.Blank

/-! # Texts that write a number

`Writes` says which texts write which number, without saying how they are read: blanks, a plus
sign or none, decimal digits, blanks.  The number is the sum of the digits times their powers
of ten.

Reading what is left of a text without its blanks finds exactly these texts
(`numeral?_trimBlanks`).  Blanks and digits are different characters, so only the blanks
outside are taken away; and the running value of the digits is the sum of their powers.
-/

namespace BlobDepot.Decimal

open Text

/-- The number whose decimal digits these are, the one for units last. -/
def decimal (digits : List Char) : Nat :=
  Nat.ofDigits 10 (digits.reverse.map fun c => c.toNat - '0'.toNat)

/-- Characters are a numeral with these digits: at least one of them, after a plus sign or
    none. -/
structure Numeral (cs digits : List Char) : Prop where
  nonempty : digits ≠ []
  decimals : ∀ c ∈ digits, c.isDigit = true
  signed : cs = digits ∨ cs = '+' :: digits

/-- A text writes a number: a numeral of it, with blanks around it. -/
def Writes (raw : String) (n : Nat) : Prop :=
  ∃ front cs back digits, raw.toList = front ++ cs ++ back ∧ (∀ c ∈ front, isBlank c = true) ∧
    (∀ c ∈ back, isBlank c = true) ∧ Numeral cs digits ∧ n = decimal digits

variable {cs front back digits : List Char} {c : Char} {raw : String} {n : Nat}

/-! ## Values -/

theorem valueAfter_zero (digits : List Char) : valueAfter 0 digits = decimal digits := by
  induction digits using List.reverseRecOn with
  | nil => rfl
  | append_singleton digits c ih =>
    rw [valueAfter] at ih
    rw [valueAfter, List.foldl_concat, ih, decimal, decimal, List.reverse_concat, List.map_cons,
      Nat.ofDigits_cons, Nat.add_comm]

/-- The digits that a number is printed with are its digits. -/
theorem decimal_toString (n : Nat) : decimal (toString n).toList = n := by
  rw [← valueAfter_zero, Nat.toString_eq_repr, Nat.toList_repr]
  exact Nat.ofDigitChars_ten_toDigits

theorem numeral_toString (n : Nat) : Numeral (toString n).toList (toString n).toList where
  nonempty := by simp [Nat.toString_eq_repr, Nat.toDigits_ne_nil]
  decimals c member := by
    rw [Nat.toString_eq_repr, Nat.toList_repr] at member
    exact Nat.isDigit_of_mem_toDigits (by decide) (by decide) member
  signed := .inl rfl

/-! ## Numerals -/

theorem numeral?_eq_some_iff : numeral? cs = some n ↔ ∃ digits, Numeral cs digits ∧ n = decimal digits := by
  constructor
  · intro read
    simp only [numeral?, List.all_eq_true] at read
    split at read
    · rename_i given
      rw [Option.some.injEq, valueAfter_zero] at read
      refine ⟨unsigned cs, ⟨given.1, given.2, ?_⟩, read.symm⟩
      unfold unsigned
      split
      · exact .inr rfl
      · exact .inl rfl
    · cases read
  · rintro ⟨digits, ⟨nonempty, decimals, signed⟩, rfl⟩
    have bare : unsigned cs = digits := by
      obtain same | rfl := signed
      · subst same
        unfold unsigned
        split
        · -- A plus sign is no digit.
          have digit := decimals '+' List.mem_cons_self
          cases digit
        · rfl
      · rfl
    simp [numeral?, bare, nonempty, valueAfter_zero, List.all_eq_true.mpr decimals]

/-! ## Blanks around a numeral -/

theorem not_isBlank_of_isDigit (digit : c.isDigit = true) : isBlank c = false := by
  obtain ⟨low, high⟩ := Char.isDigit_iff_toNat.mp digit
  have apart : ∀ code < 58, 48 ≤ code → blankCodes.contains code = false := by decide
  exact apart c.toNat (Nat.lt_succ_of_le high) low

theorem Numeral.head (h : Numeral cs digits) : ∀ c ∈ cs.head?, isBlank c = false := by
  intro c first
  obtain rfl | rfl := h.signed
  · exact not_isBlank_of_isDigit (h.decimals c (List.mem_of_mem_head? first))
  · cases first
    decide

theorem Numeral.last (h : Numeral cs digits) : ∀ c ∈ cs.getLast?, isBlank c = false := by
  intro c last
  have digit : c ∈ digits.getLast? := by
    obtain rfl | rfl := h.signed
    · exact last
    · rwa [List.getLast?_cons_of_ne_nil h.nonempty] at last
  exact not_isBlank_of_isDigit (h.decimals c (List.mem_of_mem_getLast? digit))

theorem Numeral.ne_nil (h : Numeral cs digits) : cs ≠ [] := by
  obtain rfl | rfl := h.signed
  · exact h.nonempty
  · simp

/-- What is taken away are blanks at the two ends. -/
theorem trimBlanks_split (cs : List Char) :
    ∃ front back, cs = front ++ trimBlanks cs ++ back ∧ (∀ c ∈ front, isBlank c = true) ∧
      ∀ c ∈ back, isBlank c = true := by
  have trimmed : trimBlanks cs = (cs.dropWhile isBlank).rdropWhile isBlank := rfl
  refine ⟨cs.takeWhile isBlank, (cs.dropWhile isBlank).rtakeWhile isBlank, ?_, ?_, ?_⟩
  · rw [trimmed, List.append_assoc, List.rdropWhile_append_rtakeWhile,
      List.takeWhile_append_dropWhile]
  · intro c member
    exact List.mem_takeWhile_imp member
  · intro c member
    exact List.mem_rtakeWhile_imp member

/-- Blanks in front of anything else are dropped, and nothing more. -/
theorem dropWhile_blanks (blank : ∀ c ∈ front, isBlank c = true)
    (first : ∀ c ∈ cs.head?, isBlank c = false) : (front ++ cs).dropWhile isBlank = cs := by
  rw [List.dropWhile_append_of_pos blank]
  cases cs with
  | nil => rfl
  | cons c rest => simp [first c rfl]

theorem Numeral.trimBlanks (h : Numeral cs digits) (front_blank : ∀ c ∈ front, isBlank c = true)
    (back_blank : ∀ c ∈ back, isBlank c = true) : trimBlanks (front ++ cs ++ back) = cs := by
  have starts : (front ++ (cs ++ back)).dropWhile isBlank = cs ++ back := by
    apply dropWhile_blanks front_blank
    rw [List.head?_append_of_ne_nil _ h.ne_nil]
    exact h.head
  have ends : (back.reverse ++ cs.reverse).dropWhile isBlank = cs.reverse := by
    apply dropWhile_blanks
    · simpa using back_blank
    · simpa using h.last
  rw [Text.trimBlanks, List.append_assoc, starts, List.reverse_append, ends, List.reverse_reverse]

/-- Reading a text without its blanks finds the number that it writes. -/
theorem numeral?_trimBlanks : numeral? (trimBlanks raw.toList) = some n ↔ Writes raw n := by
  rw [numeral?_eq_some_iff]
  constructor
  · rintro ⟨digits, numeral, value⟩
    obtain ⟨front, back, split, front_blank, back_blank⟩ := trimBlanks_split raw.toList
    exact ⟨front, _, back, digits, split, front_blank, back_blank, numeral, value⟩
  · rintro ⟨front, cs, back, digits, split, front_blank, back_blank, numeral, value⟩
    rw [split, numeral.trimBlanks front_blank back_blank]
    exact ⟨digits, numeral, value⟩

/-- A text writes one number at most. -/
theorem Writes.unique {m : Nat} (writes : Writes raw n) (writes' : Writes raw m) : n = m := by
  rw [← numeral?_trimBlanks] at writes writes'
  rw [writes, Option.some.injEq] at writes'
  exact writes'

theorem numeralBelow?_trimBlanks {bound : Nat} :
    numeralBelow? bound (trimBlanks raw.toList) = some n ↔ Writes raw n ∧ n < bound := by
  rw [numeralBelow?, Option.filter_eq_some_iff, numeral?_trimBlanks, decide_eq_true_eq]

/-- A printed number is written by its digits, whatever blanks are put around them. -/
theorem writes_toString (n : Nat) (front_blank : ∀ c ∈ front, isBlank c = true)
    (back_blank : ∀ c ∈ back, isBlank c = true) :
    Writes (String.ofList front ++ toString n ++ String.ofList back) n := by
  refine ⟨front, (toString n).toList, back, _, ?_, front_blank, back_blank, numeral_toString n, ?_⟩
  · simp only [String.toList_append, String.toList_ofList]
  · rw [decimal_toString]

end BlobDepot.Decimal
