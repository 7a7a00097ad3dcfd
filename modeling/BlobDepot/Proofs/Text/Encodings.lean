import BlobDepot.Text.Json
import BlobDepot.Text.Percent

/-! # What encoded texts mean

Clients write keys percent-encoded into the paths of their requests, and they find texts escaped
in JSON answers.  What is meant by either is stated here by the rules of the encoding
(`Percent.Decodes`, `Json.Spells`), and not by the functions that read the one and write the
other.  The rules leave no choice, and the functions keep to them (`Percent.decodes_iff`,
`Json.spells_escaped`, `Json.Spells.unique`).
-/

namespace BlobDepot.Text

theorem fromUTF8?_eq_some_iff {bytes : ByteArray} {raw : String} :
    String.fromUTF8? bytes = some raw ↔ bytes = raw.toUTF8 := by
  rw [String.fromUTF8?]
  constructor
  · intro read
    split at read
    · cases read
      rfl
    · cases read
  · rintro rfl
    rw [String.toUTF8_eq_toByteArray, dif_pos raw.isValidUTF8]
    rfl

/-! ## Hexadecimal digits -/

/-- A hexadecimal digit of either case, and its value. -/
def HexDigit (c : Char) (n : Nat) : Prop :=
  "0123456789abcdef".toList[n]? = some c ∨ "0123456789ABCDEF".toList[n]? = some c

instance (c : Char) (n : Nat) : Decidable (HexDigit c n) :=
  inferInstanceAs (Decidable (_ ∨ _))

theorem HexDigit.lt {c : Char} {n : Nat} (digit : HexDigit c n) : n < 16 := by
  obtain lower | upper := digit
  · exact (List.getElem?_eq_some_iff.mp lower).1
  · exact (List.getElem?_eq_some_iff.mp upper).1

theorem hexDigit_digitChar {n : Nat} (small : n < 16) : HexDigit n.digitChar n := by
  decide +revert

/-- Only characters up to `f` have a value. -/
theorem toNat_lt_of_hexValue? {c : Char} {n : Nat} (read : hexValue? c = some n) :
    c.toNat < 103 := by
  rw [hexValue?] at read
  split at read
  · rename_i range
    exact Nat.lt_of_le_of_lt range.2 (by decide)
  · split at read
    · rename_i range
      exact Nat.lt_of_le_of_lt range.2 (by decide)
    · split at read
      · rename_i range
        exact Nat.lt_of_le_of_lt range.2 (by decide)
      · cases read

theorem hexValue?_eq_some_iff {c : Char} {n : Nat} : hexValue? c = some n ↔ HexDigit c n := by
  constructor
  · intro read
    have digits : ∀ k < 103, ∀ n ∈ hexValue? (Char.ofNat k), HexDigit (Char.ofNat k) n := by
      decide +kernel
    have digit := digits c.toNat (toNat_lt_of_hexValue? read)
    rw [Char.ofNat_toNat] at digit
    exact digit n read
  · intro digit
    have lower : "0123456789abcdef".toList.map hexValue? = (List.range 16).map some := by decide
    have upper : "0123456789ABCDEF".toList.map hexValue? = (List.range 16).map some := by decide
    have value : ∀ {letters : List Char}, letters.map hexValue? = (List.range 16).map some →
        letters[n]? = some c → hexValue? c = some n := by
      intro letters values listed
      have place := congrArg (·[n]?) values
      simpa [listed, List.getElem?_range digit.lt] using place
    obtain listed | listed := id digit
    · exact value lower listed
    · exact value upper listed

theorem HexDigit.unique {c : Char} {m n : Nat} (digit : HexDigit c m) (digit' : HexDigit c n) :
    m = n :=
  Option.some.inj ((hexValue?_eq_some_iff.mpr digit).symm.trans (hexValue?_eq_some_iff.mpr digit'))

/-! ## Percent-encoding -/

namespace Percent

/-- An octet that is a hexadecimal digit, and its value. -/
def Digit (b : UInt8) (n : Nat) : Prop :=
  HexDigit (Char.ofNat b.toNat) n

/-- Octets that start with an escape: a percent sign and two digits. -/
def Escaped (encoded : List UInt8) : Prop :=
  ∃ b c rest hi lo, encoded = 0x25 :: b :: c :: rest ∧ Digit b hi ∧ Digit c lo

/-- The octets that encoded ones stand for. -/
inductive Decodes : List UInt8 → List UInt8 → Prop where
  | nil : Decodes [] []
  | escape {b c : UInt8} {hi lo : Nat} {rest octets : List UInt8} (high : Digit b hi)
    (low : Digit c lo) (later : Decodes rest octets) :
    Decodes (0x25 :: b :: c :: rest) (UInt8.ofNat (16 * hi + lo) :: octets)
  | plain {b : UInt8} {rest octets : List UInt8} (unescaped : ¬ Escaped (b :: rest))
    (later : Decodes rest octets) : Decodes (b :: rest) (b :: octets)

variable {encoded octets rest : List UInt8} {b c : UInt8} {hi lo n : Nat}

theorem digit?_eq_some_iff : digit? b = some n ↔ Digit b n :=
  hexValue?_eq_some_iff

theorem decode_escape (high : Digit b hi) (low : Digit c lo) :
    decode (0x25 :: b :: c :: rest) = UInt8.ofNat (16 * hi + lo) :: decode rest := by
  rw [decode, if_pos rfl, digit?_eq_some_iff.mpr high, digit?_eq_some_iff.mpr low]

theorem decode_plain (unescaped : ¬ Escaped (b :: rest)) : decode (b :: rest) = b :: decode rest := by
  match rest with
  | [] => rfl
  | [c] => rfl
  | c :: d :: rest =>
    rw [decode]
    split
    · rename_i percent
      split
      · rename_i hi lo high low
        exact absurd ⟨c, d, rest, hi, lo, by rw [percent], digit?_eq_some_iff.mp high,
          digit?_eq_some_iff.mp low⟩ unescaped
      · rfl
    · rfl

theorem decodes_decode (encoded : List UInt8) : Decodes encoded (decode encoded) := by
  fun_induction decode encoded with
  | case1 => exact .nil
  | case2 b => exact .plain (by rintro ⟨_, _, _, _, _, same, _⟩; cases same) .nil
  | case3 b c =>
    have last : ¬ Escaped [c] := by rintro ⟨_, _, _, _, _, same, _⟩; cases same
    exact .plain (by rintro ⟨_, _, _, _, _, same, _⟩; cases same) (.plain last .nil)
  | case4 b c rest hi lo low high ih =>
    exact .escape (digit?_eq_some_iff.mp high) (digit?_eq_some_iff.mp low) ih
  | case5 b c rest undigit ih =>
    refine .plain ?_ ih
    rintro ⟨_, _, _, hi, lo, same, high, low⟩
    cases same
    exact undigit hi lo (digit?_eq_some_iff.mpr high) (digit?_eq_some_iff.mpr low)
  | case6 a b c rest other ih =>
    refine .plain ?_ ih
    rintro ⟨_, _, _, _, _, same, _⟩
    cases same
    exact other rfl

/-- Decoding keeps to the rules, and there is no other way to keep to them. -/
theorem decodes_iff : Decodes encoded octets ↔ decode encoded = octets := by
  constructor
  · intro decodes
    induction decodes with
    | nil => rfl
    | escape high low later ih => rw [decode_escape high low, ih]
    | plain unescaped later ih => rw [decode_plain unescaped, ih]
  · rintro rfl
    exact decodes_decode encoded

end Percent

/-! ## Strings in JSON -/

namespace Json

/-- What may stand behind a backslash, and the character that is meant. -/
def shortEscapes : List (Char × Char) :=
  [('"', '"'), ('\\', '\\'), ('/', '/'), ('b', '\x08'), ('f', '\x0c'), ('n', '\n'), ('r', '\r'),
    ('t', '\t')]

/-- The text that the letters between the quotes of a JSON string spell.  Characters above U+FFFF
    stand for themselves here; the pairs of codes that JSON has for them are left out. -/
inductive Spells : List Char → List Char → Prop where
  | nil : Spells [] []
  | plain {c : Char} {letters text : List Char} (unquoted : c ≠ '"') (unescaped : c ≠ '\\')
    (printed : 0x20 ≤ c.toNat) (later : Spells letters text) : Spells (c :: letters) (c :: text)
  | short {e c : Char} {letters text : List Char} (known : (e, c) ∈ shortEscapes)
    (later : Spells letters text) : Spells ('\\' :: e :: letters) (c :: text)
  | code {c₁ c₂ c₃ c₄ : Char} {n₁ n₂ n₃ n₄ : Nat} {letters text : List Char}
    (first : HexDigit c₁ n₁) (second : HexDigit c₂ n₂) (third : HexDigit c₃ n₃)
    (fourth : HexDigit c₄ n₄) (single : (n₁ * 4096 + n₂ * 256 + n₃ * 16 + n₄).isValidChar)
    (later : Spells letters text) :
    Spells ('\\' :: 'u' :: c₁ :: c₂ :: c₃ :: c₄ :: letters)
      (Char.ofNat (n₁ * 4096 + n₂ * 256 + n₃ * 16 + n₄) :: text)

variable {letters text text' : List Char}

/-- An escape of two letters is not the start of a code. -/
theorem ne_of_mem_shortEscapes {e c : Char} (known : (e, c) ∈ shortEscapes) : e ≠ 'u' := by
  have others : ∀ p ∈ shortEscapes, p.1 ≠ 'u' := by decide
  exact others _ known

/-- A JSON string spells one text. -/
theorem Spells.unique (spells : Spells letters text) (spells' : Spells letters text') :
    text = text' := by
  induction spells generalizing text' with
  | nil =>
    cases spells'
    rfl
  | plain unquoted unescaped printed later ih =>
    cases spells' with
    | plain _ _ _ later' => rw [ih later']
    | short => exact absurd rfl unescaped
    | code => exact absurd rfl unescaped
  | short known later ih =>
    cases spells' with
    | plain _ unescaped => exact absurd rfl unescaped
    | short known' later' =>
      have meant : ∀ p ∈ shortEscapes, ∀ p' ∈ shortEscapes, p.1 = p'.1 → p.2 = p'.2 := by decide
      rw [ih later']
      exact congrArg (· :: _) (meant _ known _ known' rfl)
    | code => exact absurd rfl (ne_of_mem_shortEscapes known)
  | code first second third fourth single later ih =>
    cases spells' with
    | plain _ unescaped => exact absurd rfl unescaped
    | short known' => exact absurd rfl (ne_of_mem_shortEscapes known')
    | code first' second' third' fourth' _ later' =>
      rw [first.unique first', second.unique second', third.unique third', fourth.unique fourth',
        ih later']

/-- The first quote behind a JSON string is the one that ends it. -/
theorem Spells.append_quote_inj {letters' rest rest' : List Char} (spells : Spells letters text)
    (spells' : Spells letters' text')
    (same : letters ++ '"' :: rest = letters' ++ '"' :: rest') : letters = letters' ∧ rest = rest' := by
  induction spells generalizing letters' text' with
  | nil =>
    cases spells' with
    | nil => exact ⟨rfl, (List.cons.inj same).2⟩
    | plain unquoted => exact absurd (List.cons.inj same).1.symm unquoted
    | short | code => cases (List.cons.inj same).1
  | plain unquoted unescaped printed later ih =>
    cases spells' with
    | nil => exact absurd (List.cons.inj same).1 unquoted
    | plain _ _ _ later' =>
      obtain ⟨front, rfl⟩ := ih later' (List.cons.inj same).2
      exact ⟨by rw [(List.cons.inj same).1, front], rfl⟩
    | short | code => exact absurd (List.cons.inj same).1 unescaped
  | short known later ih =>
    cases spells' with
    | nil => cases (List.cons.inj same).1
    | plain _ unescaped => exact absurd (List.cons.inj same).1.symm unescaped
    | short known' later' =>
      simp only [List.cons_append, List.cons.injEq, true_and] at same
      obtain ⟨rfl, rfl⟩ := ih later' same.2
      exact ⟨by rw [same.1], rfl⟩
    | code =>
      simp only [List.cons_append, List.cons.injEq, true_and] at same
      exact absurd same.1 (ne_of_mem_shortEscapes known)
  | code first second third fourth single later ih =>
    cases spells' with
    | nil => cases (List.cons.inj same).1
    | plain _ unescaped => exact absurd (List.cons.inj same).1.symm unescaped
    | short known' =>
      simp only [List.cons_append, List.cons.injEq, true_and] at same
      exact absurd same.1.symm (ne_of_mem_shortEscapes known')
    | code _ _ _ _ _ later' =>
      simp only [List.cons_append, List.cons.injEq, true_and] at same
      obtain ⟨rfl, rfl, rfl, rfl, same⟩ := same
      obtain ⟨rfl, rfl⟩ := ih later' same
      exact ⟨rfl, rfl⟩

/-- An escaped character spells itself. -/
theorem Spells.escapeChar (c : Char) (later : Spells letters text) :
    Spells (Json.escapeChar c ++ letters) (c :: text) := by
  rw [Json.escapeChar]
  iterate 7
    split
    · rename_i same
      rw [same]
      exact .short (by decide) later
  split
  · -- A control is written with its code, of which the first two digits are zeros.
    rename_i control
    have digits : ∀ n < 0x20, hexPadded 4 n = ['0', '0', (n / 16).digitChar, (n % 16).digitChar] := by
      decide
    have value : 0 * 4096 + 0 * 256 + c.toNat / 16 * 16 + c.toNat % 16 = c.toNat := by omega
    rw [digits _ control]
    have spelled := Spells.code (hexDigit_digitChar (Nat.zero_lt_succ 15))
      (hexDigit_digitChar (Nat.zero_lt_succ 15)) (hexDigit_digitChar (by omega : c.toNat / 16 < 16))
      (hexDigit_digitChar (Nat.mod_lt c.toNat (Nat.zero_lt_succ 15))) (value.symm ▸ c.valid) later
    rwa [value, Char.ofNat_toNat] at spelled
  · rename_i printed
    exact .plain ‹_› ‹_› (Nat.le_of_not_lt printed) later

theorem spells_escaped (text : List Char) : Spells (text.flatMap Json.escapeChar) text := by
  induction text with
  | nil => exact .nil
  | cons c text ih => exact .escapeChar c ih

end Json

end BlobDepot.Text
