import BlobDepot.Proofs.FileTree.Walk
import BlobDepot.Proofs.Settings.Numerals
import BlobDepot.Proofs.Text.Encodings
import BlobDepot.Settings

/-! # What the variables say

Each setting has a variable.  Four of them are numbers, which are read in a fixed order; two are
texts, which are taken as they are.  The settings that are read give every number as its own
variable is read, and every text as its variable has it (`read_eq_ok_iff`); if they cannot be
read, then for the first number that cannot (`read_eq_error_iff`).

A variable that is set to a text is never overlooked: its setting follows it, or it is the
reason why nothing is read.  One that is set to bytes which are no text is overlooked, as if it
were not set (`set_variable_decides`).

Numbers are read exactly.  Whether all can be read, what each of them is then and which is the
first to blame follow from the texts of the variables alone, and a number that is written out
is read back (`numbers_read_exactly`).
-/

namespace BlobDepot

/-! ## Variables and their texts -/

variable {env : Environment} {raw : String}

theorem Environment.text?_eq_some_iff {name : String} :
    env.text? name = some raw ↔ env.lookup name = some raw.toUTF8 := by
  rw [Environment.text?, Option.bind_eq_some_iff]
  simp [Text.fromUTF8?_eq_some_iff]

/-- A variable that is set has a text exactly if its bytes are one. -/
theorem Environment.isValidUTF8_iff {name : String} {bytes : ByteArray} (given : env.lookup name = some bytes) :
    bytes.IsValidUTF8 ↔ ∃ raw : String, env.text? name = some raw ∧ bytes = raw.toUTF8 := by
  constructor
  · intro legible
    exact ⟨String.fromUTF8 bytes legible, text?_eq_some_iff.mpr given, rfl⟩
  · rintro ⟨raw, -, rfl⟩
    exact raw.isValidUTF8

namespace Settings

open Decimal

/-- The settings that are numbers. -/
inductive Count where
  | entryLimit
  | byteLimit
  | uploadLimit
  | port
  deriving DecidableEq, Repr

/-- The settings that are texts. -/
inductive Label where
  | directory
  | keyPrefix
  deriving DecidableEq, Repr

def count (s : Settings) : Count → Nat
  | .entryLimit => s.entryLimit
  | .byteLimit => s.byteLimit
  | .uploadLimit => s.uploadLimit
  | .port => s.port

def label (s : Settings) : Label → String
  | .directory => s.directory
  | .keyPrefix => s.keyPrefix

def Count.name : Count → String
  | .entryLimit => "CACHE_MAX_ENTRIES"
  | .byteLimit => "CACHE_MEMORY"
  | .uploadLimit => "MAX_BLOB_SIZE"
  | .port => "SERVER_PORT"

/-- Numbers of a setting are below this bound. -/
def Count.bound : Count → Nat
  | .entryLimit | .byteLimit | .uploadLimit => countBound
  | .port => portBound

def Label.name : Label → String
  | .directory => "STORAGE_DIR"
  | .keyPrefix => "STORAGE_PREFIX"

/-- The order in which numbers are read. -/
def Count.order : List Count := [.entryLimit, .byteLimit, .uploadLimit, .port]

/-- The numbers that are read before a given one. -/
def Count.before (k : Count) : List Count :=
  order.takeWhile (· ≠ k)

/-- What an environment says of a number. -/
def Count.read (env : Environment) (k : Count) : Except Defect Nat :=
  readNumber env k.name k.bound (count {} k)

/-- A setting, by the kind of its variable. -/
inductive Variable where
  | count (k : Count)
  | label (l : Label)
  deriving DecidableEq, Repr

def Variable.name : Variable → String
  | .count k => k.name
  | .label l => l.name

/-- A setting is as if its variable were not set. -/
def AtDefault (s : Settings) : Variable → Prop
  | .count k => s.count k = count {} k
  | .label l => s.label l = label {} l

/-- A setting is what the bytes of its variable say: the number that they write, in its range,
    or the text that they are. -/
def Follows (s : Settings) : Variable → ByteArray → Prop
  | .count k, bytes => ∃ raw : String, bytes = raw.toUTF8 ∧ Writes raw (s.count k) ∧ s.count k < k.bound
  | .label l, bytes => bytes = (s.label l).toUTF8

variable {s : Settings} {v : Variable} {k : Count} {d : Defect} {n : Nat}

/-! ## One number -/

theorem Count.read_eq_ok_iff : k.read env = .ok n ↔
    (env.text? k.name = none ∧ count {} k = n) ∨
      ∃ raw, env.text? k.name = some raw ∧ Writes raw n ∧ n < k.bound := by
  rw [Count.read, readNumber]
  cases env.text? k.name with
  | none => simp
  | some raw =>
    simp only [reduceCtorEq, false_and, false_or, Option.some.injEq, exists_eq_left',
      ← numeralBelow?_trimBlanks]
    cases numeralBelow? k.bound (Text.trimBlanks raw.toList) <;> simp

theorem Count.read_eq_error_iff : k.read env = .error d ↔
    ∃ raw, env.text? k.name = some raw ∧ (∀ n < k.bound, ¬ Writes raw n) ∧
      d = .unreadable k.name raw := by
  rw [Count.read, readNumber]
  cases env.text? k.name with
  | none => simp
  | some raw =>
    simp only [Option.some.injEq, exists_eq_left']
    cases read : numeralBelow? k.bound (Text.trimBlanks raw.toList) with
    | none =>
      have nothing : ∀ n < k.bound, ¬ Writes raw n := by
        intro n below writes
        have found := numeralBelow?_trimBlanks.mpr ⟨writes, below⟩
        rw [read] at found
        cases found
      simp only [Except.error.injEq, eq_comm, and_iff_right nothing]
    | some n =>
      obtain ⟨writes, below⟩ := numeralBelow?_trimBlanks.mp read
      constructor
      · intro failed
        cases failed
      · rintro ⟨nothing, -⟩
        exact absurd writes (nothing n below)

/-! ## All settings -/

theorem read_eq (env : Environment) : read env = (do
    let entryLimit ← Count.entryLimit.read env
    let byteLimit ← Count.byteLimit.read env
    let uploadLimit ← Count.uploadLimit.read env
    let port ← Count.port.read env
    return {
      entryLimit, byteLimit, uploadLimit, port
      directory := (env.text? Label.directory.name).getD (label {} .directory)
      keyPrefix := (env.text? Label.keyPrefix.name).getD (label {} .keyPrefix) }) := rfl

/-- Every setting is read off its own variable. -/
theorem read_eq_ok_iff : read env = .ok s ↔
    (∀ k : Count, k.read env = .ok (s.count k)) ∧
      ∀ l : Label, (env.text? l.name).getD (label {} l) = s.label l := by
  rw [read_eq]
  simp only [bind_eq_ok_iff]
  constructor
  · rintro ⟨_, entryLimit, _, byteLimit, _, uploadLimit, _, port, made⟩
    cases made
    constructor
    · intro k
      cases k <;> assumption
    · intro l
      cases l <;> rfl
  · rintro ⟨counts, labels⟩
    refine ⟨_, counts .entryLimit, _, counts .byteLimit, _, counts .uploadLimit, _, counts .port, ?_⟩
    rw [labels .directory, labels .keyPrefix]
    rfl

/-- Nothing is read exactly if some number cannot be, and the first such number tells why. -/
theorem read_eq_error_iff : read env = .error d ↔
    ∃ k : Count, (∀ j ∈ k.before, ∃ n, j.read env = .ok n) ∧ k.read env = .error d := by
  rw [read_eq]
  simp only [bind_eq_error_iff]
  constructor
  · rintro (first | ⟨a, entryLimit, second | ⟨b, byteLimit, third | ⟨c, uploadLimit, fourth | ⟨_, _, made⟩⟩⟩⟩)
    · exact ⟨.entryLimit, by simp [Count.before, Count.order], first⟩
    · exact ⟨.byteLimit, by simp [Count.before, Count.order, entryLimit], second⟩
    · exact ⟨.uploadLimit, by simp [Count.before, Count.order, entryLimit, byteLimit], third⟩
    · exact ⟨.port, by simp [Count.before, Count.order, entryLimit, byteLimit, uploadLimit], fourth⟩
    · cases made
  · rintro ⟨k, fine, failed⟩
    -- Each number that is read before the faulty one is passed on the way to it.
    cases k with
    | entryLimit => exact .inl failed
    | byteLimit =>
      obtain ⟨a, first⟩ := fine .entryLimit (by decide)
      exact .inr ⟨a, first, .inl failed⟩
    | uploadLimit =>
      obtain ⟨a, first⟩ := fine .entryLimit (by decide)
      obtain ⟨b, second⟩ := fine .byteLimit (by decide)
      exact .inr ⟨a, first, .inr ⟨b, second, .inl failed⟩⟩
    | port =>
      obtain ⟨a, first⟩ := fine .entryLimit (by decide)
      obtain ⟨b, second⟩ := fine .byteLimit (by decide)
      obtain ⟨c, third⟩ := fine .uploadLimit (by decide)
      exact .inr ⟨a, first, .inr ⟨b, second, .inr ⟨c, third, .inl failed⟩⟩⟩

/-! ## Variables that are set -/

/-- Settings that are read follow the texts of their variables, and have their defaults where
    there are none. -/
theorem follows_or_atDefault (given : read env = .ok s) (v : Variable) :
    (env.text? v.name = none ∧ s.AtDefault v) ∨
      ∃ raw, env.text? v.name = some raw ∧ s.Follows v raw.toUTF8 := by
  obtain ⟨counts, labels⟩ := read_eq_ok_iff.mp given
  cases v with
  | count k =>
    obtain ⟨unset, default⟩ | ⟨raw, text, writes, below⟩ := Count.read_eq_ok_iff.mp (counts k)
    · exact .inl ⟨unset, default.symm⟩
    · exact .inr ⟨raw, text, raw, rfl, writes, below⟩
  | label l =>
    have given := labels l
    cases text : env.text? l.name with
    | none =>
      rw [text] at given
      exact .inl ⟨text, given.symm⟩
    | some raw =>
      rw [text] at given
      exact .inr ⟨raw, text, congrArg String.toUTF8 given⟩

/-- What is followed is a text. -/
theorem Follows.isValidUTF8 {bytes : ByteArray} (follows : s.Follows v bytes) : bytes.IsValidUTF8 := by
  cases v with
  | count k =>
    obtain ⟨raw, rfl, -⟩ := follows
    exact raw.isValidUTF8
  | label l =>
    cases follows
    exact (s.label l).isValidUTF8

/-- If settings are read, a variable that is not set leaves its setting at the default, and one
    that is set to a text determines it.  One that is set to bytes which are no text is
    overlooked: its setting stays at the default and does not follow the variable.  If they are
    not read, a variable is to blame that is set to a text which writes no number in range. -/
theorem set_variable_decides (env : Environment) :
    (∀ s, read env = .ok s → ∀ v : Variable,
      (env.lookup v.name = none → s.AtDefault v) ∧
      ∀ bytes, env.lookup v.name = some bytes →
        (bytes.IsValidUTF8 → s.Follows v bytes) ∧
        (¬ bytes.IsValidUTF8 → s.AtDefault v ∧ ¬ s.Follows v bytes)) ∧
      ∀ d, read env = .error d → ∃ (k : Count) (raw : String),
        env.lookup k.name = some raw.toUTF8 ∧ (∀ n < k.bound, ¬ Writes raw n) ∧
          d = .unreadable k.name raw ∧ d.fault.kind = .badSetup := by
  constructor
  · intro s given v
    obtain ⟨unset, default⟩ | ⟨raw, text, follows⟩ := follows_or_atDefault given v
    · refine ⟨fun _ => default, fun bytes set => ⟨fun legible => ?_, fun illegible => ?_⟩⟩
      · obtain ⟨raw, text, -⟩ := (Environment.isValidUTF8_iff set).mp legible
        rw [unset] at text
        cases text
      · exact ⟨default, fun follows => illegible follows.isValidUTF8⟩
    · have set := Environment.text?_eq_some_iff.mp text
      rw [set]
      refine ⟨nofun, fun bytes same => ?_⟩
      cases same
      exact ⟨fun _ => follows, fun illegible => absurd raw.isValidUTF8 illegible⟩
  · intro d failed
    obtain ⟨k, -, failed⟩ := read_eq_error_iff.mp failed
    obtain ⟨raw, text, nothing, rfl⟩ := Count.read_eq_error_iff.mp failed
    exact ⟨k, raw, Environment.text?_eq_some_iff.mp text, nothing, rfl, rfl⟩

/-- Of the variables that are set, two are followed and one is overlooked; the fourth is not set.
    In another environment a variable is to blame. -/
theorem set_variable_decides_of_three :
    let env : Environment := [("CACHE_MAX_ENTRIES", " +042 ".toUTF8), ("CACHE_MEMORY", ⟨#[0xff]⟩),
      ("STORAGE_PREFIX", "cards/".toUTF8)]
    let s : Settings := { entryLimit := 42, keyPrefix := "cards/" }
    let other : Environment := [("SERVER_PORT", "65536".toUTF8)]
    let d : Defect := .unreadable "SERVER_PORT" "65536"
    read env = .ok s ∧ s.Follows (.count .entryLimit) " +042 ".toUTF8 ∧
      s.Follows (.label .keyPrefix) "cards/".toUTF8 ∧
      (s.AtDefault (.count .byteLimit) ∧ ¬ s.Follows (.count .byteLimit) ⟨#[0xff]⟩) ∧
      s.AtDefault (.count .port) ∧
      read other = .error d ∧ ∃ (k : Count) (raw : String),
        other.lookup k.name = some raw.toUTF8 ∧ (∀ n < k.bound, ¬ Writes raw n) ∧
          d = .unreadable k.name raw ∧ d.fault.kind = .badSetup := by
  intro env s other d
  have given : read env = .ok s := by decide +kernel
  have failed : read other = .error d := by decide +kernel
  have main := (set_variable_decides env).1 s given
  refine ⟨given, ?_, ?_, ?_, ?_, failed, (set_variable_decides other).2 d failed⟩
  · exact ((main (.count .entryLimit)).2 _ (by decide +kernel)).1 (by decide +kernel)
  · exact ((main (.label .keyPrefix)).2 _ (by decide +kernel)).1 (by decide +kernel)
  · exact ((main (.count .byteLimit)).2 _ (by decide +kernel)).2 (by decide +kernel)
  · exact (main (.count .port)).1 (by decide +kernel)

/-- Bytes that are no text do not determine the number of their variable, and they are not
    refused either. -/
theorem illegible_bytes_overlooked :
    let env : Environment := [("CACHE_MEMORY", ⟨#[0xff]⟩)]
    read env = .ok {} ∧ env.lookup (Variable.count .byteLimit).name = some ⟨#[0xff]⟩ ∧
      ¬ Follows {} (.count .byteLimit) ⟨#[0xff]⟩ := by
  refine ⟨by decide +kernel, by decide +kernel, fun follows => ?_⟩
  have legible := follows.isValidUTF8
  revert legible
  decide +kernel

/-! ## Numbers -/

/-- A variable does not stand in the way of reading a number: it is not set to a text, or to one
    that writes a number in range. -/
def Count.Fits (env : Environment) (k : Count) : Prop :=
  ∀ raw : String, env.lookup k.name = some raw.toUTF8 → ∃ n < k.bound, Writes raw n

theorem Count.fits_iff : k.Fits env ↔ ∃ n, k.read env = .ok n := by
  constructor
  · intro fits
    cases given : k.read env with
    | ok n => exact ⟨n, rfl⟩
    | error d =>
      obtain ⟨raw, text, nothing, -⟩ := Count.read_eq_error_iff.mp given
      obtain ⟨n, below, writes⟩ := fits raw (Environment.text?_eq_some_iff.mp text)
      exact absurd writes (nothing n below)
  · rintro ⟨n, given⟩ raw set
    rw [← Environment.text?_eq_some_iff] at set
    obtain ⟨unset, -⟩ | ⟨raw', text, writes, below⟩ := Count.read_eq_ok_iff.mp given
    · rw [unset] at set
      cases set
    · rw [text] at set
      cases set
      exact ⟨n, below, writes⟩

theorem exists_read_iff : (∃ s, read env = .ok s) ↔ ∀ k : Count, k.Fits env := by
  constructor
  · rintro ⟨s, given⟩ k
    exact Count.fits_iff.mpr ⟨_, (read_eq_ok_iff.mp given).1 k⟩
  · intro fits
    cases given : read env with
    | ok s => exact ⟨s, rfl⟩
    | error d =>
      obtain ⟨k, -, failed⟩ := read_eq_error_iff.mp given
      obtain ⟨n, read⟩ := Count.fits_iff.mp (fits k)
      rw [failed] at read
      cases read

/-- An environment with a variable for each setting, every number printed between blanks. -/
def exported (s : Settings) (front back : List Char) : Environment :=
  let printed := fun k => String.ofList front ++ toString (s.count k) ++ String.ofList back
  Count.order.map (fun k => (k.name, (printed k).toUTF8)) ++
    [Label.directory, .keyPrefix].map fun l => (l.name, (s.label l).toUTF8)

theorem lookup_exported (s : Settings) (front back : List Char) :
    (∀ k : Count, (s.exported front back).lookup k.name =
      some (String.ofList front ++ toString (s.count k) ++ String.ofList back).toUTF8) ∧
      ∀ l : Label, (s.exported front back).lookup l.name = some (s.label l).toUTF8 := by
  constructor
  · intro k
    cases k <;> simp [exported, Count.order, Count.name, List.lookup_cons]
  · intro l
    cases l <;> simp [exported, Count.order, Count.name, Label.name, List.lookup_cons]

/-- Settings that are printed are read again. -/
theorem read_exported {front back : List Char} (front_blank : ∀ c ∈ front, Text.isBlank c = true)
    (back_blank : ∀ c ∈ back, Text.isBlank c = true) (bounded : ∀ k : Count, s.count k < k.bound) :
    read (s.exported front back) = .ok s := by
  obtain ⟨counts, labels⟩ := lookup_exported s front back
  refine read_eq_ok_iff.mpr ⟨fun k => ?_, fun l => ?_⟩
  · have text := Environment.text?_eq_some_iff.mpr (counts k)
    have writes := writes_toString (s.count k) front_blank back_blank
    exact Count.read_eq_ok_iff.mpr (.inr ⟨_, text, writes, bounded k⟩)
  · rw [Environment.text?_eq_some_iff.mpr (labels l)]
    rfl

/-- Settings are read exactly if every number that is given as a text is written by it and in
    range, and then each is the number that its text writes, or its default.  Otherwise the
    defect names the first number that is not.  So numbers that are printed, with blanks around
    them, are read again. -/
theorem numbers_read_exactly (env : Environment) :
    ((∃ s, read env = .ok s) ↔ ∀ k : Count, k.Fits env) ∧
      (∀ s, read env = .ok s → ∀ k : Count,
        (env.lookup k.name = none → s.count k = count {} k) ∧
        ∀ raw : String, env.lookup k.name = some raw.toUTF8 → ∀ n, Writes raw n ↔ s.count k = n) ∧
      (∀ d, read env = .error d ↔ ∃ (k : Count) (raw : String),
        (∀ j ∈ k.before, j.Fits env) ∧ env.lookup k.name = some raw.toUTF8 ∧
          (∀ n < k.bound, ¬ Writes raw n) ∧ d = .unreadable k.name raw ∧
          d.fault = ⟨.badSetup, k.name ++ " has an invalid value: " ++ Text.quoted raw⟩) ∧
      ∀ (s : Settings) (front back : List Char), (∀ k : Count, s.count k < k.bound) →
        (∀ c ∈ front, Text.isBlank c = true) → (∀ c ∈ back, Text.isBlank c = true) →
          read (s.exported front back) = .ok s := by
  refine ⟨exists_read_iff, fun s given k => ?_, fun d => ?_, fun s front back bounded first last => ?_⟩
  · -- A setting is read off its own variable alone, whatever the others say.
    obtain ⟨unset, default⟩ | ⟨raw, text, writes, -⟩ :=
      Count.read_eq_ok_iff.mp ((read_eq_ok_iff.mp given).1 k)
    · refine ⟨fun _ => default.symm, fun raw set => ?_⟩
      rw [Environment.text?_eq_some_iff.mpr set] at unset
      cases unset
    · have given := Environment.text?_eq_some_iff.mp text
      refine ⟨fun unset => ?_, fun raw' set n => ?_⟩
      · rw [given] at unset
        cases unset
      · rw [Environment.text?_eq_some_iff.mpr set, Option.some.injEq] at text
        subst text
        constructor
        · intro writes'
          exact writes.unique writes'
        · rintro rfl
          exact writes
  · rw [read_eq_error_iff]
    refine exists_congr fun k => ?_
    simp only [← Count.fits_iff, Count.read_eq_error_iff, ← Environment.text?_eq_some_iff]
    constructor
    · rintro ⟨fine, raw, text, nothing, rfl⟩
      exact ⟨raw, fine, text, nothing, rfl, rfl⟩
    · rintro ⟨raw, fine, text, nothing, rfl, -⟩
      exact ⟨fine, raw, text, nothing, rfl⟩
  · exact read_exported first last bounded

/-- Two variables are at fault, and the one that is read first is named.  Once they are put right,
    leading zeros and blanks do not matter, and what is printed is read again. -/
theorem numbers_read_exactly_of_two_faults :
    let env : Environment := [("SERVER_PORT", "3 000".toUTF8),
      ("CACHE_MEMORY", "18446744073709551616".toUTF8), ("CACHE_MAX_ENTRIES", "7".toUTF8)]
    let d : Defect := .unreadable "CACHE_MEMORY" "18446744073709551616"
    let mended : Environment := [("SERVER_PORT", "\t0003000\n".toUTF8)]
    let s : Settings := { byteLimit := 18446744073709551615, port := 65535 }
    (read env = .error d ∧ ¬ ∀ k : Count, k.Fits env) ∧
      (read mended = .ok {} ∧ (Writes "\t0003000\n" 3000 ↔ count {} .port = 3000)) ∧
      (∀ k : Count, s.count k < k.bound) ∧ read (s.exported [' '] ['\n']) = .ok s := by
  intro env d mended s
  have failed : read env = .error d := by decide +kernel
  have given : read mended = .ok {} := by decide +kernel
  have bounded : ∀ k : Count, s.count k < k.bound := by
    intro k
    cases k <;> decide
  refine ⟨⟨failed, fun fits => ?_⟩, ⟨given, ?_⟩, bounded, ?_⟩
  · obtain ⟨s, given⟩ := (numbers_read_exactly env).1.mpr fits
    rw [failed] at given
    cases given
  · exact ((numbers_read_exactly mended).2.1 {} given .port).2 _ (by decide +kernel) 3000
  · exact (numbers_read_exactly env).2.2.2 s [' '] ['\n'] bounded
      (List.forall_mem_singleton.mpr (by decide)) (List.forall_mem_singleton.mpr (by decide))

end Settings

end BlobDepot
