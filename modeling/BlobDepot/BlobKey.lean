import BlobDepot.Fault

/-! # Blob keys

A key names a blob and is at the same time the relative path of its file.  Keys
are segments between slashes.  No segment is empty or starts with a dot, which
rules `.` and `..` out and keeps dotted names free for uploads in progress.
-/

namespace BlobDepot.BlobKey

/-- The longest key in bytes, a prefix put in front of it included. -/
def maxBytes : Nat := 256

/-- Why a text is no key. -/
inductive Defect where
  | empty
  | tooLong
  | forbiddenCharacter
  | badSegment (key : String)
  deriving DecidableEq, Repr

def Defect.detail : Defect → String
  | .empty => "Key cannot be empty"
  | .tooLong => "Key exceeds maximum length of " ++ toString maxBytes ++ " bytes"
  | .forbiddenCharacter => "Key contains a forbidden character"
  | .badSegment key => "Key '" ++ key ++ "' has an empty or dot-prefixed segment"

def Defect.fault (d : Defect) : Fault :=
  ⟨.badRequest, d.detail⟩

def segments (key : String) : List (List Char) :=
  key.toList.splitOn '/'

def isBadSegment (segment : List Char) : Bool :=
  segment.isEmpty || segment.head? == some '.'

def isForbidden (c : Char) : Bool :=
  c == '\\' || c == '\x00'

/-- The first defect of a text, in the order in which they are looked for. -/
def defect? (key : String) : Option Defect :=
  if key.isEmpty then some .empty
  else if maxBytes < key.utf8ByteSize then some .tooLong
  else if key.toList.any isForbidden then some .forbiddenCharacter
  else if (segments key).any isBadSegment then some (.badSegment key)
  else none

/-- Accepts a text as a key or says what is wrong with it. -/
def check (key : String) : Except Fault Unit :=
  match defect? key with
  | none => .ok ()
  | some d => .error d.fault

/-- A text that is a key. -/
def Valid (key : String) : Prop :=
  defect? key = none

instance (key : String) : Decidable (Valid key) :=
  inferInstanceAs (Decidable (defect? key = none))

theorem valid_iff {key : String} :
    Valid key ↔ key.isEmpty = false ∧ key.utf8ByteSize ≤ maxBytes ∧
      key.toList.any isForbidden = false ∧ (segments key).any isBadSegment = false := by
  unfold Valid defect?
  by_cases hempty : key.isEmpty <;> by_cases hsize : maxBytes < key.utf8ByteSize <;>
    by_cases hchar : key.toList.any isForbidden <;>
    by_cases hseg : (segments key).any isBadSegment <;>
    simp only [hempty, hsize, hchar, hseg, if_true, if_false] <;> grind

theorem check_eq_ok_iff {key : String} : check key = .ok () ↔ Valid key := by
  unfold check Valid
  cases defect? key <;> simp

theorem exists_defect_of_check_error {key : String} {f : Fault} (refused : check key = .error f) :
    ∃ d : Defect, f = d.fault := by
  rw [check] at refused
  split at refused
  · cases refused
  · rename_i d _
    cases refused
    exact ⟨d, rfl⟩

end BlobDepot.BlobKey
