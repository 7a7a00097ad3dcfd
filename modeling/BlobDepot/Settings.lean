import BlobDepot.Decimal.Numeral
import BlobDepot.Fault
import BlobDepot.Text.Blank
import BlobDepot.Text.Quoted

/-! # Settings

What the environment says about the depot.  Six variables are read, each with a
default for when it is not set.  A variable whose bytes are no text counts as not
set; a number that cannot be read, or does not fit its range, is a fault.
-/

namespace BlobDepot

/-- The variables of an environment with their bytes. -/
abbrev Environment := List (String × ByteArray)

/-- The text of a variable, if it is set to a text. -/
def Environment.text? (env : Environment) (name : String) : Option String :=
  (env.lookup name).bind String.fromUTF8?

/-- How a depot is to be set up. -/
structure Settings where
  /-- The most blobs that may be cached. -/
  entryLimit : Nat := 100
  /-- The most bytes that may be cached. -/
  byteLimit : Nat := 5242880
  /-- The directory of the blobs. -/
  directory : String := "./data"
  /-- What is put in front of every key. -/
  keyPrefix : String := ""
  /-- The largest upload, in bytes. -/
  uploadLimit : Nat := 10485760
  /-- The port that the server listens on. -/
  port : Nat := 3000
  deriving DecidableEq, Repr

namespace Settings

inductive Defect where
  | unreadable (name raw : String)
  | zero (name : String)
  deriving DecidableEq, Repr

def Defect.detail : Defect → String
  | .unreadable name raw => name ++ " has an invalid value: " ++ Text.quoted raw
  | .zero name => name ++ " must be greater than 0"

def Defect.fault (d : Defect) : Fault :=
  ⟨.badSetup, d.detail⟩

/-- The counts of the settings are below this bound. -/
def countBound : Nat := Nat.pow 2 64

/-- Ports are below this bound. -/
def portBound : Nat := Nat.pow 2 16

/-- The number in a variable, blanks around it aside, or `default` if the variable
    is not set. -/
def readNumber (env : Environment) (name : String) (bound default : Nat) :
    Except Defect Nat :=
  match env.text? name with
  | none => .ok default
  | some raw =>
    match Decimal.numeralBelow? bound (Text.trimBlanks raw.toList) with
    | some n => .ok n
    | none => .error (.unreadable name raw)

/-- Reads the settings from an environment; the first variable that cannot be read
    is the defect. -/
def read (env : Environment) : Except Defect Settings := do
  let defaults : Settings := {}
  let entryLimit ← readNumber env "CACHE_MAX_ENTRIES" countBound defaults.entryLimit
  let byteLimit ← readNumber env "CACHE_MEMORY" countBound defaults.byteLimit
  let directory := (env.text? "STORAGE_DIR").getD defaults.directory
  let keyPrefix := (env.text? "STORAGE_PREFIX").getD defaults.keyPrefix
  let uploadLimit ← readNumber env "MAX_BLOB_SIZE" countBound defaults.uploadLimit
  let port ← readNumber env "SERVER_PORT" portBound defaults.port
  return { entryLimit, byteLimit, directory, keyPrefix, uploadLimit, port }

/-- Settings with which no server could do its work, although each is readable. -/
def defect? (s : Settings) : Option Defect :=
  if s.entryLimit = 0 then some (.zero "CACHE_MAX_ENTRIES")
  else if s.uploadLimit = 0 then some (.zero "MAX_BLOB_SIZE")
  else none

/-- Reads the settings from an environment and refuses those that cannot work. -/
def load (env : Environment) : Except Defect Settings := do
  let settings ← read env
  match settings.defect? with
  | none => .ok settings
  | some d => .error d

end Settings

end BlobDepot
