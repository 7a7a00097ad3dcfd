import BlobDepot.Text.Hex

/-! # Log events

Something that the program tells about its work: how grave it is, which part of
the program it comes from, a message, and named values behind it.  It is shown
plain, or with colours for a terminal.  A message cannot steer the terminal that
shows it: the controls that could are written out.
-/

namespace BlobDepot.Log

inductive Level where
  | error
  | warn
  | info
  | debug
  | trace
  deriving DecidableEq, Repr

/-- The position of a level, from the gravest on. -/
def Level.rank : Level → Nat
  | .error => 1
  | .warn => 2
  | .info => 3
  | .debug => 4
  | .trace => 5

def Level.name : Level → String
  | .error => "ERROR"
  | .warn => "WARN"
  | .info => "INFO"
  | .debug => "DEBUG"
  | .trace => "TRACE"

structure Event where
  level : Level
  target : String
  message : String
  fields : List (String × String) := []
  deriving DecidableEq, Repr

/-- The names of all that an event tells, its message among them. -/
def Event.fieldNames (e : Event) : List String :=
  "message" :: e.fields.map (·.1)

/-- How a character of a message is shown: as itself, unless a terminal could take
    it for a command. -/
def showChar (c : Char) : List Char :=
  let n := c.toNat
  if [0x07, 0x08, 0x0C, 0x1B, 0x7F].contains n then ['\\', 'x'] ++ Text.hexPadded 2 n
  else if 0x80 ≤ n ∧ n ≤ 0x9F then ['\\', 'u', '\x7b'] ++ Text.hexDigits n ++ ['\x7d']
  else [c]

inductive Style where
  | plain
  | coloured
  deriving DecidableEq, Repr

/-- The rendition by which a terminal shows a level in its colour. -/
def Level.rendition : Level → Nat
  | .error => 31
  | .warn => 33
  | .info => 32
  | .debug => 34
  | .trace => 35

/-- The name of a level, set right in a column of five characters. -/
def Level.column (l : Level) : String :=
  String.ofList (List.replicate (5 - l.name.length) ' ') ++ l.name

namespace Style

/-- The rendition of what should not catch the eye. -/
def dimmed : Nat := 2

/-- The rendition of names. -/
def slanted : Nat := 3

/-- A text in a rendition of the terminal, which is taken back behind it. -/
def paint (s : Style) (rendition : Nat) (text : String) : String :=
  match s with
  | .plain => text
  | .coloured => "\x1b[" ++ toString rendition ++ "m" ++ text ++ "\x1b[0m"

end Style

/-- The text of an event behind the stamp of its moment.  It may run over several
    lines. -/
def Event.text (s : Style) (stamp : String) (e : Event) : String :=
  let message := String.ofList (e.message.toList.flatMap showChar)
  let fields := e.fields.map fun (name, value) =>
    " " ++ s.paint Style.slanted name ++ s.paint Style.dimmed "=" ++ value
  s.paint Style.dimmed stamp ++ " " ++ s.paint e.level.rendition e.level.column ++ " " ++
    s.paint Style.dimmed e.target ++ s.paint Style.dimmed ":" ++ " " ++
    message ++ String.join fields

def Event.lines (s : Style) (stamp : String) (e : Event) : List String :=
  ((e.text s stamp).toList.splitOn '\n').map String.ofList

end BlobDepot.Log
