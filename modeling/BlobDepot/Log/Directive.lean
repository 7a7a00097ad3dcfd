import BlobDepot.Decimal.Numeral
import BlobDepot.Log.Event
import BlobDepot.Log.Pattern

/-! # Log directives

One part of a filter: what it is about, and how much of that is shown.

* A level alone is about everything.
* A target is about the events whose target begins with it.
* Brackets name a span, in which the events would have to lie, or in braces a field
  that they must have, if need be with a pattern for its value.

The last two may come with a level behind an equals sign; without one everything
they are about is shown.
-/

namespace BlobDepot.Log

/-- The gravest levels, up to a rank: zero is none of them, five is all. -/
abbrev Verbosity := Nat

/-- A level, or `off`, by its number or by its name in any case. -/
def verbosity? (cs : List Char) : Option Verbosity :=
  match Decimal.numeral? cs with
  | some n => if n ≤ 5 then some n else none
  | none =>
    match (String.ofList cs).toLower with
    | "off" => some 0
    | "error" => some 1
    | "warn" => some 2
    | "info" => some 3
    | "debug" => some 4
    | "trace" => some 5
    | _ => none

/-! ## Pieces of a text -/

/-- The number of octets that characters take. -/
def octets (cs : List Char) : Nat :=
  (cs.map Char.utf8Size).foldr (· + ·) 0

/-- The characters in the first `n` octets, and the rest; none if there are not so
    many octets or a character lies across the end. -/
def cut? : (n : Nat) → List Char → Option (List Char × List Char)
  | 0, cs => some ([], cs)
  | _ + 1, [] => none
  | n + 1, c :: cs =>
    if c.utf8Size ≤ n + 1 then
      (cut? (n + 1 - c.utf8Size) cs).map fun (taken, rest) => (c :: taken, rest)
    else none

/-- The characters from one position in octets to another. -/
def piece? (cs : List Char) (start stop : Nat) : Option (List Char) := do
  let (_, rest) ← cut? start cs
  let (piece, _) ← cut? (stop - start) rest
  some piece

/-! ## Directives -/

/-- A field that an event must have, and whether its value is to be compared. -/
structure FieldTest where
  name : String
  hasPattern : Bool
  deriving DecidableEq, Repr

/-- Reads a field and the pattern behind an equals sign, which ends at the next one. -/
def FieldTest.parse? (cs : List Char) : Option FieldTest :=
  if cs.isEmpty then none
  else
    let name := String.ofList (cs.takeWhile (· != '='))
    match cs.dropWhile (· != '=') with
    | [] => some ⟨name, false⟩
    | _ :: pattern =>
      if Pattern.isValue (pattern.takeWhile (· != '=')) then some ⟨name, true⟩ else none

/-- One part of a filter: the target of what it is about, empty for any, the span and
    the field that are asked for, and how much is shown. -/
structure Directive where
  target : List Char
  span? : Option (List Char) := none
  field? : Option FieldTest := none
  verbosity : Verbosity := 5
  deriving DecidableEq, Repr

namespace Directive

/-- A character with which a target can begin. -/
def canStart (c : Char) : Bool :=
  "-:_".toList.contains c || Text.isAlphanumeric c

/-- Reads the level that may follow at a position, where `rest` is still to come. -/
def withLevel? (d : Directive) (raw : List Char) (position : Nat) (rest : List Char) :
    Option Directive :=
  match rest with
  | [] => some d
  | '=' :: _ => do
    let (_, level) ← cut? (position + 1) raw
    if level.isEmpty then some d
    else (verbosity? level).map ({ d with verbosity := · })
  | _ => none

/-- Reads what stands behind the opening bracket at a position. -/
def withSpan? (target raw : List Char) (position : Nat) (rest : List Char) :
    Option Directive := do
  let endsName := fun (c : Char) => c == ']' || c == '\x7b'
  let start := position + 1
  let stop := start + octets (rest.takeWhile (!endsName ·))
  let span ← piece? raw start stop
  match rest.dropWhile (!endsName ·) with
  | ']' :: rest => withLevel? { target, span? := some span } raw (stop + 1) rest
  | _ :: rest =>
    let start := stop + 1
    let stop := start + octets (rest.takeWhile (· != '\x7d'))
    let field ← FieldTest.parse? (← piece? raw start stop)
    let span? := if span.isEmpty then none else some span
    match rest.dropWhile (· != '\x7d') with
    | _ :: ']' :: rest => withLevel? { target, span?, field? := some field } raw (stop + 2) rest
    | _ => none
  | [] => none

/-- Reads a directive.  Blanks at its ends do not count when its signs are looked for,
    but the pieces between them are cut out of the text as it stands, at the positions
    that the signs have without the blanks. -/
def parse? (raw : List Char) : Option Directive :=
  let endsTarget := fun (c : Char) => c == '=' || c == '['
  match Text.trimBlanks raw with
  | [] => none
  | '[' :: rest => withSpan? [] raw 0 rest
  | c :: cs =>
    if !canStart c then none
    else
      let stop := octets ((c :: cs).takeWhile (!endsTarget ·))
      match (c :: cs).dropWhile (!endsTarget ·) with
      | [] =>
        match verbosity? raw with
        | some verbosity => some { target := [], verbosity }
        | none => some { target := raw }
      | sign :: rest => do
        let target ← piece? raw 0 stop
        if sign = '=' then withLevel? { target } raw stop (sign :: rest)
        else withSpan? target raw stop rest

/-- A directive is about an event: the target fits, no span is asked for, and the
    event has the field if one is asked for.  The value of a field is only compared in
    spans. -/
def isAbout (d : Directive) (e : Event) : Bool :=
  d.span?.isNone && d.target.isPrefixOf e.target.toList &&
    d.field?.all fun f => !f.hasPattern && e.fieldNames.contains f.name

/-- The second directive is at least as particular as the first: by its target, then
    by asking for a field, then by the name of the field. -/
def yieldsTo (b d : Directive) : Bool :=
  if b.target.length = d.target.length then
    match b.field?, d.field? with
    | none, _ => true
    | some _, none => false
    | some f, some g => f.name ≤ g.name
  else b.target.length < d.target.length

end Directive

end BlobDepot.Log
