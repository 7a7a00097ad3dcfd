import BlobDepot.Fault
import BlobDepot.Http.Target
import BlobDepot.Http.Token
import BlobDepot.Http.Upload

/-! # Requests and responses

The messages of the service.  A request is only made from parts that HTTP allows;
of its header fields nothing is kept, since no answer depends on them.
-/

namespace BlobDepot.Http

/-- The methods that the service tells apart. -/
inductive Method where
  | get
  | head
  | put
  | options
  | other
  deriving DecidableEq, Repr

/-- The method that a token names; letters count in their case. -/
def Method.ofToken : String → Method
  | "GET" => .get
  | "HEAD" => .head
  | "PUT" => .put
  | "OPTIONS" => .options
  | _ => .other

structure Request where
  method : Method
  target : Target
  body : Upload

/-- The most names that the header fields of a message can have. -/
def maxFieldNames : Nat := 24576

/-- The number of different names, letters in either case. -/
def countNames (names : List String) : Nat :=
  ((names.map String.toLower).mergeSort fun a b => decide (a ≤ b)).eraseReps.length

/-- Header fields of these names can stand in one message.  Once there are as many
    names as there can be, no field can follow, not even one of a name that is there. -/
def fitTogether (names : List String) : Bool :=
  names.length ≤ maxFieldNames || countNames names.dropLast < maxFieldNames

/-- The request with the given parts, if HTTP allows each of them. -/
def Request.ofParts? (method target : String) (fields : List (String × ByteArray))
    (body : Upload) : Option Request :=
  if isToken method && fitTogether (fields.map (·.1)) &&
      fields.all fun (name, value) => isFieldName name && isFieldValue value then
    (Target.ofString? target).map (⟨.ofToken method, ·, body⟩)
  else none

/-- A response: its status, its header fields and its body. -/
structure Response where
  status : Nat
  fields : List (String × String) := []
  body : ByteArray := .empty

namespace Response

def json (status : Nat) (text : String) : Response :=
  ⟨status, [("content-type", "application/json")], text.toUTF8⟩

def text (status : Nat) (text : String) : Response :=
  ⟨status, [("content-type", "text/plain; charset=utf-8")], text.toUTF8⟩

def ofFault (f : Fault) : Response :=
  json f.status (Fault.errorJson f.message)

def field? (r : Response) (name : String) : Option String :=
  r.fields.lookup name

def withFields (r : Response) (fields : List (String × String)) : Response :=
  { r with fields := r.fields ++ fields }

/-- The response without its body, whose length stays told. -/
def withoutBody (r : Response) : Response :=
  { r with body := .empty }

def sortedFields (r : Response) : List (String × String) :=
  r.fields.mergeSort fun a b => decide (a.1 ≤ b.1)

end Response

end BlobDepot.Http
