import BlobDepot.Http.Message

/-! # Messages on a console

Requests and responses as a person types and reads them.  A request is one line:
method, target and, behind another space, the body.  A response is written as
HTTP writes it, with its body as it is.
-/

namespace BlobDepot.Http

/-- The text up to the first space, and the text behind it if there is one. -/
def splitAtSpace (cs : List Char) : List Char × Option (List Char) :=
  match cs.dropWhile (· != ' ') with
  | [] => (cs, none)
  | _ :: rest => (cs.takeWhile (· != ' '), some rest)

/-- The request that a line asks for. -/
def Request.ofLine? (line : String) : Option Request :=
  match splitAtSpace line.toList with
  | (_, none) => none
  | (method, some rest) =>
    let (target, body) := splitAtSpace rest
    let data := (String.ofList (body.getD [])).toUTF8
    Request.ofParts? (String.ofList method) (String.ofList target) [] (.whole data)

/-- A response as octets. -/
def Response.octets (r : Response) : ByteArray :=
  let fields := r.sortedFields.map fun (name, value) => name ++ ": " ++ value ++ "\r\n"
  ("HTTP/1.1 " ++ toString r.status ++ "\r\n" ++ String.join fields ++ "\r\n").toUTF8 ++ r.body

end BlobDepot.Http
