/-! # Request targets

The target of a request is a path with an optional query, or an absolute address
whose scheme and authority are read over, or an authority alone, which has no
path.  A fragment is cut off.  Reading is tolerant about characters that should
have been percent-encoded and strict about the rest.
-/

namespace BlobDepot.Http

/-- The path of a target, still encoded, and its query. -/
structure Target where
  path : String
  query : String
  deriving DecidableEq, Repr

namespace Target

def maxBytes : Nat := 65534

def maxScheme : Nat := 64

def isPathChar (c : Char) : Bool :=
  let n := c.toNat
  n == 0x21 || n == 0x22 || (0x24 ≤ n && n ≤ 0x3B) || n == 0x3D || (0x40 ≤ n && n ≤ 0x5F)
    || (0x61 ≤ n && n ≤ 0x7E) || 0x80 ≤ n

def isQueryChar (c : Char) : Bool :=
  let n := c.toNat
  n == 0x21 || (0x24 ≤ n && n ≤ 0x3B) || n == 0x3D || (0x3F ≤ n && n ≤ 0x7E) || 0x80 ≤ n

def isSchemeChar (c : Char) : Bool :=
  c.isAlphanum || "+-.~".toList.contains c

def isAuthorityChar (c : Char) : Bool :=
  c.isAlphanum || "!$&'()*+,-.:;=@[]_~%".toList.contains c

def endsAuthority (c : Char) : Bool :=
  c == '/' || c == '?' || c == '#'

/-- A path with an optional query. -/
def ofPathAndQuery? (cs : List Char) : Option Target :=
  let endsPath := fun (c : Char) => c == '?' || c == '#'
  let path := cs.takeWhile (!endsPath ·)
  let query :=
    match cs.dropWhile (!endsPath ·) with
    | '?' :: rest => rest.takeWhile (· != '#')
    | _ => []
  if path.all isPathChar && query.all isQueryChar then
    some ⟨if path.isEmpty then "/" else String.ofList path, String.ofList query⟩
  else none

/-- What has been seen of an authority: the colons and whether there was a percent
    sign since the last part that may hold them, and the brackets of an address. -/
structure AuthorityScan where
  colons : Nat := 0
  percent : Bool := false
  opened : Bool := false
  closed : Bool := false

def AuthorityScan.next (s : AuthorityScan) (c : Char) : Option AuthorityScan :=
  if c = ':' then if 8 ≤ s.colons then none else some { s with colons := s.colons + 1 }
  else if c = '[' then if s.percent || s.opened then none else some { s with opened := true }
  else if c = ']' then
    if !s.opened || s.closed then none
    else some { s with closed := true, colons := 0, percent := false }
  else if c = '@' then some { s with colons := 0, percent := false }
  else if c = '%' then some { s with percent := true }
  else if isAuthorityChar c then some s
  else none

/-- The characters form an authority: names and addresses with at most one port,
    and something behind the user's name if there is one. -/
def isAuthority (cs : List Char) : Bool :=
  match cs.foldlM AuthorityScan.next {} with
  | none => false
  | some s => s.opened == s.closed && s.colons ≤ 1 && cs.getLast? != some '@' && !s.percent

/-- The part of a target behind its scheme; none if the target has no scheme, and
    no answer at all if the scheme is too long. -/
def afterScheme (cs : List Char) : Option (Option (List Char)) :=
  let scheme := cs.takeWhile isSchemeChar
  match cs.dropWhile isSchemeChar with
  | ':' :: '/' :: '/' :: rest => if maxScheme < scheme.length then none else some (some rest)
  | _ => some none

/-- An address with scheme and authority, or an authority alone. -/
def ofAddress? (cs : List Char) : Option Target :=
  match afterScheme cs with
  | none => none
  | some none => if isAuthority cs then some ⟨"", ""⟩ else none
  | some (some rest) =>
    let authority := rest.takeWhile (!endsAuthority ·)
    if authority.isEmpty || !isAuthority authority then none
    else ofPathAndQuery? (rest.dropWhile (!endsAuthority ·))

def ofString? (s : String) : Option Target :=
  if maxBytes < s.utf8ByteSize then none
  else
    match s.toList with
    | [] => none
    | ['*'] => some ⟨"*", ""⟩
    | '/' :: rest => ofPathAndQuery? ('/' :: rest)
    | cs => ofAddress? cs

end Target

end BlobDepot.Http
