import BlobDepot.Depot
import BlobDepot.Http.CacheOption
import BlobDepot.Http.Message
import BlobDepot.Moment

/-! # The HTTP service

The depot behind HTTP: blobs are read and stored under `/blobs/`, and `/stats` and
`/health` tell about the service.  Requests are handled one after the other.

A blob request is refused for the first of these that applies: its path is no
text, its query is not understood, its body is too large or breaks off, its key
is defective, the archive fails.  `HEAD` is handled as `GET` and loses the body of
its answer.  Every answer allows any origin to read it.
-/

namespace BlobDepot

open Http

/-- The service: the depot, the largest upload in bytes, and the moment at which it
    was started. -/
structure Service where
  depot : Depot
  uploadLimit : Nat
  since : Moment

/-- What handling a request led to: the response, the entries that the cache's
    hand took out meanwhile, and the service after it. -/
structure Reply where
  response : Response
  evicted : List Cache.Eviction
  service : Service

namespace Service

/-- Starts the service that the settings describe. -/
def start (settings : Settings) (now : Moment) (t : FileTree) : Opening Service :=
  match Depot.openWith settings t with
  | ⟨log, .error failure⟩ => ⟨log, .error failure⟩
  | ⟨log, .ok depot⟩ => ⟨log, .ok ⟨depot, settings.uploadLimit, now⟩⟩

/-! ## Routes -/

/-- What the path of a request leads to. -/
inductive Route where
  /-- A blob, by the part of the path that names it, still encoded. -/
  | blob (encoded : String)
  | stats
  | health
  deriving DecidableEq, Repr

/-- The start of the paths of blobs. -/
def blobsPath : String := "/blobs/"

def Route.ofPath? (path : String) : Option Route :=
  if path = "/stats" then some .stats
  else if path = "/health" then some .health
  else
    let start := blobsPath.toList
    let encoded := path.toList.drop start.length
    if start.isPrefixOf path.toList && !encoded.isEmpty then some (.blob (String.ofList encoded))
    else none

def Route.allow : Route → String
  | .blob _ => "GET,HEAD,PUT"
  | .stats | .health => "GET,HEAD"

/-! ## What a blob request says -/

/-- Why a blob request is refused before the depot is asked. -/
inductive Refusal where
  | path
  | query (d : CacheOption.Defect)
  | upload (limit : Nat) (d : Upload.Defect)
  deriving DecidableEq, Repr

def Refusal.response : Refusal → Response
  | .path => .text 400 "Invalid URL: Invalid UTF-8 in `key`"
  | .query d => .text 400 d.message
  | .upload limit .tooLarge =>
    .ofFault ⟨.tooLarge, "Blob exceeds maximum size of " ++ toString limit ++ " bytes"⟩
  | .upload _ (.broken reason) =>
    .ofFault ⟨.badRequest, "Failed to buffer the request body: " ++ reason⟩

/-- The key that an encoded path names; slashes in front of it do not count. -/
def decodeKey? (encoded : String) : Option String :=
  let octets := Text.Percent.decode (Form.octets encoded)
  (String.fromUTF8? ⟨octets.toArray⟩).map fun key =>
    String.ofList (key.toList.dropWhile (· == '/'))

/-- The key of a blob request and its way around or through the cache. -/
def readAddress (encoded query : String) : Except Refusal (String × CacheUse) :=
  match decodeKey? encoded with
  | none => .error .path
  | some key =>
    match CacheOption.parse query with
    | .error d => .error (.query d)
    | .ok use => .ok (key, use)

/-- The key, the cache use and the bytes of a request that stores a blob. -/
def readUpload (limit : Nat) (encoded query : String) (body : Upload) :
    Except Refusal (String × CacheUse × ByteArray) :=
  match readAddress encoded query with
  | .error r => .error r
  | .ok (key, use) =>
    match body.collect limit with
    | .error d => .error (.upload limit d)
    | .ok data => .ok (key, use, data)

/-! ## Blob requests -/

/-- What an answer says about the cache. -/
def cacheStatus : CacheUse → Depot.Source → String
  | .around, _ => "BYPASS"
  | .through, .cache => "HIT"
  | .through, .archive => "MISS"

def deliveryResponse (key : String) (use : CacheUse) :
    Except Fault (Option Depot.Delivery) → Response
  | .error f => .ofFault f
  | .ok none => .ofFault ⟨.missing, key⟩
  | .ok (some blob) =>
    ⟨200, [("content-type", "application/octet-stream"),
      ("x-cache", cacheStatus use blob.source)], blob.data⟩

/-- The JSON text that confirms a stored blob. -/
def receiptJson (key : String) (size : Nat) : String :=
  Text.Json.object [
    ("message", .text ("Blob '" ++ key ++ "' stored successfully")),
    ("key", .text key),
    ("size", .count size)]

def receiptResponse (key : String) : Except Fault Nat → Response
  | .error f => .ofFault f
  | .ok size => .json 200 (receiptJson key size)

def deliver (s : Service) (encoded query : String) : Reply :=
  match readAddress encoded query with
  | .error r => ⟨r.response, [], s⟩
  | .ok (key, use) =>
    let outcome := s.depot.get key use
    ⟨deliveryResponse key use outcome.result, outcome.evicted, { s with depot := outcome.depot }⟩

def receive (s : Service) (encoded query : String) (body : Upload) : Reply :=
  match readUpload s.uploadLimit encoded query body with
  | .error r => ⟨r.response, [], s⟩
  | .ok (key, use, data) =>
    let outcome := s.depot.put key data use
    ⟨receiptResponse key outcome.result, outcome.evicted, { s with depot := outcome.depot }⟩

/-! ## Requests about the service -/

/-- The JSON text that tells that the service is well. -/
def healthJson (now since : Moment) : String :=
  Text.Json.object [
    ("status", .text "healthy"),
    ("timestamp", .text now.text),
    ("uptime_secs", .count (now.secondsSince since))]

/-- The answer to a request for the statistics of the cache. -/
def statsResponse (s : Service) : Response :=
  .json 200 s.depot.cache.snapshot.jsonWithRate

/-- The answer to a request for the state of the service. -/
def healthResponse (s : Service) (now : Moment) : Response :=
  .json 200 (healthJson now s.since)

/-! ## Every request -/

def tell (s : Service) (now : Moment) (query : String) : Route → Reply
  | .blob encoded => s.deliver encoded query
  | .stats => ⟨s.statsResponse, [], s⟩
  | .health => ⟨s.healthResponse now, [], s⟩

def serve (s : Service) (now : Moment) (r : Request) (route : Route) : Reply :=
  match r.method, route with
  | .get, _ | .head, _ => s.tell now r.target.query route
  | .put, .blob encoded => s.receive encoded r.target.query r.body
  | _, _ => ⟨⟨405, [("allow", route.allow)], .empty⟩, [], s⟩

/-- The answer to a question about what may be asked. -/
def preflight (route : Option Route) : Response :=
  let allow := (route.map fun r => ("allow", r.allow)).toList
  ⟨200, allow ++ [("access-control-allow-headers", "*"), ("access-control-allow-methods", "*")],
    .empty⟩

/-- Answers a request, without the fields that every answer has. -/
def answer (s : Service) (now : Moment) (r : Request) : Reply :=
  match r.method, Route.ofPath? r.target.path with
  | .options, route => ⟨preflight route, [], s⟩
  | _, none => ⟨⟨404, [], .empty⟩, [], s⟩
  | _, some route => s.serve now r route

/-- The header fields that let any origin read an answer. -/
def crossOriginFields : List (String × String) := [
  ("access-control-allow-origin", "*"),
  ("vary", "origin, access-control-request-method, access-control-request-headers")]

/-- Completes the answer to a request of some method: every answer tells its length
    and may be read by any origin, and the answer to `HEAD` has no body. -/
def complete (method : Method) (response : Response) : Response :=
  let full := response.withFields
    (("content-length", toString response.body.size) :: crossOriginFields)
  if method = .head then full.withoutBody else full

def handle (s : Service) (now : Moment) (r : Request) : Reply :=
  let reply := s.answer now r
  { reply with response := complete r.method reply.response }

/-! ## Runs -/

/-- The replies to requests that come one after the other, each at its moment. -/
def run (s : Service) : List (Moment × Request) → List Reply
  | [] => []
  | (now, r) :: rest =>
    let reply := s.handle now r
    reply :: reply.service.run rest

end Service

end BlobDepot
