import Std.Data.String.ToNat
import BlobDepot.Proofs.Depot.Counts
import BlobDepot.Proofs.Service.Transcript

/-! # What the statistics tell

A client that keeps the transcript of all requests can tell the statistics of the service:
the hits, the misses and the refused blobs are numbers of exchanges of certain kinds, and
the kinds are read off requests and responses alone.

`Course` says what becomes of a request; from it follows what one exchange adds to the tally
of the cache (`adds_handle`) and when it is a hit (`isHit_handle_iff`).  Summed up over a run
this is `statistics_tell_history`.
-/

namespace BlobDepot.Service

open Http BlobKey

/-! ## Kinds of exchanges -/

/-- The key and the cache use of a blob request whose path and query are understood. -/
def address? (r : Request) : Option (String × CacheUse) :=
  match Route.ofPath? r.target.path with
  | some (.blob encoded) => (readAddress encoded r.target.query).toOption
  | _ => none

/-- The key of a blob request that does not go around the cache. -/
def cachedKey? (r : Request) : Option String :=
  match address? r with
  | some (key, .through) => some key
  | _ => none

def isRead (r : Request) : Bool :=
  r.method = .get || r.method = .head

def isHit (e : Exchange) : Bool :=
  e.2.field? "x-cache" = some "HIT"

def isMiss (e : Exchange) : Bool :=
  e.2.field? "x-cache" = some "MISS"

/-- A valid key that was looked for in the cache and answered otherwise than by a hit. -/
def isMissed (keyPrefix : String) (e : Exchange) : Bool :=
  isRead e.1 && (cachedKey? e.1).any (fun key => Valid key && Valid (keyPrefix ++ key)) && !isHit e

/-- The length that a response tells of its body, which an answer to `HEAD` lacks. -/
def toldLength? (response : Response) : Option Nat :=
  (response.field? "content-length").bind String.toNat?

/-- A blob from the archive that is larger than the cache. -/
def isLargeRead (limit : Nat) (e : Exchange) : Bool :=
  isMiss e && (toldLength? e.2).any (limit < ·)

/-- A blob that was stored, not going around the cache, and is larger than that. -/
def isLargeUpload (limit : Nat) (e : Exchange) : Bool :=
  e.1.method = .put && (cachedKey? e.1).isSome && e.2.status = 200 && limit < e.1.body.joined.size

variable {s : Service} {now : Moment} {r : Request} {encoded query key : String}
variable {body : Upload} {data : ByteArray} {use : CacheUse} {limit : Nat} {settings : Settings}

/-! ## Fields of responses -/

theorem fields_complete (method : Method) (response : Response) :
    (complete method response).fields = response.fields ++
      ("content-length", toString response.body.size) :: crossOriginFields := by
  rw [complete]
  split <;> rfl

/-- Completing a response adds nothing about the cache. -/
theorem field?_complete (method : Method) (response : Response) :
    (complete method response).field? "x-cache" = response.field? "x-cache" := by
  have elsewhere : (("content-length", toString response.body.size) :: crossOriginFields).lookup
      "x-cache" = none := rfl
  rw [Response.field?, fields_complete, List.lookup_append, elsewhere, Option.or_none, Response.field?]

theorem toldLength?_complete (method : Method) {response : Response}
    (untold : response.field? "content-length" = none) :
    toldLength? (complete method response) = some response.body.size := by
  rw [Response.field?] at untold
  rw [toldLength?, Response.field?, fields_complete, List.lookup_append, untold, Option.none_or,
    List.lookup_cons_self]
  exact Nat.toNat?_repr _

theorem field?_ofFault (f : Fault) : (Response.ofFault f).field? "x-cache" = none := rfl

theorem field?_refusal (refusal : Refusal) : refusal.response.field? "x-cache" = none := by
  cases refusal with
  | path => rfl
  | query d => rfl
  | upload limit d => cases d <;> rfl

/-! ## The course of a request -/

/-- What becomes of a request: it reads a blob, it stores one, or the depot is not asked. -/
inductive Course (s : Service) (now : Moment) (r : Request) : Prop where
  | lookup (key : String) (use : CacheUse) (reading : isRead r = true)
      (asked : address? r = some (key, use))
      (told : (s.handle now r).response =
        complete r.method (deliveryResponse key use (s.depot.get key use).result))
      (after : (s.handle now r).service.depot = (s.depot.get key use).depot)
  | upload (key : String) (use : CacheUse) (storing : r.method = .put)
      (asked : address? r = some (key, use))
      (told : (s.handle now r).response =
        complete r.method (receiptResponse key (s.depot.put key r.body.joined use).result))
      (after : (s.handle now r).service.depot = (s.depot.put key r.body.joined use).depot)
  | idle (unread : isRead r = true → address? r = none)
      (unstored : r.method = .put → (s.handle now r).response.status ≠ 200)
      (unmarked : (s.handle now r).response.field? "x-cache" = none)
      (after : (s.handle now r).service.depot = s.depot)

theorem course_of_read (reading : isRead r = true)
    (blob : Route.ofPath? r.target.path = some (.blob encoded)) : Course s now r := by
  have handled : s.handle now r = { s.deliver encoded r.target.query with
      response := complete r.method (s.deliver encoded r.target.query).response } := by
    obtain ⟨method, target, body⟩ := r
    cases method <;> simp [isRead] at reading <;> simp only [handle, answer, blob] <;> rfl
  have asked : address? r = (readAddress encoded r.target.query).toOption := by
    rw [address?, blob]
  cases read : readAddress encoded r.target.query with
  | error refusal =>
    rw [deliver, read] at handled
    rw [read] at asked
    refine .idle (fun _ => asked) (fun put => ?_) ?_ ?_
    · simp [isRead, put] at reading
    · rw [handled, field?_complete, field?_refusal]
    · rw [handled]
  | ok address =>
    obtain ⟨key, use⟩ := address
    rw [deliver, read] at handled
    rw [read] at asked
    exact .lookup key use reading asked (by rw [handled]) (by rw [handled])

theorem course_of_put (put : r.method = .put)
    (blob : Route.ofPath? r.target.path = some (.blob encoded)) : Course s now r := by
  have handled : s.handle now r = _ := handle_of_put put blob
  have asked : address? r = (readAddress encoded r.target.query).toOption := by
    rw [address?, blob]
  have unread : isRead r = true → address? r = none := by simp [isRead, put]
  cases read : readUpload s.uploadLimit encoded r.target.query r.body with
  | error refusal =>
    rw [receive, read] at handled
    refine .idle unread (fun _ => ?_) ?_ ?_
    · rw [handled, status_complete]
      exact status_refusal_ne refusal
    · rw [handled, field?_complete, field?_refusal]
    · rw [handled]
  | ok upload =>
    obtain ⟨key, use, data⟩ := upload
    obtain ⟨address, -, -, rfl⟩ := readUpload_eq_ok_iff.mp read
    rw [receive, read] at handled
    rw [address] at asked
    exact .upload key use put asked (by rw [handled, put]) (by rw [handled])

theorem course_of_idle {response : Response} (answered : s.answer now r = ⟨response, [], s⟩)
    (unread : isRead r = true → address? r = none) (unstored : r.method = .put → response.status ≠ 200)
    (unmarked : response.field? "x-cache" = none) : Course s now r := by
  have handled : s.handle now r = ⟨complete r.method response, [], s⟩ := by rw [handle, answered]
  refine .idle unread (fun put => ?_) ?_ ?_
  · rw [handled, status_complete]
    exact unstored put
  · rw [handled, field?_complete, unmarked]
  · rw [handled]

/-- Every request takes one of the three courses. -/
theorem course (s : Service) (now : Moment) (r : Request) : Course s now r := by
  cases path : Route.ofPath? r.target.path with
  | none =>
    have unread : address? r = none := by rw [address?, path]
    obtain ⟨method, target, body⟩ := r
    cases method with
    | options =>
      exact course_of_idle (by rw [answer, path]) (fun _ => unread) (fun put => by cases put) rfl
    | get | head | put | other =>
      exact course_of_idle (by rw [answer, path]) (fun _ => unread) (fun _ => by decide) rfl
  | some route =>
    cases route with
    | blob encoded =>
      by_cases reading : isRead r = true
      · exact course_of_read reading path
      by_cases put : r.method = .put
      · exact course_of_put put path
      -- The request neither reads nor stores the blob that its path names.
      have unread : isRead r = true → address? r = none := fun read => absurd read reading
      obtain ⟨method, target, body⟩ := r
      cases method with
      | get | head => simp [isRead] at reading
      | put => exact absurd rfl put
      | options => exact course_of_idle (by rw [answer, path]) unread (absurd · put) rfl
      | other => exact course_of_idle (by rw [answer, path]; rfl) unread (absurd · put) rfl
    | stats | health =>
      have unread : address? r = none := by rw [address?, path]
      obtain ⟨method, target, body⟩ := r
      cases method with
      | get | head =>
        exact course_of_idle (by rw [answer, path]; rfl) (fun _ => unread) (fun put => by cases put) rfl
      | put | other =>
        exact course_of_idle (by rw [answer, path]; rfl) (fun _ => unread) (fun _ => by decide) rfl
      | options =>
        exact course_of_idle (by rw [answer, path]) (fun _ => unread) (fun put => by cases put) rfl

/-! ## What one exchange tells -/

theorem isHit_delivery (method : Method) (key : String) (use : CacheUse)
    (result : Except Fault (Option Depot.Delivery)) :
    isHit (r, complete method (deliveryResponse key use result)) =
      (decide (use = .through) && Depot.fromCache result) := by
  rw [isHit, field?_complete]
  cases result with
  | error f => simp [deliveryResponse, field?_ofFault, Depot.fromCache]
  | ok found =>
    cases found with
    | none => simp [deliveryResponse, field?_ofFault, Depot.fromCache]
    | some delivery =>
      obtain ⟨data, source⟩ := delivery
      cases use <;> cases source <;> rfl

theorem isLargeRead_delivery (method : Method) (key : String) (use : CacheUse)
    (result : Except Fault (Option Depot.Delivery)) :
    isLargeRead limit (r, complete method (deliveryResponse key use result)) =
      (decide (use = .through) && Depot.largeRead limit result) := by
  rw [isLargeRead, isMiss, field?_complete]
  cases result with
  | error f => simp [deliveryResponse, field?_ofFault, Depot.largeRead]
  | ok found =>
    cases found with
    | none => simp [deliveryResponse, field?_ofFault, Depot.largeRead]
    | some delivery =>
      obtain ⟨data, source⟩ := delivery
      have told : toldLength? (complete method (deliveryResponse key use (.ok (some ⟨data, source⟩)))) =
          some data.size := toldLength?_complete method rfl
      rw [told]
      cases use <;> cases source <;> rfl

theorem field?_receipt (method : Method) (key : String) (result : Except Fault Nat) :
    (complete method (receiptResponse key result)).field? "x-cache" = none := by
  rw [field?_complete]
  cases result <;> rfl

theorem receipt_eq_200_iff (method : Method) (key : String) (result : Except Fault Nat) :
    (complete method (receiptResponse key result)).status = 200 ↔ result.toBool = true := by
  rw [status_complete]
  cases result with
  | error f => simp [receiptResponse, status_ofFault_ne, Except.toBool]
  | ok size => simp [receiptResponse, Response.json, Except.toBool]

/-- What an exchange adds to the tally of the cache, as far as a client can tell. -/
def Adds (keyPrefix : String) (limit : Nat) (e : Exchange) (before after : Cache.Tally) : Prop :=
  before.Grew after (isHit e).toNat (isMissed keyPrefix e).toNat
    ((isLargeRead limit e).toNat + (isLargeUpload limit e).toNat)

theorem adds_of_lookup (coherent : s.depot.cache.Coherent) (reading : isRead r = true)
    (asked : address? r = some (key, use)) :
    Adds s.depot.keyPrefix s.depot.cache.byteLimit
      (r, complete r.method (deliveryResponse key use (s.depot.get key use).result))
      s.depot.cache.tally (s.depot.get key use).depot.cache.tally := by
  have unstored : ∀ response, isLargeUpload s.depot.cache.byteLimit (r, response) = false := by
    intro response
    obtain ⟨method, target, body⟩ := r
    cases method <;> simp [isRead] at reading <;> rfl
  rw [Adds, isMissed, isHit_delivery, isLargeRead_delivery, unstored, reading, cachedKey?, asked]
  cases use with
  | around =>
    obtain ⟨same, -⟩ := Depot.get_around s.depot key
    rw [same]
    exact .refl _
  | through =>
    cases qualified : s.depot.qualify key with
    | error f =>
      -- An invalid key is not looked for.
      rw [Depot.get_of_error qualified]
      have invalid : ¬ (Valid key ∧ Valid (s.depot.keyPrefix ++ key)) := by
        rintro ⟨valid, whole⟩
        rw [Depot.qualify_eq_ok_iff.mpr ⟨valid, whole, rfl⟩] at qualified
        cases qualified
      have uncounted : (decide (Valid key) && decide (Valid (s.depot.keyPrefix ++ key))) = false := by
        rw [← Bool.decide_and]
        exact decide_eq_false invalid
      simpa [uncounted, Depot.fromCache, Depot.largeRead] using Cache.Tally.Grew.refl _
    | ok full =>
      obtain ⟨valid, whole, rfl⟩ := Depot.qualify_eq_ok_iff.mp qualified
      have grew := Depot.tally_get_through coherent qualified
      simpa [valid, whole] using grew

theorem adds_of_upload (coherent : s.depot.cache.Coherent) (storing : r.method = .put)
    (asked : address? r = some (key, use)) :
    Adds s.depot.keyPrefix s.depot.cache.byteLimit
      (r, complete r.method (receiptResponse key (s.depot.put key r.body.joined use).result))
      s.depot.cache.tally (s.depot.put key r.body.joined use).depot.cache.tally := by
  have grew := Depot.tally_put coherent key r.body.joined use
  have unread : isRead r = false := by simp [isRead, storing]
  have through : (cachedKey? r).isSome = decide (use = .through) := by
    rw [cachedKey?, asked]
    cases use <;> rfl
  have success := receipt_eq_200_iff .put key (s.depot.put key r.body.joined use).result
  rw [Adds, isMissed, isHit, isLargeRead, isMiss, field?_receipt, isLargeUpload, unread, through]
  simpa [storing, success] using grew

/-- What a client sees of one exchange is what the cache counts of it. -/
theorem adds_handle (coherent : s.depot.cache.Coherent) (now : Moment) (r : Request) :
    Adds s.depot.keyPrefix s.depot.cache.byteLimit (r, (s.handle now r).response)
      s.depot.cache.tally (s.handle now r).service.depot.cache.tally := by
  cases s.course now r with
  | lookup key use reading asked told after =>
    rw [told, after]
    exact adds_of_lookup coherent reading asked
  | upload key use storing asked told after =>
    rw [told, after]
    exact adds_of_upload coherent storing asked
  | idle unread unstored unmarked after =>
    have unmissed : isMissed s.depot.keyPrefix (r, (s.handle now r).response) = false := by
      rw [isMissed]
      cases reading : isRead r with
      | false => rfl
      | true => simp [cachedKey?, unread reading]
    have small : isLargeUpload s.depot.cache.byteLimit (r, (s.handle now r).response) = false := by
      rw [isLargeUpload]
      by_cases storing : r.method = .put
      · simp [unstored storing]
      · simp [storing]
    rw [Adds, after, unmissed, small, isHit, isLargeRead, isMiss, unmarked]
    exact .refl _

/-- A blob is answered with a hit if it is looked for in the cache and there under its full
    key, and in no other case. -/
theorem isHit_handle_iff (faithful : s.depot.Faithful) (now : Moment) (r : Request) :
    isHit (r, (s.handle now r).response) = true ↔ isRead r = true ∧ ∃ key, cachedKey? r = some key ∧
      Valid key ∧ s.depot.cache.contains (s.depot.keyPrefix ++ key) = true := by
  cases s.course now r with
  | lookup key use reading asked told after =>
    rw [told, isHit_delivery, cachedKey?, asked, reading]
    cases use with
    | around => simp
    | through =>
      simp only [decide_true, Bool.true_and, Option.some.injEq, exists_eq_left', true_and]
      cases qualified : s.depot.qualify key with
      | error f =>
        rw [Depot.get_of_error qualified]
        -- Only valid keys are cached, so the full key is not.
        refine ⟨(fun hit => by cases hit), fun ⟨valid, cached⟩ => ?_⟩
        rw [← faithful.coherent.toConsistent.isSome_value?] at cached
        obtain ⟨v, held⟩ := Option.isSome_iff_exists.mp cached
        have whole := (faithful.cached _ v held).1
        rw [Depot.qualify_eq_ok_iff.mpr ⟨valid, whole, rfl⟩] at qualified
        cases qualified
      | ok full =>
        obtain ⟨valid, -, rfl⟩ := Depot.qualify_eq_ok_iff.mp qualified
        rw [Depot.fromCache_get_through faithful.coherent qualified]
        simp [valid]
  | upload key use storing asked told after =>
    rw [told, isHit, field?_receipt]
    simp [isRead, storing]
  | idle unread unstored unmarked after =>
    rw [isHit, unmarked]
    refine ⟨(fun hit => by cases hit), fun ⟨reading, key, cached, _⟩ => ?_⟩
    rw [cachedKey?, unread reading] at cached
    cases cached

/-! ## Runs -/

/-- What stays true of the depot while its exchanges are counted. -/
structure Watched (settings : Settings) (d : Depot) : Prop where
  faithful : d.Faithful
  keyPrefix : d.keyPrefix = settings.keyPrefix
  entryLimit : d.cache.capacity = settings.entryLimit
  byteLimit : d.cache.byteLimit = settings.byteLimit

theorem Watched.step {d : Depot} (watched : Watched settings d) (call : Depot.Call) :
    Watched settings (d.step call).2 := by
  obtain ⟨entries, bytes⟩ := Depot.sameLimits_step watched.faithful.coherent call
  exact ⟨watched.faithful.step call, (d.keyPrefix_step call).trans watched.keyPrefix,
    entries.trans watched.entryLimit, bytes.trans watched.byteLimit⟩

theorem Watched.handle (watched : Watched settings s.depot) (now : Moment) (r : Request) :
    Watched settings (s.handle now r).service.depot :=
  kept_handle (fun _ call held => held.step call) watched now r

theorem Watched.afterRun (watched : Watched settings s.depot) (requests : List (Moment × Request)) :
    Watched settings (s.afterRun requests).depot := by
  induction requests generalizing s with
  | nil => exact watched
  | cons request requests ih => exact ih (watched.handle request.1 request.2)

theorem tally_afterRun (watched : Watched settings s.depot) (requests : List (Moment × Request)) :
    s.depot.cache.tally.Grew (s.afterRun requests).depot.cache.tally
      ((s.transcript requests).countP isHit)
      ((s.transcript requests).countP (isMissed settings.keyPrefix))
      ((s.transcript requests).countP (isLargeRead settings.byteLimit) +
        (s.transcript requests).countP (isLargeUpload settings.byteLimit)) := by
  induction requests generalizing s with
  | nil => exact .refl _
  | cons request requests ih =>
    obtain ⟨now, r⟩ := request
    have first := adds_handle watched.faithful.coherent now r
    have later := ih (watched.handle now r)
    rw [watched.keyPrefix, watched.byteLimit, Adds] at first
    have both := first.trans later
    simp only [Bool.toNat, Bool.cond_eq_ite] at both
    simp only [transcript_cons, List.countP_cons]
    refine ⟨both.hits.trans ?_, both.misses.trans ?_, both.rejections.trans ?_⟩ <;> omega

/-! ## The statistics -/

theorem cachedKey?_eq_some_iff : cachedKey? r = some key ↔
    Names r key ∧ CacheOption.parse r.target.query = .ok .through := by
  have address_iff : cachedKey? r = some key ↔ address? r = some (key, .through) := by
    rw [cachedKey?]
    cases address? r with
    | none => simp
    | some address =>
      obtain ⟨named, use⟩ := address
      cases use <;> simp
  rw [address_iff, names_iff, address?]
  cases Route.ofPath? r.target.path with
  | none => simp
  | some route =>
    cases route with
    | stats | health => simp
    | blob encoded =>
      simp only [Option.some.injEq, Route.blob.injEq, exists_eq_left', ← readAddress_eq_ok_iff]
      cases readAddress encoded r.target.query <;> simp [Except.toOption]

theorem handle_stats (s : Service) (now : Moment) (get : r.method = .get) (path : r.target.path = "/stats") :
    (s.handle now r).response.status = 200 ∧
      (s.handle now r).response.body = s.depot.cache.snapshot.jsonWithRate.toUTF8 := by
  obtain ⟨method, ⟨_, query⟩, body⟩ := r
  cases get
  cases path
  exact ⟨rfl, rfl⟩

/-- After any requests to a service that was started before them, the statistics tell what its
    clients saw: how many answers were hits, how many valid keys were looked for in the cache
    and answered otherwise, and how many blobs were read or stored through the cache that are
    larger than it.  And the next answer is a hit if the request looks for a key in the cache
    that is there, and in no other case. -/
theorem statistics_tell_history {settings : Settings} {t : FileTree}
    (started : (start settings now t).result = .ok s) (earlier : List (Moment × Request)) :
    let history := s.transcript earlier
    let next := s.afterRun earlier
    let cache := next.depot.cache
    let hits := history.countP isHit
    let misses := history.countP (isMissed settings.keyPrefix)
    let rejections := history.countP (isLargeRead settings.byteLimit) +
      history.countP (isLargeUpload settings.byteLimit)
    (∀ now r, r.method = .get → r.target.path = "/stats" →
      (next.handle now r).response.status = 200 ∧
      (next.handle now r).response.body =
        (statsText hits misses cache.tally.evictions rejections cache.size cache.used
          settings.entryLimit settings.byteLimit cache.tally.hitRate.render).toUTF8) ∧
    cache.tally.hits = hits ∧ cache.tally.misses = misses ∧ cache.tally.rejections = rejections ∧
    ∀ now r, isHit (r, (next.handle now r).response) = true ↔ isRead r = true ∧
      ∃ key, Names r key ∧ CacheOption.parse r.target.query = .ok .through ∧ Valid key ∧
        cache.contains (settings.keyPrefix ++ key) = true := by
  intro history next cache hits misses rejections
  have fresh := fresh_of_start started
  obtain ⟨_, _, empty, keyPrefix⟩ := fresh.parts
  have watched : Watched settings s.depot :=
    ⟨fresh.faithful, keyPrefix, by rw [empty]; rfl, by rw [empty]; rfl⟩
  have new : s.depot.cache.tally = {} := by
    rw [empty]
    rfl
  have grew := tally_afterRun watched earlier
  rw [new] at grew
  have told_hits : cache.tally.hits = hits := by simpa using grew.hits
  have told_misses : cache.tally.misses = misses := by simpa using grew.misses
  have told_rejections : cache.tally.rejections = rejections := by simpa using grew.rejections
  have later := watched.afterRun earlier
  refine ⟨fun now r get path => ?_, told_hits, told_misses, told_rejections, fun now r => ?_⟩
  · obtain ⟨status, body⟩ := next.handle_stats now get path
    refine ⟨status, body.trans ?_⟩
    rw [jsonWithRate_eq, ← told_hits, ← told_misses, ← told_rejections, ← later.entryLimit,
      ← later.byteLimit]
    rfl
  · rw [isHit_handle_iff later.faithful, later.keyPrefix]
    simp only [cachedKey?_eq_some_iff, and_assoc]
    rfl

/-- A hit, a miss of a blob that has become too large to be cached, and a reader who goes
    around the cache. -/
theorem statistics_tell_history_of_growth :
    let t := FileTree.empty.set ["blobs"] .directory
    let settings : Settings :=
      { directory := "blobs", entryLimit := 2, byteLimit := 4, uploadLimit := 9 }
    let s : Service := ⟨⟨⟨t, .ofString "blobs", 0⟩, .empty 2 4, ""⟩, 9, ⟨0, 0⟩⟩
    let upload (data : ByteArray) : Request := ⟨.put, ⟨"/blobs/a", ""⟩, ⟨[data], none⟩⟩
    let read (method : Method) (query : String) : Request :=
      ⟨method, ⟨"/blobs/a", query⟩, ⟨[], none⟩⟩
    let earlier := [upload ⟨#[1]⟩, read .get "", upload ⟨#[2, 2, 2, 2, 2]⟩, read .head "",
      read .get "nocache=true", read .options ""].map (Prod.mk ⟨1, 0⟩)
    let history := s.transcript earlier
    let asked : Request := ⟨.get, ⟨"/stats", ""⟩, ⟨[], none⟩⟩
    (start settings ⟨0, 0⟩ t).result = .ok s ∧ history.countP isHit = 1 ∧
      history.countP (isMissed "") = 1 ∧
      history.countP (isLargeRead 4) + history.countP (isLargeUpload 4) = 2 ∧
      ((s.afterRun earlier).handle ⟨2, 0⟩ asked).response.body =
        ("\x7b\"hits\":1,\"misses\":1,\"evictions\":1,\"rejections\":2,\"total_entries\":0," ++
          "\"mem_used\":0,\"capacity\":2,\"mem_limit\":4,\"hit_rate\":0.5\x7d").toUTF8 := by
  intro t settings s upload read earlier history asked
  have there : t.stat (.ofString "blobs") = .ok .directory := by decide +kernel
  have started : (start settings ⟨0, 0⟩ t).result = .ok s := by
    simp only [start, Depot.openWith, Archive.openAt, settings, there]
    rfl
  obtain ⟨answered, hits, misses, rejections, -⟩ := statistics_tell_history started earlier
  have tally : (s.afterRun earlier).depot.cache.tally = ⟨1, 1, 1, 2⟩ := by decide +kernel
  have held : (s.afterRun earlier).depot.cache.size = 0 ∧ (s.afterRun earlier).depot.cache.used = 0 := by
    decide +kernel
  have rate : (⟨1, 1, 1, 2⟩ : Cache.Tally).hitRate.render = "0.5" := by decide +kernel
  have body := (answered ⟨2, 0⟩ asked rfl rfl).2
  rw [← hits, ← misses, ← rejections, held.1, held.2, tally, rate] at body
  rw [tally] at hits misses rejections
  exact ⟨started, hits.symm, misses.symm, rejections.symm, body.trans (by decide +kernel)⟩

end BlobDepot.Service
