import BlobDepot.Proofs.Depot.Ledger
import BlobDepot.Proofs.Service.Wording

/-! # What readers are told

The transcript of a run pairs each request with its response, which is all that the outside
knows of the service.  `LastUpload` tells the last upload to a key that was answered with
success.  No other exchange counts, and neither does how the upload and the reader write the
key or whether either goes around the cache.

The step is `holdings_handle`: a request changes the stored bytes of a key if and only if its
exchange counts as an upload to that key.  Over a run (`holdings_afterRun`) the archive then
holds what the last upload brought, and a reader gets what the archive holds
(`reads_last_upload`).
-/

namespace BlobDepot.Service

open Http BlobKey FileTree

/-- A request and the response to it. -/
abbrev Exchange := Request × Response

/-- All requests of a run with the responses to them, in their order. -/
def transcript (s : Service) (requests : List (Moment × Request)) : List Exchange :=
  (requests.map (·.2)).zip ((s.run requests).map (·.response))

/-- The service after it has handled some requests. -/
def afterRun (s : Service) (requests : List (Moment × Request)) : Service :=
  requests.foldl (fun s (now, r) => (s.handle now r).service) s

/-- An upload to the key that was answered with success. -/
def Stores (key : String) (e : Exchange) : Prop :=
  e.1.method = .put ∧ Names e.1 key ∧ e.2.status = 200

/-- The last one of the uploads to the key that were answered with success. -/
def LastUpload (key : String) (history : List Exchange) (e : Exchange) : Prop :=
  ∃ before after, history = before ++ e :: after ∧ Stores key e ∧
    ∀ later ∈ after, ¬ Stores key later

/-- The key of the blob that a request is about. -/
def blobKey? (r : Request) : Option String :=
  match Route.ofPath? r.target.path with
  | some (.blob encoded) => decodeKey? encoded
  | _ => none

/-- Finds out whether an exchange is an upload to the key that was answered with success. -/
def stores (key : String) (e : Exchange) : Bool :=
  e.1.method = .put && blobKey? e.1 = some key && e.2.status = 200

/-- Finds the last such upload. -/
def lastUpload? (key : String) (history : List Exchange) : Option Exchange :=
  history.reverse.find? (stores key)

/-- What is true of the depot in every state of a run. -/
structure Sound (keyPrefix : String) (d : Depot) : Prop where
  faithful : d.Faithful
  rooted : d.archive.tree.Rooted
  keyPrefix : d.keyPrefix = keyPrefix

variable {s : Service} {now : Moment} {r : Request} {encoded query key keyPrefix : String}
variable {body : Upload} {data : ByteArray} {use : CacheUse} {e : Exchange}

/-! ## Transcripts -/

theorem transcript_cons (s : Service) (now : Moment) (r : Request)
    (requests : List (Moment × Request)) : s.transcript ((now, r) :: requests) =
      (r, (s.handle now r).response) :: (s.handle now r).service.transcript requests := rfl

theorem exists_of_mem_transcript {requests : List (Moment × Request)}
    (took : e ∈ s.transcript requests) :
    ∃ (s' : Service) (now : Moment), e.2 = (s'.handle now e.1).response := by
  induction requests generalizing s with
  | nil => cases took
  | cons request requests ih =>
    obtain ⟨now, r⟩ := request
    rw [transcript_cons] at took
    cases took with
    | head => exact ⟨s, now, rfl⟩
    | tail _ later => exact ih later

theorem split_transcript {requests : List (Moment × Request)} {before after : List Exchange}
    {response : Response} (seen : s.transcript requests = before ++ (r, response) :: after) :
    ∃ earlier now, before = s.transcript earlier ∧
      response = ((s.afterRun earlier).handle now r).response := by
  -- The requests that led to `before` are found one by one, while the service moves on.
  induction before generalizing s requests with
  | nil =>
    cases requests with
    | nil => cases seen
    | cons request requests =>
      obtain ⟨now, r'⟩ := request
      rw [transcript_cons] at seen
      cases seen
      exact ⟨[], now, rfl, rfl⟩
  | cons e before ih =>
    cases requests with
    | nil => cases seen
    | cons request requests =>
      obtain ⟨now', r'⟩ := request
      rw [transcript_cons, List.cons_append] at seen
      obtain ⟨rfl, rest⟩ := List.cons.inj seen
      obtain ⟨earlier, now, rfl, told⟩ := ih rest
      exact ⟨(now', r') :: earlier, now, rfl, told⟩

/-! ## The last upload -/

theorem blobKey?_eq_some_iff : blobKey? r = some key ↔ Names r key := by
  rw [blobKey?, names_iff]
  cases Route.ofPath? r.target.path with
  | none => simp
  | some route => cases route <;> simp

theorem stores_iff : stores key e = true ↔ Stores key e := by
  simp [stores, Stores, blobKey?_eq_some_iff, and_assoc]

theorem lastUpload?_eq_some_iff {history : List Exchange} :
    lastUpload? key history = some e ↔ LastUpload key history e := by
  simp only [lastUpload?, List.find?_eq_some_iff_append, stores_iff, Bool.not_eq_true',
    ← Bool.not_eq_true]
  constructor
  · rintro ⟨stored, after, before, reversed, none_later⟩
    refine ⟨before.reverse, after.reverse, ?_, stored, by simpa using none_later⟩
    rw [← List.reverse_reverse history, reversed]
    simp
  · rintro ⟨before, after, rfl, stored, none_later⟩
    exact ⟨stored, after.reverse, before.reverse, by simp, by simpa using none_later⟩

theorem lastUpload?_eq_none_iff {history : List Exchange} :
    lastUpload? key history = none ↔ ∀ e ∈ history, ¬ Stores key e := by
  simp [lastUpload?, stores_iff]

/-- The bytes that the last upload brought. -/
def uploaded? (key : String) (history : List Exchange) : Option ByteArray :=
  (lastUpload? key history).map (·.1.body.joined)

theorem uploaded?_cons (key : String) (e : Exchange) (history : List Exchange) :
    uploaded? key (e :: history) = (uploaded? key history).or
      (if stores key e then some e.1.body.joined else none) := by
  simp only [uploaded?, lastUpload?, List.reverse_cons, List.find?_append]
  cases history.reverse.find? (stores key) with
  | some later => rfl
  | none =>
    rw [Option.none_or, List.find?_singleton]
    split <;> rfl

/-! ## What a status of 200 says -/

theorem status_ofFault_ne (f : Fault) : (Response.ofFault f).status ≠ 200 := by
  obtain ⟨kind, detail⟩ := f
  cases kind <;> simp [Response.ofFault, Response.json, Fault.status, Fault.Kind.status]

theorem status_refusal_ne (refusal : Refusal) : refusal.response.status ≠ 200 := by
  cases refusal with
  | path => decide
  | query d => simp [Refusal.response, Response.text]
  | upload limit d =>
    cases d with
    | tooLarge => exact status_ofFault_ne _
    | broken reason => exact status_ofFault_ne _

theorem deliver_eq_200_iff : (s.deliver encoded query).response.status = 200 ↔
    ∃ key use delivery, readAddress encoded query = .ok (key, use) ∧
      (s.depot.get key use).result = .ok (some delivery) := by
  rw [deliver]
  cases read : readAddress encoded query with
  | error refusal => simp [status_refusal_ne]
  | ok address =>
    obtain ⟨key, use⟩ := address
    simp only [Except.ok.injEq, Prod.mk.injEq]
    constructor
    · intro success
      cases result : (s.depot.get key use).result with
      | error f =>
        rw [result] at success
        exact absurd success (status_ofFault_ne f)
      | ok found =>
        rw [result] at success
        cases found with
        | none => exact absurd success (status_ofFault_ne _)
        | some delivery => exact ⟨key, use, delivery, ⟨rfl, rfl⟩, result⟩
    · rintro ⟨_, _, delivery, ⟨rfl, rfl⟩, result⟩
      rw [result]
      rfl

theorem receive_eq_200_iff : (s.receive encoded query body).response.status = 200 ↔
    ∃ key use size, readUpload s.uploadLimit encoded query body = .ok (key, use, body.joined) ∧
      (s.depot.put key body.joined use).result = .ok size := by
  rw [receive]
  cases read : readUpload s.uploadLimit encoded query body with
  | error refusal => simp [status_refusal_ne]
  | ok upload =>
    obtain ⟨key, use, data⟩ := upload
    obtain ⟨_, _, _, rfl⟩ := readUpload_eq_ok_iff.mp read
    simp only [Except.ok.injEq, Prod.mk.injEq]
    constructor
    · intro success
      cases result : (s.depot.put key body.joined use).result with
      | error f =>
        rw [result] at success
        exact absurd success (status_ofFault_ne f)
      | ok size => exact ⟨key, use, size, ⟨rfl, rfl, trivial⟩, result⟩
    · rintro ⟨_, _, size, ⟨rfl, rfl, _⟩, result⟩
      rw [result]
      rfl

/-! ## The step -/

theorem stores_handle_iff : stores key (r, (s.handle now r).response) = true ↔
    ∃ use size, demand? s.uploadLimit r = some (.put key r.body.joined use) ∧
      (s.depot.put key r.body.joined use).result = .ok size := by
  rw [stores_iff, Stores, names_iff]
  constructor
  · rintro ⟨put, ⟨encoded, blob, named⟩, success⟩
    change r.method = .put at put
    rw [handle_of_put put blob, status_complete, receive_eq_200_iff] at success
    obtain ⟨key', use, size, read, result⟩ := success
    obtain ⟨address, _⟩ := readUpload_eq_ok_iff.mp read
    -- The handler decodes the path in the way that `blobKey?` does.
    obtain rfl : key = key' :=
      Option.some.inj (named.symm.trans (readAddress_eq_ok_iff.mp address).1)
    exact ⟨use, size, demand?_eq_put_iff.mpr ⟨put, encoded, blob, read⟩, result⟩
  · rintro ⟨use, size, demanded, result⟩
    obtain ⟨put, encoded, blob, read⟩ := demand?_eq_put_iff.mp demanded
    have named := (readAddress_eq_ok_iff.mp (readUpload_eq_ok_iff.mp read).1).1
    refine ⟨put, ⟨encoded, blob, named⟩, ?_⟩
    change (s.handle now r).response.status = 200
    rw [handle_of_put put blob, status_complete, receive, read]
    simp only [result]
    rfl

theorem Sound.step {d : Depot} (sound : Sound keyPrefix d) (call : Depot.Call) :
    Sound keyPrefix (d.step call).2 where
  faithful := sound.faithful.step call
  rooted := Depot.rooted_step sound.rooted call
  keyPrefix := (d.keyPrefix_step call).trans sound.keyPrefix

theorem Sound.handle (sound : Sound keyPrefix s.depot) (now : Moment) (r : Request) :
    Sound keyPrefix (s.handle now r).service.depot :=
  kept_handle (fun _ call held => held.step call) sound now r

theorem holdings_of_stores (sound : Sound keyPrefix s.depot)
    (stored : stores key (r, (s.handle now r).response) = true) :
    (s.handle now r).service.depot.archive.holdings (keyPrefix ++ key) = some r.body.joined := by
  obtain ⟨use, size, demanded, result⟩ := stores_handle_iff.mp stored
  rw [service_handle, demanded]
  change (s.depot.step _).2.archive.holdings _ = _
  rw [← sound.faithful.record_eq sound.rooted, Depot.record, result, ← sound.keyPrefix]
  exact if_pos rfl

theorem holdings_of_not_stores (sound : Sound keyPrefix s.depot)
    (unstored : ¬ stores key (r, (s.handle now r).response) = true) :
    (s.handle now r).service.depot.archive.holdings (keyPrefix ++ key) =
      s.depot.archive.holdings (keyPrefix ++ key) := by
  rw [service_handle]
  cases demanded : demand? s.uploadLimit r with
  | none => rfl
  | some call =>
    change (s.depot.step call).2.archive.holdings _ = _
    rw [← sound.faithful.record_eq sound.rooted call]
    cases call with
    | get named use => rfl
    | put named data use =>
      obtain ⟨_, encoded, _, read⟩ := demand?_eq_put_iff.mp demanded
      obtain ⟨_, _, _, rfl⟩ := readUpload_eq_ok_iff.mp read
      rw [Depot.record]
      cases result : (s.depot.put named r.body.joined use).result with
      | error f => rfl
      | ok size =>
        -- The upload went to another key, or its exchange would count.
        have other : keyPrefix ++ key ≠ s.depot.keyPrefix ++ named := by
          rw [sound.keyPrefix, Ne, String.append_right_inj]
          rintro rfl
          exact unstored (stores_handle_iff.mpr ⟨use, size, demanded, result⟩)
        exact if_neg other

theorem holdings_handle (sound : Sound keyPrefix s.depot) (now : Moment) (r : Request)
    (key : String) : (s.handle now r).service.depot.archive.holdings (keyPrefix ++ key) =
      if stores key (r, (s.handle now r).response) then some r.body.joined
      else s.depot.archive.holdings (keyPrefix ++ key) := by
  split
  · exact holdings_of_stores sound ‹_›
  · exact holdings_of_not_stores sound ‹_›

theorem accepted_of_stores (stored : stores key (r, (s.handle now r).response) = true) :
    Valid key ∧ r.body.failure = none ∧
      Confirms (s.handle now r).response.body key r.body.joined.size := by
  obtain ⟨use, size, demanded, result⟩ := stores_handle_iff.mp stored
  obtain ⟨put, encoded, blob, read⟩ := demand?_eq_put_iff.mp demanded
  obtain ⟨_, _, ends, _⟩ := readUpload_eq_ok_iff.mp read
  refine ⟨?_, ends, ?_⟩
  · by_contra invalid
    obtain ⟨defect, refused⟩ :=
      Depot.put_of_invalid (fun valid => invalid valid.1) r.body.joined use
    rw [refused] at result
    cases result
  · -- The size in the answer is the one that the depot told.
    have told : (s.handle now r).response.body = (receiptJson key size).toUTF8 := by
      rw [handle_of_put put blob]
      change (complete .put (s.receive encoded r.target.query r.body).response).body = _
      rw [body_complete (by decide), receive, read]
      simp only [result]
      rfl
    rw [told, ← Depot.size_of_put_ok result]
    exact confirms_receiptJson key size

/-! ## Runs -/

theorem Sound.afterRun (sound : Sound keyPrefix s.depot) (requests : List (Moment × Request)) :
    Sound keyPrefix (s.afterRun requests).depot := by
  induction requests generalizing s with
  | nil => exact sound
  | cons request requests ih => exact ih (sound.handle request.1 request.2)

theorem holdings_afterRun (sound : Sound keyPrefix s.depot) (requests : List (Moment × Request))
    (key : String) : (s.afterRun requests).depot.archive.holdings (keyPrefix ++ key) =
      (uploaded? key (s.transcript requests)).or
        (s.depot.archive.holdings (keyPrefix ++ key)) := by
  induction requests generalizing s with
  | nil => rfl
  | cons request requests ih =>
    obtain ⟨now, r⟩ := request
    have later := ih (sound.handle now r)
    rw [holdings_handle sound now r key] at later
    -- A later upload hides this one, and this one hides what was there before it.
    rw [transcript_cons, uploaded?_cons, Option.or_assoc]
    refine later.trans (congrArg _ ?_)
    split <;> rfl

/-! ## Readers -/

theorem body_deliver {delivery : Depot.Delivery}
    (read : readAddress encoded query = .ok (key, use))
    (result : (s.depot.get key use).result = .ok (some delivery)) :
    (s.deliver encoded query).response.body = delivery.data := by
  simp only [deliver, read, result]
  rfl

theorem accepted_of_lastUpload? {requests : List (Moment × Request)}
    (last : lastUpload? key (s.transcript requests) = some e) :
    Valid key ∧ e.1.body.failure = none ∧ Confirms e.2.body key e.1.body.joined.size := by
  have took := List.mem_reverse.mp (List.mem_of_find?_eq_some last)
  obtain ⟨s', now, told⟩ := exists_of_mem_transcript took
  obtain ⟨r, response⟩ := e
  change response = (s'.handle now r).response at told
  subst told
  exact accepted_of_stores (List.find?_some last)

/-- A reader gets what the last upload brought, or else what was there before the run. -/
theorem body_after_run (sound : Sound keyPrefix s.depot) (earlier : List (Moment × Request))
    (get : r.method = .get) (blob : Route.ofPath? r.target.path = some (.blob encoded)) :
    let response := ((s.afterRun earlier).handle now r).response
    response.status = 200 → ∃ key, decodeKey? encoded = some key ∧
      (uploaded? key (s.transcript earlier)).or
        (s.depot.archive.holdings (keyPrefix ++ key)) = some response.body := by
  intro response success
  have handled : response = _ := congrArg Reply.response (handle_of_get get blob)
  rw [handled, status_complete, deliver_eq_200_iff] at success
  obtain ⟨key, use, delivery, read, result⟩ := success
  have now_sound := sound.afterRun earlier
  refine ⟨key, (readAddress_eq_ok_iff.mp read).1, ?_⟩
  rw [handled, body_complete (by decide), body_deliver read result, ← holdings_afterRun sound,
    ← now_sound.keyPrefix]
  exact now_sound.faithful.holdings_of_get result

theorem status_after_run (sound : Sound keyPrefix s.depot) (earlier : List (Moment × Request))
    (get : r.method = .get) (blob : Route.ofPath? r.target.path = some (.blob encoded))
    (read : readAddress encoded r.target.query = .ok (key, use))
    (last : lastUpload? key (s.transcript earlier) = some e) :
    ((s.afterRun earlier).handle now r).response.status = 200 := by
  have now_sound := sound.afterRun earlier
  have held := holdings_afterRun sound earlier key
  rw [uploaded?, last, ← now_sound.keyPrefix] at held
  -- A key that was uploaded to is a valid one, so that it can also be read.
  obtain ⟨valid, _⟩ := accepted_of_lastUpload? last
  obtain ⟨source, result⟩ := now_sound.faithful.serves.found key use _ valid held
  rw [handle_of_get get blob, status_complete, deliver_eq_200_iff]
  exact ⟨key, use, _, read, result⟩

theorem fresh_of_start {settings : Settings} {t : FileTree}
    (started : (start settings now t).result = .ok s) : Depot.Fresh settings t s.depot := by
  rw [start] at started
  split at started
  · cases started
  · rename_i log depot opened
    cases started
    exact .inl (by rw [opened])

/-- However uploads, failed uploads and other requests follow one another, a reader gets the
    bytes of the last upload to the key that was answered with success, and the answer to that
    upload confirmed the key and the number of these bytes.  Before the first such upload a
    reader gets the file that the tree had when the service was started.  Once there was such
    an upload, every reader whose request is understood gets an answer of that kind. -/
theorem reads_last_upload {settings : Settings} {t : FileTree}
    {requests : List (Moment × Request)} {before after : List Exchange} {response : Response}
    (started : (start settings now t).result = .ok s) (rooted : t.Rooted)
    (seen : s.transcript requests = before ++ (r, response) :: after) (get : r.method = .get)
    (path : r.target.path = "/blobs/" ++ encoded) (named : encoded ≠ "") :
    (response.status = 200 → ∃ key, Names r key ∧
      (∀ put answer, LastUpload key before (put, answer) → put.body.failure = none ∧
        response.body = put.body.joined ∧ Confirms answer.body key put.body.joined.size) ∧
      ((∀ e ∈ before, ¬ Stores key e) → ∃ base, s.depot.archive.Mounted base ∧
        t.node? (base ++ names (settings.keyPrefix ++ key)) = some (.file response.body))) ∧
    ∀ key use, Names r key → CacheOption.parse r.target.query = .ok use →
      (∃ e ∈ before, Stores key e) → response.status = 200 := by
  have fresh := fresh_of_start started
  obtain ⟨_, opened, _, keyPrefix⟩ := fresh.parts
  have sound : Sound settings.keyPrefix s.depot :=
    ⟨fresh.faithful, Archive.rooted_openAt rooted opened, keyPrefix⟩
  have blob : Route.ofPath? r.target.path = some (.blob encoded) :=
    ofPath?_eq_blob_iff.mpr ⟨named, path⟩
  obtain ⟨earlier, now', rfl, rfl⟩ := split_transcript seen
  constructor
  · intro success
    obtain ⟨key, decoded, got⟩ := body_after_run sound earlier get blob success
    refine ⟨key, names_iff.mpr ⟨encoded, blob, decoded⟩, fun put answer last => ?_, fun unstored => ?_⟩
    · rw [← lastUpload?_eq_some_iff] at last
      rw [uploaded?, last] at got
      obtain ⟨_, ends, confirms⟩ := accepted_of_lastUpload? last
      exact ⟨ends, (Option.some.inj got).symm, confirms⟩
    · -- Nothing was uploaded, so the bytes are those of the tree that was opened.
      rw [uploaded?, lastUpload?_eq_none_iff.mpr unstored] at got
      obtain ⟨base, mounted⟩ := fresh.faithful.mounted
      obtain ⟨_, _, _, stands⟩ := (fresh.holdings_eq_some_iff rooted mounted).mp got
      exact ⟨base, mounted, stands⟩
  · rintro key use names understood ⟨e, took, stored⟩
    obtain ⟨_, blob', decoded⟩ := names_iff.mp names
    cases blob.symm.trans blob'
    have some_upload : lastUpload? key (s.transcript earlier) ≠ none :=
      fun none_found => lastUpload?_eq_none_iff.mp none_found e took stored
    obtain ⟨last, found⟩ := Option.ne_none_iff_exists'.mp some_upload
    exact status_after_run sound earlier get blob (readAddress_eq_ok_iff.mpr ⟨decoded, understood⟩)
      found

/-- One upload in three frames and one that breaks off are followed by a reader who writes the
    key in another way and goes around the cache. -/
theorem reads_last_upload_of_broken :
    let t := FileTree.empty.set ["blobs"] .directory
    let settings : Settings :=
      { directory := "blobs", entryLimit := 2, byteLimit := 4, uploadLimit := 3 }
    let s : Service := ⟨⟨⟨t, .ofString "blobs", 0⟩, .empty 2 4, ""⟩, 3, ⟨0, 0⟩⟩
    let whole : Request := ⟨.put, ⟨"/blobs/%61", ""⟩, ⟨[⟨#[1]⟩, .empty, ⟨#[2]⟩], none⟩⟩
    let broken : Request := ⟨.put, ⟨"/blobs/a", ""⟩, ⟨[⟨#[3]⟩], some "reset"⟩⟩
    let reader : Request := ⟨.get, ⟨"/blobs//a", "nocache=true"⟩, ⟨[], none⟩⟩
    let receipt := s.handle ⟨1, 0⟩ whole
    let refusal := receipt.service.handle ⟨2, 0⟩ broken
    let response := (refusal.service.handle ⟨3, 0⟩ reader).response
    (start settings ⟨0, 0⟩ t).result = .ok s ∧ t.Rooted ∧
      s.transcript [(⟨1, 0⟩, whole), (⟨2, 0⟩, broken), (⟨3, 0⟩, reader)] =
        [(whole, receipt.response), (broken, refusal.response), (reader, response)] ∧
      Names whole "a" ∧ Names broken "a" ∧ Names reader "a" ∧
      LastUpload "a" [(whole, receipt.response), (broken, refusal.response)]
        (whole, receipt.response) ∧
      Confirms receipt.response.body "a" 2 ∧
      receipt.response.body =
        "\x7b\"message\":\"Blob 'a' stored successfully\",\"key\":\"a\",\"size\":2\x7d".toUTF8 ∧
      response.status = 200 ∧ response.body = ⟨#[1, 2]⟩ := by
  intro t settings s whole broken reader receipt refusal response
  have there : t.stat (.ofString "blobs") = .ok .directory := by decide +kernel
  have started : (start settings ⟨0, 0⟩ t).result = .ok s := by
    simp only [start, Depot.openWith, Archive.openAt, settings, there]
    rfl
  have rooted : (FileTree.empty.set ([] ++ ["blobs"]) .directory).Rooted :=
    rooted_empty.set rfl (by decide +kernel)
  have seen : s.transcript [(⟨1, 0⟩, whole), (⟨2, 0⟩, broken), (⟨3, 0⟩, reader)] =
      [(whole, receipt.response), (broken, refusal.response)] ++ (reader, response) :: [] := rfl
  have path : reader.target.path = "/blobs/" ++ "/a" := by decide
  have named : ∀ r ∈ [whole, broken, reader], blobKey? r = some "a" := by decide +kernel
  simp only [List.forall_mem_cons, blobKey?_eq_some_iff] at named
  obtain ⟨names_whole, names_broken, names_reader, -⟩ := named
  have understood : CacheOption.parse reader.target.query = .ok .around := by decide +kernel
  have stored : stores "a" (whole, receipt.response) = true := by decide +kernel
  have unstored : stores "a" (broken, refusal.response) = false := by decide +kernel
  have last : LastUpload "a" [(whole, receipt.response), (broken, refusal.response)]
      (whole, receipt.response) := by
    rw [← lastUpload?_eq_some_iff]
    simp [lastUpload?, unstored, stored]
  obtain ⟨told, answered⟩ := reads_last_upload started rooted seen rfl path (by decide)
  have success := answered "a" .around names_reader understood
    ⟨_, List.mem_cons_self, stores_iff.mp stored⟩
  obtain ⟨key, names_key, uploaded, -⟩ := told success
  obtain rfl := names_key.unique names_reader
  obtain ⟨-, body, confirms⟩ := uploaded _ _ last
  exact ⟨started, rooted, seen, names_whole, names_broken, names_reader, last, confirms,
    by decide +kernel, success, body⟩

end BlobDepot.Service
