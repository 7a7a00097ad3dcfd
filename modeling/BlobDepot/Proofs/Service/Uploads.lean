import BlobDepot.Proofs.Service.Requests

/-! # What becomes of an upload

An upload can go wrong in several ways at once.  `Service.fate` asks for them in a fixed
order and names the first that applies; `receive_decided` says that the service answers by
it.  A fate that does not reach the archive leaves the whole service as it was, so no
refused upload leaves bytes behind or costs the blob its cached copy.

The fate depends on the joined frames only.  So the cuts between frames cannot be seen from
outside (`split_unseen`), not even when the stream breaks off: the limit is exceeded by all
frames together or it is not.
-/

namespace BlobDepot.Service

open Http BlobKey

/-- What becomes of an upload, in the order in which the ways to go wrong are looked for. -/
inductive Fate where
  /-- The path is no text, or the query is not understood. -/
  | misaddressed
  | tooLarge
  /-- The body breaks off. -/
  | broken
  /-- The key is defective, by itself or behind the prefix. -/
  | badKey
  /-- The archive refuses to write. -/
  | unwritten
  | stored
  deriving DecidableEq, Repr

def Fate.status : Fate → Nat
  | .misaddressed => 400
  | .tooLarge => 413
  | .broken => 400
  | .badKey => 400
  | .unwritten => 500
  | .stored => 200

/-- The archive is asked to write. -/
def Fate.reachesArchive : Fate → Bool
  | .unwritten | .stored => true
  | .misaddressed | .tooLarge | .broken | .badKey => false

/-- What becomes of an upload to an encoded key. -/
def fate (s : Service) (encoded query : String) (body : Upload) : Fate :=
  match decodeKey? encoded, CacheOption.parse query with
  | some key, .ok _ =>
    if s.uploadLimit < body.joined.size then .tooLarge
    else if body.failure.isSome then .broken
    else if ¬ (Valid key ∧ Valid (s.depot.keyPrefix ++ key)) then .badKey
    else
      match (s.depot.archive.write (s.depot.keyPrefix ++ key) body.joined).1 with
      | .error _ => .unwritten
      | .ok () => .stored
  | _, _ => .misaddressed

/-- A reply carries out the fate of an upload.  Unless the archive is asked to write, nothing
    in the service changes. -/
structure CarriesOut (s : Service) (fate : Fate) (reply : Reply) : Prop where
  status : reply.response.status = fate.status
  unchanged : fate.reachesArchive = false → reply.service = s ∧ reply.evicted = []

variable {s : Service} {now : Moment} {r : Request} {target : Target} {encoded query key : String}
variable {body : Upload} {use : CacheUse} {reason : String}

/-! ## The fate of an upload whose address is read -/

theorem fate_of_misread (misread : ∀ address, readAddress encoded query ≠ .ok address) :
    s.fate encoded query body = .misaddressed := by
  rw [fate]
  split
  · rename_i key use named read
    exact absurd (readAddress_eq_ok_iff.mpr ⟨named, read⟩) (misread (key, use))
  · rfl

theorem fate_of_read (read : readAddress encoded query = .ok (key, use)) :
    s.fate encoded query body =
      if s.uploadLimit < body.joined.size then .tooLarge
      else if body.failure.isSome then .broken
      else if ¬ (Valid key ∧ Valid (s.depot.keyPrefix ++ key)) then .badKey
      else
        match (s.depot.archive.write (s.depot.keyPrefix ++ key) body.joined).1 with
        | .error _ => .unwritten
        | .ok () => .stored := by
  obtain ⟨named, asked⟩ := readAddress_eq_ok_iff.mp read
  rw [fate, named, asked]

theorem fate_eq_tooLarge_iff : s.fate encoded query body = .tooLarge ↔
    (∃ address, readAddress encoded query = .ok address) ∧ s.uploadLimit < body.joined.size := by
  cases read : readAddress encoded query with
  | error refusal =>
    rw [fate_of_misread (by simp [read])]
    simp
  | ok address =>
    obtain ⟨key, use⟩ := address
    rw [fate_of_read read]
    by_cases large : s.uploadLimit < body.joined.size
    · simp [large]
    · rw [if_neg large]
      constructor
      · -- Behind the limit there is no way back to it.
        intro decided
        split at decided
        · cases decided
        · split at decided
          · cases decided
          · split at decided <;> cases decided
      · rintro ⟨_, exceeds⟩
        exact absurd exceeds large

theorem status_eq_413_iff (f : Fate) : f.status = 413 ↔ f = .tooLarge := by
  cases f <;> decide

/-! ## The service answers by the fate -/

theorem status_misread {refusal : Refusal} (misread : readAddress encoded query = .error refusal) :
    refusal.response.status = 400 := by
  rw [readAddress] at misread
  split at misread
  · cases misread
    rfl
  · split at misread
    · cases misread
      rfl
    · cases misread

theorem receive_of_misread {refusal : Refusal}
    (misread : readAddress encoded query = .error refusal) :
    s.receive encoded query body = ⟨refusal.response, [], s⟩ := by
  simp only [receive, readUpload, misread]

theorem receive_of_large (read : readAddress encoded query = .ok (key, use))
    (large : s.uploadLimit < body.joined.size) : s.receive encoded query body =
      ⟨(Refusal.upload s.uploadLimit .tooLarge).response, [], s⟩ := by
  simp only [receive, readUpload, read, Upload.collect_eq, if_pos large]

theorem receive_of_broken (read : readAddress encoded query = .ok (key, use))
    (fits : ¬ s.uploadLimit < body.joined.size) (breaks : body.failure = some reason) :
    s.receive encoded query body =
      ⟨(Refusal.upload s.uploadLimit (.broken reason)).response, [], s⟩ := by
  simp only [receive, readUpload, read, Upload.collect_eq, if_neg fits, breaks]

theorem receive_of_whole (read : readAddress encoded query = .ok (key, use))
    (fits : ¬ s.uploadLimit < body.joined.size) (ends : body.failure = none) :
    s.receive encoded query body = ⟨receiptResponse key (s.depot.put key body.joined use).result,
      (s.depot.put key body.joined use).evicted,
      { s with depot := (s.depot.put key body.joined use).depot }⟩ := by
  simp only [receive, readUpload, read, Upload.collect_eq, if_neg fits, ends]

theorem receive_whole_decided (read : readAddress encoded query = .ok (key, use))
    (fits : ¬ s.uploadLimit < body.joined.size) (ends : body.failure = none) :
    s.CarriesOut (s.fate encoded query body) (s.receive encoded query body) := by
  rw [fate_of_read read, if_neg fits, ends, if_neg (by simp), receive_of_whole read fits ends]
  -- From here on the depot decides: first by the key, then by what the archive says.
  by_cases valid : Valid key ∧ Valid (s.depot.keyPrefix ++ key)
  · have result := Depot.put_result_of_valid valid body.joined use
    rw [if_neg (not_not.mpr valid)]
    cases written : (s.depot.archive.write (s.depot.keyPrefix ++ key) body.joined).1 with
    | error f =>
      obtain ⟨e, rfl⟩ := Archive.exists_errno_of_write_error written
      rw [written] at result
      rw [result]
      exact ⟨rfl, fun reached => by cases reached⟩
    | ok done =>
      rw [written] at result
      rw [result]
      exact ⟨rfl, fun reached => by cases reached⟩
  · obtain ⟨defect, refused⟩ := Depot.put_of_invalid valid body.joined use
    rw [if_pos valid, refused]
    exact ⟨rfl, fun _ => ⟨rfl, rfl⟩⟩

theorem receive_decided (s : Service) (encoded query : String) (body : Upload) :
    s.CarriesOut (s.fate encoded query body) (s.receive encoded query body) := by
  cases read : readAddress encoded query with
  | error refusal =>
    rw [fate_of_misread (by simp [read]), receive_of_misread read]
    exact ⟨status_misread read, fun _ => ⟨rfl, rfl⟩⟩
  | ok address =>
    obtain ⟨key, use⟩ := address
    by_cases large : s.uploadLimit < body.joined.size
    · rw [fate_of_read read, if_pos large, receive_of_large read large]
      exact ⟨rfl, fun _ => ⟨rfl, rfl⟩⟩
    · cases ending : body.failure with
      | some reason =>
        rw [fate_of_read read, if_neg large, ending, if_pos Option.isSome_some,
          receive_of_broken read large ending]
        exact ⟨rfl, fun _ => ⟨rfl, rfl⟩⟩
      | none => exact receive_whole_decided read large ending

theorem status_handle_of_put (put : r.method = .put)
    (blob : Route.ofPath? r.target.path = some (.blob encoded)) :
    (s.handle now r).response.status = (s.fate encoded r.target.query r.body).status := by
  rw [handle_of_put put blob, status_complete]
  exact (receive_decided s encoded r.target.query r.body).status

/-- An upload is answered by the first way to go wrong that applies to it, or else it is
    stored.  Whatever keeps it from the archive leaves the whole service as it was. -/
theorem upload_decided (s : Service) (now : Moment) (put : r.method = .put)
    (path : r.target.path = blobsPath ++ encoded) (named : encoded ≠ "") :
    s.CarriesOut (s.fate encoded r.target.query r.body) (s.handle now r) := by
  have blob : Route.ofPath? r.target.path = some (.blob encoded) := by
    rw [path, ofPath?_blobsPath_append named]
  refine ⟨status_handle_of_put put blob, fun unreached => ?_⟩
  rw [handle_of_put put blob]
  exact (receive_decided s encoded r.target.query r.body).unchanged unreached

/-- A body that is too large also breaks off, and its key is defective. -/
theorem upload_decided_of_oversized :
    let s : Service := ⟨⟨⟨.empty, .ofString "blobs", 0⟩, .empty 2 8, ""⟩, 2, ⟨0, 0⟩⟩
    let r : Request := ⟨.put, ⟨"/blobs/%2e", ""⟩, ⟨[⟨#[1]⟩, ⟨#[2]⟩, ⟨#[3]⟩], some "reset"⟩⟩
    r.method = .put ∧ r.target.path = blobsPath ++ "%2e" ∧ "%2e" ≠ "" ∧
      (s.handle ⟨9, 0⟩ r).response.status = 413 ∧ (s.handle ⟨9, 0⟩ r).service = s := by
  intro s r
  have put : r.method = .put := rfl
  have path : r.target.path = blobsPath ++ "%2e" := by decide
  have fate : s.fate "%2e" r.target.query r.body = .tooLarge := by decide +kernel
  obtain ⟨status, unchanged⟩ := upload_decided s ⟨9, 0⟩ put path (by decide)
  rw [fate] at status unchanged
  exact ⟨put, path, by decide, status, (unchanged rfl).1⟩

/-! ## Cuts between frames -/

theorem receive_whole_joined (ends : body.failure = none) :
    s.receive encoded query (.whole body.joined) = s.receive encoded query body := by
  simp only [receive, readUpload, Upload.collect_whole_joined ends]

/-- However a body is cut into frames, empty ones included, it is handled like its bytes in
    one frame.  Only what all frames together exceed is refused as too large, and this is
    also what the answer to a body that breaks off depends on. -/
theorem split_unseen (s : Service) (now : Moment) (path : target.path = blobsPath ++ encoded)
    (named : encoded ≠ "") (frames : List ByteArray) :
    let data := Upload.joined ⟨frames, none⟩
    let ended := s.handle now ⟨.put, target, ⟨frames, none⟩⟩
    let addressed := ∃ address, readAddress encoded target.query = .ok address
    ended = s.handle now ⟨.put, target, .whole data⟩ ∧
      (ended.response.status = 413 ↔ addressed ∧ s.uploadLimit < data.size) ∧
      ∀ reason, addressed →
        (s.handle now ⟨.put, target, ⟨frames, some reason⟩⟩).response.status =
          if s.uploadLimit < data.size then 413 else 400 := by
  intro data ended addressed
  have blob : Route.ofPath? target.path = some (.blob encoded) := by
    rw [path, ofPath?_blobsPath_append named]
  refine ⟨?_, ?_, ?_⟩
  · have cut : ended = _ := handle_of_put rfl blob
    have whole : s.handle now ⟨.put, target, .whole data⟩ = _ := handle_of_put rfl blob
    rw [cut, whole, receive_whole_joined rfl]
  · have status : ended.response.status = _ := status_handle_of_put rfl blob
    rw [status, status_eq_413_iff]
    exact fate_eq_tooLarge_iff
  · rintro reason ⟨⟨key, use⟩, read⟩
    rw [status_handle_of_put rfl blob, fate_of_read read]
    -- The frames are joined without a look at how their stream ends.
    change Fate.status (if s.uploadLimit < data.size then _ else _) = _
    split <;> rfl

/-- Three frames, one of them empty, reach the limit exactly. -/
theorem split_unseen_of_three :
    let t := FileTree.empty.set ["blobs"] .directory
    let s : Service := ⟨⟨⟨t, .ofString "blobs", 0⟩, .empty 2 8, ""⟩, 3, ⟨0, 0⟩⟩
    let target : Target := ⟨"/blobs/a", "nocache=true"⟩
    let frames : List ByteArray := [⟨#[1]⟩, .empty, ⟨#[2, 3]⟩]
    target.path = blobsPath ++ "a" ∧ "a" ≠ "" ∧
      s.handle ⟨9, 0⟩ ⟨.put, target, ⟨frames, none⟩⟩ =
        s.handle ⟨9, 0⟩ ⟨.put, target, .whole ⟨#[1, 2, 3]⟩⟩ ∧
      (s.handle ⟨9, 0⟩ ⟨.put, target, ⟨frames, none⟩⟩).response.status ≠ 413 ∧
      (s.handle ⟨9, 0⟩ ⟨.put, target, ⟨frames, some "reset"⟩⟩).response.status = 400 := by
  intro t s target frames
  have path : target.path = blobsPath ++ "a" := by decide
  obtain ⟨same, large, broken⟩ := split_unseen s ⟨9, 0⟩ path (by decide) frames
  have read : readAddress "a" target.query = .ok ("a", .around) := by decide +kernel
  have fits : ¬ s.uploadLimit < (Upload.joined ⟨frames, none⟩).size := by decide
  refine ⟨path, by decide, same, fun refused => fits (large.mp refused).2, ?_⟩
  rw [broken "reset" ⟨_, read⟩, if_neg fits]

end BlobDepot.Service
