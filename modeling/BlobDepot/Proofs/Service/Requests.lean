import BlobDepot.Service
import BlobDepot.Proofs.Depot.Faithful

/-! # What a request does

A request makes one call to the depot or none, and `demand?` reads off which.  All that it
changes in the service is what the call changes in the depot (`service_handle`), so what
every call keeps, every request keeps.

The rest of the module is about the two blob requests: which handler a path leads to, and
what is added to its response on the way out.
-/

namespace BlobDepot.Service

open Http

variable {s : Service} {now : Moment} {r : Request} {encoded query key : String}
variable {body : Upload} {data : ByteArray} {use : CacheUse}

/-! ## Paths of blobs -/

theorem ofPath?_blobsPath_append (named : encoded ≠ "") :
    Route.ofPath? (blobsPath ++ encoded) = some (.blob encoded) := by
  have start : blobsPath.toList = ['/', 'b', 'l', 'o', 'b', 's', '/'] := by decide
  have letters : (blobsPath ++ encoded).toList =
      ['/', 'b', 'l', 'o', 'b', 's', '/'] ++ encoded.toList := by
    rw [String.toList_append, start]
  have stats : blobsPath ++ encoded ≠ "/stats" := by
    intro same
    rw [same] at letters
    cases letters
  have health : blobsPath ++ encoded ≠ "/health" := by
    intro same
    rw [same] at letters
    cases letters
  have some_letter : encoded.toList ≠ [] := by
    intro bare
    exact named (String.toList_inj.mp bare)
  simp [Route.ofPath?, stats, health, letters, start, some_letter, String.ofList_toList]

/-! ## What a blob request says -/

theorem readAddress_eq_ok_iff : readAddress encoded query = .ok (key, use) ↔
    decodeKey? encoded = some key ∧ CacheOption.parse query = .ok use := by
  rw [readAddress]
  cases decodeKey? encoded with
  | none => simp
  | some named => cases CacheOption.parse query <;> simp

theorem readUpload_eq_ok_iff {limit : Nat} :
    readUpload limit encoded query body = .ok (key, use, data) ↔
      readAddress encoded query = .ok (key, use) ∧ body.joined.size ≤ limit ∧
        body.failure = none ∧ body.joined = data := by
  rw [readUpload]
  cases readAddress encoded query with
  | error refusal => simp
  | ok address =>
    obtain ⟨named, asked⟩ := address
    simp only [Upload.collect_eq]
    by_cases large : limit < body.joined.size
    · simp [large]
    · cases body.failure <;> simp [large, Nat.not_lt.mp large, and_assoc]

/-! ## Completing a response -/

theorem status_complete (method : Method) (response : Response) :
    (complete method response).status = response.status := by
  rw [complete]
  split <;> rfl

theorem body_complete {method : Method} (bodied : method ≠ .head) (response : Response) :
    (complete method response).body = response.body := by
  rw [complete, if_neg bodied]
  rfl

/-! ## Blob requests -/

theorem handle_of_get (get : r.method = .get)
    (blob : Route.ofPath? r.target.path = some (.blob encoded)) :
    s.handle now r = { s.deliver encoded r.target.query with
      response := complete .get (s.deliver encoded r.target.query).response } := by
  obtain ⟨method, target, body⟩ := r
  cases get
  simp only [handle, answer, blob]
  rfl

theorem handle_of_put (put : r.method = .put)
    (blob : Route.ofPath? r.target.path = some (.blob encoded)) :
    s.handle now r = { s.receive encoded r.target.query r.body with
      response := complete .put (s.receive encoded r.target.query r.body).response } := by
  obtain ⟨method, target, body⟩ := r
  cases put
  simp only [handle, answer, blob]
  rfl

/-! ## The call that a request makes -/

/-- The call to the depot that a request makes, under some limit for uploads. -/
def demand? (limit : Nat) (r : Request) : Option Depot.Call :=
  match Route.ofPath? r.target.path, r.method with
  | some (.blob encoded), .get | some (.blob encoded), .head =>
    (readAddress encoded r.target.query).toOption.map fun (key, use) => .get key use
  | some (.blob encoded), .put =>
    (readUpload limit encoded r.target.query r.body).toOption.map
      fun (key, use, data) => .put key data use
  | _, _ => none

theorem demand?_eq_put_iff {limit : Nat} : demand? limit r = some (.put key data use) ↔
    r.method = .put ∧ ∃ encoded, Route.ofPath? r.target.path = some (.blob encoded) ∧
      readUpload limit encoded r.target.query r.body = .ok (key, use, data) := by
  rw [demand?]
  cases Route.ofPath? r.target.path with
  | none => simp
  | some route =>
    cases route with
    | stats | health => simp
    | blob encoded =>
      cases r.method with
      | get | head => cases readAddress encoded r.target.query <;> simp [Except.toOption]
      | put =>
        simp only [Option.some.injEq, Route.blob.injEq, exists_eq_left', true_and]
        cases readUpload limit encoded r.target.query r.body with
        | error refusal => simp [Except.toOption]
        | ok upload =>
          obtain ⟨named, asked, bytes⟩ := upload
          simp [Except.toOption, and_comm]
      | options | other => simp

/-- The service after the depot was called, if it was. -/
def afterCall (s : Service) : Option Depot.Call → Service
  | none => s
  | some call => { s with depot := (s.depot.step call).2 }

theorem service_deliver (s : Service) (encoded query : String) :
    (s.deliver encoded query).service =
      s.afterCall ((readAddress encoded query).toOption.map fun (key, use) => .get key use) := by
  rw [deliver]
  cases readAddress encoded query <;> rfl

theorem service_receive (s : Service) (encoded query : String) (body : Upload) :
    (s.receive encoded query body).service =
      s.afterCall ((readUpload s.uploadLimit encoded query body).toOption.map
        fun (key, use, data) => .put key data use) := by
  rw [receive]
  cases readUpload s.uploadLimit encoded query body <;> rfl

theorem service_handle (s : Service) (now : Moment) (r : Request) :
    (s.handle now r).service = s.afterCall (demand? s.uploadLimit r) := by
  obtain ⟨method, target, body⟩ := r
  -- Completing the response does not touch the service.
  change (s.answer now ⟨method, target, body⟩).service = _
  rw [answer, demand?]
  cases Route.ofPath? target.path with
  | none => cases method <;> rfl
  | some route =>
    cases route with
    | stats | health => cases method <;> rfl
    | blob encoded =>
      cases method with
      | get | head => exact service_deliver s encoded target.query
      | put => exact service_receive s encoded target.query body
      | options | other => rfl

/-- What every call to a depot keeps, every request keeps. -/
theorem kept_handle {P : Depot → Prop} (kept : ∀ (d : Depot) (call : Depot.Call), P d →
    P (d.step call).2) (holds : P s.depot) (now : Moment) (r : Request) :
    P (s.handle now r).service.depot := by
  rw [service_handle]
  cases demand? s.uploadLimit r with
  | none => exact holds
  | some call => exact kept s.depot call holds

end BlobDepot.Service
