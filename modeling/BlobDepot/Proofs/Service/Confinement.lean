import BlobDepot.Proofs.Depot.Twins
import BlobDepot.Proofs.Service.Transcript

/-! # No request leaves the storage directory

Two services are started with the same settings on trees that agree inside the storage
directory and may differ in everything else.  The same requests then get the same answers,
but for the moments in answers about health, and change both trees in the same way inside
and not at all outside (`requests_stay_inside`).  So no request reads or writes anything
outside the storage directory, whatever its path looks like.
-/

namespace BlobDepot.Service

open Http FileTree

/-- The answer to a request about health, at some moment of a service that was started at
    another. -/
def TellsHealth (e : Exchange) : Prop :=
  ∃ now since, e.2 = complete e.1.method (.json 200 (healthJson now since))

/-- The same request with the same answer.  Answers about health may tell other moments. -/
def Alike (e e' : Exchange) : Prop :=
  e.1 = e'.1 ∧ (e.2 = e'.2 ∨
    Route.ofPath? e.1.target.path = some .health ∧ TellsHealth e ∧ TellsHealth e')

/-- The same service on depots in trees that agree inside their root directory. -/
structure Twins (dirs : List String) (o o' : FileTree) (s s' : Service) : Prop where
  depots : Depot.Twins dirs o o' s.depot s'.depot
  uploadLimit : s'.uploadLimit = s.uploadLimit

variable {dirs : List String} {o o' : FileTree} {s s' : Service} {now now' : Moment} {r : Request}

/-! ## One request -/

theorem Twins.deliver_eq (twins : Twins dirs o o' s s') (encoded query : String) :
    (s.deliver encoded query).response = (s'.deliver encoded query).response := by
  rw [deliver, deliver]
  cases readAddress encoded query with
  | error refusal => rfl
  | ok address =>
    obtain ⟨key, use⟩ := address
    simp only [(twins.depots.get key use).1]

theorem Twins.receive_eq (twins : Twins dirs o o' s s') (encoded query : String) (body : Upload) :
    (s.receive encoded query body).response = (s'.receive encoded query body).response := by
  rw [receive, receive, twins.uploadLimit]
  cases readUpload s.uploadLimit encoded query body with
  | error refusal => rfl
  | ok upload =>
    obtain ⟨key, use, data⟩ := upload
    simp only [(twins.depots.put key data use).1]

theorem Twins.stats_eq (twins : Twins dirs o o' s s') : s.statsResponse = s'.statsResponse := by
  rw [statsResponse, statsResponse, twins.depots.cache]

/-- Only an answer about health depends on more than the request and the depot. -/
theorem Twins.answer_eq (twins : Twins dirs o o' s s') (now now' : Moment)
    (other : Route.ofPath? r.target.path ≠ some .health) :
    (s.answer now r).response = (s'.answer now' r).response := by
  obtain ⟨method, target, body⟩ := r
  simp only [answer]
  cases path : Route.ofPath? target.path with
  | none => cases method <;> rfl
  | some route =>
    cases route with
    | blob encoded =>
      cases method with
      | get | head => exact twins.deliver_eq encoded target.query
      | put => exact twins.receive_eq encoded target.query body
      | options | other => rfl
    | stats =>
      cases method with
      | get | head => exact twins.stats_eq
      | put | options | other => rfl
    | health => exact absurd path other

theorem Twins.alike (twins : Twins dirs o o' s s') (now now' : Moment) (r : Request) :
    Alike (r, (s.handle now r).response) (r, (s'.handle now' r).response) := by
  refine ⟨rfl, ?_⟩
  by_cases health : Route.ofPath? r.target.path = some .health
  · obtain ⟨method, target, body⟩ := r
    simp only [Service.handle, answer, health]
    cases method with
    | get | head => exact .inr ⟨trivial, ⟨now, s.since, rfl⟩, ⟨now', s'.since, rfl⟩⟩
    | put | options | other => exact .inl rfl
  · exact .inl (congrArg (complete r.method) (twins.answer_eq now now' health))

theorem Twins.handle (twins : Twins dirs o o' s s') (now now' : Moment) (r : Request) :
    Twins dirs o o' (s.handle now r).service (s'.handle now' r).service := by
  rw [service_handle, service_handle, twins.uploadLimit]
  cases demand? s.uploadLimit r with
  | none => exact twins
  | some call => exact ⟨(twins.depots.step call).2, twins.uploadLimit⟩

/-! ## Runs -/

theorem Twins.run (twins : Twins dirs o o' s s') {requests requests' : List (Moment × Request)}
    (same : requests.map (·.2) = requests'.map (·.2)) :
    List.Forall₂ Alike (s.transcript requests) (s'.transcript requests') ∧
      Twins dirs o o' (s.afterRun requests) (s'.afterRun requests') := by
  induction requests generalizing s s' requests' with
  | nil =>
    cases requests' with
    | nil => exact ⟨.nil, twins⟩
    | cons request' requests' => cases same
  | cons request requests ih =>
    cases requests' with
    | nil => cases same
    | cons request' requests' =>
      obtain ⟨now, r⟩ := request
      obtain ⟨now', r'⟩ := request'
      obtain ⟨rfl, rest⟩ := List.cons.inj same
      obtain ⟨later, last⟩ := ih (twins.handle now now' r) rest
      exact ⟨.cons (twins.alike now now' r) later, last⟩

/-! ## From the start -/

/-- The place of the storage directory in a tree, if its path is relative and has no `..`. -/
def storagePlace (settings : Settings) (t : FileTree) : Location :=
  t.home ++ (Path.ofString settings.directory).pieces.filter Path.isName

theorem uploadLimit_of_start {settings : Settings} {t : FileTree}
    (started : (start settings now t).result = .ok s) : s.uploadLimit = settings.uploadLimit := by
  rw [start] at started
  split at started
  · cases started
  · cases started
    rfl

theorem home_of_start {settings : Settings} {t : FileTree}
    (started : (start settings now t).result = .ok s) : s.depot.archive.tree.home = t.home := by
  obtain ⟨_, opened, _⟩ := (fresh_of_start started).parts
  exact (Archive.openAt_ok opened).2.2.keeps.home

theorem twins_of_start {settings : Settings} {t t' : FileTree}
    (relative : (Path.ofString settings.directory).absolute = false)
    (level : ".." ∉ (Path.ofString settings.directory).pieces) (homes : t'.home = t.home)
    (agree : ∀ place, Inside (storagePlace settings t) place → t.node? place = t'.node? place)
    (started : (start settings now t).result = .ok s)
    (started' : (start settings now' t').result = .ok s') :
    Twins ((Path.ofString settings.directory).pieces.filter Path.isName)
      s.depot.archive.tree s'.depot.archive.tree s s' := by
  refine ⟨.of_fresh relative level homes agree (fresh_of_start started) (fresh_of_start started'), ?_⟩
  rw [uploadLimit_of_start started, uploadLimit_of_start started']

/-- Take two services that were started with the same settings, the storage directory being
    given by a relative path without `..`, in one working directory and on trees that agree
    inside the storage directory.  Whatever requests they are sent, the same in the same order,
    they give the same answers, the trees stay equal inside, and outside each tree stays as it
    was when its service had been started. -/
theorem requests_stay_inside {settings : Settings} {t t' : FileTree}
    (relative : (Path.ofString settings.directory).absolute = false)
    (level : ".." ∉ (Path.ofString settings.directory).pieces) (homes : t'.home = t.home)
    (agree : ∀ place, Inside (storagePlace settings t) place → t.node? place = t'.node? place)
    (started : (start settings now t).result = .ok s)
    (started' : (start settings now' t').result = .ok s')
    {requests requests' : List (Moment × Request)}
    (same : requests.map (·.2) = requests'.map (·.2)) :
    let after := (s.afterRun requests).depot.archive.tree
    let after' := (s'.afterRun requests').depot.archive.tree
    List.Forall₂ Alike (s.transcript requests) (s'.transcript requests') ∧
      (∀ place, Inside (storagePlace settings t) place → after.node? place = after'.node? place) ∧
      ∀ place, ¬ Inside (storagePlace settings t) place →
        after.node? place = s.depot.archive.tree.node? place ∧
        after'.node? place = s'.depot.archive.tree.node? place := by
  intro after after'
  have twins := twins_of_start relative level homes agree started started'
  obtain ⟨alike, last⟩ := twins.run same
  have trees := last.depots.archives.trees
  rw [storagePlace, ← home_of_start started]
  exact ⟨alike, trees.inside, fun place without => ⟨trees.outside place without, trees.outside' place without⟩⟩

theorem exists_started {settings : Settings} {t : FileTree}
    (starts : (start settings now t).result.toBool = true) :
    ∃ s, (start settings now t).result = .ok s := by
  cases started : (start settings now t).result with
  | error failure =>
    rw [started] at starts
    cases starts
  | ok s => exact ⟨s, rfl⟩

/-- One tree has a file beside the storage directory, the other has a directory there.  The
    requests try to reach it, store a blob and ask about health. -/
theorem requests_stay_inside_of_dots :
    let settings : Settings := { directory := "./data" }
    let bare : FileTree := { nodes := ∅, home := ["srv"] }
    let t := bare.set ["srv", "secret"] (.file ⟨#[1]⟩)
    let t' := (bare.set ["srv", "data"] .directory).set ["srv", "secret"] .directory
    let requests : List Request := [
      ⟨.get, ⟨"/blobs/%2e%2e/secret", ""⟩, ⟨[], none⟩⟩,
      ⟨.put, ⟨"/blobs/..%2Fsecret", "nocache=true"⟩, ⟨[⟨#[2]⟩], none⟩⟩,
      ⟨.put, ⟨"/blobs//a/b%00", ""⟩, ⟨[⟨#[2]⟩], none⟩⟩,
      ⟨.put, ⟨"/blobs/a/b", ""⟩, ⟨[⟨#[2]⟩], none⟩⟩,
      ⟨.get, ⟨"/health", ""⟩, ⟨[], none⟩⟩]
    let sent := requests.map (Prod.mk (⟨2, 0⟩ : Moment))
    let sent' := requests.map (Prod.mk (⟨3, 0⟩ : Moment))
    t'.home = t.home ∧
    (∀ place, Inside (storagePlace settings t) place → t.node? place = t'.node? place) ∧
    ∃ s s', (start settings ⟨0, 0⟩ t).result = .ok s ∧ (start settings ⟨1, 0⟩ t').result = .ok s' ∧
      let after := (s.afterRun sent).depot.archive.tree
      let after' := (s'.afterRun sent').depot.archive.tree
      List.Forall₂ Alike (s.transcript sent) (s'.transcript sent') ∧
        (∀ place, Inside (storagePlace settings t) place → after.node? place = after'.node? place) ∧
        ∀ place, ¬ Inside (storagePlace settings t) place →
          after.node? place = s.depot.archive.tree.node? place ∧
          after'.node? place = s'.depot.archive.tree.node? place := by
  intro settings bare t t' requests sent sent'
  obtain ⟨s, started⟩ : ∃ s, (start settings ⟨0, 0⟩ t).result = .ok s :=
    exists_started (by decide +kernel)
  obtain ⟨s', started'⟩ : ∃ s', (start settings ⟨1, 0⟩ t').result = .ok s' :=
    exists_started (by decide +kernel)
  have place_eq : storagePlace settings t = ["srv", "data"] := by decide +kernel
  have agree : ∀ place, Inside (storagePlace settings t) place → t.node? place = t'.node? place := by
    rw [place_eq]
    rintro place ⟨rest, nonempty, rfl⟩
    have data : ["srv", "data"] ++ rest ≠ ["srv", "data"] := by simpa using nonempty
    have secret : ["srv", "data"] ++ rest ≠ ["srv", "secret"] := by simp
    simp only [t, t']
    rw [node?_set (by simp [bare]), if_neg secret, node?_set (by simp [bare]), if_neg secret,
      node?_set (by simp [bare]), if_neg data]
  have same : sent.map (·.2) = sent'.map (·.2) := rfl
  have homes : t'.home = t.home := rfl
  have relative : (Path.ofString settings.directory).absolute = false := by decide +kernel
  have level : ".." ∉ (Path.ofString settings.directory).pieces := by decide +kernel
  exact ⟨homes, agree, s, s', started, started',
    requests_stay_inside relative level homes agree started started' same⟩

end BlobDepot.Service
