import BlobDepot.Launch
import BlobDepot.Proofs.Depot.Opening

/-! # Starting with a bad setup

A setup is bad if its settings cannot be read, if no server could work with them, or if the depot
cannot be opened for a fault of the setup (`Rejected`).  A start fails for such a fault exactly
then; each stage refuses its part before a later one acts, so the tree is as it was
(`rejected_iff`).

Of all events of a start only the last one announces that the program listens, and it is there
exactly if the start succeeded (`announces_iff`).  What else is logged is told apart from it by
the words it begins with; paths and prefixes stand in fields, or behind these words.
-/

namespace BlobDepot

namespace Settings

variable {env : Environment} {s : Settings} {d : Defect}

theorem load_eq_ok_iff : load env = .ok s ↔ read env = .ok s ∧ s.defect? = none := by
  rw [load, bind_eq_ok_iff]
  constructor
  · rintro ⟨s', given, passed⟩
    split at passed
    · cases passed
      exact ⟨given, ‹_›⟩
    · cases passed
  · rintro ⟨given, whole⟩
    exact ⟨s, given, by rw [whole]⟩

theorem load_eq_error_iff : load env = .error d ↔
    read env = .error d ∨ ∃ s, read env = .ok s ∧ s.defect? = some d := by
  rw [load, bind_eq_error_iff]
  refine or_congr_right (exists_congr fun s => and_congr_right fun _ => ?_)
  cases s.defect? <;> simp

end Settings

namespace Launch

/-- An event tells that the program listens. -/
def Announces (e : Log.Event) : Prop :=
  "Server listening on ".toList <+: e.message.toList

/-- The setup that an environment describes is bad. -/
inductive Rejected (env : Environment) (t : FileTree) : Prop where
  | unread (d : Settings.Defect) (given : Settings.read env = .error d)
  | unusable (s : Settings) (d : Settings.Defect) (given : Settings.read env = .ok s)
      (defect : s.defect? = some d)
  | unopened (s : Settings) (f : Fault) (tree : FileTree) (given : Settings.read env = .ok s)
      (failed : (Depot.openWith s t).result = .error (f, tree)) (kind : f.kind = .badSetup)

variable {env : Environment} {now : Moment} {t tree : FileTree} {s : Settings} {e : Log.Event}
variable {failure : Failure}

/-! ## What announces nothing -/

theorem not_announces_of_head {c : Char} (first : e.message.toList.head? = some c) (other : c ≠ 'S') :
    ¬ Announces e := by
  rintro ⟨rest, split⟩
  rw [← split, List.head?_append] at first
  cases first
  exact other rfl

theorem head?_append {front back : String} {c : Char} (first : front.toList.head? = some c) :
    (front ++ back).toList.head? = some c := by
  rw [String.toList_append, List.head?_append, first]
  rfl

theorem not_announces_starting : ¬ Announces (note "Starting Blob Cache Server") := by
  show ¬ "Server listening on ".toList <+: "Starting Blob Cache Server".toList
  decide

theorem not_announces_loaded (s : Settings) : ¬ Announces (note (loadedMessage s)) := by
  refine not_announces_of_head (c := 'C') ?_ (by decide)
  show (loadedMessage s).toList.head? = some 'C'
  unfold loadedMessage
  iterate 7 refine head?_append ?_
  decide

theorem not_announces_badSetup {f : Fault} (kind : f.kind = .badSetup) (level : Log.Level)
    (target : String) : ¬ Announces ⟨level, target, f.message, []⟩ := by
  refine not_announces_of_head (c := 'I') ?_ (by decide)
  show f.message.toList.head? = some 'I'
  rw [Fault.message, kind]
  exact head?_append (head?_append (by decide))

theorem announces_listening (port : Nat) :
    Announces (note ("Server listening on http://0.0.0.0:" ++ toString port)) := by
  have words : "Server listening on ".toList <+: "Server listening on http://0.0.0.0:".toList := by
    decide
  show _ <+: ("Server listening on http://0.0.0.0:" ++ toString port).toList
  rw [String.toList_append]
  exact words.trans (List.prefix_append _ _)

theorem openAt_silent (root : Path) (t : FileTree) : ∀ e ∈ (Archive.openAt root t).log, ¬ Announces e := by
  have opened : ¬ "Server listening on ".toList <+: "Blob store opened".toList := by decide
  have creating : ¬ "Server listening on ".toList <+:
    "Storage directory does not exist; creating it".toList := by decide
  intro e member
  rw [Archive.openAt] at member
  simp only at member
  split at member
  · cases List.mem_singleton.mp member
    exact opened
  · cases member
  · split at member
    · obtain rfl | rfl := List.mem_pair.mp member
      · exact creating
      · exact opened
    · cases List.mem_singleton.mp member
      exact creating
  · cases member

theorem openWith_silent (s : Settings) (t : FileTree) : ∀ e ∈ (Depot.openWith s t).log, ¬ Announces e := by
  have ready : ¬ "Server listening on ".toList <+: "Blob storage ready".toList := by decide
  have silent := openAt_silent (.ofString s.directory) t
  intro e member
  rw [Depot.openWith] at member
  split at member
  · cases member
  · split at member
    · cases member
    · split at member
      · rename_i log failure refused
        rw [refused] at silent
        exact silent e member
      · rename_i log archive found
        rw [found] at silent
        obtain before | last := List.mem_append.mp member
        · exact silent e before
        · cases List.mem_singleton.mp last
          exact ready

/-! ## The stages of a start -/

theorem start_of_load_error {d : Settings.Defect} (refused : Settings.load env = .error d) :
    start env now t = ⟨[note "Starting Blob Cache Server", ⟨.error, logTarget, d.fault.message, []⟩],
      .error (⟨.configuring, d.fault⟩, t)⟩ := by
  rw [start, refused]

theorem start_of_openWith_error {f : Fault} (loaded : Settings.load env = .ok s)
    (failed : (Depot.openWith s t).result = .error (f, tree)) :
    start env now t = ⟨[note "Starting Blob Cache Server", note (loadedMessage s)] ++
      (Depot.openWith s t).log, .error (⟨.opening, f⟩, tree)⟩ := by
  simp only [start, loaded, Service.start]
  generalize Depot.openWith s t = opening at failed ⊢
  obtain ⟨log, result⟩ := opening
  cases failed
  rfl

theorem start_of_openWith_ok {d : Depot} (loaded : Settings.load env = .ok s)
    (opened : (Depot.openWith s t).result = .ok d) :
    start env now t = ⟨[note "Starting Blob Cache Server", note (loadedMessage s)] ++
      (Depot.openWith s t).log ++ [note ("Server listening on http://0.0.0.0:" ++ toString s.port)],
      .ok ⟨s, ⟨d, s.uploadLimit, now⟩⟩⟩ := by
  simp only [start, loaded, Service.start]
  generalize Depot.openWith s t = opening at opened ⊢
  obtain ⟨log, result⟩ := opening
  cases opened
  rfl

/-- A start announces that the program listens exactly if it does. -/
theorem announces_iff : (∃ e ∈ (start env now t).log, Announces e) ↔
    ∃ running, (start env now t).result = .ok running := by
  -- By the stage in which the start ends: only in the last is there an event after the depot's.
  cases loaded : Settings.load env with
  | error d =>
    rw [start_of_load_error loaded]
    simp [not_announces_starting, not_announces_badSetup (f := d.fault) rfl]
  | ok s =>
    have silent := openWith_silent s t
    cases opened : (Depot.openWith s t).result with
    | error failed =>
      rw [start_of_openWith_error loaded opened]
      simpa [not_announces_starting, not_announces_loaded] using silent
    | ok d =>
      rw [start_of_openWith_ok loaded opened]
      exact ⟨fun _ => ⟨_, rfl⟩, fun _ => ⟨_, List.mem_concat_self, announces_listening s.port⟩⟩

theorem run_of_failed (signal : Signal) (failed : (start env now t).result = .error (failure, tree)) :
    run env now t signal = ⟨1, shownLines env now (start env now t).log, failure.report, tree⟩ := by
  rw [run]
  simp only [failed]

/-- A start fails for a fault of the setup exactly if the setup is bad, and then it leaves the
    tree as it was. -/
theorem rejected_iff (now : Moment) : Rejected env t ↔
    ∃ failure, (start env now t).result = .error (failure, t) ∧ failure.fault.kind = .badSetup := by
  cases loaded : Settings.load env with
  | error d =>
    rw [start_of_load_error loaded]
    refine ⟨fun _ => ⟨_, rfl, rfl⟩, fun _ => ?_⟩
    obtain refused | ⟨s, given, defect⟩ := Settings.load_eq_error_iff.mp loaded
    · exact .unread d refused
    · exact .unusable s d given defect
  | ok s =>
    obtain ⟨given, whole⟩ := Settings.load_eq_ok_iff.mp loaded
    constructor
    · intro rejected
      -- The settings were read and accepted, so it is the depot that was not opened.
      cases rejected with
      | unread d refused =>
        rw [given] at refused
        cases refused
      | unusable s' d given' defect =>
        rw [given] at given'
        cases given'
        rw [whole] at defect
        cases defect
      | unopened s' f tree given' failed kind =>
        rw [given] at given'
        cases given'
        cases Depot.openWith_badSetup failed kind
        exact ⟨_, by rw [start_of_openWith_error loaded failed], kind⟩
    · rintro ⟨failure, failed, kind⟩
      cases opened : (Depot.openWith s t).result with
      | error refused =>
        rw [start_of_openWith_error loaded opened] at failed
        cases failed
        exact .unopened s _ _ given opened kind
      | ok d =>
        rw [start_of_openWith_ok loaded opened] at failed
        cases failed

/-- A bad setup ends the program with a code that tells of it, before it listens and without a
    trace on disk; the same is true of every depot that a bad setup keeps from being opened.
    What an opened depot has done to the tree is to add directories on the way to its root, and
    it is opened again as it is. -/
theorem rejected_or_grown (env : Environment) (t : FileTree) :
    (Rejected env t → ∀ now signal,
      let ending := run env now t signal
      ending.tree = t ∧ ending.exitCode ≠ 0 ∧
        ending.log = shownLines env now (start env now t).log ∧
        ∀ e ∈ (start env now t).log, ¬ Announces e) ∧
      (∀ s f tree, (Depot.openWith s t).result = .error (f, tree) → f.kind = .badSetup → tree = t) ∧
      ∀ s d, (Depot.openWith s t).result = .ok d →
        FileTree.Grown (.ofString s.directory) t d.archive.tree ∧
          (Depot.openWith s d.archive.tree).result = .ok d := by
  refine ⟨fun rejected now signal => ?_, fun s f tree failed kind => ?_, fun s d opened => ?_⟩
  · obtain ⟨failure, failed, -⟩ := (rejected_iff now).mp rejected
    rw [run_of_failed signal failed]
    refine ⟨rfl, Nat.one_ne_zero, rfl, fun e member announces => ?_⟩
    obtain ⟨running, listens⟩ := announces_iff.mp ⟨e, member, announces⟩
    rw [failed] at listens
    cases listens
  · exact Depot.openWith_badSetup failed kind
  · exact ⟨Depot.grown_of_openWith opened, Depot.openWith_again opened⟩

/-- A prefix that is no key is refused before the missing root is made, and a root that is a file
    is refused as it is.  A root that is missing is made, with those above it. -/
theorem rejected_or_grown_of_missing_root :
    let bare : FileTree := { nodes := ∅, home := ["app"] }
    let t := bare.set ["app", "note"] (.file ⟨#[1]⟩)
    let env : Environment := [("STORAGE_DIR", "a/./b".toUTF8), ("STORAGE_PREFIX", "../x".toUTF8)]
    let onFile : Settings := { directory := "/app/../app/note" }
    let s : Settings := { directory := "/var/lib/blobs" }
    (Rejected env t ∧ ∀ now signal,
      (run env now t signal).tree = t ∧ (run env now t signal).exitCode ≠ 0) ∧
      (∃ f tree, (Depot.openWith onFile t).result = .error (f, tree) ∧ f.kind = .badSetup ∧ tree = t) ∧
      ∃ d, (Depot.openWith s t).result = .ok d ∧
        d.archive.tree.node? ["var", "lib", "blobs"] = some .directory ∧
        FileTree.Grown (.ofString "/var/lib/blobs") t d.archive.tree ∧
        (Depot.openWith s d.archive.tree).result = .ok d := by
  intro bare t env onFile s
  obtain ⟨bad, unopened, opened⟩ := rejected_or_grown env t
  have rejected : Rejected env t := by
    have given : Settings.read env = .ok { directory := "a/./b", keyPrefix := "../x" } := by
      decide +kernel
    have unusable : Depot.checkPrefix "../x" =
        .error ⟨.badSetup, "STORAGE_PREFIX is not usable: " ++
          (BlobKey.Defect.badSegment "../x").fault.message⟩ := by
      decide +kernel
    exact .unopened _ _ _ given (Depot.openWith_of_refused_prefix (by decide) unusable) rfl
  have usable : Depot.checkPrefix onFile.keyPrefix = .ok () := by decide +kernel
  have file : t.stat (.ofString onFile.directory) = .ok (.file ⟨#[1]⟩) := by decide +kernel
  have refused := Depot.openWith_of_file (by decide) usable file
  refine ⟨⟨rejected, fun now signal => ?_⟩, ⟨_, _, refused, rfl, unopened _ _ _ refused rfl⟩, ?_⟩
  · have ending := bad rejected now signal
    exact ⟨ending.1, ending.2.1⟩
  · have made : (Depot.openWith s t).result.toOption.bind
        (·.archive.tree.node? ["var", "lib", "blobs"]) = some .directory := by
      decide +kernel
    cases found : (Depot.openWith s t).result with
    | error failure =>
      rw [found] at made
      cases made
    | ok d =>
      rw [found] at made
      exact ⟨d, rfl, made, opened s d found⟩

end Launch

end BlobDepot
