import BlobDepot.Proofs.FileTree.Paths
import BlobDepot.Proofs.FileTree.Effects

/-! # Trees that agree inside a directory

`Twins names o o' t t'` says that the trees `t` and `t'` hold the same inside the directory to
which some names lead from the working directory, and that outside of it each of them is as it
was in `o` and `o'`.

A relative path without `..` whose names lead through the directory cannot tell twins apart,
and what it changes lies inside: every operation on such a path gives the same error in both
trees, or twins again.  Outside the trees may differ in everything but the directory itself.
-/

namespace BlobDepot.FileTree

/-- A place inside a directory, at any depth. -/
def Inside (base place : Location) : Prop :=
  ∃ rest, rest ≠ [] ∧ place = base ++ rest

/-- A relative path whose names, up to `.`, begin with the given ones and go on. -/
structure LeadsInto (names : List String) (p : Path) : Prop where
  relative : p.absolute = false
  level : ".." ∉ p.pieces
  inside : Inside names (p.pieces.filter Path.isName)

/-- The trees `t` and `t'` agree inside the directory to which the names lead, and outside
    they are as `o` and `o'`, where the directory was there. -/
structure Twins (names : List String) (o o' t t' : FileTree) : Prop where
  plain : ∀ name ∈ names, Plain name
  mounted : o.walk false names = .ok ⟨o.home ++ names, .directory⟩
  mounted' : o'.walk false names = .ok ⟨o.home ++ names, .directory⟩
  homes : o'.home = o.home
  home : t.home = o.home
  home' : t'.home = o.home
  inside : ∀ place, Inside (o.home ++ names) place → t.node? place = t'.node? place
  outside : ∀ place, ¬ Inside (o.home ++ names) place → t.node? place = o.node? place
  outside' : ∀ place, ¬ Inside (o.home ++ names) place → t'.node? place = o'.node? place

/-- Two results are the same error, or trees of which something holds. -/
inductive Alike (R : FileTree → FileTree → Prop) :
    Except Errno FileTree → Except Errno FileTree → Prop where
  | ok {t t' : FileTree} (related : R t t') : Alike R (.ok t) (.ok t')
  | error (e : Errno) : Alike R (.error e) (.error e)

/-- The same answer, with states of which something holds. -/
inductive Paired {α σ : Type} (R : σ → σ → Prop) : α × σ → α × σ → Prop where
  | mk (answer : α) {s s' : σ} (related : R s s') : Paired R (answer, s) (answer, s')

variable {o o' t t' : FileTree} {base home : Location} {names : List String} {p : Path}

/-! ## Places -/

theorem not_inside_above {place : Location} (above : place <+: base) : ¬ Inside base place := by
  rintro ⟨rest, nonempty, rfl⟩
  have bound := above.length_le
  rw [List.length_append] at bound
  exact nonempty (List.length_eq_zero_iff.mp (by omega))

/-- What lies inside a directory below the working directory is not above the latter. -/
theorem Inside.apart {place : Location} (inside : Inside (home ++ names) place) :
    ¬ place <+: home :=
  fun above => not_inside_above (above.trans (List.prefix_append home names)) inside

theorem Inside.ne {place q : Location} (inside : Inside base place) (without : ¬ Inside base q) :
    q ≠ place := by
  rintro rfl
  exact without inside

theorem LeadsInto.start (leads : LeadsInto names p) : names <+: p.pieces.filter Path.isName := by
  obtain ⟨rest, -, split⟩ := leads.inside
  exact ⟨rest, split.symm⟩

/-! ## Names without `..` -/

/-- Names without `..` lead to the same in trees that agree on the way. -/
theorem walkFrom_congr {place : Location} {node : Node} (level : ".." ∉ names)
    (agree : ∀ front, front <+: names.filter (· != ".") →
      t.node? (place ++ front) = t'.node? (place ++ front)) :
    t.walkFrom ⟨place, node⟩ names = t'.walkFrom ⟨place, node⟩ names := by
  induction names generalizing place node with
  | nil => rfl
  | cons name names ih =>
    rw [List.mem_cons, not_or] at level
    rw [walkFrom_cons, walkFrom_cons]
    cases node with
    | file data => rfl
    | directory =>
      by_cases stay : name = "."
      · -- The name `.` leads nowhere else.
        subst stay
        exact ih level.2 (by simpa using agree)
      · have kept : (name :: names).filter (· != ".") = name :: names.filter (· != ".") := by
          simp [stay]
        rw [kept] at agree
        have plain : Plain name := ⟨stay, Ne.symm level.1⟩
        have here := agree [name] ⟨names.filter (· != "."), rfl⟩
        rw [follow_plain plain, follow_plain plain]
        split
        · rfl
        · rw [find, find, here]
          cases t'.node? (place ++ [name]) with
          | none => rfl
          | some node =>
            apply ih level.2
            intro front above
            have further := agree (name :: front) (List.cons_prefix_cons.mpr ⟨rfl, above⟩)
            rwa [List.append_cons] at further

/-- On the way to a directory the name `.` does not count. -/
theorem walkFrom_dots {place dest : Location} :
    t.walkFrom ⟨place, .directory⟩ names = .ok ⟨dest, .directory⟩ ↔
      t.walkFrom ⟨place, .directory⟩ (names.filter (· != ".")) = .ok ⟨dest, .directory⟩ := by
  induction names generalizing place with
  | nil => rfl
  | cons name names ih =>
    by_cases stay : name = "."
    · subst stay
      exact ih
    · have kept : (name :: names).filter (· != ".") = name :: names.filter (· != ".") := by
        simp [stay]
      rw [kept, walkFrom_cons, walkFrom_cons, bind_eq_ok_iff, bind_eq_ok_iff]
      refine exists_congr fun next => and_congr_right fun _ => ?_
      obtain ⟨q, node⟩ := next
      -- Only a directory can lead on to one.
      constructor
      · intro led
        have between := directory_of_walkFrom led rfl
        subst between
        exact ih.mp led
      · intro led
        have between := directory_of_walkFrom led rfl
        subst between
        exact ih.mpr led

theorem walk_level {absolute : Bool} {dest : Location} (level : ".." ∉ names)
    (led : t.walk absolute names = .ok ⟨dest, .directory⟩) :
    dest = t.origin absolute ++ names.filter (· != ".") := by
  have undotted := walkFrom_dots.mp led
  have plain : ∀ name ∈ names.filter (· != "."), Plain name := by
    intro name member
    obtain ⟨member, other⟩ := List.mem_filter.mp member
    exact ⟨by simpa using other, fun up => level (up ▸ member)⟩
  exact (place_of_walkFrom plain undotted).1

/-- The names of a path are its pieces but for those that are empty or `.`. -/
theorem filter_isName (pieces : List String) :
    pieces.filter Path.isName = (pieces.filter (· != "")).filter (· != ".") := by
  rw [List.filter_filter]
  apply List.filter_congr
  intro piece _
  rw [Path.isName, Bool.and_comm]

/-- A path without `..` has its site at the place that its names write. -/
theorem place_of_locate {directory : Location} {name : String} {slash : Bool}
    (level : ".." ∉ p.pieces) (found : t.locate p = .ok ⟨directory, some name, slash⟩) :
    directory ++ [name] = t.origin p.absolute ++ p.pieces.filter Path.isName := by
  obtain ⟨names, legible, led, last, plain, -, -⟩ := locate_eq_ok_iff.mp found
  obtain ⟨front, split⟩ := List.getLast?_eq_some_iff.mp last
  have level' : ".." ∉ names.dropLast := by
    intro member
    have inside := List.dropLast_subset _ member
    rw [namesOf_eq_ok legible] at inside
    exact level (List.mem_filter.mp inside).1
  have place := walk_level level' led
  rw [filter_isName, ← namesOf_eq_ok legible, place, split, List.dropLast_concat, List.filter_append]
  simp [plain.1]

/-! ## What twins tell of a path -/

/-- The directory and those above it stand outside, so nothing inside decides where its names
    lead. -/
theorem walk_base_congr (plain : ∀ name ∈ names, Plain name) (home : t.home = o.home)
    (outside : ∀ place, ¬ Inside (o.home ++ names) place → t.node? place = o.node? place) :
    t.walk false names = o.walk false names := by
  have level : ".." ∉ names := fun up => (plain _ up).2 rfl
  have all : names.filter (· != ".") = names :=
    List.filter_eq_self.mpr fun name member => by simpa using (plain name member).1
  rw [walk, walk, origin, origin, home]
  refine walkFrom_congr level fun front above => ?_
  rw [all] at above
  exact outside _ (not_inside_above ((List.prefix_append_right_inj _).mpr above))

theorem Twins.walk_base (twins : Twins names o o' t t') :
    t.walk false names = .ok ⟨o.home ++ names, .directory⟩ ∧
      t'.walk false names = .ok ⟨o.home ++ names, .directory⟩ := by
  have outside' : ∀ place, ¬ Inside (o'.home ++ names) place → t'.node? place = o'.node? place :=
    twins.homes ▸ twins.outside'
  exact ⟨(walk_base_congr twins.plain twins.home twins.outside).trans twins.mounted,
    (walk_base_congr twins.plain (twins.home'.trans twins.homes.symm) outside').trans twins.mounted'⟩

theorem Twins.node?_eq (twins : Twins names o o' t t') (rest : Location) :
    t.node? (o.home ++ names ++ rest) = t'.node? (o.home ++ names ++ rest) := by
  by_cases here : rest = []
  · obtain ⟨led, led'⟩ := twins.walk_base
    have stands := node?_of_walk led
    have stands' := node?_of_walk led'
    simp only at stands stands'
    rw [here, List.append_nil, stands, stands']
  · exact twins.inside _ ⟨rest, here, rfl⟩

theorem Twins.walk_eq (twins : Twins names o o' t t') {further : List String} (level : ".." ∉ further)
    (leads : names <+: further.filter (· != ".")) : t.walk false further = t'.walk false further := by
  obtain ⟨rest, split⟩ := leads
  obtain ⟨front, back, rfl, here, below⟩ := List.filter_eq_append_iff.mp split.symm
  rw [List.mem_append, not_or] at level
  obtain ⟨led, led'⟩ := twins.walk_base
  have front_led : t.walk false front = .ok ⟨o.home ++ names, .directory⟩ :=
    walkFrom_dots.mpr (here ▸ led)
  have front_led' : t'.walk false front = .ok ⟨o.home ++ names, .directory⟩ :=
    walkFrom_dots.mpr (here ▸ led')
  rw [walk_append, walk_append, front_led, front_led']
  exact walkFrom_congr level.2 fun more _ => twins.node?_eq more

theorem Twins.stat_eq (twins : Twins names o o' t t') (relative : p.absolute = false)
    (level : ".." ∉ p.pieces) (leads : names <+: p.pieces.filter Path.isName) :
    t.stat p = t'.stat p := by
  rw [stat, stat]
  cases legible : namesOf p with
  | error e => rfl
  | ok all =>
    have all_eq := namesOf_eq_ok legible
    have level' : ".." ∉ all := by
      rw [all_eq]
      exact fun member => level (List.mem_filter.mp member).1
    rw [filter_isName, ← all_eq] at leads
    simp only [bind, Except.bind, relative]
    rw [twins.walk_eq level' leads]

theorem Twins.locate_eq (twins : Twins names o o' t t') (leads : LeadsInto names p) :
    t.locate p = t'.locate p := by
  rw [locate, locate]
  cases legible : namesOf p with
  | error e => rfl
  | ok all =>
    have all_eq := namesOf_eq_ok legible
    have level' : ".." ∉ all.dropLast := by
      intro member
      have inside := List.dropLast_subset _ member
      rw [all_eq] at inside
      exact leads.level (List.mem_filter.mp inside).1
    -- At least one name leads further than the directory, so the others lead to it.
    have above : names <+: all.dropLast.filter (· != ".") := by
      obtain ⟨rest, nonempty, split⟩ := leads.inside
      rw [filter_isName, ← all_eq] at split
      obtain ⟨front, back, rfl, rfl, rfl⟩ := List.filter_eq_append_iff.mp split
      have some_name : back ≠ [] := by
        rintro rfl
        exact nonempty rfl
      rw [List.dropLast_append_of_ne_nil some_name, List.filter_append]
      exact List.prefix_append ..
    simp only [bind, Except.bind, leads.relative]
    rw [twins.walk_eq level' above]

theorem LeadsInto.site (leads : LeadsInto names p) {directory : Location} {name : String}
    {slash : Bool} (found : t.locate p = .ok ⟨directory, some name, slash⟩) :
    Inside (t.home ++ names) (directory ++ [name]) := by
  rw [place_of_locate leads.level found, leads.relative]
  obtain ⟨rest, nonempty, split⟩ := leads.inside
  exact ⟨rest, nonempty, by rw [split, List.append_assoc]; rfl⟩

/-! ## Changing twins -/

theorem Twins.set (twins : Twins names o o' t t') {place : Location}
    (inside : Inside (o.home ++ names) place) (node : Node) :
    Twins names o o' (t.set place node) (t'.set place node) := by
  have set := node?_set (twins.home ▸ inside.apart) node
  have set' := node?_set (twins.home' ▸ inside.apart) node
  refine ⟨twins.plain, twins.mounted, twins.mounted', twins.homes, twins.home, twins.home',
    fun q within => ?_, fun q without => ?_, fun q without => ?_⟩
  · rw [set, set', twins.inside q within]
  · rw [set, if_neg (inside.ne without), twins.outside q without]
  · rw [set', if_neg (inside.ne without), twins.outside' q without]

theorem Twins.erase (twins : Twins names o o' t t') {place : Location}
    (inside : Inside (o.home ++ names) place) :
    Twins names o o' (t.erase place) (t'.erase place) := by
  have erased := node?_erase (twins.home ▸ inside.apart)
  have erased' := node?_erase (twins.home' ▸ inside.apart)
  refine ⟨twins.plain, twins.mounted, twins.mounted', twins.homes, twins.home, twins.home',
    fun q within => ?_, fun q without => ?_, fun q without => ?_⟩
  · rw [erased, erased', twins.inside q within]
  · rw [erased, if_neg (inside.ne without), twins.outside q without]
  · rw [erased', if_neg (inside.ne without), twins.outside' q without]

/-! ## Operations -/

theorem Twins.isDirectory_eq (twins : Twins names o o' t t') (leads : LeadsInto names p) :
    t.isDirectory p = t'.isDirectory p := by
  rw [isDirectory, isDirectory, twins.stat_eq leads.relative leads.level leads.start]

theorem Twins.readFile_eq (twins : Twins names o o' t t') (leads : LeadsInto names p) :
    t.readFile p = t'.readFile p := by
  rw [readFile, readFile, twins.stat_eq leads.relative leads.level leads.start]

/-- What is done at the site of a path is done at the same site in both trees. -/
theorem Twins.bind_locate (twins : Twins names o o' t t') (leads : LeadsInto names p)
    {R : FileTree → FileTree → Prop} {act act' : Site → Except Errno FileTree}
    (nameless : ∀ directory slash, Alike R (act ⟨directory, none, slash⟩) (act' ⟨directory, none, slash⟩))
    (named : ∀ directory name slash, Inside (o.home ++ names) (directory ++ [name]) →
      Alike R (act ⟨directory, some name, slash⟩) (act' ⟨directory, some name, slash⟩)) :
    Alike R (t.locate p >>= act) (t'.locate p >>= act') := by
  rw [← twins.locate_eq leads]
  cases found : t.locate p with
  | error e => exact .error e
  | ok site =>
    obtain ⟨directory, name?, slash⟩ := site
    cases name? with
    | none => exact nameless directory slash
    | some name => exact named directory name slash (twins.home ▸ leads.site found)

theorem Twins.makeDir (twins : Twins names o o' t t') (leads : LeadsInto names p) :
    Alike (Twins names o o') (t.makeDir p) (t'.makeDir p) := by
  apply twins.bind_locate leads
  · exact fun _ _ => .error _
  · intro directory name slash inside
    simp only [twins.inside _ inside]
    split
    · exact .error _
    · exact .ok (twins.set inside _)

theorem Twins.writeFile (twins : Twins names o o' t t') (leads : LeadsInto names p) (data : ByteArray) :
    Alike (Twins names o o') (t.writeFile p data) (t'.writeFile p data) := by
  apply twins.bind_locate leads
  · exact fun _ _ => .error _
  · intro directory name slash inside
    cases slash with
    | true => exact .error _
    | false =>
      simp only [twins.inside _ inside]
      split
      · exact .error _
      · exact .ok (twins.set inside _)

theorem Twins.removeFile (twins : Twins names o o' t t') (leads : LeadsInto names p) :
    Alike (Twins names o o') (t.removeFile p) (t'.removeFile p) := by
  apply twins.bind_locate leads
  · exact fun _ _ => .error _
  · intro directory name slash inside
    simp only [twins.inside _ inside]
    split
    · exact .error _
    · exact .error _
    · split
      · exact .error _
      · exact .ok (twins.erase inside)

theorem Twins.discard (twins : Twins names o o' t t') (leads : LeadsInto names p) :
    Twins names o o' (t.discard p) (t'.discard p) := by
  have removed := twins.removeFile leads
  rw [FileTree.discard, FileTree.discard]
  generalize t.removeFile p = result at removed ⊢
  generalize t'.removeFile p = result' at removed ⊢
  cases removed with
  | ok without => exact without
  | error e => exact twins

theorem Twins.renameFile (twins : Twins names o o' t t') {source target : Path}
    (leads : LeadsInto names source) (leads' : LeadsInto names target) :
    Alike (Twins names o o') (t.renameFile source target) (t'.renameFile source target) := by
  rw [FileTree.renameFile, FileTree.renameFile, ← twins.readFile_eq leads]
  cases t.readFile source with
  | error e => exact .error e
  | ok data =>
    apply twins.bind_locate leads
    · intro _ _
      apply twins.bind_locate leads'
      · exact fun _ _ => .error _
      · exact fun _ _ _ _ => .error _
    · intro directory name slash inside
      apply twins.bind_locate leads'
      · exact fun _ _ => .error _
      · intro directory' name' slash' inside'
        simp only [twins.inside _ inside']
        split
        · exact .error _
        · split
          · exact .error _
          · exact .ok ((twins.erase inside).set inside' _)

/-! ## Directories on the way -/

/-- Relative paths inside the directory, each of them above the one before it, down to a path of
    the directory itself.  What may follow after that is not looked at. -/
inductive Ladder (names : List String) : List Path → Prop where
  | top : Ladder names []
  | base {p : Path} (relative : p.absolute = false) (here : p.pieces.filter Path.isName = names)
      (legible : namesOf p ≠ .error .noSuchEntry) (above : List Path) : Ladder names (p :: above)
  | step {p : Path} {above : List Path} (leads : LeadsInto names p) (later : Ladder names above) :
      Ladder names (p :: above)

theorem namesOf_ne_noSuchEntry (nonempty : p.pieces ≠ []) : namesOf p ≠ .error .noSuchEntry := by
  rw [namesOf]
  split
  · simp
  · split
    · simp
    · simp [nonempty]

theorem ladder_landings {pieces : List String} (level : ".." ∉ pieces)
    (leads : names <+: pieces.filter Path.isName) : Ladder names (Path.landings false pieces) := by
  induction pieces using List.reverseRecOn with
  | nil => exact .top
  | append_singleton pieces piece ih =>
    have level' : ".." ∉ pieces := fun up => level (List.mem_append_left _ up)
    rw [Path.landings_concat]
    by_cases named : Path.isName piece = true
    · have longer : (pieces ++ [piece]).filter Path.isName = pieces.filter Path.isName ++ [piece] := by
        simp [named]
      rw [if_pos named]
      rw [longer, List.prefix_concat_iff] at leads
      obtain same | above := leads
      · exact .base rfl (longer.trans same.symm) (namesOf_ne_noSuchEntry (by simp)) _
      · -- One name more than a path of the directory or of a place inside.
        obtain ⟨rest, split⟩ := above
        refine .step ⟨rfl, level, rest ++ [piece], by simp, ?_⟩ (ih level' ⟨rest, split⟩)
        rw [longer, ← split, List.append_assoc]
    · rw [if_neg named]
      exact ih level' (by simpa [named] using leads)

theorem ladder_ancestors (relative : p.absolute = false) (level : ".." ∉ p.pieces)
    (leads : names <+: p.pieces.filter Path.isName) : Ladder names p.ancestors := by
  rw [Path.ancestors_eq, relative]
  split
  · exact .top
  · rename_i nonempty
    obtain ⟨rest, split⟩ := leads
    by_cases here : rest = []
    · rw [here, List.append_nil] at split
      exact .base relative split.symm (namesOf_ne_noSuchEntry nonempty) _
    · refine .step ⟨relative, level, rest, here, split.symm⟩ (ladder_landings ?_ ?_)
      · exact fun up => level ((Path.starts_parent p).pieces.subset up)
      · rw [Path.filter_parent, ← split, List.dropLast_append_of_ne_nil here]
        exact List.prefix_append ..

theorem makeDir_of_directory (there : t.stat p = .ok .directory) :
    t.makeDir p = .error .alreadyExists := by
  obtain ⟨names, legible, place, led⟩ := stat_eq_directory_iff.mp there
  rw [makeDir, locate, legible]
  simp only [bind, Except.bind]
  obtain rfl | ⟨front, last, rfl⟩ := List.eq_nil_or_concat names
  · rfl
  rw [List.concat_eq_append, walk_append, bind_eq_ok_iff] at led
  obtain ⟨here, front_led, step⟩ := led
  rw [walkFrom_cons, bind_eq_ok_iff] at step
  obtain ⟨next, followed, same⟩ := step
  cases same
  have directory := follow_directory followed
  rw [List.concat_eq_append, List.dropLast_concat, front_led, List.getLast?_concat]
  simp only [directory]
  by_cases plain : Plain last
  · -- The last name leads to a directory, so that is what stands at the site.
    obtain ⟨short, down⟩ := follow_plain_eq_ok plain followed
    have stands := node?_of_follow (node?_of_walk front_led) followed
    simp only at down stands
    have kept : (some last).filter (fun name => name != "." && name != "..") = some last := by
      simp [plain.1, plain.2]
    rw [kept, Option.any_some, if_neg (by simpa using short)]
    simp only
    rw [← down, stands]
    rfl
  · have dropped : (some last).filter (fun name => name != "." && name != "..") = none := by
      rw [Plain, not_and_or, not_not, not_not] at plain
      obtain rfl | rfl := plain <;> rfl
    rw [dropped]
    rfl

/-- Once a chain comes to the directory, it makes nothing more. -/
theorem makeChain_of_base (mounted : t.walk false names = .ok ⟨base, .directory⟩)
    (relative : p.absolute = false) (here : p.pieces.filter Path.isName = names) (legible : namesOf p ≠ .error .noSuchEntry)
    (above : List Path) : t.makeChain (p :: above) =
      ((match namesOf p with | .error e => some e | .ok _ => none), t) := by
  cases read : namesOf p with
  | error e =>
    have unseen : t.isDirectory p = false := by
      rw [isDirectory, stat, read]
      rfl
    have unmade : t.makeDir p = .error e := by
      rw [makeDir, locate, read]
      rfl
    rw [makeChain, unmade]
    cases e with
    | noSuchEntry => exact absurd read legible
    | busy | alreadyExists | notDirectory | isDirectory | invalidArgument | nameTooLong | nulInPath =>
      simp [unseen]
  | ok all =>
    have led : t.walk p.absolute all = .ok ⟨base, .directory⟩ := by
      rw [namesOf_eq_ok read, relative]
      apply walkFrom_dots.mpr
      rw [← filter_isName, here]
      exact mounted
    have there : t.stat p = .ok .directory := stat_eq_directory_iff.mpr ⟨all, read, base, led⟩
    rw [makeChain, makeDir_of_directory there]
    simp [isDirectory_iff.mpr there]

theorem Twins.makeChain (twins : Twins names o o' t t') {chain : List Path}
    (ladder : Ladder names chain) :
    Paired (Twins names o o') (t.makeChain chain) (t'.makeChain chain) := by
  induction ladder with
  | top => exact .mk none twins
  | base relative here legible above =>
    obtain ⟨mounted, mounted'⟩ := twins.walk_base
    rw [makeChain_of_base mounted relative here legible,
      makeChain_of_base mounted' relative here legible]
    exact .mk _ twins
  | @step p above leads later ih =>
    have made := twins.makeDir leads
    rw [FileTree.makeChain, FileTree.makeChain, twins.isDirectory_eq leads]
    generalize t.makeDir p = result at made ⊢
    generalize t'.makeDir p = result' at made ⊢
    cases made with
    | ok related => exact .mk none related
    | error e =>
      cases e with
      | busy | alreadyExists | notDirectory | isDirectory | invalidArgument | nameTooLong | nulInPath =>
        exact .mk _ twins
      | noSuchEntry =>
        -- The directories above come first.
        simp only
        generalize t.makeChain above = result at ih ⊢
        generalize t'.makeChain above = result' at ih ⊢
        cases ih with
        | @mk e tree tree' ready =>
          cases e with
          | some e => exact .mk (some e) ready
          | none =>
            have made := ready.makeDir leads
            simp only [ready.isDirectory_eq leads]
            generalize tree.makeDir p = result at made ⊢
            generalize tree'.makeDir p = result' at made ⊢
            cases made with
            | ok related => exact .mk none related
            | error e => exact .mk _ ready

theorem Twins.makeDirs (twins : Twins names o o' t t') (relative : p.absolute = false)
    (level : ".." ∉ p.pieces) (leads : names <+: p.pieces.filter Path.isName) :
    Paired (Twins names o o') (t.makeDirs p) (t'.makeDirs p) :=
  twins.makeChain (ladder_ancestors relative level leads)

/-- Making a directory and those above it changes nothing inside of it. -/
theorem node?_makeDirs_of_inside (t : FileTree) (level : ".." ∉ p.pieces) {place : Location}
    (inside : Inside (t.origin p.absolute ++ p.pieces.filter Path.isName) place) :
    (t.makeDirs p).2.node? place = t.node? place := by
  refine (makeChain_keeps (P := fun u => u.home = t.home ∧ u.node? place = t.node? place) ?_
    ⟨rfl, rfl⟩).2
  rintro u u' q member ⟨home, same⟩ made
  obtain ⟨directory, name, slash, found, vacant, rfl⟩ := makeDir_eq_ok made
  have start := Path.starts_of_mem_ancestors member
  -- The new directory stands at the directory or above it.
  have site := place_of_locate (fun up => level (start.pieces.subset up)) found
  have above : directory ++ [name] <+: t.origin p.absolute ++ p.pieces.filter Path.isName := by
    rw [site, origin, origin, home, start.absolute]
    exact (List.prefix_append_right_inj _).mpr (start.pieces.filter _)
  have apart : place ≠ directory ++ [name] := by
    rintro rfl
    exact not_inside_above above inside
  refine ⟨home, ?_⟩
  rw [node?_set (not_start_of_node? (by simp [vacant])), if_neg apart, same]

end BlobDepot.FileTree
