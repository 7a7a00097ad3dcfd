import BlobDepot.Proofs.FileTree.Twins

/-! # Going on from a directory

Some names lead to a directory, and a path goes on from there by further names, none of which
is `.` or `..`.  Then everything is decided by what stands below that directory, however the
way to it is written.

The way onward is open when no name on it is too long and no file stands before its end; what
is missing is no hindrance.  An open way leads to whatever stands at its end
(`Rooted.walkFrom_open`), and all missing directories on it can be made
(`Rooted.makeChain_open`).  A way that is not open ends in an error that tells why
(`Rooted.walkFrom_blocked`, `walkFrom_tooLong`).

So either all directories of a chain are made, or the first attempt is refused and none is
(`Rooted.makeChain_error`).
-/

namespace BlobDepot.FileTree

/-- No name on the way from a place is too long, and no file stands before its end. -/
structure Open (t : FileTree) (place : Location) (names : List String) : Prop where
  short : ∀ name ∈ names, name.utf8ByteSize ≤ maxNameBytes
  unblocked : ∀ front back v, names = front ++ back → back ≠ [] →
    t.node? (place ++ front) ≠ some (.file v)

variable {t : FileTree} {base place : Location} {root front back names : List String} {last : String}
variable {p q : Path} {absolute : Bool}

/-! ## Open ways -/

theorem Open.cons {name : String} (way : t.Open place (name :: names)) :
    t.Open (place ++ [name]) names where
  short other member := way.short other (List.mem_cons_of_mem name member)
  unblocked front back v split nonempty := by
    have further := way.unblocked (name :: front) back v (by rw [split]; rfl) nonempty
    rwa [List.append_cons] at further

theorem Open.of_concat (way : t.Open place (names ++ [last])) : t.Open place names where
  short name member := way.short name (List.mem_append_left _ member)
  unblocked front back v split _ :=
    way.unblocked front (back ++ [last]) v (by rw [split, List.append_assoc]) (by simp)

/-- An open way leads to whatever stands at its end. -/
theorem Rooted.walkFrom_open (rooted : t.Rooted) (here : t.node? place = some .directory)
    (plain : ∀ name ∈ names, Plain name) (way : t.Open place names) :
    t.walkFrom ⟨place, .directory⟩ names = t.find (place ++ names) := by
  induction names generalizing place with
  | nil => simp [find, here]
  | cons name names ih =>
    rw [List.forall_mem_cons] at plain
    have short := way.short name List.mem_cons_self
    have further : place ++ name :: names = (place ++ [name]) ++ names := by simp
    rw [walkFrom_cons, follow_plain plain.1, if_neg (Nat.not_lt.mpr short), further]
    by_cases done : names = []
    · subst done
      rw [List.append_nil]
      cases t.find (place ++ [name]) <;> rfl
    · cases stands : t.node? (place ++ [name]) with
      | none =>
        -- Nothing stands below what is missing.
        have missing : t.node? ((place ++ [name]) ++ names) = none := by
          by_contra there
          rw [rooted.directory done there] at stands
          cases stands
        rw [find, find, stands, missing]
        rfl
      | some node =>
        cases node with
        | file v =>
          exact absurd stands (way.unblocked [name] names v rfl done)
        | directory =>
          rw [← ih stands plain.2 way.cons]
          simp only [find, stands]
          rfl

/-- A file before the end of the way does not lead on. -/
theorem Rooted.walkFrom_blocked (rooted : t.Rooted) {v : ByteArray}
    (here : t.node? place = some .directory) (plain : ∀ name ∈ front, Plain name)
    (short : ∀ name ∈ front, name.utf8ByteSize ≤ maxNameBytes)
    (stands : t.node? (place ++ front) = some (.file v)) (nonempty : back ≠ []) :
    t.walkFrom ⟨place, .directory⟩ (front ++ back) = .error .notDirectory := by
  have led : t.walkFrom ⟨place, .directory⟩ front = .ok ⟨place ++ front, .file v⟩ :=
    rooted.walkFrom here plain short stands
  obtain ⟨name, rest, rfl⟩ := List.exists_cons_of_ne_nil nonempty
  rw [walkFrom_append, led]
  rfl

theorem walkFrom_tooLong {name : String} (plain : Plain name)
    (long : maxNameBytes < name.utf8ByteSize) (names : List String) :
    t.walkFrom ⟨place, .directory⟩ (name :: names) = .error .nameTooLong := by
  rw [walkFrom_cons, follow_plain plain, if_pos long]
  rfl

/-! ## Paths that go on -/

theorem walk_onward (led : t.walk p.absolute root = .ok ⟨base, .directory⟩)
    (onward : p.pieces.filter (· != "") = root ++ names) :
    t.walk p.absolute (p.pieces.filter (· != "")) = t.walkFrom ⟨base, .directory⟩ names := by
  rw [onward, walk_append, led]
  rfl

/-- The site of a path that goes on is the place that its further names write. -/
theorem site_onward (led : t.walk p.absolute root = .ok ⟨base, .directory⟩)
    (onward : p.pieces.filter (· != "") = root ++ names) (nonempty : names ≠ [])
    (plain : ∀ name ∈ names, Plain name) {directory : Location} {name : String} {slash : Bool}
    (found : t.locate p = .ok ⟨directory, some name, slash⟩) :
    directory ++ [name] = base ++ names := by
  obtain ⟨all, legible, walked, final, _⟩ := locate_eq_ok_iff.mp found
  obtain ⟨front, last, rfl⟩ := (List.eq_nil_or_concat' names).resolve_left nonempty
  rw [namesOf_eq_ok legible, onward, ← List.append_assoc] at walked final
  rw [List.getLast?_concat, Option.some.injEq] at final
  rw [List.dropLast_concat, walk_append, led] at walked
  have plain_front : ∀ name ∈ front, Plain name := fun name member =>
    plain name (List.mem_append_left _ member)
  have place := (place_of_walkFrom plain_front walked).1
  simp only at place
  rw [place, final, List.append_assoc]

/-- A path that goes on has its site there if its last name follows a directory. -/
theorem locate_onward (led : t.walk p.absolute root = .ok ⟨base, .directory⟩)
    (onward : p.pieces.filter (· != "") = root ++ (front ++ [last]))
    (legible : ∃ all, namesOf p = .ok all)
    (above : t.walkFrom ⟨base, .directory⟩ front = .ok ⟨place, .directory⟩)
    (plain : Plain last) (short : last.utf8ByteSize ≤ maxNameBytes) :
    t.locate p = .ok ⟨place, some last, decide (p.pieces.getLast? = some "")⟩ := by
  obtain ⟨all, legible⟩ := legible
  refine locate_eq_ok_iff.mpr ⟨all, legible, ?_, ?_, plain, short, rfl⟩
  · rw [namesOf_eq_ok legible, onward, ← List.append_assoc, List.dropLast_concat, walk_append, led]
    exact above
  · rw [namesOf_eq_ok legible, onward, ← List.append_assoc, List.getLast?_concat]

/-- The pieces that are cut off a parent do not lead anywhere else. -/
theorem walk_parent {p : Path} :
    t.walk absolute (p.parent.pieces.filter (· != "")) = .ok ⟨base, .directory⟩ ↔
      t.walk absolute (p.trimmed.dropLast.filter (· != "")) = .ok ⟨base, .directory⟩ := by
  have same : p.parent.pieces.filter Path.isName = p.trimmed.dropLast.filter Path.isName :=
    Path.filter_rdropWhile p.trimmed.dropLast
  rw [filter_isName, filter_isName] at same
  refine walkFrom_dots.trans ?_
  rw [same]
  exact walkFrom_dots.symm

/-! ## Paths that can be looked up -/

theorem legible_iff : (∃ all, namesOf p = .ok all) ↔
    p.hasNul = false ∧ p.byteSize ≤ maxPathBytes ∧ (p.pieces ≠ [] ∨ p.absolute = true) := by
  rw [namesOf]
  by_cases nul : p.hasNul = true
  · simp [nul]
  · by_cases long : maxPathBytes < p.byteSize
    · simp [nul, long, Nat.not_le.mpr long]
    · by_cases bare : p.pieces = []
      · by_cases relative : p.absolute = true <;> simp [nul, Nat.not_lt.mp long, long, bare, relative]
      · simp [nul, Nat.not_lt.mp long, long, bare]

theorem byteSize_of_starts (start : q.Starts p) : q.byteSize ≤ p.byteSize := by
  obtain ⟨absolute, rest, split⟩ := start
  rw [Path.byteSize, Path.byteSize, absolute, ← split, List.map_append, List.length_append,
    ← List.sum_eq_foldr, ← List.sum_eq_foldr, List.sum_append]
  omega

theorem hasNul_of_starts (start : q.Starts p) (clean : p.hasNul = false) : q.hasNul = false := by
  rw [Path.hasNul, List.any_eq_false] at clean ⊢
  exact fun piece member => clean piece (start.pieces.subset member)

/-- A start of a path that can be looked up can be looked up. -/
theorem legible_of_starts (legible : ∃ all, namesOf p = .ok all) (start : q.Starts p)
    (nonempty : q.pieces ≠ []) : ∃ all, namesOf q = .ok all := by
  obtain ⟨clean, short, _⟩ := legible_iff.mp legible
  exact legible_iff.mpr ⟨hasNul_of_starts start clean, (byteSize_of_starts start).trans short,
    .inl nonempty⟩

/-! ## Directories on the way -/

/-- Every start of a path to a directory leads to a directory. -/
theorem stat_of_starts (led : t.walk p.absolute (p.pieces.filter (· != "")) = .ok ⟨base, .directory⟩)
    (start : q.Starts p) (legible : ∃ all, namesOf q = .ok all) : t.stat q = .ok .directory := by
  obtain ⟨absolute, rest, split⟩ := start
  obtain ⟨all, legible⟩ := legible
  rw [← split, List.filter_append, walk_append, bind_eq_ok_iff] at led
  obtain ⟨⟨place, node⟩, there, further⟩ := led
  have passed := directory_of_walkFrom further rfl
  simp only at passed
  subst passed
  exact stat_eq_directory_iff.mpr ⟨all, legible, place, by rw [absolute, namesOf_eq_ok legible, there]⟩

/-- A directory that is refused is not tried again. -/
theorem makeChain_of_refused {e : Errno} (refused : t.makeDir p = .error e) (known : e ≠ .noSuchEntry)
    (above : List Path) :
    t.makeChain (p :: above) = (if t.isDirectory p then none else some e, t) := by
  rw [makeChain, refused]
  cases e <;> first | rfl | exact absurd rfl known

theorem makeChain_of_directory (there : t.stat p = .ok .directory) (above : List Path) :
    t.makeChain (p :: above) = (none, t) := by
  rw [makeChain_of_refused (makeDir_of_directory there) (by simp), if_pos (isDirectory_iff.mpr there)]

/-- On the way to a directory nothing has to be made. -/
theorem makeChain_landings {start : List String}
    (led : t.walk absolute (start.filter (· != "")) = .ok ⟨base, .directory⟩)
    (legible : ∀ p ∈ Path.landings absolute start, ∃ all, namesOf p = .ok all) :
    t.makeChain (Path.landings absolute start) = (none, t) := by
  cases landing : Path.landings absolute start with
  | nil => rfl
  | cons p above =>
    have member : p ∈ Path.landings absolute start := by
      rw [landing]
      exact List.mem_cons_self
    exact makeChain_of_directory (stat_of_starts (p := ⟨absolute, start⟩) led (Path.starts_of_mem_landings member)
      (legible p member)) above

/-- Below what is missing no directory can be made. -/
theorem makeDir_below_missing (led : t.walk p.absolute root = .ok ⟨base, .directory⟩)
    (onward : p.pieces.filter (· != "") = root ++ (front ++ [last]))
    (legible : ∃ all, namesOf p = .ok all)
    (missing : t.walkFrom ⟨base, .directory⟩ front = .error .noSuchEntry) :
    t.makeDir p = .error .noSuchEntry := by
  obtain ⟨all, legible⟩ := legible
  have lost : t.walk p.absolute all.dropLast = .error .noSuchEntry := by
    rw [namesOf_eq_ok legible, onward, ← List.append_assoc, List.dropLast_concat, walk_append, led]
    exact missing
  rw [makeDir, locate, legible]
  simp only [bind, Except.bind, lost]

/-- Once the directories above are made, one that could not be made for want of them is tried
    once more. -/
theorem makeChain_of_missing {ready : FileTree} {above : List Path}
    (unmade : t.makeDir p = .error .noSuchEntry) (made : t.makeChain above = (none, ready)) :
    t.makeChain (p :: above) = ready.makeChain [p] := by
  rw [makeChain, unmade, made, makeChain]
  cases again : ready.makeDir p with
  | ok t' => simp only [again]
  | error e => cases e <;> simp [makeChain, again]

/-- A directory is made, or is there already, once the one above it is there and unless a
    file stands in its place. -/
theorem Rooted.makeChain_onward (rooted : t.Rooted) (led : t.walk p.absolute root = .ok ⟨base, .directory⟩)
    (onward : p.pieces.filter (· != "") = root ++ (front ++ [last]))
    (legible : ∃ all, namesOf p = .ok all) (plain : ∀ name ∈ front ++ [last], Plain name)
    (short : ∀ name ∈ front ++ [last], name.utf8ByteSize ≤ maxNameBytes)
    (above : t.node? (base ++ front) = some .directory)
    (free : ∀ v, t.node? (base ++ (front ++ [last])) ≠ some (.file v)) (more : List Path) :
    ∃ ready, t.makeChain (p :: more) = (none, ready) ∧
      ready.node? (base ++ (front ++ [last])) = some .directory := by
  rw [List.forall_mem_append, List.forall_mem_singleton] at plain short
  have way : t.walkFrom ⟨base, .directory⟩ front = .ok ⟨base ++ front, .directory⟩ :=
    rooted.walkFrom (node?_of_walk led) plain.1 short.1 above
  have site := locate_onward led onward legible way plain.2 short.2
  rw [← List.append_assoc] at free ⊢
  cases there : t.node? (base ++ front ++ [last]) with
  | none =>
    have vacant : t.node? (base ++ front ++ [last]) ≠ some .directory := by rw [there]; simp
    refine ⟨t.set (base ++ front ++ [last]) .directory, ?_, ?_⟩
    · rw [FileTree.makeChain, makeDir_of_locate site there]
    · rw [node?_set (not_start_of_node? vacant), if_pos rfl]
  | some node =>
    cases node with
    | file v => exact absurd there (free v)
    | directory =>
      have stands : t.stat p = .ok .directory := by rw [stat_of_locate site, there]
      exact ⟨t, makeChain_of_directory stands more, there⟩

/-- The missing directories on an open way are made, down to its end. -/
theorem Rooted.makeChain_open (rooted : t.Rooted) {start : List String}
    (led : t.walk absolute (start.filter (· != "")) = .ok ⟨base, .directory⟩)
    (legible : ∀ p ∈ Path.landings absolute (start ++ names), ∃ all, namesOf p = .ok all)
    (named : ∀ name ∈ names, Path.isName name = true) (plain : ∀ name ∈ names, Plain name)
    (way : t.Open base names) (free : ∀ v, t.node? (base ++ names) ≠ some (.file v)) :
    ∃ ready, t.makeChain (Path.landings absolute (start ++ names)) = (none, ready) ∧
      ready.node? (base ++ names) = some .directory := by
  induction names using List.reverseRecOn with
  | nil =>
    rw [List.append_nil] at legible ⊢
    have here := node?_of_walk led
    simp only at here
    exact ⟨t, makeChain_landings led legible, by simpa using here⟩
  | append_singleton names name ih =>
    have onward : (start ++ names ++ [name]).filter (· != "") =
        start.filter (· != "") ++ (names ++ [name]) := by
      rw [List.append_assoc, List.filter_append, Path.filter_of_isName named]
    rw [← List.append_assoc] at legible ⊢
    have landing := Path.landings_concat absolute (start ++ names) name
    rw [if_pos (named name (by simp))] at landing
    rw [landing, List.forall_mem_cons] at legible
    rw [landing]
    obtain ⟨readable, readable_names⟩ := legible
    have plain_names : ∀ other ∈ names, Plain other := fun other member =>
      plain other (List.mem_append_left _ member)
    have free_names : ∀ v, t.node? (base ++ names) ≠ some (.file v) := fun v =>
      way.unblocked names [name] v rfl (by simp)
    by_cases present : t.node? (base ++ names) = some .directory
    · -- The directory above is there.
      exact rooted.makeChain_onward led onward readable plain way.short present free _
    · -- It is missing, so it is made first.
      have missing : t.node? (base ++ names) = none := by
        cases there : t.node? (base ++ names) with
        | none => rfl
        | some node =>
          cases node with
          | file v => exact absurd there (free_names v)
          | directory => exact absurd there present
      have lost : t.walkFrom ⟨base, .directory⟩ names = .error .noSuchEntry := by
        rw [rooted.walkFrom_open (node?_of_walk led) plain_names way.of_concat, find, missing]
      have unmade := makeDir_below_missing led onward readable lost
      have named_names : ∀ other ∈ names, Path.isName other = true := fun other member =>
        named other (List.mem_append_left _ member)
      obtain ⟨ready, made, above⟩ :=
        ih readable_names named_names plain_names way.of_concat free_names
      -- In the tree with the directory above, all is as in the first case.
      have alters := alters_makeChain t (Path.landings absolute (start ++ names)) fun _ => False
      have rooted' := rooted.makeChain (Path.landings absolute (start ++ names))
      rw [made] at alters rooted'
      have led' := walk_of_keeps alters.keeps led rfl
      have free' : ∀ v, ready.node? (base ++ (names ++ [name])) ≠ some (.file v) := fun v stands =>
        free v ((alters.files _ v id).mp stands)
      rw [makeChain_of_missing unmade made]
      exact rooted'.makeChain_onward led' onward readable plain way.short above free' []

/-- Once the first directory of a chain is there, the paths of all could be looked up. -/
theorem legible_of_makeChain {pieces : List String} {ready : FileTree}
    (made : t.makeChain (Path.landings absolute pieces) = (none, ready)) :
    ∀ p ∈ Path.landings absolute pieces, ∃ all, namesOf p = .ok all := by
  intro q member
  cases chain : Path.landings absolute pieces with
  | nil =>
    rw [chain] at member
    cases member
  | cons p above =>
    rw [chain] at made
    obtain ⟨all, legible, -⟩ :=
      stat_eq_directory_iff.mp (isDirectory_iff.mp (isDirectory_of_makeChain made))
    exact legible_of_starts ⟨all, legible⟩ (Path.starts_of_mem_cons chain (chain ▸ member))
      (Path.pieces_ne_nil_of_mem_landings member)

/-! ## Chains that fail -/

/-- A directory is only missed on the way to another one if that way leads nowhere. -/
theorem walk_of_unmade {all : List String} (legible : namesOf p = .ok all)
    (unmade : t.makeDir p = .error .noSuchEntry) : t.walk p.absolute all.dropLast = .error .noSuchEntry := by
  have lost : t.locate p = .error .noSuchEntry := by
    cases found : t.locate p with
    | error e => simpa [makeDir, found, bind, Except.bind] using unmade
    | ok site =>
      -- What has a site is made or is there.
      obtain ⟨directory, name?, slash⟩ := site
      cases name? with
      | none => simp [makeDir, found, bind, Except.bind] at unmade
      | some name =>
        simp only [makeDir, found, bind, Except.bind] at unmade
        split at unmade <;> cases unmade
  rw [locate, legible] at lost
  simp only [bind, Except.bind] at lost
  cases walked : t.walk p.absolute all.dropLast with
  | error e => simpa [walked] using lost
  | ok here =>
    obtain ⟨place, node⟩ := here
    cases node with
    | file v => simp [walked] at lost
    | directory =>
      simp only [walked] at lost
      split at lost <;> cases lost

/-- Where the way leads nowhere, no file is in the way. -/
theorem Rooted.open_of_missing (rooted : t.Rooted) (here : t.node? place = some .directory)
    (plain : ∀ name ∈ names, Plain name) (short : ∀ name ∈ names, name.utf8ByteSize ≤ maxNameBytes)
    (missing : t.walkFrom ⟨place, .directory⟩ names = .error .noSuchEntry) :
    t.Open place names ∧ t.node? (place ++ names) = none := by
  have way : t.Open place names := by
    refine ⟨short, fun front back v split nonempty stands => ?_⟩
    rw [split, List.forall_mem_append] at plain short
    rw [split, rooted.walkFrom_blocked here plain.1 short.1 stands nonempty] at missing
    cases missing
  rw [rooted.walkFrom_open here plain way, find] at missing
  cases stands : t.node? (place ++ names) with
  | none => exact ⟨way, rfl⟩
  | some node =>
    rw [stands] at missing
    cases missing

theorem Open.concat (way : t.Open place names) (missing : t.node? (place ++ names) = none)
    (short : last.utf8ByteSize ≤ maxNameBytes) : t.Open place (names ++ [last]) := by
  refine ⟨List.forall_mem_append.mpr ⟨way.short, List.forall_mem_singleton.mpr short⟩,
    fun front back v split nonempty stands => ?_⟩
  obtain ⟨rest, other, rfl⟩ := (List.eq_nil_or_concat' back).resolve_left nonempty
  rw [← List.append_assoc] at split
  obtain ⟨rfl, -⟩ := List.append_inj' split rfl
  by_cases whole : rest = []
  · subst whole
    rw [List.append_nil, stands] at missing
    cases missing
  · exact way.unblocked front rest v rfl whole stands

theorem legible_of_unmade (nonempty : p.pieces ≠ [])
    (unmade : t.makeDir p = .error .noSuchEntry) : ∃ all, namesOf p = .ok all := by
  cases read : namesOf p with
  | ok all => exact ⟨all, rfl⟩
  | error e =>
    have refused : t.makeDir p = .error e := by
      rw [FileTree.makeDir, locate, read]
      rfl
    rw [unmade, Except.error.injEq] at refused
    exact absurd (refused ▸ read) (namesOf_ne_noSuchEntry nonempty)

/-- If a directory is missed on the way to another one, the whole way is open. -/
theorem Rooted.open_of_unmade (rooted : t.Rooted) (led : t.walk p.absolute root = .ok ⟨base, .directory⟩)
    (onward : p.pieces.filter (· != "") = root ++ (front ++ [last]))
    (legible : ∃ all, namesOf p = .ok all) (plain : ∀ name ∈ front ++ [last], Plain name)
    (short : ∀ name ∈ front ++ [last], name.utf8ByteSize ≤ maxNameBytes)
    (unmade : t.makeDir p = .error .noSuchEntry) :
    t.Open base (front ++ [last]) ∧ t.node? (base ++ (front ++ [last])) = none := by
  rw [List.forall_mem_append, List.forall_mem_singleton] at plain short
  obtain ⟨all, legible⟩ := legible
  have lost := walk_of_unmade legible unmade
  rw [namesOf_eq_ok legible, onward, ← List.append_assoc, List.dropLast_concat, walk_append, led] at lost
  have here : t.node? base = some .directory := node?_of_walk led
  obtain ⟨way, missing⟩ := rooted.open_of_missing here plain.1 short.1 lost
  refine ⟨way.concat missing short.2, ?_⟩
  -- Nothing stands below what is missing.
  by_contra stands
  rw [← List.append_assoc] at stands
  rw [rooted _ _ stands] at missing
  cases missing

/-- If a directory is missed on the way to the first of a chain, the whole chain can be made. -/
theorem Rooted.makeChain_of_unmade (rooted : t.Rooted) {start : List String} {above : List Path}
    (led : t.walk absolute (start.filter (· != "")) = .ok ⟨base, .directory⟩)
    (legible : ∃ all, namesOf p = .ok all)
    (named : ∀ name ∈ names, Path.isName name = true) (plain : ∀ name ∈ names, Plain name)
    (short : ∀ name ∈ names, name.utf8ByteSize ≤ maxNameBytes)
    (chain : Path.landings absolute (start ++ names) = p :: above)
    (unmade : t.makeDir p = .error .noSuchEntry) : ∃ ready, t.makeChain (p :: above) = (none, ready) := by
  obtain rfl | ⟨front, last, rfl⟩ := List.eq_nil_or_concat' names
  · -- On the way to a directory nothing is missed.
    rw [List.append_nil] at chain
    have start_p : p.Starts ⟨absolute, start⟩ :=
      Path.starts_of_mem_landings (chain ▸ List.mem_cons_self)
    rw [makeDir_of_directory (stat_of_starts (p := ⟨absolute, start⟩) led start_p legible)] at unmade
    cases unmade
  · have readable : ∀ q ∈ Path.landings absolute (start ++ (front ++ [last])), ∃ all, namesOf q = .ok all := by
      rw [chain]
      intro q later
      exact legible_of_starts legible (Path.starts_of_mem_cons chain later)
        (Path.pieces_ne_nil_of_mem_landings (chain ▸ later))
    have first : p = ⟨absolute, start ++ (front ++ [last])⟩ := by
      rw [← List.append_assoc, Path.landings_concat, if_pos (named last (by simp))] at chain
      cases chain
      rw [List.append_assoc]
    have onward : p.pieces.filter (· != "") = start.filter (· != "") ++ (front ++ [last]) := by
      rw [first, List.filter_append, Path.filter_of_isName named]
    have led' : t.walk p.absolute (start.filter (· != "")) = .ok ⟨base, .directory⟩ := by
      rw [first]
      exact led
    obtain ⟨way, missing⟩ := rooted.open_of_unmade led' onward legible plain short unmade
    obtain ⟨ready, made, -⟩ := rooted.makeChain_open led readable named plain way (by simp [missing])
    exact ⟨ready, chain ▸ made⟩

/-- A chain of directories that cannot be made leaves the tree as it was. -/
theorem Rooted.makeChain_error (rooted : t.Rooted) {start : List String} {e : Errno} {t' : FileTree}
    (led : t.walk absolute (start.filter (· != "")) = .ok ⟨base, .directory⟩)
    (named : ∀ name ∈ names, Path.isName name = true) (plain : ∀ name ∈ names, Plain name)
    (short : ∀ name ∈ names, name.utf8ByteSize ≤ maxNameBytes)
    (failed : t.makeChain (Path.landings absolute (start ++ names)) = (some e, t')) : t' = t := by
  cases chain : Path.landings absolute (start ++ names) with
  | nil =>
    rw [chain] at failed
    cases failed
  | cons p above =>
    have member : p ∈ Path.landings absolute (start ++ names) := by
      rw [chain]
      exact List.mem_cons_self
    rw [chain] at failed
    cases tried : t.makeDir p with
    | ok made =>
      rw [FileTree.makeChain, tried] at failed
      cases failed
    | error e' =>
      by_cases missed : e' = .noSuchEntry
      · subst missed
        have legible := legible_of_unmade (Path.pieces_ne_nil_of_mem_landings member) tried
        obtain ⟨ready, made⟩ := rooted.makeChain_of_unmade led legible named plain short chain tried
        rw [made] at failed
        cases failed
      · rw [makeChain_of_refused tried missed] at failed
        exact (Prod.mk.inj failed).2.symm

end BlobDepot.FileTree
