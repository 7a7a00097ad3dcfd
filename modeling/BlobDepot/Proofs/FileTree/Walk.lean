import Mathlib.Data.List.Induction
import BlobDepot.FileTree.Basic

/-! # Following paths

What it means that a path could be followed.  The names before the last lead through
directories, so a tree that keeps all directories of another one keeps the way to
each of them (`walkFrom_of_keeps`).  A name other than `.` and `..` leads one level
down, and a path of such names leads to the place that they write
(`place_of_walkFrom`).

A tree is rooted when everything in it stands in a directory.  In a rooted tree what
stands at a place is also found there (`Rooted.walkFrom`).
-/

namespace BlobDepot

theorem bind_eq_ok_iff {ε α β : Type} {x : Except ε α} {f : α → Except ε β} {b : β} :
    x >>= f = .ok b ↔ ∃ a, x = .ok a ∧ f a = .ok b := by
  cases x with
  | error e =>
    constructor
    · intro h
      cases h
    · intro given
      obtain ⟨a, h, _⟩ := given
      cases h
  | ok a =>
    constructor
    · intro h
      exact ⟨a, rfl, h⟩
    · intro given
      obtain ⟨a', h, hb⟩ := given
      cases h
      exact hb

theorem bind_eq_error_iff {ε α β : Type} {x : Except ε α} {f : α → Except ε β} {e : ε} :
    x >>= f = .error e ↔ x = .error e ∨ ∃ a, x = .ok a ∧ f a = .error e := by
  cases x <;> simp [bind, Except.bind]

namespace FileTree

/-- A name that leads one level down. -/
def Plain (name : String) : Prop :=
  name ≠ "." ∧ name ≠ ".."

/-- All directories of one tree are there in the other, with the same one to work in. -/
structure Keeps (t t' : FileTree) : Prop where
  home : t'.home = t.home
  directories : ∀ q, t.node? q = some .directory → t'.node? q = some .directory

/-- Everything stands in a directory, as it does in a file system. -/
def Rooted (t : FileTree) : Prop :=
  ∀ place name, t.node? (place ++ [name]) ≠ none → t.node? place = some .directory

variable {t t' : FileTree} {absolute : Bool}

theorem node?_origin (t : FileTree) (absolute : Bool) :
    t.node? (t.origin absolute) = some .directory := by
  cases absolute with
  | false => exact node?_home t
  | true => exact node?_nil t

theorem Keeps.origin (keeps : t.Keeps t') (absolute : Bool) : t'.origin absolute = t.origin absolute := by
  rw [FileTree.origin, FileTree.origin, keeps.home]

/-! ## One name -/

theorem find_eq_ok_iff {place : Location} {found : Found} :
    t.find place = .ok found ↔ found.place = place ∧ t.node? place = some found.node := by
  rw [find]
  cases stands : t.node? place with
  | none => simp
  | some node =>
    obtain ⟨q, n⟩ := found
    simp only [Except.ok.injEq, Found.mk.injEq, Option.some.injEq]
    exact and_congr eq_comm Iff.rfl

theorem follow_directory {here found : Found} {name : String} (led : t.follow here name = .ok found) :
    here.node = .directory := by
  rw [follow] at led
  cases kind : here.node with
  | directory => rfl
  | file data =>
    rw [kind] at led
    cases led

theorem follow_plain {place : Location} {name : String} (plain : Plain name) :
    t.follow ⟨place, .directory⟩ name =
      if maxNameBytes < name.utf8ByteSize then .error .nameTooLong else t.find (place ++ [name]) := by
  rw [follow]
  simp only [plain.1, plain.2, if_false]

/-- A name that can be followed stays where it is or looks up a place, the same in
    every tree. -/
theorem follow_cases {here found : Found} {name : String} (led : t.follow here name = .ok found) :
    (found = here ∧ ∀ u : FileTree, u.follow here name = .ok here) ∨
      ∃ place, ∀ u : FileTree, u.follow here name = u.find place := by
  obtain ⟨place, node⟩ := here
  have start := follow_directory led
  subst start
  by_cases stay : name = "."
  · have stays : ∀ u : FileTree, u.follow ⟨place, .directory⟩ name = .ok ⟨place, .directory⟩ :=
      fun u => by simp only [follow, stay, if_true]
    rw [stays] at led
    cases led
    exact .inl ⟨rfl, stays⟩
  · by_cases up : name = ".."
    · exact .inr ⟨place.dropLast, fun u => by simp [follow, up]⟩
    · rw [follow_plain ⟨stay, up⟩] at led
      by_cases long : maxNameBytes < name.utf8ByteSize
      · simp [long] at led
      · exact .inr ⟨place ++ [name], fun u => by rw [follow_plain ⟨stay, up⟩, if_neg long]⟩

theorem follow_of_keeps (keeps : t.Keeps t') {here found : Found} {name : String}
    (led : t.follow here name = .ok found) (directory : found.node = .directory) :
    t'.follow here name = .ok found := by
  obtain ⟨rfl, stays⟩ | ⟨place, looks⟩ := follow_cases led
  · exact stays t'
  · rw [looks] at led ⊢
    obtain ⟨rfl, stands⟩ := find_eq_ok_iff.mp led
    rw [directory] at stands
    exact find_eq_ok_iff.mpr ⟨rfl, directory ▸ keeps.directories _ stands⟩

theorem node?_of_follow {here found : Found} {name : String}
    (stands : t.node? here.place = some here.node) (led : t.follow here name = .ok found) :
    t.node? found.place = some found.node := by
  obtain ⟨rfl, _⟩ | ⟨place, looks⟩ := follow_cases led
  · exact stands
  · rw [looks] at led
    obtain ⟨rfl, there⟩ := find_eq_ok_iff.mp led
    exact there

/-! ## Several names -/

@[simp] theorem walkFrom_nil (here : Found) : t.walkFrom here [] = .ok here := rfl

theorem walkFrom_cons (here : Found) (name : String) (names : List String) :
    t.walkFrom here (name :: names) = t.follow here name >>= fun next => t.walkFrom next names := by
  simp [walkFrom, List.foldlM_cons]

theorem walkFrom_append (here : Found) (front back : List String) :
    t.walkFrom here (front ++ back) = t.walkFrom here front >>= fun next => t.walkFrom next back := by
  simp [walkFrom, List.foldlM_append]

theorem walk_append (front back : List String) :
    t.walk absolute (front ++ back) = t.walk absolute front >>= fun here => t.walkFrom here back := by
  rw [walk, walk, walkFrom_append]

theorem directory_of_walkFrom {here found : Found} {names : List String}
    (led : t.walkFrom here names = .ok found) (directory : found.node = .directory) :
    here.node = .directory := by
  cases names with
  | nil =>
    cases led
    exact directory
  | cons name names =>
    rw [walkFrom_cons, bind_eq_ok_iff] at led
    obtain ⟨next, first, _⟩ := led
    exact follow_directory first

theorem walkFrom_of_keeps (keeps : t.Keeps t') {here found : Found} {names : List String}
    (led : t.walkFrom here names = .ok found) (directory : found.node = .directory) :
    t'.walkFrom here names = .ok found := by
  induction names generalizing here with
  | nil => exact led
  | cons name names ih =>
    rw [walkFrom_cons, bind_eq_ok_iff] at led ⊢
    obtain ⟨next, first, rest⟩ := led
    -- The way ends at a directory, so it also passes through one here.
    have between := directory_of_walkFrom rest directory
    exact ⟨next, follow_of_keeps keeps first between, ih rest⟩

theorem walk_of_keeps (keeps : t.Keeps t') {found : Found} {names : List String}
    (led : t.walk absolute names = .ok found) (directory : found.node = .directory) :
    t'.walk absolute names = .ok found := by
  rw [walk, keeps.origin]
  exact walkFrom_of_keeps keeps led directory

theorem node?_of_walkFrom {here found : Found} {names : List String}
    (stands : t.node? here.place = some here.node) (led : t.walkFrom here names = .ok found) :
    t.node? found.place = some found.node := by
  induction names generalizing here with
  | nil =>
    cases led
    exact stands
  | cons name names ih =>
    rw [walkFrom_cons, bind_eq_ok_iff] at led
    obtain ⟨next, first, rest⟩ := led
    exact ih (node?_of_follow stands first) rest

theorem node?_of_walk {found : Found} {names : List String} (led : t.walk absolute names = .ok found) :
    t.node? found.place = some found.node :=
  node?_of_walkFrom (node?_origin t absolute) led

/-! ## Plain names -/

theorem follow_plain_eq_ok {here found : Found} {name : String} (plain : Plain name)
    (led : t.follow here name = .ok found) :
    name.utf8ByteSize ≤ maxNameBytes ∧ found.place = here.place ++ [name] := by
  have start := follow_directory led
  obtain ⟨place, node⟩ := here
  subst start
  rw [follow_plain plain] at led
  split at led
  · cases led
  · exact ⟨Nat.not_lt.mp ‹_›, (find_eq_ok_iff.mp led).1⟩

/-- Plain names lead to the place that they write, and none of them is too long. -/
theorem place_of_walkFrom {here found : Found} {names : List String}
    (plain : ∀ name ∈ names, Plain name) (led : t.walkFrom here names = .ok found) :
    found.place = here.place ++ names ∧ ∀ name ∈ names, name.utf8ByteSize ≤ maxNameBytes := by
  induction names generalizing here with
  | nil =>
    cases led
    exact ⟨(List.append_nil _).symm, fun _ member => by cases member⟩
  | cons name names ih =>
    rw [List.forall_mem_cons] at plain
    rw [walkFrom_cons, bind_eq_ok_iff] at led
    obtain ⟨next, first, rest⟩ := led
    obtain ⟨short, down⟩ := follow_plain_eq_ok plain.1 first
    obtain ⟨place, shorts⟩ := ih plain.2 rest
    refine ⟨?_, List.forall_mem_cons.mpr ⟨short, shorts⟩⟩
    rw [place, down, List.append_assoc, List.singleton_append]

/-- A way by plain names to a file only depends on the directories on it and on the file. -/
theorem walkFrom_file_of_keeps (keeps : t.Keeps t') {here : Found} {names : List String}
    {q : Location} {data : ByteArray} (plain : ∀ name ∈ names, Plain name) (nonempty : names ≠ [])
    (led : t.walkFrom here names = .ok ⟨q, .file data⟩) (stands : t'.node? q = some (.file data)) :
    t'.walkFrom here names = .ok ⟨q, .file data⟩ := by
  induction names generalizing here with
  | nil => exact absurd rfl nonempty
  | cons name names ih =>
    rw [List.forall_mem_cons] at plain
    rw [walkFrom_cons, bind_eq_ok_iff] at led ⊢
    obtain ⟨next, first, rest⟩ := led
    cases names with
    | nil =>
      -- The last name leads to the file itself.
      cases rest
      refine ⟨_, ?_, rfl⟩
      have start := follow_directory first
      obtain ⟨short, down⟩ := follow_plain_eq_ok plain.1 first
      obtain ⟨place, node⟩ := here
      subst start
      rw [follow_plain plain.1, if_neg (Nat.not_lt.mpr short)]
      exact find_eq_ok_iff.mpr ⟨down, down ▸ stands⟩
    | cons after names =>
      -- Another name follows, so this one leads to a directory.
      have between : next.node = .directory := by
        rw [walkFrom_cons, bind_eq_ok_iff] at rest
        obtain ⟨_, second, _⟩ := rest
        exact follow_directory second
      exact ⟨next, follow_of_keeps keeps first between,
        ih plain.2 (List.cons_ne_nil after names) rest⟩

/-! ## Rooted trees -/

theorem Rooted.directory (rooted : t.Rooted) {place : Location} {names : List String}
    (nonempty : names ≠ []) (stands : t.node? (place ++ names) ≠ none) :
    t.node? place = some .directory := by
  induction names using List.reverseRecOn with
  | nil => exact absurd rfl nonempty
  | append_singleton names name ih =>
    rw [← List.append_assoc] at stands
    have above := rooted _ _ stands
    by_cases last : names = []
    · simpa [last] using above
    · exact ih last (by simp [above])

/-- What stands above a directory are directories. -/
theorem Rooted.directory_of_start (rooted : t.Rooted) {place q : Location}
    (stands : t.node? place = some .directory) (start : q <+: place) :
    t.node? q = some .directory := by
  obtain ⟨rest, rfl⟩ := start
  by_cases whole : rest = []
  · rwa [whole, List.append_nil] at stands
  · exact rooted.directory whole (by rw [stands]; simp)

theorem Rooted.walkFrom (rooted : t.Rooted) {here : Found} {names : List String} {node : Node}
    (start : t.node? here.place = some here.node)
    (plain : ∀ name ∈ names, Plain name) (short : ∀ name ∈ names, name.utf8ByteSize ≤ maxNameBytes)
    (stands : t.node? (here.place ++ names) = some node) :
    t.walkFrom here names = .ok ⟨here.place ++ names, node⟩ := by
  induction names generalizing here with
  | nil =>
    rw [List.append_nil, start, Option.some.injEq] at stands
    subst stands
    simp
  | cons name names ih =>
    rw [List.forall_mem_cons] at plain short
    have above := rooted.directory (List.cons_ne_nil name names) (by rw [stands]; simp)
    have further : here.place ++ name :: names = (here.place ++ [name]) ++ names := by simp
    obtain ⟨place, kind⟩ := here
    rw [above, Option.some.injEq] at start
    subst start
    -- What stands at the next place is the node sought or a directory on the way to it.
    obtain ⟨next, there⟩ : ∃ next, t.node? (place ++ [name]) = some next := by
      by_cases last : names = []
      · subst last
        exact ⟨node, stands⟩
      · exact ⟨.directory, rooted.directory last (by rw [← further, stands]; simp)⟩
    rw [walkFrom_cons, bind_eq_ok_iff]
    refine ⟨⟨place ++ [name], next⟩, ?_, ?_⟩
    · rw [follow_plain plain.1, if_neg (Nat.not_lt.mpr short.1)]
      exact find_eq_ok_iff.mpr ⟨rfl, there⟩
    · rw [further]
      exact ih there plain.2 short.2 (by rw [← further]; exact stands)

end FileTree

end BlobDepot
