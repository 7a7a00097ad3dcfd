import Mathlib.Data.List.Basic
import BlobDepot.Archive
import BlobDepot.Proofs.KeyNames
import BlobDepot.Proofs.FileTree.Effects
import BlobDepot.Proofs.FileTree.Paths

/-! # Uploads

An upload writes to a path of its own and renames the file to its target.  The name of
the file beside the target starts with a dot, and that is all a key needs to stay clear
of it: an upload that fails alters files at dotted places only (`alters_upload_error`),
and one that succeeds alters its target in addition, which holds the new bytes then
(`upload_ok`).
-/

namespace BlobDepot.Archive

open FileTree BlobKey

variable {t t' : FileTree}

/-- The last name on the way to a place starts with a dot. -/
def Dotted (q : Location) : Prop :=
  ∃ place name, q = place ++ [name] ∧ name.toList.head? = some '.'

/-- The names of a key lead to no dotted place, and nor do those at its start. -/
theorem not_dotted_start {key : String} (valid : Valid key) {start : List String}
    (nonempty : start ≠ []) (above : start <+: names key) (base : Location) :
    ¬ Dotted (base ++ start) := by
  rintro ⟨place, name, same, dot⟩
  obtain ⟨front, last, rfl⟩ := (List.eq_nil_or_concat' start).resolve_left nonempty
  rw [← List.append_assoc] at same
  obtain ⟨_, final⟩ := List.append_inj' same rfl
  rw [List.singleton_inj] at final
  subst final
  have member : last ∈ names key := above.subset (List.mem_append_right _ List.mem_cons_self)
  obtain ⟨c, rest, letters, undotted⟩ := head_of_mem_names valid member
  rw [letters] at dot
  exact undotted (Option.some.inj dot)

theorem not_dotted_names {key : String} (valid : Valid key) (base : Location) :
    ¬ Dotted (base ++ names key) :=
  not_dotted_start valid (names_ne_nil key) List.prefix_rfl base

/-! ## The file beside the target -/

/-- The name of the file beside a target. -/
def besideName (p : Path) (number : Nat) : String :=
  "." ++ p.fileName?.getD "" ++ "." ++ toString number ++ ".partial"

theorem head_besideName (p : Path) (number : Nat) :
    (besideName p number).toList.head? = some '.' := by
  rw [besideName, String.append_assoc, String.append_assoc, String.append_assoc,
    String.toList_append]
  rfl

theorem utf8ByteSize_besideName (p : Path) (number : Nat) : (besideName p number).utf8ByteSize =
    (p.fileName?.getD "").utf8ByteSize + (toString number).utf8ByteSize + 10 := by
  have dot : ".".utf8ByteSize = 1 := rfl
  have partial_ : ".partial".utf8ByteSize = 8 := rfl
  simp only [besideName, String.utf8ByteSize_append, dot, partial_]
  omega

/-- The name is too long to be empty, `.` or `..`. -/
theorem besideName_ne {short : String} (bound : short.utf8ByteSize ≤ 2) (p : Path) (number : Nat) :
    besideName p number ≠ short := by
  have long := utf8ByteSize_besideName p number
  rintro rfl
  omega

theorem plain_besideName (p : Path) (number : Nat) : Plain (besideName p number) :=
  ⟨besideName_ne (by decide) p number, besideName_ne (by decide) p number⟩

theorem besideName_ne_empty (p : Path) (number : Nat) : besideName p number ≠ "" :=
  besideName_ne (by decide) p number

theorem isName_besideName (p : Path) (number : Nat) : Path.isName (besideName p number) = true := by
  simp [Path.isName, besideName_ne_empty p number, (plain_besideName p number).1]

theorem nul_not_mem_besideName {p : Path} (clean : '\x00' ∉ (p.fileName?.getD "").toList)
    (number : Nat) : '\x00' ∉ (besideName p number).toList := by
  have digits : '\x00' ∉ (toString number).toList := by
    intro member
    rw [Nat.toString_eq_repr, Nat.toList_repr] at member
    cases Nat.isDigit_of_mem_toDigits (by decide) (by decide) member
  simp only [besideName, String.toList_append, List.mem_append, not_or]
  exact ⟨⟨⟨⟨by decide, clean⟩, by decide⟩, digits⟩, by decide⟩

theorem getLast?_uploadPath (p : Path) (number : Nat) :
    (uploadPath p number).pieces.getLast? = some (besideName p number) := by
  rw [uploadPath, ← besideName, Path.withFileName, Path.join]
  generalize (if p.fileName?.isSome then p.parent else p) = base
  simp only [Bool.false_eq_true, if_false, List.cons_ne_nil]
  split
  · rfl
  · simp

theorem name_of_locate_uploadPath {p : Path} {number : Nat} {directory : Location}
    {name : String} {slash : Bool}
    (found : t.locate (uploadPath p number) = .ok ⟨directory, some name, slash⟩) :
    name = besideName p number ∧ slash = false := by
  obtain ⟨names, read, _, last, _, _, rfl⟩ := locate_eq_ok_iff.mp found
  have final := getLast?_uploadPath p number
  have nonempty := besideName_ne_empty p number
  obtain ⟨front, pieces⟩ := List.getLast?_eq_some_iff.mp final
  have kept : [besideName p number].filter (· != "") = [besideName p number] := by
    simp [nonempty]
  rw [namesOf_eq_ok read, pieces, List.filter_append, kept, List.getLast?_concat,
    Option.some.injEq] at last
  exact ⟨last.symm, by simp [final, nonempty]⟩

theorem dotted_beside (directory : Location) (p : Path) (number : Nat) :
    Dotted (directory ++ [besideName p number]) :=
  ⟨directory, _, rfl, head_besideName p number⟩

/-! ## The whole upload -/

/-- An upload that fails leaves the tree as it was, or it wrote the file beside the target
    and removed it again. -/
theorem upload_eq_error {p : Path} {number : Nat} {data : ByteArray} {e : Errno}
    (failed : upload t p number data = (some e, t')) :
    (t.writeFile (uploadPath p number) data = .error e ∧ t' = t) ∨
      ∃ directory name, t.locate (uploadPath p number) = .ok ⟨directory, some name, false⟩ ∧
        t.node? (directory ++ [name]) ≠ some .directory ∧
        t' = (t.set (directory ++ [name]) (.file data)).erase (directory ++ [name]) := by
  rw [upload] at failed
  split at failed
  · -- The bytes could not be written, so there is no file that could be removed.
    rename_i refused
    cases failed
    refine .inl ⟨refused, ?_⟩
    rw [FileTree.discard]
    split
    · rename_i without removed
      obtain ⟨directory, name, slash, bytes, found, stands, _⟩ := removeFile_eq_ok removed
      obtain ⟨rfl, rfl⟩ := name_of_locate_uploadPath found
      rw [writeFile_of_locate found (by simp [stands])] at refused
      cases refused
    · rfl
  · rename_i written wrote
    split at failed
    · -- The file was written but could not be renamed.
      cases failed
      obtain ⟨directory, name, found, vacant, rfl⟩ := writeFile_eq_ok wrote
      refine .inr ⟨directory, name, found, vacant, ?_⟩
      have keeps := (alters_set (.file data) vacant (fun _ => True) trivial).keeps
      have stands : (t.set (directory ++ [name]) (.file data)).node? (directory ++ [name]) =
          some (.file data) := by
        rw [node?_set (not_start_of_node? vacant), if_pos rfl]
      rw [FileTree.discard, removeFile_of_locate (locate_of_keeps keeps found) stands]
    · cases failed

/-- An upload succeeds exactly if the file beside the target can be written and the target
    is no directory, and then the bytes stand at the target and the file beside it is gone. -/
theorem upload_eq_ok_iff {p : Path} {number : Nat} {data : ByteArray} :
    upload t p number data = (none, t') ↔
      ∃ directory name directory' name',
        t.locate (uploadPath p number) = .ok ⟨directory, some name, false⟩ ∧
        t.node? (directory ++ [name]) ≠ some .directory ∧
        t.locate p = .ok ⟨directory', some name', false⟩ ∧
        t.node? (directory' ++ [name']) ≠ some .directory ∧
        t' = ((t.set (directory ++ [name]) (.file data)).erase (directory ++ [name])).set
          (directory' ++ [name']) (.file data) := by
  constructor
  · intro done
    rw [upload] at done
    split at done
    · cases done
    rename_i written wrote
    split at done
    · cases done
    rename_i renamed moved
    cases done
    obtain ⟨bytes, _, _, _, directory', name', read, found, found', vacant', rfl⟩ :=
      renameFile_eq_ok moved
    have seen := readFile_eq_ok_iff.mp read
    rw [stat_of_writeFile wrote] at seen
    cases seen
    obtain ⟨directory, name, place, vacant, rfl⟩ := writeFile_eq_ok wrote
    have keeps := (alters_set (.file data) vacant (fun _ => True) trivial).keeps
    have back := keeps_of_set_file vacant data
    rw [locate_of_keeps keeps place, Except.ok.injEq, Site.mk.injEq, Option.some.injEq] at found
    obtain ⟨rfl, rfl, -⟩ := found
    exact ⟨directory, name, directory', name', place, vacant, locate_of_keeps back found',
      fun stands => vacant' (keeps.directories _ stands), rfl⟩
  · rintro ⟨directory, name, directory', name', place, vacant, place', vacant', rfl⟩
    have wrote := writeFile_of_locate place vacant data
    have keeps := (alters_set (.file data) vacant (fun _ => True) trivial).keeps
    have back := keeps_of_set_file vacant data
    have moved := renameFile_of_locate (readFile_eq_ok_iff.mpr (stat_of_writeFile wrote))
      (locate_of_keeps keeps place) (locate_of_keeps keeps place')
      (fun stands => vacant' (back.directories _ stands))
    rw [upload, wrote]
    simp only [moved]

/-- What a file beside the target leaves once it is gone: nothing, where it stood. -/
theorem node?_beside {place : Location} (vacant : t.node? place ≠ some .directory) (node : Node)
    (q : Location) : ((t.set place node).erase place).node? q =
      if q = place then none else t.node? q := by
  have apart := not_start_of_node? vacant
  rw [node?_erase (t := t.set place node) apart, node?_set apart]
  split <;> rfl

theorem alters_beside {p : Path} {number : Nat} {directory : Location} {name : String}
    (found : t.locate (uploadPath p number) = .ok ⟨directory, some name, false⟩)
    (vacant : t.node? (directory ++ [name]) ≠ some .directory) (node : Node) :
    Alters Dotted t ((t.set (directory ++ [name]) node).erase (directory ++ [name])) := by
  obtain ⟨rfl, _⟩ := name_of_locate_uploadPath found
  refine ⟨⟨rfl, fun q stands => ?_⟩, fun q bytes undotted => ?_⟩
  · rw [node?_beside vacant, if_neg]
    · exact stands
    · rintro rfl
      exact vacant stands
  · rw [node?_beside vacant, if_neg]
    rintro rfl
    exact undotted (dotted_beside directory p number)

theorem alters_upload_error {p : Path} {number : Nat} {data : ByteArray} {e : Errno}
    (failed : upload t p number data = (some e, t')) : Alters Dotted t t' := by
  obtain ⟨_, rfl⟩ | ⟨directory, name, found, vacant, rfl⟩ := upload_eq_error failed
  · exact .refl _ _
  · exact alters_beside found vacant _

/-- An upload that succeeds puts the bytes to its target and alters nothing else but at
    dotted places. -/
theorem upload_ok {p : Path} {number : Nat} {data : ByteArray}
    (done : upload t p number data = (none, t')) :
    ∃ directory name, t'.locate p = .ok ⟨directory, some name, false⟩ ∧
      t'.stat p = .ok (.file data) ∧
      Alters (fun q => Dotted q ∨ q = directory ++ [name]) t t' := by
  obtain ⟨directory, name, directory', name', found, vacant, found', vacant', rfl⟩ :=
    upload_eq_ok_iff.mp done
  have beside : Alters (fun q => Dotted q ∨ q = directory' ++ [name']) t _ :=
    (alters_beside found vacant (.file data)).mono fun _ => .inl
  have free : ((t.set (directory ++ [name]) (.file data)).erase (directory ++ [name])).node?
      (directory' ++ [name']) ≠ some .directory := by
    rw [node?_beside vacant]
    split
    · simp
    · exact vacant'
  have alters := beside.trans (alters_set (.file data) free _ (.inr rfl))
  have located := locate_of_keeps alters.keeps found'
  refine ⟨directory', name', located, ?_, alters⟩
  rw [stat_of_locate located, node?_set (not_start_of_node? free), if_pos rfl]
  rfl

theorem rooted_upload (rooted : t.Rooted) (p : Path) (number : Nat) (data : ByteArray) :
    (upload t p number data).2.Rooted := by
  rw [upload]
  split
  · exact rooted.discard _
  · rename_i written wrote
    split
    · exact (rooted.writeFile wrote).discard _
    · exact (rooted.writeFile wrote).renameFile ‹_›

end BlobDepot.Archive
