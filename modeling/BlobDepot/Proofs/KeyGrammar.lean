import BlobDepot.Proofs.Archive.Uploads
import BlobDepot.Proofs.Archive.Blobs
import BlobDepot.Proofs.KeyPrefixes

/-! # The grammar of keys

What a key looks like can be said without cutting it into segments (`Grammatical`): how long it
may be, which characters it may not hold, start or end with, and which two of them may not stand
together.  That is what the check accepts (`valid_iff_grammatical`), and it makes keys of two
texts with a slash between them exactly if both are keys (`valid_join_iff`).

Put behind the root of an archive, a key goes on from the root with its own names
(`below_path`), so that two keys never make the same path (`trail_path_injective`).  The paths
for uploads end in a name with a dot at its start, and no path of a key does
(`trail_path_ne_uploadPath`).  All of this together is `keys_follow_grammar`.
-/

namespace BlobDepot

/-- The names of a path, without the pieces that name nothing. -/
def Path.trail (p : Path) : List String :=
  p.pieces.filter isName

/-- The second path starts as the first one does, has its pieces, less an empty one at its end,
    and behind them one or more names, each of which leads one level down. -/
def Path.Below (root p : Path) : Prop :=
  p.absolute = root.absolute ∧ ∃ front below, p.pieces = front ++ below ∧
    (front = root.pieces ∨ front ++ [""] = root.pieces) ∧
    below ≠ [] ∧ ∀ name ∈ below, isName name = true ∧ name ≠ ".."

namespace BlobKey

open Archive

/-- What a key looks like, said of its bytes and characters. -/
structure Grammatical (key : String) : Prop where
  nonempty : 1 ≤ key.utf8ByteSize
  short : key.utf8ByteSize ≤ 256
  no_backslash : '\\' ∉ key.toList
  no_nul : '\x00' ∉ key.toList
  no_slash_first : key.toList.head? ≠ some '/'
  no_dot_first : key.toList.head? ≠ some '.'
  no_slash_last : key.toList.getLast? ≠ some '/'
  no_slash_after_slash : ¬ ['/', '/'] <:+: key.toList
  no_dot_after_slash : ¬ ['/', '.'] <:+: key.toList

variable {key front : String} {cs ds : List Char} {start : Bool}

theorem singleton_prefix_iff {b : Char} : [b] <+: cs ↔ cs.head? = some b := by
  cases cs <;> simp [eq_comm]

/-- Two characters stand together at the start of a text or later. -/
theorem pair_infix_cons {a b c : Char} :
    [a, b] <:+: c :: cs ↔ c = a ∧ cs.head? = some b ∨ [a, b] <:+: cs := by
  rw [List.infix_cons_iff, List.cons_prefix_cons, singleton_prefix_iff, eq_comm]

theorem goesOn_start_iff : goesOn true cs = true ↔
    cs ≠ [] ∧ cs.head? ≠ some '/' ∧ cs.head? ≠ some '.' ∧ goesOn false cs = true := by
  cases cs with
  | nil => simp [goesOn]
  | cons c cs =>
    by_cases slash : c = '/'
    · simp [goesOn, slash]
    · simp [goesOn, slash]

theorem goesOn_inside_iff : goesOn false cs = true ↔
    cs.getLast? ≠ some '/' ∧ ¬ ['/', '/'] <:+: cs ∧ ¬ ['/', '.'] <:+: cs := by
  induction cs with
  | nil => simp [goesOn]
  | cons c cs ih =>
    rw [pair_infix_cons, pair_infix_cons, List.getLast?_cons]
    by_cases slash : c = '/'
    · -- Behind a slash a segment starts.
      subst slash
      have next : goesOn false ('/' :: cs) = goesOn true cs := rfl
      rw [next, goesOn_start_iff, ih]
      cases final : cs.getLast? with
      | none => simp [List.getLast?_eq_none_iff.mp final]
      | some last =>
        have nonempty : cs ≠ [] := fun empty => by simp [empty] at final
        simp only [nonempty, ne_eq, not_false_eq_true, Option.getD_some, true_and, not_or]
        tauto
    · have next : goesOn false (c :: cs) = goesOn false cs := by simp [goesOn, slash]
      have last : some (cs.getLast?.getD c) ≠ some '/' ↔ cs.getLast? ≠ some '/' := by
        cases cs.getLast? <;> simp [slash]
      rw [next, ih, last]
      simp only [slash, false_and, false_or]

/-- With a slash between them, two texts make good segments exactly if both of them do. -/
theorem goesOn_join : goesOn start (cs ++ '/' :: ds) = (goesOn start cs && goesOn true ds) := by
  induction cs generalizing start with
  | nil => rfl
  | cons c cs ih =>
    rw [List.cons_append, goesOn, goesOn, ih, ih]
    split
    · rw [Bool.and_assoc]
    · rw [Bool.and_assoc]

theorem any_isForbidden_eq_false_iff :
    cs.any isForbidden = false ↔ '\\' ∉ cs ∧ '\x00' ∉ cs := by
  induction cs with
  | nil => simp
  | cons c cs ih =>
    rw [List.any_cons, Bool.or_eq_false_iff, ih, isForbidden, Bool.or_eq_false_iff]
    simp only [beq_eq_false_iff_ne, List.mem_cons, not_or, ne_comm]
    tauto

theorem valid_iff_grammatical : Valid key ↔ Grammatical key := by
  have empty : key.toList ≠ [] ↔ 1 ≤ key.utf8ByteSize := by
    rw [Nat.one_le_iff_ne_zero, ne_eq, ne_eq, String.utf8ByteSize_eq_zero_iff,
      String.toList_eq_nil_iff]
  rw [valid_iff_goesOn, any_isForbidden_eq_false_iff, goesOn_start_iff, goesOn_inside_iff, empty]
  constructor
  · rintro ⟨short, ⟨backslash, nul⟩, nonempty, slash, dot, last, slashes, dots⟩
    exact ⟨nonempty, short, backslash, nul, slash, dot, last, slashes, dots⟩
  · rintro ⟨nonempty, short, backslash, nul, slash, dot, last, slashes, dots⟩
    exact ⟨short, ⟨backslash, nul⟩, nonempty, slash, dot, last, slashes, dots⟩

/-- As long as there is room for both, two texts make a key together exactly if both are keys. -/
theorem valid_join_iff (short : front.utf8ByteSize + 1 + key.utf8ByteSize ≤ maxBytes) :
    Valid (front ++ "/" ++ key) ↔ Valid front ∧ Valid key := by
  have letters : (front ++ "/" ++ key).toList = front.toList ++ '/' :: key.toList := by simp
  have size : (front ++ "/" ++ key).utf8ByteSize = front.utf8ByteSize + 1 + key.utf8ByteSize := by
    rw [String.utf8ByteSize_append, String.utf8ByteSize_append]
    rfl
  have allowed : isForbidden '/' = false := rfl
  rw [valid_iff_goesOn, valid_iff_goesOn, valid_iff_goesOn, letters, size, goesOn_join,
    List.any_append, List.any_cons, allowed, Bool.false_or, Bool.or_eq_false_iff, Bool.and_eq_true]
  constructor
  · rintro ⟨-, ⟨clean, clean'⟩, good, good'⟩
    exact ⟨⟨by omega, clean, good⟩, by omega, clean', good'⟩
  · rintro ⟨⟨-, clean, good⟩, -, clean', good'⟩
    exact ⟨short, ⟨clean, clean'⟩, good, good'⟩

/-! ## Paths of keys -/

variable {other : String} {a : Archive}

theorem below_path (a : Archive) (valid : Valid key) : a.root.Below (a.path key) := by
  obtain ⟨front, whole, start⟩ := exists_path a valid
  rw [whole]
  exact ⟨rfl, front, names key, rfl, start, names_ne_nil key, fun name member =>
    ⟨isName_of_mem_names valid member, (plain_of_mem_names valid member).2⟩⟩

theorem trail_path (a : Archive) (valid : Valid key) :
    (a.path key).trail = a.root.trail ++ names key := by
  have named : (names key).filter Path.isName = names key :=
    List.filter_eq_self.mpr fun _ => isName_of_mem_names valid
  obtain ⟨front, whole, -, same⟩ :=
    Path.join_eq (q := ⟨false, names key⟩) rfl (names_ne_nil key) a.root
  rw [Path.trail, path, ofString_eq valid, whole, List.filter_append, same, named, Path.trail]

theorem trail_path_injective (valid : Valid key) (valid' : Valid other)
    (same : (a.path other).trail = (a.path key).trail) : other = key := by
  rw [trail_path a valid, trail_path a valid', List.append_cancel_left_eq] at same
  exact names_injective same

theorem getLast?_trail_uploadPath (p : Path) (number : Nat) :
    (uploadPath p number).trail.getLast? = some (besideName p number) := by
  obtain ⟨front, split⟩ := List.getLast?_eq_some_iff.mp (getLast?_uploadPath p number)
  have named : [besideName p number].filter Path.isName = [besideName p number] := by
    simp [isName_besideName]
  rw [Path.trail, split, List.filter_append, named, List.getLast?_concat]

/-- The last name of a key starts with no dot, and that of the path for an upload does. -/
theorem trail_path_ne_uploadPath (valid : Valid key) (p : Path) (number : Nat) :
    (a.path key).trail ≠ (uploadPath p number).trail := by
  intro same
  obtain ⟨last, member, final⟩ := exists_last_name key
  have dotted := getLast?_trail_uploadPath p number
  rw [← same, trail_path a valid, List.getLast?_append_of_ne_nil _ (names_ne_nil key), final,
    Option.some.injEq] at dotted
  obtain ⟨c, rest, letters, undotted⟩ := head_of_mem_names valid member
  have head := head_besideName p number
  rw [← dotted, letters] at head
  exact undotted (Option.some.inj head)

/-- The check accepts exactly the texts that follow the grammar, and as long as there is room it
    accepts two texts with a slash between them exactly if it accepts both.  Behind the root of an
    archive, each key makes a path strictly below it, and another one than all other keys and
    than all uploads, even if the paths are read name by name. -/
theorem keys_follow_grammar :
    (∀ key, check key = .ok () ↔ Grammatical key) ∧
    (∀ front key : String, front.utf8ByteSize + 1 + key.utf8ByteSize ≤ 256 →
      (check (front ++ "/" ++ key) = .ok () ↔ check front = .ok () ∧ check key = .ok ())) ∧
    ∀ (a : Archive) (key : String), check key = .ok () →
      a.root.Below (a.path key) ∧
      (∀ other, check other = .ok () → other ≠ key → (a.path other).trail ≠ (a.path key).trail) ∧
      ∀ other number, (a.path key).trail ≠ (uploadPath (a.path other) number).trail := by
  refine ⟨fun key => ?_, fun front key short => ?_, fun a key accepted => ?_⟩
  · rw [check_eq_ok_iff, valid_iff_grammatical]
  · rw [check_eq_ok_iff, check_eq_ok_iff, check_eq_ok_iff]
    exact valid_join_iff short
  · have valid := check_eq_ok_iff.mp accepted
    refine ⟨below_path a valid, fun other accepted' different same => ?_, fun other number => ?_⟩
    · exact different (trail_path_injective valid (check_eq_ok_iff.mp accepted') same)
    · exact trail_path_ne_uploadPath valid (a.path other) number

/-- A key is filled up to its last byte.  The root ends in a slash, and the name of the upload is
    that of the key between dots. -/
theorem keys_follow_grammar_of_letters :
    let front := String.ofList (List.replicate 254 'x')
    let a : Archive := { tree := .empty, root := .ofString "/srv/blobs/" }
    front.utf8ByteSize + 1 + "a".utf8ByteSize = 256 ∧ check front = .ok () ∧ check "a" = .ok () ∧
      check (front ++ "/" ++ "a") = .ok () ∧ Grammatical front ∧ ¬ Grammatical "cards/.a" ∧
      a.root.Below (a.path "cards/ä") ∧
      (a.path "cards/b").trail ≠ (a.path "cards/ä").trail ∧
      (a.path "cards/ä").trail ≠ (uploadPath (a.path "cards/ä") 7).trail := by
  intro front a
  obtain ⟨grammar, joins, paths⟩ := keys_follow_grammar
  have full : front.utf8ByteSize + 1 + "a".utf8ByteSize = 256 := by
    rw [utf8ByteSize_replicate]
    rfl
  have accepted : check front = .ok () :=
    check_eq_ok_iff.mpr (valid_replicate (by decide) (by decide)).1
  have accepted' : check "a" = .ok () := by decide +kernel
  have whole := (joins front "a" full.le).mpr ⟨accepted, accepted'⟩
  have refused : ¬ Grammatical "cards/.a" := by
    rw [← grammar]
    decide +kernel
  obtain ⟨below, apart, aside⟩ := paths a "cards/ä" (by decide +kernel)
  exact ⟨full, accepted, accepted', whole, (grammar front).mp accepted, refused, below,
    apart "cards/b" (by decide +kernel) (by decide), aside "cards/ä" 7⟩

end BlobKey

end BlobDepot
