import Mathlib.Data.List.TakeWhile
import BlobDepot.Proofs.Service.Requests
import BlobDepot.Proofs.Text.Encodings

/-! # The wording of requests and answers

How a client has to read what goes to the service and what comes back, in terms of the encodings
alone: which key the path of a request names (`Names`), and when an answer confirms that a blob of
some size was stored under a key (`Confirms`).  Each path names one key at most, and an answer
confirms one key and one size at most.  The service reads paths in this way
(`decodeKey?_eq_some_iff`) and writes its answers in this way (`confirms_receiptJson`,
`jsonWithRate_eq`).
-/

namespace BlobDepot.Service

open Http Text

/-- An encoded key: decoded it is the key behind any number of slashes. -/
def Denotes (encoded key : String) : Prop :=
  key.toList.head? ≠ some '/' ∧ ∃ n, Percent.Decodes (Form.octets encoded)
    (Form.octets (String.ofList (List.replicate n '/') ++ key))

/-- The path of a request names a key: behind the start that all paths of blobs have stands the
    encoded key. -/
def Names (r : Request) (key : String) : Prop :=
  ∃ encoded, encoded ≠ "" ∧ r.target.path = "/blobs/" ++ encoded ∧ Denotes encoded key

/-- An answer confirms that a blob was stored: it is a JSON object that tells the key and the size
    of the blob. -/
def Confirms (answer : ByteArray) (key : String) (size : Nat) : Prop :=
  ∃ message name, Json.Spells message ("Blob '" ++ key ++ "' stored successfully").toList ∧
    Json.Spells name key.toList ∧
    answer = ("\x7b\"message\":\"" ++ String.ofList message ++ "\",\"key\":\"" ++
      String.ofList name ++ "\",\"size\":" ++ toString size ++ "\x7d").toUTF8

/-- A member of a JSON object whose name needs no escapes. -/
def member (name value : String) : String :=
  "\"" ++ name ++ "\":" ++ value

/-- The JSON object about the cache, by the numbers that it tells. -/
def statsText (hits misses evictions rejections entries used capacity limit : Nat) (rate : String) :
    String :=
  "\x7b" ++ member "hits" (toString hits) ++ "," ++ member "misses" (toString misses) ++ "," ++
    member "evictions" (toString evictions) ++ "," ++ member "rejections" (toString rejections) ++ "," ++
    member "total_entries" (toString entries) ++ "," ++ member "mem_used" (toString used) ++ "," ++
    member "capacity" (toString capacity) ++ "," ++ member "mem_limit" (toString limit) ++ "," ++
    member "hit_rate" rate ++ "\x7d"

variable {r : Request} {encoded key key' : String} {answer : ByteArray} {size size' : Nat}

/-! ## Paths -/

theorem dropWhile_slash_iff {letters rest : List Char} : letters.dropWhile (· == '/') = rest ↔
    rest.head? ≠ some '/' ∧ ∃ n, letters = List.replicate n '/' ++ rest := by
  constructor
  · rintro rfl
    constructor
    · intro slash
      have stopped := List.head?_dropWhile_not (· == '/') letters
      rw [slash] at stopped
      cases stopped
    · refine ⟨(letters.takeWhile (· == '/')).length, ?_⟩
      have slashes : letters.takeWhile (· == '/') = List.replicate _ '/' :=
        List.eq_replicate_length.mpr fun c member => by simpa using List.mem_takeWhile_imp member
      rw [← slashes, List.takeWhile_append_dropWhile]
  · rintro ⟨unslashed, n, rfl⟩
    rw [List.dropWhile_append_of_pos (by simp +contextual)]
    cases rest with
    | nil => rfl
    | cons c rest => exact List.dropWhile_cons_of_neg (by simpa using unslashed)

theorem decodeKey?_eq_some_iff : decodeKey? encoded = some key ↔ Denotes encoded key := by
  have decoded_iff : ∀ text : String,
      String.fromUTF8? ⟨(Percent.decode (Form.octets encoded)).toArray⟩ = some text ↔
        Percent.Decodes (Form.octets encoded) (Form.octets text) := by
    intro text
    rw [fromUTF8?_eq_some_iff, Percent.decodes_iff, ByteArray.ext_iff]
    simp [Form.octets, ← Array.toList_inj]
  have stripped_iff : ∀ text : String,
      String.ofList (text.toList.dropWhile (· == '/')) = key ↔ key.toList.head? ≠ some '/' ∧
        ∃ n, text = String.ofList (List.replicate n '/') ++ key := by
    intro text
    simp only [← String.toList_inj, String.toList_ofList, dropWhile_slash_iff, String.toList_append]
  simp only [decodeKey?, Option.map_eq_some_iff, decoded_iff, stripped_iff]
  constructor
  · rintro ⟨_, decodes, unslashed, n, rfl⟩
    exact ⟨unslashed, n, decodes⟩
  · rintro ⟨unslashed, n, decodes⟩
    exact ⟨_, decodes, unslashed, n, rfl⟩

theorem Denotes.unique (denotes : Denotes encoded key) (denotes' : Denotes encoded key') :
    key = key' := by
  rw [← decodeKey?_eq_some_iff] at denotes denotes'
  exact Option.some.inj (denotes.symm.trans denotes')

theorem ofPath?_eq_blob_iff {path : String} : Route.ofPath? path = some (.blob encoded) ↔
    encoded ≠ "" ∧ path = "/blobs/" ++ encoded := by
  constructor
  · intro found
    rw [Route.ofPath?] at found
    split at found
    · cases found
    split at found
    · cases found
    simp only [Option.ite_none_right_eq_some, Bool.and_eq_true, List.isPrefixOf_iff_prefix] at found
    obtain ⟨⟨⟨rest, letters⟩, some_letter⟩, same⟩ := found
    cases same
    rw [← letters, List.drop_left] at some_letter ⊢
    refine ⟨fun bare => ?_, ?_⟩
    · rw [String.ofList_eq_empty_iff.mp bare] at some_letter
      cases some_letter
    · rw [← String.toList_inj, ← letters, String.toList_append]
      exact congrArg (blobsPath.toList ++ ·) String.toList_ofList.symm
  · rintro ⟨named, rfl⟩
    exact ofPath?_blobsPath_append named

theorem names_iff : Names r key ↔
    ∃ encoded, Route.ofPath? r.target.path = some (.blob encoded) ∧ decodeKey? encoded = some key := by
  simp only [Names, ofPath?_eq_blob_iff, decodeKey?_eq_some_iff, and_assoc]

theorem Names.unique (names : Names r key) (names' : Names r key') : key = key' := by
  obtain ⟨encoded, -, path, denotes⟩ := names
  obtain ⟨encoded', -, path', denotes'⟩ := names'
  obtain rfl := (String.append_right_inj "/blobs/").mp (path.symm.trans path')
  exact denotes.unique denotes'

/-! ## Answers -/

theorem literal_eq (s : String) : Json.literal s =
    "\"" ++ String.ofList (s.toList.flatMap Json.escapeChar) ++ "\"" := by
  simp [Json.literal, ← String.toList_inj]

theorem confirms_receiptJson (key : String) (size : Nat) :
    Confirms (receiptJson key size).toUTF8 key size := by
  refine ⟨_, _, Json.spells_escaped _, Json.spells_escaped _, ?_⟩
  have message : Json.literal "message" = "\"message\"" := by decide +kernel
  have name : Json.literal "key" = "\"key\"" := by decide +kernel
  have bytes : Json.literal "size" = "\"size\"" := by decide +kernel
  rw [receiptJson, Json.object]
  simp only [List.map_cons, List.map_nil, Json.Value.render, message, name, bytes]
  rw [literal_eq, literal_eq]
  refine congrArg String.toUTF8 (String.toList_inj.mp ?_)
  simp [String.intercalate_cons_cons]

/-- There is one way to read an answer that confirms something. -/
theorem Confirms.unique (confirms : Confirms answer key size) (confirms' : Confirms answer key' size') :
    key = key' ∧ size = size' := by
  obtain ⟨message, name, told, named, rfl⟩ := confirms
  obtain ⟨message', name', told', named', same⟩ := confirms'
  have letters := congrArg String.toList (String.toByteArray_inj.mp same)
  have to_key : "\",\"key\":\"".toList = '"' :: ",\"key\":\"".toList := by decide
  have to_size : "\",\"size\":".toList = '"' :: ",\"size\":".toList := by decide
  simp only [String.toList_append, String.toList_ofList, List.append_assoc, to_key, to_size,
    List.cons_append] at letters
  -- The message ends at its quote, then the key does, and what is left is the size.
  obtain ⟨-, after_message⟩ := told.append_quote_inj told' (List.append_cancel_left letters)
  obtain ⟨rfl, after_key⟩ := named.append_quote_inj named' (List.append_cancel_left after_message)
  have digits := List.append_cancel_right (List.append_cancel_left after_key)
  simp only [Nat.toString_eq_repr, Nat.toList_repr] at digits
  refine ⟨String.toList_inj.mp (named.unique named'), ?_⟩
  rw [← Nat.ofDigitChars_ten_toDigits (n := size), digits, Nat.ofDigitChars_ten_toDigits]

theorem literal_append {name : String}
    (unescaped : name.toList.flatMap Json.escapeChar = name.toList) (value : String) :
    Json.literal name ++ ":" ++ value = member name value := by
  have colon : "\"" ++ ":" = "\":" := by decide
  rw [literal_eq, unescaped, String.ofList_toList, member, @String.append_assoc ("\"" ++ name), colon]

theorem jsonWithRate_eq (s : Cache.Snapshot) : s.jsonWithRate =
    statsText s.tally.hits s.tally.misses s.tally.evictions s.tally.rejections s.entries s.used
      s.capacity s.byteLimit s.tally.hitRate.render := by
  unfold statsText Cache.Snapshot.jsonWithRate Json.object Cache.Snapshot.fields
  simp only [List.cons_append, List.nil_append, List.map_cons, List.map_nil, Json.Value.render]
  simp (disch := decide +kernel) only [literal_append]
  simp only [String.intercalate_cons_cons, String.intercalate_singleton, String.append_assoc]

end BlobDepot.Service
