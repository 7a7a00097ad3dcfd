/-! # Uploads

The body of a request arrives in frames, and its stream may break off after some
of them.  Frames are joined in their order; the first that takes the total over
the limit ends the reading, whether or not the stream would break off later.
-/

namespace BlobDepot.Http

/-- The body of a request: its frames, and the error with which its stream ends if
    it does not end well. -/
structure Upload where
  frames : List ByteArray
  failure : Option String := none

namespace Upload

inductive Defect where
  | tooLarge
  | broken (reason : String)
  deriving DecidableEq, Repr

def whole (data : ByteArray) : Upload :=
  ⟨[data], none⟩

/-- Joins frames to what has been read so far, up to a total of `limit` bytes. -/
def joinFrames (limit : Nat) (sofar : ByteArray) : List ByteArray → Option ByteArray
  | [] => some sofar
  | frame :: rest =>
    if limit < sofar.size + frame.size then none
    else joinFrames limit (sofar ++ frame) rest

/-- Reads a body of at most `limit` bytes. -/
def collect (limit : Nat) (u : Upload) : Except Defect ByteArray :=
  match joinFrames limit .empty u.frames with
  | none => .error .tooLarge
  | some data =>
    match u.failure with
    | none => .ok data
    | some reason => .error (.broken reason)

/-- The bytes of all frames, one after the other. -/
def joined (u : Upload) : ByteArray :=
  u.frames.foldl (· ++ ·) .empty

theorem size_le_foldl_append (frames : List ByteArray) (sofar : ByteArray) :
    sofar.size ≤ (frames.foldl (· ++ ·) sofar).size := by
  induction frames generalizing sofar with
  | nil => exact Nat.le_refl _
  | cons frame rest ih =>
    refine Nat.le_trans ?_ (ih (sofar ++ frame))
    rw [ByteArray.size_append]
    exact Nat.le_add_right _ _

theorem joinFrames_eq_some {limit : Nat} {sofar : ByteArray} {frames : List ByteArray}
    (h : (frames.foldl (· ++ ·) sofar).size ≤ limit) :
    joinFrames limit sofar frames = some (frames.foldl (· ++ ·) sofar) := by
  induction frames generalizing sofar with
  | nil => rfl
  | cons frame rest ih =>
    have hsize := size_le_foldl_append rest (sofar ++ frame)
    rw [ByteArray.size_append] at hsize
    have hfits : ¬ limit < sofar.size + frame.size :=
      Nat.not_lt.mpr (Nat.le_trans hsize h)
    rw [joinFrames, if_neg hfits]
    exact ih h

theorem joinFrames_eq_none {limit : Nat} {sofar : ByteArray} {frames : List ByteArray}
    (hsofar : sofar.size ≤ limit) (h : limit < (frames.foldl (· ++ ·) sofar).size) :
    joinFrames limit sofar frames = none := by
  induction frames generalizing sofar with
  | nil => exact absurd h (Nat.not_lt.mpr hsofar)
  | cons frame rest ih =>
    rw [joinFrames]
    by_cases hf : limit < sofar.size + frame.size
    · rw [if_pos hf]
    · rw [if_neg hf]
      refine ih ?_ h
      rw [ByteArray.size_append]
      exact Nat.le_of_not_lt hf

@[simp] theorem joined_whole (data : ByteArray) : (whole data).joined = data :=
  ByteArray.empty_append

/-- How a body is cut into frames makes no difference to its reading.  All frames together
    exceed the limit or they do not, and only a body within the limit is read up to the end of
    its stream. -/
theorem collect_eq (limit : Nat) (u : Upload) : u.collect limit =
    if limit < u.joined.size then .error .tooLarge
    else
      match u.failure with
      | none => .ok u.joined
      | some reason => .error (.broken reason) := by
  rw [collect]
  by_cases large : limit < u.joined.size
  · rw [joinFrames_eq_none (Nat.zero_le limit) large, if_pos large]
  · rw [joinFrames_eq_some (Nat.not_lt.mp large), if_neg large]
    rfl

theorem collect_whole_joined {u : Upload} (ends : u.failure = none) (limit : Nat) :
    (whole u.joined).collect limit = u.collect limit := by
  rw [collect_eq, collect_eq, joined_whole, ends]
  rfl

end Upload

end BlobDepot.Http
