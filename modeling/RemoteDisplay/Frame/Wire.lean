/-
**Frames on the wire.**

A frame update is one message: a header of four words, the bounds of the rectangle to repaint, and
after it the encoded image that covers the rectangle.  The image is not looked at here.

A message is refused for exactly one of three reasons, looked for in this order: it is shorter than
a header, its rectangle is inverted, or nothing follows the header.

Main definitions:

* `RemoteDisplay.Frame` — a rectangle and the payload for it;
* `RemoteDisplay.Frame.encode`, `RemoteDisplay.Frame.decode` — writing and reading a message;
* `RemoteDisplay.FrameError` — why a message is no frame.

Main results:

* `RemoteDisplay.Frame.splitHeader_eq_none_iff` — only a message shorter than a header has none.
-/
import RemoteDisplay.Bytes
import RemoteDisplay.Frame.Rect

set_option relaxedAutoImplicit false
set_option autoImplicit false

namespace RemoteDisplay

/-- One frame update: the rectangle to repaint and the encoded image that covers it. -/
structure Frame where
  rect : Rect
  payload : List UInt8
deriving DecidableEq, Repr, Inhabited

/-- Why a message is no frame. -/
inductive FrameError where
  /-- The message is shorter than a header. -/
  | insufficientData (needed available : Nat)
  /-- The bounds in the header are in the wrong order. -/
  | invertedRect (rect : Rect)
  /-- Nothing follows the header. -/
  | emptyPayload (rect : Rect)
deriving DecidableEq, Repr

/-- The wording of a refusal. -/
def FrameError.message : FrameError → String
  | insufficientData needed available =>
      "insufficient data: need at least " ++ toString needed ++ " bytes, got " ++ toString available
  | invertedRect rect => "inverted dirty rectangle: " ++ rect.text
  | emptyPayload rect => "frame update for " ++ rect.text ++ " carries no image payload"

namespace Frame

/-- The length of a header: four words. -/
def headerSize : Nat := 16

/-- The header of a rectangle: left, top, right, bottom. -/
def header (r : Rect) : List UInt8 :=
  Bytes.ofWord r.left ++ Bytes.ofWord r.top ++ Bytes.ofWord r.right ++ Bytes.ofWord r.bottom

/-- The message of a frame. -/
def encode (f : Frame) : List UInt8 := header f.rect ++ f.payload

@[simp] theorem length_header (r : Rect) : (header r).length = headerSize := rfl

/-- The rectangle in front of a message and what follows its header. -/
def splitHeader : List UInt8 → Option (Rect × List UInt8)
  | l₀ :: l₁ :: l₂ :: l₃ :: t₀ :: t₁ :: t₂ :: t₃ :: r₀ :: r₁ :: r₂ :: r₃ :: b₀ :: b₁ :: b₂ :: b₃
      :: payload =>
      some (⟨Bytes.word l₀ l₁ l₂ l₃, Bytes.word t₀ t₁ t₂ t₃, Bytes.word r₀ r₁ r₂ r₃,
        Bytes.word b₀ b₁ b₂ b₃⟩, payload)
  | _ => none

/-- Reads one message. -/
def decode (bytes : List UInt8) : Except FrameError Frame :=
  match splitHeader bytes with
  | none => .error (.insufficientData headerSize bytes.length)
  | some (rect, payload) =>
      if rect.isInverted then .error (.invertedRect rect)
      else if payload.isEmpty then .error (.emptyPayload rect)
      else .ok ⟨rect, payload⟩

/-- Only a message shorter than a header has none. -/
theorem splitHeader_eq_none_iff (bytes : List UInt8) :
    splitHeader bytes = none ↔ bytes.length < headerSize := by
  unfold splitHeader
  split
  · simp [headerSize]
  next h =>
    simp only [headerSize, true_iff]
    match bytes with
    | [] | [_] | [_, _] | [_, _, _] | [_, _, _, _] | [_, _, _, _, _] | [_, _, _, _, _, _]
    | [_, _, _, _, _, _, _] | [_, _, _, _, _, _, _, _] | [_, _, _, _, _, _, _, _, _]
    | [_, _, _, _, _, _, _, _, _, _] | [_, _, _, _, _, _, _, _, _, _, _]
    | [_, _, _, _, _, _, _, _, _, _, _, _] | [_, _, _, _, _, _, _, _, _, _, _, _, _]
    | [_, _, _, _, _, _, _, _, _, _, _, _, _, _] | [_, _, _, _, _, _, _, _, _, _, _, _, _, _, _] =>
        simp
    | _ :: _ :: _ :: _ :: _ :: _ :: _ :: _ :: _ :: _ :: _ :: _ :: _ :: _ :: _ :: _ :: _ =>
        exact absurd rfl (h _ _ _ _ _ _ _ _ _ _ _ _ _ _ _ _ _)

end Frame

end RemoteDisplay
