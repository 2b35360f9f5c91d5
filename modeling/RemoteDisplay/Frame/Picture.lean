/-
**The picture of a frame.**

The payload of a frame is an image file.  Decoding it takes time and is done beside everything else,
so it can fail in two ways: the payload is no image, or the work itself breaks down.

Main definitions:

* `RemoteDisplay.DecodeError` — why a frame has no picture;
* `RemoteDisplay.Decoder`, `RemoteDisplay.Frame.picture` — ways to find the picture of a frame, and
  the one that reads image files.
-/
import RemoteDisplay.Frame.Wire
import RemoteDisplay.Png.Decode

set_option relaxedAutoImplicit false
set_option autoImplicit false

namespace RemoteDisplay

/-- Why a frame has no picture. -/
inductive DecodeError where
  /-- The payload is no image. -/
  | image (rect : Rect) (reason : String)
  /-- The work broke down. -/
  | taskFailed (reason : String)
deriving DecidableEq, Repr

/-- The wording of a failure. -/
def DecodeError.message : DecodeError → String
  | image rect reason => "failed to decode image for " ++ rect.text ++ ": " ++ reason
  | taskFailed reason => "decode task failed: " ++ reason

/-- A way to find the picture of a frame. -/
abbrev Decoder : Type := Frame → Except DecodeError Image

/-- The reason given for a payload that cannot be read. -/
def Png.unreadable : String := "not a readable image file"

/-- The picture of a frame whose payload is an image file. -/
def Frame.picture : Decoder := fun f =>
  match Png.decode f.payload with
  | some im => .ok im
  | none => .error (.image f.rect Png.unreadable)

end RemoteDisplay
