/-
**The values of this library in JSON.**

Each type is a record or a variant with the names given here.  Types with doubles are only read;
the others are also written, with their fields in the order given here.

Main definitions:

* instances of `RemoteDisplay.Json.Readable` for rectangles, commands, points, geometries, events,
  the pointer, configurations, stages of life and snapshots;
* instances of `RemoteDisplay.Json.Writable` for those without doubles.
-/
import RemoteDisplay.Frame.Rect
import RemoteDisplay.Json.Record
import RemoteDisplay.Session.Config
import RemoteDisplay.Session.Snapshot

set_option relaxedAutoImplicit false
set_option autoImplicit false

namespace RemoteDisplay

open Json

/-! ### Rectangles -/

instance : Readable Rect where
  ofJson? v := do
    let [left, top, right, bottom] ← fields? ["left", "top", "right", "bottom"] v | none
    return ⟨← ofJson? left, ← ofJson? top, ← ofJson? right, ← ofJson? bottom⟩

instance : Writable Rect where
  toJson r := ofMembers
    [("left", toJson r.left), ("top", toJson r.top), ("right", toJson r.right),
      ("bottom", toJson r.bottom)]

/-! ### Commands -/

/-- The coordinates that go with a pointer command. -/
def Json.coordinates? (v : Json) : Option (Int32 × Int32) := do
  let [x, y] ← fields? ["x", "y"] v | none
  return (← ofJson? x, ← ofJson? y)

/-- The code that goes with a key command. -/
def Json.code? (v : Json) : Option Int32 := do
  let [code] ← fields? ["code"] v | none
  ofJson? code

instance : Readable Command where
  ofJson? v := do
    let (name, body) ← variant? v
    match name with
    | "Press" => return .press (← coordinates? body).1 (← coordinates? body).2
    | "Release" => return .release (← coordinates? body).1 (← coordinates? body).2
    | "Move" => return .move (← coordinates? body).1 (← coordinates? body).2
    | "KeyDown" => return .keyDown (← code? body)
    | "KeyUp" => return .keyUp (← code? body)
    | _ => none

instance : Writable Command where
  toJson c :=
    let pointer (name : String) (x y : Int32) :=
      ofMembers [(name, ofMembers [("x", toJson x), ("y", toJson y)])]
    let key (name : String) (code : Int32) :=
      ofMembers [(name, ofMembers [("code", toJson code)])]
    match c with
    | .press x y => pointer "Press" x y
    | .release x y => pointer "Release" x y
    | .move x y => pointer "Move" x y
    | .keyDown code => key "KeyDown" code
    | .keyUp code => key "KeyUp" code

/-! ### Points and geometries -/

instance : Readable Point where
  ofJson? v := do
    let [x, y] ← fields? ["x", "y"] v | none
    return ⟨← ofJson? x, ← ofJson? y⟩

instance : Readable CanvasPoint where
  ofJson? v := do
    let [x, y] ← fields? ["x", "y"] v | none
    return ⟨← ofJson? x, ← ofJson? y⟩

instance : Writable CanvasPoint where
  toJson p := ofMembers [("x", toJson p.x), ("y", toJson p.y)]

instance : Readable BoundingBox where
  ofJson? v := do
    let [left, top, width, height] ← fields? ["left", "top", "width", "height"] v | none
    return ⟨← ofJson? left, ← ofJson? top, ← ofJson? width, ← ofJson? height⟩

instance : Readable Geometry where
  ofJson? v := do
    let [width, height, bbox] ← fields? ["logical_width", "logical_height", "bbox"] v | none
    return ⟨← ofJson? width, ← ofJson? height, ← ofJson? bbox⟩

/-! ### Events -/

instance : Readable PointerEvent.Kind :=
  ⟨unitVariant? [("Down", .down), ("Up", .up), ("Move", .move)]⟩

instance : Readable PointerEvent where
  ofJson? v := do
    let [kind, position] ← fields? ["kind", "position"] v | none
    return ⟨← ofJson? kind, ← ofJson? position⟩

/-- The name of what a key does. -/
def KeyEvent.Kind.name : KeyEvent.Kind → String
  | down => "Down"
  | up => "Up"

instance : Readable KeyEvent.Kind := ⟨unitVariant? [("Down", .down), ("Up", .up)]⟩

instance : Writable KeyEvent.Kind := ⟨fun k => ofText k.name⟩

instance : Readable KeyEvent where
  ofJson? v := do
    let [kind, code] ← fields? ["kind", "code"] v | none
    return ⟨← ofJson? kind, ← ofJson? code⟩

instance : Writable KeyEvent where
  toJson e := ofMembers [("kind", toJson e.kind), ("code", toJson e.code)]

/-- The name of a state of the pointer. -/
def Pointer.name : Pointer → String
  | idle => "Idle"
  | pressed => "Pressed"

instance : Readable Pointer := ⟨unitVariant? [("Idle", .idle), ("Pressed", .pressed)]⟩

instance : Writable Pointer := ⟨fun p => ofText p.name⟩

/-! ### Sessions -/

instance : Readable Config where
  ofJson? v := do
    let [host, port, appName, canvasId] ← fields? ["host", "port", "app_name", "canvas_id"] v | none
    return ⟨← ofJson? host, ← ofJson? port, ← ofJson? appName, ← ofJson? canvasId⟩

instance : Writable Config where
  toJson c := ofMembers
    [("host", toJson c.host), ("port", toJson c.port), ("app_name", toJson c.appName),
      ("canvas_id", toJson c.canvasId)]

/-- The name of a stage of a session's life. -/
def Status.name : Status → String
  | detached => "detached"
  | attached => "attached"
  | connected => "connected"
  | disconnected => "disconnected"

instance : Readable Status :=
  ⟨unitVariant? [("detached", .detached), ("attached", .attached), ("connected", .connected),
    ("disconnected", .disconnected)]⟩

instance : Writable Status := ⟨fun s => ofText s.name⟩

instance : Readable SessionId := ⟨fun v => (ofJson? v).bind SessionId.ofText?⟩

instance : Writable SessionId := ⟨fun id => ofText id.text⟩

instance : Readable Snapshot where
  ofJson? v := do
    let [sessionId, url, status, pointer, received, painted, dropped, sent, rejected] ←
      fields? ["session_id", "url", "status", "pointer", "frames_received", "frames_painted",
        "frames_dropped", "commands_sent", "commands_rejected"] v | none
    return ⟨← ofJson? sessionId, ← ofJson? url, ← ofJson? status, ← ofJson? pointer,
      ← ofJson? received, ← ofJson? painted, ← ofJson? dropped, ← ofJson? sent, ← ofJson? rejected⟩

instance : Writable Snapshot where
  toJson s := ofMembers
    [("session_id", toJson s.sessionId), ("url", toJson s.url), ("status", toJson s.status),
      ("pointer", toJson s.pointer), ("frames_received", toJson s.framesReceived),
      ("frames_painted", toJson s.framesPainted), ("frames_dropped", toJson s.framesDropped),
      ("commands_sent", toJson s.commandsSent), ("commands_rejected", toJson s.commandsRejected)]

end RemoteDisplay
