/-
**Records and variants in JSON.**

A record is an object with its fields as members, in any order and beside members of other names, or
an array of its fields in their order and no more.  A field must occur, and only once.

A variant is its name; or an object whose only member has that name.  If nothing goes with the
variant the member is null, and otherwise it is the record of what does.

Main definitions:

* `RemoteDisplay.Json.Readable`, `RemoteDisplay.Json.Writable` — types that are read from JSON, and
  written to it;
* `RemoteDisplay.Json.fields?` — the fields of a record;
* `RemoteDisplay.Json.variant?` — the name of a variant and what goes with it.
-/
import RemoteDisplay.Json.Basic

set_option relaxedAutoImplicit false
set_option autoImplicit false

namespace RemoteDisplay.Json

/-- A type that is read from JSON. -/
class Readable (α : Type) where
  /-- The element that a value stands for. -/
  ofJson? : Json → Option α

/-- A type that is written to JSON. -/
class Writable (α : Type) where
  /-- The value of an element. -/
  toJson : α → Json

export Readable (ofJson?)
export Writable (toJson)

/-! ### Words and texts -/

/-- The integer between two bounds that a value stands for. -/
def integerBetween? (lo hi : Int) : Json → Option Int
  | integer n => if lo ≤ n ∧ n ≤ hi then some n else none
  | _ => none

instance : Readable UInt16 :=
  ⟨fun v => (integerBetween? 0 0xffff v).map fun n => .ofNat n.toNat⟩
instance : Readable UInt32 :=
  ⟨fun v => (integerBetween? 0 0xffffffff v).map fun n => .ofNat n.toNat⟩
instance : Readable UInt64 :=
  ⟨fun v => (integerBetween? 0 0xffffffffffffffff v).map fun n => .ofNat n.toNat⟩
instance : Readable Int32 :=
  ⟨fun v => (integerBetween? (-0x80000000) 0x7fffffff v).map Int32.ofInt⟩

instance : Writable UInt16 := ⟨fun n => integer n.toNat⟩
instance : Writable UInt32 := ⟨fun n => integer n.toNat⟩
instance : Writable UInt64 := ⟨fun n => integer n.toNat⟩
instance : Writable Int32 := ⟨fun n => integer n.toInt⟩

instance : Readable String where
  ofJson?
    | string s => s
    | _ => none

instance : Writable String := ⟨ofText⟩

/-- The double nearest to a number; a number beyond the range of doubles has none. -/
instance : Readable Float where
  ofJson? v :=
    let nearest (d : Number.Decimal) : Option Float :=
      if d.toFloat.isFinite then some d.toFloat else none
    match v with
    | integer n => nearest (.ofInt n)
    | decimal d => nearest d
    | _ => none

/-! ### Records -/

/-- The value of a member that occurs exactly once. -/
def member? (members : List (Option String × Json)) (name : String) : Option Json :=
  match members.filter fun m => m.1 == some name with
  | [m] => some m.2
  | _ => none

/-- The fields of a record, in the order of their names. -/
def fields? (names : List String) : Json → Option (List Json)
  | array items => if items.length = names.length then some items else none
  | object members =>
    if members.all fun m => m.1.isSome then names.mapM (member? members) else none
  | _ => none

/-! ### Variants -/

/-- The name of a variant, and what goes with it. -/
def variant? : Json → Option (String × Json)
  | string (some name) => some (name, null)
  | object [(some name, null)] => some (name, null)
  | object [(some name, body)] => some (name, body)
  | _ => none

/-- The variant among some that has nothing but its name. -/
def unitVariant? {α : Type} (variants : List (String × α)) (v : Json) : Option α :=
  match variant? v with
  | some (name, null) => variants.lookup name
  | _ => none

end RemoteDisplay.Json
