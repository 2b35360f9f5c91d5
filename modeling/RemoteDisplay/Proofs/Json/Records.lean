/-
**Records are read from the members that were written.**

A record is written as one member for each of its fields.  As their names differ, each field is
found again under its own name.  So a type of records is read as it is written if the types of its
fields are.

Main definitions:

* `RemoteDisplay.Json.Faithful` — types that are read from the values they are written as;
* `RemoteDisplay.Json.readText?` — the element of a type that a text spells.

Main results:

* `RemoteDisplay.Json.fields?_ofMembers` — the fields of a record, from its members;
* `RemoteDisplay.Json.Faithful.readText?_compactText`,
  `RemoteDisplay.Json.Faithful.readText?_prettyText` — an element is read back from its text.
-/
import RemoteDisplay.Json.Record
import RemoteDisplay.Proofs.Json.Rereading
import RemoteDisplay.Proofs.Lists

set_option relaxedAutoImplicit false
set_option autoImplicit false

namespace RemoteDisplay.Json

/-! ### Members -/

/-- No member of another name is a member of this name. -/
theorem filter_members_eq_nil {members : List (String × Json)} {name : String}
    (h : name ∉ members.map Prod.fst) :
    ((members.map fun m => (some m.1, m.2)).filter fun m => m.1 == some name) = [] := by
  rw [List.filter_eq_nil_iff]
  intro m hm
  obtain ⟨m, hmem, rfl⟩ := List.mem_map.1 hm
  have hname : m.1 ≠ name := by
    rintro rfl
    exact h (List.mem_map_of_mem hmem)
  simpa using hname

/-- A member is found under its name. -/
theorem member?_map {members : List (String × Json)} (h : (members.map Prod.fst).Nodup)
    {m : String × Json} (hm : m ∈ members) :
    member? (members.map fun m => (some m.1, m.2)) m.1 = some m.2 := by
  have hfilter : ((members.map fun m => (some m.1, m.2)).filter fun n => n.1 == some m.1) =
      [(some m.1, m.2)] := by
    induction members with
    | nil => cases hm
    | cons n members ih =>
      obtain ⟨hn, hmembers⟩ := List.nodup_cons.1 h
      rw [List.map_cons, List.filter_cons]
      rcases List.mem_cons.1 hm with rfl | hm
      · rw [if_pos (by simp), filter_members_eq_nil hn]
      · have hname : n.1 ≠ m.1 := by
          intro heq
          exact hn (heq ▸ List.mem_map_of_mem hm)
        rw [if_neg (by simpa using hname), ih hmembers hm]
  rw [member?, hfilter]

/-- The fields of a record are found in its members, each under its own name. -/
theorem fields?_ofMembers {names : List String} {members : List (String × Json)}
    (hnames : members.map Prod.fst = names) (h : names.Nodup) :
    fields? names (ofMembers members) = some (members.map Prod.snd) := by
  subst hnames
  have hnamed : ((members.map fun m => (some m.1, m.2)).all
      fun m => m.1.isSome) = true := by
    rw [List.all_map]
    exact List.all_eq_true.2 fun _ _ => rfl
  rw [ofMembers, fields?, if_pos hnamed, mapM_eq_some_iff, List.forall₂_map_left_iff,
    List.forall₂_map_right_iff, List.forall₂_same]
  exact fun m hm => member?_map h hm

theorem integral_ofMembers {members : List (String × Json)}
    (h : ∀ m ∈ members, m.2.integral = true) : (ofMembers members).integral = true := by
  have hmembers : integralMembers (members.map fun m => (some m.1, m.2)) = true := by
    induction members with
    | nil => rfl
    | cons m members ih =>
      exact Bool.and_eq_true_iff.2 ⟨h m List.mem_cons_self,
        ih fun n hn => h n (List.mem_cons_of_mem m hn)⟩
  exact hmembers

/-! ### Faithful types -/

/-- A type is read from the values it is written as, and their numbers are integers. -/
class Faithful (α : Type) [Readable α] [Writable α] : Prop where
  ofJson?_toJson : ∀ v : α, ofJson? (toJson v) = some v
  integral_toJson : ∀ v : α, (toJson v).integral = true

attribute [simp] Faithful.ofJson?_toJson Faithful.integral_toJson

/-- An integer within the bounds of its words is read. -/
theorem map_integerBetween? {α : Type} {lo hi n : Int} (hlo : lo ≤ n) (hhi : n ≤ hi)
    (word : Int → α) : (integerBetween? lo hi (integer n)).map word = some (word n) := by
  rw [integerBetween?, if_pos ⟨hlo, hhi⟩]
  rfl

instance : Faithful UInt16 where
  ofJson?_toJson n := by
    have hlt := n.toNat_lt
    refine (map_integerBetween? ?_ ?_ _).trans (congrArg some ?_)
    · omega
    · omega
    · exact UInt16.ofNat_toNat
  integral_toJson _ := rfl

instance : Faithful UInt32 where
  ofJson?_toJson n := by
    have hlt := n.toNat_lt
    refine (map_integerBetween? ?_ ?_ _).trans (congrArg some ?_)
    · omega
    · omega
    · exact UInt32.ofNat_toNat
  integral_toJson _ := rfl

instance : Faithful UInt64 where
  ofJson?_toJson n := by
    have hlt := n.toNat_lt
    refine (map_integerBetween? ?_ ?_ _).trans (congrArg some ?_)
    · omega
    · omega
    · exact UInt64.ofNat_toNat
  integral_toJson _ := rfl

instance : Faithful Int32 where
  ofJson?_toJson n := by
    have hle := n.le_toInt
    have hlt := n.toInt_lt
    refine (map_integerBetween? ?_ ?_ _).trans (congrArg some ?_)
    · omega
    · omega
    · exact Int32.ofInt_toInt n
  integral_toJson _ := rfl

instance : Faithful String where
  ofJson?_toJson _ := rfl
  integral_toJson _ := rfl

/-! ### Texts -/

/-- The element of a type that a text spells. -/
def readText? (α : Type) [Readable α] (s : String) : Option α := (parse? s).bind ofJson?

namespace Faithful

variable {α : Type} [Readable α] [Writable α] [Faithful α]

/-- An element is read back from its text in one line. -/
theorem readText?_compactText (v : α) : readText? α (toJson v).compactText = some v := by
  rw [readText?, parse?_compactText (integral_toJson v), Option.bind_some, ofJson?_toJson]

/-- An element is read back from its text spread over lines. -/
theorem readText?_prettyText (v : α) : readText? α (toJson v).prettyText = some v := by
  rw [readText?, parse?_prettyText (integral_toJson v), Option.bind_some, ofJson?_toJson]

end Faithful

end RemoteDisplay.Json
