/-
JSON values, and the records that are read from them.

A record is read from an object by the names of its fields.  Members of other names are
ignored, and a field is missing when its name is not there or there twice.  An array is a
record too, with its items in the order of the fields.
-/
import Mathlib.Data.List.Nodup
import Mathlib.Data.Int.Cast.Defs

namespace Library

inductive Json (F : Type) where
  | null
  | bool (b : Bool)
  | integer (n : Int)
  | float (x : F)
  | string (s : String)
  | array (items : List (Json F))
  | object (members : List (String × Json F))

namespace Json

variable {F G : Type}

mutual

/-- The value with each of its floating point numbers replaced. -/
def map (f : F → G) : Json F → Json G
  | .null => .null
  | .bool b => .bool b
  | .integer n => .integer n
  | .float x => .float (f x)
  | .string s => .string s
  | .array items => .array (mapItems f items)
  | .object members => .object (mapMembers f members)

def mapItems (f : F → G) : List (Json F) → List (Json G)
  | [] => []
  | item :: items => item.map f :: mapItems f items

def mapMembers (f : F → G) : List (String × Json F) → List (String × Json G)
  | [] => []
  | (name, value) :: members => (name, value.map f) :: mapMembers f members

end

def toFloat [IntCast F] : Json F → Option F
  | .float x => some x
  | .integer n => some (n : F)
  | _ => none

def toNat : Json F → Option Nat
  | .integer n => n.toNat?
  | _ => none

def toString? : Json F → Option String
  | .string s => some s
  | _ => none

/-- The value of the first member of a name. -/
def member (members : List (String × Json F)) (name : String) : Json F :=
  (members.lookup name).getD .null

/-- What a record has under the names of its fields. -/
def record (names : List String) : Json F → Option (String → Json F)
  | .object members =>
    if ∀ name ∈ names, (members.map Prod.fst).count name = 1 then some (member members) else none
  | .array items =>
    if items.length = names.length then some (member (names.zip items)) else none
  | _ => none

@[simp] theorem member_cons_self (members : List (String × Json F)) (name : String)
    (value : Json F) : member ((name, value) :: members) name = value := by
  simp [member]

@[simp] theorem member_cons_ne {name other : String} (h : name ≠ other)
    (members : List (String × Json F)) (value : Json F) :
    member ((other, value) :: members) name = member members name := by
  simp [member, List.lookup_cons, beq_eq_false_iff_ne.mpr h]

/-- An object is a record of every list of its names, whatever other members it has. -/
theorem record_object {names : List String} {members : List (String × Json F)}
    (hnodup : (members.map Prod.fst).Nodup) (hnames : names ⊆ members.map Prod.fst) :
    record names (.object members) = some (member members) := by
  have hcount : ∀ name ∈ names, (members.map Prod.fst).count name = 1 := fun name hname =>
    List.count_eq_one_of_mem hnodup (hnames hname)
  rw [record, if_pos hcount]

/-- An object without a field is no record. -/
theorem record_object_eq_none {names : List String} {members : List (String × Json F)}
    {name : String} (hname : name ∈ names) (habsent : name ∉ members.map Prod.fst) :
    record names (.object members) = none := by
  have hcount : ¬ ∀ name ∈ names, (members.map Prod.fst).count name = 1 := by
    intro h
    have hone := h name hname
    rw [List.count_eq_zero_of_not_mem habsent] at hone
    exact absurd hone (by decide)
  rw [record, if_neg hcount]

end Json

end Library
