import IdentityForms.Problem
import IdentityForms.Schema.Basic

/-! A place for one schema, which is filled once. -/
namespace IdentityForms.Schema

structure Slot where
  schema? : Option Schema
  deriving DecidableEq

namespace Slot

def empty : Slot := ⟨none⟩

def isFilled (slot : Slot) : Bool := slot.schema?.isSome

/-- Fills the slot. A full one keeps what it has. -/
def fill (slot : Slot) (schema : Schema) : Except Problem Slot :=
  match slot.schema? with
  | some _ => .error .alreadyLoaded
  | none => .ok ⟨some schema⟩

def names (slot : Slot) : List String := slot.schema?.elim [] Schema.names

def provider (slot : Slot) (name : String) : Except Problem Provider :=
  match slot.schema? with
  | none => .error .notLoaded
  | some schema =>
    match schema.provider? name with
    | none => .error (.unknownProvider name)
    | some provider => .ok provider

end Slot

end IdentityForms.Schema
