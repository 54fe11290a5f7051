import ExtDevMgr.Base.Codec

/-!
# Parcels

A parcel is a typed first-in first-out store. A reader that finds no value of its type leaves the
parcel as it is.
-/

namespace ExtDevMgr.Ipc
open Codec

/-- The bytes of a `std::string`. -/
abbrev Str := List UInt8

inductive Value
  | bool (b : Bool)
  | uint8 (n : UInt8)
  | uint16 (n : UInt16)
  | uint32 (n : UInt32)
  | int32 (n : Int32)
  | uint64 (n : UInt64)
  | string (s : Str)
  | uint16Vector (ns : List UInt16)
  deriving DecidableEq

namespace Value

def asBool : Value → Option Bool
  | bool b => some b
  | _ => none

def asUint8 : Value → Option UInt8
  | uint8 n => some n
  | _ => none

def asUint16 : Value → Option UInt16
  | uint16 n => some n
  | _ => none

def asUint32 : Value → Option UInt32
  | uint32 n => some n
  | _ => none

def asInt32 : Value → Option Int32
  | int32 n => some n
  | _ => none

def asUint64 : Value → Option UInt64
  | uint64 n => some n
  | _ => none

def asString : Value → Option Str
  | string s => some s
  | _ => none

def asUint16Vector : Value → Option (List UInt16)
  | uint16Vector ns => some ns
  | _ => none

end Value

/-- Whether a parcel takes another value. -/
abbrev Accepts := List Value → Value → Bool

/-! ## Round trips -/

/-- Marshalling succeeds on a parcel that takes every value, and what it appends to a parcel is read
back, with whatever follows left in place. -/
structure RoundTrips {α : Type} (marshalling : Accepts → Codec.Writer Value Unit)
    (unmarshalling : Reader Value (Option α)) (a : α) : Prop where
  succeeds : ∀ parcel, ∃ written, (marshalling fun _ _ => true).run.run parcel = (.ok (), written)
  undoes : ∀ accepts parcel written, (marshalling accepts).run.run parcel = (.ok (), written) →
    ∃ encoded, written = parcel ++ encoded ∧
      ∀ rest, unmarshalling.run (encoded ++ rest) = (some a, rest)

variable {α : Type} {marshalling : Accepts → Codec.Writer Value Unit}
  {unmarshalling : Reader Value (Option α)} {encoded : List Value} {a : α}

theorem RoundTrips.of_writeAll (hwrite : ∀ accepts, marshalling accepts = writeAll accepts encoded)
    (hread : Reads unmarshalling encoded (some a)) : RoundTrips marshalling unmarshalling a := by
  constructor
  · intro parcel
    rw [hwrite]
    exact ⟨_, writeAll_true encoded parcel⟩
  · intro accepts parcel written h
    rw [hwrite] at h
    exact ⟨encoded, writeAll_ok h, hread⟩

theorem RoundTrips.reads (h : RoundTrips marshalling unmarshalling a)
    (hwrite : ∀ accepts, marshalling accepts = writeAll accepts encoded) :
    unmarshalling.run encoded = (some a, []) := by
  obtain ⟨encoded', heq, hread⟩ := h.undoes (fun _ _ => true) [] encoded (by
    rw [hwrite]
    exact writeAll_true encoded [])
  have hrun := hread []
  rwa [List.append_nil, ← List.nil_append encoded', ← heq] at hrun

/-- A record whose subtype is picked by a test `p` of what is read. -/
theorem RoundTrips.iff_of_writeAll {p : Prop}
    (hwrite : ∀ accepts, marshalling accepts = writeAll accepts encoded)
    (hread : p → Reads unmarshalling encoded (some a))
    (hother : ¬ p → (unmarshalling.run encoded).1 = none) :
    RoundTrips marshalling unmarshalling a ↔ p := by
  constructor
  · intro h
    apply Classical.byContradiction
    intro hp
    have hnone := hother hp
    rw [h.reads hwrite] at hnone
    exact Option.some_ne_none a hnone
  · intro hp
    exact .of_writeAll hwrite (hread hp)

end ExtDevMgr.Ipc
