import Mathlib.Data.UInt
import ServerRS.Lib.OrdKey

/-!
# Identifiers of the graph runtime

Models `agent-core/src/graph/id.rs`, the version and id newtypes of
`checkpoint.rs` and `state.rs`, and `RunStep`/`EffectId` of `effect.rs`.

A validated id carries the proof of its own validation, so a `NodeId` that
`validate_id` would reject cannot be built. The three id types of the
`validated_id!` macro are one type with the macro's `$kind` as a parameter.
-/

namespace ServerRS.AgentCore

open Lib

/-- `std::collections::BTreeMap`. -/
abbrev BTreeMap (K V : Type) [Ord K] := Std.TreeMap K V

/-- `std::collections::BTreeSet`. -/
abbrev BTreeSet (K : Type) [Ord K] := Std.TreeSet K

/-! ## Validated ids -/

def MAX_ID_BYTES : Nat := 64

inductive GraphIdError where
  | empty (kind : String)
  | tooLong (kind : String) (max actual : Nat)
  | invalidCharacter (kind : String) (index : Nat) (character : Char)
deriving DecidableEq

/-- The characters that `validate_id` lets through. -/
def isIdChar (character : Char) : Bool :=
  character.isAlphanum || character == '.' || character == '_' || character == '-'

/-- `value.char_indices().find(..)`: the first character that is not an id character, with
its byte position. -/
def findInvalid : Nat → List Char → Option (Nat × Char)
  | _, [] => none
  | index, character :: rest =>
    if isIdChar character then findInvalid (index + character.utf8Size) rest
    else some (index, character)

def validateId (value kind : String) : Except GraphIdError Unit :=
  if value.isEmpty then .error (.empty kind)
  else if value.utf8ByteSize > MAX_ID_BYTES then
    .error (.tooLong kind MAX_ID_BYTES value.utf8ByteSize)
  else
    match findInvalid 0 value.toList with
    | some (index, character) => .error (.invalidCharacter kind index character)
    | none => .ok ()

/-- The `validated_id!` newtypes. -/
structure ValidatedId (kind : String) where
  asStr : String
  valid : validateId asStr kind = .ok ()
deriving DecidableEq

namespace ValidatedId

variable {kind : String}

/-- `TryFrom<&str>`. -/
def tryFrom (value : String) : Except GraphIdError (ValidatedId kind) :=
  match h : validateId value kind with
  | .ok () => .ok ⟨value, h⟩
  | .error error => .error error

theorem asStr_injective : Function.Injective (asStr : ValidatedId kind → String) := by
  rintro ⟨a, _⟩ ⟨b, _⟩ h
  cases h
  rfl

instance : Ord (ValidatedId kind) := ⟨fun a b => compare a.asStr b.asStr⟩

instance : Std.TransOrd (ValidatedId kind) := transCmp_key asStr

instance : Std.LawfulEqOrd (ValidatedId kind) := lawfulEqCmp_key asStr asStr_injective

end ValidatedId

abbrev GraphId := ValidatedId "GraphId"

abbrev NodeId := ValidatedId "NodeId"

abbrev RouteKey := ValidatedId "RouteKey"

/-! ## UUID newtypes -/

/-- `uuid::Uuid`, 128 bits. -/
structure Uuid where
  bits : BitVec 128
deriving DecidableEq

structure RunId where
  uuid : Uuid
deriving DecidableEq

structure CheckpointId where
  uuid : Uuid
deriving DecidableEq

namespace CheckpointId

/-- The UUID read as a number; byte-wise order of UUIDs is the order of these numbers. -/
def key (id : CheckpointId) : Nat := id.uuid.bits.toNat

theorem key_injective : Function.Injective key := by
  rintro ⟨⟨a⟩⟩ ⟨⟨b⟩⟩ h
  cases BitVec.eq_of_toNat_eq h
  rfl

instance : Ord CheckpointId := ⟨fun a b => compare a.key b.key⟩

instance : Std.TransOrd CheckpointId := transCmp_key key

instance : Std.LawfulEqOrd CheckpointId := lawfulEqCmp_key key key_injective

end CheckpointId

/-! ## Non-zero counters -/

/-- `std::num::NonZeroU32`. -/
structure NonZeroU32 where
  get : UInt32
  ne_zero : get ≠ 0
deriving DecidableEq

def NonZeroU32.MIN : NonZeroU32 := ⟨1, by decide⟩

structure GraphVersion where
  value : NonZeroU32
deriving DecidableEq

def GraphVersion.initial : GraphVersion := ⟨NonZeroU32.MIN⟩

structure StateSchemaVersion where
  value : NonZeroU32
deriving DecidableEq

def StateSchemaVersion.initial : StateSchemaVersion := ⟨NonZeroU32.MIN⟩

/-- `RunStep`: steps are counted from 1. -/
structure RunStep where
  value : NonZeroU32
deriving DecidableEq

def RunStep.get (step : RunStep) : UInt32 := step.value.get

/-! ## Effect ids -/

/-- `EffectId`: the idempotency key of one dispatched effect. -/
structure EffectId where
  runId : RunId
  step : RunStep
  nodeId : NodeId
  ordinal : UInt32
deriving DecidableEq

/-- Dispatch order of two effects of one run: by step, then by position within the step. -/
def EffectId.before (a b : EffectId) : Prop :=
  a.step.get < b.step.get ∨ a.step.get = b.step.get ∧ a.ordinal < b.ordinal

theorem EffectId.before_irrefl (a : EffectId) : ¬ a.before a := by
  rintro (h | ⟨_, h⟩) <;> exact absurd h (by simp)

end ServerRS.AgentCore
