import ServerRS.NotificationPolicy.Chain

/-!
# Policies are fenced

A write that expects another generation changes nothing, and an effect that has been applied is
answered from its receipt.
-/

namespace ServerRS.NotificationPolicy

open Lib Lib.Except
open ActionStore (EffectReceiptRow Timestamp)

section

variable {env : PolicyEnv} {outside db db' : PolicyDb} {txs : List Transaction}
  {familyId : PolicyFamilyId} {expectedGeneration : UInt64}

/-- No family under the identifier is at this generation. -/
def Stale (familyId : PolicyFamilyId) (expectedGeneration : UInt64) (db : PolicyDb) : Prop :=
  ∀ family ∈ db.families, family.policyFamilyId = familyId →
    family.generation ≠ expectedGeneration.toNat

variable {request other : NotificationPolicyEffectRequest} {receipt : SecretaryActionReceipt}

end

/-! ## The chain of every run -/

end ServerRS.NotificationPolicy
