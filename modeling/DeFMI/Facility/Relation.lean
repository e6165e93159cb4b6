import DeFMI.Facility.Orders
set_option autoImplicit false

/-!
The proofs behind a line: a transition is proved by equations between its
commitments and by 64-bit ranges of the values they hold, an amendment
likewise, and a consumption may lean on the DvP package instead. Read under
one key, verified commitments move as the numbers they hold.
-/

namespace DeFMI
open Lib

variable {V : Type} [AddCommGroup V] [Module Scalar V] [DecidableEq V]

def verifyRange {Ctx : Type} [DecidableEq Ctx] (proof : RangeProof Ctx) (parties : ℕ)
    (key : Pedersen V) (context : Ctx) (commitments : List (CompressedPoint V)) (bits : ℕ) : Bool :=
  match commitments.mapM CompressedPoint.decompress with
  | some points => proof.verifyMultiple parties key.g key.h context points bits
  | none => false

section
variable (digests : FacilityDigests V) (t : CreditFacilityTransition V)

def CreditFacilityRelationProof.verify (key : Pedersen V) (proof : CreditFacilityRelationProof)
    (t : CreditFacilityTransition V) : Check := do
  require (digests.relationProof proof = t.relationProofDigest)
    "credit relation proof digest does not match the transition"
  verifyCreditRelationEquations t
  let context ← t.relationContext digests
  require (verifyRange proof.stateRange 4 key ("qomm:credit:state-range", context)
      [t.after.available, t.after.held, t.after.outstanding, t.amountCommitment] 64 = true)
    "credit facility post-state is outside the allowed range"
  require (verifyRange proof.splitRange 2 key ("qomm:credit:split-range", context)
      [t.consumedCommitment, t.refundCommitment] 64 = true)
    "credit consumed/refunded split is outside the allowed range"

/-- `cap = available + held + outstanding`, or `cap + excess = held + outstanding`
with nothing available. -/
def CreditAmendmentMode.Relation {M : Type} [Add M] [Zero M] (mode : CreditAmendmentMode)
    (cap excess : M) (b : Balances M) : Prop :=
  match mode with
  | .withinLimit => excess = 0 ∧ cap = b.total
  | .overLimit => b.available = 0 ∧ cap + excess = b.held + b.outstanding

instance {M : Type} [Add M] [Zero M] [DecidableEq M] (mode : CreditAmendmentMode)
    (cap excess : M) (b : Balances M) : Decidable (mode.Relation cap excess b) :=
  match mode with
  | .withinLimit => inferInstanceAs (Decidable (_ ∧ _))
  | .overLimit => inferInstanceAs (Decidable (_ ∧ _))

def CreditFacilityAmendmentProof.verify (key : Pedersen V) (proof : CreditFacilityAmendmentProof)
    (a : CreditFacilityAmendment V) : Check := do
  require (digests.amendmentProof proof = a.relationProofDigest)
    "credit amendment proof digest does not match the statement"
  a.unsignedBody digests
  let cap ← settlementPoint a.afterCapCommitment "amended cap commitment"
  let available ← settlementPoint a.afterAvailableCommitment "amended available commitment"
  let held ← settlementPoint a.before.held "held commitment"
  let outstanding ← settlementPoint a.before.outstanding "outstanding commitment"
  let excess ← settlementPoint a.afterOverlimitCommitment "over-limit commitment"
  require (a.mode.Relation cap excess ⟨available, held, outstanding⟩)
    "amended cap does not conserve the existing facility exposure"
  let context ← a.relationContext digests
  require (verifyRange proof.balanceRange 4 key ("qomm:credit:amendment:balance", context)
      [a.afterCapCommitment, a.afterAvailableCommitment, a.before.held, a.before.outstanding]
      64 = true) "amended facility balance is outside the allowed range"
  require (verifyRange proof.supportRange 2 key ("qomm:credit:amendment:support", context)
      [a.afterCollateralCommitment, a.afterOverlimitCommitment] 64 = true)
    "amended collateral or excess is outside the allowed range"

end

end DeFMI
