import DeFMI.Settlement
import DeFMI.Credit
set_option autoImplicit false

/-!
Records that the durable facility and the replicated state have in common, and
the signed objects both of them read: typed instructions, mandates and the
enrolled verifier of a venue.
-/

namespace DeFMI
open Lib

inductive AssetKind where
  | cash
  | security
  | fund
  | commodity
  | carbon
  | other
  deriving DecidableEq

structure AssetRecord where
  kind : AssetKind
  active : Bool

structure AccountRecord (V : Type) where
  assetId : Id
  commitment : CompressedPoint V
  sequence : ℕ
  deriving DecidableEq

structure ReservationEscrowRecord (V : Type) where
  sourceHandle : Id
  escrowHandle : Id
  assetId : Id
  amountCommitment : CompressedPoint V
  sourceBeforeCommitment : CompressedPoint V
  sourceAfterCommitment : CompressedPoint V
  sourceBeforeSequence : ℕ
  proofDigest : Id
  status : HoldStatus
  settlementDigest : Id

structure NullifierRecord where
  deadline : ℕ
  statement : Id

structure AdmissionCommitteeRecord where
  nodeKeys : List Id
  validFrom : ℕ
  validUntil : ℕ

structure AdmissionBatchRecord where
  venueId : Id
  epoch : ℕ
  slot : ℕ
  batchDigest : Id
  orderDigest : Id
  population : ℕ
  consumed : ℕ
  expiresAt : ℕ

structure AdmissionEntryRecord where
  admissionDigest : Id
  consumedBy : Id

structure SettlementVerifierRecord where
  venueId : Id
  defmiId : Id
  epoch : ℕ
  quoteRegistryDigest : Id
  quoteEligibilityBits : ℕ
  quoteSpanBits : ℕ
  amountBits : ℕ
  priceBits : ℕ
  maxHorizon : ℕ
  frostPublicPackage : Bytes
  pqCommittee : Bytes
  validFrom : ℕ
  validUntil : ℕ

inductive OperationKind where
  | reserve
  | release
  | consume
  | settle

inductive AuthorizationScope where
  | maker
  | taker
  | joint

structure TypedContext (V : Type) where
  operation : OperationKind
  scope : AuthorizationScope
  venueId : Id
  defmiId : Id
  rfqNullifier : Id
  takerMandateDigest : Id
  makerPolicyDigest : Id
  makerMandateDigest : Id
  quoteProofDigest : Id
  marketStatementDigest : Id
  beforeStateRoot : Id
  makerReservationId : Id
  takerReservationId : Id
  makerReservationSequence : ℕ
  takerReservationSequence : ℕ
  makerReserveReceiptDigest : Id
  takerReserveReceiptDigest : Id
  takerBuys : Bool
  reserveHandle : V
  makerHandle : V
  takerHandle : V

/-- A decoded typed instruction together with the digest of its wire bytes. -/
structure TypedInstruction (V : Type) where
  wireDigest : Id
  context : TypedContext V
  payment : Instruction V
  nullifier : Id
  deadline : ℕ
  thresholdRanges : Bool
  quoteProofDigest : Option Id
  assetCommitment : V

structure MakerPolicyMandate (V : Type) where
  digest : Id
  reserveId : Id
  assetId : Id
  maximumAmountCommitment : CompressedPoint V
  entityCommitment : Id
  policyDigest : Id
  policyVersion : ℕ
  venueId : Id
  defmiId : Id
  makerHandle : V
  takerBuys : Bool

structure TakerExecutionMandate (V : Type) where
  digest : Id
  reserveId : Id
  rfqNullifier : Id
  assetId : Id
  reserveAssetId : Id
  quantityCommitment : V
  maximumAmountCommitment : CompressedPoint V
  limitPriceCommitment : CompressedPoint V
  entityCommitment : Id
  admissionTicketId : Id
  admissionSlot : ℕ
  venueId : Id
  defmiId : Id
  takerHandle : V
  takerBuys : Bool
  deadline : ℕ
  allowPartial : Bool
  autoSettle : Bool

structure ProductSettlementBatchMember where
  admissionSequence : ℕ
  settlementStatement : Id

/-- What an order over accounts and one over notes have alike: the trade that a venue
matched, and the two reservations it consumes. -/
structure ProductTerms (V : Type) where
  venueId : Id
  defmiId : Id
  makerEntityCommitment : Id
  takerEntityCommitment : Id
  rfqNullifier : Id
  takerAuthorizationDigest : Id
  makerPolicyDigest : Id
  makerMandateDigest : Id
  takerMandateDigest : Id
  typedInstructionDigest : Id
  quoteProofDigest : Id
  priceLimitProofDigest : Id
  dvpProofDigest : Id
  quantityCommitment : CompressedPoint V
  cashCommitment : CompressedPoint V
  tradedAssetId : Id
  assetLinkProofDigest : Id
  admissionReceiptDigest : Id
  admissionEpoch : ℕ
  admissionSequence : ℕ
  reservations : List (ReservationConsumption V)

namespace ProductTerms

variable {V : Type} (o : ProductTerms V)

def bindings : List Id :=
  [o.venueId, o.defmiId, o.makerEntityCommitment, o.takerEntityCommitment, o.rfqNullifier,
    o.takerAuthorizationDigest, o.makerPolicyDigest, o.makerMandateDigest, o.takerMandateDigest,
    o.typedInstructionDigest, o.quoteProofDigest, o.priceLimitProofDigest, o.dvpProofDigest,
    o.tradedAssetId, o.assetLinkProofDigest, o.admissionReceiptDigest]

/-- Who a reservation of the given role must belong to: entity, authorisation,
mandate and asset. A Taker that buys reserves cash. -/
def expected (paymentAssetId : Id) (direction : ℕ) : ReservationRole → Id × Id × Id × Id
  | .taker => (o.takerEntityCommitment, o.takerAuthorizationDigest, o.takerMandateDigest,
      if direction = 1 then paymentAssetId else o.tradedAssetId)
  | .maker => (o.makerEntityCommitment, o.makerPolicyDigest, o.makerMandateDigest,
      if direction = 1 then o.tradedAssetId else paymentAssetId)

def expectedConsumed (direction : ℕ) (role : ReservationRole) : CompressedPoint V :=
  if (direction = 1 ∧ role = .maker) ∨ (direction = 2 ∧ role = .taker) then o.quantityCommitment
  else o.cashCommitment

end ProductTerms
end DeFMI
