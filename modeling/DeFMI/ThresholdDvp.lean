import DeFMI.Settlement
set_option autoImplicit false

/-!
Delivery versus payment out of two reservations: the quantity leaves the
securities reserve, quantity times price leaves the cash reserve, and what
remains of either is proved to be in range.
-/

namespace DeFMI
open Lib

inductive DvpContext where
  | product
  | securitiesRemainder
  | cashRemainder
  deriving DecidableEq

structure DvpProofs where
  product : ProductProof DvpContext
  securitiesRemainder : ThresholdRangeProof DvpContext
  cashRemainder : ThresholdRangeProof DvpContext

structure ThresholdDvpPackage (V : Type) where
  instruction : Instruction V
  sides : Sides
  cashCommitment : V
  securitiesRemainder : V
  cashRemainder : V
  proofs : DvpProofs

section Package

variable {V : Type} [AddCommGroup V] [Module Scalar V] [DecidableEq V]

def verifyThresholdPackage (key : Pedersen V) (package : ThresholdDvpPackage V)
    (securitiesReserve cashReserve : V) (bits : ℕ) : Check := do
  require (¬(package.sides.securitiesFrom = package.sides.securitiesTo ∨
      package.sides.cashFrom = package.sides.cashTo ∨
      securitiesReserve - package.instruction.amountCommitment ≠ package.securitiesRemainder ∨
      cashReserve - package.cashCommitment ≠ package.cashRemainder))
    "threshold DvP account or escrow conservation failed"
  require (package.proofs.securitiesRemainder.bits = bits ∧
      package.proofs.securitiesRemainder.verify key.g key.h package.securitiesRemainder
        .securitiesRemainder = true ∧
      package.proofs.cashRemainder.bits = bits ∧
      package.proofs.cashRemainder.verify key.g key.h package.cashRemainder
        .cashRemainder = true)
    "threshold DvP has a negative or out-of-range reservation remainder"
  require (package.proofs.product.verify key.g key.h .product
      package.instruction.amountCommitment package.instruction.priceCommitment
      package.cashCommitment = true)
    "threshold DvP cash amount is not quantity times price"

def buildThresholdPackageFromProofs (key : Pedersen V) (instruction : Instruction V) (sides : Sides)
    (securitiesReserve cashReserve cashCommitment : V) (proofs : DvpProofs) (bits : ℕ) :
    Result (ThresholdDvpPackage V) := do
  let package : ThresholdDvpPackage V :=
    { instruction, sides, cashCommitment,
      securitiesRemainder := securitiesReserve - instruction.amountCommitment,
      cashRemainder := cashReserve - cashCommitment, proofs }
  verifyThresholdPackage key package securitiesReserve cashReserve bits
  pure package

end Package
end DeFMI
