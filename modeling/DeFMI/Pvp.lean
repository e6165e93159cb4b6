import DeFMI.Ledger
set_option autoImplicit false

/-!
Payment versus payment over two ledgers that share nothing. Each payer puts its
leg in escrow and pre-signs the release under the proposer's adaptor point; the
proposer's claim publishes a signature from which the responder reads the
secret that releases the other leg.
-/

namespace DeFMI
open Lib

/-- An ideal pre-signature is what it authorises. -/
structure PreSignature (V : Type) where
  signer : V
  point : V
  message : Bytes
  deriving DecidableEq

/-- A signature made with the key, or a pre-signature completed by a secret. -/
inductive Signature (V : Type) where
  | direct (signer : V) (message : Bytes)
  | adapted (pre : PreSignature V) (secret : Scalar)

structure Leg (V : Type) where
  id : Bytes
  payer : Bytes
  payee : Bytes
  payerKey : V
  deadline : ℕ
  release : PreSignature V

/-- The adaptor point and, for the side that drew it or has learned it, the secret. -/
structure Swap (V : Type) where
  adaptorPoint : V
  secret : Option Scalar

namespace Adaptor

variable {V : Type}

def adapt (pre : PreSignature V) (secret : Scalar) : Signature V := .adapted pre secret

variable [DecidableEq V]

def verifyPreSignature (key point : V) (message : Bytes) (pre : PreSignature V) : Bool :=
  pre = ⟨key, point, message⟩

/-- Only the pre-signature a signature was completed from reads the secret out of it. -/
def extract (pre : PreSignature V) : Signature V → Scalar
  | .direct _ _ => 0
  | .adapted pre' secret => if pre' = pre then secret else 0

variable [AddCommGroup V] [Module Scalar V]

def publicKey (base : V) (secret : Scalar) : V := secret • base

def preSign (base : V) (signingKey : Scalar) (point : V) (message : Bytes) : PreSignature V :=
  ⟨publicKey base signingKey, point, message⟩

def verify (base key : V) (message : Bytes) : Signature V → Bool
  | .direct signer signed => signer = key && signed = message
  | .adapted pre secret =>
    pre.signer = key && pre.message = message && publicKey base secret = pre.point

end Adaptor

def Leg.releasableWith {V : Type} [DecidableEq V] (leg : Leg V) (adaptorPoint : V) : Bool :=
  Adaptor.verifyPreSignature leg.payerKey adaptorPoint leg.id leg.release

namespace Swap

variable {V : Type}

def responder (adaptorPoint : V) : Swap V := ⟨adaptorPoint, none⟩

variable [AddCommGroup V] [Module Scalar V]

def proposer (base : V) (secret : Scalar) : Swap V :=
  ⟨Adaptor.publicKey base secret, some secret⟩

variable [DecidableEq V]

def prepare (base : V) (swap : Swap V) (ledger : Ledger V) (id payer payee : Bytes)
    (signingKey : Scalar) (transfer : Transfer V) (context : Bytes) (amountBounded : Bool)
    (deadline : ℕ) : Result (Ledger V × Leg V) := do
  let releaseKey := Adaptor.publicKey base signingKey
  let ledger ← ledger.prepareTransfer id payer payee transfer context amountBounded deadline
    releaseKey
  pure (ledger, ⟨id, payer, payee, releaseKey, deadline,
    Adaptor.preSign base signingKey swap.adaptorPoint id⟩)

def claimWith (base : V) (ledger : Ledger V) (leg : Leg V) (secret : Scalar) (now : ℕ) :
    Result (Ledger V × Signature V) := do
  let release := Adaptor.adapt leg.release secret
  let ledger ← ledger.commitPending (Adaptor.verify base) leg.id release now
  pure (ledger, release)

def claim (base : V) (swap : Swap V) (ledger : Ledger V) (leg : Leg V) (now : ℕ) :
    Result (Ledger V × Signature V) := do
  let secret ← okOr swap.secret "this side does not hold the secret yet"
  claimWith base ledger leg secret now

/-- A scalar that is not the secret of the adaptor point is not kept. -/
def learn (base : V) (swap : Swap V) (leg : Leg V) (published : Signature V) : Swap V :=
  let secret := Adaptor.extract leg.release published
  if Adaptor.publicKey base secret = swap.adaptorPoint then { swap with secret := some secret }
  else swap

def unwind (ledger : Ledger V) (leg : Leg V) (now : ℕ) : Result (Ledger V) :=
  ledger.unwindPending leg.id now

end Swap

end DeFMI
