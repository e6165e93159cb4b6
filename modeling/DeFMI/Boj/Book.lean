import DeFMI.Ledger
import DeFMI.Lib.Transaction
set_option autoImplicit false

/-!
The central-bank liquidity book: participants with current accounts and
intraday overdraft, one common collateral pool per legal entity, and
reservations of headroom that expire. Every operation runs on a copy of the
book and replaces it only if the copy validates.
-/

namespace DeFMI.Boj
open Lib

def bps : ℕ := 10000
def priceScale : ℕ := 1000000
def indexScale : ℕ := 1000000
def par : ℕ := 100

inductive ParticipantStatus where
  | active
  | collateralShortfall
  | overdue
  | suspended
  deriving DecidableEq

inductive ReservationStatus where
  | active
  | consumed
  | released
  deriving DecidableEq

inductive BojLiquidityError where
  | invalidOperation
  | duplicateOperation
  | invalidParticipant
  | duplicateParticipant
  | unknownParticipant
  | participantUnavailable
  | invalidCollateral
  | unknownCollateral
  | staleValuation
  | invalidReservation
  | unknownReservation
  | invalidFundsReceipt
  | duplicateFundsReceipt
  | insufficientCollateral
  | invalidSettlement
  | staleSequence
  | tooEarlyForEndOfDay
  | businessDayAlreadyClosed
  | invalidBusinessDay
  | arithmeticOverflow
  | invalidStoredState

abbrev BojResult := Except BojLiquidityError

def BojLiquidityError.text : BojLiquidityError → String
  | .invalidOperation => "invalid BOJ liquidity operation"
  | .duplicateOperation => "operation identifier was already used"
  | .invalidParticipant => "invalid BOJ participant"
  | .duplicateParticipant => "participant already exists"
  | .unknownParticipant => "unknown BOJ participant"
  | .participantUnavailable => "participant cannot receive new intraday credit"
  | .invalidCollateral => "invalid JGB collateral"
  | .unknownCollateral => "unknown JGB collateral"
  | .staleValuation => "collateral valuation is stale"
  | .invalidReservation => "invalid intraday liquidity reservation"
  | .unknownReservation => "unknown intraday liquidity reservation"
  | .invalidFundsReceipt => "invalid BOJ current-account funds receipt"
  | .duplicateFundsReceipt => "BOJ current-account funds receipt was already applied"
  | .insufficientCollateral => "collateral surplus is insufficient"
  | .invalidSettlement => "invalid simultaneous collateral DvP"
  | .staleSequence => "expected sequence does not match authoritative state"
  | .tooEarlyForEndOfDay => "business-day close was requested before the repayment deadline"
  | .businessDayAlreadyClosed => "BOJ business day was already closed"
  | .invalidBusinessDay => "invalid BOJ business-day transition"
  | .arithmeticOverflow => "arithmetic overflow"
  | .invalidStoredState => "stored BOJ liquidity state is invalid"

structure BojParticipant where
  legalEntityId : Id
  fundsAccountId : Id
  jgbAccountId : Id
  currentAccountBalanceYen : ℕ
  otherSecuredExposureYen : ℕ
  intradayOverdraftYen : ℕ
  businessDay : ℕ
  repaymentDeadline : ℕ
  businessDayClosed : Bool
  sequence : ℕ
  status : ParticipantStatus

structure JgbCollateralLot where
  lotId : Id
  assetId : Id
  ownerLegalEntityId : Id
  faceValueYen : ℕ
  marketPricePer100Micros : ℕ
  indexRatioPpm : ℕ
  valuationRateBps : ℕ
  valuationEpoch : ℕ
  pledged : Bool
  sequence : ℕ

structure IntradayReservation where
  reservationId : Id
  legalEntityId : Id
  instructionCommitment : Id
  amountYen : ℕ
  expiresAt : ℕ
  status : ReservationStatus
  consumedYen : ℕ

def IntradayReservation.isLive (r : IntradayReservation) (now : ℕ) : Bool :=
  r.status = .active ∧ now < r.expiresAt

structure RegisterParticipant where
  operationId : Id
  participant : BojParticipant

structure PledgeCollateral where
  operationId : Id
  expectedParticipantSequence : ℕ
  lot : JgbCollateralLot

structure RevalueCollateral where
  operationId : Id
  lotId : Id
  expectedLotSequence : ℕ
  expectedParticipantSequence : ℕ
  marketPricePer100Micros : ℕ
  indexRatioPpm : ℕ
  valuationRateBps : ℕ
  valuationEpoch : ℕ

structure ReserveIntradayLiquidity where
  operationId : Id
  reservationId : Id
  legalEntityId : Id
  instructionCommitment : Id
  expectedParticipantSequence : ℕ
  amountYen : ℕ
  expiresAt : ℕ

structure ReleaseIntradayLiquidity where
  operationId : Id
  reservationId : Id
  legalEntityId : Id
  expectedParticipantSequence : ℕ

structure ReturnCollateral where
  operationId : Id
  lotId : Id
  expectedLotSequence : ℕ
  expectedParticipantSequence : ℕ

structure ApplyFundsReceipt where
  operationId : Id
  receiptId : Id
  legalEntityId : Id
  expectedParticipantSequence : ℕ
  amountYen : ℕ

structure FundsReceiptOutcome where
  overdraftRepaymentYen : ℕ
  currentAccountBalanceAfterYen : ℕ
  intradayOverdraftAfterYen : ℕ
  deriving DecidableEq

structure UpdateOtherSecuredExposure where
  operationId : Id
  legalEntityId : Id
  expectedParticipantSequence : ℕ
  newExposureYen : ℕ

structure OpenBusinessDay where
  operationId : Id
  legalEntityId : Id
  expectedParticipantSequence : ℕ
  businessDay : ℕ
  repaymentDeadline : ℕ

structure SimultaneousCollateralDvp where
  operationId : Id
  settlementId : Id
  instructionCommitment : Id
  buyerLegalEntityId : Id
  sellerLegalEntityId : Id
  lotId : Id
  paymentYen : ℕ
  buyerPledgesOnReceipt : Bool
  overdraftReservationId : Id
  expectedBuyerSequence : ℕ
  expectedSellerSequence : ℕ
  expectedLotSequence : ℕ

structure EndBusinessDay where
  operationId : Id
  legalEntityId : Id
  expectedParticipantSequence : ℕ

structure DvpOutcome where
  overdraftDrawYen : ℕ
  sellerOverdraftRepaymentYen : ℕ
  buyerCashAfterYen : ℕ
  sellerCashAfterYen : ℕ
  deriving DecidableEq

/-- The maps are keyed by the identifiers themselves; their hexadecimal text
is one to one with them. -/
structure BojLiquidityBook where
  participants : Table Id BojParticipant
  collateralLots : Table Id JgbCollateralLot
  reservations : Table Id IntradayReservation
  completedSettlements : Finset Id
  appliedFundsReceipts : Finset Id
  appliedOperations : Finset Id

def BojLiquidityBook.empty : BojLiquidityBook := ⟨∅, ∅, ∅, ∅, ∅, ∅⟩

/-- `u64::checked_add`. -/
def checkedAdd (a b : ℕ) : Option ℕ := if a + b < 2 ^ 64 then some (a + b) else none

def checkedSub (a b : ℕ) : Option ℕ := if b ≤ a then some (a - b) else none

def checkedMul (a b : ℕ) : Option ℕ := if a * b < 2 ^ 128 then some (a * b) else none

def hasZero (values : List Id) : Bool := values.contains Id.zero

def checkSequence (actual expected : ℕ) : BojResult Unit :=
  require (actual = expected) .staleSequence

/-- `sequence.checked_add(1)`, which every successful change of a row makes. -/
def bumped (sequence : ℕ) : BojResult ℕ :=
  okOr (checkedAdd sequence 1) .arithmeticOverflow

/-- The `try_fold` of both sums over rows: the total so far, checked at each row. -/
def tryTotal {α : Type} (value : α → BojResult ℕ) (rows : List α) : BojResult ℕ :=
  foldEach (fun total row => do
    let v ← value row
    okOr (checkedAdd total v) .arithmeticOverflow) 0 rows

namespace JgbCollateralLot

def collateralValueYen (lot : JgbCollateralLot) : BojResult ℕ := do
  require (lot.faceValueYen ≠ 0 ∧ lot.marketPricePer100Micros ≠ 0 ∧ lot.indexRatioPpm ≠ 0 ∧
    lot.valuationRateBps ≠ 0 ∧ lot.valuationRateBps ≤ bps) .invalidCollateral
  let priced ← okOr (checkedMul lot.faceValueYen lot.marketPricePer100Micros) .arithmeticOverflow
  let indexed ← okOr (checkedMul priced lot.indexRatioPpm) .arithmeticOverflow
  let numerator ← okOr (checkedMul indexed lot.valuationRateBps) .arithmeticOverflow
  let value := numerator / (par * priceScale * indexScale * bps)
  require (value < 2 ^ 64) .arithmeticOverflow
  pure value

end JgbCollateralLot

namespace BojLiquidityBook

variable (book : BojLiquidityBook) (request : SimultaneousCollateralDvp)

def collateralValue (entity : Id) : BojResult ℕ :=
  tryTotal JgbCollateralLot.collateralValueYen
    ((book.collateralLots.entries.map Sigma.snd).filter fun lot =>
      lot.ownerLegalEntityId = entity ∧ lot.pledged = true)

def liveReserved (entity : Id) (now : ℕ) : BojResult ℕ :=
  tryTotal (fun reservation => .ok reservation.amountYen)
    ((book.reservations.entries.map Sigma.snd).filter fun reservation =>
      reservation.legalEntityId = entity ∧ reservation.isLive now = true)

/-- Exposure, overdraft and live reservations; an overflow of any kind is reported as one. -/
def required (exposure overdraft : ℕ) (entity : Id) (now : ℕ) : BojResult ℕ :=
  okOr (do
    let secured ← checkedAdd exposure overdraft
    let reserved ← (book.liveReserved entity now).toOption
    checkedAdd secured reserved) .arithmeticOverflow

abbrev participant (entity : Id) : BojResult BojParticipant :=
  okOr (book.participants.lookup entity) .unknownParticipant

def availableHeadroom (entity : Id) (now : ℕ) : BojResult ℕ := do
  let participant ← book.participant entity
  let required ← book.required participant.otherSecuredExposureYen
    participant.intradayOverdraftYen entity now
  let collateral ← book.collateralValue entity
  pure (collateral - required)

def refreshStatusByKey (entityKey : Id) (now : ℕ) : BojResult BojLiquidityBook := do
  let participant ← book.participant entityKey
  let collateral ← book.collateralValue participant.legalEntityId
  let required ← book.required participant.otherSecuredExposureYen
    participant.intradayOverdraftYen participant.legalEntityId now
  let status :=
    if participant.status ≠ .suspended ∧ participant.status ≠ .overdue then
      if collateral < required then .collateralShortfall else .active
    else participant.status
  pure { book with participants := book.participants.insert entityKey { participant with status } }

def ensureNewOperation (operationId : Id) : BojResult Unit := do
  require (operationId ≠ Id.zero) .invalidOperation
  require (operationId ∉ book.appliedOperations) .duplicateOperation

/-- The text checks on the stored identifier sets hold of identifiers by type. -/
def validate : BojResult Unit := do
  forEach (fun e : Sigma fun _ : Id => BojParticipant =>
    require (e.1 = e.2.legalEntityId ∧
      hasZero [e.2.legalEntityId, e.2.fundsAccountId, e.2.jgbAccountId] = false ∧
      e.2.businessDay ≠ 0 ∧ e.2.repaymentDeadline ≠ 0 ∧
      ¬ (e.2.status = .overdue ∧ e.2.businessDayClosed = false) ∧
      ¬ (e.2.currentAccountBalanceYen ≠ 0 ∧ e.2.intradayOverdraftYen ≠ 0)) .invalidParticipant)
    book.participants.entries
  forEach (fun e : Sigma fun _ : Id => JgbCollateralLot => do
    require (e.1 = e.2.lotId ∧
      hasZero [e.2.lotId, e.2.assetId, e.2.ownerLegalEntityId] = false ∧
      e.2.ownerLegalEntityId ∈ book.participants) .invalidCollateral
    let _ ← e.2.collateralValueYen
    pure ()) book.collateralLots.entries
  forEach (fun e : Sigma fun _ : Id => IntradayReservation =>
    require (e.1 = e.2.reservationId ∧
      hasZero [e.2.reservationId, e.2.legalEntityId, e.2.instructionCommitment] = false ∧
      e.2.amountYen ≠ 0 ∧ e.2.expiresAt ≠ 0 ∧ e.2.legalEntityId ∈ book.participants ∧
      ¬ (e.2.status ≠ .consumed ∧ e.2.consumedYen ≠ 0) ∧ e.2.consumedYen ≤ e.2.amountYen)
      .invalidReservation) book.reservations.entries

/-- `BTreeMap::insert` and `BTreeSet::insert` on the rows of a book. -/
def putParticipant (participant : BojParticipant) (entityKey : Id) : BojLiquidityBook :=
  { book with participants := book.participants.insert entityKey participant }

def putLot (lot : JgbCollateralLot) (lotKey : Id) : BojLiquidityBook :=
  { book with collateralLots := book.collateralLots.insert lotKey lot }

def putReservation (reservation : IntradayReservation) (key : Id) : BojLiquidityBook :=
  { book with reservations := book.reservations.insert key reservation }

def applied (operationId : Id) : BojLiquidityBook :=
  { book with appliedOperations := insert operationId book.appliedOperations }

def registerParticipant (request : RegisterParticipant) (now : ℕ) : BojResult BojLiquidityBook := do
  book.ensureNewOperation request.operationId
  let participant := request.participant
  require (hasZero [participant.legalEntityId, participant.fundsAccountId,
      participant.jgbAccountId] = false ∧ participant.businessDay ≠ 0 ∧
    now < participant.repaymentDeadline ∧ participant.sequence = 0 ∧
    participant.intradayOverdraftYen = 0 ∧ participant.businessDayClosed = false ∧
    participant.status = .active) .invalidParticipant
  require (participant.legalEntityId ∉ book.participants ∧
    ∀ e ∈ book.participants.entries, e.2.fundsAccountId ≠ participant.fundsAccountId ∧
      e.2.jgbAccountId ≠ participant.jgbAccountId) .duplicateParticipant
  pure ((book.putParticipant participant participant.legalEntityId).applied request.operationId)

def pledgeCollateral (request : PledgeCollateral) (now : ℕ) : BojResult (ℕ × BojLiquidityBook) := do
  book.ensureNewOperation request.operationId
  let lot := request.lot
  require (hasZero [lot.lotId, lot.assetId, lot.ownerLegalEntityId] = false ∧
    lot.pledged = true ∧ lot.sequence = 0 ∧ lot.lotId ∉ book.collateralLots) .invalidCollateral
  let value ← lot.collateralValueYen
  let entityKey := lot.ownerLegalEntityId
  let participant ← book.participant entityKey
  checkSequence participant.sequence request.expectedParticipantSequence
  require (participant.status ≠ .suspended ∧ participant.status ≠ .overdue ∧
    participant.businessDayClosed = false ∧ now < participant.repaymentDeadline)
    .participantUnavailable
  let sequence ← bumped participant.sequence
  let book := book.putParticipant { participant with sequence } entityKey
  let book := book.putLot { lot with sequence := 1 } lot.lotId
  let book ← book.refreshStatusByKey entityKey now
  pure (value, book.applied request.operationId)

def revalueCollateral (request : RevalueCollateral) (now : ℕ) :
    BojResult (ℕ × BojLiquidityBook) := do
  book.ensureNewOperation request.operationId
  let lot ← okOr (book.collateralLots.lookup request.lotId) .unknownCollateral
  checkSequence lot.sequence request.expectedLotSequence
  require (lot.valuationEpoch < request.valuationEpoch) .staleValuation
  let lotSequence ← bumped lot.sequence
  let lot := { lot with
    marketPricePer100Micros := request.marketPricePer100Micros
    indexRatioPpm := request.indexRatioPpm
    valuationRateBps := request.valuationRateBps
    valuationEpoch := request.valuationEpoch
    sequence := lotSequence }
  let book := book.putLot lot request.lotId
  let _ ← lot.collateralValueYen
  let entity := lot.ownerLegalEntityId
  let participant ← book.participant entity
  checkSequence participant.sequence request.expectedParticipantSequence
  let sequence ← bumped participant.sequence
  let book := book.putParticipant { participant with sequence } entity
  let total ← book.collateralValue entity
  let book ← book.refreshStatusByKey entity now
  pure (total, book.applied request.operationId)

def reserveIntradayLiquidity (request : ReserveIntradayLiquidity) (now : ℕ) :
    BojResult (ℕ × BojLiquidityBook) := do
  book.ensureNewOperation request.operationId
  require (hasZero [request.reservationId, request.legalEntityId,
      request.instructionCommitment] = false ∧ request.amountYen ≠ 0 ∧ now < request.expiresAt ∧
    request.reservationId ∉ book.reservations) .invalidReservation
  let entityKey := request.legalEntityId
  let book ← book.refreshStatusByKey entityKey now
  let participant ← book.participant entityKey
  checkSequence participant.sequence request.expectedParticipantSequence
  require (participant.status = .active ∧ participant.businessDayClosed = false ∧
    request.expiresAt ≤ participant.repaymentDeadline ∧ now < participant.repaymentDeadline)
    .participantUnavailable
  let headroom ← book.availableHeadroom request.legalEntityId now
  require (request.amountYen ≤ headroom) .insufficientCollateral
  let book := book.putReservation
    ⟨request.reservationId, request.legalEntityId, request.instructionCommitment,
      request.amountYen, request.expiresAt, .active, 0⟩ request.reservationId
  let sequence ← bumped participant.sequence
  let book := book.putParticipant { participant with sequence } entityKey
  pure (headroom - request.amountYen, book.applied request.operationId)

def releaseIntradayLiquidity (request : ReleaseIntradayLiquidity) (now : ℕ) :
    BojResult (ℕ × BojLiquidityBook) := do
  book.ensureNewOperation request.operationId
  let entityKey := request.legalEntityId
  let participant ← book.participant entityKey
  checkSequence participant.sequence request.expectedParticipantSequence
  let reservation ← okOr (book.reservations.lookup request.reservationId) .unknownReservation
  require (reservation.legalEntityId = request.legalEntityId ∧ reservation.status = .active)
    .invalidReservation
  let book := book.putReservation { reservation with status := .released } request.reservationId
  let sequence ← bumped participant.sequence
  let book := book.putParticipant { participant with sequence } entityKey
  let book ← book.refreshStatusByKey entityKey now
  let book := book.applied request.operationId
  let headroom ← book.availableHeadroom request.legalEntityId now
  pure (headroom, book)

def returnCollateral (request : ReturnCollateral) (now : ℕ) : BojResult (ℕ × BojLiquidityBook) := do
  book.ensureNewOperation request.operationId
  let lot ← okOr (book.collateralLots.lookup request.lotId) .unknownCollateral
  checkSequence lot.sequence request.expectedLotSequence
  require (lot.pledged = true) .invalidCollateral
  let entityKey := lot.ownerLegalEntityId
  let book ← book.refreshStatusByKey entityKey now
  let participant ← book.participant entityKey
  checkSequence participant.sequence request.expectedParticipantSequence
  require (participant.status = .active ∧ participant.businessDayClosed = false ∧
    now < participant.repaymentDeadline) .participantUnavailable
  let value ← lot.collateralValueYen
  let collateral ← book.collateralValue lot.ownerLegalEntityId
  let collateralAfter ← okOr (checkedSub collateral value) .invalidStoredState
  let required ← book.required participant.otherSecuredExposureYen
    participant.intradayOverdraftYen lot.ownerLegalEntityId now
  require (required ≤ collateralAfter) .insufficientCollateral
  let lotSequence ← bumped lot.sequence
  let book := book.putLot { lot with pledged := false, sequence := lotSequence } request.lotId
  let sequence ← bumped participant.sequence
  let book := book.putParticipant { participant with sequence } entityKey
  pure (collateralAfter - required, book.applied request.operationId)

def applyFundsReceipt (request : ApplyFundsReceipt) (now : ℕ) :
    BojResult (FundsReceiptOutcome × BojLiquidityBook) := do
  book.ensureNewOperation request.operationId
  require (hasZero [request.receiptId, request.legalEntityId] = false ∧ request.amountYen ≠ 0)
    .invalidFundsReceipt
  require (request.receiptId ∉ book.appliedFundsReceipts) .duplicateFundsReceipt
  let entityKey := request.legalEntityId
  let participant ← book.participant entityKey
  checkSequence participant.sequence request.expectedParticipantSequence
  let repayment := min participant.intradayOverdraftYen request.amountYen
  let balance ← okOr (checkedAdd participant.currentAccountBalanceYen
    (request.amountYen - repayment)) .arithmeticOverflow
  let sequence ← bumped participant.sequence
  let participant := { participant with
    intradayOverdraftYen := participant.intradayOverdraftYen - repayment
    currentAccountBalanceYen := balance
    sequence := sequence }
  let book := book.putParticipant participant entityKey
  let book ← book.refreshStatusByKey entityKey now
  let book := { book with
    appliedFundsReceipts := insert request.receiptId book.appliedFundsReceipts }
  pure (⟨repayment, participant.currentAccountBalanceYen, participant.intradayOverdraftYen⟩,
    book.applied request.operationId)

def coversIncrease (participant : BojParticipant) (request : UpdateOtherSecuredExposure)
    (requiredAfter : ℕ) : BojResult Unit :=
  if participant.otherSecuredExposureYen < request.newExposureYen then do
    let collateral ← book.collateralValue request.legalEntityId
    require (requiredAfter ≤ collateral) .insufficientCollateral
  else pure ()

def updateOtherSecuredExposure (request : UpdateOtherSecuredExposure) (now : ℕ) :
    BojResult (ℕ × BojLiquidityBook) := do
  book.ensureNewOperation request.operationId
  require (request.legalEntityId ≠ Id.zero) .invalidParticipant
  let entityKey := request.legalEntityId
  let participant ← book.participant entityKey
  checkSequence participant.sequence request.expectedParticipantSequence
  let requiredAfter ← book.required request.newExposureYen participant.intradayOverdraftYen
    request.legalEntityId now
  book.coversIncrease participant request requiredAfter
  let sequence ← bumped participant.sequence
  let book := book.putParticipant
    { participant with otherSecuredExposureYen := request.newExposureYen, sequence } entityKey
  let book ← book.refreshStatusByKey entityKey now
  let book := book.applied request.operationId
  let headroom ← book.availableHeadroom request.legalEntityId now
  pure (headroom, book)

def releaseAll (entity : Id) : BojLiquidityBook :=
  { book with reservations := Table.mapValues (fun reservation =>
      if reservation.legalEntityId = entity ∧ reservation.status = .active then
        { reservation with status := .released }
      else reservation) book.reservations }

def openBusinessDay (request : OpenBusinessDay) (now : ℕ) :
    BojResult (ParticipantStatus × BojLiquidityBook) := do
  book.ensureNewOperation request.operationId
  let entityKey := request.legalEntityId
  let participant ← book.participant entityKey
  checkSequence participant.sequence request.expectedParticipantSequence
  require (participant.status ≠ .suspended ∧ participant.intradayOverdraftYen = 0 ∧
    participant.businessDayClosed = true ∧ participant.businessDay < request.businessDay ∧
    participant.repaymentDeadline ≤ now ∧ now < request.repaymentDeadline) .invalidBusinessDay
  let book := book.releaseAll request.legalEntityId
  let sequence ← bumped participant.sequence
  let book := book.putParticipant
    { participant with
      businessDay := request.businessDay
      repaymentDeadline := request.repaymentDeadline
      businessDayClosed := false
      status := .active
      sequence := sequence } entityKey
  let book ← book.refreshStatusByKey entityKey now
  let participant ← book.participant entityKey
  pure (participant.status, book.applied request.operationId)

def namedReservation (draw now : ℕ) : BojResult (Option IntradayReservation × ℕ) :=
  if request.overdraftReservationId ≠ Id.zero then do
    let reservation ← okOr (book.reservations.lookup request.overdraftReservationId)
      .unknownReservation
    require (reservation.legalEntityId = request.buyerLegalEntityId ∧
      reservation.instructionCommitment = request.instructionCommitment ∧
      reservation.isLive now = true ∧ draw ≤ reservation.amountYen) .invalidReservation
    pure (some reservation, reservation.amountYen)
  else pure (none, 0)

def consume (reservation : Option IntradayReservation) (key : Id) (draw : ℕ) : BojLiquidityBook :=
  match reservation with
  | some reservation =>
    book.putReservation { reservation with status := .consumed, consumedYen := draw } key
  | none => book

/-- The buyer can carry the draw, with the delivered lot if it is pledged on receipt. -/
def checkBuyer (buyer : BojParticipant) (draw lotValue reservedByThis now : ℕ) :
    BojResult Unit := do
  let buyerCollateral ← book.collateralValue request.buyerLegalEntityId
  let buyerCollateralAfter ← okOr (checkedAdd buyerCollateral
    (if request.buyerPledgesOnReceipt then lotValue else 0)) .arithmeticOverflow
  let buyerReserved ← book.liveReserved request.buyerLegalEntityId now
  let buyerOtherLiveReservations ← okOr (checkedSub buyerReserved reservedByThis)
    .invalidStoredState
  let buyerRequiredAfter ← okOr (do
    let secured ← checkedAdd buyer.otherSecuredExposureYen buyer.intradayOverdraftYen
    let drawn ← checkedAdd secured draw
    checkedAdd drawn buyerOtherLiveReservations) .arithmeticOverflow
  require (draw = 0 ∨ buyer.status = .active) .participantUnavailable
  require (buyerRequiredAfter ≤ buyerCollateralAfter) .insufficientCollateral

def checkSeller (seller : BojParticipant) (lot : JgbCollateralLot)
    (sellerRepayment lotValue now : ℕ) : BojResult Unit := do
  let sellerCollateral ← book.collateralValue request.sellerLegalEntityId
  let sellerCollateralAfter ← okOr (checkedSub sellerCollateral
    (if lot.pledged then lotValue else 0)) .invalidStoredState
  let sellerRequiredAfter ← book.required seller.otherSecuredExposureYen
    (seller.intradayOverdraftYen - sellerRepayment) request.sellerLegalEntityId now
  require (sellerRequiredAfter ≤ sellerCollateralAfter) .insufficientCollateral

def deliver (buyer seller : BojParticipant) (lot : JgbCollateralLot)
    (reservation : Option IntradayReservation) (draw sellerRepayment : ℕ) :
    BojResult (DvpOutcome × BojLiquidityBook) := do
  let buyerCashAfter ← okOr (do
    let funded ← checkedAdd buyer.currentAccountBalanceYen draw
    checkedSub funded request.paymentYen) .arithmeticOverflow
  let sellerCashAfter ← okOr (checkedAdd seller.currentAccountBalanceYen
    (request.paymentYen - sellerRepayment)) .arithmeticOverflow
  let buyerOverdraft ← okOr (checkedAdd buyer.intradayOverdraftYen draw) .arithmeticOverflow
  let buyerSequence ← bumped buyer.sequence
  let book := book.putParticipant
    { buyer with
      currentAccountBalanceYen := buyerCashAfter
      intradayOverdraftYen := buyerOverdraft
      sequence := buyerSequence } request.buyerLegalEntityId
  let sellerSequence ← bumped seller.sequence
  let book := book.putParticipant
    { seller with
      currentAccountBalanceYen := sellerCashAfter
      intradayOverdraftYen := seller.intradayOverdraftYen - sellerRepayment
      sequence := sellerSequence } request.sellerLegalEntityId
  let lotSequence ← bumped lot.sequence
  let book := book.putLot
    { lot with
      ownerLegalEntityId := request.buyerLegalEntityId
      pledged := request.buyerPledgesOnReceipt
      sequence := lotSequence } request.lotId
  pure (⟨draw, sellerRepayment, buyerCashAfter, sellerCashAfter⟩,
    book.consume reservation request.overdraftReservationId draw)

def settleSimultaneousCollateralDvp (now : ℕ) : BojResult (DvpOutcome × BojLiquidityBook) := do
  book.ensureNewOperation request.operationId
  require (hasZero [request.settlementId, request.instructionCommitment,
      request.buyerLegalEntityId, request.sellerLegalEntityId, request.lotId] = false ∧
    request.paymentYen ≠ 0 ∧ request.buyerLegalEntityId ≠ request.sellerLegalEntityId ∧
    request.settlementId ∉ book.completedSettlements) .invalidSettlement
  let book ← book.refreshStatusByKey request.buyerLegalEntityId now
  let book ← book.refreshStatusByKey request.sellerLegalEntityId now
  let buyer ← book.participant request.buyerLegalEntityId
  let seller ← book.participant request.sellerLegalEntityId
  let lot ← okOr (book.collateralLots.lookup request.lotId) .unknownCollateral
  checkSequence buyer.sequence request.expectedBuyerSequence
  checkSequence seller.sequence request.expectedSellerSequence
  checkSequence lot.sequence request.expectedLotSequence
  require (lot.ownerLegalEntityId = request.sellerLegalEntityId ∧
    buyer.businessDay = seller.businessDay ∧ now < buyer.repaymentDeadline ∧
    now < seller.repaymentDeadline ∧ buyer.businessDayClosed = false ∧
    seller.businessDayClosed = false ∧
    buyer.status ≠ .suspended ∧ buyer.status ≠ .overdue ∧
    seller.status ≠ .suspended ∧ seller.status ≠ .overdue) .participantUnavailable
  let draw := request.paymentYen - buyer.currentAccountBalanceYen
  let sellerRepayment := min seller.intradayOverdraftYen request.paymentYen
  let lotValue ← lot.collateralValueYen
  let named ← book.namedReservation request draw now
  book.checkBuyer request buyer draw lotValue named.2 now
  book.checkSeller request seller lot sellerRepayment lotValue now
  let settled ← book.deliver request buyer seller lot named.1 draw sellerRepayment
  let book ← settled.2.refreshStatusByKey request.buyerLegalEntityId now
  let book ← book.refreshStatusByKey request.sellerLegalEntityId now
  let book := { book with
    completedSettlements := insert request.settlementId book.completedSettlements }
  pure (settled.1, book.applied request.operationId)

def endBusinessDay (request : EndBusinessDay) (now : ℕ) :
    BojResult (ParticipantStatus × BojLiquidityBook) := do
  book.ensureNewOperation request.operationId
  let entityKey := request.legalEntityId
  let participant ← book.participant entityKey
  checkSequence participant.sequence request.expectedParticipantSequence
  require (participant.repaymentDeadline ≤ now) .tooEarlyForEndOfDay
  require (participant.businessDayClosed = false) .businessDayAlreadyClosed
  let book := book.releaseAll request.legalEntityId
  let status : ParticipantStatus :=
    if participant.intradayOverdraftYen = 0 then .active else .overdue
  let sequence ← bumped participant.sequence
  let book := book.putParticipant
    { participant with status, businessDayClosed := true, sequence } entityKey
  pure (status, book.applied request.operationId)

end BojLiquidityBook

inductive BojOp where
  | registerParticipant (request : RegisterParticipant)
  | pledgeCollateral (request : PledgeCollateral)
  | revalueCollateral (request : RevalueCollateral)
  | reserveIntradayLiquidity (request : ReserveIntradayLiquidity)
  | releaseIntradayLiquidity (request : ReleaseIntradayLiquidity)
  | returnCollateral (request : ReturnCollateral)
  | applyFundsReceipt (request : ApplyFundsReceipt)
  | updateOtherSecuredExposure (request : UpdateOtherSecuredExposure)
  | openBusinessDay (request : OpenBusinessDay)
  | settleSimultaneousCollateralDvp (request : SimultaneousCollateralDvp)
  | endBusinessDay (request : EndBusinessDay)

inductive BojOutcome where
  | done
  | yen (amount : ℕ)
  | receipt (outcome : FundsReceiptOutcome)
  | status (status : ParticipantStatus)
  | dvp (outcome : DvpOutcome)
  deriving DecidableEq

namespace BojLiquidityBook

/-- The operations before the copy they worked on is validated. -/
def inner (book : BojLiquidityBook) (now : ℕ) :
    BojOp → BojResult (BojOutcome × BojLiquidityBook)
  | .registerParticipant r => (book.registerParticipant r now).map fun next => (.done, next)
  | .pledgeCollateral r => (book.pledgeCollateral r now).map fun x => (.yen x.1, x.2)
  | .revalueCollateral r => (book.revalueCollateral r now).map fun x => (.yen x.1, x.2)
  | .reserveIntradayLiquidity r =>
    (book.reserveIntradayLiquidity r now).map fun x => (.yen x.1, x.2)
  | .releaseIntradayLiquidity r =>
    (book.releaseIntradayLiquidity r now).map fun x => (.yen x.1, x.2)
  | .returnCollateral r => (book.returnCollateral r now).map fun x => (.yen x.1, x.2)
  | .applyFundsReceipt r => (book.applyFundsReceipt r now).map fun x => (.receipt x.1, x.2)
  | .updateOtherSecuredExposure r =>
    (book.updateOtherSecuredExposure r now).map fun x => (.yen x.1, x.2)
  | .openBusinessDay r => (book.openBusinessDay r now).map fun x => (.status x.1, x.2)
  | .settleSimultaneousCollateralDvp r =>
    (book.settleSimultaneousCollateralDvp r now).map fun x => (.dvp x.1, x.2)
  | .endBusinessDay r => (book.endBusinessDay r now).map fun x => (.status x.1, x.2)

/-- The operation on a copy, which replaces the book only if it validates. -/
def atomic (book : BojLiquidityBook)
    (operation : BojLiquidityBook → BojResult (BojOutcome × BojLiquidityBook)) :
    BojResult (BojOutcome × BojLiquidityBook) := do
  let result ← operation book
  result.2.validate
  pure result

def perform (call : ℕ × BojOp) : InPlace BojLiquidityBook BojOutcome := fun book =>
  match book.atomic fun book => book.inner call.1 call.2 with
  | .ok (outcome, next) => (.ok outcome, next)
  | .error e => (.error e.text, book)

end BojLiquidityBook

section Sample

def bojId (byte : UInt8) : Id := Id.fill byte

def sampleParticipant (entity : UInt8) (cash : ℕ) : BojParticipant where
  legalEntityId := bojId entity
  fundsAccountId := bojId (entity + 10)
  jgbAccountId := bojId (entity + 20)
  currentAccountBalanceYen := cash
  otherSecuredExposureYen := 0
  intradayOverdraftYen := 0
  businessDay := 20260831
  repaymentDeadline := 100
  businessDayClosed := false
  sequence := 0
  status := .active

def sampleLot (owner lot : UInt8) (face : ℕ) : JgbCollateralLot where
  lotId := bojId lot
  assetId := bojId 90
  ownerLegalEntityId := bojId owner
  faceValueYen := face
  marketPricePer100Micros := 100000000
  indexRatioPpm := 1000000
  valuationRateBps := 9700
  valuationEpoch := 1
  pledged := true
  sequence := 0

/-- Two participants, the second with a pledged lot of a hundred yen. -/
def sampleOpening : List (ℕ × BojOp) :=
  [(1, .registerParticipant ⟨bojId 101, sampleParticipant 1 40⟩),
    (1, .registerParticipant ⟨bojId 102, sampleParticipant 2 0⟩),
    (2, .pledgeCollateral ⟨bojId 103, 0, sampleLot 2 50 100⟩)]

/-- The lot against sixty yen, and one receipt presented twice. -/
def sampleTrade : List (ℕ × BojOp) :=
  [(3, .settleSimultaneousCollateralDvp ⟨bojId 105, bojId 70, bojId 71, bojId 1, bojId 2, bojId 50,
      60, true, Id.zero, 0, 1, 1⟩),
    (4, .applyFundsReceipt ⟨bojId 106, bojId 72, bojId 1, 1, 50⟩),
    (5, .applyFundsReceipt ⟨bojId 107, bojId 72, bojId 1, 2, 50⟩)]

end Sample
end DeFMI.Boj
