import DeFMI.Boj.Book
set_option autoImplicit false

/-!
What a successful operation of the liquidity book does, in terms of three
things: the money position of each participant, the collateral lots and the
reservations. Statuses, sequences and business days drop out here.
-/

namespace DeFMI.Boj
open Lib Table AList List Option IntradayReservation JgbCollateralLot BojParticipant

structure Position where
  balance : ℕ
  exposure : ℕ
  overdraft : ℕ

def BojParticipant.position (p : BojParticipant) : Position :=
  ⟨p.currentAccountBalanceYen, p.otherSecuredExposureYen, p.intradayOverdraftYen⟩

def JgbCollateralLot.value (lot : JgbCollateralLot) : ℕ :=
  lot.faceValueYen * lot.marketPricePer100Micros * lot.indexRatioPpm * lot.valuationRateBps /
    (par * priceScale * indexScale * bps)

def JgbCollateralLot.backs (entity : Id) (lot : JgbCollateralLot) : ℕ :=
  if lot.ownerLegalEntityId = entity ∧ lot.pledged = true then lot.value else 0

def IntradayReservation.holds (entity : Id) (now : ℕ) (r : IntradayReservation) : ℕ :=
  if r.legalEntityId = entity ∧ r.isLive now = true then r.amountYen else 0

def BojParticipant.Shaped (key : Id) (p : BojParticipant) : Prop :=
  key = p.legalEntityId ∧ hasZero [p.legalEntityId, p.fundsAccountId, p.jgbAccountId] = false ∧
    p.businessDay ≠ 0 ∧ p.repaymentDeadline ≠ 0 ∧
    ¬ (p.status = .overdue ∧ p.businessDayClosed = false) ∧
    ¬ (p.currentAccountBalanceYen ≠ 0 ∧ p.intradayOverdraftYen ≠ 0)

def JgbCollateralLot.Shaped (key : Id) (lot : JgbCollateralLot) : Prop :=
  key = lot.lotId ∧ hasZero [lot.lotId, lot.assetId, lot.ownerLegalEntityId] = false ∧
    ∃ value, lot.collateralValueYen = .ok value

def IntradayReservation.Shaped (key : Id) (v : IntradayReservation) : Prop :=
  key = v.reservationId ∧
    hasZero [v.reservationId, v.legalEntityId, v.instructionCommitment] = false ∧
    v.amountYen ≠ 0 ∧ v.expiresAt ≠ 0 ∧ ¬ (v.status ≠ .consumed ∧ v.consumedYen ≠ 0) ∧
    v.consumedYen ≤ v.amountYen

section Checked

variable {a b c : ℕ}

@[simp] theorem checkedAdd_eq_some : checkedAdd a b = some c ↔ a + b = c ∧ c < 2 ^ 64 := by
  unfold checkedAdd
  split
  · constructor
    · intro h; cases h; exact ⟨rfl, by assumption⟩
    · rintro ⟨rfl, _⟩; rfl
  · constructor
    · intro h; cases h
    · rintro ⟨rfl, h⟩; contradiction

@[simp] theorem checkedSub_eq_some : checkedSub a b = some c ↔ b ≤ a ∧ a - b = c := by
  unfold checkedSub
  split
  · simp [*]
  · simp [*]

@[simp] theorem checkedMul_eq_some : checkedMul a b = some c ↔ a * b = c ∧ c < 2 ^ 128 := by
  unfold checkedMul
  split
  · constructor
    · intro h; cases h; exact ⟨rfl, by assumption⟩
    · rintro ⟨rfl, _⟩; rfl
  · constructor
    · intro h; cases h
    · rintro ⟨rfl, h⟩; contradiction

end Checked

theorem JgbCollateralLot.collateralValueYen_ok {lot : JgbCollateralLot} {v : ℕ}
    (h : lot.collateralValueYen = .ok v) : v = lot.value := by
  simp only [collateralValueYen, ok_iff, checkedMul_eq_some] at h
  obtain ⟨_, _, ⟨rfl, _⟩, _, ⟨rfl, _⟩, _, ⟨rfl, _⟩, _, rfl⟩ := h
  rfl

section Sums

variable {α : Type} {value : α → BojResult ℕ} {ideal : α → ℕ}

theorem foldEach_checkedAdd
    (hideal : ∀ a v, value a = .ok v → v = ideal a) {as : List α} {start total : ℕ}
    (hstart : start < 2 ^ 64)
    (h : foldEach (fun total a => do
        let v ← value a
        okOr (checkedAdd total v) BojLiquidityError.arithmeticOverflow) start as = .ok total) :
    total = start + (as.map ideal).sum ∧ total < 2 ^ 64 := by
  induction as generalizing start with
  | nil =>
    rw [foldEach_nil] at h
    subst h
    exact ⟨by simp, hstart⟩
  | cons a as ih =>
    simp only [foldEach_cons, ok_iff, checkedAdd_eq_some] at h
    obtain ⟨next, ⟨v, hv, rfl, hnext⟩, hrest⟩ := h
    obtain ⟨htotal, hlt⟩ := ih hnext hrest
    rw [hideal a v hv] at htotal
    refine ⟨?_, hlt⟩
    simp only [map_cons, sum_cons]
    omega

/-- A sum with overflow checks is the sum, and it stays below the word size. -/
theorem tryTotal_ok (hideal : ∀ a v, value a = .ok v → v = ideal a) {rows : List α} {total : ℕ}
    (h : tryTotal value rows = .ok total) : total = (rows.map ideal).sum ∧ total < 2 ^ 64 := by
  obtain ⟨htotal, hlt⟩ := foldEach_checkedAdd hideal (by norm_num) h
  exact ⟨by rw [htotal, zero_add], hlt⟩

theorem foldEach_checkedAdd_of_lt
    {as : List α} (hvalue : ∀ a ∈ as, value a = .ok (ideal a)) {start : ℕ}
    (hlt : start + (as.map ideal).sum < 2 ^ 64) :
    foldEach (fun total a => do
        let v ← value a
        okOr (checkedAdd total v) BojLiquidityError.arithmeticOverflow) start as =
      .ok (start + (as.map ideal).sum) := by
  induction as generalizing start with
  | nil => simp
  | cons a as ih =>
    simp only [map_cons, sum_cons] at hlt ⊢
    simp only [foldEach_cons, ok_iff, checkedAdd_eq_some]
    refine ⟨start + ideal a, ⟨ideal a, hvalue a (by simp), rfl, by omega⟩, ?_⟩
    rw [ih (fun b hb => hvalue b (by simp [hb])) (by omega)]
    simp only [Except.ok.injEq]
    omega

theorem tryTotal_of_lt {rows : List α}
    (hvalue : ∀ a ∈ rows, value a = .ok (ideal a)) (hlt : (rows.map ideal).sum < 2 ^ 64) :
    tryTotal value rows = .ok (rows.map ideal).sum := by
  unfold tryTotal
  rw [foldEach_checkedAdd_of_lt hvalue (by rwa [zero_add]), zero_add]

theorem sum_filter_values (t : Table Id α) (p : α → Bool) (ideal : α → ℕ) :
    (((t.entries.map Sigma.snd).filter p).map ideal).sum =
      total (fun _ a => if p a = true then ideal a else 0) t := by
  unfold total
  induction t.entries with
  | nil => rfl
  | cons e l ih =>
    by_cases h : p e.2 = true
    · simp [h, ih]
    · simp [h, ih]

end Sums

namespace BojLiquidityBook

variable {book next : BojLiquidityBook} {entity : Id} {now : ℕ}

def positions (book : BojLiquidityBook) : Table Id Position :=
  mapValues BojParticipant.position book.participants

def collateral (book : BojLiquidityBook) (entity : Id) : ℕ :=
  total (fun _ lot => lot.backs entity) book.collateralLots

def reserved (book : BojLiquidityBook) (entity : Id) (now : ℕ) : ℕ :=
  total (fun _ r => r.holds entity now) book.reservations

theorem positions_lookup : book.positions.lookup entity =
    (book.participants.lookup entity).map position :=
  lookup_mapValues _ _ _

theorem collateral_eq : book.collateral entity =
    (((book.collateralLots.entries.map Sigma.snd).filter fun lot =>
      lot.ownerLegalEntityId = entity ∧ lot.pledged = true).map value).sum := by
  rw [sum_filter_values]
  simp [collateral, backs]

theorem reserved_eq : book.reserved entity now =
    (((book.reservations.entries.map Sigma.snd).filter fun reservation =>
      reservation.legalEntityId = entity ∧ reservation.isLive now = true).map
        amountYen).sum := by
  rw [sum_filter_values]
  simp [reserved, holds]

theorem collateralValue_ok {c : ℕ} (h : book.collateralValue entity = .ok c) :
    c = book.collateral entity ∧ c < 2 ^ 64 := by
  rw [collateral_eq]
  exact tryTotal_ok (fun _ _ => collateralValueYen_ok) h

theorem collateralValue_of_lt
    (hvalid : ∀ key lot, book.collateralLots.lookup key = some lot →
      lot.collateralValueYen = .ok lot.value) (hlt : book.collateral entity < 2 ^ 64) :
    book.collateralValue entity = .ok (book.collateral entity) := by
  rw [collateral_eq] at hlt ⊢
  refine tryTotal_of_lt ?_ hlt
  intro lot hlot
  obtain ⟨e, he, rfl⟩ := mem_map.mp (mem_filter.mp hlot).1
  exact hvalid e.1 e.2 (mem_lookup_iff.mpr he)

theorem liveReserved_ok {r : ℕ} (h : book.liveReserved entity now = .ok r) :
    r = book.reserved entity now ∧ r < 2 ^ 64 := by
  rw [reserved_eq]
  refine tryTotal_ok ?_ h
  intro reservation v hv
  cases hv
  rfl

theorem liveReserved_of_lt (hlt : book.reserved entity now < 2 ^ 64) :
    book.liveReserved entity now = .ok (book.reserved entity now) := by
  rw [reserved_eq] at hlt ⊢
  exact tryTotal_of_lt (fun _ _ => rfl) hlt

theorem required_ok {exposure overdraft total : ℕ}
    (h : book.required exposure overdraft entity now = .ok total) :
    total = exposure + overdraft + book.reserved entity now ∧ total < 2 ^ 64 := by
  simp only [required, okOr_eq_ok, bind_eq_bind, bind_eq_some_iff,
    checkedAdd_eq_some] at h
  obtain ⟨_, ⟨rfl, _⟩, r, hr, rfl, hlt⟩ := h
  cases hlive : book.liveReserved entity now with
  | ok =>
    rw [hlive] at hr
    cases hr
    exact ⟨by rw [(liveReserved_ok hlive).1], hlt⟩
  | error => rw [hlive] at hr; cases hr

structure SameMoney (book next : BojLiquidityBook) : Prop where
  positions : ∀ entity, next.positions.lookup entity = book.positions.lookup entity
  lots : next.collateralLots = book.collateralLots
  reservations : next.reservations = book.reservations
  receipts : next.appliedFundsReceipts = book.appliedFundsReceipts

theorem putParticipant_positions {p : BojParticipant} {key other : Id} :
    (book.putParticipant p key).positions.lookup other =
      if other = key then some p.position else book.positions.lookup other := by
  simp only [positions_lookup, putParticipant, lookup_insert_eq_ite]
  split
  · rfl
  · rfl

/-- A refresh writes a status, and it only gets that far if the collateral adds up. -/
theorem refreshStatusByKey_ok (h : book.refreshStatusByKey entity now = .ok next) :
    SameMoney book next ∧
      ∀ p, book.participants.lookup entity = some p → book.collateral p.legalEntityId < 2 ^ 64 := by
  simp only [refreshStatusByKey, ok_iff] at h
  obtain ⟨p, hp, worth, hworth, _, _, rfl⟩ := h
  refine ⟨⟨?_, rfl, rfl, rfl⟩, ?_⟩
  case refine_2 =>
    intro p' hp'
    rw [hp] at hp'
    cases hp'
    obtain ⟨rfl, hlt⟩ := collateralValue_ok hworth
    exact hlt
  intro other
  rw [← putParticipant, putParticipant_positions]
  split
  · next heq => subst heq; simp [positions_lookup, hp, position]
  · rfl

theorem position_of_lookup {p : BojParticipant} (h : book.participants.lookup entity = some p) :
    book.positions.lookup entity = some p.position := by
  rw [positions_lookup, h]
  rfl

namespace SameMoney

theorem trans {mid : BojLiquidityBook} (h : SameMoney book mid) (h' : SameMoney mid next) :
    SameMoney book next where
  positions entity := (h'.positions entity).trans (h.positions entity)
  lots := h'.lots.trans h.lots
  reservations := h'.reservations.trans h.reservations
  receipts := h'.receipts.trans h.receipts

theorem collateral (h : SameMoney book next) : next.collateral entity = book.collateral entity := by
  unfold BojLiquidityBook.collateral
  rw [h.lots]

theorem reserved (h : SameMoney book next) :
    next.reserved entity now = book.reserved entity now := by
  unfold BojLiquidityBook.reserved
  rw [h.reservations]

end SameMoney

structure Puts (entity : Id) (q : Position) (book next : BojLiquidityBook) : Prop where
  positions : ∀ other, next.positions.lookup other = (book.positions.insert entity q).lookup other
  lots : next.collateralLots = book.collateralLots
  reservations : next.reservations = book.reservations

structure Rows (lots : Table Id JgbCollateralLot) (reservations : Table Id IntradayReservation)
    (book next : BojLiquidityBook) : Prop where
  positions : ∀ entity, next.positions.lookup entity = book.positions.lookup entity
  lots : next.collateralLots = lots
  reservations : next.reservations = reservations
  receipts : next.appliedFundsReceipts = book.appliedFundsReceipts

theorem sameMoney_putParticipant {p p' : BojParticipant}
    (h : book.participants.lookup entity = some p) (hp : p'.position = p.position) :
    SameMoney book (book.putParticipant p' entity) := by
  refine ⟨?_, rfl, rfl, rfl⟩
  intro other
  rw [putParticipant_positions]
  split
  · next heq => subst heq; rw [hp, position_of_lookup h]
  · rfl

theorem puts_putParticipant {p : BojParticipant} {q : Position} (hq : p.position = q) :
    Puts entity q book (book.putParticipant p entity) := by
  refine ⟨?_, rfl, rfl⟩
  intro other
  rw [putParticipant_positions, lookup_insert_eq_ite, hq]

theorem Puts.trans {q : Position} {mid : BojLiquidityBook} (h : Puts entity q book mid)
    (h' : SameMoney mid next) : Puts entity q book next where
  positions other := (h'.positions other).trans (h.positions other)
  lots := h'.lots.trans h.lots
  reservations := h'.reservations.trans h.reservations

theorem sameMoney_applied (book : BojLiquidityBook) (operation : Id) :
    SameMoney book (book.applied operation) := ⟨fun _ => rfl, rfl, rfl, rfl⟩

namespace Rows

variable {lots : Table Id JgbCollateralLot} {reservations : Table Id IntradayReservation}
  {mid : BojLiquidityBook}

theorem after (h : Rows lots reservations book mid) (h' : SameMoney mid next) :
    Rows lots reservations book next where
  positions entity := (h'.positions entity).trans (h.positions entity)
  lots := h'.lots.trans h.lots
  reservations := h'.reservations.trans h.reservations
  receipts := h'.receipts.trans h.receipts

theorem before (h : SameMoney book mid) (h' : Rows lots reservations mid next) :
    Rows lots reservations book next where
  positions entity := (h'.positions entity).trans (h.positions entity)
  lots := h'.lots
  reservations := h'.reservations
  receipts := h'.receipts.trans h.receipts

theorem putLot (book : BojLiquidityBook) (lot : JgbCollateralLot) (key : Id) :
    Rows (book.collateralLots.insert key lot) book.reservations book (book.putLot lot key) :=
  ⟨fun _ => rfl, rfl, rfl, rfl⟩

theorem putReservation (book : BojLiquidityBook) (r : IntradayReservation) (key : Id) :
    Rows book.collateralLots (book.reservations.insert key r) book (book.putReservation r key) :=
  ⟨fun _ => rfl, rfl, rfl, rfl⟩

theorem releaseAll (book : BojLiquidityBook) (entity : Id) :
    Rows book.collateralLots (book.releaseAll entity).reservations book (book.releaseAll entity) :=
  ⟨fun _ => rfl, rfl, rfl, rfl⟩

end Rows

/-- The rows `validate` accepts. -/
structure Shaped (book : BojLiquidityBook) : Prop where
  participants : ∀ key p, book.participants.lookup key = some p → p.Shaped key
  lots : ∀ key lot, book.collateralLots.lookup key = some lot →
    lot.Shaped key ∧ lot.ownerLegalEntityId ∈ book.participants
  reservations : ∀ key v, book.reservations.lookup key = some v →
    v.Shaped key ∧ v.legalEntityId ∈ book.participants

theorem validate_eq_ok : book.validate = .ok () ↔ book.Shaped := by
  simp only [validate, bind_eq_ok, forEach_eq_ok, require_eq_ok, pure_eq_ok]
  constructor
  · rintro ⟨_, hparticipants, _, hlots, hreservations⟩
    constructor
    · intro key p hp
      exact hparticipants ⟨key, p⟩ (mem_lookup_iff.mp hp)
    · intro key lot hlot
      obtain ⟨_, hrow, value, hvalue, _⟩ := hlots ⟨key, lot⟩ (mem_lookup_iff.mp hlot)
      exact ⟨⟨hrow.1, hrow.2.1, value, hvalue⟩, hrow.2.2⟩
    · intro key v hv
      obtain ⟨hkey, hzero, hamount, hexpires, hholder, hconsumed⟩ :=
        hreservations ⟨key, v⟩ (mem_lookup_iff.mp hv)
      exact ⟨⟨hkey, hzero, hamount, hexpires, hconsumed⟩, hholder⟩
  · intro h
    refine ⟨(), fun e he => ?_, (), fun e he => ?_, fun e he => ?_⟩
    · exact h.participants e.1 e.2 (mem_lookup_iff.mpr he)
    · obtain ⟨⟨hkey, hzero, value, hvalue⟩, howner⟩ := h.lots e.1 e.2 (mem_lookup_iff.mpr he)
      exact ⟨(), ⟨hkey, hzero, howner⟩, value, hvalue, trivial⟩
    · obtain ⟨⟨hkey, hzero, hamount, hexpires, hconsumed⟩, hholder⟩ :=
        h.reservations e.1 e.2 (mem_lookup_iff.mpr he)
      exact ⟨hkey, hzero, hamount, hexpires, hholder, hconsumed⟩

theorem empty_shaped : BojLiquidityBook.empty.Shaped := by
  constructor <;> intro key row h <;> simp [BojLiquidityBook.empty] at h

theorem Shaped.worth (h : book.Shaped) (key : Id) (lot : JgbCollateralLot)
    (hlot : book.collateralLots.lookup key = some lot) : lot.collateralValueYen = .ok lot.value := by
  obtain ⟨⟨_, _, value, hvalue⟩, _⟩ := h.lots key lot hlot
  rw [hvalue, collateralValueYen_ok hvalue]

theorem reserved_mono {later : ℕ} (h : now ≤ later) :
    book.reserved entity later ≤ book.reserved entity now := by
  refine total_le_total ?_ _
  intro key r
  simp only [holds, isLive, decide_eq_true_eq]
  split
  · grind
  · exact Nat.zero_le _

section Sums

-- the sums are about any one entity and, for reservations, any one time

variable (entity : Id) (now : ℕ) {key : Id} {lot old : JgbCollateralLot} {r was : IntradayReservation}

theorem collateral_insert_fresh (hlots : next.collateralLots = book.collateralLots.insert key lot)
    (hfresh : key ∉ book.collateralLots) :
    next.collateral entity = lot.backs entity + book.collateral entity := by
  unfold collateral
  rw [hlots, total_insert_of_not_mem _ hfresh]

theorem collateral_insert (hlots : next.collateralLots = book.collateralLots.insert key lot)
    (hold : book.collateralLots.lookup key = some old) :
    next.collateral entity + old.backs entity = book.collateral entity + lot.backs entity := by
  unfold collateral
  rw [hlots]
  exact total_insert_of_lookup _ hold

theorem reserved_insert_fresh (hrows : next.reservations = book.reservations.insert key r)
    (hfresh : key ∉ book.reservations) :
    next.reserved entity now = r.holds entity now + book.reserved entity now := by
  unfold reserved
  rw [hrows, total_insert_of_not_mem _ hfresh]

theorem reserved_insert (hrows : next.reservations = book.reservations.insert key r)
    (hwas : book.reservations.lookup key = some was) :
    next.reserved entity now + was.holds entity now =
      book.reserved entity now + r.holds entity now := by
  unfold reserved
  rw [hrows]
  exact total_insert_of_lookup _ hwas

theorem reserved_releaseAll {other : Id}
    (hrows : next.reservations = (book.releaseAll other).reservations) :
    next.reserved entity now ≤ book.reserved entity now := by
  unfold reserved
  rw [hrows, releaseAll, total_mapValues]
  refine total_le_total ?_ _
  intro k v
  split
  · simp [holds, isLive]
  · exact Nat.le_refl _

theorem holds_of_not_active (h : r.status ≠ .active) : r.holds entity now = 0 := by
  simp [holds, isLive, h]

end Sums

/-- What a delivery settles, between the positions and the lot it found. -/
structure Delivers (r : SimultaneousCollateralDvp) (now : ℕ) (buyer seller : Position)
    (lot : JgbCollateralLot) (consumed : ℕ) (book next : BojLiquidityBook) : Prop where
  parties : r.buyerLegalEntityId ≠ r.sellerLegalEntityId
  buyer_position : book.positions.lookup r.buyerLegalEntityId = some buyer
  seller_position : book.positions.lookup r.sellerLegalEntityId = some seller
  lot_found : book.collateralLots.lookup r.lotId = some lot
  owner : lot.ownerLegalEntityId = r.sellerLegalEntityId
  positions : ∀ other, next.positions.lookup other =
    ((book.positions.insert r.buyerLegalEntityId
        ⟨buyer.balance + (r.paymentYen - buyer.balance) - r.paymentYen, buyer.exposure,
          buyer.overdraft + (r.paymentYen - buyer.balance)⟩).insert r.sellerLegalEntityId
        ⟨seller.balance + (r.paymentYen - min seller.overdraft r.paymentYen), seller.exposure,
          seller.overdraft - min seller.overdraft r.paymentYen⟩).lookup other
  lot_expected : lot.sequence = r.expectedLotSequence
  lots : next.collateralLots = book.collateralLots.insert r.lotId
    { lot with
      ownerLegalEntityId := r.buyerLegalEntityId
      pledged := r.buyerPledgesOnReceipt
      sequence := lot.sequence + 1 }
  reservations : consumed = 0 ∧ next.reservations = book.reservations ∨
    ∃ v, book.reservations.lookup r.overdraftReservationId = some v ∧
      v.legalEntityId = r.buyerLegalEntityId ∧ v.isLive now = true ∧ consumed = v.amountYen ∧
      ∃ draw, next.reservations = book.reservations.insert r.overdraftReservationId
        { v with status := .consumed, consumedYen := draw }
  buyer_covered : buyer.exposure + buyer.overdraft + (r.paymentYen - buyer.balance) +
      book.reserved r.buyerLegalEntityId now ≤
    book.collateral r.buyerLegalEntityId +
      (if r.buyerPledgesOnReceipt then lot.value else 0) + consumed
  buyer_bound : book.collateral r.buyerLegalEntityId +
    (if r.buyerPledgesOnReceipt then lot.value else 0) < 2 ^ 64
  seller_covered : seller.exposure + (seller.overdraft - min seller.overdraft r.paymentYen) +
      book.reserved r.sellerLegalEntityId now + (if lot.pledged then lot.value else 0) ≤
    book.collateral r.sellerLegalEntityId
  seller_bound : book.collateral r.sellerLegalEntityId < 2 ^ 64
  receipts : next.appliedFundsReceipts = book.appliedFundsReceipts

/-- Everything money and collateral statements need of a successful operation:
what it found, what it required and what it wrote. -/
def Effect (now : ℕ) (op : BojOp) (book next : BojLiquidityBook) : Prop :=
  match op with
  | .registerParticipant r =>
    r.participant.legalEntityId ∉ book.participants ∧ r.participant.intradayOverdraftYen = 0 ∧
      Puts r.participant.legalEntityId r.participant.position book next ∧
      next.appliedFundsReceipts = book.appliedFundsReceipts
  | .pledgeCollateral r =>
    r.lot.lotId ∉ book.collateralLots ∧ next.collateral r.lot.ownerLegalEntityId < 2 ^ 64 ∧
      Rows (book.collateralLots.insert r.lot.lotId { r.lot with sequence := 1 })
        book.reservations book next
  | .revalueCollateral r =>
    ∃ lot lot', book.collateralLots.lookup r.lotId = some lot ∧
      lot.sequence = r.expectedLotSequence ∧ lot'.sequence = lot.sequence + 1 ∧
      lot'.ownerLegalEntityId = lot.ownerLegalEntityId ∧ lot'.pledged = lot.pledged ∧
      Rows (book.collateralLots.insert r.lotId lot') book.reservations book next
  | .reserveIntradayLiquidity r =>
    r.reservationId ∉ book.reservations ∧ now < r.expiresAt ∧
      (∃ q, book.positions.lookup r.legalEntityId = some q ∧
        q.exposure + q.overdraft + book.reserved r.legalEntityId now + r.amountYen ≤
          book.collateral r.legalEntityId) ∧ book.collateral r.legalEntityId < 2 ^ 64 ∧
      Rows book.collateralLots (book.reservations.insert r.reservationId
        ⟨r.reservationId, r.legalEntityId, r.instructionCommitment, r.amountYen, r.expiresAt,
          .active, 0⟩) book next
  | .releaseIntradayLiquidity r =>
    ∃ v, book.reservations.lookup r.reservationId = some v ∧
      Rows book.collateralLots
        (book.reservations.insert r.reservationId { v with status := .released }) book next
  | .returnCollateral r =>
    ∃ lot q, book.collateralLots.lookup r.lotId = some lot ∧
      lot.sequence = r.expectedLotSequence ∧ lot.pledged = true ∧
      book.positions.lookup lot.ownerLegalEntityId = some q ∧
      q.exposure + q.overdraft + book.reserved lot.ownerLegalEntityId now + lot.value ≤
        book.collateral lot.ownerLegalEntityId ∧
      book.collateral lot.ownerLegalEntityId < 2 ^ 64 ∧
      Rows (book.collateralLots.insert r.lotId
        { lot with pledged := false, sequence := lot.sequence + 1 }) book.reservations book next
  | .applyFundsReceipt r =>
    r.receiptId ∉ book.appliedFundsReceipts ∧
      next.appliedFundsReceipts = insert r.receiptId book.appliedFundsReceipts ∧
      ∃ q, book.positions.lookup r.legalEntityId = some q ∧
        Puts r.legalEntityId ⟨q.balance + (r.amountYen - min q.overdraft r.amountYen), q.exposure,
          q.overdraft - min q.overdraft r.amountYen⟩ book next
  | .updateOtherSecuredExposure r =>
    ∃ q, book.positions.lookup r.legalEntityId = some q ∧
      (r.newExposureYen ≤ q.exposure ∨ r.newExposureYen + q.overdraft +
        book.reserved r.legalEntityId now ≤ book.collateral r.legalEntityId) ∧
      Puts r.legalEntityId ⟨q.balance, r.newExposureYen, q.overdraft⟩ book next ∧
      next.appliedFundsReceipts = book.appliedFundsReceipts
  | .openBusinessDay r =>
    Rows book.collateralLots (book.releaseAll r.legalEntityId).reservations book next
  | .settleSimultaneousCollateralDvp r =>
    ∃ buyer seller lot consumed, Delivers r now buyer seller lot consumed book next
  | .endBusinessDay r =>
    Rows book.collateralLots (book.releaseAll r.legalEntityId).reservations book next

variable {r : SimultaneousCollateralDvp} {p : BojParticipant} {headroom : ℕ} {u : Unit}

theorem availableHeadroom_ok (h : book.availableHeadroom entity now = .ok headroom) :
    ∃ q, book.positions.lookup entity = some q ∧ headroom = book.collateral entity -
      (q.exposure + q.overdraft + book.reserved entity now) ∧ book.collateral entity < 2 ^ 64 := by
  simp only [availableHeadroom, ok_iff] at h
  obtain ⟨p, hp, required, hrequired, worth, hworth, rfl⟩ := h
  obtain ⟨rfl, _⟩ := required_ok hrequired
  obtain ⟨rfl, hlt⟩ := collateralValue_ok hworth
  exact ⟨p.position, position_of_lookup hp, rfl, hlt⟩

theorem coversIncrease_ok {r : UpdateOtherSecuredExposure}
    {requiredAfter : ℕ} (h : book.coversIncrease p r requiredAfter = .ok u) :
    r.newExposureYen ≤ p.otherSecuredExposureYen ∨
      requiredAfter ≤ book.collateral r.legalEntityId := by
  unfold coversIncrease at h
  split at h
  · simp only [ok_iff] at h
    obtain ⟨worth, hworth, hle⟩ := h
    rw [(collateralValue_ok hworth).1] at hle
    exact .inr hle
  · exact .inl (by omega)

theorem namedReservation_ok {draw : ℕ}
    {named : Option IntradayReservation × ℕ} (h : book.namedReservation r draw now = .ok named) :
    named = (none, 0) ∨ ∃ v, named = (some v, v.amountYen) ∧
      book.reservations.lookup r.overdraftReservationId = some v ∧
      v.legalEntityId = r.buyerLegalEntityId ∧ v.isLive now = true ∧ draw ≤ v.amountYen := by
  unfold namedReservation at h
  split at h
  · simp only [ok_iff] at h
    obtain ⟨v, hv, hmatch, rfl⟩ := h
    exact .inr ⟨v, rfl, hv, hmatch.1, hmatch.2.2⟩
  · rw [pure_eq_ok] at h
    exact .inl h.symm

theorem checkBuyer_ok {draw lotValue consumed : ℕ}
    (h : book.checkBuyer r p draw lotValue consumed now = .ok u) :
    p.position.exposure + p.position.overdraft + draw + book.reserved r.buyerLegalEntityId now ≤
        book.collateral r.buyerLegalEntityId +
          (if r.buyerPledgesOnReceipt then lotValue else 0) + consumed ∧
      book.collateral r.buyerLegalEntityId +
        (if r.buyerPledgesOnReceipt then lotValue else 0) < 2 ^ 64 := by
  simp only [checkBuyer, ok_iff, bind_eq_bind, bind_eq_some_iff, checkedAdd_eq_some,
    checkedSub_eq_some] at h
  obtain ⟨worth, hworth, _, ⟨rfl, hbound⟩, reserved, hreserved, _, ⟨hle, rfl⟩, _, ⟨_, ⟨rfl, _⟩, _,
    ⟨rfl, _⟩, rfl, _⟩, _, hcovered⟩ := h
  obtain ⟨rfl, _⟩ := collateralValue_ok hworth
  obtain ⟨rfl, _⟩ := liveReserved_ok hreserved
  simp only [position]
  exact ⟨by omega, hbound⟩

theorem checkSeller_ok {lot : JgbCollateralLot} {repayment lotValue : ℕ}
    (h : book.checkSeller r p lot repayment lotValue now = .ok u) :
    p.position.exposure + (p.position.overdraft - repayment) +
        book.reserved r.sellerLegalEntityId now + (if lot.pledged then lotValue else 0) ≤
      book.collateral r.sellerLegalEntityId ∧ book.collateral r.sellerLegalEntityId < 2 ^ 64 := by
  simp only [checkSeller, ok_iff, checkedSub_eq_some] at h
  obtain ⟨worth, hworth, _, ⟨hle, rfl⟩, required, hrequired, hcovered⟩ := h
  obtain ⟨rfl, hbound⟩ := collateralValue_ok hworth
  obtain ⟨rfl, _⟩ := required_ok hrequired
  simp only [position]
  exact ⟨by omega, hbound⟩

theorem bumped_eq_ok {n m : ℕ} (h : bumped n = .ok m) : m = n + 1 := by
  simp only [bumped, okOr_eq_ok, checkedAdd_eq_some] at h
  exact h.1.symm

theorem checkSequence_eq_ok {a b : ℕ} : checkSequence a b = .ok u ↔ a = b := require_eq_ok

theorem deliver_ok {buyer seller : BojParticipant} {lot : JgbCollateralLot}
    {v : Option IntradayReservation} {draw repayment : ℕ} {outcome : DvpOutcome}
    (h : book.deliver r buyer seller lot v draw repayment = .ok (outcome, next)) :
    next.participants = (book.participants.insert r.buyerLegalEntityId
        { buyer with
          currentAccountBalanceYen := buyer.currentAccountBalanceYen + draw - r.paymentYen
          intradayOverdraftYen := buyer.intradayOverdraftYen + draw
          sequence := buyer.sequence + 1 }).insert r.sellerLegalEntityId
        { seller with
          currentAccountBalanceYen := seller.currentAccountBalanceYen + (r.paymentYen - repayment)
          intradayOverdraftYen := seller.intradayOverdraftYen - repayment
          sequence := seller.sequence + 1 } ∧
      next.collateralLots = book.collateralLots.insert r.lotId
        { lot with
          ownerLegalEntityId := r.buyerLegalEntityId
          pledged := r.buyerPledgesOnReceipt
          sequence := lot.sequence + 1 } ∧
      next.reservations = (book.consume v r.overdraftReservationId draw).reservations ∧
      next.appliedFundsReceipts = book.appliedFundsReceipts := by
  simp only [deliver, ok_iff, bind_eq_bind, bind_eq_some_iff, checkedAdd_eq_some,
    checkedSub_eq_some, Prod.mk.injEq] at h
  obtain ⟨_, ⟨_, ⟨rfl, _⟩, _, rfl⟩, _, ⟨rfl, _⟩, _, ⟨rfl, _⟩, _, hm, _, hn, _, hk, _, rfl⟩ := h
  obtain rfl := bumped_eq_ok hm
  obtain rfl := bumped_eq_ok hn
  obtain rfl := bumped_eq_ok hk
  cases v <;> exact ⟨rfl, rfl, rfl, rfl⟩

theorem perform_inner {call : ℕ × BojOp} {outcome : BojOutcome}
    (h : perform call book = (.ok outcome, next)) :
    book.inner call.1 call.2 = .ok (outcome, next) ∧ next.validate = .ok () := by
  unfold perform at h
  split at h
  · next result after hatomic =>
    cases h
    simp only [atomic, ok_iff] at hatomic
    obtain ⟨_, hinner, hvalid, rfl⟩ := hatomic
    exact ⟨hinner, hvalid⟩
  · cases h

theorem perform_restores {call : ℕ × BojOp} {e : String}
    (h : perform call book = (.error e, next)) : next = book := by
  unfold perform at h
  split at h
  · cases h
  · cases h
    rfl

end BojLiquidityBook
end DeFMI.Boj
