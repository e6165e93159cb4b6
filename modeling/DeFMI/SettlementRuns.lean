import DeFMI.LedgerRuns
import DeFMI.Settlement
set_option autoImplicit false

/-!
Histories of the delivery-versus-payment facade: settlements, mixed with any
calls on either rail's own ledger.
-/

namespace DeFMI
open Lib InPlace Ledger

inductive DefmiOp (V Sig : Type) where
  | settle (package : DvpPackage V)
  | securities (op : LedgerOp V Sig)
  | cash (op : LedgerOp V Sig)

/-- What the venue, which is not part of this repository, is relied on for: it
settles what it has just verified, it records what it settles, and it refuses a
recorded nullifier. -/
structure VenueLaws {V Ven : Type} (api : VenueApi V Ven) (recorded : Ven → Bytes → Prop) :
    Prop where
  settles : ∀ venue i now, api.verify venue i now = .ok () →
    ∃ venue', api.settle venue i now = .ok venue'
  records : ∀ venue venue' i now, api.settle venue i now = .ok venue' →
    recorded venue' (api.nullifier i)
  keeps : ∀ venue venue' i now nullifier, api.settle venue i now = .ok venue' →
    recorded venue nullifier → recorded venue' nullifier
  refuses : ∀ venue i now, recorded venue (api.nullifier i) → api.verify venue i now ≠ .ok ()

namespace Defmi

variable {V Ven Sig : Type} [AddCommGroup V] [DecidableEq V] [Module Scalar V]

def perform (api : VenueApi V Ven) (issuance : IssuanceVerifier V)
    (verify : Verifier V Sig) (call : ℕ × DefmiOp V Sig) : InPlace (Defmi V Ven) Unit :=
  match call.2 with
  | .settle package => fun d =>
    match d.settle api package call.1 with
    | some (d', receipt) => (receipt.status, d')
    | none => (.error "panic", d)
  | .securities op =>
    zoom Defmi.securities (fun d securities => { d with securities })
      (Ledger.perform issuance verify (call.1, op))
  | .cash op =>
    zoom Defmi.cash (fun d cash => { d with cash })
      (Ledger.perform issuance verify (call.1, op))

def spends (api : VenueApi V Ven) (nullifier : Bytes)
    (step : Step (Defmi V Ven) (ℕ × DefmiOp V Sig)) : Bool :=
  match step.op.2 with
  | .settle package => api.nullifier package.instruction = nullifier
  | _ => false

section Settle

variable {api : VenueApi V Ven} {recorded : Ven → Bytes → Prop} {d d' : Defmi V Ven}
  {package : DvpPackage V} {now : ℕ}

theorem apply_of_check (laws : VenueLaws api recorded) (h : d.check api package now = .ok ()) :
    ∃ d', d.apply api package now = some d' := by
  simp only [check, verifyPackageLegsForSides, ok_iff] at h
  obtain ⟨hverify, _, ⟨_, hsecurities, _, hcash⟩, _⟩ := h
  obtain ⟨securities, hs⟩ := applyTransfer_of_open package.securitiesFrom
    package.securitiesLeg hsecurities
  obtain ⟨cash, hc⟩ := applyTransfer_of_open package.cashFrom package.cashLeg hcash
  obtain ⟨venue, hv⟩ := laws.settles d.venue package.instruction now hverify
  refine ⟨{ d with securities, cash, venue }, ?_⟩
  simp only [apply, hs, hc, hv]
  rfl

theorem conserved_applyTransfer {l m : Ledger V} {payer payee context : Bytes}
    {transfer : Transfer V} {bounded : Bool} {u : Unit}
    (hc : l.checkTransfer payer transfer context bounded = .ok u)
    (ha : l.applyTransfer payer payee transfer = some m) : m.conserved = l.conserved := by
  obtain ⟨hbooked, hpending, hminted⟩ := applyTransfer_booked hc ha
  have hworth : m.worth = l.worth := by simp only [worth, held, hbooked, hpending]
  rw [Bool.eq_iff_iff, conserved_iff, conserved_iff, hworth, hminted]

theorem settle_error {message : String} (h : d.check api package now = .error message) :
    d.settle api package now = some (d, d.receipt d (.error message)) := by
  simp only [settle, h]

theorem settle_venue {r : Receipt V} (hs : d.settle api package now = some (d', r))
    (hok : r.status = .ok ()) :
    api.verify d.venue package.instruction now = .ok () ∧
      api.settle d.venue package.instruction now = .ok d'.venue := by
  obtain ⟨hcheck, happly⟩ := settle_ok hs hok
  refine ⟨(check_ok hcheck).1, ?_⟩
  simp only [apply, Option.bind_eq_bind, Option.bind_eq_some_iff, Option.some.injEq] at happly
  obtain ⟨_, _, _, _, venue, hvenue, rfl⟩ := happly
  cases hv : api.settle d.venue package.instruction now with
  | ok => rw [hv] at hvenue; cases hvenue; rfl
  | error => rw [hv] at hvenue; cases hvenue

theorem settle_error_same {r : Receipt V} {e : String}
    (hs : d.settle api package now = some (d', r)) (he : r.status = .error e) : d' = d := by
  cases hc : d.check api package now with
  | ok =>
    simp only [settle, hc, Option.map_eq_some_iff, Prod.mk.injEq] at hs
    obtain ⟨_, _, _, rfl⟩ := hs
    cases he
  | error =>
    rw [settle_error hc] at hs
    cases hs
    rfl

end Settle

section Runs

variable {api : VenueApi V Ven} {recorded : Ven → Bytes → Prop} {d d' : Defmi V Ven}
  {issuance : IssuanceVerifier V} {verify : Verifier V Sig}

theorem perform_venue {call : ℕ × DefmiOp V Sig} {result : Check}
    (h : perform api issuance verify call d = (result, d')) :
    (d'.venue = d.venue ∧ ∀ package, call.2 = .settle package → result ≠ .ok ()) ∨
      ∃ package receipt, call.2 = .settle package ∧
        d.settle api package call.1 = some (d', receipt) ∧ receipt.status = .ok () ∧
        result = .ok () := by
  obtain ⟨now, op⟩ := call
  cases op with
  | settle package =>
    simp only [perform] at h
    cases hs : d.settle api package now with
    | none => rw [hs] at h; cases h; exact .inl ⟨rfl, by simp⟩
    | some settled =>
      obtain ⟨settled, receipt⟩ := settled
      rw [hs] at h
      obtain ⟨rfl, rfl⟩ := Prod.mk.inj h
      cases hstatus : receipt.status with
      | ok => exact .inr ⟨package, receipt, rfl, hs, hstatus, rfl⟩
      | error => exact .inl ⟨by rw [settle_error_same hs hstatus], by simp⟩
  | securities | cash => cases h; exact .inl ⟨rfl, by simp⟩

theorem spends_at_most_once (laws : VenueLaws api recorded) (nullifier : Bytes)
    (calls : List (ℕ × DefmiOp V Sig)) :
    (history (perform api issuance verify) d calls).countP (spends api nullifier) ≤ 1 := by
  -- the venue's book is what remembers, so nothing else about the state matters
  refine (countP_history_le_one (fun _ => True) (fun d => recorded d.venue nullifier)
    (spends api nullifier) ?_ ?_ calls trivial).1
  · intro s call u t _ h
    rcases perform_venue h with ⟨hsame, hother⟩ | ⟨package, receipt, hcall, hsettle, hstatus, _⟩
    · refine ⟨trivial, fun hspent => hsame ▸ hspent, ?_⟩
      intro hspends
      unfold spends at hspends
      split at hspends
      · next package hcall => exact absurd rfl (hother package hcall)
      · cases hspends
    · obtain ⟨hverify, hsettled⟩ := settle_venue hsettle hstatus
      refine ⟨trivial, laws.keeps _ _ _ _ nullifier hsettled, ?_⟩
      intro hspends
      obtain rfl : api.nullifier package.instruction = nullifier := by
        simpa [spends, hcall] using hspends
      exact ⟨fun hspent => laws.refuses _ _ _ hspent hverify, laws.records _ _ _ _ hsettled⟩
  · intro s call e t _ h
    rcases perform_venue h with ⟨hsame, _⟩ | ⟨_, _, _, _, _, hok⟩
    · exact ⟨trivial, fun hspent => hsame ▸ hspent⟩
    · cases hok

/-- A settlement applies both legs or nothing, either way leaves each rail as
conserved as it was, and never panics; and no history settles a nullifier twice. -/
theorem settle_all_or_nothing (laws : VenueLaws api recorded) :
    (∀ (d : Defmi V Ven) package now, ∃ d' receipt,
      d.settle api package now = some (d', receipt) ∧
        (receipt.status = .ok () ∧
            d.securities.applyTransfer package.securitiesFrom package.securitiesTo
              package.securitiesLeg = some d'.securities ∧
            d.cash.applyTransfer package.cashFrom package.cashTo package.cashLeg =
              some d'.cash ∨
          (∃ e, receipt.status = .error e) ∧ d'.securities = d.securities ∧ d'.cash = d.cash) ∧
        d'.securities.conserved = d.securities.conserved ∧
        d'.cash.conserved = d.cash.conserved) ∧
      ∀ (d : Defmi V Ven) (calls : List (ℕ × DefmiOp V Sig)) nullifier,
        (history (perform api issuance verify) d calls).countP
          (spends api nullifier) ≤ 1 := by
  refine ⟨?_, fun d calls nullifier => spends_at_most_once laws nullifier calls⟩
  intro d package now
  cases hc : d.check api package now with
  | error message =>
    exact ⟨d, _, settle_error hc, Or.inr ⟨⟨message, rfl⟩, rfl, rfl⟩, rfl, rfl⟩
  | ok =>
    obtain ⟨d', happly⟩ := apply_of_check laws hc
    obtain ⟨hsecurities, hcash⟩ := apply_some happly
    obtain ⟨_, _, _, hschecked, hcchecked, _⟩ := check_ok hc
    exact ⟨d', _, settle_of_check hc happly, Or.inl ⟨rfl, hsecurities, hcash⟩,
      conserved_applyTransfer hschecked hsecurities, conserved_applyTransfer hcchecked hcash⟩

end Runs

section Sample

def bookApi : VenueApi Plane (List Bytes) where
  verify book i _ := require (i = sampleInstruction ∧ i.envelope ∉ book) "refused"
  settle book i _ := .ok (i.envelope :: book)
  accountOf := sampleApi.accountOf
  nullifier i := i.envelope

theorem bookApi_laws : VenueLaws bookApi (fun book nullifier => nullifier ∈ book) where
  settles _ _ _ _ := ⟨_, rfl⟩
  records _ _ i _ h := by cases h; exact List.mem_cons_self
  keeps _ _ _ _ _ h hmem := by cases h; exact List.mem_cons_of_mem _ hmem
  refuses _ _ _ hmem h := (require_eq_ok.mp h).2 hmem

def bookDefmi : Defmi Plane (List Bytes) where
  key := planeKey
  securities := sampleDefmi.securities
  cash := sampleDefmi.cash
  venue := []

theorem settle_all_or_nothing_sample :
    (history (perform bookApi (fun _ _ _ => true) (fun _ _ (_ : Unit) => true)) bookDefmi
        [(0, .settle plainPackage), (0, .settle plainPackage)]).length = 1 ∧
      (history (perform bookApi (fun _ _ _ => true) (fun _ _ (_ : Unit) => true)) bookDefmi
        [(0, .settle plainPackage), (0, .settle plainPackage)]).countP (spends bookApi []) ≤ 1 :=
  ⟨by decide +kernel, (settle_all_or_nothing bookApi_laws).2 bookDefmi _ []⟩

end Sample
end Defmi
end DeFMI
