import DeFMI.Netting
set_option autoImplicit false

/-!
Whole netting cycles. On two net rails it does not matter in which order the orders
arrive: acceptance looks at no position, and the moves commute.
-/

namespace DeFMI.Netting
open Lib InPlace List PositionBook Move

/-- What the venue, which is not part of this repository, is relied on for: it accepts by
the instruction, the time and whether the nullifier was settled, it settles what it
accepts, and settling records that nullifier and no other. -/
structure VenueJudges {V Ven : Type} (api : VenueApi V Ven) (settled : Ven → Bytes → Prop) :
    Prop where
  settles : ∀ venue i now, api.verify venue i now = .ok () →
    ∃ venue', api.settle venue i now = .ok venue'
  records : ∀ venue venue' i now, api.settle venue i now = .ok venue' →
    ∀ nullifier, settled venue' nullifier ↔ nullifier = api.nullifier i ∨ settled venue nullifier
  depends : ∀ venue venue' i now,
    (settled venue (api.nullifier i) ↔ settled venue' (api.nullifier i)) →
      (api.verify venue i now = .ok () ↔ api.verify venue' i now = .ok ())

inductive Rail where
  | securities
  | cash
  deriving DecidableEq

inductive CycleOp (V : Type) where
  | open (rail : Rail) (handle : Bytes) (commitment : V)
  | grant (rail : Rail) (ctx : CreditCtx V) (line : CreditLine V)
  | admitOrder (order : Order V) (now : ℕ)
  | close (securities cash : List (Coverage V)) (attestation : Option (BatchAttestation V))

namespace Cycle

variable {V Ven : Type}

def book (c : Cycle V Ven) : Rail → PositionBook V
  | .securities => c.securities
  | .cash => c.cash

def setBook (c : Cycle V Ven) (rail : Rail) (book : PositionBook V) : Cycle V Ven :=
  match rail with
  | .securities => { c with securities := book }
  | .cash => { c with cash := book }

def Started (c : Cycle V Ven) : Prop :=
  ∃ key id mode securities cash venue attestBatch quorum,
    (∃ key tag net rail bits, PositionBook.new key tag net rail bits = some securities) ∧
    (∃ key tag net rail bits, PositionBook.new key tag net rail bits = some cash) ∧
    Cycle.new key id mode securities cash venue attestBatch quorum = .ok c

variable [AddCommGroup V] [Module Scalar V] [DecidableEq V]

def perform (api : VenueApi V Ven) (attests : Bytes → BatchDigest V → Bytes → Bool) :
    CycleOp V → InPlace (Cycle V Ven) Unit
  | .open rail handle commitment =>
    update fun c => ((c.book rail).open handle commitment).map (c.setBook rail)
  | .grant rail ctx line =>
    update fun c => ((c.book rail).grant ctx line).map (c.setBook rail)
  | .admitOrder order now => admitOrder api order now
  | .close securities cash attestation => close attests securities cash attestation

def Reachable (api : VenueApi V Ven) (attests : Bytes → BatchDigest V → Bytes → Bool)
    (c : Cycle V Ven) : Prop :=
  ∃ start ops, Started start ∧ InPlace.run (perform api attests) start ops = c

end Cycle

/-- The leg runs between these handles, or moves nothing. -/
def Leg.Names {V : Type} [Zero V] (leg : Leg V) (payer payee : Bytes) : Prop :=
  leg.delta = 0 ∨ leg.payer = payer ∧ leg.payee = payee

namespace PositionBook

variable {V : Type} [AddCommGroup V] {book after : PositionBook V} {ms : List (Move Bytes V)}

structure Balanced (book : PositionBook V) : Prop where
  handles : ∀ handle, handle ∈ book.positions ↔ handle ∈ book.opening
  total : book.positions.total (fun _ position => position) =
    book.opening.total (fun _ position => position)

theorem Balanced.conserved [DecidableEq V] (h : book.Balanced) : book.conserved = true := by
  simp [PositionBook.conserved, h.total]

theorem balanced_new {key : Pedersen V} {tag : BlindedTag V} {net : Bool} {rail : String} {bits : ℕ}
    (h : new key tag net rail bits = some book) : book.Balanced := by
  unfold new at h
  split at h
  · cases h
    exact ⟨fun _ => Iff.rfl, rfl⟩
  · cases h

theorem Balanced.open {handle : Bytes} {commitment : V} (hb : book.Balanced)
    (h : book.open handle commitment = .ok after) : after.Balanced := by
  simp only [PositionBook.open, ok_iff] at h
  obtain ⟨hfresh, rfl⟩ := h
  have hfresh' : handle ∉ book.positions := fun hmem => hfresh ((hb.handles handle).mp hmem)
  constructor
  · intro handle'
    simp only [AList.mem_insert, hb.handles]
  · simp only [Table.total_insert_of_not_mem _ hfresh, Table.total_insert_of_not_mem _ hfresh',
      hb.total]

theorem Balanced.shifted (hb : book.Balanced) (h : Shifted book after ms) : after.Balanced := by
  have hopening : after.opening = book.opening := by rw [h.rest]
  exact ⟨fun handle => by rw [h.mem_iff, hopening, hb.handles], by rw [h.total, hopening, hb.total]⟩

variable [Module Scalar V]

def Pays (book after : PositionBook V) (payer payee : Bytes) (amount : V) : Prop :=
  ∀ handle, after.positions.lookup handle =
    (book.positions.lookup handle).map (· + (Move.mk payer payee amount).effect handle)

theorem pays_iff {leg : Leg V} {payer payee : Bytes} (hne : leg.payer ≠ leg.payee)
    (h : book.apply leg = some after) :
    book.Pays after payer payee leg.delta ↔ leg.Names payer payee := by
  have hshift := Shifted.of_apply hne h
  obtain ⟨_, hmove, _⟩ := apply_eq_some.mp h
  obtain ⟨paid, received, hpaid, hreceived, _⟩ := Table.move_eq_some.mp hmove
  constructor
  · intro hpays
    have hat : ∀ handle position, book.positions.lookup handle = some position →
        leg.move.effect handle = (Move.mk payer payee leg.delta).effect handle := by
      intro handle position hposition
      have hsame := (hshift.lookup handle).symm.trans (hpays handle)
      rw [hposition, Option.map_some, Option.map_some, Option.some.injEq, effects_singleton] at hsame
      exact add_left_cancel hsame
    have hodd : leg.delta + leg.delta = 0 → leg.delta = 0 := by
      intro hdouble
      rw [← two_smul Scalar] at hdouble
      exact (smul_eq_zero.mp hdouble).resolve_left (by decide)
    rcases eq_or_eq_of_effect_eq (m := leg.move) (n := ⟨payer, payee, leg.delta⟩) hne rfl hodd
      (hat _ _ hpaid) (hat _ _ hreceived) with hzero | heq
    · exact Or.inl hzero
    · exact Or.inr ⟨congrArg Move.payer heq, congrArg Move.payee heq⟩
  · rintro (hzero | ⟨rfl, rfl⟩) handle
    · rw [hshift.lookup]
      simp [effect, Leg.move, hzero]
    · rw [hshift.lookup, effects_singleton]
      rfl

variable [DecidableEq V]

theorem grant_ok {ctx : CreditCtx V} {line : CreditLine V} (h : book.grant ctx line = .ok after) :
    line.handle ∈ book.positions ∧ line.rail = book.rail ∧ ctx.check line = .ok () ∧
      after = { book with credit := book.credit.insert line.handle line } := by
  simp only [grant, ok_iff] at h
  obtain ⟨hmem, hrail, hcheck, rfl⟩ := h
  exact ⟨hmem, hrail, hcheck, rfl⟩

theorem Balanced.grant {ctx : CreditCtx V} {line : CreditLine V} (hb : book.Balanced)
    (h : book.grant ctx line = .ok after) : after.Balanced := by
  obtain ⟨_, _, _, rfl⟩ := grant_ok h
  exact ⟨hb.handles, hb.total⟩

theorem checkClose_covers {coverage : List (Coverage V)} {u : Unit} (hnet : book.net = true)
    (h : book.checkClose coverage = .ok u) {handle : Bytes} {position : V}
    (hp : book.positions.lookup handle = some position) :
    book.bits ≤ 64 ∧
      ∃ n, n < 2 ^ book.bits ∧ Holds book.tag.point book.key.h (position + book.cap handle) n := by
  simp only [checkClose, hnet, if_true, ok_iff, forEach_eq_ok, forall_const] at h
  obtain ⟨hhandles, hall⟩ := h
  have hkey : handle ∈ (coverage.map Coverage.handle).toFinset := by
    rw [hhandles, mem_toFinset]
    exact Table.mem_of_lookup hp
  obtain ⟨item, hitem, rfl⟩ := mem_map.mp (mem_toFinset.mp hkey)
  have hitem := hall item hitem
  simp only [checkCoverage, ok_iff] at hitem
  obtain ⟨position', hp', hcommitment, hproof⟩ := hitem
  obtain rfl : position = position' := Option.some.inj (hp.symm.trans hp')
  rw [hcommitment] at hproof
  exact RangeProof.verifyMultiple_single hproof

end PositionBook

namespace Cycle

variable {V Ven : Type} [AddCommGroup V] {api : VenueApi V Ven}
  {attests : Bytes → BatchDigest V → Bytes → Bool} {settled : Ven → Bytes → Prop}
  {c t : Cycle V Ven} {order : Order V} {now : ℕ} {u : Unit}

theorem Moved.shifted (h : Moved c t order) :
    Shifted c.securities t.securities [order.securities.move] ∧
      Shifted c.cash t.cash [order.cash.move] :=
  ⟨.of_apply h.securitiesParties h.securities, .of_apply h.cashParties h.cash⟩

structure Sound (c : Cycle V Ven) : Prop where
  securitiesNet : c.securities.net = c.mode.securitiesNet
  cashNet : c.cash.net = c.mode.cashNet
  securities : c.securities.Balanced
  cash : c.cash.Balanced

theorem Started.sound (h : Started c) : c.Sound := by
  obtain ⟨key, id, mode, securities, cash, venue, attestBatch, quorum, ⟨_, _, _, _, _, hs⟩,
    ⟨_, _, _, _, _, hc⟩, hnew⟩ := h
  simp only [Cycle.new, ok_iff, not_or, not_not] at hnew
  obtain ⟨_, _, ⟨hsnet, hcnet⟩, _, rfl⟩ := hnew
  exact ⟨hsnet, hcnet, balanced_new hs, balanced_new hc⟩

theorem Sound.setBook (h : c.Sound) {rail : Rail} {book : PositionBook V} (hb : book.Balanced)
    (hnet : book.net = (c.book rail).net) : (c.setBook rail book).Sound := by
  cases rail with
  | securities => exact ⟨hnet.trans h.securitiesNet, h.cashNet, hb, h.cash⟩
  | cash => exact ⟨h.securitiesNet, hnet.trans h.cashNet, h.securities, hb⟩

theorem Sound.balanced (h : c.Sound) (rail : Rail) : (c.book rail).Balanced := by
  cases rail with
  | securities => exact h.securities
  | cash => exact h.cash

theorem Sound.refused (h : c.Sound) (ht : SameButRefused c t) : t.Sound := by
  rw [ht]
  exact ⟨h.securitiesNet, h.cashNet, h.securities, h.cash⟩

structure Follows (api : VenueApi V Ven) (settled : Ven → Bytes → Prop) (c t : Cycle V Ven)
    (done : List (Order V)) : Prop where
  rest : t = { c with
    securities := t.securities, cash := t.cash, venue := t.venue, admitted := t.admitted,
    refused := t.refused }
  securities : PositionBook.Shifted c.securities t.securities (done.map fun o => o.securities.move)
  cash : PositionBook.Shifted c.cash t.cash (done.map fun o => o.cash.move)
  admitted : t.admitted = c.admitted + done.length
  settled : ∀ nullifier, nullifier ∉ done.map (fun o => api.nullifier o.instruction) →
    (settled t.venue nullifier ↔ settled c.venue nullifier)

theorem Follows.refl (api : VenueApi V Ven) (settled : Ven → Bytes → Prop) (c : Cycle V Ven) :
    Follows api settled c c [] where
  rest := rfl
  securities := .refl _
  cash := .refl _
  admitted := rfl
  settled _ _ := Iff.rfl

theorem Follows.refused {done : List (Order V)} {last : Cycle V Ven}
    (h : Follows api settled c t done) (hlast : SameButRefused t last) :
    Follows api settled c last done := by
  rw [hlast]
  refine ⟨?_, h.securities, h.cash, h.admitted, h.settled⟩
  rw [h.rest]

section SameOrders

variable {other : Cycle V Ven} {done done' : List (Order V)}

theorem Follows.lookup_eq (h : Follows api settled c t done) (h' : Follows api settled c other done')
    (hperm : done.Perm done') (rail : Rail) (handle : Bytes) :
    (t.book rail).positions.lookup handle = (other.book rail).positions.lookup handle := by
  cases rail with
  | securities =>
    calc t.securities.positions.lookup handle
        = (c.securities.positions.lookup handle).map
            (· + effects (done.map fun o => o.securities.move) handle) :=
          h.securities.lookup handle
      _ = other.securities.positions.lookup handle := by
          rw [effects_perm (hperm.map _), ← h'.securities.lookup handle]
  | cash =>
    calc t.cash.positions.lookup handle
        = (c.cash.positions.lookup handle).map
            (· + effects (done.map fun o => o.cash.move) handle) :=
          h.cash.lookup handle
      _ = other.cash.positions.lookup handle := by
          rw [effects_perm (hperm.map _), ← h'.cash.lookup handle]

theorem Follows.batchDigest_eq (h : Follows api settled c t done)
    (h' : Follows api settled c other done') (hperm : done.Perm done') :
    t.batchDigest = other.batchDigest := by
  have hs := h.securities.snapshot_eq h'.securities (hperm.map _)
  have hcash := h.cash.snapshot_eq h'.cash (hperm.map _)
  have hcount : t.admitted = other.admitted := by rw [h.admitted, h'.admitted, hperm.length_eq]
  have hid : t.id = other.id := by rw [h.rest, h'.rest]
  have hmode : t.mode = other.mode := by rw [h.rest, h'.rest]
  simp only [batchDigest, hid, hmode, hs, hcash, hcount]

end SameOrders

variable [Module Scalar V] [DecidableEq V]

theorem close_ok {securities cash : List (Coverage V)} {attestation : Option (BatchAttestation V)}
    (h : close attests securities cash attestation c = (.ok u, t)) :
    c.securities.checkClose securities = .ok () ∧ c.cash.checkClose cash = .ok () ∧
      t = { c with closed := true } := by
  simp only [close, bind_eq, check_eq, modify_eq] at h
  obtain ⟨_, _, ⟨_, rfl⟩, _, _, ⟨hs, rfl⟩, _, _, ⟨hc, rfl⟩, _, _, ⟨_, rfl⟩, rfl⟩ := h
  exact ⟨hs, hc, rfl⟩

theorem close_restores (securities cash : List (Coverage V))
    (attestation : Option (BatchAttestation V)) :
    Restores (close attests securities cash attestation :
      InPlace (Cycle V Ven) Unit) := by
  iterate 4 refine restores_check_bind fun _ => ?_
  intro s e t h
  cases h

theorem Sound.admitOrder (h : c.Sound) (ht : Cycle.admitOrder api order now c = (.ok u, t)) :
    t.Sound := by
  obtain ⟨_, hmoved, hrest, _⟩ := admitOrder_ok ht
  obtain ⟨hs, hc⟩ := hmoved.shifted
  have hmode : t.mode = c.mode := by rw [hrest]
  refine ⟨?_, ?_, h.securities.shifted hs, h.cash.shifted hc⟩
  · rw [hs.rest, hmode]
    exact h.securitiesNet
  · rw [hc.rest, hmode]
    exact h.cashNet

theorem Sound.perform {op : CycleOp V} (h : c.Sound)
    (ht : Cycle.perform api attests op c = (.ok u, t)) : t.Sound := by
  cases op with
  | «open» rail handle commitment =>
    simp only [Cycle.perform, ran_iff, map_eq_ok] at ht
    obtain ⟨book, hbook, rfl⟩ := ht
    refine h.setBook ((h.balanced rail).open hbook) ?_
    simp only [PositionBook.open, ok_iff] at hbook
    obtain ⟨_, rfl⟩ := hbook
    rfl
  | grant rail ctx line =>
    simp only [Cycle.perform, ran_iff, map_eq_ok] at ht
    obtain ⟨book, hbook, rfl⟩ := ht
    refine h.setBook ((h.balanced rail).grant hbook) ?_
    obtain ⟨_, _, _, rfl⟩ := grant_ok hbook
    rfl
  | admitOrder => exact h.admitOrder ht
  | close =>
    obtain ⟨_, _, rfl⟩ := close_ok ht
    exact ⟨h.securitiesNet, h.cashNet, h.securities, h.cash⟩

theorem perform_error (laws : VenueJudges api settled) {op : CycleOp V} {e : String}
    (h : perform api attests op c = (.error e, t)) : SameButRefused c t := by
  cases op with
  | «open» rail handle commitment =>
    simp only [perform] at h
    obtain rfl := restores_update _ _ _ _ h
    rfl
  | grant =>
    simp only [perform] at h
    obtain rfl := restores_update _ _ _ _ h
    rfl
  | admitOrder => exact admitOrder_error laws.settles h
  | close securities cash attestation =>
    obtain rfl := close_restores securities cash attestation _ _ _ h
    rfl

theorem Reachable.sound (laws : VenueJudges api settled) (h : Reachable api attests c) :
    c.Sound := by
  obtain ⟨start, ops, hstart, rfl⟩ := h
  exact run_invariant (fun _ _ _ _ hs h => hs.perform h)
    (fun _ _ _ _ hs h => hs.refused (perform_error laws h)) ops hstart.sound

theorem Follows.admitOrder (laws : VenueJudges api settled) {done : List (Order V)}
    {last : Cycle V Ven} (h : Follows api settled c t done)
    (hlast : Cycle.admitOrder api order now t = (.ok u, last)) :
    Follows api settled c last (done ++ [order]) := by
  obtain ⟨_, hmoved, hrest, hvenue⟩ := admitOrder_ok hlast
  constructor
  · rw [hrest, h.rest]
  · rw [map_append]
    exact h.securities.apply hmoved.securitiesParties hmoved.securities
  · rw [map_append]
    exact h.cash.apply hmoved.cashParties hmoved.cash
  · rw [hrest, length_append, length_singleton, ← Nat.add_assoc, h.admitted]
  · grind [Follows, VenueJudges]

theorem Follows.admits_iff (laws : VenueJudges api settled) {done : List (Order V)}
    (hs : c.securities.net = true) (hc : c.cash.net = true) (h : Follows api settled c t done)
    (hfresh : api.nullifier order.instruction ∉ done.map fun o => api.nullifier o.instruction) :
    t.Admits api order now ↔ c.Admits api order now := by
  have hattest : t.attestBatch = c.attestBatch := by rw [h.rest]
  have hkey : t.key = c.key := by rw [h.rest]
  have hverify := laws.depends t.venue c.venue order.instruction now (h.settled _ hfresh)
  have hlinks : t.linksHold order = c.linksHold order := by
    simp only [linksHold, hkey, h.securities.linkHolds_eq, h.cash.linkHolds_eq]
  simp only [Admits, hattest, h.securities.checkParties_eq, h.cash.checkParties_eq, judge_eq_ok,
    h.securities.check_eq hs, h.cash.check_eq hc, hlinks, hverify]

def admitAt (api : VenueApi V Ven) (now : ℕ) (order : Order V) : InPlace (Cycle V Ven) Unit :=
  Cycle.admitOrder api order now

def accepts (api : VenueApi V Ven) (c : Cycle V Ven) (now : ℕ) (order : Order V) : Bool :=
  (admitAt api now order c).1.isOk

theorem accepts_iff (laws : VenueJudges api settled) :
    accepts api c now order = true ↔ c.closed = false ∧ c.Admits api order now := by
  constructor
  · intro h
    cases hrun : admitAt api now order c with
    | mk result t =>
      cases result with
      | ok => exact ⟨(admitOrder_ok hrun).1, admits_of_ok hrun⟩
      | error => simp [accepts, hrun, Except.isOk, Except.toBool] at h
  · rintro ⟨hopen, hadmits⟩
    obtain ⟨t, ht⟩ := admitOrder_of_admits laws.settles hopen hadmits
    simp [accepts, admitAt, ht, Except.isOk, Except.toBool]

def taken (api : VenueApi V Ven) (c : Cycle V Ven) (now : ℕ) (orders : List (Order V)) :
    List (Order V) :=
  (history (admitAt api now) c orders).map fun step => step.op

theorem Follows.run (laws : VenueJudges api settled) (now : ℕ) (hs : c.securities.net = true)
    (hc : c.cash.net = true) {done : List (Order V)} (h : Follows api settled c t done)
    {orders : List (Order V)}
    (hnodup : ((done ++ orders).map fun o => api.nullifier o.instruction).Nodup) :
    taken api t now orders = orders.filter (accepts api c now) ∧
      Follows api settled c (InPlace.run (admitAt api now) t orders)
        (done ++ orders.filter (accepts api c now)) := by
  induction orders generalizing t done with
  | nil => exact ⟨rfl, by simpa [InPlace.run] using h⟩
  | cons order orders ih =>
    have hclosed : t.closed = c.closed := by rw [h.rest]
    have hfresh : api.nullifier order.instruction ∉
        done.map fun o => api.nullifier o.instruction := by
      rw [map_append, map_cons, nodup_append] at hnodup
      exact fun hmem => hnodup.2.2 _ hmem _ mem_cons_self rfl
    have hsame : accepts api t now order = accepts api c now order := by
      rw [Bool.eq_iff_iff, accepts_iff laws, accepts_iff laws, hclosed,
        h.admits_iff laws hs hc hfresh]
    cases hrun : admitAt api now order t with
    | mk result last =>
      cases result with
      | ok =>
        have haccepts : accepts api c now order = true := by
          rw [← hsame]
          simp [accepts, hrun, Except.isOk, Except.toBool]
        have hnext : ((done ++ [order] ++ orders).map fun o => api.nullifier o.instruction).Nodup := by
          rwa [append_assoc, singleton_append]
        obtain ⟨htaken, hfollows⟩ := ih (h.admitOrder laws hrun) hnext
        rw [run_cons_eq hrun, filter_cons_of_pos haccepts]
        refine ⟨?_, by simpa using hfollows⟩
        simpa [taken, history_cons_ok hrun] using htaken
      | error =>
        have haccepts : ¬accepts api c now order = true := by
          rw [← hsame]
          simp [accepts, hrun, Except.isOk, Except.toBool]
        have hnext : ((done ++ orders).map fun o => api.nullifier o.instruction).Nodup := by
          refine hnodup.sublist (Sublist.map _ ?_)
          exact Sublist.append_left (sublist_cons_self _ _) _
        obtain ⟨htaken, hfollows⟩ := ih (h.refused (admitOrder_error laws.settles hrun)) hnext
        rw [run_cons_eq hrun, filter_cons_of_neg haccepts]
        refine ⟨?_, hfollows⟩
        simpa [taken, history_cons_error hrun] using htaken

def Covered (c : Cycle V Ven) : Prop :=
  ∀ rail handle position, (c.book rail).positions.lookup handle = some position →
    ∃ n, n < 2 ^ (c.book rail).bits ∧
      Holds (c.book rail).tag.point (c.book rail).key.h (position + (c.book rail).cap handle) n

theorem covered_of_close {securities cash : List (Coverage V)}
    {attestation : Option (BatchAttestation V)} (hs : c.securities.net = true)
    (hc : c.cash.net = true) (h : close attests securities cash attestation c = (.ok u, t)) :
    t.Covered := by
  obtain ⟨hsecurities, hcash, rfl⟩ := close_ok h
  intro rail handle position hp
  cases rail with
  | securities => exact (checkClose_covers hs hsecurities hp).2
  | cash => exact (checkClose_covers hc hcash hp).2

/-- A net-net cycle does not depend on the order in which orders arrive. -/
theorem netting_order_independent (laws : VenueJudges api settled) (hc : Reachable api attests c)
    (hmode : c.mode = .netNet) (now : ℕ) {orders others : List (Order V)}
    (hperm : orders.Perm others)
    (hnodup : (orders.map fun o => api.nullifier o.instruction).Nodup) :
    let ending := InPlace.run (admitAt api now) c orders
    let other := InPlace.run (admitAt api now) c others
    (taken api c now orders).Perm (taken api c now others) ∧
      (∀ rail handle, (ending.book rail).positions.lookup handle =
        (other.book rail).positions.lookup handle) ∧
      ending.batchDigest = other.batchDigest ∧
      (∀ (d d' : Cycle V Ven) (order : Order V) (now : ℕ) (e : String),
        Cycle.admitOrder api order now d = (.error e, d') → SameButRefused d d') ∧
      ending.securities.conserved = true ∧ ending.cash.conserved = true ∧
      ∀ securities cash attestation closing,
        close attests securities cash attestation ending = (.ok (), closing) →
          closing.Covered := by
  intro ending other
  have hsound := hc.sound laws
  have hsnet : c.securities.net = true := by rw [hsound.securitiesNet, hmode]; rfl
  have hcnet : c.cash.net = true := by rw [hsound.cashNet, hmode]; rfl
  have hnodup' : (others.map fun o => api.nullifier o.instruction).Nodup :=
    (hperm.map _).nodup_iff.mp hnodup
  have hstart := Follows.refl api settled c
  obtain ⟨htaken, hending⟩ := hstart.run laws now hsnet hcnet (by simpa using hnodup)
  obtain ⟨htaken', hother⟩ := hstart.run laws now hsnet hcnet (by simpa using hnodup')
  have hkept := hperm.filter (accepts api c now)
  rw [List.nil_append] at hending hother
  refine ⟨?_, hending.lookup_eq hother hkept, hending.batchDigest_eq hother hkept,
    fun d d' order now e h => admitOrder_error laws.settles h, ?_, ?_, ?_⟩
  · rw [htaken, htaken']
    exact hkept
  · exact (hsound.securities.shifted hending.securities).conserved
  · exact (hsound.cash.shifted hending.cash).conserved
  · intro securities cash attestation closing hclose
    refine covered_of_close ?_ ?_ hclose
    · rw [hending.securities.rest]
      exact hsnet
    · rw [hending.cash.rest]
      exact hcnet

/-- An accepted order moves its amounts between the accounts its instruction fixes, in their
direction and nowhere else, exactly when each leg that moves anything names those accounts. -/
theorem pays_instructed_sides_iff (h : Cycle.admitOrder api order now c = (.ok u, t)) :
    (c.securities.Pays t.securities (Sides.of api.accountOf order.instruction).securitiesFrom
          (Sides.of api.accountOf order.instruction).securitiesTo order.securities.delta ∧
        c.cash.Pays t.cash (Sides.of api.accountOf order.instruction).cashFrom
          (Sides.of api.accountOf order.instruction).cashTo order.cash.delta) ↔
      order.securities.Names (Sides.of api.accountOf order.instruction).securitiesFrom
          (Sides.of api.accountOf order.instruction).securitiesTo ∧
        order.cash.Names (Sides.of api.accountOf order.instruction).cashFrom
          (Sides.of api.accountOf order.instruction).cashTo := by
  obtain ⟨_, hmoved, _⟩ := admitOrder_ok h
  exact and_congr (PositionBook.pays_iff hmoved.securitiesParties hmoved.securities)
    (PositionBook.pays_iff hmoved.cashParties hmoved.cash)

end Cycle

section Sample

def listVenue : VenueApi Plane (List Bytes) where
  verify venue i _ := require (i.envelope ∉ venue) "already settled"
  settle venue i _ := do
    require (i.envelope ∉ venue) "already settled"
    pure (i.envelope :: venue)
  accountOf := sampleApi.accountOf
  nullifier i := i.envelope

theorem listVenue_judges : VenueJudges listVenue fun venue nullifier => nullifier ∈ venue where
  settles venue i now h := by
    refine ⟨i.envelope :: venue, ?_⟩
    simp only [listVenue, bind_eq_ok, pure_eq_ok]
    exact ⟨(), h, trivial⟩
  records venue venue' i now h nullifier := by
    simp only [listVenue, bind_eq_ok, pure_eq_ok] at h
    obtain ⟨_, _, rfl⟩ := h
    exact mem_cons
  depends venue venue' i now h := by
    simp only [listVenue, require_eq_ok] at h ⊢
    exact not_congr h

def noQuorum (_ : Bytes) (_ : BatchDigest Plane) (_ : Bytes) : Bool := false

def sampleBook (net : Bool) (rail : String) : PositionBook Plane :=
  ⟨planeKey, ⟨planeKey.g⟩, net, rail, 8, ∅, ∅, ∅⟩

def freshCycle (mode : Mode) : Cycle Plane (List Bytes) :=
  ⟨planeKey, [1], mode, false, sampleBook mode.securitiesNet securitiesRail,
    sampleBook mode.cashNet cashRail, [], none, 0, 0, false⟩

theorem freshCycle_started (mode : Mode) : Cycle.Started (freshCycle mode) := by
  refine ⟨planeKey, [1], mode, _, _, [], false, none, ⟨planeKey, ⟨planeKey.g⟩,
    mode.securitiesNet, securitiesRail, 8, rfl⟩, ⟨planeKey, ⟨planeKey.g⟩, mode.cashNet, cashRail,
    8, rfl⟩, ?_⟩
  simp only [Cycle.new, ok_iff]
  exact ⟨by simp, by simp, by simp, by simp, rfl⟩

def openings : List (CycleOp Plane) :=
  [.open .securities [1] (10, 0), .open .securities [2] (10, 0), .open .securities [5] (0, 0),
    .open .cash [3] (10, 0), .open .cash [4] (10, 0), .open .cash [6] (0, 0)]

def openedCycle (mode : Mode) : Cycle Plane (List Bytes) :=
  InPlace.run (Cycle.perform listVenue noQuorum) (freshCycle mode) openings

theorem openedCycle_reachable (mode : Mode) :
    Cycle.Reachable listVenue noQuorum (openedCycle mode) :=
  ⟨freshCycle mode, openings, freshCycle_started mode, rfl⟩

def netLeg (rail : String) (payer payee : Bytes) : Leg Plane :=
  ⟨payer, payee, (3, 0), ⟨⟨"qomm:cycle:link", rail, none⟩, 3, 0, 0⟩, none⟩

def sampleOrder (securities cash : Leg Plane) (nullifier : Bytes) : Order Plane :=
  ⟨⟨(1, 0), (0, 1), (3, 0), (1, 0), nullifier⟩, securities, cash, (3, 0),
    ⟨"qomm:cycle:value", 1, 0, 3, 0, 0⟩⟩

def instructedOrder (nullifier : Bytes) : Order Plane :=
  sampleOrder (netLeg securitiesRail [2] [1]) (netLeg cashRail [3] [4]) nullifier

/-- The same between the first trader and the third, who is short until then. -/
def resaleOrder (nullifier : Bytes) : Order Plane :=
  sampleOrder (netLeg securitiesRail [5] [2]) (netLeg cashRail [4] [6]) nullifier

theorem netting_order_independent_sample :
    let orders := [instructedOrder [1], resaleOrder [2],
      sampleOrder (netLeg securitiesRail [9] [1]) (netLeg cashRail [3] [4]) [3]]
    Cycle.taken listVenue (openedCycle .netNet) 0 orders = [instructedOrder [1], resaleOrder [2]] ∧
      (Cycle.taken listVenue (openedCycle .netNet) 0 orders).Perm
        (Cycle.taken listVenue (openedCycle .netNet) 0 orders.reverse) ∧
      (InPlace.run (Cycle.admitAt listVenue 0) (openedCycle .netNet) orders).batchDigest =
        (InPlace.run (Cycle.admitAt listVenue 0) (openedCycle .netNet) orders.reverse).batchDigest := by
  intro orders
  have hnodup : (orders.map fun o => listVenue.nullifier o.instruction).Nodup := by decide +kernel
  obtain ⟨htaken, _, hdigest, _⟩ := Cycle.netting_order_independent listVenue_judges
    (openedCycle_reachable .netNet) rfl 0 orders.reverse_perm.symm hnodup
  exact ⟨by decide +kernel, htaken, hdigest⟩

theorem pays_instructed_sides_iff_sample :
    ∃ t, Cycle.admitOrder listVenue (instructedOrder [1]) 0 (openedCycle .netNet) = (.ok (), t) ∧
      (openedCycle .netNet).securities.Pays t.securities [2] [1] (3, 0) ∧
      (openedCycle .netNet).cash.Pays t.cash [3] [4] (3, 0) := by
  have hok : (Cycle.admitOrder listVenue (instructedOrder [1]) 0 (openedCycle .netNet)).1.isOk =
      true := by decide +kernel
  cases h : Cycle.admitOrder listVenue (instructedOrder [1]) 0 (openedCycle .netNet) with
  | mk result t =>
    cases result with
    | error => simp [h, Except.isOk, Except.toBool] at hok
    | ok =>
      exact ⟨t, rfl, (Cycle.pays_instructed_sides_iff h).mpr
        ⟨Or.inr ⟨by decide, by decide⟩, Or.inr ⟨by decide, by decide⟩⟩⟩

/-- An instruction between two traders moves the position of a third one. -/
theorem third_party_pays :
    let order := sampleOrder (netLeg securitiesRail [5] [1]) (netLeg cashRail [3] [4]) [1]
    Sides.of listVenue.accountOf order.instruction = ⟨[2], [1], [3], [4]⟩ ∧
      ∃ t, Cycle.admitOrder listVenue order 0 (openedCycle .netNet) = (.ok (), t) ∧
        (openedCycle .netNet).securities.positions.lookup [5] = some (0, 0) ∧
        t.securities.positions.lookup [5] = some (-3, 0) ∧
        ¬(openedCycle .netNet).securities.Pays t.securities [2] [1] (3, 0) := by
  intro order
  have hok : (Cycle.admitOrder listVenue order 0 (openedCycle .netNet)).1.isOk = true := by
    decide +kernel
  have hbefore : (openedCycle .netNet).securities.positions.lookup [5] = some (0, 0) := by
    decide +kernel
  have hafter : (Cycle.admitOrder listVenue order 0 (openedCycle .netNet)).2.securities.positions.lookup
      [5] = some (-3, 0) := by decide +kernel
  refine ⟨by decide +kernel, ?_⟩
  cases h : Cycle.admitOrder listVenue order 0 (openedCycle .netNet) with
  | mk result t =>
    rw [h] at hafter
    cases result with
    | error => simp [h, Except.isOk, Except.toBool] at hok
    | ok =>
      refine ⟨t, rfl, hbefore, hafter, fun hpays => ?_⟩
      have hsame := hpays [5]
      rw [hafter, hbefore] at hsame
      exact absurd hsame (by decide +kernel)

end Sample
end DeFMI.Netting
