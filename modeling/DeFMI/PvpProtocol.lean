import DeFMI.Pvp
set_option autoImplicit false

/-!
The swap as a system: one honest party following the written steps, everyone
else free to operate both ledgers and limited only by the signatures they can
make. Runs are arbitrary schedules.
-/

namespace DeFMI
open Lib Adaptor Ledger

/-- Each party pays on its own rail. Alice responds, Bob drew the secret. -/
inductive Party where
  | alice
  | bob
  deriving DecidableEq

def Party.other : Party → Party
  | .alice => .bob
  | .bob => .alice

structure LegTerms (V : Type) where
  leg : Bytes
  payer : Bytes
  payee : Bytes
  signingKey : Scalar
  transfer : Transfer V
  context : Bytes
  amountBounded : Bool
  deadline : ℕ

/-- What the two parties agreed, with room for Alice to react. -/
structure SwapTerms (V : Type) where
  base : V
  secret : Scalar
  terms : Party → LegTerms V
  reaction : ℕ
  gap : (terms .alice).deadline + reaction ≤ (terms .bob).deadline

structure Release (V : Type) where
  rail : Party
  leg : Bytes
  held : Pending V
  signature : Signature V
  time : ℕ

structure SwapState (V : Type) where
  ledger : Party → Ledger V
  clock : ℕ
  releases : List (Release V)
  swap : Swap V
  own : Option (Leg V)
  handed : Bool
  received : Option (Leg V)
  attempted : Bool
  claimed : Bool

structure RailSetup (V : Type) where
  key : Pedersen V
  bits : ℕ
  issuer : Option Bytes

def RailSetup.ledger {V : Type} [AddCommGroup V] (setup : RailSetup V) : Ledger V :=
  match setup.issuer with
  | none => Ledger.new setup.key setup.bits
  | some issuer => Ledger.underIssuer setup.key setup.bits issuer

theorem RailSetup.pendingOpen {V : Type} [AddCommGroup V] (setup : RailSetup V) :
    setup.ledger.PendingOpen := by
  intro leg p hp
  cases hissuer : setup.issuer with
  | none => simp [RailSetup.ledger, hissuer, new] at hp
  | some => simp [RailSetup.ledger, hissuer, underIssuer, new] at hp

/-- `operate` is anyone but the honest party, on either ledger. -/
inductive SwapEvent (V : Type) where
  | wait (time : ℕ)
  | operate (rail : Party) (op : LedgerOp V (Signature V))
  | prepare
  | handOver
  | receive (leg : Leg V)
  | claim

namespace SwapTerms

variable {V : Type} [AddCommGroup V] [Module Scalar V]

def point (T : SwapTerms V) : V := Adaptor.publicKey T.base T.secret

def publicKey (T : SwapTerms V) (p : Party) : V := Adaptor.publicKey T.base (T.terms p).signingKey

def preSignature (T : SwapTerms V) (p : Party) : PreSignature V :=
  ⟨T.publicKey p, T.point, (T.terms p).leg⟩

def agreed (T : SwapTerms V) (p : Party) : Pending V :=
  ⟨(T.terms p).payer, T.publicKey p, (T.terms p).payee, (T.terms p).transfer.amountCommitment,
    (T.terms p).deadline⟩

end SwapTerms

def Release.Agreed {V : Type} [AddCommGroup V] [Module Scalar V] (T : SwapTerms V) (p : Party)
    (r : Release V) : Prop :=
  r.rail = p ∧ r.leg = (T.terms p).leg ∧ r.held = T.agreed p

namespace SwapState

section System

variable {V : Type}

def record (s : SwapState V) (rail : Party) (ledger : Ledger V) :
    LedgerOp V (Signature V) → SwapState V
  | .commitPending leg release =>
    match (s.ledger rail).pending.lookup leg with
    | some held => { s with
      ledger := Function.update s.ledger rail ledger
      releases := ⟨rail, leg, held, release, s.clock⟩ :: s.releases }
    | none => { s with ledger := Function.update s.ledger rail ledger }
  | _ => { s with ledger := Function.update s.ledger rail ledger }

theorem record_eq (s : SwapState V) (rail : Party) (ledger : Ledger V)
    (op : LedgerOp V (Signature V)) :
    ∃ rs, s.record rail ledger op =
        { s with ledger := Function.update s.ledger rail ledger, releases := rs } ∧
      (∀ r ∈ s.releases, r ∈ rs) ∧
      (∀ r ∈ rs, r ∈ s.releases ∨ op = .commitPending r.leg r.signature ∧ r.rail = rail ∧
        r.time = s.clock ∧ (s.ledger rail).pending.lookup r.leg = some r.held) ∧
      ∀ leg release held, op = .commitPending leg release →
        (s.ledger rail).pending.lookup leg = some held →
        ⟨rail, leg, held, release, s.clock⟩ ∈ rs := by
  have hkeep : ∀ r ∈ s.releases, r ∈ s.releases ∨ op = .commitPending r.leg r.signature ∧
      r.rail = rail ∧ r.time = s.clock ∧ (s.ledger rail).pending.lookup r.leg = some r.held :=
    fun _ hr => .inl hr
  cases op with
  | commitPending leg release =>
    cases hheld : (s.ledger rail).pending.lookup leg with
    | none =>
      refine ⟨s.releases, by simp [record, hheld], fun _ hr => hr, hkeep, ?_⟩
      intro leg' release' held' heq hlookup
      cases heq
      rw [hheld] at hlookup
      cases hlookup
    | some held =>
      refine ⟨⟨rail, leg, held, release, s.clock⟩ :: s.releases, by simp [record, hheld],
        fun _ hr => List.mem_cons_of_mem _ hr, ?_, ?_⟩
      · grind
      · grind
  | «open» _ _ => exact ⟨s.releases, rfl, fun _ hr => hr, hkeep, fun _ _ _ heq => by cases heq⟩
  | openAuthorised | settleTransfer | prepareTransfer | unwindPending =>
    exact ⟨s.releases, rfl, fun _ hr => hr, hkeep, fun _ _ _ heq => by cases heq⟩

variable [AddCommGroup V] [Module Scalar V]

def Paid (T : SwapTerms V) (s : SwapState V) (p : Party) : Prop :=
  ∃ r ∈ s.releases, r.Agreed T p

/-- Alice claims within the reaction time of her leg being released. -/
def inTime (T : SwapTerms V) (honest : Party) (s : SwapState V) (clock : ℕ) : Prop :=
  honest = .alice → s.attempted = false → ∀ r ∈ s.releases, r.Agreed T .alice →
    clock ≤ r.time + T.reaction

/-- Alice hands her pre-signature over only while Bob's leg is in escrow as
agreed and she holds a release for it that checks. -/
def HandOverSecured (T : SwapTerms V) (s : SwapState V) : SwapEvent V → Prop
  | .handOver =>
    (s.ledger .bob).pending.lookup (T.terms .bob).leg = some (T.agreed .bob) ∧
      s.received.isSome = true
  | _ => True

/-- What Alice can rely on once she has handed over: she is paid, or Bob's leg is
still there for her to claim, or it is too late for anyone to claim hers. -/
structure AliceSafe (T : SwapTerms V) (s : SwapState V) : Prop where
  point : s.swap.adaptorPoint = T.point
  own : ∀ leg, s.own = some leg →
    leg.id = (T.terms .alice).leg ∧ leg.release = T.preSignature .alice
  received : ∀ leg, s.received = some leg →
    leg.id = (T.terms .bob).leg ∧ leg.release = T.preSignature .bob
  pendingOpen : (s.ledger .bob).PendingOpen
  released : ∀ r ∈ s.releases, r.Agreed T .alice → s.handed = true ∧ s.own.isSome = true ∧
    r.time ≤ (T.terms .alice).deadline ∧ ∃ secret,
      r.signature = .adapted (T.preSignature .alice) secret ∧
        Adaptor.publicKey T.base secret = T.point
  inTime : s.inTime T .alice s.clock
  attempted : s.attempted = true → s.Paid T .alice
  secured : s.handed = true → s.Paid T .bob ∨
    (s.attempted = false ∧ s.received.isSome = true ∧
      (s.ledger .bob).pending.lookup (T.terms .bob).leg = some (T.agreed .bob)) ∨
    (T.terms .bob).deadline < s.clock ∧ ¬ s.Paid T .alice

theorem AliceSafe.clock_le {T : SwapTerms V} {s : SwapState V} (hs : s.AliceSafe T)
    (hpaid : s.Paid T .alice)
    (hattempted : s.attempted = false) : s.clock ≤ (T.terms .bob).deadline := by
  obtain ⟨r, hr, hagreed⟩ := hpaid
  have hdue := hs.inTime rfl hattempted r hr hagreed
  have htime := (hs.released r hr hagreed).2.2.1
  have hgap := T.gap
  omega

def initial (T : SwapTerms V) (honest : Party) (rails : Party → RailSetup V) : SwapState V where
  ledger p := (rails p).ledger
  clock := 0
  releases := []
  swap := match honest with
    | .alice => Swap.responder T.point
    | .bob => Swap.proposer T.base T.secret
  own := none
  handed := false
  received := none
  attempted := false
  claimed := false

theorem aliceSafe_initial (T : SwapTerms V) (rails : Party → RailSetup V) :
    (initial T .alice rails).AliceSafe T where
  point := rfl
  own leg h := by cases h
  received leg h := by cases h
  pendingOpen := RailSetup.pendingOpen _
  released r h := by cases h
  inTime := by intro _ _ r h; cases h
  attempted h := by cases h
  secured h := by cases h

theorem AliceSafe.paid {T : SwapTerms V} {s : SwapState V} (hs : s.AliceSafe T)
    (hfinal : (T.terms .bob).deadline < s.clock) (hpaid : s.Paid T .alice) : s.Paid T .bob := by
  obtain ⟨r, hr, hagreed⟩ := hpaid
  obtain hbob | ⟨hattempted, _, _⟩ | ⟨_, hunpaid⟩ := hs.secured (hs.released r hr hagreed).1
  · exact hbob
  · have hdue := hs.clock_le ⟨r, hr, hagreed⟩ hattempted
    omega
  · exact absurd ⟨r, hr, hagreed⟩ hunpaid

/-- Bob's leg is released only with the secret he has published by then, in
time and against Alice's agreed leg. -/
structure BobSafe (T : SwapTerms V) (s : SwapState V) : Prop where
  point : s.swap.adaptorPoint = T.point
  own : ∀ leg, s.own = some leg → leg.release = T.preSignature .bob
  received : ∀ leg, s.received = some leg → leg.id = (T.terms .alice).leg
  claimed : s.claimed = true →
    ∃ r ∈ s.releases, r.Agreed T .alice ∧ r.time ≤ (T.terms .alice).deadline
  paid : s.Paid T .bob → s.claimed = true

theorem bobSafe_initial (T : SwapTerms V) (rails : Party → RailSetup V) :
    (initial T .bob rails).BobSafe T where
  point := rfl
  own leg h := by cases h
  received leg h := by cases h
  claimed h := by cases h
  paid h := by obtain ⟨r, hr, _⟩ := h; cases hr

variable [DecidableEq V]

instance (T : SwapTerms V) (p : Party) (r : Release V) : Decidable (r.Agreed T p) :=
  inferInstanceAs (Decidable (_ ∧ _ ∧ _))

instance (T : SwapTerms V) (s : SwapState V) (p : Party) : Decidable (s.Paid T p) :=
  inferInstanceAs (Decidable (∃ r ∈ s.releases, _))

section
variable (T : SwapTerms V) (s : SwapState V)

/-- Nobody but the honest party makes signatures under its key, other than by
completing the pre-signature it handed over; and the secret is Bob's until he
has published a signature completed with it. -/
def derivable (honest : Party) (s : SwapState V) : Signature V → Bool
  | .direct signer _ => signer ≠ T.publicKey honest
  | .adapted pre secret =>
    (honest = .alice || s.claimed || Adaptor.publicKey T.base secret ≠ T.point) &&
      (pre.signer ≠ T.publicKey honest || (s.handed && s.own.map Leg.release = some pre))

def permitted (honest : Party) (s : SwapState V) : LedgerOp V (Signature V) → Bool
  | .commitPending _ release => s.derivable T honest release
  | _ => true

def readSecret (honest : Party) (s : SwapState V) : Swap V :=
  match s.own with
  | none => s.swap
  | some leg =>
    s.releases.foldl (fun swap r =>
      if r.rail = honest ∧ r.leg = leg.id then swap.learn T.base leg r.signature else swap) s.swap

def claimLeg (honest : Party) (s : SwapState V) : Result (SwapState V) := do
  let leg ← okOr s.received "no leg to claim"
  let result ← s.swap.claim T.base (s.ledger honest.other) leg s.clock
  let claimed := s.record honest.other result.1 (.commitPending leg.id result.2)
  pure { claimed with claimed := true }

def reading : SwapState V :=
  { s with
    swap := s.readSecret T .alice
    attempted := s.attempted || decide (s.Paid T .alice) }

/-- What Alice tries may fail; Bob publishes only against the agreed leg. -/
def tryClaim : Party → Result (SwapState V)
  | .alice =>
    match (s.reading T).claimLeg T .alice with
    | .ok t => .ok t
    | .error _ => .ok (s.reading T)
  | .bob => do
    require ((s.ledger .alice).pending.lookup (T.terms .alice).leg = some (T.agreed .alice))
      "the leg to claim is not the agreed one"
    s.claimLeg T .bob

def acceptable (p : Party) (leg : Leg V) : Bool :=
  leg.id = (T.terms p).leg && leg.payerKey = T.publicKey p && leg.releasableWith T.point

instance (T : SwapTerms V) (honest : Party) (s : SwapState V) (clock : ℕ) :
    Decidable (s.inTime T honest clock) :=
  inferInstanceAs (Decidable (_ → _ → ∀ r ∈ s.releases, _))

def apply (issuance : IssuanceVerifier V) (honest : Party) (s : SwapState V) :
    SwapEvent V → Result (SwapState V)
  | .wait time => do
    require (s.inTime T honest (s.clock + time)) "the claim is due first"
    pure { s with clock := s.clock + time }
  | .operate rail op => do
    require (s.permitted T honest op = true) "nobody can make that signature"
    let ledger ← (s.ledger rail).step issuance (Adaptor.verify T.base) s.clock op
    pure (s.record rail ledger op)
  | .prepare => do
    require (s.own = none) "the leg is prepared"
    let t := T.terms honest
    let result ← s.swap.prepare T.base (s.ledger honest) t.leg t.payer t.payee t.signingKey
      t.transfer t.context t.amountBounded t.deadline
    pure { s with ledger := Function.update s.ledger honest result.1, own := some result.2 }
  | .handOver => do
    require (s.own.isSome = true) "nothing is prepared"
    pure { s with handed := true }
  | .receive leg => do
    require (acceptable T honest.other leg = true) "the leg cannot be released"
    pure { s with received := some leg }
  | .claim => s.tryClaim T honest

def run (issuance : IssuanceVerifier V) (honest : Party) (s : SwapState V)
    (es : List (SwapEvent V)) : SwapState V :=
  runEvents (apply T issuance honest) s es

end

variable {T : SwapTerms V} {issuance : IssuanceVerifier V} {honest p : Party} {s t : SwapState V}
  {e : SwapEvent V} {leg : Leg V}

theorem acceptable_release (h : acceptable T p leg = true) :
    leg.id = (T.terms p).leg ∧ leg.release = T.preSignature p := by
  simp only [acceptable, Leg.releasableWith, verifyPreSignature, Bool.and_eq_true,
    decide_eq_true_eq] at h
  obtain ⟨⟨hid, hkey⟩, hrelease⟩ := h
  rw [hrelease, hkey, hid]
  exact ⟨rfl, rfl⟩

theorem derivable_verify {message : Bytes} {signature : Signature V}
    (h : s.derivable T honest signature = true)
    (hv : verify T.base (T.publicKey honest) message signature = true) :
    s.handed = true ∧ ∃ pre secret, s.own.map Leg.release = some pre ∧
      signature = .adapted pre secret ∧ publicKey T.base secret = pre.point ∧
      (honest = .alice ∨ s.claimed = true ∨ publicKey T.base secret ≠ T.point) := by
  cases signature with
  | direct =>
    simp only [verify, Bool.and_eq_true, decide_eq_true_eq] at hv
    simp [derivable, hv.1] at h
  | adapted pre secret =>
    simp only [verify, Bool.and_eq_true, decide_eq_true_eq] at hv
    obtain ⟨⟨hsigner, _⟩, hpoint⟩ := hv
    simp only [derivable, hsigner, Bool.and_eq_true, Bool.or_eq_true, decide_eq_true_eq,
      ne_eq, not_true_eq_false, false_or] at h
    obtain ⟨hknown, hhanded, hown⟩ := h
    refine ⟨hhanded, pre, secret, hown, rfl, hpoint, ?_⟩
    simpa [or_assoc] using hknown

@[simp] theorem learn_point (base : V) (swap : Swap V) (leg : Leg V) (published : Signature V) :
    (swap.learn base leg published).adaptorPoint = swap.adaptorPoint := by
  simp only [Swap.learn]
  split
  · rfl
  · rfl

def Knows (base : V) (swap : Swap V) : Prop :=
  ∃ secret, swap.secret = some secret ∧ Adaptor.publicKey base secret = swap.adaptorPoint

theorem Knows.learn {base : V} {swap : Swap V} (h : Knows base swap) (leg : Leg V)
    (published : Signature V) : Knows base (swap.learn base leg published) := by
  simp only [Swap.learn]
  split
  · next hpoint => exact ⟨_, rfl, hpoint⟩
  · exact h

theorem knows_learn_adapted {base : V} {swap : Swap V} {secret : Scalar}
    (hpoint : publicKey base secret = swap.adaptorPoint) :
    Knows base (swap.learn base leg (.adapted leg.release secret)) := by
  simp [Swap.learn, extract, hpoint, Knows]

theorem foldl_learn {base : V} (P : Release V → Prop) [DecidablePred P] (rs : List (Release V))
    (swap : Swap V)
    (hsource : Knows base swap ∨ ∃ r ∈ rs, P r ∧ ∃ secret,
      r.signature = .adapted leg.release secret ∧
        publicKey base secret = swap.adaptorPoint) :
    Knows base (rs.foldl
      (fun swap r => if P r then swap.learn base leg r.signature else swap) swap) := by
  induction rs generalizing swap with
  | nil => grind
  | cons r rs ih =>
    rw [List.foldl_cons]
    apply ih
    by_cases hP : P r
    · rw [if_pos hP]
      cases hsource with
      | inl hknown => exact .inl (hknown.learn leg r.signature)
      | inr hlater =>
        obtain ⟨r', hr', hP', secret, hsig, hpoint⟩ := hlater
        cases hr' with
        | head =>
          rw [hsig]
          exact .inl (knows_learn_adapted hpoint)
        | tail _ hr' =>
          exact .inr ⟨r', hr', hP', secret, hsig, by rw [hpoint, learn_point]⟩
    · grind

theorem foldl_learn_point {base : V} (P : Release V → Prop) [DecidablePred P]
    (rs : List (Release V)) (swap : Swap V) :
    (rs.foldl (fun swap r => if P r then swap.learn base leg r.signature else swap)
      swap).adaptorPoint = swap.adaptorPoint := by
  induction rs generalizing swap with
  | nil => rfl
  | cons r rs ih =>
    rw [List.foldl_cons, ih]
    by_cases hP : P r
    · simp [hP]
    · simp [hP]

theorem readSecret_point : (s.readSecret T honest).adaptorPoint = s.swap.adaptorPoint := by
  unfold readSecret
  cases s.own with
  | none => rfl
  | some => exact foldl_learn_point _ _ _

instance (T : SwapTerms V) (s : SwapState V) : (e : SwapEvent V) →
    Decidable (s.HandOverSecured T e)
  | .handOver => inferInstanceAs (Decidable (_ ∧ _))
  | .wait _ | .operate .. | .prepare | .receive _ | .claim => isTrue trivial

section
variable (hs : s.AliceSafe T)
include hs

theorem aliceSafe_operate {rail : Party} {op : LedgerOp V (Signature V)} {ledger : Ledger V}
    (hpermitted : s.permitted T .alice op = true)
    (hstep : (s.ledger rail).step issuance (verify T.base) s.clock op = .ok ledger) :
    (s.record rail ledger op).AliceSafe T := by
  obtain ⟨rs, heq, hold, hnew, hadd⟩ := record_eq s rail ledger op
  rw [heq]
  have hpaid : ∀ p, s.Paid T p → ∃ r ∈ rs, r.Agreed T p := by
    rintro p ⟨r, hr, hagreed⟩
    exact ⟨r, hold r hr, hagreed⟩
  -- a new release of Alice's leg completes what she handed over, in time
  have hrelease : ∀ r ∈ rs, r.Agreed T .alice → r ∈ s.releases ∨ r.time = s.clock ∧
      s.clock ≤ (T.terms .alice).deadline ∧ s.handed = true ∧ s.own.isSome = true ∧
      ∃ secret, r.signature = .adapted (T.preSignature .alice) secret ∧
        publicKey T.base secret = T.point := by
    intro r hr hagreed
    cases hnew r hr with
    | inl hmem => exact .inl hmem
    | inr hfresh =>
      obtain ⟨rfl, hrail, htime, hlookup⟩ := hfresh
      obtain ⟨hrail', hleg, hheld⟩ := hagreed
      obtain ⟨p, hp, hnow, hverify, _⟩ := commitPending_ok hstep
      rw [hlookup] at hp
      cases hp
      rw [hheld] at hnow hverify
      obtain ⟨hhanded, pre, secret, hown, hsig, hpoint, _⟩ := derivable_verify hpermitted hverify
      obtain ⟨leg, hleg', hpre⟩ := Option.map_eq_some_iff.mp hown
      have hpre' : pre = T.preSignature .alice := hpre ▸ (hs.own leg hleg').2
      subst hpre'
      exact .inr ⟨htime, hnow, hhanded, by simp [hleg'], secret, hsig, hpoint⟩
  refine ⟨hs.point, hs.own, hs.received, ?_, ?_, ?_, ?_, ?_⟩
  · by_cases hrail : Party.bob = rail
    · subst hrail
      simpa using step_pendingOpen hstep hs.pendingOpen
    · simpa [hrail] using hs.pendingOpen
  · grind [AliceSafe]
  · grind [AliceSafe, Paid, inTime]
  · intro hattempted
    exact hpaid _ (hs.attempted hattempted)
  · intro hhanded
    obtain hbob | ⟨hattempted, hreceived, hpending⟩ | ⟨hlate, hunpaid⟩ := hs.secured hhanded
    · exact .inl (hpaid _ hbob)
    · by_cases hrail : Party.bob = rail
      · subst hrail
        obtain hkept | ⟨release, rfl, _, _⟩ | ⟨rfl, hexpired⟩ := step_pending hstep hpending
        · exact .inr (.inl ⟨hattempted, hreceived, by simpa using hkept⟩)
        · exact .inl ⟨_, hadd _ release _ rfl hpending, rfl, rfl, rfl⟩
        · refine .inr (.inr ⟨hexpired, ?_⟩)
          rintro ⟨r, hr, hagreed⟩
          cases hnew r hr with
          | inl hmem =>
            have hdue := hs.clock_le ⟨r, hmem, hagreed⟩ hattempted
            have hdeadline : (T.agreed .bob).deadline = (T.terms .bob).deadline := rfl
            omega
          | inr hfresh => cases hfresh.1
      · exact .inr (.inl ⟨hattempted, hreceived, by simpa [hrail] using hpending⟩)
    · refine .inr (.inr ⟨hlate, ?_⟩)
      rintro ⟨r, hr, hagreed⟩
      cases hrelease r hr hagreed with
      | inl hmem => exact hunpaid ⟨r, hmem, hagreed⟩
      | inr hfresh =>
        have hnow := hfresh.2.1
        have hgap := T.gap
        omega

theorem AliceSafe.readSecret_knows (hpaid : s.Paid T .alice) :
    Knows T.base (s.readSecret T .alice) := by
  obtain ⟨r, hr, hagreed⟩ := hpaid
  obtain ⟨_, hown, _, secret, hsig, hpoint⟩ := hs.released r hr hagreed
  obtain ⟨leg, hleg⟩ := Option.isSome_iff_exists.mp hown
  obtain ⟨hid, hrelease⟩ := hs.own leg hleg
  simp only [readSecret, hleg]
  apply foldl_learn
  refine .inr ⟨r, hr, ⟨hagreed.1, ?_⟩, secret, ?_, ?_⟩
  · rw [hid]
    exact hagreed.2.1
  · rw [hrelease]
    exact hsig
  · rw [hs.point]
    exact hpoint

omit hs in
theorem claimLeg_ok (h : s.claimLeg T honest = .ok t) :
    ∃ leg secret ledger, s.received = some leg ∧
      (s.ledger honest.other).commitPending (verify T.base) leg.id
        (.adapted leg.release secret) s.clock = .ok ledger ∧
      t = { s.record honest.other ledger
        (.commitPending leg.id (.adapted leg.release secret)) with claimed := true } := by
  simp only [claimLeg, Swap.claim, Swap.claimWith, adapt, ok_iff] at h
  obtain ⟨leg, hleg, _, ⟨secret, _, ledger, hcommit, rfl⟩, rfl⟩ := h
  exact ⟨leg, secret, ledger, hleg, hcommit, rfl⟩

theorem AliceSafe.claimLeg_succeeds (hpaid : s.Paid T .alice)
    (hattempted : s.attempted = false) (hreceived : s.received.isSome = true)
    (hpending : (s.ledger .bob).pending.lookup (T.terms .bob).leg = some (T.agreed .bob))
    (why : String) : (s.reading T).claimLeg T .alice ≠ .error why := by
  obtain ⟨secret, hsecret, hpoint⟩ := hs.readSecret_knows hpaid
  rw [readSecret_point, hs.point] at hpoint
  obtain ⟨leg, hleg⟩ := Option.isSome_iff_exists.mp hreceived
  obtain ⟨hid, hrelease⟩ := hs.received leg hleg
  have hverify : verify T.base (T.agreed .bob).releaseKey leg.id
      (.adapted leg.release secret) = true := by
    simp [verify, hrelease, hid, SwapTerms.preSignature, SwapTerms.agreed, hpoint]
  obtain ⟨ledger, hcommit⟩ := commitPending_of_pending hs.pendingOpen
    (hid ▸ hpending) (hs.clock_le hpaid hattempted) hverify
  intro herror
  simp [claimLeg, reading, okOr, hleg, Swap.claim, hsecret, Swap.claimWith, adapt,
    Party.other, hcommit, Bind.bind, Except.bind, Pure.pure, Except.pure] at herror

theorem AliceSafe.reading (hsecured : s.handed = true → s.Paid T .bob ∨
      ((s.reading T).attempted = false ∧ s.received.isSome = true ∧
        (s.ledger .bob).pending.lookup (T.terms .bob).leg = some (T.agreed .bob)) ∨
      (T.terms .bob).deadline < s.clock ∧ ¬ s.Paid T .alice) :
    (s.reading T).AliceSafe T := by
  refine ⟨readSecret_point.trans hs.point, hs.own, hs.received, hs.pendingOpen, hs.released,
    ?_, ?_, hsecured⟩
  · intro _ hattempted
    simp only [SwapState.reading, Bool.or_eq_false_iff] at hattempted
    exact hs.inTime rfl hattempted.1
  · intro hattempted
    simp only [SwapState.reading, Bool.or_eq_true, decide_eq_true_eq] at hattempted
    exact hattempted.elim hs.attempted id

theorem aliceSafe_claim (h : s.tryClaim T .alice = .ok t) : t.AliceSafe T := by
  simp only [tryClaim] at h
  cases hclaim : (s.reading T).claimLeg T .alice with
  | error why =>
    simp only [hclaim, Except.ok.injEq] at h
    subst h
    apply hs.reading
    intro hhanded
    obtain hbob | ⟨hattempted, hreceived, hpending⟩ | hlate := hs.secured hhanded
    · exact .inl hbob
    · by_cases hpaid : s.Paid T .alice
      · exact absurd hclaim (hs.claimLeg_succeeds hpaid hattempted hreceived hpending why)
      · exact .inr (.inl ⟨by simp [SwapState.reading, hattempted, hpaid], hreceived, hpending⟩)
    · exact .inr (.inr hlate)
  | ok =>
    simp only [hclaim, Except.ok.injEq] at h
    subst h
    obtain ⟨leg, secret, ledger, hleg, hcommit, rfl⟩ := claimLeg_ok hclaim
    obtain ⟨hid, _⟩ := hs.received leg hleg
    obtain ⟨rs, heq, hold, hnew, hadd⟩ := record_eq (s.reading T) .bob ledger
      (.commitPending leg.id (.adapted leg.release secret))
    have hpaid : ∀ p, s.Paid T p → ∃ r ∈ rs, r.Agreed T p := by
      rintro p ⟨r, hr, hagreed⟩
      exact ⟨r, hold r hr, hagreed⟩
    -- the new release is on Bob's rail
    have hkept : ∀ r ∈ rs, r.Agreed T .alice → r ∈ s.releases := by
      intro r hr hagreed
      cases hnew r hr with
      | inl hmem => exact hmem
      | inr hfresh => cases hagreed.1.symm.trans hfresh.2.1
    have hstep : (s.ledger .bob).step (fun _ _ _ => false) (verify T.base) s.clock
        (.commitPending leg.id (.adapted leg.release secret)) = .ok ledger := hcommit
    have hopen := step_pendingOpen hstep hs.pendingOpen
    simp only [Party.other, heq]
    refine ⟨readSecret_point.trans hs.point, hs.own, hs.received, by simpa using hopen, ?_, ?_,
      ?_, ?_⟩
    · intro r hr hagreed
      exact hs.released r (hkept r hr hagreed) hagreed
    · intro _ hattempted r hr hagreed
      simp only [SwapState.reading, Bool.or_eq_false_iff] at hattempted
      exact hs.inTime rfl hattempted.1 r (hkept r hr hagreed) hagreed
    · intro hattempted
      simp only [SwapState.reading, Bool.or_eq_true, decide_eq_true_eq] at hattempted
      exact hpaid _ (hattempted.elim hs.attempted id)
    · intro hhanded
      obtain hbob | ⟨_, _, hpending⟩ | ⟨hlate, hunpaid⟩ := hs.secured hhanded
      · exact .inl (hpaid _ hbob)
      · exact .inl ⟨_, hadd _ _ _ rfl (hid ▸ hpending), rfl, hid, rfl⟩
      · refine .inr (.inr ⟨hlate, ?_⟩)
        rintro ⟨r, hr, hagreed⟩
        exact hunpaid ⟨r, hkept r hr hagreed, hagreed⟩

theorem aliceSafe_apply (hsecured : s.HandOverSecured T e)
    (h : s.apply T issuance .alice e = .ok t) : t.AliceSafe T := by
  cases e with
  | wait =>
    simp only [apply, ok_iff] at h
    obtain ⟨hdue, rfl⟩ := h
    refine ⟨hs.point, hs.own, hs.received, hs.pendingOpen, hs.released, hdue, hs.attempted, ?_⟩
    intro hhanded
    obtain hbob | hpending | ⟨hlate, hunpaid⟩ := hs.secured hhanded
    · exact .inl hbob
    · exact .inr (.inl hpending)
    · exact .inr (.inr ⟨by simp only; omega, hunpaid⟩)
  | operate =>
    simp only [apply, ok_iff] at h
    obtain ⟨hpermitted, ledger, hstep, rfl⟩ := h
    exact aliceSafe_operate hs hpermitted hstep
  | prepare =>
    simp only [apply, Swap.prepare, ok_iff] at h
    obtain ⟨_, _, ⟨ledger, _, rfl⟩, rfl⟩ := h
    refine ⟨hs.point, ?_, hs.received, hs.pendingOpen, ?_, hs.inTime, hs.attempted, hs.secured⟩
    · intro leg hleg
      cases hleg
      exact ⟨rfl, by rw [preSign, hs.point]; rfl⟩
    · grind [AliceSafe]
  | handOver =>
    simp only [apply, ok_iff] at h
    obtain ⟨_, rfl⟩ := h
    obtain ⟨hpending, hreceived⟩ := hsecured
    refine ⟨hs.point, hs.own, hs.received, hs.pendingOpen, ?_, hs.inTime, hs.attempted, ?_⟩
    · intro r hr hagreed
      exact ⟨rfl, (hs.released r hr hagreed).2⟩
    · intro _
      by_cases hattempted : s.attempted = true
      · obtain ⟨r, hr, hagreed⟩ := hs.attempted hattempted
        exact hs.secured (hs.released r hr hagreed).1
      · exact .inr (.inl ⟨by simpa using hattempted, hreceived, hpending⟩)
  | receive =>
    simp only [apply, ok_iff] at h
    obtain ⟨hleg, rfl⟩ := h
    refine ⟨hs.point, hs.own, ?_, hs.pendingOpen, hs.released, hs.inTime, hs.attempted, ?_⟩
    · intro leg' hleg'
      cases hleg'
      exact acceptable_release hleg
    · intro hhanded
      obtain hbob | ⟨hattempted, _, hpending⟩ | hlate := hs.secured hhanded
      · exact .inl hbob
      · exact .inr (.inl ⟨hattempted, rfl, hpending⟩)
      · exact .inr (.inr hlate)
  | claim => exact aliceSafe_claim hs h

end

theorem bobSafe_operate {rail : Party} {op : LedgerOp V (Signature V)} {ledger : Ledger V}
    (hs : s.BobSafe T) (hpermitted : s.permitted T .bob op = true)
    (hstep : (s.ledger rail).step issuance (verify T.base) s.clock op = .ok ledger) :
    (s.record rail ledger op).BobSafe T := by
  obtain ⟨rs, heq, hold, hnew, _⟩ := record_eq s rail ledger op
  rw [heq]
  refine ⟨hs.point, hs.own, hs.received, ?_, ?_⟩
  · grind [BobSafe]
  · rintro ⟨r, hr, hagreed⟩
    cases hnew r hr with
    | inl hmem => exact hs.paid ⟨r, hmem, hagreed⟩
    | inr hfresh =>
      obtain ⟨rfl, _, _, hlookup⟩ := hfresh
      obtain ⟨p, hp, _, hverify, _⟩ := commitPending_ok hstep
      rw [hlookup] at hp
      cases hp
      rw [hagreed.2.2] at hverify
      obtain ⟨_, pre, secret, hown, _, hpoint, hknown⟩ := derivable_verify hpermitted hverify
      obtain ⟨leg, hleg, hpre⟩ := Option.map_eq_some_iff.mp hown
      have hpre' : pre = T.preSignature .bob := hpre ▸ hs.own leg hleg
      -- completing Bob's pre-signature takes the secret of the adaptor point
      obtain hhonest | hclaimed | hother := hknown
      · cases hhonest
      · exact hclaimed
      · rw [hpoint, hpre'] at hother
        exact absurd rfl hother

theorem bobSafe_claim (hs : s.BobSafe T) (h : s.tryClaim T .bob = .ok t) : t.BobSafe T := by
  simp only [tryClaim, ok_iff] at h
  obtain ⟨hagreed, hclaim⟩ := h
  obtain ⟨leg, secret, ledger, hleg, hcommit, rfl⟩ := claimLeg_ok hclaim
  have hid := hs.received leg hleg
  obtain ⟨p, hp, hnow, _, _⟩ := commitPending_ok hcommit
  obtain ⟨rs, heq, hold, hnew, hadd⟩ := record_eq s .alice ledger
    (.commitPending leg.id (.adapted leg.release secret))
  simp only [Party.other] at hp
  rw [hid, hagreed] at hp
  cases hp
  simp only [Party.other, heq]
  refine ⟨hs.point, hs.own, hs.received, ?_, fun _ => rfl⟩
  intro _
  exact ⟨_, hadd _ _ _ rfl (hid ▸ hagreed), ⟨rfl, hid, rfl⟩, hnow⟩

theorem bobSafe_apply (hs : s.BobSafe T) (h : s.apply T issuance .bob e = .ok t) :
    t.BobSafe T := by
  cases e with
  | wait | handOver =>
    simp only [apply, ok_iff] at h
    obtain ⟨_, rfl⟩ := h
    exact ⟨hs.point, hs.own, hs.received, hs.claimed, hs.paid⟩
  | operate =>
    simp only [apply, ok_iff] at h
    obtain ⟨hpermitted, ledger, hstep, rfl⟩ := h
    exact bobSafe_operate hs hpermitted hstep
  | prepare =>
    simp only [apply, Swap.prepare, ok_iff] at h
    obtain ⟨_, _, ⟨ledger, _, rfl⟩, rfl⟩ := h
    refine ⟨hs.point, ?_, hs.received, hs.claimed, hs.paid⟩
    intro leg hleg
    cases hleg
    rw [preSign, hs.point]
    rfl
  | receive =>
    simp only [apply, ok_iff] at h
    obtain ⟨hleg, rfl⟩ := h
    refine ⟨hs.point, hs.own, ?_, hs.claimed, hs.paid⟩
    intro leg' hleg'
    cases hleg'
    exact (acceptable_release hleg).1
  | claim => exact bobSafe_claim hs h

/-- With the hand-over secured, every schedule that takes Alice's payment has
paid her by the time both escrows are over; and Bob's payment is never taken
before he has been paid, in time. -/
theorem swap_atomic_when_secured (T : SwapTerms V)
    (issuance : IssuanceVerifier V) (rails : Party → RailSetup V) :
    (∀ es, EachStep (apply T issuance .alice)
          (IfAccepted (apply T issuance .alice) (HandOverSecured T)) (initial T .alice rails) es →
        (T.terms .bob).deadline < ((initial T .alice rails).run T issuance .alice es).clock →
        ((initial T .alice rails).run T issuance .alice es).Paid T .alice →
        ((initial T .alice rails).run T issuance .alice es).Paid T .bob) ∧
      ∀ es, ((initial T .bob rails).run T issuance .bob es).Paid T .bob →
        ∃ r ∈ ((initial T .bob rails).run T issuance .bob es).releases,
          r.Agreed T .alice ∧ r.time ≤ (T.terms .alice).deadline := by
  constructor
  · intro es hsecured hfinal hpaid
    have hsafe := hsecured.invariant_accepted
      (fun _ _ _ hi hP hstep => aliceSafe_apply hi hP hstep) (aliceSafe_initial T rails)
    exact AliceSafe.paid hsafe hfinal hpaid
  · intro es hpaid
    have hsafe : ((initial T .bob rails).run T issuance .bob es).BobSafe T :=
      runEvents_invariant (fun _ _ _ hi hstep => bobSafe_apply hi hstep) es
        (bobSafe_initial T rails)
    exact hsafe.claimed (hsafe.paid hpaid)

end System
end SwapState

section Sample

def sampleTransfer (balance amount : ℕ) : Transfer Plane :=
  ⟨(amount, 0), none, ((balance - amount : ℕ), 0),
    ⟨Ledger.rangeContext "qomm:defmi:rem" [] none, [(balance - amount, 0)]⟩, none⟩

def sampleSwap : SwapTerms Plane where
  base := (1, 0)
  secret := 5
  terms := fun
    | .alice => ⟨[1], [10], [11], 1, sampleTransfer 5 3, [], true, 10⟩
    | .bob => ⟨[2], [20], [21], 2, sampleTransfer 7 4, [], true, 20⟩
  reaction := 5
  gap := by decide

def sampleRails (_ : Party) : RailSetup Plane := ⟨planeKey, 8, none⟩

def openRails : List (SwapEvent Plane) :=
  [.operate .alice (.open [10] (5, 0)), .operate .alice (.open [11] (0, 0)),
    .operate .bob (.open [20] (7, 0)), .operate .bob (.open [21] (0, 0))]

def takeAlice : SwapEvent Plane :=
  .operate .alice (.commitPending [1] (.adapted (sampleSwap.preSignature .alice) 5))

def bobPrepares : SwapEvent Plane :=
  .operate .bob (.prepareTransfer [2] [20] [21] (sampleTransfer 7 4) [] true 20
    (sampleSwap.publicKey .bob))

def bobLeg : Leg Plane :=
  ⟨[2], [20], [21], sampleSwap.publicKey .bob, 20, sampleSwap.preSignature .bob⟩

def securedEvents : List (SwapEvent Plane) :=
  openRails ++ [.prepare, bobPrepares, .receive bobLeg, .handOver, takeAlice, .claim, .wait 30]

/-- The written order: Alice hands over before Bob has prepared anything. -/
def writtenEvents : List (SwapEvent Plane) :=
  openRails ++ [.prepare, .handOver, takeAlice, .claim, .wait 30]

def swapRun (events : List (SwapEvent Plane)) : SwapState Plane :=
  (SwapState.initial sampleSwap .alice sampleRails).run sampleSwap (fun _ _ _ => false) .alice events

theorem swap_atomic_when_secured_sample :
    (swapRun securedEvents).Paid sampleSwap .alice ∧
      (swapRun securedEvents).Paid sampleSwap .bob := by
  have hpaid : (swapRun securedEvents).Paid sampleSwap .alice := by decide +kernel
  exact ⟨hpaid, (SwapState.swap_atomic_when_secured sampleSwap (fun _ _ _ => false)
    sampleRails).1 securedEvents (by decide +kernel) (by decide +kernel) hpaid⟩

/-- In the written order Bob takes Alice's payment and prepares nothing. -/
theorem swap_written_order_loses :
    (sampleSwap.terms .bob).deadline < (swapRun writtenEvents).clock ∧
      (swapRun writtenEvents).Paid sampleSwap .alice ∧
      ¬ (swapRun writtenEvents).Paid sampleSwap .bob := by
  decide +kernel

end Sample
end DeFMI
