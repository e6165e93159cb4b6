import DeFMI.Chain.Runtime
set_option autoImplicit false

/-!
What one step of the machine can do to the runtime. The invariants of the later
modules are read off this list and never look into the entry points again.
-/

namespace DeFMI.Chain
open Lib InPlace Entry List

variable {Json L : Type}

/-- The parent and the clock of the write section of `build_block`, if the step is that
section and gets as far as its loop. -/
def Runtime.buildOf (s : Runtime L) : ChainOp → Option (VerifiedBlock L × Int64)
  | .resume index clock _ =>
    match s.calls[index]? with
    | some (.loaded id parent .build) =>
      if s.preferred = id ∧ s.engineState = .normalOp then
        match nowSeconds clock with
        | .ok now => some (parent, now)
        | .error _ => none
      else none
    | _ => none
  | _ => none

def Drained.block (d : Drained L) (parent : VerifiedBlock L) (now : Int64) : Block :=
  ⟨parent.id, max now parent.block.timestamp, saturatingSucc parent.block.height, d.transactions⟩

section Calls
variable (api : ChainApi Json L) (s : Runtime L)

def Purpose.Parsed (id : Id) : Purpose L → Prop
  | .verify candidate =>
    candidate.block.parentId = id ∧ Block.decode candidate.bytes = .ok candidate.block ∧
      candidate.block.id api.digest = .ok candidate.id
  | _ => True

def Started : Call L → Prop
  | .admitting id bytes => api.transactionId bytes = .ok id ∧ Block.Sized bytes.length
  | .inserting id bytes =>
    api.transactionId bytes = .ok id ∧ Block.Sized bytes.length ∨ .admitting id bytes ∈ s.calls
  | .choosing => True
  | .finding id purpose => purpose.Parsed api id
  | .loading id purpose => .finding id purpose ∈ s.calls
  | .loaded id parent purpose =>
    .finding id purpose ∈ s.calls ∧ inMemory s id = some parent ∨
      .loading id purpose ∈ s.calls ∧ storedBlock api s id = .ok parent

inductive Effect (op : ChainOp) : Runtime L → Prop
  | idle (engineState : EngineState) (preferred : Id) (calls : List (Call L))
      (hcalls : ∀ call ∈ calls, call ∈ s.calls ∨ Started api s call) :
      Effect op { s with engineState, preferred, calls }
  | inserted {id : Id} {bytes : Bytes} (calls : List (Call L))
      (hcalls : ∀ call ∈ calls, call ∈ s.calls) (hcall : .inserting id bytes ∈ s.calls)
      (hnew : id ∉ s.pending ∧ id ∉ s.processing) :
      Effect op
        { s with pending := insert id s.pending, mempool := s.mempool ++ [bytes], calls }
  | drained {id : Id} {parent : VerifiedBlock L} {now : Int64} {clock : Option ℕ}
      (d : Check × Drained L) (calls : List (Call L))
      (hcalls : ∀ call ∈ calls, call ∈ s.calls) (hcall : .loaded id parent .build ∈ s.calls)
      (hclock : nowSeconds clock = .ok now)
      (hd : d = s.drained api parent.state (max now parent.block.timestamp).toUInt64)
      (hbuild : s.buildOf op = some (parent, now))
      (hfail : (∃ e, d.1 = .error e) ∨ d.2.transactions = [] ∨
        ∃ e, (d.2.block parent now).encode = .error e) :
      Effect op { s.setPools d.2 with calls }
  | built {id blockId : Id} {parent : VerifiedBlock L} {now : Int64} {bytes : Bytes}
      (d : Check × Drained L) (calls : List (Call L))
      (hcalls : ∀ call ∈ calls, call ∈ s.calls) (hcall : .loaded id parent .build ∈ s.calls)
      (hd : d = s.drained api parent.state (max now parent.block.timestamp).toUInt64)
      (hbuild : s.buildOf op = some (parent, now))
      (hbytes : (d.2.block parent now).encode = .ok bytes)
      (hid : (d.2.block parent now).id api.digest = .ok blockId) :
      Effect op (Runtime.addVerified ⟨d.2.block parent now, bytes, blockId, d.2.state, d.2.receipts⟩
        { s.setPools d.2 with calls })
  | verified {id : Id} {candidate parent b : VerifiedBlock L} {clock : Option ℕ}
      (calls : List (Call L)) (hcalls : ∀ call ∈ calls, call ∈ s.calls)
      (hcall : .loaded id parent (.verify candidate) ∈ s.calls)
      (hchecked : checked api candidate parent clock = .ok b) :
      Effect op (Runtime.addVerified b { s with calls })
  | accepted {id : Id} {fault : Option String} {b : VerifiedBlock L}
      (hop : op = .blockAccept id fault) (hb : s.verified.lookup id = some b)
      (hlink : b.block.parentId = s.lastAccepted.id)
      (hheight : b.block.height = saturatingSucc s.lastAccepted.block.height) :
      Effect op (s.accepted api id b)
  | rejected {id : Id} {b : VerifiedBlock L} (hb : s.verified.lookup id = some b) :
      Effect op (each (requeue api) b.block.transactions.reverse
        { s with verified := s.verified.erase id }).2

end Calls

section Sections
variable {api : ChainApi Json L} {s : Runtime L} {op : ChainOp} {calls : List (Call L)}

theorem effect_stop (hcalls : ∀ call ∈ calls, call ∈ s.calls) :
    Effect api s op { s with calls } :=
  .idle s.engineState s.preferred calls fun call hcall => .inl (hcalls call hcall)

theorem effect_refl : Effect api s op s := effect_stop fun _ hcall => hcall

theorem effect_wait {call : Call L} (hcalls : ∀ call ∈ calls, call ∈ s.calls)
    (hcall : Started api s call) :
    Effect api s op (wait call { s with calls }).2 := by
  refine .idle s.engineState s.preferred (calls ++ [call]) fun other hother => ?_
  rcases mem_append.mp hother with hother | hother
  · exact .inl (hcalls other hother)
  · rw [mem_singleton] at hother
    exact .inr (hother ▸ hcall)

variable {fault : Option String} {clock : Option ℕ} {id : Id} {parent : VerifiedBlock L}
  {purpose : Purpose L} {bytes : Bytes} {index : ℕ}

theorem enqueue_effect {gossip : Bool} :
    Effect api s op (enqueue api bytes gossip fault s).2 := by
  unfold enqueue
  refine check_bind_snd effect_refl fun _ hsized => ?_
  refine check_bind_snd effect_refl fun transaction _ => ?_
  refine check_bind_snd effect_refl fun id hid => check_bind_snd effect_refl fun _ _ => ?_
  refine check_bind_snd effect_refl fun known _ => ?_
  rw [require_eq_ok] at hsized
  cases known with
  | true => exact effect_refl
  | false =>
    cases htried : gossip && triedFirst transaction with
    | true =>
      simp only [Bool.false_eq_true, if_false, if_true]
      exact effect_wait (fun _ hcall => hcall) ⟨hid, hsized⟩
    | false =>
      simp only [Bool.false_eq_true, if_false]
      exact effect_wait (fun _ hcall => hcall) (.inl ⟨hid, hsized⟩)

section
variable (hcalls : ∀ call ∈ calls, call ∈ s.calls)
include hcalls

theorem inserting_effect (hcall : .inserting id bytes ∈ s.calls) :
    Effect api s op (inserting id bytes { s with calls }).2 := by
  unfold inserting
  refine check_bind_snd (effect_stop hcalls) fun known hknown => ?_
  rw [pure_eq_ok] at hknown
  cases known with
  | true => exact effect_stop hcalls
  | false =>
    have hnew : id ∉ s.pending ∧ id ∉ s.processing := by simpa using hknown
    exact check_bind_snd (effect_stop hcalls) fun _ _ => .inserted calls hcalls hcall hnew

theorem finding_effect (hcall : .finding id purpose ∈ s.calls) :
    Effect api s op (finding id purpose { s with calls }).2 := by
  unfold finding
  refine check_bind_snd (effect_stop hcalls) fun found hfound => ?_
  rw [pure_eq_ok] at hfound
  cases found with
  | none => exact effect_wait hcalls hcall
  | some => exact effect_wait hcalls (.inl ⟨hcall, hfound⟩)

theorem loading_effect (hcall : .loading id purpose ∈ s.calls) :
    Effect api s op (loading api id purpose fault { s with calls }).2 := by
  unfold loading
  refine check_bind_snd (effect_stop hcalls) fun _ _ => ?_
  refine check_bind_snd (effect_stop hcalls) fun b hb => ?_
  exact effect_wait hcalls (.inr ⟨hcall, hb⟩)

theorem verify_effect {candidate parent : VerifiedBlock L}
    (hcall : .loaded id parent (.verify candidate) ∈ s.calls) :
    Effect api s op (verify api candidate parent clock { s with calls }).2 := by
  unfold verify
  exact check_bind_snd (effect_stop hcalls) fun b hchecked => .verified calls hcalls hcall hchecked

omit hcalls in
/-- Whatever follows the loop starts from the drained pools, and so does its failure. -/
theorem drainPool_bind_snd {α : Type} {inv : Runtime L → Prop} {state : ChainState L}
    {timestamp : UInt64} {g : Drained L → InPlace (Runtime L) α}
    (hfail : ∀ e, (s.drained api state timestamp).1 = .error e →
      inv (s.setPools (s.drained api state timestamp).2))
    (hok : inv (g (s.drained api state timestamp).2
      (s.setPools (s.drained api state timestamp).2)).2) :
    inv ((drainPool api state timestamp >>= g) s).2 := by
  cases hresult : (s.drained api state timestamp).1 with
  | ok =>
    rw [bind_snd_of_ok (x := drainPool api state timestamp)
      (a := (s.drained api state timestamp).2) (t := s.setPools (s.drained api state timestamp).2)
      (by simp [drainPool, hresult, Except.map])]
    exact hok
  | error e =>
    rw [bind_snd_of_error (x := drainPool api state timestamp) (e := e)
      (t := s.setPools (s.drained api state timestamp).2)
      (by simp [drainPool, hresult, Except.map])]
    exact hfail e hresult

omit hcalls in
theorem buildOf_resume {now : Int64}
    (hcall : s.calls[index]? = some (.loaded id parent .build)) (hpreferred : s.preferred = id)
    (hstate : s.engineState = .normalOp) (hclock : nowSeconds clock = .ok now) :
    s.buildOf (.resume index clock fault) = some (parent, now) := by
  simp [Runtime.buildOf, hcall, hpreferred, hstate, hclock]

theorem build_effect
    (hcall : s.calls[index]? = some (.loaded id parent .build)) (hpreferred : s.preferred = id) :
    Effect api s (.resume index clock fault)
      (build api parent clock { s with calls }).2 := by
  unfold build
  refine check_bind_snd (effect_stop hcalls) fun _ hstate => ?_
  refine check_bind_snd (effect_stop hcalls) fun now hclock => ?_
  rw [require_eq_ok] at hstate
  have hbuild : s.buildOf (.resume index clock fault) = some (parent, now) :=
    buildOf_resume hcall hpreferred hstate hclock
  have hmem := mem_of_getElem? hcall
  have hstop := fun hfail => Effect.drained
    (s.drained api parent.state (max now parent.block.timestamp).toUInt64) calls hcalls hmem hclock
    rfl hbuild hfail
  refine drainPool_bind_snd (fun e he => hstop (.inl ⟨e, he⟩)) ?_
  refine check_bind_cases (fun e he => hstop (.inr (.inl ?_))) fun _ _ => ?_
  · exact Classical.not_not.mp (require_eq_error.mp he).1
  · refine check_bind_cases (fun e he => hstop (.inr (.inr ⟨e, he⟩))) fun bytes hbytes => ?_
    refine check_bind_cases (fun e he => ?_) fun blockId hid => ?_
    · exact absurd he (by simp [Block.id, hbytes])
    · exact .built _ calls hcalls hmem rfl hbuild hbytes hid

theorem loaded_effect (hcall : s.calls[index]? = some (.loaded id parent purpose)) :
    Effect api s (.resume index clock fault)
      (loaded api id parent purpose clock { s with calls }).2 := by
  cases purpose with
  | build =>
    refine check_bind_snd (effect_stop hcalls) fun preferred hpreferred => ?_
    rw [pure_eq_ok] at hpreferred
    by_cases hsame : preferred = id
    · rw [if_pos hsame]
      exact build_effect hcalls hcall (hpreferred.trans hsame)
    · rw [if_neg hsame]
      exact effect_wait hcalls trivial
  | verify => exact verify_effect hcalls (mem_of_getElem? hcall)
  | prefer => exact .idle s.engineState id calls fun call hmem => .inl (hcalls call hmem)

end

theorem proceed_effect {call : Call L}
    (hcalls : ∀ call ∈ calls, call ∈ s.calls) (hcall : s.calls[index]? = some call) :
    Effect api s (.resume index clock fault)
      (proceed api clock fault call { s with calls }).2 := by
  have hmem := mem_of_getElem? hcall
  cases call with
  | admitting =>
    refine check_bind_snd (effect_stop hcalls) fun _ _ => ?_
    exact check_bind_snd (effect_stop hcalls) fun _ _ => effect_wait hcalls (.inr hmem)
  | inserting => exact inserting_effect hcalls hmem
  | choosing => exact effect_wait hcalls trivial
  | finding => exact finding_effect hcalls hmem
  | loading => exact loading_effect hcalls hmem
  | loaded => exact loaded_effect hcalls hcall

theorem parseBlockBytes_ok {placeholder : ChainState L} {b : VerifiedBlock L}
    (h : api.parseBlockBytes placeholder bytes = .ok b) :
    Block.decode bytes = .ok b.block ∧ b.block.id api.digest = .ok b.id ∧ b.bytes = bytes := by
  simp only [ChainApi.parseBlockBytes, ok_iff] at h
  obtain ⟨block, hblock, id, hid, rfl⟩ := h
  exact ⟨hblock, hid, rfl⟩

theorem verifyCandidate_effect : Effect api s op (verifyCandidate api bytes s).2 := by
  unfold verifyCandidate
  refine check_bind_snd effect_refl fun candidate hcandidate => ?_
  refine check_bind_snd effect_refl fun existing _ => ?_
  obtain ⟨hdecode, hnamed, hbytes⟩ := parseBlockBytes_ok hcandidate
  cases existing with
  | some => exact effect_refl
  | none => exact effect_wait (fun _ hcall => hcall) ⟨rfl, hbytes ▸ hdecode, hnamed⟩

theorem blockAccept_effect :
    Effect api s (.blockAccept id fault) (blockAccept api id fault s).2 := by
  unfold blockAccept
  refine check_bind_snd effect_refl fun b hb => check_bind_snd effect_refl fun _ hextends => ?_
  refine check_bind_snd effect_refl fun _ _ => check_bind_snd effect_refl fun _ _ => ?_
  rw [okOr_eq_ok] at hb
  rw [require_eq_ok] at hextends
  exact .accepted rfl hb hextends.1 hextends.2

theorem blockReject_effect : Effect api s op (blockReject api id s).2 := by
  unfold blockReject
  refine check_bind_snd effect_refl fun b hb => ?_
  rw [okOr_eq_ok] at hb
  rw [modify_bind]
  exact bind_snd (.rejected hb) fun _ _ _ ht => ht

theorem perform_effect : Effect api s op (perform api op s).2 := by
  cases op with
  | enqueue => exact enqueue_effect
  | buildBlock | setPreference => exact effect_wait (fun _ hcall => hcall) trivial
  | verifyCandidate => exact verifyCandidate_effect
  | resume =>
    refine check_bind_snd effect_refl fun call hcall => ?_
    rw [okOr_eq_ok] at hcall
    exact proceed_effect (fun _ hmem => mem_of_mem_eraseIdx hmem) hcall
  | blockAccept => exact blockAccept_effect
  | blockReject => exact blockReject_effect
  | setState state =>
    refine check_bind_snd effect_refl fun _ _ => ?_
    exact .idle state s.preferred s.calls fun _ hcall => .inl hcall

end Sections

end DeFMI.Chain
