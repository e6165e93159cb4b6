import Mathlib.Algebra.BigOperators.Group.List.Basic
set_option autoImplicit false

/-!
Code that changes a store in place, and the transactions around it. A statement
that fails ends the body it stands in, but what earlier statements wrote is
still in the store; only an enclosing transaction takes it back.
-/

namespace DeFMI.Lib
open List

def InPlace (σ α : Type) : Type := σ → Except String α × σ

namespace InPlace

variable {σ α β η : Type}

instance : Monad (InPlace σ) where
  pure a := fun s => (.ok a, s)
  bind x f := fun s =>
    match x s with
    | (.ok a, t) => f a t
    | (.error e, t) => (.error e, t)

def check (f : σ → Except String α) : InPlace σ α := fun s => (f s, s)

def modify (f : σ → σ) : InPlace σ Unit := fun s => (.ok (), f s)

/-- Writes the store unless a constraint refuses the new rows. -/
def update (f : σ → Except String σ) : InPlace σ Unit := fun s =>
  match f s with
  | .ok t => (.ok (), t)
  | .error e => (.error e, s)

def zoom {τ : Type} (get : τ → σ) (set : τ → σ → τ) (x : InPlace σ α) : InPlace τ α := fun s =>
  ((x (get s)).1, set s (x (get s)).2)

/-- `BEGIN`, a body, and `COMMIT` if the body succeeded and is meant to stay. -/
def transaction (commit : Bool) (body : InPlace σ α) : InPlace σ α := fun s =>
  match body s with
  | (.ok a, t) => (.ok a, if commit then t else s)
  | (.error e, _) => (.error e, s)

/-- Code run on a copy, which replaces the store only if the code succeeds. -/
def onCopy (x : InPlace σ α) (s : σ) : Except String σ :=
  match x s with
  | (.ok _, t) => .ok t
  | (.error e, _) => .error e

def each (f : α → InPlace σ Unit) : List α → InPlace σ Unit
  | [] => pure ()
  | a :: as => do
    f a
    each f as

section Inversion

variable {s t : σ} {a : α} {b : β} {x : InPlace σ α}

@[simp] theorem pure_eq {c : α} : (pure a : InPlace σ α) s = (.ok c, t) ↔ a = c ∧ s = t := by
  constructor
  · intro h; cases h; exact ⟨rfl, rfl⟩
  · rintro ⟨rfl, rfl⟩; rfl

@[simp] theorem bind_eq {f : α → InPlace σ β} :
    (x >>= f) s = (.ok b, t) ↔ ∃ a u, x s = (.ok a, u) ∧ f a u = (.ok b, t) := by
  change (match x s with
    | (.ok a, t) => f a t
    | (.error e, t) => (.error e, t)) = (.ok b, t) ↔ _
  cases hx : x s with
  | mk result u =>
    cases result with
    | ok => simp
    | error => simp

@[simp] theorem check_eq {f : σ → Except String α} :
    check f s = (.ok a, t) ↔ f s = .ok a ∧ s = t := by
  simp [check]

variable {f : α → InPlace σ Unit} {u : Unit}

@[simp] theorem modify_eq {f : σ → σ} : modify f s = (.ok u, t) ↔ f s = t := by
  simp [modify]

@[simp] theorem update_eq {f : σ → Except String σ} : update f s = (.ok u, t) ↔ f s = .ok t := by
  cases h : f s with
  | ok => simp [update, h]
  | error => simp [update, h]

@[simp] theorem transaction_eq {commit : Bool} :
    transaction commit x s = (.ok a, t) ↔
      ∃ u, x s = (.ok a, u) ∧ t = if commit then u else s := by
  cases hx : x s with
  | mk result u =>
    cases result with
    | ok => simp [transaction, hx, eq_comm]
    | error => simp [transaction, hx]

@[simp] theorem each_nil : each f [] s = (.ok u, t) ↔ s = t := by
  simp [each]

@[simp] theorem each_cons {as : List α} :
    each f (a :: as) s = (.ok u, t) ↔ ∃ v, f a s = (.ok (), v) ∧ each f as v = (.ok u, t) := by
  simp only [each, bind_eq]
  exact ⟨fun ⟨_, v, hv, ht⟩ => ⟨v, hv, ht⟩, fun ⟨v, hv, ht⟩ => ⟨(), v, hv, ht⟩⟩

/-- How a block of steps succeeds, as one set of rules, with the store each step was given. -/
theorem ran_iff :
    (∀ {σ α β : Type} {s t : σ} {b : β} {x : InPlace σ α} {f : α → InPlace σ β},
      (x >>= f) s = (.ok b, t) ↔ ∃ a u, x s = (.ok a, u) ∧ f a u = (.ok b, t)) ∧
    (∀ {σ α : Type} {s t : σ} {a : α} {f : σ → Except String α},
      check f s = (.ok a, t) ↔ f s = .ok a ∧ s = t) ∧
    (∀ {σ : Type} {s t : σ} {u : Unit} {f : σ → σ}, modify f s = (.ok u, t) ↔ f s = t) ∧
    (∀ {σ : Type} {s t : σ} {u : Unit} {f : σ → Except String σ},
      update f s = (.ok u, t) ↔ f s = .ok t) ∧
    (∀ {σ α : Type} {s t : σ} {a c : α}, (pure a : InPlace σ α) s = (.ok c, t) ↔ a = c ∧ s = t) ∧
    (∀ {σ : Type} {s : σ} {p : Prop} {q : σ → Prop}, (∃ u, (p ∧ s = u) ∧ q u) ↔ p ∧ q s) ∧
    ∀ {σ : Type} {s : σ} {q : σ → Prop}, (∃ u, s = u ∧ q u) ↔ q s :=
  ⟨bind_eq, check_eq, modify_eq, update_eq, pure_eq, by simp, exists_eq_left'⟩

theorem check_bind_eq_update {f : σ → Except String α} {g : α → InPlace σ Unit}
    {h : α → σ → Except String σ} (hg : ∀ a, f s = .ok a → g a s = update (h a) s) :
    (check f >>= g) s = update (fun s => f s >>= fun a => h a s) s := by
  change (match (f s, s) with
    | (.ok a, t) => g a t
    | (.error e, t) => (.error e, t)) = update (fun s => f s >>= fun a => h a s) s
  cases hf : f s with
  | ok a => simp only [hg a hf, update, hf]; rfl
  | error => simp only [update, hf]; rfl

theorem each_invariant {inv : σ → Prop} {as : List α}
    (hstep : ∀ a ∈ as, ∀ s t, f a s = (.ok (), t) → inv s → inv t)
    (h : each f as s = (.ok u, t)) (hs : inv s) : inv t := by
  induction as generalizing s with
  | nil =>
    rw [each_nil] at h
    exact h ▸ hs
  | cons a as ih =>
    rw [each_cons] at h
    obtain ⟨v, hv, ht⟩ := h
    exact ih (fun b hb => hstep b (mem_cons_of_mem _ hb)) ht
      (hstep a mem_cons_self s v hv hs)

end Inversion

def Restores (x : InPlace σ α) : Prop := ∀ s e t, x s = (.error e, t) → t = s

section Failure

variable {x : InPlace σ α} {f : α → InPlace σ β}

theorem bind_snd_of_ok {s : σ} {a : α} {t : σ} (h : x s = (.ok a, t)) :
    (x >>= f) s = f a t := by
  change (match x s with
    | (.ok a, t) => f a t
    | (.error e, t) => (.error e, t)) = f a t
  rw [h]

theorem bind_snd_of_error {s : σ} {e : String} {t : σ} (h : x s = (.error e, t)) :
    (x >>= f) s = (.error e, t) := by
  change (match x s with
    | (.ok a, t) => f a t
    | (.error e, t) => (.error e, t)) = (.error e, t)
  rw [h]

theorem restores_transaction (commit : Bool) (body : InPlace σ α) :
    Restores (transaction commit body) := by
  intro s e t h
  cases hb : body s with
  | mk result u =>
    cases result with
    | ok => simp [transaction, hb] at h
    | error => simp [transaction, hb] at h; exact h.2.symm

theorem restores_update (f : σ → Except String σ) : Restores (update f) := by
  intro s e t h
  cases hf : f s with
  | ok => simp [update, hf] at h
  | error => simp [update, hf] at h; exact h.2.symm

theorem restores_check_bind {g : σ → Except String α} (hf : ∀ a, Restores (f a)) :
    Restores (check g >>= f) := by
  intro s e t h
  cases hg : g s with
  | ok a =>
    rw [bind_snd_of_ok (show check g s = (.ok a, s) by rw [check, hg])] at h
    exact hf a s e t h
  | error =>
    rw [bind_snd_of_error (show check g s = _ by rw [check, hg])] at h
    cases h
    rfl

theorem Restores.discard {b : β} (hx : Restores x) : Restores (do let _ ← x; pure b) := by
  intro s e t h
  cases hr : x s with
  | mk result u =>
    cases result with
    | ok =>
      rw [bind_snd_of_ok hr] at h
      cases h
    | error =>
      rw [bind_snd_of_error hr] at h
      cases h
      exact hx s _ _ hr

end Failure

section Runs

variable (exec : η → InPlace σ α)

def run (s : σ) (ops : List η) : σ := ops.foldl (fun s op => (exec op s).2) s

/-- Every accepted operation of the run is one `P` allows. -/
def EachAccepted (P : σ → η → Prop) (s : σ) : List η → Prop
  | [] => True
  | op :: ops => ((exec op s).1.isOk = true → P s op) ∧ EachAccepted P (exec op s).2 ops

variable {exec} {P : σ → η → Prop} {inv : σ → Prop}

/-- Accepted operations keep the invariant and refused ones keep the store. -/
theorem EachAccepted.invariant
    (hstep : ∀ s op a t, inv s → P s op → exec op s = (.ok a, t) → inv t)
    (hfail : ∀ op, Restores (exec op)) {ops : List η} {s : σ} (hs : inv s)
    (hP : EachAccepted exec P s ops) : inv (run exec s ops) := by
  induction ops generalizing s with
  | nil => exact hs
  | cons op ops ih =>
    obtain ⟨hop, hrest⟩ := hP
    have hnext : inv (exec op s).2 := by
      cases h : exec op s with
      | mk result t =>
        cases result with
        | ok a =>
          have hallowed : P s op := hop (by simp [h, Except.isOk, Except.toBool])
          exact hstep s op a t hs hallowed h
        | error e =>
          obtain rfl := hfail op s e t h
          exact hs
    exact ih hnext hrest

theorem run_append (s : σ) (ops more : List η) :
    run exec s (ops ++ more) = run exec (run exec s ops) more := by
  simp [run, foldl_append]

theorem eachAccepted_append {s : σ} {ops more : List η} :
    EachAccepted exec P s (ops ++ more) ↔
      EachAccepted exec P s ops ∧ EachAccepted exec P (run exec s ops) more := by
  induction ops generalizing s with
  | nil => simp [EachAccepted, run]
  | cons op ops ih => simp only [cons_append, EachAccepted, ih, and_assoc]; rfl

/-- Invariants that need no condition on the operations. -/
theorem run_invariant (hstep : ∀ s op a t, inv s → exec op s = (.ok a, t) → inv t)
    (hfail : ∀ s op e t, inv s → exec op s = (.error e, t) → inv t) (ops : List η) {s : σ}
    (hs : inv s) : inv (run exec s ops) := by
  induction ops generalizing s with
  | nil => exact hs
  | cons op ops ih =>
    have hnext : inv (exec op s).2 := by
      cases h : exec op s with
      | mk result t =>
        cases result with
        | ok a => exact hstep s op a t hs h
        | error e => exact hfail s op e t hs h
    exact ih hnext

end Runs

section Results

/-! What a body leaves behind, whether it succeeded or not. -/

variable {s : σ} {inv : σ → Prop} {f : σ → Except String α} {g : α → InPlace σ β}

theorem check_bind_ok {a : α} (h : f s = .ok a) : (check f >>= g) s = g a s :=
  bind_snd_of_ok (check_eq.mpr ⟨h, rfl⟩)

theorem check_bind_error {e : String} (h : f s = .error e) : (check f >>= g) s = (.error e, s) :=
  bind_snd_of_error (by simp [check, h])

theorem check_bind_cases
    (hfail : ∀ e, f s = .error e → inv s) (hok : ∀ a, f s = .ok a → inv (g a s).2) :
    inv ((check f >>= g) s).2 := by
  cases hf : f s with
  | ok a =>
    rw [check_bind_ok hf]
    exact hok a hf
  | error e =>
    rw [check_bind_error hf]
    exact hfail e hf

theorem check_bind_snd (hs : inv s)
    (h : ∀ a, f s = .ok a → inv (g a s).2) : inv ((check f >>= g) s).2 :=
  check_bind_cases (fun _ _ => hs) h

theorem check_bind_snd_iff {P : σ → Prop} (hs : P s) :
    P ((check f >>= g) s).2 ↔ ∀ a, f s = .ok a → P (g a s).2 := by
  refine ⟨fun h a ha => ?_, check_bind_snd hs⟩
  rwa [check_bind_ok ha] at h

theorem check_bind_inv {b : β} {t : σ}
    (h : (check f >>= g) s = (.ok b, t)) : ∃ a, f s = .ok a ∧ g a s = (.ok b, t) := by
  obtain ⟨a, u, hu, ht⟩ := bind_eq.mp h
  obtain ⟨ha, rfl⟩ := check_eq.mp hu
  exact ⟨a, ha, ht⟩

theorem check_bind_snd_of_ok {a : α}
    (hf : f s = .ok a) (h : inv (g a s).2) : inv ((check f >>= g) s).2 := by
  rw [check_bind_ok hf]
  exact h

theorem bind_snd {x : InPlace σ α} (hx : inv (x s).2)
    (hg : ∀ a t, x s = (.ok a, t) → inv t → inv (g a t).2) : inv ((x >>= g) s).2 := by
  cases h : x s with
  | mk result t =>
    rw [h] at hx
    cases result with
    | ok a =>
      rw [bind_snd_of_ok h]
      exact hg a t h hx
    | error =>
      rw [bind_snd_of_error h]
      exact hx

theorem each_snd {f : α → InPlace σ Unit} (hf : ∀ a s, inv s → inv (f a s).2) (as : List α)
    (hs : inv s) : inv (each f as s).2 := by
  induction as generalizing s with
  | nil => exact hs
  | cons a as ih => exact bind_snd (hf a s hs) fun _ _ _ ht => ih ht

theorem modify_bind {f : σ → σ} {g : Unit → InPlace σ β} :
    (modify f >>= g) s = g () (f s) := rfl

theorem modify_bind_inv {f : σ → σ} {g : Unit → InPlace σ β} {result : Except String β × σ}
    (h : (modify f >>= g) s = result) : g () (f s) = result := h

theorem modify_bind_snd {f : σ → σ} {g : Unit → InPlace σ β} (h : inv (g () (f s)).2) :
    inv ((modify f >>= g) s).2 := h

end Results

section Traces

variable (exec : η → InPlace σ α)

def visited (s : σ) : List η → List σ
  | [] => [s]
  | op :: ops => s :: visited (exec op s).2 ops

def Always (P : σ → η → Prop) (s : σ) : List η → Prop
  | [] => True
  | op :: ops => P s op ∧ Always P (exec op s).2 ops

def Sometime (P : σ → η → Prop) (s : σ) : List η → Prop
  | [] => False
  | op :: ops => P s op ∨ Sometime P (exec op s).2 ops

instance Always.decidable {P : σ → η → Prop} [∀ s op, Decidable (P s op)] :
    ∀ (s : σ) (ops : List η), Decidable (Always exec P s ops)
  | _, [] => isTrue trivial
  | s, op :: ops =>
    @instDecidableAnd _ _ inferInstance (Always.decidable (exec op s).2 ops)

variable {exec} {s : σ} {P : σ → η → Prop} {inv : σ → Prop}

theorem run_cons (op : η) (ops : List η) : run exec s (op :: ops) = run exec (exec op s).2 ops := rfl

theorem self_mem_visited (ops : List η) : s ∈ visited exec s ops := by
  cases ops with
  | nil => simp [visited]
  | cons => simp [visited]

theorem mem_visited_append {t : σ} {ops more : List η} :
    t ∈ visited exec s (ops ++ more) ↔
      t ∈ visited exec s ops ∨ t ∈ visited exec (run exec s ops) more := by
  induction ops generalizing s with
  | nil =>
    -- the first state of the second run is the only one of the first
    change _ ↔ t ∈ [s] ∨ _
    rw [mem_singleton]
    exact ⟨Or.inr, fun h => h.elim (fun h => h ▸ self_mem_visited more) fun h => h⟩
  | cons op ops ih =>
    change t ∈ s :: visited exec (exec op s).2 (ops ++ more) ↔
      t ∈ s :: visited exec (exec op s).2 ops ∨ _
    rw [mem_cons, mem_cons, ih, or_assoc]
    rfl

theorem always_append {ops more : List η} :
    Always exec P s (ops ++ more) ↔ Always exec P s ops ∧ Always exec P (run exec s ops) more := by
  induction ops generalizing s with
  | nil => simp [Always, run]
  | cons op ops ih =>
    change P s op ∧ Always exec P (exec op s).2 (ops ++ more) ↔
      (P s op ∧ Always exec P (exec op s).2 ops) ∧ _
    rw [ih, and_assoc]
    rfl

theorem Always.imp {Q : σ → η → Prop} (himp : ∀ s op, P s op → Q s op) {ops : List η}
    (hP : Always exec P s ops) : Always exec Q s ops := by
  induction ops generalizing s with
  | nil => trivial
  | cons op ops ih => exact ⟨himp s op hP.1, ih hP.2⟩

theorem Always.invariant (hstep : ∀ s op, inv s → P s op → inv (exec op s).2) {ops : List η}
    (hP : Always exec P s ops) (hs : inv s) : inv (run exec s ops) := by
  induction ops generalizing s with
  | nil => exact hs
  | cons op ops ih => exact ih hP.2 (hstep s op hs hP.1)

end Traces

section Histories

structure Step (σ η : Type) where
  before : σ
  op : η
  after : σ

def history (exec : η → InPlace σ α) (s : σ) : List η → List (Step σ η)
  | [] => []
  | op :: ops =>
    match exec op s with
    | (.ok _, t) => ⟨s, op, t⟩ :: history exec t ops
    | (.error _, t) => history exec t ops

variable {exec : η → InPlace σ α} {s t : σ} {op : η} {ops : List η} {a : α} {e : String}

theorem history_cons_ok (h : exec op s = (.ok a, t)) :
    history exec s (op :: ops) = ⟨s, op, t⟩ :: history exec t ops := by
  simp [history, h]

theorem history_cons_error (h : exec op s = (.error e, t)) :
    history exec s (op :: ops) = history exec t ops := by
  simp [history, h]

theorem run_cons_eq {result : Except String α} (h : exec op s = (result, t)) :
    run exec s (op :: ops) = run exec t ops := by
  simp [run, h]

theorem history_append (s : σ) (ops more : List η) :
    history exec s (ops ++ more) = history exec s ops ++ history exec (run exec s ops) more := by
  induction ops generalizing s with
  | nil => rfl
  | cons op ops ih =>
    cases h : exec op s with
    | mk result t =>
      rw [run_cons_eq h]
      cases result with
      | ok => rw [cons_append, history_cons_ok h, history_cons_ok h, ih, cons_append]
      | error => rw [cons_append, history_cons_error h, history_cons_error h, ih]

/-- Each step of a history was taken in the state its predecessors led to. -/
theorem exists_prefix_of_mem_history {step : Step σ η} (h : step ∈ history exec s ops) :
    ∃ done a, done ++ [step.op] <+: ops ∧ step.before = run exec s done ∧
      exec step.op step.before = (.ok a, step.after) := by
  induction ops generalizing s with
  | nil => simp [history] at h
  | cons op ops ih =>
    cases hx : exec op s with
    | mk result t =>
      cases result with
      | ok a =>
        rw [history_cons_ok hx] at h
        rcases mem_cons.mp h with rfl | h
        · exact ⟨[], a, by simp, rfl, hx⟩
        · obtain ⟨done, b, hdone, hbefore, hstep⟩ := ih h
          refine ⟨op :: done, b, ?_, ?_, hstep⟩
          · simpa using hdone
          · rw [hbefore, run_cons_eq hx]
      | error =>
        rw [history_cons_error hx] at h
        obtain ⟨done, b, hdone, hbefore, hstep⟩ := ih h
        refine ⟨op :: done, b, ?_, ?_, hstep⟩
        · simpa using hdone
        · rw [hbefore, run_cons_eq hx]

/-- A run goes on from the state that each of its steps led to. -/
theorem exists_rest_of_mem_history {step : Step σ η} (h : step ∈ history exec s ops) :
    ∃ rest, run exec s ops = run exec step.after rest := by
  obtain ⟨done, a, ⟨rest, rfl⟩, hbefore, hstep⟩ := exists_prefix_of_mem_history h
  refine ⟨rest, ?_⟩
  rw [run_append, run_append, ← hbefore, run_cons_eq hstep]
  rfl

/-- An invariant that also speaks of the steps taken so far. -/
theorem history_invariant {inv : List (Step σ η) → σ → Prop}
    (hstep : ∀ done s op a t, inv done s → exec op s = (.ok a, t) → inv (done ++ [⟨s, op, t⟩]) t)
    (hfail : ∀ s op e t, exec op s = (.error e, t) → t = s) (ops : List η)
    {done : List (Step σ η)} (hs : inv done s) :
    inv (done ++ history exec s ops) (run exec s ops) := by
  induction ops generalizing s done with
  | nil => simpa [history, run] using hs
  | cons op ops ih =>
    cases h : exec op s with
    | mk result t =>
      rw [run_cons_eq h]
      cases result with
      | ok a => simpa [history_cons_ok h] using ih (hstep done s op a t hs h)
      | error e =>
        obtain rfl := hfail s op e t h
        rw [history_cons_error h]
        exact ih hs

/-- A quantity that every accepted operation raises by its own contribution. -/
theorem run_eq_add_history {M : Type} [AddCommMonoid M] {inv : σ → Prop} (f : σ → M) (g : η → M)
    (hstep : ∀ s op a t, inv s → exec op s = (.ok a, t) → inv t ∧ f t = f s + g op)
    (hfail : ∀ s op e t, inv s → exec op s = (.error e, t) → t = s) (ops : List η) (hs : inv s) :
    f (run exec s ops) = f s + ((history exec s ops).map fun step => g step.op).sum := by
  induction ops generalizing s with
  | nil => simp [run, history]
  | cons op ops ih =>
    cases h : exec op s with
    | mk result t =>
      rw [run_cons_eq h]
      cases result with
      | ok a =>
        obtain ⟨ht, hadd⟩ := hstep s op a t hs h
        rw [ih ht, history_cons_ok h, map_cons, sum_cons, hadd, add_assoc]
      | error e =>
        obtain rfl := hfail s op e t hs h
        rw [ih hs, history_cons_error h]

/-- What holds at the end held at the start or was brought about by an accepted operation. -/
theorem exists_cause {inv : σ → Prop} (Q : σ → Prop) (cause : Step σ η → Prop)
    (hstep : ∀ s op a t, inv s → exec op s = (.ok a, t) → inv t ∧ (Q t → Q s ∨ cause ⟨s, op, t⟩))
    (hfail : ∀ s op e t, inv s → exec op s = (.error e, t) → t = s) (ops : List η) (hs : inv s)
    (hQ : Q (run exec s ops)) : Q s ∨ ∃ step ∈ history exec s ops, cause step := by
  induction ops generalizing s with
  | nil => exact Or.inl hQ
  | cons op ops ih =>
    cases h : exec op s with
    | mk result t =>
      rw [run_cons_eq h] at hQ
      cases result with
      | ok a =>
        obtain ⟨ht, hback⟩ := hstep s op a t hs h
        rw [history_cons_ok h]
        rcases ih ht hQ with hQt | ⟨step, hmem, hcause⟩
        · grind
        · exact Or.inr ⟨step, mem_cons_of_mem _ hmem, hcause⟩
      | error e =>
        obtain rfl := hfail s op e t hs h
        rw [history_cons_error h]
        exact ih hs hQ

/-- What happens only while `spent` is false, makes it true and can never make
it false again, happens at most once in a history. -/
theorem countP_history_le_one (inv spent : σ → Prop) (event : Step σ η → Bool)
    (hstep : ∀ s op a t, inv s → exec op s = (.ok a, t) →
      inv t ∧ (spent s → spent t) ∧ (event ⟨s, op, t⟩ = true → ¬ spent s ∧ spent t))
    (hfail : ∀ s op e t, inv s → exec op s = (.error e, t) → inv t ∧ (spent s → spent t))
    (ops : List η) (hs : inv s) :
    (history exec s ops).countP event ≤ 1 ∧
      (spent s → (history exec s ops).countP event = 0) := by
  induction ops generalizing s with
  | nil => simp [history]
  | cons op ops ih =>
    cases h : exec op s with
    | mk result t =>
      cases result with
      | ok a =>
        obtain ⟨ht, hmono, hevent⟩ := hstep s op a t hs h
        obtain ⟨hle, hzero⟩ := ih ht
        rw [history_cons_ok h, countP_cons]
        by_cases hhere : event ⟨s, op, t⟩ = true
        · grind
        · simp only [hhere]
          exact ⟨hle, fun hs => hzero (hmono hs)⟩
      | error e =>
        obtain ⟨ht, hmono⟩ := hfail s op e t hs h
        rw [history_cons_error h]
        obtain ⟨hle, hzero⟩ := ih ht
        exact ⟨hle, fun hs => hzero (hmono hs)⟩

/-- Keys that an operation may use only while they are not spent, and that it spends,
are used at most once in a whole run. -/
theorem nodup_history_keys {κ : Type} (inv : σ → Prop) (spent : σ → κ → Prop)
    (keys : Step σ η → List κ)
    (hstep : ∀ s op a t, inv s → exec op s = (.ok a, t) →
      inv t ∧ (∀ k, spent s k → spent t k) ∧ (keys ⟨s, op, t⟩).Nodup ∧
        ∀ k ∈ keys ⟨s, op, t⟩, ¬spent s k ∧ spent t k)
    (hfail : ∀ s op e t, inv s → exec op s = (.error e, t) → t = s)
    (ops : List η) (hs : inv s) :
    ((history exec s ops).flatMap keys).Nodup ∧
      ∀ k ∈ (history exec s ops).flatMap keys, ¬spent s k := by
  induction ops generalizing s with
  | nil => simp [history]
  | cons op ops ih =>
    cases h : exec op s with
    | mk result t =>
      cases result with
      | ok a =>
        obtain ⟨ht, hmono, hnodup, hkeys⟩ := hstep s op a t hs h
        obtain ⟨hrest, hfresh⟩ := ih ht
        rw [history_cons_ok h, flatMap_cons]
        constructor
        · grind
        · grind
      | error e =>
        obtain rfl := hfail s op e t hs h
        rw [history_cons_error h]
        exact ih hs

end Histories
end InPlace
end DeFMI.Lib
