import Mathlib.Logic.Relation
import Mathlib.Data.List.Forall2
set_option autoImplicit false

/-!
Fallible functions and transition systems. A guarded function is a `do` block
of `require` and `okOr` steps, and the `iff` lemmas here invert it; an
invariant of a system is proved once per step and then holds along every run.
-/

namespace DeFMI.Lib
open List

variable {α β σ ε η : Type}

/-- The value, or what was wrong. -/
abbrev Result := Except String

abbrev Check := Result Unit

def require (cond : Prop) [Decidable cond] (error : ε) : Except ε Unit :=
  if cond then .ok () else .error error

def okOr (x : Option α) (error : ε) : Except ε α :=
  match x with
  | some a => .ok a
  | none => .error error

variable {step : σ → α → Except ε σ} {as : List α} {apply : σ → η → Except ε σ} {s t : σ}
  {bs : List β} {x : Except ε α} {P : α → β → Prop} {inv : σ → Prop} {a : α} {error : ε} {κ : Type}
  {b : β}

@[simp] theorem require_eq_ok {cond : Prop} [Decidable cond] {u : Unit} :
    require cond error = .ok u ↔ cond := by
  unfold require
  by_cases h : cond
  · simp [h]
  · simp [h]

theorem require_ok {cond : Prop} [Decidable cond] {error : ε} (h : cond) :
    require cond error = .ok () := require_eq_ok.mpr h

theorem require_eq_error {cond : Prop} [Decidable cond] {error error' : ε} :
    require cond error = .error error' ↔ ¬cond ∧ error = error' := by
  unfold require
  by_cases h : cond
  · simp [h]
  · simp [h]

@[simp] theorem okOr_eq_ok {x : Option α} : okOr x error = .ok a ↔ x = some a := by
  cases x with
  | none => simp [okOr]
  | some => simp [okOr]

@[simp] theorem bind_eq_ok {f : α → Except ε β} :
    (x >>= f) = .ok b ↔ ∃ a, x = .ok a ∧ f a = .ok b := by
  cases x with
  | error =>
    constructor
    · intro h; cases h
    · intro h; obtain ⟨a, ha, _⟩ := h; cases ha
  | ok a =>
    constructor
    · intro h; exact ⟨a, rfl, h⟩
    · intro h; obtain ⟨a', ha, h⟩ := h; cases ha; exact h

theorem bind_ok {a : α} {f : α → Except ε β} (hx : x = .ok a) (hf : f a = .ok b) :
    (x >>= f) = .ok b := bind_eq_ok.mpr ⟨a, hx, hf⟩

@[simp] theorem pure_eq_ok {a b : α} : (pure a : Except ε α) = .ok b ↔ a = b := by
  constructor
  · intro h; cases h; rfl
  · intro h; subst h; rfl

/-- How a block of steps succeeds, as one set of rules: what was checked, in order. -/
theorem ok_iff :
    (∀ {ε α β : Type} {x : Except ε α} {f : α → Except ε β} {b : β},
      (x >>= f) = .ok b ↔ ∃ a, x = .ok a ∧ f a = .ok b) ∧
    (∀ {ε : Type} {cond : Prop} [Decidable cond] {error : ε} {u : Unit},
      require cond error = .ok u ↔ cond) ∧
    (∀ {ε α : Type} {x : Option α} {error : ε} {a : α}, okOr x error = .ok a ↔ x = some a) ∧
    (∀ {ε α : Type} {a b : α}, (pure a : Except ε α) = .ok b ↔ a = b) ∧
    ∀ {p : Unit → Prop}, (∃ u, p u) ↔ p () :=
  ⟨bind_eq_ok, require_eq_ok, okOr_eq_ok, pure_eq_ok, ⟨fun ⟨_, h⟩ => h, fun h => ⟨(), h⟩⟩⟩

@[simp] theorem map_eq_ok {f : α → β} : x.map f = .ok b ↔ ∃ a, x = .ok a ∧ f a = b := by
  cases x with
  | error => simp [Except.map]
  | ok => simp [Except.map]

theorem isOk_eq_true : x.isOk = true ↔ ∃ a, x = .ok a := by
  cases x with
  | ok => simp [Except.isOk, Except.toBool]
  | error => simp [Except.isOk, Except.toBool]

@[simp] theorem mapError_eq_ok {f : ε → η} : x.mapError f = .ok a ↔ x = .ok a := by
  cases x with
  | error => simp [Except.mapError]
  | ok => simp [Except.mapError]

def forEach (check : α → Except ε Unit) : List α → Except ε Unit
  | [] => .ok ()
  | a :: as => do
    check a
    forEach check as

@[simp] theorem forEach_eq_ok {check : α → Except ε Unit} {u : Unit} :
    forEach check as = .ok u ↔ ∀ a ∈ as, check a = .ok () := by
  induction as with
  | nil => simp [forEach]
  | cons a as ih =>
    simp only [forEach, bind_eq_ok, ih, forall_mem_cons]
    exact ⟨fun ⟨(), ha, has⟩ => ⟨ha, has⟩, fun ⟨ha, has⟩ => ⟨(), ha, has⟩⟩

def mapEach (f : α → Except ε β) : List α → Except ε (List β)
  | [] => .ok []
  | a :: as => do
    let b ← f a
    let bs ← mapEach f as
    pure (b :: bs)

@[simp] theorem mapEach_eq_ok {f : α → Except ε β} :
    mapEach f as = .ok bs ↔ Forall₂ (fun a b => f a = .ok b) as bs := by
  induction as generalizing bs with
  | nil => simp [mapEach, eq_comm]
  | cons a as ih =>
    simp only [mapEach, bind_eq_ok, ih, pure_eq_ok, forall₂_cons_left_iff]
    constructor
    · rintro ⟨b, hb, cs, hcs, rfl⟩
      exact ⟨b, cs, hb, hcs, rfl⟩
    · rintro ⟨b, cs, hb, hcs, rfl⟩
      exact ⟨b, hb, cs, hcs, rfl⟩

def insertFresh [DecidableEq α] (seen : List α) (a : α) (error : ε) : Except ε (List α) := do
  require (a ∉ seen) error
  pure (a :: seen)

@[simp] theorem insertFresh_eq_ok [DecidableEq α] {seen seen' : List α} :
    insertFresh seen a error = .ok seen' ↔ a ∉ seen ∧ a :: seen = seen' := by
  simp only [insertFresh, bind_eq_ok, require_eq_ok, pure_eq_ok]
  exact ⟨fun ⟨_, hfresh, heq⟩ => ⟨hfresh, heq⟩, fun ⟨hfresh, heq⟩ => ⟨(), hfresh, heq⟩⟩

def foldEach (step : σ → α → Except ε σ) (s : σ) : List α → Except ε σ
  | [] => .ok s
  | a :: as => do
    let t ← step s a
    foldEach step t as

@[simp] theorem foldEach_nil : foldEach step s [] = .ok t ↔ s = t := by simp [foldEach]

@[simp] theorem foldEach_cons :
    foldEach step s (a :: as) = .ok t ↔ ∃ u, step s a = .ok u ∧ foldEach step u as = .ok t := by
  simp [foldEach]

theorem foldEach_invariant_mem (inv : σ → Prop)
    (hstep : ∀ s t, ∀ a ∈ as, step s a = .ok t → inv s → inv t)
    (h : foldEach step s as = .ok t) (hs : inv s) : inv t := by
  induction as generalizing s with
  | nil =>
    rw [foldEach_nil] at h
    exact h ▸ hs
  | cons a as ih =>
    rw [foldEach_cons] at h
    obtain ⟨u, hu, ht⟩ := h
    exact ih (fun s t b hb => hstep s t b (mem_cons_of_mem _ hb)) ht
      (hstep s u a mem_cons_self hu hs)

theorem foldEach_invariant (inv : σ → Prop) (hstep : ∀ s t a, step s a = .ok t → inv s → inv t)
    (h : foldEach step s as = .ok t) (hs : inv s) : inv t :=
  foldEach_invariant_mem inv (fun s t a _ => hstep s t a) h hs

/-- What each member brings about and no later member undoes holds of all members. -/
theorem foldEach_each (done : α → σ → Prop) (hdone : ∀ s t a, step s a = .ok t → done a t)
    (hkept : ∀ s t a b, step s a = .ok t → done b s → done b t)
    (h : foldEach step s as = .ok t) : ∀ a ∈ as, done a t := by
  induction as generalizing s with
  | nil => simp
  | cons a as ih =>
    rw [foldEach_cons] at h
    obtain ⟨u, hu, hrest⟩ := h
    intro b hb
    rcases mem_cons.mp hb with rfl | hb
    · exact foldEach_invariant (done b) (fun v w c hw => hkept v w c b hw) hrest (hdone s u b hu)
    · exact ih hrest b hb

/-- Every step enters the keys of its element into what was seen, so the keys of
the whole loop are new and pairwise distinct. -/
theorem foldEach_fresh (seen : σ → List κ) (keys : α → List κ)
    (hstep : ∀ s t a, step s a = .ok t → (seen s).Nodup →
      (seen t).Nodup ∧ (keys a ++ seen s).Perm (seen t)) (h : foldEach step s as = .ok t) (hs :
    (seen s).Nodup) :
    (seen t).Nodup ∧ (as.flatMap keys ++ seen s).Perm (seen t) := by
  induction as generalizing s with
  | nil =>
    rw [foldEach_nil] at h
    subst h
    exact ⟨hs, by simp⟩
  | cons a as ih =>
    rw [foldEach_cons] at h
    obtain ⟨u, hu, ht⟩ := h
    obtain ⟨hnodup, hperm⟩ := hstep s u a hu hs
    obtain ⟨hnodup', hperm'⟩ := ih ht hnodup
    refine ⟨hnodup', Perm.trans ?_ hperm'⟩
    have hfront : (as.flatMap keys ++ (keys a ++ seen s)).Perm (as.flatMap keys ++ seen u) :=
      Perm.append_left _ hperm
    refine Perm.trans ?_ hfront
    simp only [flatMap_cons, ← append_assoc]
    exact Perm.append_right _ perm_append_comm

theorem foldEach_fresh_map (seen : σ → List κ) (key : α → κ)
    (hstep : ∀ s t a, step s a = .ok t → key a ∉ seen s ∧ seen t = key a :: seen s)
    (h : foldEach step s as = .ok t) (hs : (seen s).Nodup) :
    (seen t).Nodup ∧ (as.map key ++ seen s).Perm (seen t) := by
  rw [map_eq_flatMap]
  refine foldEach_fresh seen (fun a => [key a]) ?_ h hs
  intro u v a ha hu
  obtain ⟨hfresh, heq⟩ := hstep u v a ha
  rw [heq]
  exact ⟨nodup_cons.mpr ⟨hfresh, hu⟩, Perm.refl _⟩

theorem foldEach_zip_nodup {step : σ → α × β → Except ε σ} (seen : σ → List κ) (keys : β → List κ)
    (hstep : ∀ s t m, step s m = .ok t → (seen s).Nodup →
      (seen t).Nodup ∧ (keys m.2 ++ seen s).Perm (seen t)) (hlen : as.length = bs.length)
    (h : foldEach step s (as.zip bs) = .ok t) (hs : (seen s).Nodup) : (bs.flatMap keys).Nodup := by
  have hkeys := foldEach_fresh seen (fun m : α × β => keys m.2) hstep h hs
  have hsnd : (as.zip bs).map Prod.snd = bs := map_snd_zip (Nat.le_of_eq hlen.symm)
  have hflat : (as.zip bs).flatMap (fun m => keys m.2) = bs.flatMap keys := by
    conv_rhs => rw [← hsnd]
    rw [flatMap_map]
  have hnodup := hkeys.2.nodup_iff.mpr hkeys.1
  rw [hflat] at hnodup
  exact (nodup_append.mp hnodup).1

theorem forall₂_mem_left (h : Forall₂ P as bs) (ha : a ∈ as) : ∃ b ∈ bs, P a b := by
  induction h with
  | nil => simp at ha
  | cons hab _ ih => grind

theorem forall₂_mem_right (h : Forall₂ P as bs) (hb : b ∈ bs) : ∃ a ∈ as, P a b :=
  forall₂_mem_left h.flip hb

theorem forall₂_map_eq {γ : Type} {f : α → γ} {g : β → γ} (h : Forall₂ P as bs)
    (hfg : ∀ a b, P a b → g b = f a) :
    bs.map g = as.map f := by
  induction h with
  | nil => rfl
  | cons hab _ ih => rw [map_cons, map_cons, hfg _ _ hab, ih]

def Reaches (step : σ → σ → Prop) (s t : σ) : Prop := Relation.ReflTransGen step s t

theorem Reaches.invariant {step : σ → σ → Prop}
    (hstep : ∀ s t, inv s → step s t → inv t) (hs : inv s) (h : Reaches step s t) :
    inv t := by
  induction h with
  | refl => exact hs
  | tail _ hlast ih => exact hstep _ _ ih hlast

def runEvents (apply : σ → η → Except ε σ) (s : σ) : List η → σ
  | [] => s
  | e :: es =>
    match apply s e with
    | .ok t => runEvents apply t es
    | .error _ => runEvents apply s es

def EachStep (apply : σ → η → Except ε σ) (P : σ → η → Prop) (s : σ) : List η → Prop
  | [] => True
  | e :: es =>
    P s e ∧
      match apply s e with
      | .ok t => EachStep apply P t es
      | .error _ => EachStep apply P s es

instance EachStep.decidable (apply : σ → η → Except ε σ) (P : σ → η → Prop)
    [∀ s e, Decidable (P s e)] : (s : σ) → (es : List η) → Decidable (EachStep apply P s es)
  | _, [] => isTrue trivial
  | s, e :: es =>
    match h : apply s e with
    | .ok t =>
      have := EachStep.decidable apply P t es
      decidable_of_iff (P s e ∧ EachStep apply P t es) (by simp [EachStep, h])
    | .error _ =>
      have := EachStep.decidable apply P s es
      decidable_of_iff (P s e ∧ EachStep apply P s es) (by simp [EachStep, h])

/-- `P`, asked of an event only where it is accepted. -/
def IfAccepted (apply : σ → η → Except ε σ) (P : σ → η → Prop) (s : σ) (e : η) : Prop :=
  (apply s e).isOk = true → P s e

instance (apply : σ → η → Except ε σ) (P : σ → η → Prop) [∀ s e, Decidable (P s e)] (s : σ)
    (e : η) : Decidable (IfAccepted apply P s e) :=
  inferInstanceAs (Decidable (_ → _))

theorem runEvents_append (s : σ) (es fs : List η) :
    runEvents apply s (es ++ fs) = runEvents apply (runEvents apply s es) fs := by
  induction es generalizing s with
  | nil => rfl
  | cons e es ih =>
    cases h : apply s e with
    | ok => simp [runEvents, h, ih]
    | error => simp [runEvents, h, ih]

/-- One step under `P` keeps the invariant, so a whole run under `P` does. -/
theorem EachStep.invariant {P : σ → η → Prop}
    (hstep : ∀ s t e, inv s → P s e → apply s e = .ok t → inv t) {es : List η} {s : σ}
    (hs : inv s) (hP : EachStep apply P s es) : inv (runEvents apply s es) := by
  induction es generalizing s with
  | nil => exact hs
  | cons e es ih =>
    obtain ⟨he, hrest⟩ := hP
    cases h : apply s e with
    | ok t =>
      simp only [h] at hrest
      simp only [runEvents, h]
      exact ih (hstep s t e hs he h) hrest
    | error =>
      simp only [h] at hrest
      simp only [runEvents, h]
      exact ih hs hrest

theorem EachStep.invariant_accepted {P : σ → η → Prop}
    (hstep : ∀ s t e, inv s → P s e → apply s e = .ok t → inv t) {es : List η} {s : σ}
    (hs : inv s) (hP : EachStep apply (IfAccepted apply P) s es) : inv (runEvents apply s es) :=
  hP.invariant (fun s t e hs he h => hstep s t e hs (he (by rw [h]; rfl)) h) hs

theorem eachStep_true (s : σ) (es : List η) : EachStep apply (fun _ _ => True) s es := by
  induction es generalizing s with
  | nil => trivial
  | cons e es ih =>
    cases h : apply s e with
    | ok => simp [EachStep, h, ih]
    | error => simp [EachStep, h, ih]

theorem runEvents_invariant
    (hstep : ∀ s t e, inv s → apply s e = .ok t → inv t) (es : List η) {s : σ} (hs : inv s) :
    inv (runEvents apply s es) :=
  (eachStep_true s es).invariant (fun s t e hi _ => hstep s t e hi) hs

end DeFMI.Lib
