import Mathlib.Logic.Basic

/-!
# Programs that call for effects

A program either returns or calls for an effect and goes on with the answer, whatever that is.
What its calls must meet and what holds when it returns is said with an observation: a state that
every call and its answer update.  A property of this kind holds along every way the answers can
take, and also wherever the program is stopped.

A process is a program with a local variable that may also fail, as a function of the source does
that works on a `&mut` argument and returns early with `?`.

## Main definitions

* `Program`, `Program.bind` — programs.
* `Program.Ensures` — every call meets `pre`, and `post` holds at the end.
* `Process` with `get`, `set`, `fail`, `call`, `ofExcept`, `ofOption`, `attempt`, `require`.
* `Process.Ensures` — the same, with the variable and the two ways to end.

## Main results

* `Program.ensures_bind`, `Program.Ensures.mono` — composition and consequence.
* `Process.ensures_bind` and one rule for each operation.
-/

namespace Lxcup.Lib

variable {ε : Type} {ρ : ε → Type} {α β σ φ τ : Type}

/-- A program over the effects `ε`, whose answers are of the types `ρ`. -/
inductive Program (ε : Type) (ρ : ε → Type) (α : Type) : Type
  | ret (a : α)
  | call (e : ε) (k : ρ e → Program ε ρ α)

namespace Program

/-- One program after the other. -/
def bind : Program ε ρ α → (α → Program ε ρ β) → Program ε ρ β
  | ret a, f => f a
  | call e k, f => call e fun r => (k r).bind f

/-- Every call meets `pre`, and `post` holds at the end, from the observation `s` on. -/
def Ensures (observe : σ → (e : ε) → ρ e → σ) (pre : σ → ε → Prop) (post : σ → α → Prop) :
    Program ε ρ α → σ → Prop
  | ret a, s => post s a
  | call e k, s => pre s e ∧ ∀ r, (k r).Ensures observe pre post (observe s e r)

variable {observe : σ → (e : ε) → ρ e → σ} {pre : σ → ε → Prop}

/-- **Composition.** -/
theorem ensures_bind {post : σ → β → Prop} {p : Program ε ρ α} {f : α → Program ε ρ β} {s : σ} :
    (p.bind f).Ensures observe pre post s ↔
      p.Ensures observe pre (fun s a => (f a).Ensures observe pre post s) s := by
  induction p generalizing s with
  | ret a => rfl
  | call e k ih =>
    simp only [bind, Ensures]
    exact and_congr_right fun _ => forall_congr' fun r => ih r

/-- **Consequence.** -/
theorem Ensures.mono {post post' : σ → α → Prop} (h : ∀ s a, post s a → post' s a)
    {p : Program ε ρ α} {s : σ} (hp : p.Ensures observe pre post s) :
    p.Ensures observe pre post' s := by
  induction p generalizing s with
  | ret a => exact h s a hp
  | call e k ih => exact ⟨hp.1, fun r => ih r (hp.2 r)⟩

theorem Ensures.mono_pre {pre' : σ → ε → Prop} {post : σ → α → Prop}
    (h : ∀ s e, pre s e → pre' s e) {p : Program ε ρ α} {s : σ}
    (hp : p.Ensures observe pre post s) : p.Ensures observe pre' post s := by
  induction p generalizing s with
  | ret a => exact hp
  | call e k ih => exact ⟨h s e hp.1, fun r => ih r (hp.2 r)⟩

end Program

/-- A program with a variable of type `τ` that may fail with a `φ`. -/
def Process (ε : Type) (ρ : ε → Type) (φ τ α : Type) : Type :=
  τ → Program ε ρ (Except φ α × τ)

namespace Process

/-- What was assigned before a failure stays assigned. -/
instance : Monad (Process ε ρ φ τ) where
  pure a := fun t => .ret (.ok a, t)
  bind p f := fun t => (p t).bind fun
    | (.ok a, t) => f a t
    | (.error e, t) => .ret (.error e, t)

def get : Process ε ρ φ τ τ := fun t => .ret (.ok t, t)

def set (t : τ) : Process ε ρ φ τ Unit := fun _ => .ret (.ok (), t)

def fail (e : φ) : Process ε ρ φ τ α := fun t => .ret (.error e, t)

def call (e : ε) : Process ε ρ φ τ (ρ e) := fun t => .call e fun r => .ret (.ok r, t)

/-- `result?` -/
def ofExcept : Except φ α → Process ε ρ φ τ α
  | .ok a => pure a
  | .error e => fail e

/-- `option.ok_or(e)?` -/
def ofOption (o : Option α) (e : φ) : Process ε ρ φ τ α :=
  match o with
  | some a => pure a
  | none => fail e

/-- The result of a process, without passing on its failure. -/
def attempt {ψ : Type} (p : Process ε ρ φ τ α) : Process ε ρ ψ τ (Except φ α) :=
  fun t => (p t).bind fun (result, t) => .ret (.ok result, t)

/-- Fail with `e` unless `ok`. -/
def require (ok : Bool) (e : φ) : Process ε ρ φ τ Unit := if ok then pure () else fail e

/-- Every call meets `pre`; `ok` holds when the process succeeds and `err` when it fails. -/
def Ensures (observe : σ → (e : ε) → ρ e → σ) (pre : σ → ε → Prop) (ok : σ → τ → α → Prop)
    (err : σ → τ → φ → Prop) (p : Process ε ρ φ τ α) (t : τ) (s : σ) : Prop :=
  (p t).Ensures observe pre
    (fun s result => match result with
      | (.ok a, t) => ok s t a
      | (.error e, t) => err s t e) s

variable {observe : σ → (e : ε) → ρ e → σ} {pre : σ → ε → Prop} {err : σ → τ → φ → Prop}
  {t : τ} {s : σ}

theorem ensures_pure {ok : σ → τ → α → Prop} (a : α) :
    (pure a : Process ε ρ φ τ α).Ensures observe pre ok err t s ↔ ok s t a := Iff.rfl

theorem ensures_get {ok : σ → τ → τ → Prop} :
    (get : Process ε ρ φ τ τ).Ensures observe pre ok err t s ↔ ok s t t := Iff.rfl

theorem ensures_set {ok : σ → τ → Unit → Prop} (t' : τ) :
    (set t' : Process ε ρ φ τ Unit).Ensures observe pre ok err t s ↔ ok s t' () := Iff.rfl

theorem ensures_fail {ok : σ → τ → α → Prop} (e : φ) :
    (fail e : Process ε ρ φ τ α).Ensures observe pre ok err t s ↔ err s t e := Iff.rfl

theorem ensures_call (e : ε) {ok : σ → τ → ρ e → Prop} :
    (call e : Process ε ρ φ τ (ρ e)).Ensures observe pre ok err t s ↔
      pre s e ∧ ∀ r, ok (observe s e r) t r := Iff.rfl

/-- **One process after the other.** -/
theorem ensures_bind {ok : σ → τ → β → Prop} {p : Process ε ρ φ τ α}
    {f : α → Process ε ρ φ τ β} :
    (p >>= f).Ensures observe pre ok err t s ↔
      p.Ensures observe pre (fun s t a => (f a).Ensures observe pre ok err t s) err t s := by
  unfold Ensures
  change ((p t).bind _).Ensures observe pre _ s ↔ _
  rw [Program.ensures_bind]
  constructor
  · exact Program.Ensures.mono fun s result h => by
      obtain ⟨_ | _, _⟩ := result <;> exact h
  · exact Program.Ensures.mono fun s result h => by
      obtain ⟨_ | _, _⟩ := result <;> exact h

theorem ensures_ofExcept {ok : σ → τ → α → Prop} (result : Except φ α) :
    (ofExcept result : Process ε ρ φ τ α).Ensures observe pre ok err t s ↔
      match result with
      | .ok a => ok s t a
      | .error e => err s t e := by
  cases result <;> rfl

theorem ensures_ofOption {ok : σ → τ → α → Prop} (o : Option α) (e : φ) :
    (ofOption o e : Process ε ρ φ τ α).Ensures observe pre ok err t s ↔
      (∀ a, o = some a → ok s t a) ∧ (o = none → err s t e) := by
  cases o with
  | none =>
    constructor
    · intro h
      exact ⟨fun a ha => absurd ha (by simp), fun _ => h⟩
    · intro h
      exact h.2 rfl
  | some a =>
    constructor
    · intro h
      exact ⟨fun a' ha => Option.some.inj ha ▸ h, fun ha => absurd ha (by simp)⟩
    · intro h
      exact h.1 a rfl

theorem ensures_require {ok : σ → τ → Unit → Prop} (cond : Bool) (e : φ) :
    (require cond e : Process ε ρ φ τ Unit).Ensures observe pre ok err t s ↔
      if cond then ok s t () else err s t e := by
  cases cond <;> rfl

theorem ensures_attempt {ψ : Type} {ok : σ → τ → Except φ α → Prop} {err : σ → τ → ψ → Prop}
    {p : Process ε ρ φ τ α} :
    p.attempt.Ensures observe pre ok err t s ↔
      p.Ensures observe pre (fun s t a => ok s t (.ok a)) (fun s t e => ok s t (.error e)) t s := by
  unfold Ensures attempt
  rw [Program.ensures_bind]
  constructor
  · exact Program.Ensures.mono fun s result h => by
      obtain ⟨_ | _, _⟩ := result <;> exact h
  · exact Program.Ensures.mono fun s result h => by
      obtain ⟨_ | _, _⟩ := result <;> exact h

/-- **Consequence.** -/
theorem Ensures.mono {ok ok' : σ → τ → α → Prop} {err' : σ → τ → φ → Prop}
    {p : Process ε ρ φ τ α} (hp : p.Ensures observe pre ok err t s)
    (hok : ∀ s t a, ok s t a → ok' s t a) (herr : ∀ s t e, err s t e → err' s t e) :
    p.Ensures observe pre ok' err' t s :=
  Program.Ensures.mono (fun s result h => by
    obtain ⟨_ | _, t⟩ := result
    · exact herr s t _ h
    · exact hok s t _ h) hp

theorem Ensures.mono_pre {pre' : σ → ε → Prop} {ok : σ → τ → α → Prop}
    {p : Process ε ρ φ τ α} (h : ∀ s e, pre s e → pre' s e)
    (hp : p.Ensures observe pre ok err t s) : p.Ensures observe pre' ok err t s :=
  Program.Ensures.mono_pre h hp

end Process

end Lxcup.Lib
