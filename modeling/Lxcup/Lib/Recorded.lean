import Lxcup.Lib.Program

/-!
# Recorded processes

The observation that keeps every call with its answer.  Most parts of a process make calls of one
kind only, say such that read; what such a part finds out is told by the exchanges since it began,
whatever came before.

## Main definitions

* `Exchange`, `record` — a call with its answer, and the list of them.
* `All` — all calls are of a kind.
* `Process.Only` — a part of a process that makes calls of one kind only.
* `Process.Within` — a part of a process that keeps an invariant.

## Main results

* `Process.Only.bind` and one rule for each operation.
* `Process.Only.ensures_bind` — such a part in the place where it stands.
* `Process.Within.bind` and one rule for each operation.
-/

namespace Lxcup.Lib

variable {ε : Type} {ρ : ε → Type} {φ α β : Type}

/-- A call with its answer. -/
abbrev Exchange (ε : Type) (ρ : ε → Type) : Type := (e : ε) × ρ e

/-- Keep an exchange. -/
def record (seen : List (Exchange ε ρ)) (e : ε) (r : ρ e) : List (Exchange ε ρ) := seen ++ [⟨e, r⟩]

/-- All calls are of a kind. -/
def All (kind : ε → Prop) (seen : List (Exchange ε ρ)) : Prop := ∀ exchange ∈ seen, kind exchange.1

theorem all_nil {kind : ε → Prop} : All kind ([] : List (Exchange ε ρ)) := by simp [All]

theorem All.append {kind : ε → Prop} {seen more : List (Exchange ε ρ)} (h : All kind seen)
    (hmore : All kind more) : All kind (seen ++ more) := by
  intro exchange hmem
  obtain hmem | hmem := List.mem_append.mp hmem
  · exact h exchange hmem
  · exact hmore exchange hmem

theorem All.concat {kind : ε → Prop} {seen : List (Exchange ε ρ)} {e : ε} (h : All kind seen)
    (he : kind e) (r : ρ e) : All kind (seen ++ [⟨e, r⟩]) := by
  refine h.append fun exchange hmem => ?_
  obtain rfl := List.mem_singleton.mp hmem
  exact he

namespace Process

variable {kind : ε → Prop} {err : List (Exchange ε ρ) → φ → Prop}
  {ok : List (Exchange ε ρ) → α → Prop} {ok' : List (Exchange ε ρ) → β → Prop}
  {seen : List (Exchange ε ρ)}

/-- From `seen` on the process makes calls of the kind only, what it returns meets `ok`, and an
error meets `err`.  What was exchanged before `seen` does not matter. -/
def Only (kind : ε → Prop) (err : List (Exchange ε ρ) → φ → Prop)
    (ok : List (Exchange ε ρ) → α → Prop) (p : Process ε ρ φ Unit α)
    (seen : List (Exchange ε ρ)) : Prop :=
  ∀ base, p.Ensures record
    (fun s e => kind e ∧ ∃ more, s = base ++ more ∧ seen <+: more
      ∧ (All kind seen → All kind more))
    (fun s _ a => ∃ more, s = base ++ more ∧ seen <+: more ∧ (All kind seen → All kind more)
      ∧ ok more a)
    (fun s _ e => ∃ more, s = base ++ more ∧ seen <+: more ∧ (All kind seen → All kind more)
      ∧ err more e)
    () (base ++ seen)

theorem Only.bind {p : Process ε ρ φ Unit α} {f : α → Process ε ρ φ Unit β}
    (hp : Only kind err ok p seen)
    (hf : ∀ more a, seen <+: more → ok more a → Only kind err ok' (f a) more) :
    Only kind err ok' (p >>= f) seen := by
  intro base
  refine Process.ensures_bind.mpr ((hp base).mono ?_ fun _ _ _ h => h)
  rintro _ ⟨⟩ a ⟨more, rfl, hle, hall, hok⟩
  refine ((hf more a hle hok base).mono ?_ ?_).mono_pre ?_
  · rintro _ ⟨⟩ b ⟨more', rfl, hle', hall', hok'⟩
    exact ⟨more', rfl, hle.trans hle', fun h => hall' (hall h), hok'⟩
  · rintro _ ⟨⟩ e ⟨more', rfl, hle', hall', herr⟩
    exact ⟨more', rfl, hle.trans hle', fun h => hall' (hall h), herr⟩
  · rintro _ e ⟨he, more', rfl, hle', hall'⟩
    exact ⟨he, more', rfl, hle.trans hle', fun h => hall' (hall h)⟩

/-- The result of a part, without passing on its failure. -/
theorem Only.attempt {ψ : Type} {p : Process ε ρ φ Unit α}
    {err' : List (Exchange ε ρ) → ψ → Prop}
    {okResult : List (Exchange ε ρ) → Except φ α → Prop} (hp : Only kind err ok p seen)
    (hok : ∀ more a, seen <+: more → ok more a → okResult more (.ok a))
    (herr : ∀ more e, seen <+: more → err more e → okResult more (.error e)) :
    Only kind err' okResult p.attempt seen := by
  intro base
  refine Process.ensures_attempt.mpr ((hp base).mono ?_ ?_)
  · rintro _ ⟨⟩ a ⟨more, rfl, hle, hall, h⟩
    exact ⟨more, rfl, hle, hall, hok more a hle h⟩
  · rintro _ ⟨⟩ e ⟨more, rfl, hle, hall, h⟩
    exact ⟨more, rfl, hle, hall, herr more e hle h⟩

theorem Only.mono {ok' : List (Exchange ε ρ) → α → Prop} {p : Process ε ρ φ Unit α}
    (hp : Only kind err ok p seen) (h : ∀ more a, ok more a → ok' more a) :
    Only kind err ok' p seen := by
  intro base
  refine (hp base).mono ?_ fun _ _ _ h => h
  rintro _ ⟨⟩ a ⟨more, rfl, hle, hall, hok⟩
  exact ⟨more, rfl, hle, hall, h more a hok⟩

theorem Only.mono_err {err' : List (Exchange ε ρ) → φ → Prop} {p : Process ε ρ φ Unit α}
    (hp : Only kind err ok p seen) (h : ∀ more e, err more e → err' more e) :
    Only kind err' ok p seen := by
  intro base
  refine (hp base).mono (fun _ _ _ h => h) ?_
  rintro _ ⟨⟩ e ⟨more, rfl, hle, hall, herr⟩
  exact ⟨more, rfl, hle, hall, h more e herr⟩

theorem only_pure {a : α} (h : ok seen a) :
    Only kind err ok (pure a : Process ε ρ φ Unit α) seen :=
  fun _ => ⟨seen, rfl, List.prefix_rfl, id, h⟩

theorem only_fail {e : φ} (h : err seen e) :
    Only kind err ok (fail e : Process ε ρ φ Unit α) seen :=
  fun _ => ⟨seen, rfl, List.prefix_rfl, id, h⟩

theorem only_ofExcept {result : Except φ α} {f : α → Process ε ρ φ Unit β}
    (h : ∀ e, result = .error e → err seen e)
    (hf : ∀ a, result = .ok a → Only kind err ok' (f a) seen) :
    Only kind err ok' (ofExcept result >>= f) seen := by
  cases result with
  | error e => exact only_fail (h e rfl)
  | ok a => exact hf a rfl

theorem only_ofOption {o : Option α} {e : φ} {f : α → Process ε ρ φ Unit β} (h : err seen e)
    (hf : ∀ a, o = some a → Only kind err ok' (f a) seen) :
    Only kind err ok' (ofOption o e >>= f) seen := by
  cases o with
  | none => exact only_fail h
  | some a => exact hf a rfl

theorem only_require_of {cond : Bool} {e : φ} {f : Unit → Process ε ρ φ Unit β}
    (h : cond = false → err seen e) (hf : cond = true → Only kind err ok' (f ()) seen) :
    Only kind err ok' (require cond e >>= f) seen := by
  cases cond with
  | false => exact only_fail (h rfl)
  | true => exact hf rfl

theorem only_require {cond : Bool} {e : φ} {f : Unit → Process ε ρ φ Unit β} (h : err seen e)
    (hf : cond = true → Only kind err ok' (f ()) seen) :
    Only kind err ok' (require cond e >>= f) seen :=
  only_require_of (fun _ => h) hf

/-- A check at the end of a process. -/
theorem only_check {ok : List (Exchange ε ρ) → Unit → Prop} {cond : Bool} {e : φ} (h : err seen e)
    (hok : cond = true → ok seen ()) :
    Only kind err ok (require cond e : Process ε ρ φ Unit Unit) seen := by
  cases cond with
  | false => exact only_fail h
  | true => exact only_pure (hok rfl)

theorem only_call_eq {e : ε} (he : kind e) :
    Only kind err (fun more answer => more = seen ++ [⟨e, answer⟩])
      (call e : Process ε ρ φ Unit (ρ e)) seen := by
  refine fun base => ⟨⟨he, seen, rfl, List.prefix_rfl, id⟩, fun answer => ?_⟩
  exact ⟨seen ++ [⟨e, answer⟩], List.append_assoc base seen _, List.prefix_append seen _,
    fun h => h.concat he answer, rfl⟩

theorem only_call {e : ε} (he : kind e) :
    Only kind err (fun more answer => (⟨e, answer⟩ : Exchange ε ρ) ∈ more)
      (call e : Process ε ρ φ Unit (ρ e)) seen := by
  refine (only_call_eq he).mono ?_
  rintro _ answer rfl
  exact List.mem_append_right seen List.mem_cons_self

variable {pre : List (Exchange ε ρ) → ε → Prop} {err' : List (Exchange ε ρ) → Unit → φ → Prop}
  {okEnd : List (Exchange ε ρ) → Unit → β → Prop} {base more : List (Exchange ε ρ)}

/-- **A part in the place where it stands.** -/
theorem Only.ensures_bind {p : Process ε ρ φ Unit α} {f : α → Process ε ρ φ Unit β}
    (hp : Only kind err ok p more) (hall : All kind more)
    (hpre : ∀ more e, All kind more → kind e → pre (base ++ more) e)
    (herr : ∀ more e, All kind more → err more e → err' (base ++ more) () e)
    (hf : ∀ more' a, more <+: more' → All kind more' → ok more' a →
      (f a).Ensures record pre okEnd err' () (base ++ more')) :
    (p >>= f).Ensures record pre okEnd err' () (base ++ more) := by
  refine Process.ensures_bind.mpr (((hp base).mono ?_ ?_).mono_pre ?_)
  · rintro _ ⟨⟩ a ⟨more', rfl, hle, hall', hok⟩
    exact hf more' a hle (hall' hall) hok
  · rintro _ ⟨⟩ e ⟨more', rfl, -, hall', h⟩
    exact herr more' e (hall' hall) h
  · rintro _ e ⟨he, more', rfl, -, hall'⟩
    exact hpre more' e (hall' hall) he

/-- The last part. -/
theorem Only.ensures {p : Process ε ρ φ Unit β} (hp : Only kind err ok' p more)
    (hall : All kind more) (hpre : ∀ more e, All kind more → kind e → pre (base ++ more) e)
    (herr : ∀ more e, All kind more → err more e → err' (base ++ more) () e)
    (hok : ∀ more b, All kind more → ok' more b → okEnd (base ++ more) () b) :
    p.Ensures record pre okEnd err' () (base ++ more) := by
  refine ((hp base).mono ?_ ?_).mono_pre ?_
  · rintro _ ⟨⟩ b ⟨more', rfl, -, hall', h⟩
    exact hok more' b (hall' hall) h
  · rintro _ ⟨⟩ e ⟨more', rfl, -, hall', h⟩
    exact herr more' e (hall' hall) h
  · rintro _ e ⟨he, more', rfl, -, hall'⟩
    exact hpre more' e (hall' hall) he

/-- A call in the place where it stands. -/
theorem ensures_call_bind {e : ε} {f : ρ e → Process ε ρ φ Unit β} (h : pre seen e)
    (hf : ∀ r, (f r).Ensures record pre okEnd err' () (seen ++ [⟨e, r⟩])) :
    (call e >>= f).Ensures record pre okEnd err' () seen :=
  Process.ensures_bind.mpr ⟨h, hf⟩

/-- A check at the end. -/
theorem ensures_check {okEnd : List (Exchange ε ρ) → Unit → Unit → Prop} {cond : Bool} {e : φ}
    (h : err' seen () e) (hok : cond = true → okEnd seen () ()) :
    (require cond e).Ensures record pre okEnd err' () seen := by
  cases cond with
  | false => exact h
  | true => exact hok rfl

/-! ### Parts that keep an invariant -/

variable {inv : List (Exchange ε ρ) → Prop}

/-- The invariant holds wherever the part ends, and what it returns meets `ok`. -/
def Within (inv : List (Exchange ε ρ) → Prop) (pre : List (Exchange ε ρ) → ε → Prop)
    (ok : List (Exchange ε ρ) → α → Prop) (p : Process ε ρ φ Unit α)
    (seen : List (Exchange ε ρ)) : Prop :=
  p.Ensures record pre (fun s _ a => inv s ∧ ok s a) (fun s _ _ => inv s) () seen

theorem within_pure {a : α} (h : inv seen) (hok : ok seen a) :
    Within inv pre ok (pure a : Process ε ρ φ Unit α) seen := ⟨h, hok⟩

theorem within_fail {e : φ} (h : inv seen) :
    Within inv pre ok (fail e : Process ε ρ φ Unit α) seen := h

theorem within_require {cond : Bool} {e : φ} (h : inv seen) :
    Within inv pre (fun more _ => more = seen ∧ cond = true)
      (require cond e : Process ε ρ φ Unit Unit) seen := by
  cases cond with
  | false => exact h
  | true => exact ⟨h, rfl, rfl⟩

theorem within_ofExcept {result : Except φ α} (h : inv seen) :
    Within inv pre (fun more _ => more = seen) (ofExcept result : Process ε ρ φ Unit α) seen := by
  cases result with
  | error e => exact h
  | ok a => exact ⟨h, rfl⟩

theorem within_call {e : ε} (he : pre seen e) (hinv : ∀ r, inv (seen ++ [⟨e, r⟩])) :
    Within inv pre (fun more r => more = seen ++ [⟨e, r⟩])
      (call e : Process ε ρ φ Unit (ρ e)) seen :=
  ⟨he, fun r => ⟨hinv r, rfl⟩⟩

theorem Within.bind {p : Process ε ρ φ Unit α} {f : α → Process ε ρ φ Unit β}
    (hp : Within inv pre ok p seen)
    (hf : ∀ more a, inv more → ok more a → Within inv pre ok' (f a) more) :
    Within inv pre ok' (p >>= f) seen :=
  Process.ensures_bind.mpr (hp.mono (fun more _ a h => hf more a h.1 h.2) fun _ _ _ h => h)

theorem Within.mono {okMore : List (Exchange ε ρ) → α → Prop} {p : Process ε ρ φ Unit α}
    (hp : Within inv pre ok p seen) (h : ∀ more a, ok more a → okMore more a) :
    Within inv pre okMore p seen :=
  Ensures.mono hp (fun more _ a hok => ⟨hok.1, h more a hok.2⟩) fun _ _ _ h => h

theorem Within.attempt {ψ : Type} {p : Process ε ρ φ Unit α} (hp : Within inv pre ok p seen) :
    Within inv pre (fun _ _ => True) (p.attempt : Process ε ρ ψ Unit (Except φ α)) seen :=
  Process.ensures_attempt.mpr
    (Ensures.mono hp (fun _ _ _ h => ⟨h.1, trivial⟩) fun _ _ _ h => ⟨h, trivial⟩)

/-- Such a part in the place where it stands, when its failure is not passed on. -/
theorem Within.ensures_attempt_bind {ψ : Type} {p : Process ε ρ φ Unit α}
    {f : Except φ α → Process ε ρ ψ Unit β} {errEnd : List (Exchange ε ρ) → Unit → ψ → Prop}
    (hp : Within inv pre ok p seen)
    (hf : ∀ more result, inv more → (∀ a, result = .ok a → ok more a) →
      (f result).Ensures record pre okEnd errEnd () more) :
    (p.attempt >>= f).Ensures record pre okEnd errEnd () seen := by
  refine Process.ensures_bind.mpr (Process.ensures_attempt.mpr (Ensures.mono hp ?_ ?_))
  · rintro more ⟨⟩ a ⟨hmore, hok⟩
    exact hf more (.ok a) hmore fun a' ha => Except.ok.inj ha ▸ hok
  · rintro more ⟨⟩ e hmore
    exact hf more (.error e) hmore nofun

end Process

end Lxcup.Lib
