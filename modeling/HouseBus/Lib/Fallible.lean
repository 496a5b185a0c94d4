import Mathlib.Init

/-!
# Programs that can fail

A program reads and writes a state and gives a value, or it fails with a code (`EStateM`); a failed
program leaves the state as far as it came. `attempt` hands the code to the caller.

`Triple P x Q E`: from a state with `P` the program `x` leads to `Q` of its value and the state, or
it fails in a state with `E`. With `E` false it does not fail.
-/

namespace Fallible

variable {ε σ α β : Type}

/-- The result of `x`, which may be a code. -/
def attempt (x : EStateM ε σ α) : EStateM ε σ (Except ε α) := fun s =>
  match x s with
  | .ok a s => .ok (.ok a) s
  | .error e s => .ok (.error e) s

/-- The value, or the failure, of an earlier attempt. -/
def done : Except ε α → EStateM ε σ α
  | .ok a => pure a
  | .error e => throw e

/-- `x`, if `p` holds. -/
def runIf (p : Prop) [Decidable p] (x : EStateM ε σ Unit) : EStateM ε σ Unit :=
  if p then x else pure ()

/-- A result of a program: a value with `Q`, or a failure with `E`. -/
def Ends (Q : α → σ → Prop) (E : σ → Prop) : EStateM.Result ε σ α → Prop
  | .ok a s => Q a s
  | .error _ s => E s

/-- From `P` the program ends with `Q`, or fails with `E`. -/
def Triple (P : σ → Prop) (x : EStateM ε σ α) (Q : α → σ → Prop) (E : σ → Prop) : Prop :=
  ∀ s, P s → Ends Q E (x s)

variable {P P' : σ → Prop} {Q Q' : α → σ → Prop} {E E' : σ → Prop} {x : EStateM ε σ α}

theorem Triple.conseq (h : Triple P' x Q' E') (hP : ∀ s, P s → P' s)
    (hQ : ∀ a s, Q' a s → Q a s) (hE : ∀ s, E' s → E s) : Triple P x Q E := by
  intro s hs
  have hend := h s (hP s hs)
  cases hx : x s with
  | ok a s' => rw [hx] at hend; exact hQ a s' hend
  | error e s' => rw [hx] at hend; exact hE s' hend

theorem Triple.pre {R : σ → Prop} (h : Triple R x Q E) (hP : ∀ s, P s → R s) : Triple P x Q E :=
  h.conseq hP (fun _ _ => id) fun _ => id

theorem Triple.post (h : Triple P x Q' E) (hQ : ∀ a s, Q' a s → Q a s) : Triple P x Q E :=
  h.conseq (fun _ => id) hQ fun _ => id

theorem Triple.ret {a : α} (h : ∀ s, P s → Q a s) :
    Triple P (pure a : EStateM ε σ α) Q E := h

theorem Triple.fail {e : ε} (h : ∀ s, P s → E s) :
    Triple P (throw e : EStateM ε σ α) Q E := h

theorem Triple.bind {R : β → σ → Prop} {f : α → EStateM ε σ β} (h : Triple P x Q E)
    (hf : ∀ a, Triple (Q a) (f a) R E) : Triple P (x >>= f) R E := by
  intro s hs
  have hend := h s hs
  change Ends R E (EStateM.bind x f s)
  unfold EStateM.bind
  cases hx : x s with
  | ok a s' => rw [hx] at hend; exact hf a s' hend
  | error e s' => rw [hx] at hend; exact hend

/-- What the value is can be used for the rest of the program. -/
theorem Triple.assume {p : Prop} (h : p → Triple P x Q E) : Triple (fun s => p ∧ P s) x Q E :=
  fun s hs => h hs.1 s hs.2

theorem Triple.of_exists {ι : Sort*} {P : ι → σ → Prop} (h : ∀ i, Triple (P i) x Q E) :
    Triple (fun s => ∃ i, P i s) x Q E := by
  rintro s ⟨i, hs⟩
  exact h i s hs

theorem Triple.modify {f : σ → σ} {Q : Unit → σ → Prop} (h : ∀ s, P s → Q () (f s)) :
    Triple P (modify f : EStateM ε σ Unit) Q E := h

theorem Triple.state (h : ∀ s, P s → Ends Q E (x s)) : Triple P x Q E := h

theorem Triple.runIf {p : Prop} [Decidable p] {x : EStateM ε σ Unit} {Q : Unit → σ → Prop}
    (h : p → Triple P x Q E) (h' : ¬ p → ∀ s, P s → Q () s) : Triple P (runIf p x) Q E := by
  unfold Fallible.runIf
  split
  · next hp => exact h hp
  · next hp => exact Triple.ret (h' hp)

theorem Triple.get {Q : σ → σ → Prop} (h : ∀ s, P s → Q s s) :
    Triple P (get : EStateM ε σ σ) Q E := h

/-- An attempt does not fail. -/
theorem Triple.attempt (h : Triple P x Q E) :
    Triple P (attempt x)
      (fun r s => match r with | .ok a => Q a s | .error _ => E s) fun _ => False := by
  intro s hs
  have hend := h s hs
  unfold Fallible.attempt
  cases hx : x s with
  | ok a s' => rw [hx] at hend; exact hend
  | error e s' => rw [hx] at hend; exact hend

theorem Triple.done {r : Except ε α} (h : ∀ s, P s → match r with | .ok a => Q a s | .error _ => E s) :
    Triple P (done r : EStateM ε σ α) Q E := by
  cases r with
  | ok a => exact h
  | error e => exact h

theorem Triple.trivial : Triple P x (fun _ _ => True) fun _ => True := by
  intro s _
  cases x s with
  | ok a s' => exact True.intro
  | error e s' => exact True.intro

/-! ## Invariants -/

/-- The program keeps `I`, also where it fails. -/
def Always (I : σ → Prop) (x : EStateM ε σ α) : Prop := Triple I x (fun _ => I) I

variable {I : σ → Prop}

theorem Always.pure (a : α) : Always I (pure a : EStateM ε σ α) := fun _ => id

theorem Always.throw (e : ε) : Always I (throw e : EStateM ε σ α) := fun _ => id

theorem Always.bind {f : α → EStateM ε σ β} (h : Always I x) (hf : ∀ a, Always I (f a)) :
    Always I (x >>= f) := Triple.bind h hf

theorem Always.attempt (h : Always I x) : Always I (attempt x) := by
  refine (Triple.attempt h).conseq (fun _ => id) ?_ fun _ => False.elim
  rintro (_ | _) s hs
  · exact hs
  · exact hs

theorem Always.done (r : Except ε α) : Always I (done r : EStateM ε σ α) := by
  cases r with
  | ok a => exact Always.pure a
  | error e => exact Always.throw e

theorem Always.runIf {p : Prop} [Decidable p] {x : EStateM ε σ Unit} (h : Always I x) :
    Always I (runIf p x) := Triple.runIf (fun _ => h) fun _ _ => id

theorem Always.ite {p : Prop} [Decidable p] {y : EStateM ε σ α} (h : Always I x)
    (h' : Always I y) : Always I (if p then x else y) := by
  split
  · exact h
  · exact h'

end Fallible
