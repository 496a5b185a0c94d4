import Mathlib.Logic.Function.Iterate
import Mathlib.Data.List.Basic

/-!
# Outputs of a machine that runs by itself

`next` is one step of the machine, and `out s` what the step from `s` outputs. `Emits s os t` says
that the next steps output `os` and lead to `t`; such pieces compose (`Emits.append`).
-/

namespace Trace

variable {σ ο : Type*} (out : σ → ο) (next : σ → σ)

/-- The outputs of the first `n` steps. -/
def outputs : ℕ → σ → List ο
  | 0, _ => []
  | n + 1, s => out s :: outputs n (next s)

theorem outputs_add (n m : ℕ) (s : σ) :
    outputs out next (n + m) s = outputs out next n s ++ outputs out next m (next^[n] s) := by
  induction n generalizing s with
  | zero => rw [Nat.zero_add]; rfl
  | succ n ih =>
    rw [Nat.succ_add]
    show out s :: outputs out next (n + m) (next s) = _
    rw [ih]; rfl

theorem getElem?_outputs {n i : ℕ} (hi : i < n) (s : σ) :
    (outputs out next n s)[i]? = some (out (next^[i] s)) := by
  induction n generalizing i s with
  | zero => exact absurd hi (Nat.not_lt_zero i)
  | succ n ih =>
    cases i with
    | zero => rfl
    | succ i => exact ih (Nat.lt_of_succ_lt_succ hi) (next s)

/-- The next steps output `os`, and lead to `t`. -/
structure Emits (s : σ) (os : List ο) (t : σ) : Prop where
  outputs : outputs out next os.length s = os
  reaches : next^[os.length] s = t

variable {out next} {s t u : σ} {os ps : List ο}

theorem Emits.nil (s : σ) : Emits out next s [] s := ⟨rfl, rfl⟩

theorem Emits.cons {o : ο} (ho : out s = o) (h : Emits out next (next s) os t) :
    Emits out next s (o :: os) t :=
  ⟨congrArg₂ List.cons ho h.outputs, h.reaches⟩

theorem Emits.append (h : Emits out next s os t) (h' : Emits out next t ps u) :
    Emits out next s (os ++ ps) u := by
  constructor
  · rw [List.length_append, outputs_add, h.outputs, h.reaches, h'.outputs]
  · rw [List.length_append, Nat.add_comm, Function.iterate_add_apply, h.reaches, h'.reaches]

/-- From a state that stays, the machine stays for all time. -/
theorem Emits.rests (h : Emits out next s os t) (ht : next t = t) {n : ℕ} (hn : os.length ≤ n) :
    next^[n] s = t := by
  obtain ⟨m, rfl⟩ := Nat.exists_eq_add_of_le hn
  rw [Nat.add_comm, Function.iterate_add_apply, h.reaches]
  exact Function.iterate_fixed ht m

/-- Each of the outputs is that of its step. -/
theorem getElem?_of_outputs (h : outputs out next os.length s = os) {i : ℕ} (hi : i < os.length) :
    os[i]? = some (out (next^[i] s)) := by
  have hi' := getElem?_outputs out next hi s
  rwa [h] at hi'

end Trace
