import Mathlib.Data.Nat.Find
import Mathlib.Data.List.Basic

/-!
# Event machines

A machine is a total step function `step : σ → ε → σ`: the state after one event. Its finite runs
fold the events of a list (`run`), its infinite runs follow a schedule `ℕ → ε` (`along`).

- **Safety** (`Keeps.run`, `KeepsIf.run`): what one step keeps, every run keeps. `KeepsIf` has a
  guard `G` on the state before the step and the event; its runs are those whose steps all meet
  the guard (`Meets`).
- **Exact guards** (`KeepsIf.meets_congr`, `forall_history`): a property of every step, or of
  every entry of a history, holds of the runs whose steps meet an equivalent guard, and of no
  others.
- **Simulation** (`Simulates.run`): a machine with outputs whose steps follow those of a second one
  follows its runs.
- **Progress** (`Progress.reaches`): from a state with the invariant that is not final, some event
  lowers a measure, and each event lowers it or changes nothing. Then a fair schedule reaches a
  final state.
-/

namespace Machine

variable {σ ε : Type*} (step : σ → ε → σ)

/-- The state after the events `es`. -/
def run (s : σ) (es : List ε) : σ := es.foldl step s

@[simp] theorem run_nil (s : σ) : run step s [] = s := rfl

@[simp] theorem run_cons (s : σ) (e : ε) (es : List ε) :
    run step s (e :: es) = run step (step s e) es := rfl

theorem run_append (s : σ) (es fs : List ε) :
    run step s (es ++ fs) = run step (run step s es) fs := List.foldl_append

theorem run_snoc (s : σ) (es : List ε) (e : ε) :
    run step s (es ++ [e]) = step (run step s es) e := by
  rw [run_append]; rfl

/-- A run of the events that `g` stands for. -/
theorem run_map {δ : Type*} (g : δ → ε) (s : σ) (ds : List δ) :
    run step s (ds.map g) = run (fun s d => step s (g d)) s ds := List.foldl_map

/-- The states of the run of the schedule `f`. -/
def along (s : σ) (f : ℕ → ε) : ℕ → σ
  | 0 => s
  | n + 1 => step (along s f n) (f n)

/-! ## Safety -/

variable {step}

/-- Every step keeps `I`. -/
def Keeps (step : σ → ε → σ) (I : σ → Prop) : Prop := ∀ s e, I s → I (step s e)

theorem Keeps.run {I : σ → Prop} (h : Keeps step I) {s : σ} (hs : I s) (es : List ε) :
    I (run step s es) := by
  induction es generalizing s with
  | nil => exact hs
  | cons e es ih => exact ih (h s e hs)

/-- Every step of the run of `es` from `s` meets the guard `G`. -/
def Meets (step : σ → ε → σ) (G : σ → ε → Prop) : σ → List ε → Prop
  | _, [] => True
  | s, e :: es => G s e ∧ Meets step G (step s e) es

@[simp] theorem meets_nil {G : σ → ε → Prop} (s : σ) : Meets step G s [] := trivial

theorem meets_cons {G : σ → ε → Prop} {s : σ} {e : ε} {es : List ε} :
    Meets step G s (e :: es) ↔ G s e ∧ Meets step G (step s e) es := Iff.rfl

/-- Whether a run meets a guard can be computed. -/
instance decidableMeets {G : σ → ε → Prop} [∀ s e, Decidable (G s e)] :
    ∀ (s : σ) (es : List ε), Decidable (Meets step G s es)
  | _, [] => isTrue trivial
  | s, e :: es => @instDecidableAnd (G s e) _ _ (decidableMeets (step s e) es)

theorem Meets.mono {G P : σ → ε → Prop} (h : ∀ s e, G s e → P s e) {s : σ} {es : List ε}
    (hes : Meets step G s es) : Meets step P s es := by
  induction es generalizing s with
  | nil => trivial
  | cons e es ih => exact ⟨h s e hes.1, ih hes.2⟩

/-- A guard on the events alone. -/
theorem meets_of_forall {P : ε → Prop} (s : σ) {es : List ε} (h : ∀ e ∈ es, P e) :
    Meets step (fun _ => P) s es := by
  induction es generalizing s with
  | nil => trivial
  | cons e es ih =>
    rw [List.forall_mem_cons] at h
    exact ⟨h.1, ih _ h.2⟩

theorem meets_append {G : σ → ε → Prop} {s : σ} {es fs : List ε} :
    Meets step G s (es ++ fs) ↔ Meets step G s es ∧ Meets step G (run step s es) fs := by
  induction es generalizing s with
  | nil => simp
  | cons e es ih => rw [List.cons_append, meets_cons, meets_cons, ih, run_cons, and_assoc]

theorem meets_and {G P : σ → ε → Prop} {s : σ} {es : List ε} :
    Meets step (fun s e => G s e ∧ P s e) s es ↔ Meets step G s es ∧ Meets step P s es := by
  induction es generalizing s with
  | nil => exact (and_self_iff).symm
  | cons e es ih =>
    rw [meets_cons, meets_cons, meets_cons, ih]
    exact and_and_and_comm

/-- Every step that meets the guard keeps `I`. -/
def KeepsIf (step : σ → ε → σ) (G : σ → ε → Prop) (I : σ → Prop) : Prop :=
  ∀ s e, G s e → I s → I (step s e)

theorem KeepsIf.run {G : σ → ε → Prop} {I : σ → Prop} (h : KeepsIf step G I) {s : σ} (hs : I s)
    {es : List ε} (hes : Meets step G s es) : I (run step s es) := by
  induction es generalizing s with
  | nil => exact hs
  | cons e es ih => exact ih (h s e hes.1 hs) hes.2

/-- Under an invariant that the guard keeps, a property of the steps that is equivalent to the guard
holds of the same runs. -/
theorem KeepsIf.meets_congr {G P : σ → ε → Prop} {I : σ → Prop} (h : KeepsIf step G I)
    (hiff : ∀ s e, I s → (P s e ↔ G s e)) {s : σ} (hs : I s) (es : List ε) :
    Meets step P s es ↔ Meets step G s es := by
  induction es generalizing s with
  | nil => exact Iff.rfl
  | cons e es ih =>
    rw [meets_cons, meets_cons, hiff s e hs]
    exact and_congr_right fun hG => ih (h s e hG hs)

/-- A property of the steps that follows from the invariant and the guard. -/
theorem KeepsIf.meets {G Q : σ → ε → Prop} {I : σ → Prop} (h : KeepsIf step G I)
    (hQ : ∀ s e, I s → G s e → Q s e) {s : σ} (hs : I s) {es : List ε}
    (hes : Meets step G s es) : Meets step Q s es := by
  have hiff := h.meets_congr (P := fun s e => G s e ∧ Q s e)
    (fun s e hI => and_iff_left_of_imp (hQ s e hI)) hs es
  exact (hiff.mpr hes).mono fun _ _ h => h.2

/-- A property of the steps that follows from an invariant holds of every run. -/
theorem Keeps.meets {I : σ → Prop} (h : Keeps step I) {Q : σ → ε → Prop}
    (hQ : ∀ s e, I s → Q s e) {s : σ} (hs : I s) (es : List ε) : Meets step Q s es := by
  induction es generalizing s with
  | nil => trivial
  | cons e es ih => exact ⟨hQ s e hs, ih (h s e hs)⟩

theorem Keeps.keepsIf {I : σ → Prop} (h : Keeps step I) (G : σ → ε → Prop) : KeepsIf step G I :=
  fun s e _ => h s e

/-- All entries of a history that the steps append to: those of the start and of every step. -/
theorem forall_history {α : Type*} {history : σ → List α} {new : σ → ε → List α}
    (hnew : ∀ s e, history (step s e) = history s ++ new s e) (Q : α → Prop) (s : σ) (es : List ε) :
    (∀ x ∈ history (Machine.run step s es), Q x) ↔
      (∀ x ∈ history s, Q x) ∧ Meets step (fun s e => ∀ x ∈ new s e, Q x) s es := by
  induction es generalizing s with
  | nil => simp
  | cons e es ih =>
    rw [run_cons, ih, hnew, meets_cons, List.forall_mem_append, and_assoc]

/-! ## Simulation -/

/-- The steps from related states lead to related states, with the outputs of the second machine. -/
structure Simulates {τ ο : Type*} (step : σ → ε → σ) (out : σ → ε → ο) (step' : τ → ε → τ)
    (out' : τ → ε → ο) (R : σ → τ → Prop) : Prop where
  step : ∀ {s t}, R s t → ∀ e, R (step s e) (step' t e)
  out : ∀ {s t}, R s t → ∀ e, out s e = out' t e

theorem Simulates.run {τ ο : Type*} {out : σ → ε → ο} {step' : τ → ε → τ} {out' : τ → ε → ο}
    {R : σ → τ → Prop} (h : Simulates step out step' out' R) {s : σ} {t : τ} (hst : R s t)
    (es : List ε) : R (Machine.run step s es) (Machine.run step' t es) := by
  induction es generalizing s t with
  | nil => exact hst
  | cons e es ih => exact ih (h.step hst e)

/-! ## Progress -/

/-- Events of every kind occur again and again in the schedule. -/
def Fair {κ : Type*} (kind : ε → κ) (f : ℕ → ε) : Prop := ∀ k n, ∃ m, n ≤ m ∧ kind (f m) = k

/-- Progress to `final` under the invariant `I`: each event lowers the measure `μ` or leaves the
state as it is, and the events of some kind lower it. -/
structure Progress {κ : Type*} (step : σ → ε → σ) (kind : ε → κ) (I : σ → Prop) (μ : σ → ℕ)
    (final : σ → Prop) : Prop where
  keeps : ∀ s e, I s → ¬ final s → I (step s e)
  idle : ∀ s e, I s → ¬ final s → step s e = s ∨ μ (step s e) < μ s
  helps : ∀ s, I s → ¬ final s → ∃ k, ∀ e, kind e = k → μ (step s e) < μ s

variable {κ : Type*} {kind : ε → κ} {I : σ → Prop} {μ : σ → ℕ} {final : σ → Prop}

theorem along_add (s : σ) (f : ℕ → ε) (n m : ℕ) :
    along step s f (n + m) = along step (along step s f n) (fun i => f (n + i)) m := by
  induction m with
  | zero => rfl
  | succ m ih =>
    show step (along step s f (n + m)) (f (n + m)) = _
    rw [ih]; rfl

theorem Fair.shift {f : ℕ → ε} (h : Fair kind f) (n : ℕ) : Fair kind (fun i => f (n + i)) := by
  intro k m
  obtain ⟨j, hj, hk⟩ := h k (n + m)
  have hjn : n + (j - n) = j := by omega
  exact ⟨j - n, by omega, by simpa only [hjn] using hk⟩

/-- The first event that lowers the measure: up to it the state stays. -/
theorem Progress.falls (h : Progress step kind I μ final) {s : σ} (hs : I s) (hf : ¬ final s)
    {f : ℕ → ε} (hfair : Fair kind f) :
    ∃ n, along step s f n = s ∧ μ (step s (f n)) < μ s := by
  by_contra hno
  have hstay : ∀ n, along step s f n = s := by
    intro n
    induction n with
    | zero => rfl
    | succ n ih =>
      rcases h.idle s (f n) hs hf with he | he
      · show step (along step s f n) (f n) = s
        rw [ih, he]
      · exact absurd ⟨n, ih, he⟩ hno
  obtain ⟨k, hk⟩ := h.helps s hs hf
  obtain ⟨n, -, hn⟩ := hfair k 0
  exact hno ⟨n, hstay n, hk _ hn⟩

/-- A fair schedule reaches a final state. -/
theorem Progress.reaches (h : Progress step kind I μ final) {s : σ} (hs : I s) {f : ℕ → ε}
    (hfair : Fair kind f) : ∃ n, final (along step s f n) := by
  induction hm : μ s using Nat.strongRecOn generalizing s f with
  | _ m ih =>
    by_cases hf : final s
    · exact ⟨0, hf⟩
    obtain ⟨n, hn, hlt⟩ := h.falls hs hf hfair
    have hnext : along step s f (n + 1) = step s (f n) := by
      show step (along step s f n) (f n) = _
      rw [hn]
    obtain ⟨j, hj⟩ := ih _ (hm ▸ hlt) (h.keeps s (f n) hs hf) (hfair.shift (n + 1)) rfl
    exact ⟨n + 1 + j, by rw [along_add, hnext]; exact hj⟩

/-- The first final state of a fair schedule: the states before it are not final. -/
theorem Progress.first (h : Progress step kind I μ final) {s : σ} (hs : I s) {f : ℕ → ε}
    (hfair : Fair kind f) :
    ∃ n, final (along step s f n) ∧ ∀ m < n, ¬ final (along step s f m) := by
  classical
  exact ⟨Nat.find (h.reaches hs hfair), Nat.find_spec (h.reaches hs hfair),
    fun _ hm => Nat.find_min (h.reaches hs hfair) hm⟩

/-- Up to the first final state the invariant holds. -/
theorem Progress.until (h : Progress step kind I μ final) {s : σ} (hs : I s) (f : ℕ → ε) {n : ℕ}
    (hn : ∀ m < n, ¬ final (along step s f m)) {m : ℕ} (hm : m ≤ n) : I (along step s f m) := by
  induction m with
  | zero => exact hs
  | succ m ih => exact h.keeps _ _ (ih (by omega)) (hn m (by omega))

end Machine
