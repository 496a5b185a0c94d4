import Mathlib.Data.List.DropRight
import Mathlib.Data.List.SplitBy

/-!
# Runs of equal entries

- `runs l` are the maximal runs of equal entries of `l`, `lastRun a l` is the length of the run of
  `a` at its end.
- `countRuns a n l` counts the runs of `a` of length at least `n`. A list that grows by one entry
  has one more exactly when its last run reaches the length `n` (`countRuns_concat`).
-/

namespace Runs

variable {α : Type*} [DecidableEq α]

/-- The maximal runs of equal entries. -/
def runs (l : List α) : List (List α) := l.splitBy fun a b => decide (a = b)

/-- A run of `a` of length at least `n`. -/
def IsRun (a : α) (n : ℕ) (r : List α) : Prop := r.head? = some a ∧ n ≤ r.length

instance (a : α) (n : ℕ) (r : List α) : Decidable (IsRun a n r) := instDecidableAnd

/-- How many maximal runs of `a` have length at least `n`. -/
def countRuns (a : α) (n : ℕ) (l : List α) : ℕ := (runs l).countP fun r => IsRun a n r

/-- The length of the run of `a` at the end. -/
def lastRun (a : α) (l : List α) : ℕ := (l.rtakeWhile fun b => decide (b = a)).length

variable {a b : α} {n : ℕ} {l p : List α}

@[simp] theorem countRuns_nil (a : α) (n : ℕ) : countRuns a n [] = 0 := by
  unfold countRuns runs
  rw [List.splitBy_nil, List.countP_nil]

@[simp] theorem lastRun_nil (a : α) : lastRun a [] = 0 := by
  unfold lastRun
  rw [List.rtakeWhile_nil, List.length_nil]

@[simp] theorem lastRun_concat_self (a : α) (l : List α) :
    lastRun a (l ++ [a]) = lastRun a l + 1 := by
  unfold lastRun
  rw [List.rtakeWhile_concat_pos _ _ _ (by simp), List.length_append, List.length_singleton]

theorem lastRun_concat_of_ne (h : b ≠ a) (l : List α) : lastRun a (l ++ [b]) = 0 := by
  unfold lastRun
  rw [List.rtakeWhile_concat_neg _ _ _ (by simpa using h), List.length_nil]

/-- A list is what is before its last run of `a`, and this run. -/
theorem exists_append_lastRun (a : α) (l : List α) :
    ∃ p, l = p ++ List.replicate (lastRun a l) a ∧ ∀ x ∈ p.getLast?, x ≠ a := by
  induction l using List.reverseRecOn with
  | nil => exact ⟨[], by simp, by simp⟩
  | append_singleton l b ih =>
    by_cases hb : b = a
    · obtain ⟨p, hl, hp⟩ := ih
      refine ⟨p, ?_, hp⟩
      rw [hb, lastRun_concat_self, List.replicate_succ', ← List.append_assoc, ← hl]
    · refine ⟨l ++ [b], ?_, ?_⟩
      · rw [lastRun_concat_of_ne hb, List.replicate_zero, List.append_nil]
      · intro x hx
        rw [List.getLast?_concat, Option.mem_some_iff] at hx
        exact hx ▸ hb

/-- The maximal runs of a list that ends with a run of `b`. -/
theorem runs_append_replicate (hp : ∀ x ∈ p.getLast?, x ≠ b) (k : ℕ) :
    runs (p ++ List.replicate (k + 1) b) = runs p ++ [List.replicate (k + 1) b] := by
  unfold runs
  rw [List.splitBy_append]
  · congr 1
    refine List.splitBy_of_isChain (List.cons_ne_nil _ _) ?_
    exact List.isChain_replicate_of_rel _ (decide_eq_true rfl)
  · rintro x hx y ⟨⟩
    exact decide_eq_false (hp x hx)

theorem countRuns_append_replicate (hp : ∀ x ∈ p.getLast?, x ≠ b) (a : α) (n k : ℕ) :
    countRuns a n (p ++ List.replicate k b) =
      countRuns a n p + if k ≠ 0 ∧ b = a ∧ n ≤ k then 1 else 0 := by
  cases k with
  | zero => simp
  | succ k =>
    have hrun : IsRun a n (List.replicate (k + 1) b) ↔ k + 1 ≠ 0 ∧ b = a ∧ n ≤ k + 1 := by
      unfold IsRun
      rw [List.length_replicate, List.replicate_succ, List.head?_cons, Option.some_inj]
      exact (and_iff_right (Nat.succ_ne_zero k)).symm
    unfold countRuns
    rw [runs_append_replicate hp, List.countP_append, List.countP_singleton]
    simp only [hrun, decide_eq_true_eq]

/-- **One more entry**: a run is counted when it reaches the length `n`. -/
theorem countRuns_concat (hn : 0 < n) (a b : α) (l : List α) :
    countRuns a n (l ++ [b]) =
      countRuns a n l + if b = a ∧ lastRun a l + 1 = n then 1 else 0 := by
  obtain ⟨p, hl, hp⟩ := exists_append_lastRun b l
  have hconcat : l ++ [b] = p ++ List.replicate (lastRun b l + 1) b := by
    rw [List.replicate_succ', ← List.append_assoc, ← hl]
  have hbefore := countRuns_append_replicate hp a n (lastRun b l)
  rw [← hl] at hbefore
  rw [hconcat, countRuns_append_replicate hp, hbefore]
  by_cases hb : b = a
  · subst hb
    simp only [true_and]
    split_ifs <;> omega
  · simp only [hb, false_and, and_false, if_false, Nat.add_zero]

end Runs
