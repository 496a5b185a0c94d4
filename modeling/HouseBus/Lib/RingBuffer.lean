import Mathlib.Algebra.BigOperators.Group.Finset.Piecewise
import Mathlib.Algebra.BigOperators.Intervals
import Mathlib.Data.Nat.ModEq

/-!
# Ring buffers

A window of `size` slots whose pointer is moved before a write keeps the last `size` entries of its
history (`Holds.push`); the slot that a write replaces has the oldest of them (`Holds.oldest`). So
a sum over the last entries goes from one history to the next by one entry more and one less
(`sum_recent_concat`), and so does the sum over the slots (`sum_update`).
-/

namespace RingBuffer

variable {α : Type*} {d : α}

/-- The `i`-th last entry of a history, with `d` before its start. -/
def recent (d : α) (samples : List α) (i : ℕ) : α := samples.reverse.getD i d

@[simp] theorem recent_concat_zero (samples : List α) (v : α) :
    recent d (samples ++ [v]) 0 = v := by
  unfold recent
  rw [List.reverse_append]
  rfl

@[simp] theorem recent_concat_succ (samples : List α) (v : α) (i : ℕ) :
    recent d (samples ++ [v]) (i + 1) = recent d samples i := by
  unfold recent
  rw [List.reverse_append]
  rfl

/-- The slots hold the last `size` entries of the history, the last one at the pointer. -/
structure Holds (d : α) (size : ℕ) (window : ℕ → α) (pointer : ℕ) (samples : List α) : Prop where
  pointer : pointer = samples.length % size
  slots : ∀ i < size, window ((samples.length + size - i) % size) = recent d samples i

variable {size pointer : ℕ} {window : ℕ → α} {samples : List α}

/-- The empty history. -/
theorem holds_nil (size : ℕ) : Holds d size (fun _ => d) 0 [] :=
  ⟨(Nat.zero_mod size).symm, fun _ _ => rfl⟩

/-- The slot that the next write replaces. -/
theorem Holds.oldest (h : Holds d size window pointer samples) (hsize : 0 < size) :
    window ((pointer + 1) % size) = recent d samples (size - 1) := by
  have hslot := h.slots (size - 1) (by omega)
  have hnext : samples.length + size - (size - 1) = samples.length + 1 := by omega
  rw [hnext] at hslot
  rw [h.pointer, Nat.mod_add_mod]
  exact hslot

/-- The slot of the pointer. -/
theorem Holds.last (h : Holds d size window pointer samples) (hsize : 0 < size) :
    window pointer = recent d samples 0 := by
  have hslot := h.slots 0 hsize
  rw [Nat.sub_zero, Nat.add_mod_right] at hslot
  rw [h.pointer]
  exact hslot

/-- **A write** at the next slot. -/
theorem Holds.push (h : Holds d size window pointer samples) (v : α) :
    Holds d size (Function.update window ((pointer + 1) % size) v) ((pointer + 1) % size)
      (samples ++ [v]) := by
  have hnext : (pointer + 1) % size = (samples.length + 1) % size := by
    rw [h.pointer, Nat.mod_add_mod]
  have hlength : (samples ++ [v]).length = samples.length + 1 := by
    rw [List.length_append, List.length_singleton]
  constructor
  · rw [hnext, hlength]
  · intro i hi
    rw [hnext, hlength]
    cases i with
    | zero =>
      rw [recent_concat_zero, Nat.sub_zero, Nat.add_mod_right, Function.update_self]
    | succ j =>
      have hslot := h.slots j (by omega)
      have hshift : samples.length + 1 + size - (j + 1) = samples.length + size - j := by omega
      rw [recent_concat_succ, hshift, ← hslot]
      refine Function.update_of_ne (fun heq => ?_) _ _
      -- the two slots are `j + 1` apart, which is less than a turn
      have hapart : Nat.ModEq size (samples.length + 1 + size) (samples.length + size - j) :=
        (Nat.add_mod_right _ _).trans heq.symm
      have hdvd := (Nat.modEq_iff_dvd' (by omega)).mp hapart.symm
      exact absurd (Nat.le_of_dvd (by omega) hdvd) (by omega)

/-- The sum over the last entries, one entry later. -/
theorem sum_recent_concat {M : Type*} [AddCommMonoid M] (f : α → M) (hsize : 0 < size) (v : α) :
    (∑ i ∈ Finset.range size, f (recent d (samples ++ [v]) i)) + f (recent d samples (size - 1)) =
      (∑ i ∈ Finset.range size, f (recent d samples i)) + f v := by
  obtain ⟨n, rfl⟩ : ∃ n, size = n + 1 := ⟨size - 1, by omega⟩
  rw [Finset.sum_range_succ', Finset.sum_range_succ, recent_concat_zero, Nat.add_sub_cancel]
  simp only [recent_concat_succ]
  rw [add_right_comm]

/-- The sum over the slots, after a write. -/
theorem sum_update {M : Type*} [AddCommMonoid M] (f : α → M) {i : ℕ} (hi : i < size) (v : α) :
    (∑ j ∈ Finset.range size, f (Function.update window i v j)) + f (window i) =
      (∑ j ∈ Finset.range size, f (window j)) + f v := by
  have hmem : i ∈ Finset.range size := Finset.mem_range.mpr hi
  have hothers : ∀ j ∈ (Finset.range size).erase i,
      f (Function.update window i v j) = f (window j) := by
    intro j hj
    rw [Function.update_of_ne (Finset.ne_of_mem_erase hj)]
  rw [← Finset.add_sum_erase _ _ hmem, ← Finset.add_sum_erase _ _ hmem, Function.update_self,
    Finset.sum_congr rfl hothers]
  rw [add_comm (f (window i)), add_comm (f v), add_right_comm]

end RingBuffer
