import Mathlib.Data.BitVec

/-!
# Bit fields of a register

A field is a mask, and the position of its lowest bit. `get` reads it, `set` writes it and keeps the
other bits of the register. A field that was written is read back, as far as the value fits
(`get_set`), and no other field changes (`get_set_of_disjoint`).
-/

/-- The bits in `mask`, from the position `pos` on. -/
structure BitField (w : ℕ) where
  mask : BitVec w
  pos : ℕ

namespace BitField

variable {w : ℕ} (f g : BitField w) (r d : BitVec w)

/-- The value of the field in the register `r`. -/
def get : BitVec w := (r &&& f.mask) >>> f.pos

/-- The register `r` with the value `d` in the field. -/
def set : BitVec w := (r &&& ~~~f.mask) ||| ((d <<< f.pos) &&& f.mask)

/-- The values that fit into the field. -/
def fits : BitVec w := f.mask >>> f.pos

theorem set_and_mask : f.set r d &&& f.mask = (d <<< f.pos) &&& f.mask := by
  apply BitVec.eq_of_getLsbD_eq
  intro i hi
  simp only [set, BitVec.getLsbD_and, BitVec.getLsbD_or, BitVec.getLsbD_not]
  cases f.mask.getLsbD i <;> simp

theorem set_and_of_disjoint {m : BitVec w} (h : m &&& f.mask = 0) : f.set r d &&& m = r &&& m := by
  apply BitVec.eq_of_getLsbD_eq
  intro i hi
  have hbit : (m.getLsbD i && f.mask.getLsbD i) = false := by
    rw [← BitVec.getLsbD_and, h]
    exact BitVec.getLsbD_zero
  simp only [set, BitVec.getLsbD_and, BitVec.getLsbD_or, BitVec.getLsbD_not, hi, decide_true,
    Bool.true_and]
  cases hm : m.getLsbD i
  · simp
  · rw [hm, Bool.true_and] at hbit
    simp [hbit]

theorem get_set : f.get (f.set r d) = d &&& f.fits := by
  rw [get, set_and_mask]
  apply BitVec.eq_of_getLsbD_eq
  intro i _
  simp only [fits, BitVec.getLsbD_ushiftRight, BitVec.getLsbD_and, BitVec.getLsbD_shiftLeft]
  cases hm : f.mask.getLsbD (f.pos + i)
  · simp
  · have hlt : f.pos + i < w := BitVec.lt_of_getLsbD hm
    simp [hlt]

theorem get_and_fits : f.get r &&& f.fits = f.get r := by
  apply BitVec.eq_of_getLsbD_eq
  intro i _
  simp only [get, fits, BitVec.getLsbD_ushiftRight, BitVec.getLsbD_and]
  cases f.mask.getLsbD (f.pos + i) <;> simp

theorem get_set_of_disjoint {f g : BitField w} (h : f.mask &&& g.mask = 0) (r d : BitVec w) :
    f.get (g.set r d) = f.get r := by
  rw [get, set_and_of_disjoint g r d h, get]

/-- A field depends on its bits alone. -/
theorem get_congr {f : BitField w} {m r r' : BitVec w} (hm : f.mask &&& m = f.mask)
    (h : r &&& m = r' &&& m) : f.get r = f.get r' := by
  have hmask : ∀ x : BitVec w, x &&& f.mask = x &&& m &&& f.mask := by
    intro x
    rw [BitVec.and_assoc, BitVec.and_comm m, hm]
  rw [get, get, hmask, h, ← hmask]

end BitField
