import Mathlib.Data.List.GetD
import Mathlib.Order.Basic

/-!
# Lists in chunks

A list sent in pieces of `c` elements, the last piece shorter: `chunk c l k` is piece `k`.

- The first `n` pieces join to `l.take (c * n)` (`flatten_chunks`); piece `k` is short exactly from
  `l.length / c` on (`length_chunk_lt_iff`).
- In a list of pieces that are all full but the last, element `i` of the whole is element `i % c`
  of piece `i / c` (`FullButLast.getElem?_flatten`).
-/

namespace Chunks

variable {α : Type*} {c : ℕ}

/-- Piece `k` of `l`. -/
def chunk (c : ℕ) (l : List α) (k : ℕ) : List α := (l.drop (c * k)).take c

theorem length_chunk (c : ℕ) (l : List α) (k : ℕ) :
    (chunk c l k).length = min c (l.length - c * k) := by simp [chunk]

theorem length_chunk_le (c : ℕ) (l : List α) (k : ℕ) : (chunk c l k).length ≤ c := by
  rw [length_chunk]; exact Nat.min_le_left _ _

/-- A piece is short exactly when the list ends in it. -/
theorem length_chunk_lt_iff (hc : 0 < c) {l : List α} {k : ℕ} :
    (chunk c l k).length < c ↔ l.length / c ≤ k := by
  rw [length_chunk]
  have h := Nat.div_add_mod l.length c
  have hr := Nat.mod_lt l.length hc
  constructor
  · intro hlt
    by_contra hk
    have := Nat.mul_le_mul_left c (show k + 1 ≤ l.length / c by omega)
    rw [Nat.mul_succ] at this
    omega
  · intro hk
    have := Nat.mul_le_mul_left c hk
    omega

/-- The pieces up to `n` are the first `c * n` elements. -/
theorem flatten_chunks (c : ℕ) (l : List α) (n : ℕ) :
    ((List.range n).map (chunk c l)).flatten = l.take (c * n) := by
  induction n with
  | zero => simp
  | succ n ih =>
    rw [List.range_succ, List.map_append, List.flatten_append, ih, List.map_singleton,
      List.flatten_singleton, chunk, Nat.mul_succ, List.take_add]

/-- All pieces are full but the last one, which is at most full. -/
structure FullButLast (c : ℕ) (cs : List (List α)) : Prop where
  full : ∀ x ∈ cs.dropLast, x.length = c
  le : ∀ x ∈ cs, x.length ≤ c

theorem length_flatten {cs : List (List α)} (h : ∀ x ∈ cs, x.length = c) :
    cs.flatten.length = c * cs.length := by
  induction cs with
  | nil => simp
  | cons x cs ih =>
    rw [List.flatten_cons, List.length_append, h x (by simp),
      ih fun y hy => h y (List.mem_cons_of_mem _ hy), List.length_cons, Nat.mul_succ]
    omega

/-- Full pieces and one more piece. -/
theorem FullButLast.snoc {cs : List (List α)} (h : ∀ x ∈ cs, x.length = c) {x : List α}
    (hx : x.length ≤ c) : FullButLast c (cs ++ [x]) where
  full := by rw [List.dropLast_concat]; exact h
  le y hy := by
    rcases List.mem_append.mp hy with hy | hy
    · exact Nat.le_of_eq (h y hy)
    · rw [List.mem_singleton.mp hy]; exact hx

theorem FullButLast.tail {x y : List α} {cs : List (List α)} (h : FullButLast c (x :: y :: cs)) :
    x.length = c ∧ FullButLast c (y :: cs) := by
  refine ⟨h.full x (by simp), fun z hz => h.full z ?_,
    fun z hz => h.le z (List.mem_cons_of_mem _ hz)⟩
  rw [List.dropLast_cons_of_ne_nil (List.cons_ne_nil _ _)]
  exact List.mem_cons_of_mem _ hz

/-- Where element `i` of the whole comes from. -/
theorem FullButLast.getElem?_flatten {cs : List (List α)} (h : FullButLast c cs) {i : ℕ}
    (hi : i < cs.flatten.length) :
    ∃ x, cs[i / c]? = some x ∧ i % c < x.length ∧ cs.flatten[i]? = x[i % c]? := by
  induction cs generalizing i with
  | nil => simp at hi
  | cons x cs ih =>
    rw [List.flatten_cons] at hi ⊢
    by_cases hx : i < x.length
    · have hc : i < c := Nat.lt_of_lt_of_le hx (h.le x (by simp))
      rw [Nat.div_eq_of_lt hc, Nat.mod_eq_of_lt hc]
      exact ⟨x, rfl, hx, List.getElem?_append_left hx⟩
    · cases cs with
      | nil => simp at hi; omega
      | cons y cs =>
        obtain ⟨hfull, htail⟩ := h.tail
        rw [List.length_append] at hi
        obtain ⟨z, h1, h2, h3⟩ := ih htail (i := i - c) (by omega)
        have hc0 : 0 < c := by
          by_contra h0
          have hz := htail.le z (List.mem_of_getElem? h1)
          omega
        have hdiv : i / c = (i - c) / c + 1 := by
          rw [← Nat.add_div_right _ hc0, Nat.sub_add_cancel (by omega)]
        have hmod : i % c = (i - c) % c := Nat.mod_eq_sub_mod (by omega)
        refine ⟨z, by rw [hdiv, List.getElem?_cons_succ]; exact h1, by rw [hmod]; exact h2, ?_⟩
        rw [List.getElem?_append_right (by omega), hfull, h3, hmod]

end Chunks
