import Mathlib.Data.List.Basic
import Mathlib.Data.List.Perm.Subperm

/-!
# Slot tables

A table of a fixed number of slots. The key of a slot is `free` if nothing is in it. An entry for a
key goes to the first slot that has the key or is free (`put`), and slots are freed one by one
(`Frees`).

- `Distinct`: no key occurs twice. `put` keeps this if and only if no free slot lies before the one
  with the key (`distinct_put_iff`); freeing keeps it.
- What is in the table after a `put` (`mem_put`, `mem_put_self`, `mem_put_of_mem`).
- With at most as many keys as slots there is always a place (`exists_place`).
- `Packed`: the free slots are behind all others. `put` keeps this (`packed_put`), and in a packed
  table it keeps the keys distinct (`Packed.not_freeBefore`).
-/

namespace Slots

variable {α κ : Type*} (key : α → κ) (free : κ)

/-- No two occupied slots have one key. -/
def Distinct (l : List α) : Prop := l.Pairwise fun a b => key a ≠ free → key a ≠ key b

/-- The slot can take an entry for `k`. -/
def Place (k : κ) (a : α) : Prop := key a = k ∨ key a = free

instance [DecidableEq κ] (k : κ) (a : α) : Decidable (Place key free k a) :=
  inferInstanceAs (Decidable (_ ∨ _))

/-- The table with `a` in the first place for `k`. -/
def put [DecidableEq κ] (k : κ) (a : α) : List α → List α
  | [] => []
  | b :: bs => if Place key free k b then a :: bs else b :: put k a bs

/-- A free slot lies before one with the key `k`. -/
def FreeBefore (k : κ) (l : List α) : Prop :=
  ∃ xs b ys, l = xs ++ b :: ys ∧ key b = free ∧ ∃ c ∈ ys, key c = k

/-- Some slots of `l` for which `P` holds are freed in `l'`. -/
def Frees (P : α → Prop) (l l' : List α) : Prop :=
  List.Forall₂ (fun a b => b = a ∨ (key b = free ∧ P a)) l l'

variable {key free} {k : κ} {a b : α} {l l' : List α}

theorem freeBefore_cons :
    FreeBefore key free k (b :: l) ↔
      (key b = free ∧ ∃ c ∈ l, key c = k) ∨ FreeBefore key free k l := by
  constructor
  · rintro ⟨xs, b', ys, hl, hfree, hc⟩
    cases xs with
    | nil =>
      obtain ⟨rfl, rfl⟩ := List.cons.inj hl
      exact .inl ⟨hfree, hc⟩
    | cons x xs =>
      obtain ⟨-, hl⟩ := List.cons.inj hl
      exact .inr ⟨xs, b', ys, hl, hfree, hc⟩
  · rintro (⟨hfree, hc⟩ | ⟨xs, b', ys, rfl, hfree, hc⟩)
    · exact ⟨[], b, l, rfl, hfree, hc⟩
    · exact ⟨b :: xs, b', ys, rfl, hfree, hc⟩

theorem FreeBefore.mem (h : FreeBefore key free k l) : ∃ c ∈ l, key c = k := by
  obtain ⟨xs, b, ys, rfl, -, c, hc, hk⟩ := h
  exact ⟨c, List.mem_append_right xs (List.mem_cons_of_mem b hc), hk⟩

theorem distinct_cons :
    Distinct key free (b :: l) ↔
      (∀ c ∈ l, key b ≠ free → key b ≠ key c) ∧ Distinct key free l := List.pairwise_cons

/-- A key is in one slot only. -/
theorem Distinct.eq_of_key (h : Distinct key free l) (ha : a ∈ l) (hb : b ∈ l)
    (hfree : key a ≠ free) (hkey : key a = key b) : a = b := by
  induction l with
  | nil => cases ha
  | cons c l ih =>
    obtain ⟨hc, hl⟩ := distinct_cons.mp h
    obtain rfl | hal := List.mem_cons.mp ha
    · obtain rfl | hbl := List.mem_cons.mp hb
      · rfl
      · exact absurd hkey (hc b hbl hfree)
    · obtain rfl | hbl := List.mem_cons.mp hb
      · exact absurd hkey.symm (hc a hal (hkey ▸ hfree))
      · exact ih hl hal hbl

/-! ## Putting -/

section Put

variable [DecidableEq κ]

theorem mem_put (h : b ∈ put key free k a l) : b = a ∨ b ∈ l := by
  induction l with
  | nil => cases h
  | cons c l ih =>
    rw [put] at h
    split at h
    · obtain hb | hb := List.mem_cons.mp h
      · exact .inl hb
      · exact .inr (List.mem_cons_of_mem c hb)
    · obtain rfl | hb := List.mem_cons.mp h
      · exact .inr List.mem_cons_self
      · exact (ih hb).imp_right (List.mem_cons_of_mem c)

theorem mem_put_self (h : ∃ c ∈ l, Place key free k c) : a ∈ put key free k a l := by
  induction l with
  | nil =>
    obtain ⟨c, hc, -⟩ := h
    cases hc
  | cons b l ih =>
    rw [put]
    split
    · exact List.mem_cons_self
    · rename_i hno
      obtain ⟨c, hc, hplace⟩ := h
      obtain rfl | hc := List.mem_cons.mp hc
      · exact absurd hplace hno
      · exact List.mem_cons_of_mem b (ih ⟨c, hc, hplace⟩)

/-- The entries of other keys stay. -/
theorem mem_put_of_mem (hb : b ∈ l) (h : ¬ Place key free k b) : b ∈ put key free k a l := by
  induction l with
  | nil => cases hb
  | cons c l ih =>
    rw [put]
    obtain rfl | hb := List.mem_cons.mp hb
    · rw [if_neg h]
      exact List.mem_cons_self
    · split
      · exact List.mem_cons_of_mem a hb
      · exact List.mem_cons_of_mem c (ih hb)

@[simp] theorem length_put (k : κ) (a : α) (l : List α) :
    (put key free k a l).length = l.length := by
  induction l with
  | nil => rfl
  | cons b l ih =>
    rw [put]
    split
    · rfl
    · rw [List.length_cons, List.length_cons, ih]

/-- **When a `put` keeps the keys distinct**: if the slot with the key is not behind a free one. -/
theorem distinct_put_iff (h : Distinct key free l) (ha : key a = k) (hk : k ≠ free) :
    Distinct key free (put key free k a l) ↔ ¬ FreeBefore key free k l := by
  induction l with
  | nil =>
    refine iff_of_true List.Pairwise.nil ?_
    rintro ⟨xs, b, ys, hl, -⟩
    exact absurd hl (by simp)
  | cons b l ih =>
    obtain ⟨hb, hl⟩ := distinct_cons.mp h
    rw [put, freeBefore_cons, not_or]
    by_cases hkey : key b = k
    · -- The slot has the key already.
      have hno : ¬ ∃ c ∈ l, key c = k := by
        rintro ⟨c, hc, hck⟩
        exact hb c hc (hkey ▸ hk) (hkey.trans hck.symm)
      rw [if_pos (.inl hkey), distinct_cons]
      refine iff_of_true ⟨fun c hc _ hck => ?_, hl⟩ ⟨fun hfree => hno hfree.2, fun hf => hno hf.mem⟩
      exact hno ⟨c, hc, hck.symm.trans ha⟩
    by_cases hfree : key b = free
    · rw [if_pos (.inr hfree), distinct_cons]
      constructor
      · rintro ⟨hne, -⟩
        have hno : ¬ ∃ c ∈ l, key c = k := by
          rintro ⟨c, hc, hck⟩
          exact hne c hc (ha ▸ hk) (ha.trans hck.symm)
        exact ⟨fun hf => hno hf.2, fun hf => hno hf.mem⟩
      · rintro ⟨hno, -⟩
        refine ⟨fun c hc _ hck => ?_, hl⟩
        exact hno ⟨hfree, c, hc, hck.symm.trans ha⟩
    · have hplace : ¬ Place key free k b := not_or.mpr ⟨hkey, hfree⟩
      rw [if_neg hplace, distinct_cons, ih hl,
        and_iff_right (fun hf => hfree hf.1)]
      refine and_iff_right fun c hc _ hck => ?_
      obtain rfl | hc := mem_put hc
      · exact hkey (hck.trans ha)
      · exact hb c hc hfree hck

end Put

/-- With at most as many keys as slots there is a place. -/
theorem exists_place (h : Distinct key free l) {ks : List κ} (hks : ks.length ≤ l.length)
    (hmem : ∀ a ∈ l, key a ≠ free → key a ∈ ks) (hk : k ∈ ks) :
    ∃ c ∈ l, Place key free k c := by
  by_contra hno
  have hnone : ∀ c ∈ l, key c ≠ k ∧ key c ≠ free := fun c hc =>
    not_or.mp fun hplace => hno ⟨c, hc, hplace⟩
  -- All slots are occupied by different keys, and `k` is none of them.
  have hnodup : (k :: l.map key).Nodup := by
    rw [List.nodup_cons]
    refine ⟨?_, ?_⟩
    · intro hin
      obtain ⟨c, hc, hck⟩ := List.mem_map.mp hin
      exact (hnone c hc).1 hck
    · refine List.pairwise_map.mpr (h.imp_of_mem fun ha _ hne => ?_)
      exact hne (hnone _ ha).2
  have hsub : k :: l.map key ⊆ ks := by
    refine List.cons_subset.mpr ⟨hk, ?_⟩
    intro x hx
    obtain ⟨c, hc, rfl⟩ := List.mem_map.mp hx
    exact hmem c hc (hnone c hc).2
  have hlen := (hnodup.subperm hsub).length_le
  rw [List.length_cons, List.length_map] at hlen
  omega

/-! ## Packed tables -/

variable (key free) in
/-- No slot behind a free one is occupied. -/
def Packed (l : List α) : Prop := l.Pairwise fun a b => key a = free → key b = free

theorem Packed.not_freeBefore (h : Packed key free l) (hk : k ≠ free) :
    ¬ FreeBefore key free k l := by
  rintro ⟨xs, b, ys, rfl, hfree, c, hc, hck⟩
  have hbehind := (List.pairwise_cons.mp (List.pairwise_append.mp h).2.1).1 c hc hfree
  exact hk (hck.symm.trans hbehind)

theorem packed_put [DecidableEq κ] (h : Packed key free l) (ha : key a ≠ free) :
    Packed key free (put key free k a l) := by
  induction l with
  | nil => exact h
  | cons b l ih =>
    obtain ⟨hb, hl⟩ := List.pairwise_cons.mp h
    rw [put]
    split
    · exact List.pairwise_cons.mpr ⟨fun _ _ hfree => absurd hfree ha, hl⟩
    · rename_i hno
      exact List.pairwise_cons.mpr ⟨fun _ _ hfree => absurd (.inr hfree) hno, ih hl⟩

/-! ## Freeing -/

section Freeing

variable {P : α → Prop}

theorem frees_refl (l : List α) : Frees key free P l l :=
  List.forall₂_same.mpr fun _ _ => .inl rfl

theorem Frees.mem (h : Frees key free P l l') (hb : b ∈ l') (hfree : key b ≠ free) : b ∈ l := by
  induction h with
  | nil => cases hb
  | cons hab _ ih =>
    obtain rfl | hb := List.mem_cons.mp hb
    · obtain rfl | ⟨hf, -⟩ := hab
      · exact List.mem_cons_self
      · exact absurd hf hfree
    · exact List.mem_cons_of_mem _ (ih hb)

/-- A slot without the reason to free it stays. -/
theorem Frees.mem_of_not (h : Frees key free P l l') (ha : a ∈ l) (hP : ¬ P a) : a ∈ l' := by
  induction h with
  | nil => cases ha
  | cons hab _ ih =>
    obtain rfl | ha := List.mem_cons.mp ha
    · obtain rfl | ⟨-, hPa⟩ := hab
      · exact List.mem_cons_self
      · exact absurd hPa hP
    · exact List.mem_cons_of_mem _ (ih ha)

theorem Frees.distinct (h : Frees key free P l l') (hl : Distinct key free l) :
    Distinct key free l' := by
  induction h with
  | nil => exact List.Pairwise.nil
  | cons hab hrest ih =>
    obtain ⟨ha, hl⟩ := distinct_cons.mp hl
    refine distinct_cons.mpr ⟨fun c hc hfree hbc => ?_, ih hl⟩
    obtain rfl | ⟨hf, -⟩ := hab
    · have hcl := Frees.mem hrest hc (hbc ▸ hfree)
      exact ha c hcl hfree hbc
    · exact hfree hf

end Freeing

end Slots
