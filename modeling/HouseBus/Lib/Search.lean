import Mathlib.Algebra.Group.Nat.Even
import Mathlib.Data.List.Infix

/-!
# Search with one counter

A pattern is searched symbol by symbol with one counter: the awaited symbol raises it, any other
sets it to zero (`count`, `scan`). The symbol that breaks a match is not looked at again.

A *stump* is a nonempty beginning of the pattern that is not all of it (`Stump`). For a pattern
whose first symbol occurs nowhere else in it, stumps in a row are skipped and counted in turns
(`scan_stumps_eq_zero`): the counter is at zero behind an even number of them, and not at zero
behind an odd one. So behind a text without the pattern it is at zero if and only if the text ends
in an even number of stumps (`scan_eq_zero_iff`).
-/

namespace Search

variable {α : Type*} [DecidableEq α]

/-- The counter after a symbol. -/
def count (p : List α) (j : ℕ) (c : α) : ℕ := if p[j]? = some c then j + 1 else 0

/-- The counter after the symbols `w`. -/
def scan (p : List α) (j : ℕ) (w : List α) : ℕ := w.foldl (count p) j

/-- A nonempty beginning of the pattern, not all of it. -/
def Stump (p b : List α) : Prop := b <+: p ∧ b ≠ [] ∧ b ≠ p

/-- The text ends in an even number of stumps, and none stands before them. -/
def EndsEven (p u : List α) : Prop :=
  ∃ (v : List α) (stumps : List (List α)), u = v ++ stumps.flatten ∧
    (∀ b ∈ stumps, Stump p b) ∧ (∀ b, Stump p b → ¬ b <:+ v) ∧ Even stumps.length

instance (p b : List α) : Decidable (Stump p b) := inferInstanceAs (Decidable (_ ∧ _ ∧ _))

@[simp] theorem scan_nil (p : List α) (j : ℕ) : scan p j [] = j := rfl

@[simp] theorem scan_cons (p : List α) (j : ℕ) (c : α) (w : List α) :
    scan p j (c :: w) = scan p (count p j c) w := rfl

theorem scan_append (p : List α) (j : ℕ) (v w : List α) :
    scan p j (v ++ w) = scan p (scan p j v) w := List.foldl_append

/-- The symbols counted are the last ones of the text. -/
theorem take_scan_suffix (p w : List α) : p.take (scan p 0 w) <:+ w := by
  induction w using List.reverseRecOn with
  | nil => exact List.suffix_rfl
  | append_singleton w c ih =>
    rw [scan_append, scan_cons, scan_nil, count]
    split
    · rename_i hc
      obtain ⟨v, hv⟩ := ih
      refine ⟨v, ?_⟩
      rw [List.take_add_one, hc, Option.toList_some, ← List.append_assoc, hv]
    · rw [List.take_zero]
      exact List.nil_suffix

theorem scan_lt_of_absent {p w : List α} (h : ¬ p <:+: w) : scan p 0 w < p.length := by
  by_contra hge
  have hall : p.take (scan p 0 w) = p := List.take_of_length_le (by omega)
  exact h (hall ▸ (take_scan_suffix p w).isInfix)

omit [DecidableEq α] in
theorem prefix_dropLast {x w : List α} (h : x <+: w) (hne : x ≠ w) : x <+: w.dropLast := by
  have hlt : x.length < w.length :=
    lt_of_le_of_ne h.length_le fun heq => hne (h.eq_of_length heq)
  rw [List.prefix_iff_eq_take.mp h, List.dropLast_eq_take]
  apply List.take_prefix_take_left
  omega

/-- Awaited symbols. -/
theorem scan_prefix_drop {p b : List α} {j : ℕ} (h : b <+: p.drop j) :
    scan p j b = j + b.length := by
  induction b generalizing j with
  | nil => rfl
  | cons c b ih =>
    obtain ⟨r, hr⟩ := h
    have hc : p[j]? = some c := by
      have hhead := congrArg (·[0]?) hr
      rw [List.getElem?_drop] at hhead
      exact hhead.symm
    have hrest : b <+: p.drop (j + 1) := by
      refine ⟨r, ?_⟩
      rw [← List.drop_drop, ← hr]
      rfl
    rw [scan_cons, count, if_pos hc, ih hrest, List.length_cons]
    omega

theorem scan_prefix {p b : List α} (h : b <+: p) : scan p 0 b = b.length := by
  rw [scan_prefix_drop (by rwa [List.drop_zero]), Nat.zero_add]

/-! ## Patterns whose first symbol occurs once -/

variable {a : α} {t : List α}

/-- The first symbol breaks every match. -/
theorem count_first (ha : a ∉ t) {j : ℕ} (hj : 0 < j) : count (a :: t) j a = 0 := by
  obtain ⟨i, rfl⟩ : ∃ i, j = i + 1 := ⟨j - 1, by omega⟩
  rw [count, List.getElem?_cons_succ]
  exact if_neg fun h => ha (List.mem_of_getElem? h)

/-- No match begins without it. -/
theorem scan_of_notMem {w : List α} (h : a ∉ w) : scan (a :: t) 0 w = 0 := by
  induction w with
  | nil => rfl
  | cons c w ih =>
    rw [List.mem_cons, not_or] at h
    have hc : count (a :: t) 0 c = 0 := by
      rw [count, List.getElem?_cons_zero]
      exact if_neg fun heq => h.1 (Option.some.inj heq)
    rw [scan_cons, hc, ih h.2]

/-- The pattern inside of a match is skipped. -/
theorem scan_of_pos (ha : a ∉ t) {j : ℕ} (hj : 0 < j) {w : List α} (hw : a ∉ w) :
    scan (a :: t) j (a :: w) = 0 := by
  rw [scan_cons, count_first ha hj, scan_of_notMem hw]

omit [DecidableEq α] in
theorem stump_cons_iff {b : List α} :
    Stump (a :: t) b ↔ ∃ w, b = a :: w ∧ w <+: t ∧ w ≠ t := by
  constructor
  · rintro ⟨hpre, hnil, hall⟩
    cases b with
    | nil => exact absurd rfl hnil
    | cons c w =>
      obtain ⟨rfl, hw⟩ := List.cons_prefix_cons.mp hpre
      refine ⟨w, rfl, hw, ?_⟩
      rintro rfl
      exact hall rfl
  · rintro ⟨w, rfl, hw, hne⟩
    refine ⟨List.cons_prefix_cons.mpr ⟨rfl, hw⟩, List.cons_ne_nil a w, ?_⟩
    exact fun heq => hne (List.cons.inj heq).2

omit [DecidableEq α] in
theorem stump_take {p : List α} {k : ℕ} (hk : 0 < k) (hlt : k < p.length) : Stump p (p.take k) := by
  have hlen : (p.take k).length = k := List.length_take_of_le hlt.le
  refine ⟨List.take_prefix k p, ?_, ?_⟩
  · intro hnil
    rw [hnil, List.length_nil] at hlen
    omega
  · intro hall
    rw [hall] at hlen
    omega

/-- A stump is counted from zero, and skipped inside of a match. -/
theorem scan_stump (ha : a ∉ t) {b : List α} (hb : Stump (a :: t) b) (j : ℕ) :
    scan (a :: t) j b = if j = 0 then b.length else 0 := by
  split
  · rename_i h0
    rw [h0, scan_prefix hb.1]
  · obtain ⟨w, rfl, hw, -⟩ := stump_cons_iff.mp hb
    apply scan_of_pos ha (by omega)
    exact fun hmem => ha (hw.subset hmem)

theorem scan_stump_lt (ha : a ∉ t) {b x : List α} (hb : Stump (a :: t) b) {j : ℕ}
    (hj : j < (a :: t).length) (hx : x <+: b) : scan (a :: t) j x < (a :: t).length := by
  cases x with
  | nil => exact hj
  | cons c x =>
    have hstump : Stump (a :: t) (c :: x) := by
      refine ⟨hx.trans hb.1, List.cons_ne_nil c x, ?_⟩
      intro heq
      exact hb.2.2 (hb.1.eq_of_length_le (heq ▸ hx.length_le))
    rw [scan_stump ha hstump]
    split
    · apply lt_of_le_of_ne hstump.1.length_le
      exact fun heq => hstump.2.2 (hstump.1.eq_of_length heq)
    · simp

/-- **Stumps in a row** are counted and skipped in turns. -/
theorem scan_stumps_eq_zero (ha : a ∉ t) {stumps : List (List α)}
    (h : ∀ b ∈ stumps, Stump (a :: t) b) (j : ℕ) :
    scan (a :: t) j stumps.flatten = 0 ↔ (j = 0 ↔ Even stumps.length) := by
  induction stumps generalizing j with
  | nil => simp
  | cons b stumps ih =>
    obtain ⟨hb, hrest⟩ := List.forall_mem_cons.mp h
    have hpos : b.length ≠ 0 := fun h0 => hb.2.1 (List.length_eq_zero_iff.mp h0)
    rw [List.flatten_cons, scan_append, ih hrest, scan_stump ha hb, List.length_cons,
      Nat.even_add_one]
    by_cases h0 : j = 0 <;> grind

omit [DecidableEq α] in
/-- A text is a part that ends in no stump, and stumps. -/
theorem exists_stumps (p u : List α) :
    ∃ (v : List α) (stumps : List (List α)), u = v ++ stumps.flatten ∧
      (∀ b ∈ stumps, Stump p b) ∧ ∀ b, Stump p b → ¬ b <:+ v := by
  by_cases h : ∃ b, Stump p b ∧ b <:+ u
  · obtain ⟨b, hb, w, rfl⟩ := h
    have hshort : w.length < (w ++ b).length := by
      have hpos : b.length ≠ 0 := fun h0 => hb.2.1 (List.length_eq_zero_iff.mp h0)
      rw [List.length_append]
      omega
    obtain ⟨v, stumps, rfl, hstumps, hv⟩ := exists_stumps p w
    refine ⟨v, stumps ++ [b], ?_, ?_, hv⟩
    · rw [List.flatten_append, List.flatten_singleton, List.append_assoc]
    · rw [List.forall_mem_append, List.forall_mem_singleton]
      exact ⟨hstumps, hb⟩
  · refine ⟨u, [], (List.append_nil u).symm, ?_, fun b hb hu => h ⟨b, hb, hu⟩⟩
    exact fun b hb => absurd hb List.not_mem_nil
termination_by u.length

/-- **Behind a text without the pattern** the counter is at zero if and only if the text ends in an
even number of stumps. -/
theorem scan_eq_zero_iff (ha : a ∉ t) {u : List α} (hno : ¬ (a :: t) <:+: u) :
    scan (a :: t) 0 u = 0 ↔ EndsEven (a :: t) u := by
  have hparity : ∀ (v : List α) (stumps : List (List α)), u = v ++ stumps.flatten →
      (∀ b ∈ stumps, Stump (a :: t) b) → (∀ b, Stump (a :: t) b → ¬ b <:+ v) →
      (scan (a :: t) 0 u = 0 ↔ Even stumps.length) := by
    intro v stumps hu hstumps hv
    -- what is counted in `v` would be a stump at its end
    have hzero : scan (a :: t) 0 v = 0 := by
      by_contra hpos
      have hlt : scan (a :: t) 0 v < (a :: t).length :=
        scan_lt_of_absent fun h => hno (hu ▸ h.trans (List.prefix_append _ _).isInfix)
      exact hv _ (stump_take (Nat.pos_of_ne_zero hpos) hlt) (take_scan_suffix _ _)
    rw [hu, scan_append, hzero, scan_stumps_eq_zero ha hstumps]
    simp
  constructor
  · intro h0
    obtain ⟨v, stumps, hu, hstumps, hv⟩ := exists_stumps (a :: t) u
    exact ⟨v, stumps, hu, hstumps, hv, (hparity v stumps hu hstumps hv).mp h0⟩
  · rintro ⟨v, stumps, hu, hstumps, hv, heven⟩
    exact (hparity v stumps hu hstumps hv).mpr heven

end Search
