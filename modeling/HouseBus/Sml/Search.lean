import HouseBus.Lib.Search
import HouseBus.Sml.Decode

/-!
# The search of the prefix of an entry

In `ST_SEARCH_PREFIX` the receiver is a search with one counter (`run_searchAt`), and the byte that
breaks a match is not looked at again. So it can miss a prefix: `77 77 07 01 00` is the start of a
list of seven entries, whose own length byte `77` hides the first entry.

`sml_prefix_found_iff`: the first prefix in the bytes is found if and only if an even number of
stumps (`77`, `77 07` or `77 07 01`) stands right before it. Everything the receiver does behind
other bytes of a search follows from the same count (`run_stumps_prefix`).
-/

namespace HouseBus

open Bytes Search

/-- In a search with `j` bytes found. -/
def Sml.searchAt (s : Sml) (j : ℕ) : Sml := { s with state := .searchPrefix, substate := j }

@[simp] theorem searchAt_state (s : Sml) (j : ℕ) : (s.searchAt j).state = .searchPrefix := rfl

@[simp] theorem searchAt_broadcasts (s : Sml) (j : ℕ) :
    (s.searchAt j).broadcasts = s.broadcasts := rfl

/-- Behind the prefix. -/
def Sml.atObis (s : Sml) : Sml := { s with state := .parseObis, substate := 0 }

theorem Searching.eq_searchAt {s : Sml} (h : Searching s) : s = s.searchAt 0 := by
  obtain ⟨hstate, h0⟩ := h
  rw [Sml.searchAt, ← hstate, ← h0]

theorem smlStep_searchAt (s : Sml) {j : ℕ} (hj : j < 4) (msg : UInt8) :
    smlStep (s.searchAt j) msg =
      if count smlPrefix j msg = 4 then s.atObis else s.searchAt (count smlPrefix j msg) := by
  have hcount : count smlPrefix j msg = if msg = smlPrefix.getD j 0 then (j + 1) % 256 else 0 := by
    have hget : smlPrefix[j]? = some (smlPrefix.getD j 0) := by
      rw [List.getD_eq_getElem?_getD, List.getElem?_eq_getElem hj, Option.getD_some]
    rw [count, hget, Nat.mod_eq_of_lt (by omega)]
    simp only [Option.some.injEq, eq_comm]
  rw [smlStep, smlReceive, searchAt_state, hcount]
  simp only [searchPrefixByte, Sml.searchAt, Sml.atObis]
  rfl

/-- **A search that does not end** is the scan. -/
theorem run_searchAt (s : Sml) {j : ℕ} {u : List UInt8}
    (h : ∀ x, x <+: u → scan smlPrefix j x < 4) :
    Machine.run smlStep (s.searchAt j) u = s.searchAt (scan smlPrefix j u) := by
  induction u generalizing j with
  | nil => rfl
  | cons b u ih =>
    have hj : j < 4 := h [] List.nil_prefix
    have hb : count smlPrefix j b < 4 := h [b] (List.prefix_append [b] u)
    rw [Machine.run_cons, smlStep_searchAt s hj, if_neg (by omega), scan_cons]
    apply ih
    exact fun x hx => h (b :: x) (List.cons_prefix_cons.mpr ⟨rfl, hx⟩)

/-- Bytes without the prefix. -/
theorem run_search (s : Sml) {u : List UInt8} (h : ¬ smlPrefix <:+: u) :
    Machine.run smlStep (s.searchAt 0) u = s.searchAt (scan smlPrefix 0 u) := by
  apply run_searchAt
  exact fun x hx => scan_lt_of_absent fun hin => h (hin.trans hx.isInfix)

/-! ## The prefix behind other bytes -/

/-- The first byte of the prefix occurs once. -/
theorem smlPrefix_first : (0x77 : UInt8) ∉ [0x07, 0x01, 0x00] := by decide

/-- The prefix is found from the start of a search, and skipped inside of a match. -/
theorem run_searchAt_prefix (s : Sml) {j : ℕ} (hj : j < 4) :
    Machine.run smlStep (s.searchAt j) smlPrefix = if j = 0 then s.atObis else s.searchAt 0 := by
  split
  · rename_i h0
    rw [h0]
    exact run_prefix ⟨rfl, rfl⟩
  · rename_i h0
    have hskip : ∀ x, x <+: smlPrefix → x = [] ∨ scan smlPrefix j x = 0 := by
      intro x hx
      cases x with
      | nil => exact .inl rfl
      | cons c x =>
        obtain ⟨rfl, hrest⟩ := List.cons_prefix_cons.mp hx
        right
        apply scan_of_pos smlPrefix_first (by omega)
        exact fun hmem => smlPrefix_first (hrest.subset hmem)
    rw [run_searchAt, (hskip _ List.prefix_rfl).resolve_left (List.cons_ne_nil _ _)]
    intro x hx
    obtain rfl | hzero := hskip x hx
    · exact hj
    · omega

theorem run_searchAt_stump (s : Sml) {j : ℕ} (hj : j < 4) {b : List UInt8}
    (hb : Stump smlPrefix b) :
    Machine.run smlStep (s.searchAt j) b = s.searchAt (scan smlPrefix j b) :=
  run_searchAt s fun _ hx => scan_stump_lt smlPrefix_first hb hj hx

theorem run_searchAt_stumps (s : Sml) {j : ℕ} (hj : j < 4) {stumps : List (List UInt8)}
    (h : ∀ b ∈ stumps, Stump smlPrefix b) :
    scan smlPrefix j stumps.flatten < 4 ∧
      Machine.run smlStep (s.searchAt j) stumps.flatten =
        s.searchAt (scan smlPrefix j stumps.flatten) := by
  induction stumps generalizing j with
  | nil => exact ⟨hj, rfl⟩
  | cons b stumps ih =>
    obtain ⟨hb, hrest⟩ := List.forall_mem_cons.mp h
    have hlt := scan_stump_lt smlPrefix_first hb hj List.prefix_rfl
    rw [List.flatten_cons, scan_append, Machine.run_append, run_searchAt_stump s hj hb]
    exact ih hlt hrest

/-- **Stumps, and then the prefix**: it is found if and only if their number is even. -/
theorem run_stumps_prefix (s : Sml) {stumps : List (List UInt8)}
    (h : ∀ b ∈ stumps, Stump smlPrefix b) :
    Machine.run smlStep (s.searchAt 0) (stumps.flatten ++ smlPrefix) =
      if Even stumps.length then s.atObis else s.searchAt 0 := by
  obtain ⟨hlt, hrun⟩ := run_searchAt_stumps s (j := 0) (by omega) h
  have heven := scan_stumps_eq_zero smlPrefix_first h 0
  rw [Machine.run_append, hrun, run_searchAt_prefix s hlt]
  apply if_congr _ rfl rfl
  rw [eq_self_iff_true, true_iff] at heven
  exact heven

/-! ## The first prefix -/

/-- The receiver is behind the prefix after the last byte, and searches it up to then. -/
def FoundAtEnd (s : Sml) (w : List UInt8) : Prop :=
  (Machine.run smlStep s w).state = .parseObis ∧ (Machine.run smlStep s w).substate = 0 ∧
    ∀ x, x <+: w → x ≠ w → (Machine.run smlStep s x).state = .searchPrefix

/-- What stands before the prefix at the end of `w` ends in an even number of stumps. -/
def EvenStumps (w : List UInt8) : Prop :=
  EndsEven smlPrefix (w.take (w.length - smlPrefix.length))

/-- **Which prefixes are found**: the first one in the bytes, if and only if an even number of
stumps stands before it. -/
theorem sml_prefix_found_iff {s : Sml} (h : Searching s) {w : List UInt8} (hend : smlPrefix <:+ w)
    (honce : ¬ smlPrefix <:+: w.dropLast) : FoundAtEnd s w ↔ EvenStumps w := by
  obtain ⟨u, rfl⟩ := hend
  have htake : (u ++ smlPrefix).take ((u ++ smlPrefix).length - smlPrefix.length) = u := by
    rw [List.length_append, Nat.add_sub_cancel, List.take_left]
  have hu : ¬ smlPrefix <:+: u := by
    intro hin
    apply honce (hin.trans (prefix_dropLast (List.prefix_append u smlPrefix) _).isInfix)
    simp [smlPrefix]
  have hrun : Machine.run smlStep s (u ++ smlPrefix) =
      if scan smlPrefix 0 u = 0 then s.atObis else s.searchAt 0 := by
    rw [h.eq_searchAt, Machine.run_append, run_search s hu,
      run_searchAt_prefix s (scan_lt_of_absent hu)]
    rfl
  have hiff : EvenStumps (u ++ smlPrefix) ↔ scan smlPrefix 0 u = 0 := by
    rw [EvenStumps, htake]
    exact (scan_eq_zero_iff smlPrefix_first hu).symm
  rw [hiff]
  constructor
  · rintro ⟨hfound, -, -⟩
    by_contra hpos
    rw [hrun, if_neg hpos] at hfound
    cases hfound
  · intro hzero
    refine ⟨?_, ?_, ?_⟩
    · rw [hrun, if_pos hzero]; rfl
    · rw [hrun, if_pos hzero]; rfl
    · intro x hx hne
      have hno : ¬ smlPrefix <:+: x :=
        fun hin => honce (hin.trans (prefix_dropLast hx hne).isInfix)
      rw [h.eq_searchAt, run_search s hno]
      rfl

theorem sml_prefix_found_iff_77_07_77 :
    FoundAtEnd (Sml.start none) [0x77, 0x07, 0x77, 0x77, 0x07, 0x01, 0x00] ↔
      EvenStumps [0x77, 0x07, 0x77, 0x77, 0x07, 0x01, 0x00] :=
  sml_prefix_found_iff ⟨rfl, rfl⟩ (by decide) (by decide)

/-- The first entry of a list of seven. -/
theorem sml_prefix_missed :
    Searching (Sml.start none) ∧ smlPrefix <:+ [0x77, 0x77, 0x07, 0x01, 0x00] ∧
      ¬ smlPrefix <:+: [0x77, 0x77, 0x07, 0x01, 0x00].dropLast ∧
      ¬ FoundAtEnd (Sml.start none) [0x77, 0x77, 0x07, 0x01, 0x00] := by
  refine ⟨⟨rfl, rfl⟩, by decide, by decide, ?_⟩
  rintro ⟨hfound, -, -⟩
  exact absurd hfound (by decide)

end HouseBus
