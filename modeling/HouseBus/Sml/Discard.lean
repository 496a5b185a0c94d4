import HouseBus.Sml.Safety
import HouseBus.Sml.Search

/-!
# Values that are not supported

The branch of `ST_VALUE` that discards a length byte goes on to `substate++` and to the test for the
end of the value. With a low nibble below 2 that test holds, and a message is sent all the same.
With any other the search starts with one byte found, as if a `0x77` had been received: it differs
from a search from zero where this byte leads to a prefix, or takes part of one away
(`sml_discards_iff`).
-/

namespace HouseBus

open Bytes Search

/-- A TL byte other than `0x5n` and `0x6n` with `2 ≤ n ≤ 9`. -/
def Unsupported (tl : UInt8) : Prop :=
  ¬ ((tl &&& 0xF0 = 0x50 ∨ tl &&& 0xF0 = 0x60) ∧
    2 ≤ (tl &&& 0x0F).toNat ∧ (tl &&& 0x0F).toNat ≤ 9)

instance (tl : UInt8) : Decidable (Unsupported tl) := inferInstanceAs (Decidable (¬ _))

/-- The field that is parsed, and the messages sent so far, are the same. -/
def SameBehaviour (s t : Sml) : Prop := s.state = t.state ∧ s.broadcasts = t.broadcasts

/-- No message is sent for the value with the TL byte `tl`, and on `rest` the receiver behaves as
from the start of a search. -/
def DroppedCleanly (s : Sml) (tl : UInt8) (rest : List UInt8) : Prop :=
  (smlStep s tl).broadcasts = s.broadcasts ∧
    ∀ x, x <+: rest → SameBehaviour (Machine.run smlStep (smlStep s tl) x)
      (Machine.run smlStep ((smlStep s tl).searchAt 0) x)

/-- Behind `k` bytes of a prefix, `rest` starts with stumps and a prefix behind them. -/
def Resumes (k : ℕ) (rest : List UInt8) : Prop :=
  ∃ stumps : List (List UInt8), (∀ b ∈ stumps, Stump smlPrefix b) ∧
    stumps.flatten ++ smlPrefix <+: smlPrefix.take k ++ rest

/-! ## The length byte -/

theorem extendValue_broadcasts (ext : UInt8) (left : ℕ) (s : Sml) :
    (extendValue ext left s).1.broadcasts = s.broadcasts := by
  induction left generalizing s with
  | zero => rfl
  | succ left ih => exact ih _

theorem finishValue_broadcasts (s : Sml) :
    ∃ buffer, (finishValue s).1.broadcasts = s.broadcasts ++ [buffer] := by
  simp only [finishValue, broadcastMeter, extendValue_broadcasts]
  exact ⟨_, rfl⟩

/-- With a low nibble below 2 a message is sent. -/
theorem smlStep_short {s : Sml} (hs : s.state = .value) (h0 : s.substate = 0) {tl : UInt8}
    (hlow : (tl &&& 0x0F).toNat < 2) :
    ∃ buffer, (smlStep s tl).broadcasts = s.broadcasts ++ [buffer] := by
  obtain ⟨-, hsub, hbuf, -⟩ := storeValueByte_first h0 tl
  have hkept : (storeValueByte s tl).1.broadcasts = s.broadcasts := by
    rw [storeValueByte, if_pos h0]
    simp only
    split <;> rfl
  rw [smlStep, smlReceive, hs]
  simp only [valueByte]
  rw [if_pos (by rw [hsub, hbuf]; omega), ← hkept]
  exact finishValue_broadcasts _

/-- With another one the search starts with one byte found. -/
theorem smlStep_discard {s : Sml} (hs : s.state = .value) (h0 : s.substate = 0) {tl : UInt8}
    (hun : Unsupported tl) (hlow : 2 ≤ (tl &&& 0x0F).toNat) :
    (smlStep s tl).broadcasts = s.broadcasts ∧ smlStep s tl = (smlStep s tl).searchAt 1 := by
  have hdiscard : (tl &&& 0xF0 ≠ 0x60 ∧ tl &&& 0xF0 ≠ 0x50) ∨ 9 < (tl &&& 0x0F).toNat := by
    unfold Unsupported at hun
    by_contra hno
    apply hun
    grind
  have hstep : smlStep s tl = { s with
      stateBuf := (tl &&& 0x0F).toNat
      sign := decide (tl &&& 0xF0 = 0x50)
      state := .searchPrefix
      substate := 1 } := by
    rw [smlStep, smlReceive, hs]
    simp only [valueByte, storeValueByte, if_pos h0, if_pos hdiscard]
    exact congrArg Prod.fst (if_neg (by omega))
  rw [hstep]
  exact ⟨rfl, rfl⟩

/-! ## Two searches -/

theorem SameBehaviour.symm {s t : Sml} (h : SameBehaviour s t) : SameBehaviour t s :=
  ⟨h.1.symm, h.2.symm⟩

/-- Up to the first byte of a prefix that breaks the match of `k` bytes, or to one that both
searches skip, nothing is found. -/
theorem sameBehaviour_of_not_resumes (s : Sml) {k : ℕ} (hk : 0 < k) (hk4 : k < 4) {x : List UInt8}
    (h : ¬ Resumes k x) :
    SameBehaviour (Machine.run smlStep (s.searchAt 0) x)
      (Machine.run smlStep (s.searchAt k) x) := by
  induction x generalizing k with
  | nil => exact ⟨rfl, rfl⟩
  | cons b x ih =>
    rw [Machine.run_cons, Machine.run_cons, smlStep_searchAt s hk4, smlStep_searchAt s (by omega)]
    have hsplit : smlPrefix.take k ++ b :: x = smlPrefix.take k ++ [b] ++ x := by simp
    by_cases hfirst : b = 0x77
    · subst hfirst
      have hbreaks : count smlPrefix k 0x77 = 0 := count_first smlPrefix_first hk
      have hstarts : count smlPrefix 0 0x77 = 1 := rfl
      rw [hbreaks, hstarts, if_neg (by omega), if_neg (by omega)]
      apply SameBehaviour.symm
      apply ih (k := 1) (by omega) (by omega)
      rintro ⟨stumps, hstumps, hpre⟩
      refine h ⟨smlPrefix.take k :: stumps, ?_, ?_⟩
      · exact List.forall_mem_cons.mpr ⟨stump_take hk hk4, hstumps⟩
      · rw [List.flatten_cons, List.append_assoc]
        exact (List.prefix_append_right_inj _).mpr hpre
    · have hzero : count smlPrefix 0 b = 0 :=
        scan_of_notMem (w := [b]) (by simpa [eq_comm] using hfirst)
      rw [hzero, if_neg (by omega), count]
      split
      · rename_i hnext
        have htake : smlPrefix.take (k + 1) = smlPrefix.take k ++ [b] := by
          rw [List.take_add_one, hnext, Option.toList_some]
        split
        · rename_i hall
          refine absurd ⟨[], by simp, ?_⟩ h
          rw [hsplit, ← htake, hall]
          exact List.prefix_append smlPrefix x
        · rename_i hmore
          apply ih (k := k + 1) (by omega) (by omega)
          rintro ⟨stumps, hstumps, hpre⟩
          rw [htake, ← hsplit] at hpre
          exact h ⟨stumps, hstumps, hpre⟩
      · exact ⟨rfl, rfl⟩

/-- Behind stumps and a prefix one of the two has found it, and the other has not. -/
theorem differ_of_stumps (s : Sml) {stumps : List (List UInt8)}
    (h : ∀ b ∈ stumps, Stump smlPrefix b) {x : List UInt8}
    (hx : stumps.flatten ++ smlPrefix = 0x77 :: x) :
    (Machine.run smlStep (s.searchAt 0) x).state ≠
      (Machine.run smlStep (s.searchAt 1) x).state := by
  have hone : Machine.run smlStep (s.searchAt 1) x =
      if Even stumps.length then s.atObis else s.searchAt 0 := by
    rw [← run_stumps_prefix s h, hx, Machine.run_cons, smlStep_searchAt s (by omega)]
    rfl
  have hgap : ∀ {gap : List UInt8}, 0x77 ∉ gap →
      Machine.run smlStep (s.searchAt 0) gap = s.searchAt 0 := run_gap ⟨rfl, rfl⟩
  rw [hone]
  cases stumps with
  | nil =>
    obtain ⟨-, rfl⟩ := List.cons.inj (show 0x77 :: [0x07, 0x01, 0x00] = 0x77 :: x from hx)
    rw [hgap smlPrefix_first, List.length_nil, if_pos Even.zero]
    exact SmlState.noConfusion
  | cons b stumps =>
    obtain ⟨hb, hrest⟩ := List.forall_mem_cons.mp h
    obtain ⟨w, rfl, hw, -⟩ := stump_cons_iff.mp hb
    have htail : x = w ++ (stumps.flatten ++ smlPrefix) := by
      rw [List.flatten_cons, List.append_assoc, List.cons_append] at hx
      exact (List.cons.inj hx).2.symm
    have hno : (0x77 : UInt8) ∉ w := fun hmem => smlPrefix_first (hw.subset hmem)
    rw [htail, Machine.run_append, hgap hno, run_stumps_prefix s hrest, List.length_cons]
    by_cases heven : Even stumps.length
    · rw [if_pos heven, if_neg (Nat.even_add_one.not_left.mpr heven)]
      exact SmlState.noConfusion
    · rw [if_neg heven, if_pos (Nat.even_add_one.mpr heven)]
      exact SmlState.noConfusion

/-! ## Which values are dropped -/

/-- **When a value is dropped cleanly**: the low nibble of its TL byte is at least 2, and no prefix
follows that a `0x77` in place of the TL byte would begin, alone or with stumps before the prefix.
-/
theorem sml_discards_iff {s : Sml} (hs : s.state = .value) (h0 : s.substate = 0) {tl : UInt8}
    (hun : Unsupported tl) (rest : List UInt8) :
    DroppedCleanly s tl rest ↔ 2 ≤ (tl &&& 0x0F).toNat ∧ ¬ Resumes 1 rest := by
  constructor
  · rintro ⟨hnone, hsame⟩
    have hlow : 2 ≤ (tl &&& 0x0F).toNat := by
      by_contra hshort
      obtain ⟨buffer, hsent⟩ := smlStep_short hs h0 (show (tl &&& 0x0F).toNat < 2 by omega)
      rw [hsent] at hnone
      simp at hnone
    refine ⟨hlow, ?_⟩
    rintro ⟨stumps, hstumps, hpre⟩
    obtain ⟨-, hsearch⟩ := smlStep_discard hs h0 hun hlow
    obtain ⟨x, hx⟩ : ∃ x, stumps.flatten ++ smlPrefix = 0x77 :: x := by
      cases hall : stumps.flatten ++ smlPrefix with
      | nil => simp [smlPrefix] at hall
      | cons b x =>
        rw [hall] at hpre
        exact ⟨x, by rw [(List.cons_prefix_cons.mp hpre).1]⟩
    rw [hx] at hpre
    have hrest : x <+: rest := (List.cons_prefix_cons.mp hpre).2
    have hdiffer := differ_of_stumps (smlStep s tl) hstumps hx
    rw [← hsearch] at hdiffer
    exact hdiffer (hsame x hrest).1.symm
  · rintro ⟨hlow, hno⟩
    obtain ⟨hnone, hsearch⟩ := smlStep_discard hs h0 hun hlow
    refine ⟨hnone, fun x hx => ?_⟩
    have hnox : ¬ Resumes 1 x := by
      rintro ⟨stumps, hstumps, hpre⟩
      exact hno ⟨stumps, hstumps, hpre.trans ((List.prefix_append_right_inj _).mpr hx)⟩
    have hsame := sameBehaviour_of_not_resumes (smlStep s tl) (k := 1) (by omega) (by omega) hnox
    rw [← hsearch] at hsame
    exact hsame.symm

/-- The start of an entry, up to the TL byte of its value. -/
def entryHead : List UInt8 :=
  [0x77, 0x07, 0x01, 0x00, 0x01, 0x08, 0x00, 0xFF, 0x01, 0x01, 0x62, 0x1E, 0x52, 0xFF]

/-- An octet string, behind which another entry follows. -/
theorem sml_discards_iff_octet_string :
    DroppedCleanly (Machine.run smlStep (Sml.start none) entryHead) 0x03
        [0x41, 0x42, 0x77, 0x07, 0x01, 0x00] ↔
      2 ≤ ((0x03 : UInt8) &&& 0x0F).toNat ∧ ¬ Resumes 1 [0x41, 0x42, 0x77, 0x07, 0x01, 0x00] :=
  sml_discards_iff (by decide) (by decide) (by decide) _

/-- An absent value is sent as a message; behind the TL byte of a list, `07 01 00` is taken for a
prefix. -/
theorem sml_value_not_discarded :
    (Machine.run smlStep (Sml.start none) entryHead).state = .value ∧
      (Machine.run smlStep (Sml.start none) entryHead).substate = 0 ∧
      (Unsupported 0x01 ∧
        ¬ DroppedCleanly (Machine.run smlStep (Sml.start none) entryHead) 0x01 []) ∧
      Unsupported 0x72 ∧
        ¬ DroppedCleanly (Machine.run smlStep (Sml.start none) entryHead) 0x72
          [0x07, 0x01, 0x00] := by
  refine ⟨by decide, by decide, ⟨by decide, ?_⟩, by decide, ?_⟩
  · rintro ⟨hnone, -⟩
    have hlen := congrArg List.length hnone
    exact absurd hlen (by decide)
  · rintro ⟨-, hsame⟩
    obtain ⟨hstate, -⟩ := hsame _ List.prefix_rfl
    exact absurd hstate (by decide)

end HouseBus
