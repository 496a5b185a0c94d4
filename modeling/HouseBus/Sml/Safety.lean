import HouseBus.Sml

/-!
# The array accesses of the SML receiver

`SmlOk` ties the counter and the length to the state; every byte keeps it, whatever it is
(`smlOk_step`). Under it two kinds of bytes, and no others, lead to an index outside an array
(`inBounds_iff`): the fourth byte behind a prefix, which goes to `obis[3]`, and a length byte of a
value with a low nibble of 0 or 1, after which `value[state_buf - 2]` is read.
-/

namespace HouseBus

open Bytes

/-- What the states say about the counter and the length. -/
structure SmlOk (s : Sml) : Prop where
  searchPrefix : s.state = .searchPrefix → s.substate < 4
  parseObis : s.state = .parseObis → s.substate < 4
  value : s.state = .value → s.substate ≠ 0 → s.substate < s.stateBuf ∧ s.stateBuf ≤ 9

/-- The byte is neither the fourth one behind a prefix nor the first byte of a value with a low
nibble below 2. -/
def SmlGuard (s : Sml) (msg : UInt8) : Prop :=
  ¬ (s.state = .parseObis ∧ s.substate = 3) ∧
    ¬ (s.state = .value ∧ s.substate = 0 ∧ (msg &&& 0x0F).toNat < 2)

/-- All accesses for the byte are inside their arrays. -/
def InBounds (s : Sml) (msg : UInt8) : Prop := ∀ a ∈ (smlReceive s msg).2, a.Inside

/-! ## The value -/

theorem extendValue_inside (ext : UInt8) (left : ℕ) (s : Sml) (h1 : 1 ≤ s.stateBuf)
    (h9 : s.stateBuf + left ≤ 9) : ∀ a ∈ (extendValue ext left s).2, a.Inside := by
  induction left generalizing s with
  | zero =>
    intro a ha
    cases ha
  | succ left ih =>
    have hrest := ih { s with
      value := Function.update s.value ((s.stateBuf : ℤ) - 1) ext
      stateBuf := s.stateBuf + 1 } (by simp only; omega) (by simp only; omega)
    rw [extendValue]
    refine List.forall_mem_cons.mpr ⟨?_, hrest⟩
    simp only [SmlAccess.Inside, SmlArray.size]
    omega

theorem broadcastMeter_inside (s : Sml) : ∀ a ∈ (broadcastMeter s).2, a.Inside := by
  have hall : ∀ a ∈ [⟨.obis, 0⟩, ⟨.obis, 1⟩, ⟨.obis, 2⟩] ++
      (List.range 8).map (fun i : ℕ => (⟨.value, i⟩ : SmlAccess)), a.Inside := by decide
  exact hall

/-- The end of a value of 1 to 8 bytes. -/
theorem finishValue_inside (s : Sml) (h2 : 2 ≤ s.stateBuf) (h9 : s.stateBuf ≤ 9) :
    ∀ a ∈ (finishValue s).2, a.Inside := by
  rw [finishValue]
  refine List.forall_mem_cons.mpr ⟨?_, List.forall_mem_append.mpr ⟨?_, ?_⟩⟩
  · simp only [SmlAccess.Inside, SmlArray.size]
    omega
  · exact extendValue_inside _ _ s (by omega) (by omega)
  · exact broadcastMeter_inside _

/-- The end of a shorter one reads in front of the array. -/
theorem finishValue_outside (s : Sml) (h : s.stateBuf < 2) :
    ∃ a ∈ (finishValue s).2, ¬ a.Inside := by
  refine ⟨⟨.value, (s.stateBuf : ℤ) - 2⟩, List.mem_cons_self, ?_⟩
  simp only [SmlAccess.Inside]
  omega

/-- The first byte of a value is stored nowhere; it sets the length, and the state stays or goes
back to the search. -/
theorem storeValueByte_first {s : Sml} (h0 : s.substate = 0) (msg : UInt8) :
    (storeValueByte s msg).2 = [] ∧ (storeValueByte s msg).1.substate = 0 ∧
      (storeValueByte s msg).1.stateBuf = (msg &&& 0x0F).toNat ∧
      ((storeValueByte s msg).1.state = .searchPrefix ∨
        (storeValueByte s msg).1.state = s.state ∧ (msg &&& 0x0F).toNat ≤ 9) := by
  rw [storeValueByte, if_pos h0]
  simp only
  split
  · exact ⟨rfl, rfl, rfl, .inl rfl⟩
  · rename_i hkeep
    exact ⟨rfl, h0, rfl, .inr ⟨rfl, by omega⟩⟩

/-- A later byte of a value is stored in front of the one before it. -/
theorem storeValueByte_later {s : Sml} (h0 : s.substate ≠ 0) (msg : UInt8) :
    storeValueByte s msg =
      ({ s with value := Function.update s.value (s.stateBuf - 1 - s.substate) msg },
        [⟨.value, (s.stateBuf : ℤ) - 1 - s.substate⟩]) := if_neg h0

/-- A byte of a value: only a first byte with a length of 0 or 1 leads outside the array. -/
theorem valueByte_inBounds_iff {s : Sml} (h : SmlOk s) (hstate : s.state = .value) (msg : UInt8) :
    (∀ a ∈ (valueByte s msg).2, a.Inside) ↔ ¬ (s.substate = 0 ∧ (msg &&& 0x0F).toNat < 2) := by
  simp only [valueByte]
  by_cases h0 : s.substate = 0
  · obtain ⟨hnone, hsub, hbuf, -⟩ := storeValueByte_first h0 msg
    generalize storeValueByte s msg = stored at hnone hsub hbuf
    rw [hnone, hsub]
    split
    · rename_i hend
      rw [hbuf] at hend
      obtain ⟨a, ha, hout⟩ := finishValue_outside { stored.1 with substate := (0 + 1) % 256 }
        (by simp only [hbuf]; omega)
      exact iff_of_false (fun hall => hout (hall a ha)) (fun hno => hno ⟨h0, by omega⟩)
    · rename_i hmore
      rw [hbuf] at hmore
      exact iff_of_true (fun a ha => by cases ha) (fun hshort => by omega)
  · obtain ⟨hlt, h9⟩ := h.value hstate h0
    refine iff_of_true ?_ fun hno => h0 hno.1
    have hinside : ∀ a ∈ [(⟨.value, (s.stateBuf : ℤ) - 1 - s.substate⟩ : SmlAccess)],
        a.Inside := by
      simp only [List.forall_mem_singleton, SmlAccess.Inside, SmlArray.size]
      omega
    rw [storeValueByte_later h0]
    split
    · exact List.forall_mem_append.mpr
        ⟨hinside, finishValue_inside _ (by simp only; omega) (by simp only; omega)⟩
    · exact hinside

/-! ## One byte -/

/-- **Where an index is outside**: at the two kinds of bytes, and at no others. -/
theorem inBounds_iff {s : Sml} (h : SmlOk s) (msg : UInt8) : InBounds s msg ↔ SmlGuard s msg := by
  unfold InBounds SmlGuard
  cases hstate : s.state with
  | searchPrefix =>
    have hlt := h.searchPrefix hstate
    simp only [smlReceive, hstate, searchPrefixByte, List.forall_mem_singleton, SmlAccess.Inside,
      SmlArray.size, reduceCtorEq, false_and, not_false_eq_true, and_self, iff_true]
    omega
  | parseObis =>
    have hlt := h.parseObis hstate
    simp only [smlReceive, hstate, parseObisByte, List.forall_mem_singleton, SmlAccess.Inside,
      SmlArray.size, reduceCtorEq, false_and, not_false_eq_true, and_true, true_and]
    omega
  | skipStatus | skipValtime | skipScaler => simp [smlReceive, hstate, skipByte]
  | unit => simp [smlReceive, hstate, unitByte]
  | value =>
    simp only [smlReceive, hstate, reduceCtorEq, false_and, not_false_eq_true, true_and]
    exact valueByte_inBounds_iff h hstate msg

/-! ## The invariant -/

/-- A state whose counter is zero. -/
theorem smlOk_of_zero {s : Sml} (h : s.substate = 0) : SmlOk s where
  searchPrefix _ := by omega
  parseObis _ := by omega
  value _ h0 := absurd h h0

theorem smlOk_of_search {s : Sml} (hs : s.state = .searchPrefix) (h : s.substate < 4) :
    SmlOk s where
  searchPrefix _ := h
  parseObis h' := by rw [hs] at h'; cases h'
  value h' := by rw [hs] at h'; cases h'

theorem smlOk_of_obis {s : Sml} (hs : s.state = .parseObis) (h : s.substate < 4) : SmlOk s where
  searchPrefix h' := by rw [hs] at h'; cases h'
  parseObis _ := h
  value h' := by rw [hs] at h'; cases h'

theorem smlOk_of_value {s : Sml} (hs : s.state = .value)
    (h : s.substate < s.stateBuf ∧ s.stateBuf ≤ 9) : SmlOk s where
  searchPrefix h' := by rw [hs] at h'; cases h'
  parseObis h' := by rw [hs] at h'; cases h'
  value _ _ := h

/-- The fields between OBIS and value. -/
theorem smlOk_of_field {s : Sml} (h1 : s.state ≠ .searchPrefix) (h2 : s.state ≠ .parseObis)
    (h3 : s.state ≠ .value) : SmlOk s where
  searchPrefix h := absurd h h1
  parseObis h := absurd h h2
  value h := absurd h h3

theorem countByte_state (s : Sml) (msg : UInt8) : (countByte s msg).state = s.state := by
  unfold countByte
  split <;> rfl

theorem smlOk_countByte {s : Sml} (h1 : s.state ≠ .searchPrefix) (h2 : s.state ≠ .parseObis)
    (h3 : s.state ≠ .value) (msg : UInt8) : SmlOk (countByte s msg) := by
  rw [← countByte_state s msg] at h1 h2 h3
  exact smlOk_of_field h1 h2 h3

theorem smlOk_valueByte {s : Sml} (h : SmlOk s) (hstate : s.state = .value) (msg : UInt8) :
    SmlOk (valueByte s msg).1 := by
  simp only [valueByte]
  split
  · exact smlOk_of_zero rfl
  · rename_i hmore
    by_cases h0 : s.substate = 0
    · obtain ⟨-, hsub, hbuf, hnext⟩ := storeValueByte_first h0 msg
      generalize storeValueByte s msg = stored at hsub hbuf hnext hmore
      simp only [hsub] at hmore
      obtain hs | ⟨hs, h9⟩ := hnext
      · exact smlOk_of_search hs (by simp only [hsub]; omega)
      · exact smlOk_of_value (hs.trans hstate) (by simp only [hsub]; omega)
    · obtain ⟨hlt, h9⟩ := h.value hstate h0
      rw [storeValueByte_later h0] at hmore ⊢
      exact smlOk_of_value hstate ⟨Nat.not_le.mp hmore, h9⟩

/-- **The invariant**: every byte keeps it. -/
theorem smlOk_step : Machine.Keeps smlStep SmlOk := by
  intro s msg h
  rw [smlStep, smlReceive]
  cases hstate : s.state with
  | searchPrefix =>
    have hlt := h.searchPrefix hstate
    simp only [searchPrefixByte]
    generalize hnext : (if msg = smlPrefix.getD s.substate 0 then (s.substate + 1) % 256 else 0) =
      substate
    have hle : substate ≤ 4 := by
      split at hnext <;> omega
    split
    · exact smlOk_of_zero rfl
    · exact smlOk_of_search hstate (by simp only; omega)
  | parseObis =>
    have hlt := h.parseObis hstate
    simp only [parseObisByte]
    split
    · exact smlOk_of_zero rfl
    · exact smlOk_of_obis hstate (by simp only; omega)
  | skipStatus | skipValtime | skipScaler =>
    simp only [skipByte]
    split
    · exact smlOk_of_zero rfl
    · exact smlOk_countByte (by rw [hstate]; decide) (by rw [hstate]; decide)
        (by rw [hstate]; decide) msg
  | unit =>
    simp only [unitByte]
    split
    · exact smlOk_of_zero rfl
    · exact smlOk_countByte (by rw [hstate]; decide) (by rw [hstate]; decide)
        (by rw [hstate]; decide) msg
  | value => exact smlOk_valueByte h hstate msg

/-! ## Streams -/

/-- **The accesses stay inside** exactly in the runs that meet the guard, from any state that bytes
can lead to. -/
theorem sml_inBounds_iff (port : Option SerialDriver) (before stream : List UInt8) :
    let s := Machine.run smlStep (.start port) before
    Machine.Meets smlStep InBounds s stream ↔ Machine.Meets smlStep SmlGuard s stream := by
  have hstart : SmlOk (.start port) := smlOk_of_zero rfl
  exact (smlOk_step.keepsIf SmlGuard).meets_congr (fun s msg hs => inBounds_iff hs msg)
    (smlOk_step.run hstart before) stream

/-- Four bytes behind a prefix. -/
theorem not_sml_inBounds :
    ¬ ∀ (port : Option SerialDriver) (stream : List UInt8),
      Machine.Meets smlStep InBounds (.start port) stream := by
  intro h
  have hrun := h (some .sd1) [0x77, 0x07, 0x01, 0x00, 1, 8, 0, 255]
  have hlast : InBounds (Machine.run smlStep (.start (some .sd1))
      [0x77, 0x07, 0x01, 0x00, 1, 8, 0]) 255 := hrun.2.2.2.2.2.2.2.1
  have hout := hlast ⟨.obis, 3⟩ (by decide +kernel)
  exact absurd hout (by decide)

end HouseBus
