import HouseBus.Sml

/-!
# SML entries are decoded exactly

`SmlEntry` is a well-formed list entry, with the lengths of its fields as invariants, and
`SmlEntry.message` the payload that it stands for.

- Each part of an entry takes the machine from one state to the next (`run_prefix`, `run_obis`,
  `run_skip`, `run_unit`, `run_value`); together they are `run_entry`.
- Bytes without `0x77` between the entries change nothing (`run_gap`).
- `sml_decodes`: a stream of entries gives their messages, each once and in order, however it is
  split over the ticks.
-/

namespace HouseBus

open Bytes

/-! ## Entries -/

/-- A field of one TL byte, whose low four bits are the number of its bytes, and the others. -/
structure SmlField where
  tl : UInt8
  data : List UInt8
  length_eq : (tl &&& 0x0F).toNat = data.length + 1

/-- The bytes of a field. -/
def SmlField.bytes (f : SmlField) : List UInt8 := f.tl :: f.data

/-- A list entry. The value is big-endian, with at most eight bytes behind its TL byte. -/
structure SmlEntry where
  obis : Fin 4 → UInt8
  status : SmlField
  valTime : SmlField
  unitTl : UInt8
  unit : UInt8
  scaler : SmlField
  signed : Bool
  value : List UInt8
  unitTl_length : (unitTl &&& 0x0F).toNat = 2
  value_pos : 1 ≤ value.length
  value_le : value.length ≤ 8

namespace SmlEntry

/-- The TL byte of the value: `0x5n` or `0x6n`. -/
def valueTl (e : SmlEntry) : UInt8 :=
  (if e.signed then 0x50 else 0x60) + UInt8.ofNat (e.value.length + 1)

/-- The bytes of an entry. -/
def bytes (e : SmlEntry) : List UInt8 :=
  smlPrefix ++ List.ofFn e.obis ++ e.status.bytes ++ e.valTime.bytes ++ [e.unitTl, e.unit] ++
    e.scaler.bytes ++ e.valueTl :: e.value

/-- What is to be sent for it: three OBIS bytes, the unit, and the value in 64 bits,
little-endian. -/
def message (e : SmlEntry) : List UInt8 :=
  [e.obis 0, e.obis 1, e.obis 2, e.unit] ++ leBytes 8 (extend64 e.signed e.value).toNat

end SmlEntry

/-- Bytes between entries. -/
abbrev SmlGap := { bytes : List UInt8 // 0x77 ∉ bytes }

/-- The bytes of entries, each behind a gap, and of a last gap. -/
def smlStream (entries : List (SmlGap × SmlEntry)) (last : SmlGap) : List UInt8 :=
  entries.flatMap (fun ge => ge.1.val ++ ge.2.bytes) ++ last.val

/-! ## The parts of an entry -/

/-- The machine is at the start of a search. -/
def Searching (s : Sml) : Prop := s.state = .searchPrefix ∧ s.substate = 0

theorem run_gap {s : Sml} (h : Searching s) {gap : List UInt8} (hgap : 0x77 ∉ gap) :
    Machine.run smlStep s gap = s := by
  obtain ⟨hstate, h0⟩ := h
  induction gap with
  | nil => rfl
  | cons b gap ih =>
    rw [List.mem_cons, not_or] at hgap
    have hstep : smlStep s b = s := by
      have hne : b ≠ smlPrefix.getD 0 0 := fun heq => hgap.1 heq.symm
      simp only [smlStep, smlReceive, hstate, searchPrefixByte, h0, if_neg hne]
      rw [if_neg (by decide), ← h0, ← hstate]
    rw [Machine.run_cons, hstep]
    exact ih hgap.2

theorem run_prefix {s : Sml} (h : Searching s) :
    Machine.run smlStep s smlPrefix = { s with state := .parseObis, substate := 0 } := by
  obtain ⟨hstate, h0⟩ := h
  simp [smlPrefix, smlStep, smlReceive, searchPrefixByte, hstate, h0]

theorem run_obis {s : Sml} (hstate : s.state = .parseObis) (h0 : s.substate = 0)
    (obis : Fin 4 → UInt8) :
    ∃ obis', Machine.run smlStep s (List.ofFn obis) =
        { s with state := .skipStatus, substate := 0, obis := obis' } ∧
      obis' 0 = obis 0 ∧ obis' 1 = obis 1 ∧ obis' 2 = obis 2 := by
  refine ⟨Function.update (Function.update (Function.update (Function.update s.obis 0 (obis 0))
    1 (obis 1)) 2 (obis 2)) 3 (obis 3), ?_, ?_, ?_, ?_⟩
  · simp [List.ofFn_succ, smlStep, smlReceive, parseObisByte, hstate, h0]
  · simp
  · simp
  · simp

/-- The states whose bytes are skipped. -/
def SmlState.Skips (state : SmlState) : Prop :=
  state = .skipStatus ∨ state = .skipValtime ∨ state = .skipScaler

theorem smlStep_skip {s : Sml} (h : s.state.Skips) (b : UInt8) :
    smlStep s b = (skipByte s b).1 := by
  rw [smlStep, smlReceive]
  obtain hs | hs | hs := h <;> rw [hs]

/-- The bytes behind the TL byte of a field that is skipped. -/
theorem run_skipped {s : Sml} (h : s.state.Skips) (hpos : 0 < s.substate) (h16 : s.stateBuf < 16)
    (b : UInt8) (data : List UInt8) (hlen : s.substate + (data.length + 1) = s.stateBuf) :
    Machine.run smlStep s (b :: data) = { s with state := s.state.next, substate := 0 } := by
  induction data generalizing s b with
  | nil =>
    rw [List.length_nil] at hlen
    rw [Machine.run_cons, Machine.run_nil, smlStep_skip h, skipByte,
      countByte_rest hpos (by omega)]
    exact if_pos (show s.stateBuf ≤ s.substate + 1 by omega)
  | cons c data ih =>
    rw [List.length_cons] at hlen
    have hstep : smlStep s b = { s with substate := s.substate + 1 } := by
      rw [smlStep_skip h, skipByte, countByte_rest hpos (by omega)]
      exact if_neg (show ¬ s.stateBuf ≤ s.substate + 1 by omega)
    have hrest := ih (s := { s with substate := s.substate + 1 }) h (Nat.succ_pos _) h16 c
      (by simp only; omega)
    rw [Machine.run_cons, hstep, hrest]

theorem SmlField.tl_lt (f : SmlField) : f.data.length + 1 < 16 := by
  have hlow : ∀ n < 256, (UInt8.ofNat n &&& 0x0F).toNat < 16 := by decide +kernel
  have h := hlow f.tl.toNat f.tl.toNat_lt
  rw [UInt8.ofNat_toNat, f.length_eq] at h
  exact h

/-- **A field that is skipped** leads to the next state. -/
theorem run_skip {s : Sml} (h : s.state.Skips) (h0 : s.substate = 0) (f : SmlField) :
    ∃ stateBuf, Machine.run smlStep s f.bytes =
      { s with state := s.state.next, substate := 0, stateBuf := stateBuf } := by
  have h16 := f.tl_lt
  refine ⟨f.data.length + 1, ?_⟩
  rw [SmlField.bytes, Machine.run_cons, smlStep_skip h, skipByte, countByte_first h0, f.length_eq]
  generalize f.data = data at h16 ⊢
  cases data with
  | nil => rfl
  | cons b data =>
    rw [List.length_cons] at h16 ⊢
    rw [if_neg (show ¬ data.length + 1 + 1 ≤ 1 by omega)]
    exact run_skipped (s := { s with stateBuf := data.length + 1 + 1, substate := 1 }) h
      Nat.zero_lt_one h16 b data (Nat.add_comm _ _)

theorem run_unit {s : Sml} (hstate : s.state = .unit) (h0 : s.substate = 0) (tl unit : UInt8)
    (htl : (tl &&& 0x0F).toNat = 2) :
    ∃ stateBuf, Machine.run smlStep s [tl, unit] =
      { s with state := .skipScaler, substate := 0, unit := unit, stateBuf := stateBuf } := by
  refine ⟨2, ?_⟩
  have hstep : ∀ s b, s.state = .unit → smlStep s b = (unitByte s b).1 := by
    intro s b h
    rw [smlStep, smlReceive, h]
  rw [Machine.run_cons, hstep s tl hstate, unitByte, countByte_first h0, htl]
  rw [Machine.run_cons, Machine.run_nil, hstep _ unit (by exact hstate), unitByte]
  simp only [hstate]
  rfl

/-! ## The value -/

/-- `value` with the bytes from index `top` on downwards. -/
def storeDown (value : ℤ → UInt8) (top : ℤ) : List UInt8 → ℤ → UInt8
  | [] => value
  | b :: bs => storeDown (Function.update value top b) (top - 1) bs

theorem storeDown_of_lt {value : ℤ → UInt8} {top i : ℤ} (h : top < i) (bs : List UInt8) :
    storeDown value top bs i = value i := by
  induction bs generalizing value top with
  | nil => rfl
  | cons b bs ih =>
    rw [storeDown, ih (by omega), Function.update_of_ne (by omega)]

/-- What comes in big-endian is stored little-endian. -/
theorem storeDown_eq (value : ℤ → UInt8) (bs : List UInt8) :
    ((List.range bs.length).map fun i : ℕ => storeDown value (bs.length - 1) bs i) =
      bs.reverse := by
  induction bs generalizing value with
  | nil => rfl
  | cons b bs ih =>
    have htop : (((b :: bs).length : ℕ) : ℤ) - 1 = bs.length := by simp
    rw [htop, List.length_cons, List.range_succ, List.map_append, List.reverse_cons, storeDown]
    congr 1
    · exact ih _
    · rw [List.map_singleton, storeDown_of_lt (by omega), Function.update_self]

/-- The bytes of the value but the first: the last of them ends it. -/
theorem run_valueBytes {s : Sml} (hstate : s.state = .value) (hpos : 0 < s.substate)
    (h9 : s.stateBuf ≤ 9) (b : UInt8) (bs : List UInt8)
    (hlen : s.substate + (bs.length + 1) = s.stateBuf) :
    Machine.run smlStep s (b :: bs) = (finishValue { s with
      value := storeDown s.value (s.stateBuf - 1 - s.substate) (b :: bs)
      substate := s.stateBuf }).1 := by
  have hstep : ∀ s b, s.state = .value → 0 < s.substate → s.substate < 9 → smlStep s b =
      if s.stateBuf ≤ s.substate + 1 then
        (finishValue { s with
          value := Function.update s.value (s.stateBuf - 1 - s.substate) b
          substate := s.substate + 1 }).1
      else { s with
        value := Function.update s.value (s.stateBuf - 1 - s.substate) b
        substate := s.substate + 1 } := by
    intro s b hstate hpos hlt
    have hmod : (s.substate + 1) % 256 = s.substate + 1 := Nat.mod_eq_of_lt (by omega)
    simp only [smlStep, smlReceive, hstate, valueByte, storeValueByte,
      if_neg (show ¬ s.substate = 0 by omega), hmod]
    split <;> rfl
  induction bs generalizing s b with
  | nil =>
    rw [List.length_nil] at hlen
    rw [Machine.run_cons, Machine.run_nil, hstep s b hstate hpos (by omega), if_pos (by omega),
      show s.substate + 1 = s.stateBuf by omega]
    rfl
  | cons c bs ih =>
    rw [List.length_cons] at hlen
    have hrest := ih (s := { s with
      value := Function.update s.value (s.stateBuf - 1 - s.substate) b
      substate := s.substate + 1 }) hstate (Nat.succ_pos _) h9 c (by simp only; omega)
    have htop : (s.stateBuf : ℤ) - 1 - (s.substate + 1 : ℕ) = s.stateBuf - 1 - s.substate - 1 := by
      omega
    rw [Machine.run_cons, hstep s b hstate hpos (by omega), if_neg (by omega), hrest]
    simp only [htop]
    rfl

/-- The loop of the sign extension: it fills the value up. -/
theorem extendValue_eq (ext : UInt8) (left : ℕ) (s : Sml) {p : ℕ} (hp : s.stateBuf = p + 1) :
    ∃ value stateBuf, (extendValue ext left s).1 =
        { s with value := value, stateBuf := stateBuf } ∧
      ((List.range (p + left)).map fun i : ℕ => value i) =
        ((List.range p).map fun i : ℕ => s.value i) ++ List.replicate left ext := by
  induction left generalizing s p with
  | zero => exact ⟨s.value, s.stateBuf, rfl, by simp⟩
  | succ left ih =>
    have hi : (s.stateBuf : ℤ) - 1 = p := by omega
    obtain ⟨value, stateBuf, hs, hvalue⟩ := ih { s with
      value := Function.update s.value p ext
      stateBuf := s.stateBuf + 1 } (p := p + 1) (by simp only; omega)
    simp only at hvalue
    refine ⟨value, stateBuf, ?_, ?_⟩
    · simp only [extendValue, hi]
      exact hs
    · have hbefore : ((List.range p).map fun i : ℕ => Function.update s.value p ext i) =
          (List.range p).map fun i : ℕ => s.value i := by
        refine List.map_congr_left fun i hlt => Function.update_of_ne ?_ _ _
        have := List.mem_range.mp hlt
        omega
      rw [show p + (left + 1) = p + 1 + left by omega, hvalue, List.range_succ, List.map_append,
        hbefore, List.map_singleton, Function.update_self, List.append_assoc]
      rfl

/-- **The end of a value** of `bs.length` bytes sends it with its extension. -/
theorem finishValue_eq (s : Sml) (b : UInt8) (bs : List UInt8) (h : bs.length < 8)
    (hbuf : s.stateBuf = bs.length + 2) (value : ℤ → UInt8)
    (hvalue : s.value = storeDown value bs.length (b :: bs)) :
    ∃ value' stateBuf, (finishValue s).1 = { s with
      state := .searchPrefix
      substate := 0
      value := value'
      stateBuf := stateBuf
      broadcasts := s.broadcasts ++ [[s.obis 0, s.obis 1, s.obis 2, s.unit] ++
        leBytes 8 (extend64 s.sign (b :: bs)).toNat] } := by
  have hi : (s.stateBuf : ℤ) - 2 = bs.length := by omega
  have hfirst : s.value bs.length = b := by
    rw [hvalue, storeDown, storeDown_of_lt (by omega), Function.update_self]
  have hlow : ((List.range (bs.length + 1)).map fun i : ℕ => s.value i) = (b :: bs).reverse := by
    have h := storeDown_eq value (b :: bs)
    have htop : (((b :: bs).length : ℕ) : ℤ) - 1 = bs.length := by simp
    rw [htop, ← hvalue] at h
    exact h
  obtain ⟨value', stateBuf, hs, hextended⟩ := extendValue_eq
    (if b &&& 0x80 ≠ 0 ∧ s.sign = true then 0xFF else 0x00) (9 - s.stateBuf) s hbuf
  rw [hlow, show bs.length + 1 + (9 - s.stateBuf) = 8 by omega,
    show 9 - s.stateBuf = 7 - bs.length by omega, ← leBytes_extend64 s.sign b bs h] at hextended
  refine ⟨value', stateBuf, ?_⟩
  simp only [finishValue, hi, hfirst, hs, broadcastMeter, hextended]

/-- **The value** is sent in 64 bits, and the search begins again. -/
theorem run_value {s : Sml} (hstate : s.state = .value) (h0 : s.substate = 0) (e : SmlEntry) :
    ∃ value stateBuf, Machine.run smlStep s (e.valueTl :: e.value) = { s with
      state := .searchPrefix
      substate := 0
      value := value
      stateBuf := stateBuf
      sign := e.signed
      broadcasts := s.broadcasts ++ [[s.obis 0, s.obis 1, s.obis 2, s.unit] ++
        leBytes 8 (extend64 e.signed e.value).toNat] } := by
  have hpos := e.value_pos
  have hle := e.value_le
  have htl : ∀ signed, ∀ n < 9, 1 ≤ n →
      let tl : UInt8 := (if signed then 0x50 else 0x60) + UInt8.ofNat (n + 1)
      (tl &&& 0x0F).toNat = n + 1 ∧ decide (tl &&& 0xF0 = 0x50) = signed ∧
        ¬ (tl &&& 0xF0 ≠ 0x60 ∧ tl &&& 0xF0 ≠ 0x50) := by decide +kernel
  obtain ⟨hlow, hsign, hkind⟩ := htl e.signed e.value.length (by omega) hpos
  have hstep : smlStep s e.valueTl =
      { s with stateBuf := e.value.length + 1, sign := e.signed, substate := 1 } := by
    have hdiscard : ¬ ((e.valueTl &&& 0xF0 ≠ 0x60 ∧ e.valueTl &&& 0xF0 ≠ 0x50) ∨
        9 < e.value.length + 1) := by
      rintro (h | h)
      · exact hkind h
      · omega
    have hlow : (e.valueTl &&& 0x0F).toNat = e.value.length + 1 := hlow
    have hsign : decide (e.valueTl &&& 0xF0 = 0x50) = e.signed := hsign
    have hstore : storeValueByte s e.valueTl =
        ({ s with stateBuf := e.value.length + 1, sign := e.signed }, []) := by
      rw [storeValueByte, if_pos h0, hlow, hsign]
      exact if_neg hdiscard
    simp only [smlStep, smlReceive, hstate, valueByte, hstore, h0]
    rw [if_neg (show ¬ e.value.length + 1 ≤ (0 + 1) % 256 by omega)]
  rw [Machine.run_cons, hstep]
  generalize e.value = data at hpos hle ⊢
  cases data with
  | nil => simp at hpos
  | cons b bs =>
    rw [List.length_cons] at hle ⊢
    have hrun := run_valueBytes (s := { s with
      stateBuf := bs.length + 1 + 1, sign := e.signed, substate := 1 }) hstate Nat.zero_lt_one
      (by simp only; omega) b bs (Nat.add_comm _ _)
    have htop : ((bs.length + 1 + 1 : ℕ) : ℤ) - 1 - (1 : ℕ) = bs.length := by omega
    rw [hrun]
    simp only [htop]
    exact finishValue_eq _ b bs (by omega) rfl s.value rfl

/-! ## Streams -/

/-- **An entry** gives its message, and the machine searches the next. -/
theorem run_entry {s : Sml} (h : Searching s) (e : SmlEntry) :
    Searching (Machine.run smlStep s e.bytes) ∧
      (Machine.run smlStep s e.bytes).broadcasts = s.broadcasts ++ [e.message] := by
  obtain ⟨obis, hobis, h0, h1, h2⟩ := run_obis (s := { s with state := .parseObis, substate := 0 })
    rfl rfl e.obis
  obtain ⟨b₁, hstatus⟩ := run_skip (s := { s with
    state := .skipStatus, substate := 0, obis := obis }) (.inl rfl) rfl e.status
  obtain ⟨b₂, hvalTime⟩ := run_skip (s := { s with
    state := .skipValtime, substate := 0, obis := obis, stateBuf := b₁ }) (.inr (.inl rfl)) rfl
    e.valTime
  obtain ⟨b₃, hunit⟩ := run_unit (s := { s with
    state := .unit, substate := 0, obis := obis, stateBuf := b₂ }) rfl rfl e.unitTl e.unit
    e.unitTl_length
  obtain ⟨b₄, hscaler⟩ := run_skip (s := { s with
    state := .skipScaler, substate := 0, obis := obis, stateBuf := b₃, unit := e.unit })
    (.inr (.inr rfl)) rfl e.scaler
  obtain ⟨value, b₅, hvalue⟩ := run_value (s := { s with
    state := .value, substate := 0, obis := obis, stateBuf := b₄, unit := e.unit }) rfl rfl e
  simp only [SmlState.next] at hobis hstatus hvalTime hunit hscaler hvalue
  simp only [SmlEntry.bytes, Machine.run_append, run_prefix h, hobis, hstatus, hvalTime, hunit,
    hscaler, hvalue, h0, h1, h2]
  exact ⟨⟨rfl, rfl⟩, rfl⟩

theorem run_smlStream {s : Sml} (h : Searching s) (entries : List (SmlGap × SmlEntry))
    (last : SmlGap) :
    (Machine.run smlStep s (smlStream entries last)).broadcasts =
      s.broadcasts ++ entries.map fun ge => ge.2.message := by
  induction entries generalizing s with
  | nil =>
    rw [smlStream, List.flatMap_nil, List.nil_append, run_gap h last.property, List.map_nil,
      List.append_nil]
  | cons ge entries ih =>
    have hstream : smlStream (ge :: entries) last =
        ge.1.val ++ ge.2.bytes ++ smlStream entries last := by
      rw [smlStream, List.flatMap_cons, List.append_assoc, smlStream]
    obtain ⟨hsearch, hsent⟩ := run_entry h ge.2
    rw [hstream, Machine.run_append, Machine.run_append, run_gap h ge.1.property, ih hsearch,
      hsent, List.append_assoc]
    rfl

/-- **SML entries are decoded exactly.** The ticks that receive a stream of entries, from the start
of a search on and in whatever parts it comes, send the messages of the entries in order. -/
theorem sml_decodes (s : Sml) (hport : s.port = some .sd1) (hsearch : Searching s)
    (entries : List (SmlGap × SmlEntry)) (last : SmlGap) (ticks : List (List UInt8))
    (hticks : ticks.flatten = smlStream entries last) :
    (Machine.run appFastTick s ticks).broadcasts =
      s.broadcasts ++ entries.map fun ge => ge.2.message := by
  rw [run_appFastTick (by rw [hport]; rfl), hticks]
  exact run_smlStream hsearch entries last

/-- An entry for 1.8.0 with the value -2 in two bytes. -/
def meterEntry : SmlEntry where
  obis := ([1, 8, 0, 255] : List UInt8).get
  status := ⟨0x65, [0, 1, 1, 0x82], by decide⟩
  valTime := ⟨0x01, [], by decide⟩
  unitTl := 0x62
  unit := 0x1E
  scaler := ⟨0x52, [0xFF], by decide⟩
  signed := true
  value := [0xFF, 0xFE]
  unitTl_length := by decide
  value_pos := by decide
  value_le := by decide

/-- Two entries in two ticks. -/
theorem sml_decodes_twoEntries :
    (Machine.run appFastTick (.start (some .sd1))
        [meterEntry.bytes ++ [0x01], [0x02] ++ meterEntry.bytes]).broadcasts =
      [meterEntry.message, meterEntry.message] ∧
    meterEntry.message = [1, 8, 0, 0x1E, 0xFE, 0xFF, 0xFF, 0xFF, 0xFF, 0xFF, 0xFF, 0xFF] :=
  ⟨sml_decodes (.start (some .sd1)) rfl ⟨rfl, rfl⟩
    [(⟨[], by decide⟩, meterEntry), (⟨[0x01, 0x02], by decide⟩, meterEntry)] ⟨[], by decide⟩
    [meterEntry.bytes ++ [0x01], [0x02] ++ meterEntry.bytes] (by decide +kernel),
    by decide +kernel⟩

end HouseBus
