import HouseBus.GetSet

/-!
# Memory safety of the GetSet service

`MemorySafe` says that a request makes the handler store inside its three arrays only, use bytes of
the payload only, and store parameter values that are a part of the payload. Nothing in the handler
compares a length with an array: `memorySafe_iff` gives the requests for which it holds, whatever
the stack, the EEPROM and the bus do.

A string length of 255 makes `value_len` 0, so the length byte itself is taken for the beginning of
a name; no parameter has such a name (`configGetIdByName_of_head`), and the string is never copied.
-/

namespace HouseBus

open Bytes GetSet

/-- What the handler of `t` accessed is in bounds. -/
structure MemorySafe (t : CanardRxTransfer) (a : GetSetAccess) : Prop where
  name : ∀ i ∈ a.name, i < getSetNameSize
  str : ∀ i ∈ a.str, i < getSetStrSize
  buffer : ∀ i ∈ a.buffer, i < uavcanParamGetSetResponseMaxSize
  payload : ∀ i ∈ a.payload, i < t.payloadLen
  stored : ∀ bs ∈ a.stored, ∃ i, i + bs.length ≤ t.payloadLen ∧
    bs = (t.payload.drop i).take bs.length

namespace GetSet

/-- The requests whose lengths fit: no value at all, or a name (modulo 256) of at most 92 bytes, and
for a string of a known parameter at most 128 bytes. -/
def Fits (can : Canard) (t : CanardRxTransfer) : Prop :=
  t.payloadLen < 2 ∨
    ∀ len, valueLen t (unionTag can t) = some len →
      (unionTag can t = 4 → 3 ≤ t.payloadLen) ∧
        (t.payloadLen < 2 + len ∨
          (t.payloadLen - 2 - len) % 2 ^ 8 ≤ getSetNameSize ∧
            (unionTag can t = 4 → addressed can t len < configParamLast →
              (t.payloadHead 2).toNat ≤ getSetStrSize))

variable {can : Canard} {bus : Bus} {t : CanardRxTransfer} {s : I2c}

/-! ## Names -/

theorem nameStores_lt_iff {len : ℕ} (h : 2 + len ≤ t.payloadLen) :
    (∀ i ∈ nameStores can t len (t.payloadLen - 2 - len), i < getSetNameSize) ↔
      (t.payloadLen - 2 - len) % 2 ^ 8 ≤ getSetNameSize := by
  have hmin : min ((t.payloadLen - 2 - len) % 2 ^ 8) (t.payload.length - (2 + len)) =
      (t.payloadLen - 2 - len) % 2 ^ 8 := by
    simp only [CanardRxTransfer.payloadLen] at *
    omega
  rw [nameStores, can.extractStores_eq, hmin]
  generalize (t.payloadLen - 2 - len) % 2 ^ 8 = n
  constructor
  · intro hall
    by_contra hgt
    have := hall getSetNameSize (List.mem_range'_1.mpr (by omega))
    omega
  · intro hle i hi
    obtain ⟨hlo, hhi⟩ := List.mem_range'_1.mp hi
    omega

/-! ## Strings -/

/-- A string length that a known parameter comes with: `value_len` did not wrap, so the string is in
the payload. -/
theorem string_in_payload {len : ℕ} (h3 : 3 ≤ t.payloadLen) (hlen : valueLen t 4 = some len)
    (h : 2 + len ≤ t.payloadLen) (hknown : addressed can t len < configParamLast) :
    3 + (t.payloadHead 2).toNat ≤ t.payloadLen := by
  have hlt := (t.payloadHead 2).toNat_lt
  simp only [valueLen, Option.some.injEq] at hlen
  by_cases hwrap : (t.payloadHead 2).toNat = 255
  · -- The name would begin with the length byte 255.
    exfalso
    obtain rfl : len = 0 := by omega
    have hhead : ((t.payload.drop 2).take ((t.payloadLen - 2) % 2 ^ 8)).head? ≠ some 67 := by
      intro hh
      rw [List.head?_take] at hh
      split at hh
      · cases hh
      · rw [List.head?_drop] at hh
        have hget : t.payloadHead 2 = 67 := by
          rw [CanardRxTransfer.payloadHead, List.getD_eq_getElem?_getD, hh]; rfl
        rw [hget] at hwrap
        cases hwrap
    unfold addressed at hknown
    simp only [Nat.sub_zero, Nat.add_zero, configGetIdByName_of_head hhead,
      show t.payloadLen - 2 ≠ 0 by omega, ↓reduceIte, Option.getD_none, configParamLast] at hknown
    omega
  · omega

theorem stored_in_payload {len : ℕ} {strMem : Mem} {tag param : ℕ}
    (hlen : valueLen t tag = some len) (h : 2 + len ≤ t.payloadLen)
    (hstr : tag = 4 → 3 + (t.payloadHead 2).toNat ≤ t.payloadLen) {bs : List UInt8}
    (hbs : bs ∈ stored can t tag param strMem) :
    ∃ i, i + bs.length ≤ t.payloadLen ∧ bs = (t.payload.drop i).take bs.length := by
  unfold stored at hbs
  split at hbs
  · rename_i src size hsrc
    obtain ⟨m, rfl, hscalar, hstring⟩ := setSource_eq hlen h hsrc
    obtain rfl := List.mem_singleton.mp hbs
    have hi : valueOffset tag + size ≤ t.payloadLen := by
      unfold valueOffset
      split
      · have := hstr ‹_›
        have := hstring ‹_›
        omega
      · exact hscalar ‹_›
    have hslice : ((t.payload.drop (valueOffset tag)).take size).length = size := by
      rw [List.length_take, List.length_drop]
      simp only [CanardRxTransfer.payloadLen] at hi
      omega
    have hbytes := configSetBytes_write param m ((t.payload.drop (valueOffset tag)).take size)
    rw [hslice] at hbytes
    rw [hbytes, List.take_take, List.length_take, List.length_drop]
    simp only [CanardRxTransfer.payloadLen] at hi ⊢
    refine ⟨valueOffset tag, by omega, ?_⟩
    congr 1
    omega
  · cases hbs

theorem strStores_lt_iff (h : 3 + (t.payloadHead 2).toNat ≤ t.payloadLen) :
    (∀ i ∈ strStores can t 4, i < getSetStrSize) ↔ (t.payloadHead 2).toNat ≤ getSetStrSize := by
  have hmin : min (t.payloadHead 2).toNat (t.payload.length - 3) = (t.payloadHead 2).toNat := by
    simp only [CanardRxTransfer.payloadLen] at h
    omega
  rw [strStores, can.extractStores_eq, hmin]
  constructor
  · intro hall
    by_contra hgt
    have := hall getSetStrSize (List.mem_range'_1.mpr (by omega))
    omega
  · intro hle i hi
    obtain ⟨hlo, hhi⟩ := List.mem_range'_1.mp hi
    omega

/-! ## Accesses that always fit -/

theorem configGet_stores_lt {param base i : ℕ} {dst : Mem}
    (h : i ∈ (configGet bus param base dst s).stores) : i < base + 80 := by
  have hsize := configGetParamSize_le param
  unfold configGet at h
  simp only at h
  split at h
  · cases h
  · split at h
    · cases h
    · have := List.mem_range'_1.mp h
      split at this <;> omega

/-- Value, empty fields and name stay in the response buffer. -/
theorem valueResponse_bounds (bus : Bus) (param : ℕ) (buffer : Mem) (s : I2c) :
    (valueResponse bus param buffer s).size ≤ 260 ∧
      ∀ i ∈ (valueResponse bus param buffer s).stores, i < 82 := by
  unfold valueResponse
  split
  · refine ⟨?_, ?_⟩
    · have hle : ∀ b : UInt8, 1 + 1 + b.toNat + 3 ≤ 260 := by
        intro b
        have := b.toNat_lt
        omega
      exact hle _
    · intro i hi
      rcases List.mem_cons.mp hi with rfl | hi
      · decide
      rcases List.mem_cons.mp hi with rfl | hi
      · decide
      exact configGet_stores_lt hi
  all_goals refine ⟨by simp only; omega, fun i hi => ?_⟩
  · rcases List.mem_cons.mp hi with rfl | hi
    · decide
    · have := configGet_stores_lt hi
      omega
  · rcases List.mem_cons.mp hi with rfl | hi
    · decide
    · have := configGet_stores_lt hi
      omega
  · cases hi

theorem response_stores_lt {param : ℕ} (h : param < configParamLast) (buffer : Mem) {i : ℕ}
    (hi : i ∈ (nameResponse param (valueResponse bus param buffer s)).stores) :
    i < uavcanParamGetSetResponseMaxSize := by
  obtain ⟨hsize, hstores⟩ := valueResponse_bounds bus param buffer s
  have hname := (length_configParamName h).2
  simp only [uavcanParamGetSetResponseMaxSize]
  rcases List.mem_append.mp hi with hi | hi
  · have := hstores i hi
    omega
  · obtain ⟨hlo, hhi⟩ := List.mem_range'_1.mp hi
    omega

/-! ## The payload -/

/-- The bytes of a value that the payload has room for. -/
theorem setReads_lt {len tag i : ℕ} (hlen : valueLen t tag = some len) (h : 2 + len ≤ t.payloadLen)
    (hstr : tag = 4 → 3 + (t.payloadHead 2).toNat ≤ t.payloadLen) (hi : i ∈ setReads t tag) :
    i < t.payloadLen := by
  unfold setReads at hi
  split at hi
  · obtain rfl : 8 = len := by simpa [valueLen] using hlen
    obtain ⟨hlo, hhi⟩ := List.mem_range'_1.mp hi
    omega
  · obtain rfl : 4 = len := by simpa [valueLen] using hlen
    obtain ⟨hlo, hhi⟩ := List.mem_range'_1.mp hi
    omega
  · have h3 := hstr rfl
    rcases List.mem_cons.mp hi with rfl | hi
    · omega
    · obtain ⟨hlo, hhi⟩ := List.mem_range'_1.mp hi
      omega
  · cases hi

/-- The bytes in front of the name and the name itself. -/
theorem headReads_lt (len n : ℕ) {tag i : ℕ} (h2 : 2 ≤ t.payloadLen)
    (h3 : tag = 4 → 3 ≤ t.payloadLen) (hn : 2 + len + n ≤ t.payloadLen)
    (hi : i ∈ (0 :: 1 :: valueLenReads tag) ++ List.range' (2 + len) n) : i < t.payloadLen := by
  rcases List.mem_append.mp hi with hi | hi
  · rcases List.mem_cons.mp hi with rfl | hi
    · omega
    rcases List.mem_cons.mp hi with rfl | hi
    · omega
    unfold valueLenReads at hi
    split at hi
    · obtain rfl := List.mem_singleton.mp hi
      exact h3 ‹_›
    · cases hi
  · obtain ⟨hlo, hhi⟩ := List.mem_range'_1.mp hi
    omega

/-- A string tag without a length byte reads behind the payload. -/
theorem length_byte_read {a : GetSetAccess} (h : MemorySafe t a)
    (hread : ∀ i ∈ 0 :: 1 :: valueLenReads (unionTag can t), i ∈ a.payload) :
    unionTag can t = 4 → 3 ≤ t.payloadLen := by
  intro h4
  refine h.payload 2 (hread 2 ?_)
  simp [valueLenReads, h4]

/-! ## The handler's accesses -/

theorem memset_lt : ∀ i ∈ List.range uavcanParamGetSetResponseMaxSize,
    i < uavcanParamGetSetResponseMaxSize := fun _ hi => List.mem_range.mp hi

/-- A request without room for its value. -/
theorem memorySafe_no_value (h2 : 2 ≤ t.payloadLen) :
    MemorySafe t ⟨[], [], List.range uavcanParamGetSetResponseMaxSize,
        0 :: 1 :: valueLenReads (unionTag can t), []⟩ ↔
      (unionTag can t = 4 → 3 ≤ t.payloadLen) := by
  constructor
  · intro h
    exact length_byte_read h fun _ hi => hi
  · intro h3
    refine ⟨by simp, by simp, by simp, fun i hi => ?_, by simp⟩
    exact headReads_lt 0 0 h2 h3 h2 (List.mem_append_left _ hi)

/-- A request for a parameter that does not exist. -/
theorem memorySafe_unknown {len : ℕ} (h : 2 + len ≤ t.payloadLen) :
    MemorySafe t ⟨nameStores can t len (t.payloadLen - 2 - len), [],
        List.range uavcanParamGetSetResponseMaxSize,
        (0 :: 1 :: valueLenReads (unionTag can t)) ++
          List.range' (2 + len) ((t.payloadLen - 2 - len) % 2 ^ 8), []⟩ ↔
      (unionTag can t = 4 → 3 ≤ t.payloadLen) ∧
        (t.payloadLen - 2 - len) % 2 ^ 8 ≤ getSetNameSize := by
  constructor
  · intro hs
    exact ⟨length_byte_read hs fun _ hi => List.mem_append_left _ hi,
      (nameStores_lt_iff h).mp hs.name⟩
  · rintro ⟨h3, hname⟩
    refine ⟨(nameStores_lt_iff h).mpr hname, by simp, by simp, fun i hi => ?_,
      by simp⟩
    exact headReads_lt _ _ (by omega) h3 (by omega) hi

/-- A request for a parameter that exists. -/
theorem memorySafe_known {len param : ℕ} {strMem buffer : Mem}
    (hlen : valueLen t (unionTag can t) = some len) (h : 2 + len ≤ t.payloadLen)
    (hparam : param = addressed can t len) (hknown : param < configParamLast) :
    MemorySafe t ⟨nameStores can t len (t.payloadLen - 2 - len), strStores can t (unionTag can t),
        List.range uavcanParamGetSetResponseMaxSize ++
          (nameResponse param (valueResponse bus param buffer s)).stores,
        (0 :: 1 :: valueLenReads (unionTag can t)) ++
          List.range' (2 + len) ((t.payloadLen - 2 - len) % 2 ^ 8) ++ setReads t (unionTag can t),
        stored can t (unionTag can t) param strMem⟩ ↔
      (unionTag can t = 4 → 3 ≤ t.payloadLen) ∧
        (t.payloadLen - 2 - len) % 2 ^ 8 ≤ getSetNameSize ∧
          (unionTag can t = 4 → (t.payloadHead 2).toNat ≤ getSetStrSize) := by
  have hstring : ∀ h3 : unionTag can t = 4 → 3 ≤ t.payloadLen, unionTag can t = 4 →
      3 + (t.payloadHead 2).toNat ≤ t.payloadLen := by
    intro h3 h4
    refine string_in_payload (h3 h4) ?_ h (hparam ▸ hknown)
    rw [← h4]
    exact hlen
  constructor
  · intro hs
    have h3 := length_byte_read hs fun _ hi =>
      List.mem_append_left _ (List.mem_append_left _ hi)
    refine ⟨h3, (nameStores_lt_iff h).mp hs.name, fun h4 => ?_⟩
    have hstores := hs.str
    rw [h4] at hstores
    exact (strStores_lt_iff (hstring h3 h4)).mp hstores
  · rintro ⟨h3, hname, hstr⟩
    have hfits := hstring h3
    refine ⟨(nameStores_lt_iff h).mpr hname, fun i hi => ?_, fun i hi => ?_, fun i hi => ?_,
      fun bs hbs => stored_in_payload hlen h hfits hbs⟩
    · simp only at hi
      by_cases h4 : unionTag can t = 4
      · rw [h4] at hi
        exact (strStores_lt_iff (hfits h4)).mpr (hstr h4) i hi
      · unfold strStores at hi
        split at hi
        · exact absurd ‹_› h4
        · cases hi
    · rcases List.mem_append.mp hi with hi | hi
      · exact memset_lt i hi
      · exact response_stores_lt hknown buffer hi
    · rcases List.mem_append.mp hi with hi | hi
      · exact headReads_lt _ _ (by omega) h3 (by omega) hi
      · exact setReads_lt hlen h hfits hi

end GetSet

open GetSet

/-- **Memory safety is a matter of the lengths.** The handler of a request stays inside its arrays
and the payload, and stores payload bytes only, if and only if the lengths of the request fit. -/
theorem memorySafe_iff (can : Canard) (bus : Bus) (reads : List ℕ) (nameMem strMem : Mem)
    (t : CanardRxTransfer) (s : I2c) :
    MemorySafe t (onParamGetSet can bus reads nameMem strMem t s).access ↔ Fits can t := by
  unfold Fits
  by_cases h2 : t.payloadLen < 2
  · simp only [onParamGetSet, h2, ↓reduceIte, true_or, iff_true]
    exact ⟨by simp, by simp, by simp, by simp, by simp⟩
  simp only [h2, false_or]
  cases hlen : valueLen t (unionTag can t) with
  | none =>
    simp only [onParamGetSet, h2, hlen, reduceCtorEq, ↓reduceIte, false_implies, implies_true,
      iff_true]
    exact ⟨by simp, by simp, by simp, by simp; omega, by simp⟩
  | some len =>
    simp only [Option.some.injEq, forall_eq']
    by_cases hneg : ((t.payloadLen : ℤ) - 2 - len) < 0
    · have hshort : t.payloadLen < 2 + len := by omega
      simp only [onParamGetSet, h2, hlen, hneg, ↓reduceIte, hshort, true_or, and_true]
      exact memorySafe_no_value (by omega)
    have hlong : ¬ t.payloadLen < 2 + len := by omega
    rw [onParamGetSet_eq reads nameMem strMem s hlen (by omega)]
    simp only [hlong, false_or]
    by_cases hknown : addressed can t len < configParamLast
    · simp only [hknown, ↓reduceIte, forall_const]
      exact memorySafe_known hlen (by omega) rfl hknown
    · simp only [hknown, ↓reduceIte, false_implies, implies_true, and_true]
      exact memorySafe_unknown (by omega)

/-- A request without a value, with a name of 100 bytes. -/
def longNameRequest : CanardRxTransfer where
  sourceNodeId := 5
  transferId := 0
  priority := 16
  payload := [0, 0] ++ List.replicate 100 97
  payload_len_lt := by simp
  beyond := fun _ => 0

/-- Its name is stored behind `name[91]`. -/
theorem not_memorySafe :
    ¬ ∀ t, MemorySafe t
      (onParamGetSet .uavcan .works [] (fun _ => 0) (fun _ => 0) t ⟨fun _ => 0, 0, []⟩).access := by
  intro h
  have hstore : 92 ∈ (onParamGetSet .uavcan .works [] (fun _ => 0) (fun _ => 0) longNameRequest
      ⟨fun _ => 0, 0, []⟩).access.name := by
    decide +kernel
  exact absurd ((h longNameRequest).name 92 hstore) (by decide)

end HouseBus
