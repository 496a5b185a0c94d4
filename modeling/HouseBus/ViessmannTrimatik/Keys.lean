import HouseBus.ViessmannTrimatik
import HouseBus.Lib.Machine
import Mathlib.Data.List.Induction

/-!
# The keys of the heater (`app_fast_tick` in `sw/nodes/viessmann_trimatik.c`)

The six rotary switches are a matrix of three columns of two switches. A fast tick reads the two
switches of the column that is on, and switches the next column on. A value counts from the second
reading on that has it.

- One column is on at a time, so that a reading has the contacts of one switch (`wired_contacts`).
- **The keys** are the last values that were read twice in a row (`keys_follow`).
-/

namespace HouseBus

/-- The contacts B0 to B3 of each switch that are closed. -/
abbrev KeyContacts := ℕ → ℕ → Bool

/-- The levels of the inputs: B0 to B3 of the switches 1, 3, 5 and of the switches 2, 4, 6. -/
structure KeyPads where
  b135 : ℕ → Bool
  b246 : ℕ → Bool

/-- The static variables for the keys, and the pads of the columns C12, C34 and C56. -/
structure KeyScan where
  currentKey : ℕ
  key : ℕ → ℕ
  keyNext : ℕ → ℕ
  columns : ℕ → Bool

/-- `inA` -/
def keyInA (b : ℕ → Bool) : ℕ :=
  (b 0).toNat ||| (b 1).toNat <<< 1 ||| (b 2).toNat <<< 2 ||| (b 3).toNat <<< 3

/-- `inB`: the contacts come the other way round. -/
def keyInB (b : ℕ → Bool) : ℕ :=
  (b 0).toNat <<< 3 ||| (b 1).toNat <<< 2 ||| (b 2).toNat <<< 1 ||| (b 3).toNat

/-- The levels at the inputs: each column that is on has the contacts of its two switches. -/
def wired (columns : ℕ → Bool) (contacts : KeyContacts) : KeyPads where
  b135 j := (List.range 3).any fun c => columns c && contacts (2 * c) j
  b246 j := (List.range 3).any fun c => columns c && contacts (2 * c + 1) j

/-- The index in `key`. -/
def Key.index : Key → ℕ
  | .day => 0
  | .mode => 1
  | .night => 2
  | .slope => 3
  | .water => 4
  | .offset => 5

namespace KeyScan

/-- A value that is read for a key. -/
def sampleKey (i value : ℕ) (s : KeyScan) : KeyScan :=
  if s.keyNext i = value then { s with key := Function.update s.key i value }
  else { s with keyNext := Function.update s.keyNext i value }

/-- Column `c` is switched off, and column `next` on. -/
def switchColumn (c next : ℕ) (s : KeyScan) : KeyScan :=
  { s with
    currentKey := next
    columns := Function.update (Function.update s.columns c false) next true }

/-- The keys in `app_fast_tick`. -/
def readKeys (pads : KeyPads) (s : KeyScan) : KeyScan :=
  let s := (s.sampleKey (s.currentKey * 2) (keyInA pads.b135)).sampleKey (s.currentKey * 2 + 1)
    (keyInB pads.b246)
  match s.currentKey with
  | 0 => s.switchColumn 0 1
  | 1 => s.switchColumn 1 2
  | 2 => s.switchColumn 2 0
  | _ => s

/-- The initial values, and `app_init`. -/
def start : KeyScan := ⟨0, fun _ => 0, fun _ => 0, fun c => decide (c = 0)⟩

/-- `key`, as `app_tick` reads it. -/
def keys (s : KeyScan) (k : Key) : ℕ := s.key k.index

/-- A fast tick, with the contacts at that time. -/
def step (s : KeyScan) (contacts : KeyContacts) : KeyScan := s.readKeys (wired s.columns contacts)

/-! ## What a fast tick reads -/

/-- The value of a switch. -/
def switchValue (contacts : KeyContacts) (i : ℕ) : ℕ :=
  if i % 2 = 0 then keyInA (contacts i) else keyInB (contacts i)

/-- With one column on, the inputs are the contacts of its switches. -/
theorem wired_contacts {c : ℕ} (hc : c < 3) (contacts : KeyContacts) :
    wired (fun c' => decide (c' = c)) contacts = ⟨contacts (2 * c), contacts (2 * c + 1)⟩ := by
  have hany : ∀ f : ℕ → Bool, ((List.range 3).any fun c' => decide (c' = c) && f c') = f c := by
    intro f
    rw [Bool.eq_iff_iff, List.any_eq_true]
    constructor
    · rintro ⟨c', -, hf⟩
      rw [Bool.and_eq_true, decide_eq_true_eq] at hf
      rw [← hf.1]
      exact hf.2
    · intro hf
      exact ⟨c, List.mem_range.mpr hc, by simp [hf]⟩
  unfold wired
  congr 1
  · funext j
    exact hany fun c' => contacts (2 * c') j
  · funext j
    exact hany fun c' => contacts (2 * c' + 1) j

theorem keyNext_sampleKey (i value : ℕ) (s : KeyScan) :
    (s.sampleKey i value).keyNext = Function.update s.keyNext i value := by
  unfold sampleKey
  split
  · next h => rw [← h, Function.update_eq_self]
  · rfl

theorem key_sampleKey (i value : ℕ) (s : KeyScan) :
    (s.sampleKey i value).key =
      Function.update s.key i (if s.keyNext i = value then value else s.key i) := by
  unfold sampleKey
  split
  · rfl
  · rw [Function.update_eq_self]

/-- Both switches of the column `c` are read. -/
theorem samplePair (c : ℕ) (value : ℕ → ℕ) (s : KeyScan) (i : ℕ) :
    let s' := (s.sampleKey (c * 2) (value (c * 2))).sampleKey (c * 2 + 1) (value (c * 2 + 1))
    s'.keyNext i = (if c = i / 2 then value i else s.keyNext i) ∧
      s'.key i = if c = i / 2 ∧ s.keyNext i = value i then value i else s.key i := by
  intro s'
  have hne : c * 2 + 1 ≠ c * 2 := Nat.succ_ne_self _
  rw [keyNext_sampleKey, key_sampleKey, keyNext_sampleKey, key_sampleKey,
    Function.update_of_ne hne, Function.update_of_ne hne]
  by_cases hc : c = i / 2
  · rw [if_pos hc]
    simp only [hc, true_and]
    obtain hi | hi : i = i / 2 * 2 + 1 ∨ i = i / 2 * 2 := by omega
    · rw [← hi, Function.update_self, Function.update_self]
      exact ⟨rfl, rfl⟩
    · have hi' : i ≠ i / 2 * 2 + 1 := by omega
      rw [Function.update_of_ne hi', Function.update_of_ne hi', ← hi, Function.update_self,
        Function.update_self]
      exact ⟨rfl, rfl⟩
  · have heven : i ≠ c * 2 := by omega
    have hodd : i ≠ c * 2 + 1 := by omega
    rw [Function.update_of_ne hodd, Function.update_of_ne heven, Function.update_of_ne hodd,
      Function.update_of_ne heven, if_neg hc, if_neg (not_and_of_not_left _ hc)]
    exact ⟨rfl, rfl⟩

theorem scan_sampleKey (i value : ℕ) (s : KeyScan) :
    (s.sampleKey i value).currentKey = s.currentKey ∧
      (s.sampleKey i value).columns = s.columns := by
  unfold sampleKey
  split <;> exact ⟨rfl, rfl⟩

/-- The column `c` is read, and the next one switched on. -/
theorem readKeys_eq {c : ℕ} (hc : c < 3) {s : KeyScan} (hcurrent : s.currentKey = c)
    (pads : KeyPads) :
    s.readKeys pads = ((s.sampleKey (c * 2) (keyInA pads.b135)).sampleKey (c * 2 + 1)
      (keyInB pads.b246)).switchColumn c ((c + 1) % 3) := by
  unfold readKeys
  simp only [scan_sampleKey, hcurrent]
  match c, hc with
  | 0, _ | 1, _ | 2, _ => rfl

/-! ## The values of the keys -/

/-- The last value that was read twice in a row; `before` stands for the reading before the
first. -/
def lastRepeated (before : ℕ) (readings : List ℕ) : ℕ :=
  ((((before :: readings).zip readings).filter fun p => p.1 = p.2).getLast?.map
    Prod.snd).getD before

theorem zip_cons_concat (before : ℕ) (readings : List ℕ) (value : ℕ) :
    (before :: (readings ++ [value])).zip (readings ++ [value]) =
      (before :: readings).zip readings ++ [(readings.getLast?.getD before, value)] := by
  induction readings generalizing before with
  | nil => rfl
  | cons r readings ih =>
    rw [List.cons_append, List.zip_cons_cons, ih, List.zip_cons_cons, List.getLast?_cons]
    rfl

theorem lastRepeated_concat (before : ℕ) (readings : List ℕ) (value : ℕ) :
    lastRepeated before (readings ++ [value]) =
      if readings.getLast?.getD before = value then value else lastRepeated before readings := by
  unfold lastRepeated
  rw [zip_cons_concat, List.filter_append]
  by_cases h : readings.getLast?.getD before = value
  · rw [if_pos h, List.filter_singleton]
    simp [h]
  · rw [if_neg h, List.filter_singleton]
    simp [h]

/-- The readings of a switch: those of the fast ticks in which its column was on. -/
def readings (i : ℕ) (cs : List KeyContacts) : List ℕ :=
  (cs.zipIdx.filter fun p => p.2 % 3 = i / 2).map fun p => switchValue p.1 i

theorem readings_concat (i : ℕ) (cs : List KeyContacts) (contacts : KeyContacts) :
    readings i (cs ++ [contacts]) =
      readings i cs ++ if cs.length % 3 = i / 2 then [switchValue contacts i] else [] := by
  unfold readings
  rw [List.zipIdx_append, List.filter_append, List.map_append, List.zipIdx_singleton,
    List.filter_singleton]
  by_cases h : cs.length % 3 = i / 2 <;> simp [h]

/-- The state after the fast ticks with the contacts `cs`. -/
structure ScanOk (cs : List KeyContacts) (s : KeyScan) : Prop where
  currentKey : s.currentKey = cs.length % 3
  columns : s.columns = fun c => decide (c = cs.length % 3)
  keyNext : ∀ i, s.keyNext i = (readings i cs).getLast?.getD 0
  key : ∀ i, s.key i = lastRepeated 0 (readings i cs)

theorem scanOk_start : ScanOk [] start := ⟨rfl, rfl, fun _ => rfl, fun _ => rfl⟩

theorem scanOk_step {cs : List KeyContacts} {s : KeyScan} (h : ScanOk cs s)
    (contacts : KeyContacts) : ScanOk (cs ++ [contacts]) (s.step contacts) := by
  obtain ⟨c, hc⟩ : ∃ c, c = cs.length % 3 := ⟨_, rfl⟩
  have hlt : c < 3 := hc ▸ Nat.mod_lt _ (by decide)
  have hnext : (cs ++ [contacts]).length % 3 = (c + 1) % 3 := by
    rw [List.length_append, List.length_singleton, hc, Nat.mod_add_mod]
  have hstep : s.step contacts = ((s.sampleKey (c * 2) (switchValue contacts (c * 2))).sampleKey
      (c * 2 + 1) (switchValue contacts (c * 2 + 1))).switchColumn c ((c + 1) % 3) := by
    rw [step, readKeys_eq hlt (h.currentKey.trans hc.symm), h.columns, ← hc, wired_contacts hlt]
    have heven : c * 2 % 2 = 0 := by omega
    have hodd : (c * 2 + 1) % 2 ≠ 0 := by omega
    rw [switchValue, switchValue, if_pos heven, if_neg hodd, Nat.mul_comm 2 c]
  rw [hstep]
  refine ⟨hnext.symm, ?_, fun i => ?_, fun i => ?_⟩
  · funext c'
    simp only [switchColumn, scan_sampleKey, h.columns, ← hc, hnext, Function.update_apply]
    by_cases hon : c' = (c + 1) % 3
    · simp [hon]
    · by_cases hoff : c' = c <;> simp [hon, hoff]
  · refine (samplePair c (switchValue contacts) s i).1.trans ?_
    rw [readings_concat, ← hc, h.keyNext]
    split
    · rw [List.getLast?_concat, Option.getD_some]
    · rw [List.append_nil]
  · refine (samplePair c (switchValue contacts) s i).2.trans ?_
    rw [readings_concat, ← hc, h.keyNext, h.key]
    by_cases hread : c = i / 2
    · rw [if_pos hread, lastRepeated_concat]
      simp only [hread, true_and]
    · rw [if_neg hread, if_neg (not_and_of_not_left _ hread), List.append_nil]

theorem scanOk_run (cs : List KeyContacts) : ScanOk cs (Machine.run step start cs) := by
  induction cs using List.reverseRecOn with
  | nil => exact scanOk_start
  | append_singleton cs contacts ih =>
    rw [Machine.run_snoc]
    exact scanOk_step ih contacts

/-- Three fast ticks read each switch once. -/
theorem readings_three (cs : List KeyContacts) {i : ℕ} (hi : i / 2 < 3) (x y z : KeyContacts) :
    ∃ contacts ∈ [x, y, z],
      readings i (cs ++ [x, y, z]) = readings i cs ++ [switchValue contacts i] := by
  have hsplit : cs ++ [x, y, z] = cs ++ [x] ++ [y] ++ [z] := by simp
  rw [hsplit, readings_concat, readings_concat, readings_concat]
  simp only [List.length_append, List.length_singleton]
  obtain h | h | h : cs.length % 3 = i / 2 ∨ (cs.length + 1) % 3 = i / 2 ∨
      (cs.length + 1 + 1) % 3 = i / 2 := by omega
  · have hy : (cs.length + 1) % 3 ≠ i / 2 := by omega
    have hz : (cs.length + 1 + 1) % 3 ≠ i / 2 := by omega
    exact ⟨x, by simp, by simp [h, hy, hz]⟩
  · have hx : cs.length % 3 ≠ i / 2 := by omega
    have hz : (cs.length + 1 + 1) % 3 ≠ i / 2 := by omega
    exact ⟨y, by simp, by simp [h, hx, hz]⟩
  · have hx : cs.length % 3 ≠ i / 2 := by omega
    have hy : (cs.length + 1) % 3 ≠ i / 2 := by omega
    exact ⟨z, by simp, by simp [h, hx, hy]⟩

/-- Six fast ticks read each switch twice. -/
theorem readings_of_held (cs : List KeyContacts) {last : List KeyContacts} (hlast : last.length = 6)
    {i value : ℕ} (hi : i / 2 < 3) (h : ∀ contacts ∈ last, switchValue contacts i = value) :
    readings i (cs ++ last) = readings i cs ++ [value] ++ [value] := by
  match last, hlast with
  | [u, v, w, x, y, z], _ =>
    have hsplit : cs ++ [u, v, w, x, y, z] = cs ++ [u, v, w] ++ [x, y, z] := by simp
    obtain ⟨c, hc, hfirst⟩ := readings_three cs hi u v w
    obtain ⟨d, hd, hsecond⟩ := readings_three (cs ++ [u, v, w]) hi x y z
    have hcmem : c ∈ [u, v, w, x, y, z] := List.mem_append_left [x, y, z] hc
    have hdmem : d ∈ [u, v, w, x, y, z] := List.mem_append_right [u, v, w] hd
    rw [hsplit, hsecond, hfirst, h c hcmem, h d hdmem]

/-- **The keys follow the switches.** In every run, whatever the contacts do, one column is on, and
each key is the last value of its switch that was read twice in a row. A switch that stays for six
fast ticks is what its key says. -/
theorem keys_follow (cs : List KeyContacts) :
    let s := Machine.run step start cs
    (s.columns = fun c => decide (c = cs.length % 3)) ∧
      ∀ k, s.keys k = lastRepeated 0 (readings k.index cs) ∧
        ∀ value, 6 ≤ cs.length →
          (∀ contacts ∈ cs.drop (cs.length - 6), switchValue contacts k.index = value) →
          s.keys k = value := by
  intro s
  have hok := scanOk_run cs
  refine ⟨hok.columns, fun k => ⟨hok.key k.index, fun value hlength hheld => ?_⟩⟩
  have hlast : (cs.drop (cs.length - 6)).length = 6 := by
    rw [List.length_drop]
    omega
  have hk : k.index / 2 < 3 := by cases k <;> decide
  have hreadings := readings_of_held (cs.take (cs.length - 6)) hlast hk hheld
  rw [List.take_append_drop] at hreadings
  rw [keys, hok.key, hreadings, lastRepeated_concat, List.getLast?_concat, Option.getD_some, if_pos rfl]

end KeyScan

end HouseBus
