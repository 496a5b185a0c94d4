import HouseBus.Bme280

/-!
# Where the sensor values come from

A call reads sensor `i` in round `i`. It should leave the latest reading of the sensor, and flag
values as valid only behind a first one. A round that fails leaves what was in `data`, and the
second one reads the first sensor: the values are right if and only if no read of the first sensor
fails and the second one is not used, or they are right by chance (`bme280_values_read_iff`).
-/

namespace HouseBus

/-- The node, and the latest successful reading of each sensor. -/
structure BmeRun where
  node : Bme280
  latest : BmeSensor → Option BmeData

namespace BmeRun

/-- The latest reading of sensor `i` behind a call: it is read in round `i`. -/
def nextLatest (s : BmeRun) (input : BmeInput) (i : BmeSensor) : Option BmeData :=
  ((input.read i i).map (BmeData.compensate (s.node.chipId i))).or (s.latest i)

/-- A call. -/
def step (s : BmeRun) (input : BmeInput) : BmeRun := ⟨s.node.appRead input, s.nextLatest input⟩

/-- Before the first call. -/
def start (bmePresence : UInt8) (chipId : BmeSensor → UInt8) : BmeRun where
  node := ⟨bmePresence, chipId, fun _ => ⟨0, 0, 0⟩, []⟩
  latest := fun _ => none

/-- Behind the call the variables of a present sensor hold its latest reading, and a message that
flags values as valid is about a sensor that was read. -/
def ValuesRead (s : BmeRun) (input : BmeInput) : Prop :=
  (∀ i d, (step s input).node.Present i → (step s input).latest i = some d →
    (step s input).node.bmeReading i = d.reading) ∧
  ∀ m, (step s input).node.messages = s.node.messages ++ [m] → m.validFlags ≠ 0 →
    (step s input).latest m.sensor ≠ none

/-- The latest reading of the first sensor in a call, and else what was in `data` before. -/
def lastOfFirst (s : BmeRun) (input : BmeInput) : BmeData :=
  (((input.read .secondary .primary).or (input.read .primary .primary)).map
    (BmeData.compensate (s.node.chipId .primary))).getD input.uninitialised

/-- The first sensor, if present, is read, or it was read and `data` has its values by chance. The
second one, if present, has the values that the first one gives in its place, or it was never read
and no message is about it. -/
structure ReadsRight (s : BmeRun) (input : BmeInput) : Prop where
  first : s.node.Present .primary → input.read .primary .primary ≠ none ∨
    ∃ d, s.latest .primary = some d ∧ input.uninitialised.reading = d.reading
  second : s.node.Present .secondary →
    (s.nextLatest input .secondary = none ∧ s.node.Present .primary) ∨
      ∃ d, s.nextLatest input .secondary = some d ∧ (s.lastOfFirst input).reading = d.reading

/-! ## One call -/

/-- The sensor that a message is about. -/
def firstPresent (n : Bme280) : Option BmeSensor :=
  if n.Present .primary then some .primary
  else if n.Present .secondary then some .secondary
  else none

theorem present_step (s : BmeRun) (input : BmeInput) (i : BmeSensor) :
    (step s input).node.Present i ↔ s.node.Present i := by
  show (s.node.appRead input).Present i ↔ _
  rw [Bme280.appRead_eq, Bme280.Present, Bme280.broadcastFirst_bmePresence]
  rfl

theorem bmeReading_step (s : BmeRun) (input : BmeInput) :
    (step s input).node.bmeReading = s.node.stored input := by
  show (s.node.appRead input).bmeReading = _
  rw [Bme280.appRead_eq, Bme280.broadcastFirst_bmeReading]

theorem dataSecond_eq (s : BmeRun) (input : BmeInput) :
    s.node.dataSecond input = s.lastOfFirst input := by
  unfold Bme280.dataSecond Bme280.dataFirst lastOfFirst
  cases input.read .secondary .primary <;> rfl

/-- A call sends one message, about the first sensor that is present, and flags it as valid. -/
theorem broadcastFirst_sends (n : Bme280) :
    (∀ i, firstPresent n = some i → ∃ m : Environment,
      n.broadcastFirst.messages = n.messages ++ [m] ∧ m.sensor = i ∧ m.validFlags = 3) ∧
    (firstPresent n = none → n.broadcastFirst.messages = n.messages) := by
  unfold firstPresent Bme280.broadcastFirst
  by_cases h0 : n.Present .primary
  · rw [if_pos h0, if_pos h0]
    refine ⟨?_, fun h => nomatch h⟩
    rintro i ⟨⟩
    exact ⟨_, rfl, rfl, rfl⟩
  · rw [if_neg h0, if_neg h0]
    by_cases h1 : n.Present .secondary
    · rw [if_pos h1, if_pos h1]
      refine ⟨?_, fun h => nomatch h⟩
      rintro i ⟨⟩
      exact ⟨_, rfl, rfl, rfl⟩
    · rw [if_neg h1, if_neg h1]
      exact ⟨fun i h => absurd h (Option.some_ne_none i).symm, fun _ => rfl⟩

/-- What is said of the messages of a call. -/
theorem flagged_iff (s : BmeRun) (input : BmeInput) :
    (∀ m, (step s input).node.messages = s.node.messages ++ [m] → m.validFlags ≠ 0 →
        s.nextLatest input m.sensor ≠ none) ↔
      ∀ i, firstPresent s.node = some i → s.nextLatest input i ≠ none := by
  have heq : (step s input).node.messages = _ :=
    congrArg Bme280.messages (Bme280.appRead_eq input s.node)
  obtain ⟨hsends, hquiet⟩ := broadcastFirst_sends
    { s.node with bmeReading := s.node.stored input }
  rw [heq]
  constructor
  · intro h i hi
    obtain ⟨m, hm, rfl, hflags⟩ := hsends i hi
    exact h m hm (by rw [hflags]; decide)
  · intro h m hm _
    cases hfirst : firstPresent s.node with
    | none =>
      have hsame := hquiet hfirst
      rw [hsame] at hm
      exact absurd hm (by simp)
    | some i =>
      obtain ⟨m', hm', hsensor, -⟩ := hsends i hfirst
      have hmm : m' = m := by
        rw [hm'] at hm
        exact List.singleton_inj.mp (List.append_cancel_left hm)
      rw [← hmm, hsensor]
      exact h i hfirst

/-- The variables of the present sensors hold the latest readings. -/
theorem ReadsRight.stored {s : BmeRun} {input : BmeInput} (h : ReadsRight s input) {i : BmeSensor}
    {d : BmeData} (hi : s.node.Present i) (hd : s.nextLatest input i = some d) :
    s.node.stored input i = d.reading := by
  cases i with
  | primary =>
    rw [Bme280.stored, Bme280.dataFirst]
    unfold nextLatest at hd
    cases hbus : input.read .primary .primary with
    | some x =>
      rw [hbus] at hd
      cases hd
      rfl
    | none =>
      rw [hbus] at hd
      obtain ⟨d', hlatest, hchance⟩ := (h.first hi).resolve_left fun h => h hbus
      cases hlatest.symm.trans hd
      exact hchance
  | secondary =>
    rw [Bme280.stored, dataSecond_eq]
    obtain ⟨hnone, -⟩ | ⟨d', hd', hchance⟩ := h.second hi
    · cases hnone.symm.trans hd
    · cases hd'.symm.trans hd
      exact hchance

/-- The sensor that a message is about was read. -/
theorem ReadsRight.latest {s : BmeRun} {input : BmeInput} (h : ReadsRight s input) {i : BmeSensor}
    (hi : firstPresent s.node = some i) : s.nextLatest input i ≠ none := by
  unfold firstPresent at hi
  by_cases hprimary : s.node.Present .primary
  · rw [if_pos hprimary] at hi
    cases hi
    rw [nextLatest]
    obtain hbus | ⟨d, hd, -⟩ := h.first hprimary
    · obtain ⟨x, hx⟩ := Option.ne_none_iff_exists'.mp hbus
      rw [hx]
      exact Option.some_ne_none _
    · rw [hd]
      cases input.read .primary .primary <;> exact Option.some_ne_none _
  · rw [if_neg hprimary] at hi
    by_cases hsecondary : s.node.Present .secondary
    · rw [if_pos hsecondary] at hi
      cases hi
      obtain ⟨-, habsurd⟩ | ⟨d, hd, -⟩ := h.second hsecondary
      · exact absurd habsurd hprimary
      · rw [hd]
        exact Option.some_ne_none _
    · rw [if_neg hsecondary] at hi
      cases hi

/-- Only such reads leave the values right. -/
theorem ReadsRight.of_values {s : BmeRun} {input : BmeInput}
    (hvalues : ∀ i d, s.node.Present i → s.nextLatest input i = some d →
      s.node.stored input i = d.reading)
    (hflagged : ∀ i, firstPresent s.node = some i → s.nextLatest input i ≠ none) :
    ReadsRight s input := by
  constructor
  · intro hprimary
    by_cases hbus : input.read .primary .primary = none
    · right
      obtain ⟨d, hd⟩ := Option.ne_none_iff_exists'.mp (hflagged .primary (if_pos hprimary))
      have hstored := hvalues .primary d hprimary hd
      rw [nextLatest, hbus] at hd
      refine ⟨d, hd, ?_⟩
      rw [← hstored, Bme280.stored, Bme280.dataFirst, hbus]
      rfl
    · exact .inl hbus
  · intro hsecondary
    cases hd : s.nextLatest input .secondary with
    | none =>
      refine .inl ⟨rfl, ?_⟩
      by_contra hprimary
      exact hflagged .secondary (by rw [firstPresent, if_neg hprimary, if_pos hsecondary]) hd
    | some d =>
      have hstored := hvalues .secondary d hsecondary hd
      rw [Bme280.stored, dataSecond_eq] at hstored
      exact .inr ⟨d, rfl, hstored⟩

/-- **One call**: the values are right if and only if the reads are. -/
theorem valuesRead_iff (s : BmeRun) (input : BmeInput) :
    ValuesRead s input ↔ ReadsRight s input := by
  unfold ValuesRead
  have hlatest : (step s input).latest = s.nextLatest input := rfl
  simp only [present_step, bmeReading_step, hlatest, flagged_iff]
  constructor
  · rintro ⟨hvalues, hflagged⟩
    exact .of_values hvalues hflagged
  · intro h
    exact ⟨fun i d hi hd => h.stored hi hd, fun i hi => h.latest hi⟩

/-- **When the sensor values come from successful readings**: in the runs none of whose calls
misses a reading of the first sensor or serves the second one. -/
theorem bme280_values_read_iff (bmePresence : UInt8) (chipId : BmeSensor → UInt8)
    (es : List BmeInput) :
    Machine.Meets step ValuesRead (start bmePresence chipId) es ↔
      Machine.Meets step ReadsRight (start bmePresence chipId) es :=
  Machine.KeepsIf.meets_congr (I := fun _ => True) (fun _ _ _ _ => trivial)
    (fun s input _ => valuesRead_iff s input) trivial es

/-- The first sensor is present and read at 21.50 °C; the next read of it fails. -/
def failsOnce : List BmeInput :=
  let reading : BmeData := ⟨101325, 2150, 45000⟩
  let stack : BmeData := ⟨7, 7, 7⟩
  [⟨stack, fun _ d => if d = .primary then some reading else none⟩, ⟨stack, fun _ _ => none⟩]

theorem not_bme280_values_read :
    ¬ Machine.Meets step ValuesRead (start 1 fun _ => bme280ChipId) failsOnce := by
  rintro ⟨-, ⟨hvalues, -⟩, -⟩
  exact absurd (hvalues .primary ⟨101325, 2150, 45000⟩ (by decide) rfl) (by decide)

end BmeRun

end HouseBus
