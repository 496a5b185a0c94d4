import HouseBus.Lib.Machine
import Mathlib.Data.List.GetD

/-!
# The melodies (`sw/modules/melodies.c`)

`melody_tick` plays the notes of a table up to its terminator, by the position `song_pos`.
`melody_play` changes the table, and leaves the position. So a melody that is started while a longer
one plays goes on at the position of that one, and is read behind its end where this is past its
terminator (`melody_reads_iff`).
-/

namespace HouseBus

/-- `note` -/
structure Note where
  note : UInt8
  duration : UInt8
  deriving DecidableEq

/-- The melodies, by their tables. -/
inductive Melody
  | tetris
  | alarm1
  | alarm2
  | alarm3
  deriving DecidableEq

namespace Melody

/-- `melody_tetris`, `melody_alarm1`, `melody_alarm2` and `melody_alarm3` -/
def notes : Melody → List Note
  | tetris =>
    [⟨88, 32⟩, ⟨83, 16⟩, ⟨84, 16⟩, ⟨86, 32⟩, ⟨84, 16⟩, ⟨83, 16⟩, ⟨81, 32⟩, ⟨81, 16⟩, ⟨84, 16⟩,
      ⟨88, 32⟩, ⟨86, 16⟩, ⟨84, 16⟩, ⟨83, 32⟩, ⟨83, 16⟩, ⟨84, 16⟩, ⟨86, 32⟩, ⟨88, 32⟩, ⟨84, 32⟩,
      ⟨81, 32⟩, ⟨81, 32⟩, ⟨81, 1⟩, ⟨0, 0⟩]
  | alarm1 => [⟨74, 16⟩, ⟨71, 16⟩, ⟨67, 16⟩, ⟨79, 16⟩, ⟨83, 16⟩, ⟨74, 16⟩, ⟨0, 0⟩]
  | alarm2 =>
    [⟨84, 32⟩, ⟨88, 32⟩, ⟨84, 16⟩, ⟨88, 16⟩, ⟨84, 16⟩, ⟨88, 16⟩, ⟨84, 16⟩, ⟨88, 16⟩, ⟨84, 16⟩,
      ⟨88, 16⟩, ⟨84, 16⟩, ⟨88, 16⟩, ⟨0, 0⟩]
  | alarm3 => [⟨67, 32⟩, ⟨20, 8⟩, ⟨67, 32⟩, ⟨20, 8⟩, ⟨67, 96⟩, ⟨0, 0⟩]

/-- The choice of `melody_play`. -/
def ofNumber (melody : UInt8) : Melody :=
  if melody = 0 then tetris
  else if melody = 1 then alarm1
  else if melody = 2 then alarm2
  else if melody = 3 then alarm3
  else alarm1

/-- `active_melody[i]`; `beyond` is what is in memory behind the table. -/
def entry (beyond : Melody → ℕ → Note) (m : Melody) (i : ℕ) : Note := m.notes.getD i (beyond m i)

/-- The terminator is the last entry, and the only one without a note. -/
theorem note_ne_zero_iff (m : Melody) :
    ∀ i < m.notes.length, (m.notes.getD i ⟨0, 0⟩).note ≠ 0 ↔ i + 1 < m.notes.length := by
  cases m <;> decide

theorem length_notes (m : Melody) : 0 < m.notes.length ∧ m.notes.length ≤ 22 := by
  cases m <;> decide

end Melody

/-- The static variables of the module, and the last output of a tone: its note and volume. -/
structure Melodies where
  songPos : ℕ
  notePos : ℕ
  activeMelody : Option Melody
  activeVolume : UInt8
  tone : UInt8 × UInt8

namespace Melodies

/-- `melody_play` -/
def melodyPlay (melody volume : UInt8) (s : Melodies) : Melodies :=
  { s with activeVolume := volume, activeMelody := some (.ofNumber melody) }

/-- `melody_tick`; positions have 8 bits. -/
def melodyTick (beyond : Melody → ℕ → Note) (s : Melodies) : Melodies :=
  match s.activeMelody with
  | none => s
  | some m =>
    if s.notePos = 0 then
      let cur := m.entry beyond s.songPos
      if cur.note ≠ 0 then
        { s with
          songPos := (s.songPos + 1) % 256
          notePos := cur.duration.toNat * 4 % 256
          tone := (cur.note, s.activeVolume) }
      else { s with songPos := 0, notePos := 0, activeMelody := none, tone := (60, 0) }
    else { s with notePos := s.notePos - 1 }

/-- The static variables at power-on. -/
def start : Melodies := ⟨0, 0, none, 0, (0, 0)⟩

/-- The next `melody_tick` reads a note of this melody. -/
def reads (s : Melodies) : Option Melody := if s.notePos = 0 then s.activeMelody else none

variable {s : Melodies} {m : Melody}

theorem melodyTick_of_reads (h : s.reads = some m) :
    s.activeMelody = some m ∧ s.notePos = 0 := by
  unfold reads at h
  split at h
  · rename_i hpos
    exact ⟨h, hpos⟩
  · cases h

/-- A tick that reads no note keeps position and melody. -/
theorem melodyTick_of_not_reads (beyond : Melody → ℕ → Note) (h : s.reads = none) :
    (s.melodyTick beyond).songPos = s.songPos ∧
      (s.melodyTick beyond).activeMelody = s.activeMelody := by
  unfold reads at h
  unfold melodyTick
  split
  · exact ⟨rfl, rfl⟩
  · rename_i m hm
    split
    · rename_i hpos
      rw [if_pos hpos, hm] at h
      cases h
    · exact ⟨rfl, rfl⟩

/-- A tick that reads an entry of the table goes on to the next one, or stops at the terminator. -/
theorem melodyTick_reads (beyond : Melody → ℕ → Note) (h : s.reads = some m)
    (hin : s.songPos < m.notes.length) :
    (s.songPos + 1 < m.notes.length ∧ (s.melodyTick beyond).songPos = s.songPos + 1 ∧
        (s.melodyTick beyond).activeMelody = some m) ∨
      (s.melodyTick beyond).songPos = 0 ∧ (s.melodyTick beyond).activeMelody = none := by
  obtain ⟨hm, hpos⟩ := melodyTick_of_reads h
  have hentry : m.entry beyond s.songPos = m.notes.getD s.songPos ⟨0, 0⟩ := by
    unfold Melody.entry
    rw [List.getD_eq_getElem _ _ hin, List.getD_eq_getElem _ _ hin]
  have hlast := m.note_ne_zero_iff s.songPos hin
  have hlength := m.length_notes
  unfold melodyTick
  rw [hm]
  dsimp only
  rw [if_pos hpos, hentry]
  by_cases hnote : (m.notes.getD s.songPos ⟨0, 0⟩).note ≠ 0
  · have hnext := hlast.mp hnote
    left
    rw [if_pos hnote]
    exact ⟨hnext, Nat.mod_eq_of_lt (by omega), rfl⟩
  · right
    rw [if_neg hnote]
    exact ⟨rfl, rfl⟩

end Melodies

/-! ## Runs -/

/-- What happens to the module. -/
inductive MelodyEvent
  | play (melody volume : UInt8)
  | tick

/-- The module, with the number of the last melody that was played, the number of notes that were
read since playback began, and whether a melody was played during playback since the last note. -/
structure MelodyRun where
  melodies : Melodies
  lastPlayed : UInt8
  notesRead : ℕ
  switched : Bool

namespace MelodyRun

/-- Power-on. -/
def start : MelodyRun := ⟨.start, 0, 0, false⟩

/-- The state after a call of `melody_play`. -/
def play (melody volume : UInt8) (s : MelodyRun) : MelodyRun :=
  { s with
    melodies := s.melodies.melodyPlay melody volume
    lastPlayed := melody
    switched := s.switched || s.melodies.activeMelody.isSome }

/-- The state after a call of `melody_tick`. -/
def tick (beyond : Melody → ℕ → Note) (s : MelodyRun) : MelodyRun :=
  let melodies := s.melodies.melodyTick beyond
  if s.melodies.reads.isSome then
    { s with
      melodies := melodies
      notesRead := if melodies.activeMelody.isSome then s.notesRead + 1 else 0
      switched := false }
  else { s with melodies := melodies }

/-- The state after an event. -/
def step (beyond : Melody → ℕ → Note) (s : MelodyRun) : MelodyEvent → MelodyRun
  | .play melody volume => s.play melody volume
  | .tick => s.tick beyond

/-- A tick reads its note from the table of the selected melody, up to the terminator. -/
def ReadsTable (s : MelodyRun) : MelodyEvent → Prop
  | .play _ _ => True
  | .tick => ∀ m ∈ s.melodies.reads, s.melodies.songPos < m.notes.length

/-- The first note that is read behind a `melody_play` during playback: the table that this call
selected is longer than the number of notes read since playback began. -/
def SwitchFits (s : MelodyRun) : MelodyEvent → Prop
  | .play _ _ => True
  | .tick =>
    s.melodies.reads.isSome = true → s.switched = true →
      s.notesRead < (Melody.ofNumber s.lastPlayed).notes.length

/-! ## The position -/

/-- The position is the number of notes read, the table that of the last melody played, and without
a switch the position is in it. -/
structure PositionOk (s : MelodyRun) : Prop where
  songPos : s.melodies.songPos = s.notesRead
  stopped : s.melodies.activeMelody = none → s.notesRead = 0 ∧ s.switched = false
  playing : ∀ m ∈ s.melodies.activeMelody,
    m = .ofNumber s.lastPlayed ∧ (s.switched = false → s.notesRead < m.notes.length)

variable {beyond : Melody → ℕ → Note} {s : MelodyRun}

theorem positionOk_start : PositionOk start :=
  ⟨rfl, fun _ => ⟨rfl, rfl⟩, fun _ hm => absurd hm (Option.not_mem_none _)⟩

theorem PositionOk.play (h : PositionOk s) (melody volume : UInt8) :
    PositionOk (s.play melody volume) := by
  refine ⟨h.songPos, fun hnone => absurd hnone (Option.some_ne_none _), ?_⟩
  rintro m ⟨⟩
  refine ⟨rfl, fun hkept => ?_⟩
  -- no melody was playing, so the position is 0
  obtain ⟨-, hplaying⟩ := Bool.or_eq_false_iff.mp hkept
  have hstopped := h.stopped (Option.not_isSome_iff_eq_none.mp (by rw [hplaying]; decide))
  show s.notesRead < _
  rw [hstopped.1]
  exact (Melody.length_notes _).1

/-- The notes that a tick reads are in the table exactly if a switch fits. -/
theorem PositionOk.readsTable_iff (h : PositionOk s) (e : MelodyEvent) :
    ReadsTable s e ↔ SwitchFits s e := by
  cases e with
  | play melody volume => exact Iff.rfl
  | tick =>
    unfold ReadsTable SwitchFits
    cases hreads : s.melodies.reads with
    | none =>
      exact iff_of_true (fun m hm => absurd hm (Option.not_mem_none m))
        fun hsome => Bool.noConfusion hsome
    | some m =>
      obtain ⟨hm, -⟩ := Melodies.melodyTick_of_reads hreads
      obtain ⟨hlast, hkept⟩ := h.playing m hm
      rw [h.songPos, ← hlast]
      constructor
      · intro hin _ _
        exact hin m rfl
      · rintro hfits m' ⟨⟩
        cases hswitched : s.switched with
        | false => exact hkept hswitched
        | true => exact hfits rfl hswitched

theorem tick_of_not_reads (h : s.melodies.reads = none) :
    s.tick beyond = { s with melodies := s.melodies.melodyTick beyond } := by
  unfold tick
  rw [h]
  rfl

theorem tick_of_reads {m : Melody} (h : s.melodies.reads = some m) :
    s.tick beyond =
      { melodies := s.melodies.melodyTick beyond
        lastPlayed := s.lastPlayed
        notesRead :=
          if (s.melodies.melodyTick beyond).activeMelody.isSome then s.notesRead + 1 else 0
        switched := false } := by
  unfold tick
  rw [h]
  rfl

/-- A tick whose note is in the table. -/
theorem PositionOk.tick (h : PositionOk s) (hin : ReadsTable s .tick) :
    PositionOk (s.tick beyond) := by
  cases hreads : s.melodies.reads with
  | none =>
    obtain ⟨hpos, hmelody⟩ := Melodies.melodyTick_of_not_reads beyond hreads
    rw [tick_of_not_reads hreads]
    refine ⟨hpos.trans h.songPos, fun hnone => h.stopped (hmelody ▸ hnone), fun m hm => ?_⟩
    exact h.playing m (hmelody ▸ hm)
  | some m =>
    obtain ⟨hm, -⟩ := Melodies.melodyTick_of_reads hreads
    obtain ⟨hlast, -⟩ := h.playing m hm
    rw [tick_of_reads hreads]
    obtain ⟨hnext, hpos, hmelody⟩ | ⟨hpos, hmelody⟩ :=
      Melodies.melodyTick_reads beyond hreads (hin m hreads)
    · have hfits : s.notesRead + 1 < m.notes.length := by
        rw [← h.songPos]
        exact hnext
      refine ⟨?_, fun hnone => ?_, fun m' hm' => ?_⟩
      · dsimp only
        rw [hpos, hmelody, h.songPos]
        rfl
      · rw [hmelody] at hnone
        cases hnone
      · rw [hmelody] at hm' ⊢
        obtain rfl := Option.some.inj hm'
        exact ⟨hlast, fun _ => hfits⟩
    · refine ⟨?_, fun _ => ⟨?_, rfl⟩, fun m' hm' => ?_⟩
      · dsimp only
        rw [hpos, hmelody]
        rfl
      · dsimp only
        rw [hmelody]
        rfl
      · rw [hmelody] at hm'
        exact absurd hm' (Option.not_mem_none m')

theorem positionOk_step : Machine.KeepsIf (step beyond) SwitchFits PositionOk := by
  intro s e hfits h
  cases e with
  | play melody volume => exact h.play melody volume
  | tick => exact h.tick ((h.readsTable_iff .tick).mpr hfits)

/-- **When playback stays in its table**: in the runs in which every melody that is played during
playback, and not replaced before the next note, is longer than what was read so far. -/
theorem melody_reads_iff (beyond : Melody → ℕ → Note) (es : List MelodyEvent) :
    Machine.Meets (step beyond) ReadsTable start es ↔
      Machine.Meets (step beyond) SwitchFits start es :=
  positionOk_step.meets_congr (fun _ e h => h.readsTable_iff e) positionOk_start es

instance (s : MelodyRun) : ∀ e, Decidable (ReadsTable s e)
  | .play _ _ => isTrue trivial
  | .tick =>
    inferInstanceAs (Decidable (∀ m ∈ s.melodies.reads, s.melodies.songPos < m.notes.length))

/-- `melody_alarm3` is played when all six notes of `melody_alarm1` were read. -/
def shorterMelody : List MelodyEvent :=
  .play 1 100 :: List.replicate 326 .tick ++ .play 3 100 :: List.replicate 65 .tick

/-- The next note is the entry 6 of the six entries of `melody_alarm3`. -/
theorem not_melody_reads :
    ¬ ∀ (beyond : Melody → ℕ → Note) (es : List MelodyEvent),
      Machine.Meets (step beyond) ReadsTable start es := by
  intro h
  have hfails : ¬ Machine.Meets (step fun _ _ => ⟨0, 0⟩) ReadsTable start shorterMelody := by
    decide +kernel
  exact hfails (h _ _)

end MelodyRun

end HouseBus
