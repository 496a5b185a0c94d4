import HouseBus.Melodies
import HouseBus.Lib.Trace
import Mathlib.Algebra.Order.BigOperators.Group.List
import Mathlib.Algebra.Order.Monoid.NatCast
import Mathlib.Algebra.Order.Ring.Nat

/-!
# Durations of the notes (`sw/modules/melodies.c`)

`melody_tick` holds a note by a counter of 8 bits, which starts at four times the duration of the
note. So notes of a duration of 64 and more are cut short, as the last one of `melody_alarm3`, and
the position, also of 8 bits, never gets to a terminator behind entry 255. The tables that are
played as they are written are all others (`playedAsWritten_iff`).
-/

namespace HouseBus

/-- A table of a melody: notes, and the terminator `{0, 0}` behind them. -/
structure MelodyTable where
  notes : List Note
  note_ne_zero : ∀ n ∈ notes, n.note ≠ 0

namespace MelodyTable

/-- `melody[i]`; `beyond` is what is in memory behind the table. -/
def entry (t : MelodyTable) (beyond : ℕ → Note) (i : ℕ) : Note :=
  (t.notes ++ [Note.mk 0 0]).getD i (beyond i)

/-- The tones of the ticks that play `notes`, each followed by `hold` ticks. -/
def tones (hold : Note → ℕ) (volume : UInt8) (notes : List Note) : List (Option (UInt8 × UInt8)) :=
  notes.flatMap fun n => some (n.note, volume) :: List.replicate (hold n) none

/-- The ticks that a note is to be held. -/
def duration (n : Note) : ℕ := 4 * n.duration.toNat

/-- The tones of a table as it is written: each note is held for its duration, and then the volume
is set to 0. -/
def written (t : MelodyTable) (volume : UInt8) : List (Option (UInt8 × UInt8)) :=
  tones duration volume t.notes ++ [some (60, 0)]

/-- The durations fit the counter, and the terminator is in reach of the position. -/
def Fits (t : MelodyTable) : Prop := (∀ n ∈ t.notes, n.duration.toNat < 64) ∧ t.notes.length ≤ 255

instance (t : MelodyTable) : Decidable t.Fits := inferInstanceAs (Decidable (_ ∧ _))

variable {t : MelodyTable} {beyond : ℕ → Note}

theorem entry_of_lt {i : ℕ} (hi : i < t.notes.length) : t.entry beyond i = t.notes[i] := by
  unfold entry
  rw [List.getD_append _ _ _ _ hi, List.getD_eq_getElem _ _ hi]

theorem entry_length : t.entry beyond t.notes.length = ⟨0, 0⟩ := by
  unfold entry
  rw [List.getD_append_right _ _ _ _ le_rfl, Nat.sub_self]
  rfl

theorem length_tones (hold : Note → ℕ) (volume : UInt8) (notes : List Note) :
    (tones hold volume notes).length = (notes.map fun n => hold n + 1).sum := by
  unfold tones
  rw [List.length_flatMap]
  simp only [List.length_cons, List.length_replicate]

end MelodyTable

/-- The tables of the module. -/
def Melody.table (m : Melody) : MelodyTable where
  notes := m.notes.dropLast
  note_ne_zero := by cases m <;> decide

theorem Melody.entry_table (beyond : Melody → ℕ → Note) (m : Melody) :
    m.table.entry (beyond m) = m.entry beyond := by
  have hnotes : m.notes.dropLast ++ [Note.mk 0 0] = m.notes := by cases m <;> rfl
  funext i
  unfold MelodyTable.entry Melody.entry Melody.table
  rw [hnotes]

/-- The static variables of the module, with any table as `active_melody`. -/
structure MelodyPlayer where
  songPos : ℕ
  notePos : ℕ
  activeMelody : Option (ℕ → Note)
  activeVolume : UInt8

namespace MelodyPlayer

/-- No melody is played: the state at power-on, and behind each melody. -/
def idle (volume : UInt8) : MelodyPlayer := ⟨0, 0, none, volume⟩

/-- `melody_play`, for the table `melody` in memory. -/
def melodyPlay (melody : ℕ → Note) (volume : UInt8) (s : MelodyPlayer) : MelodyPlayer :=
  { s with activeVolume := volume, activeMelody := some melody }

/-- `melody_tick`; positions have 8 bits. -/
def melodyTick (s : MelodyPlayer) : MelodyPlayer :=
  match s.activeMelody with
  | none => s
  | some melody =>
    if s.notePos = 0 then
      let cur := melody s.songPos
      if cur.note ≠ 0 then
        { s with songPos := (s.songPos + 1) % 256, notePos := cur.duration.toNat * 4 % 256 }
      else { s with songPos := 0, notePos := 0, activeMelody := none }
    else { s with notePos := s.notePos - 1 }

/-- The note and the volume of the call of `tone_output_note` in `melody_tick`. -/
def toneOutput (s : MelodyPlayer) : Option (UInt8 × UInt8) :=
  match s.activeMelody with
  | none => none
  | some melody =>
    if s.notePos = 0 then
      let cur := melody s.songPos
      if cur.note ≠ 0 then some (cur.note, s.activeVolume) else some (60, 0)
    else none

/-! ## The tables of the module -/

/-- The variables of the module while it plays its own tables. -/
def ofMelodies (beyond : Melody → ℕ → Note) (s : Melodies) : MelodyPlayer :=
  ⟨s.songPos, s.notePos, s.activeMelody.map (Melody.entry beyond), s.activeVolume⟩

theorem ofMelodies_play (beyond : Melody → ℕ → Note) (melody volume : UInt8) (s : Melodies) :
    ofMelodies beyond (s.melodyPlay melody volume) =
      (ofMelodies beyond s).melodyPlay
        ((Melody.ofNumber melody).table.entry (beyond (.ofNumber melody))) volume := by
  rw [Melody.entry_table]
  rfl

/-- The ticks of the module are those of the player of its tables. -/
theorem ofMelodies_tick (beyond : Melody → ℕ → Note) (s : Melodies) :
    ofMelodies beyond (s.melodyTick beyond) = (ofMelodies beyond s).melodyTick ∧
      (s.melodyTick beyond).tone = (ofMelodies beyond s).toneOutput.getD s.tone := by
  obtain ⟨songPos, notePos, activeMelody, volume, tone⟩ := s
  cases activeMelody with
  | none => exact ⟨rfl, rfl⟩
  | some m =>
    unfold Melodies.melodyTick ofMelodies melodyTick toneOutput
    dsimp only [Option.map_some]
    split
    · split
      · exact ⟨rfl, rfl⟩
      · exact ⟨rfl, rfl⟩
    · exact ⟨rfl, rfl⟩

/-! ## One melody -/

/-- The state when `t` was selected in an idle state. -/
def selected (t : MelodyTable) (beyond : ℕ → Note) (before volume : UInt8) : MelodyPlayer :=
  (idle before).melodyPlay (t.entry beyond) volume

/-- A table is played as it is written: the ticks output its tones, and then the player is idle and
silent. -/
structure PlayedAsWritten (t : MelodyTable) (beyond : ℕ → Note) (before volume : UInt8) :
    Prop where
  written :
    Trace.outputs toneOutput melodyTick (t.written volume).length
      (selected t beyond before volume) = t.written volume
  ended : ∀ n, (t.written volume).length ≤ n →
    let s := melodyTick^[n] (selected t beyond before volume)
    s.activeMelody = none ∧ s.songPos = 0 ∧ s.notePos = 0 ∧ s.toneOutput = none

/-- The ticks that a note is held: the counter has 8 bits. -/
def held (n : Note) : ℕ := n.duration.toNat * 4 % 256

/-- The tones that are output for a table with its terminator in reach. -/
def played (t : MelodyTable) (volume : UInt8) : List (Option (UInt8 × UInt8)) :=
  MelodyTable.tones held volume t.notes ++ [some (60, 0)]

variable {t : MelodyTable} {beyond : ℕ → Note} {before volume : UInt8}

/-- A note is held until the counter is at 0. -/
theorem emits_held (songPos notePos : ℕ) (melody : ℕ → Note) (volume : UInt8) :
    Trace.Emits toneOutput melodyTick ⟨songPos, notePos, some melody, volume⟩
      (List.replicate notePos none) ⟨songPos, 0, some melody, volume⟩ := by
  induction notePos with
  | zero => exact Trace.Emits.nil _
  | succ k ih => exact Trace.Emits.cons rfl ih

/-- A note of the table, and the ticks it is held. -/
theorem emits_note {i : ℕ} (hi : i < t.notes.length) :
    Trace.Emits toneOutput melodyTick ⟨i, 0, some (t.entry beyond), volume⟩
      (MelodyTable.tones held volume [t.notes[i]])
      ⟨(i + 1) % 256, 0, some (t.entry beyond), volume⟩ := by
  have hentry : t.entry beyond i = t.notes[i] := MelodyTable.entry_of_lt hi
  have hnote : t.notes[i].note ≠ 0 := t.note_ne_zero _ (List.getElem_mem hi)
  have htones : MelodyTable.tones held volume [t.notes[i]] =
      some (t.notes[i].note, volume) :: List.replicate (held t.notes[i]) none :=
    List.append_nil _
  rw [htones]
  refine Trace.Emits.cons ?_ ?_
  · unfold toneOutput
    dsimp only
    rw [if_pos rfl, hentry, if_pos hnote]
  · have htick : melodyTick ⟨i, 0, some (t.entry beyond), volume⟩ =
        ⟨(i + 1) % 256, held t.notes[i], some (t.entry beyond), volume⟩ := by
      unfold melodyTick
      dsimp only
      rw [if_pos rfl, hentry, if_pos hnote]
      rfl
    rw [htick]
    exact emits_held _ _ _ _

/-- The first notes of a table; the position wraps behind entry 255. -/
theorem emits_take (t : MelodyTable) (beyond : ℕ → Note) (before volume : UInt8) {k : ℕ}
    (hk : k ≤ t.notes.length) (hreach : k ≤ 256) :
    Trace.Emits toneOutput melodyTick (selected t beyond before volume)
      (MelodyTable.tones held volume (t.notes.take k))
      ⟨k % 256, 0, some (t.entry beyond), volume⟩ := by
  induction k with
  | zero => exact Trace.Emits.nil _
  | succ k ih =>
    have hlt : k < t.notes.length := hk
    have hmod : k % 256 = k := Nat.mod_eq_of_lt (by omega)
    have hfirst := ih hlt.le (by omega)
    rw [hmod] at hfirst
    rw [List.take_add_one, List.getElem?_eq_getElem hlt]
    unfold MelodyTable.tones
    rw [List.flatMap_append]
    exact hfirst.append (emits_note hlt)

/-- The terminator ends the melody. -/
theorem emits_terminator :
    Trace.Emits toneOutput melodyTick ⟨t.notes.length, 0, some (t.entry beyond), volume⟩
      [some (60, 0)] (idle volume) := by
  have hentry : t.entry beyond t.notes.length = ⟨0, 0⟩ := MelodyTable.entry_length
  have htick : melodyTick ⟨t.notes.length, 0, some (t.entry beyond), volume⟩ = idle volume := by
    unfold melodyTick
    dsimp only
    rw [if_pos rfl, hentry, if_neg (not_not.mpr rfl)]
    rfl
  refine Trace.Emits.cons ?_ (htick ▸ Trace.Emits.nil _)
  unfold toneOutput
  dsimp only
  rw [if_pos rfl, hentry, if_neg (not_not.mpr rfl)]

/-- A table with its terminator in reach is played to its end. -/
theorem emits_played (beyond : ℕ → Note) (before volume : UInt8)
    (hreach : t.notes.length ≤ 255) :
    Trace.Emits toneOutput melodyTick (selected t beyond before volume) (played t volume)
      (idle volume) := by
  have hnotes := emits_take t beyond before volume le_rfl (hreach.trans (by decide))
  rw [List.take_length, Nat.mod_eq_of_lt (by omega)] at hnotes
  exact hnotes.append emits_terminator

/-! ## Tables that do not fit -/

/-- Playback goes on in the notes of a table. -/
def Playing (t : MelodyTable) (beyond : ℕ → Note) (s : MelodyPlayer) : Prop :=
  s.activeMelody = some (t.entry beyond) ∧ s.songPos < 256

/-- Where the position does not get to the terminator, a tick does not end playback. -/
theorem Playing.tick (hreach : 256 ≤ t.notes.length) {s : MelodyPlayer} (h : Playing t beyond s) :
    Playing t beyond s.melodyTick := by
  obtain ⟨hmelody, hpos⟩ := h
  have hlt : s.songPos < t.notes.length := by omega
  have hnote : (t.entry beyond s.songPos).note ≠ 0 := by
    rw [MelodyTable.entry_of_lt hlt]
    exact t.note_ne_zero _ (List.getElem_mem hlt)
  unfold melodyTick
  rw [hmelody]
  dsimp only
  rw [if_pos hnote]
  split
  · exact ⟨rfl, Nat.mod_lt _ (by decide)⟩
  · exact ⟨rfl, hpos⟩

theorem playing_forever (beyond : ℕ → Note) (before volume : UInt8)
    (hreach : 256 ≤ t.notes.length) (n : ℕ) :
    Playing t beyond (melodyTick^[n] (selected t beyond before volume)) := by
  induction n with
  | zero => exact ⟨rfl, Nat.zero_lt_succ 255⟩
  | succ n ih =>
    rw [Function.iterate_succ_apply']
    exact ih.tick hreach

/-- Playback as written comes to an end, so the terminator is in reach. -/
theorem PlayedAsWritten.reach (h : PlayedAsWritten t beyond before volume) :
    t.notes.length ≤ 255 := by
  by_contra hlong
  obtain ⟨hidle, -⟩ := h.ended _ le_rfl
  obtain ⟨hplaying, -⟩ :=
    playing_forever beyond before volume (Nat.lt_of_not_le hlong) (t.written volume).length
  rw [hidle] at hplaying
  cases hplaying

/-- The counter holds no note longer than its duration. -/
theorem held_le (n : Note) : held n ≤ MelodyTable.duration n := by
  unfold held MelodyTable.duration
  omega

theorem held_eq_iff (n : Note) : held n = MelodyTable.duration n ↔ n.duration.toNat < 64 := by
  have := n.duration.toNat_lt
  unfold held MelodyTable.duration
  omega

/-- If a note is cut short, the whole melody is. -/
theorem length_played_lt (volume : UInt8) {n : Note} (hn : n ∈ t.notes)
    (hlong : ¬ n.duration.toNat < 64) :
    (played t volume).length < (t.written volume).length := by
  have hshort : held n < MelodyTable.duration n :=
    lt_of_le_of_ne (held_le n) (hlong ∘ (held_eq_iff n).mp)
  have hsum : (t.notes.map fun n => held n + 1).sum <
      (t.notes.map fun n => MelodyTable.duration n + 1).sum :=
    List.sum_lt_sum _ _ (fun n _ => Nat.succ_le_succ (held_le n))
      ⟨n, hn, Nat.succ_lt_succ hshort⟩
  unfold played MelodyTable.written
  rw [List.length_append, List.length_append, MelodyTable.length_tones, MelodyTable.length_tones]
  exact Nat.add_lt_add_right hsum _

/-- The last tick of a table as written outputs the volume 0. A melody that was cut short is over by
then, and silent. -/
theorem PlayedAsWritten.fits (h : PlayedAsWritten t beyond before volume) : t.Fits := by
  refine ⟨fun n hn => ?_, h.reach⟩
  by_contra hlong
  have hlt := length_played_lt volume hn hlong
  have hlength : (t.written volume).length =
      (MelodyTable.tones MelodyTable.duration volume t.notes).length + 1 :=
    List.length_append
  have hlast := Trace.getElem?_of_outputs h.written
    (i := (MelodyTable.tones MelodyTable.duration volume t.notes).length) (by omega)
  rw [(emits_played _ _ _ h.reach).rests rfl (by omega)] at hlast
  unfold MelodyTable.written at hlast
  rw [List.getElem?_concat_length] at hlast
  exact absurd (Option.some.inj hlast) (Option.some_ne_none _)

theorem written_eq_played (hfits : t.Fits) : t.written volume = played t volume := by
  have htones : MelodyTable.tones MelodyTable.duration volume t.notes =
      MelodyTable.tones held volume t.notes := by
    refine List.flatMap_congr fun n hn => ?_
    rw [(held_eq_iff n).mpr (hfits.1 n hn)]
  exact congrArg (· ++ [some (60, 0)]) htones

theorem PlayedAsWritten.of_fits (beyond : ℕ → Note) (before volume : UInt8) (hfits : t.Fits) :
    PlayedAsWritten t beyond before volume := by
  have hplayed := emits_played beyond before volume hfits.2
  rw [← written_eq_played hfits] at hplayed
  refine ⟨hplayed.outputs, fun n hn => ?_⟩
  rw [hplayed.rests rfl hn]
  exact ⟨rfl, rfl, rfl, rfl⟩

/-- **Durations**: the tables that are played as they are written are those with durations below
64, and at most 255 notes. -/
theorem playedAsWritten_iff (t : MelodyTable) (beyond : ℕ → Note) (before volume : UInt8) :
    PlayedAsWritten t beyond before volume ↔ t.Fits :=
  ⟨PlayedAsWritten.fits, PlayedAsWritten.of_fits beyond before volume⟩

/-- The last note of `melody_alarm3`, of duration 96, is held for 128 ticks instead of 384. -/
theorem not_playedAsWritten :
    ¬ ∀ (t : MelodyTable) (beyond : ℕ → Note) (before volume : UInt8),
      PlayedAsWritten t beyond before volume :=
  fun h => absurd (h Melody.alarm3.table (fun _ => ⟨0, 0⟩) 0 100).fits (by decide)

/-- Of the tables of the module, all others are played as they are written. -/
theorem playedAsWritten_melody_iff (m : Melody) (beyond : ℕ → Note) (before volume : UInt8) :
    PlayedAsWritten m.table beyond before volume ↔ m ≠ .alarm3 := by
  have hfits : m.table.Fits ↔ m ≠ .alarm3 := by cases m <;> decide
  rw [← hfits]
  exact ⟨PlayedAsWritten.fits, PlayedAsWritten.of_fits beyond before volume⟩

end MelodyPlayer

end HouseBus
