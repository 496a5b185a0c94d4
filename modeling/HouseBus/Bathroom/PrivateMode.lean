import HouseBus.Bathroom
import Mathlib.Tactic.Choose

/-!
# Private mode is entered by a key press

A press is stored with its time, until it expires or a transition uses it. With ticks less than
2^31 apart the stored time shows the real one, so a transition uses a press of the last
`PRIVATE_MODE_BUTTON_VALID_FOR_S` seconds (`validPress_recent`), and none uses a press twice: no
transition lies between a press and the one that uses it (`Accounted`). `bathroom_private_by_press`
has the presses as a function of the transitions.
-/

namespace HouseBus

/-- A transition into private mode, or from it into use: it uses up a press. -/
def TickRecord.Uses (r : TickRecord) : Prop :=
  (r.before ≠ .privateMode ∧ r.after = .privateMode) ∨
    (r.before = .privateMode ∧ r.after = .inUse)

instance (r : TickRecord) : Decidable r.Uses := inferInstanceAs (Decidable (_ ∨ _))

/-- The press in tick `k` is young enough for the tick `r`: at most the validity, and one tick more
for a press that is stored as 1 instead of 0. -/
def TickRecord.RecentFor (press r : TickRecord) : Prop :=
  press.keyRead = true ∧ r.checkAt ≤ press.pressAt + timeS2I privateModeButtonValidForS + 1

/-- The tick `i` is accounted for by a recent press, with no transition from it on. -/
def Accounted (ticks : List TickRecord) (i : ℕ) (r : TickRecord) : Prop :=
  ∃ k p, k ≤ i ∧ (ticks[k]? = some p ∧ p.RecentFor r) ∧
    ∀ j q, k ≤ j → j < i → ticks[j]? = some q → ¬ q.Uses

namespace BathroomRun

open Occupancy
open Bathroom (TickClock)

variable {s : BathroomRun}

/-! ## One tick -/

/-- The age of a press is checked less than 2^31 after the check before it, or, in the first tick,
after the start of the tick. -/
def Spaced (s : BathroomRun) : BathroomEvent → Prop
  | .tick t =>
    s.now + t.delays.check <
      (s.ticks.getLast?.map TickRecord.checkAt).getD (s.now + t.delays.sample) + 2 ^ 31
  | _ => True

/-- A stored press that has not expired is recent. -/
theorem stamp_recent {pressed check : ℕ} (hle : pressed ≤ check)
    (hlt : check < pressed + systimeRange)
    (h : timeElapsedSince (systemTime check) (stamp (systemTime pressed)) ≤
      timeS2I privateModeButtonValidForS) :
    check ≤ pressed + timeS2I privateModeButtonValidForS + 1 := by
  unfold stamp at h
  split at h
  · rename_i hzero
    -- the press is stored as one tick later
    obtain rfl | hlater := hle.eq_or_lt
    · rw [hzero] at h
      exact absurd h (by decide)
    · have hone : systemTime (pressed + 1) = 1 := by
        simp only [systemTime, Ticks.clock, systimeRange] at *
        omega
      rw [← hone, timeElapsedSince_of_lt hlater (by omega)] at h
      omega
  · rw [timeElapsedSince_of_lt hle hlt] at h
    omega

/-- Without a valid press no transition needs one. -/
theorem nextMode_none (doorClosed active : Bool) (motionAgo doorOpenAgo : ℕ)
    (mode : OccupancyMode) :
    (nextMode doorClosed active motionAgo doorOpenAgo 0 mode).2 = 0 ∧
      (mode ≠ .privateMode →
        (nextMode doorClosed active motionAgo doorOpenAgo 0 mode).1 ≠ .privateMode) ∧
      (mode = .privateMode →
        (nextMode doorClosed active motionAgo doorOpenAgo 0 mode).1 ≠ .inUse) := by
  cases mode <;> grind [nextMode]

/-- **What the mode does with a press**: a transition uses a valid one, and what is still stored is
valid and was not used. -/
theorem nextMode_press (doorClosed active : Bool) (motionAgo doorOpenAgo pressedAt : ℕ)
    (mode : OccupancyMode) {r : TickRecord} (hbefore : r.before = mode)
    (hafter : r.after = (nextMode doorClosed active motionAgo doorOpenAgo pressedAt mode).1) :
    (r.Uses → pressedAt ≠ 0) ∧
      ((nextMode doorClosed active motionAgo doorOpenAgo pressedAt mode).2 ≠ 0 →
        (nextMode doorClosed active motionAgo doorOpenAgo pressedAt mode).2 = pressedAt ∧
          ¬ r.Uses) := by
  unfold TickRecord.Uses
  rw [hbefore, hafter]
  by_cases hpress : pressedAt = 0
  · subst hpress
    obtain ⟨hnone, hentry, hexit⟩ := nextMode_none doorClosed active motionAgo doorOpenAgo mode
    refine ⟨?_, fun h => absurd hnone h⟩
    rintro (⟨hmode, hprivate⟩ | ⟨hmode, hinUse⟩)
    · exact absurd hprivate (hentry hmode)
    · exact absurd hinUse (hexit hmode)
  · cases mode with
    | empty =>
      simp only [nextMode]
      split <;> simp [hpress]
    | openInUse | inUse | privateMode => simp [nextMode, hpress]

/-! ## The invariant -/

/-- A stored press is one of a tick so far, recent at the last check and not used since. -/
structure PressOk (s : BathroomRun) : Prop where
  checked : ∀ last ∈ s.ticks.getLast?, last.checkAt ≤ s.now
  pending : s.node.occupancy.occupancyPressedAt ≠ 0 → ∃ (k : ℕ) (p last : TickRecord),
    s.ticks[k]? = some p ∧ s.node.occupancy.occupancyPressedAt = stamp (systemTime p.pressAt) ∧
      last ∈ s.ticks.getLast? ∧ p.pressAt ≤ last.checkAt ∧ p.RecentFor last ∧
        ∀ (j : ℕ) (q : TickRecord), k ≤ j → s.ticks[j]? = some q → ¬ q.Uses
  accounted : ∀ (i : ℕ) (r : TickRecord), s.ticks[i]? = some r → r.Uses → Accounted s.ticks i r

theorem getElem?_concat {α : Type*} {l : List α} {a b : α} {i : ℕ} :
    (l ++ [a])[i]? = some b ↔ l[i]? = some b ∨ (i = l.length ∧ a = b) := by
  rw [List.getElem?_append]
  split
  · rename_i hlt
    exact (or_iff_left fun h => by omega).symm
  · rename_i hge
    rw [List.getElem?_eq_none (l := l) (by omega), List.getElem?_singleton]
    split
    · rename_i hzero
      simp only [reduceCtorEq, false_or, Option.some.injEq]
      exact (and_iff_right (by omega)).symm
    · simp only [reduceCtorEq, false_or, false_iff]
      rintro ⟨hi, -⟩
      omega

/-- What a tick records. -/
theorem ticks_tick (s : BathroomRun) (t : BathroomTick) :
    ∃ r : TickRecord, (s.tick t).ticks = s.ticks ++ [r] ∧
      r.before = s.node.occupancy.state ∧ r.after = (s.tick t).node.occupancy.state ∧
      r.keyRead = s.node.occupancySwitch.pressed ∧ r.pressAt = s.now + t.delays.press ∧
      r.checkAt = s.now + t.delays.check := ⟨_, rfl, rfl, rfl, rfl, rfl, rfl⟩

theorem delays_press_le (t : BathroomTick) :
    t.delays.sample ≤ t.delays.press ∧ t.delays.press ≤ t.delays.check ∧
      t.delays.check ≤ t.delays.fanCheck := by
  have h := t.ascending
  simp only [TickClock.Ascending, List.pairwise_cons, List.mem_cons, forall_eq_or_imp] at h
  omega

/-- The last check is not after the start of the tick. -/
theorem PressOk.lastCheck_le (h : PressOk s) (t : BathroomTick) :
    (s.ticks.getLast?.map TickRecord.checkAt).getD (s.now + t.delays.sample) ≤
      s.now + t.delays.sample := by
  cases hlast : s.ticks.getLast? with
  | none => exact Nat.le_refl _
  | some last => exact (h.checked last hlast).trans (Nat.le_add_right _ _)

/-- **The press that a tick finds valid**: that of the tick itself, or the stored one. It is recent,
and no earlier transition used it. -/
theorem PressOk.valid (h : PressOk s) {t : BathroomTick} (hspaced : Spaced s (.tick t))
    {r : TickRecord} (hkey : r.keyRead = s.node.occupancySwitch.pressed)
    (hpress : r.pressAt = s.now + t.delays.press) (hcheck : r.checkAt = s.now + t.delays.check)
    (hvalid : s.validPress t ≠ 0) :
    ∃ (k : ℕ) (p : TickRecord), (s.ticks ++ [r])[k]? = some p ∧
      s.validPress t = stamp (systemTime p.pressAt) ∧ p.pressAt ≤ r.checkAt ∧ p.RecentFor r ∧
      ∀ (j : ℕ) (q : TickRecord), k ≤ j → s.ticks[j]? = some q → ¬ q.Uses := by
  obtain ⟨hsample, hpc, -⟩ := delays_press_le t
  unfold BathroomRun.validPress Occupancy.validPress at hvalid ⊢
  simp only at hvalid ⊢
  generalize hstored : (if s.node.occupancySwitch.pressed = true then
    stamp (systemTime (s.now + t.delays.press)) else _) = pressedAt at hvalid ⊢
  split at hvalid
  · exact absurd rfl hvalid
  rename_i hyoung
  rw [if_neg hyoung]
  rw [Nat.not_lt] at hyoung
  have hlast := h.lastCheck_le t
  change s.now + t.delays.check < _ at hspaced
  cases hpressed : s.node.occupancySwitch.pressed with
  | true =>
    rw [hpressed, if_pos rfl] at hstored
    rw [← hstored] at hyoung ⊢
    have hrecent := stamp_recent (by omega) (by simp only [systimeRange]; omega) hyoung
    refine ⟨s.ticks.length, r, getElem?_concat.mpr (.inr ⟨rfl, rfl⟩), by rw [hpress],
      by omega, ?_, ?_⟩
    · exact ⟨hkey.trans hpressed, by omega⟩
    · intro j q hj hq
      rw [List.getElem?_eq_none (by omega)] at hq
      cases hq
  | false =>
    rw [hpressed, if_neg Bool.false_ne_true] at hstored
    rw [← hstored] at hvalid hyoung ⊢
    obtain ⟨k, p, last, hk, hstamp, hmem, hple, ⟨hread, hrecent⟩, hunused⟩ := h.pending hvalid
    rw [hmem] at hspaced
    change s.now + t.delays.check < last.checkAt + 2 ^ 31 at hspaced
    have hchecked := h.checked last hmem
    rw [hstamp] at hyoung
    have hyoung' := stamp_recent (by omega)
      (by simp only [systimeRange, timeS2I, privateModeButtonValidForS] at *; omega) hyoung
    exact ⟨k, p, getElem?_concat.mpr (.inl hk), hstamp, by omega, ⟨hread, by omega⟩, hunused⟩

theorem accounted_append {ticks : List TickRecord} {i : ℕ} {r : TickRecord}
    (h : Accounted ticks i r) (hi : i < ticks.length) (q : TickRecord) :
    Accounted (ticks ++ [q]) i r := by
  obtain ⟨k, p, hk, ⟨hp, hrecent⟩, hunused⟩ := h
  refine ⟨k, p, hk, ⟨getElem?_concat.mpr (.inl hp), hrecent⟩, fun j q' hj hlt hq' => ?_⟩
  obtain hold | ⟨hlast, -⟩ := getElem?_concat.mp hq'
  · exact hunused j q' hj hlt hold
  · omega

/-- A tick that is not too far from the one before it. -/
theorem PressOk.tick (h : PressOk s) {t : BathroomTick} (hspaced : Spaced s (.tick t)) :
    PressOk (s.tick t) := by
  obtain ⟨-, -, hcf⟩ := delays_press_le t
  obtain ⟨r, hticks, hbefore, hafter, hkey, hpress, hcheck⟩ := ticks_tick s t
  rw [occupancy_tick] at hafter
  have hpressed : (s.tick t).node.occupancy.occupancyPressedAt = _ :=
    congrArg Occupancy.occupancyPressedAt (occupancy_tick s t)
  simp only [next] at hafter hpressed
  have hmode := nextMode_press _ _ _ _ _ _ hbefore hafter
  rw [← hpressed] at hmode
  have hvalid := h.valid hspaced hkey hpress hcheck
  change (r.Uses → s.validPress t ≠ 0) ∧ (_ → _ = s.validPress t ∧ _) at hmode
  refine ⟨?_, ?_, ?_⟩
  · intro last hlast
    rw [hticks, List.getLast?_concat] at hlast
    obtain rfl : r = last := Option.some.inj hlast
    rw [hcheck]
    show _ ≤ s.now + t.delays.fanCheck
    omega
  · intro hne
    obtain ⟨hsame, hunused⟩ := hmode.2 hne
    rw [hsame] at hne ⊢
    obtain ⟨k, p, hk, hstamp, hple, hrecent, hold⟩ := hvalid hne
    refine ⟨k, p, r, by rw [hticks]; exact hk, hstamp, ?_, hple, hrecent, fun j q hj hq => ?_⟩
    · rw [hticks, List.getLast?_concat]
      rfl
    · rw [hticks] at hq
      obtain hq | ⟨-, rfl⟩ := getElem?_concat.mp hq
      · exact hold j q hj hq
      · exact hunused
  · intro i q hi huses
    rw [hticks] at hi ⊢
    obtain hi | ⟨rfl, rfl⟩ := getElem?_concat.mp hi
    · exact accounted_append (h.accounted i q hi huses) (List.getElem?_eq_some_iff.mp hi).1 r
    · obtain ⟨k, p, hk, -, -, hrecent, hold⟩ := hvalid (hmode.1 huses)
      have hle : k ≤ s.ticks.length := by
        have hlt := (List.getElem?_eq_some_iff.mp hk).1
        rw [List.length_append, List.length_singleton] at hlt
        omega
      refine ⟨k, p, hle, ⟨hk, hrecent⟩, fun j q hj hlt hq => ?_⟩
      obtain hq | ⟨hlast, -⟩ := getElem?_concat.mp hq
      · exact hold j q hj hq
      · omega

/-- **The invariant** is kept by ticks that are not too far apart. -/
theorem pressOk_step : Machine.KeepsIf step Spaced PressOk := by
  intro s e hspaced h
  cases e with
  | fastTick delay door occupancy brightness =>
    obtain ⟨hocc, -⟩ := s.node.room_appFastTick (systemTime (s.now + delay)) door occupancy
      brightness
    have hsame : (step s (.fastTick delay door occupancy brightness)).node.occupancy =
        s.node.occupancy := hocc
    refine ⟨fun last hlast => (h.checked last hlast).trans (Nat.le_add_right _ _), ?_, h.accounted⟩
    rw [hsame]
    exact h.pending
  | configUpdate cfg => exact ⟨h.checked, h.pending, h.accounted⟩
  | tick t => exact h.tick hspaced

theorem pressOk_start (cfg : BathroomConfig) : PressOk (start cfg) where
  checked last hlast := by cases hlast
  pending h := absurd rfl h
  accounted i r hi := by cases hi

/-! ## Presses and transitions -/

/-- **Private mode by a fresh press**: each transition into private mode, and each from it into use,
has a press of its own, in the same tick or an earlier one, that is recent for it. -/
theorem bathroom_private_by_press (cfg : BathroomConfig) {es : List BathroomEvent}
    (h : Machine.Meets step Spaced (start cfg) es) :
    ∃ press : ℕ → ℕ,
      (∀ i r, (Machine.run step (start cfg) es).ticks[i]? = some r → r.Uses →
        press i ≤ i ∧ ∃ p, (Machine.run step (start cfg) es).ticks[press i]? = some p ∧
          p.RecentFor r) ∧
      ∀ i j r q, (Machine.run step (start cfg) es).ticks[i]? = some r → r.Uses →
        (Machine.run step (start cfg) es).ticks[j]? = some q → q.Uses →
          press i = press j → i = j := by
  have haccounted := (pressOk_step.run (pressOk_start cfg) h).accounted
  generalize (Machine.run step (start cfg) es).ticks = ticks at haccounted
  have hpress : ∀ i : ℕ, (∃ r, ticks[i]? = some r ∧ TickRecord.Uses r) → ∃ k ≤ i,
      (∀ r, ticks[i]? = some r → ∃ p, ticks[k]? = some p ∧ TickRecord.RecentFor p r) ∧
        ∀ (j : ℕ) (q : TickRecord), k ≤ j → j < i → ticks[j]? = some q → ¬ q.Uses := by
    rintro i ⟨r, hi, hr⟩
    obtain ⟨k, p, hk, hp, hunused⟩ := haccounted i r hi hr
    refine ⟨k, hk, fun r' hi' => ⟨p, ?_⟩, hunused⟩
    rw [Option.some.inj (hi'.symm.trans hi)]
    exact hp
  choose! press hle hrecent hunused using hpress
  -- a transition between a press and the one that uses it would be a use of the press
  have hbefore : ∀ {i j : ℕ} {r q : TickRecord}, ticks[i]? = some r → r.Uses →
      ticks[j]? = some q → q.Uses → press i = press j → ¬ i < j := by
    intro i j r q hi hr hj hq heq hlt
    exact hunused j ⟨q, hj, hq⟩ i r (heq ▸ hle i ⟨r, hi, hr⟩) hlt hi hr
  refine ⟨press, fun i r hi hr => ?_, fun i j r q hi hr hj hq heq => ?_⟩
  · exact ⟨hle i ⟨r, hi, hr⟩, hrecent i ⟨r, hi, hr⟩ r hi⟩
  · have hij := hbefore hi hr hj hq heq
    have hji := hbefore hj hq hi hr heq.symm
    omega

/-- The key is pressed, and motion is seen in two ticks of one second: the second one enters private
mode. -/
def enterPrivate : List BathroomEvent :=
  List.replicate 11 (.fastTick 50 false false true) ++ List.replicate 2 (.tick (secondTick true))

instance (s : BathroomRun) : ∀ e, Decidable (Spaced s e)
  | .fastTick _ _ _ _ | .configUpdate _ => isTrue trivial
  | .tick t =>
    inferInstanceAs (Decidable (s.now + t.delays.check <
      (s.ticks.getLast?.map TickRecord.checkAt).getD (s.now + t.delays.sample) + 2 ^ 31))

theorem bathroom_private_by_press_enterPrivate :
    ((∃ r ∈ (Machine.run step (start ⟨70000, 600⟩) enterPrivate).ticks, r.Uses) ∧
      ∃ press : ℕ → ℕ,
        (∀ i r, (Machine.run step (start ⟨70000, 600⟩) enterPrivate).ticks[i]? = some r → r.Uses →
          press i ≤ i ∧
            ∃ p, (Machine.run step (start ⟨70000, 600⟩) enterPrivate).ticks[press i]? = some p ∧
              p.RecentFor r) ∧
        ∀ i j r q,
          (Machine.run step (start ⟨70000, 600⟩) enterPrivate).ticks[i]? = some r → r.Uses →
            (Machine.run step (start ⟨70000, 600⟩) enterPrivate).ticks[j]? = some q → q.Uses →
              press i = press j → i = j) :=
  ⟨by decide +kernel, bathroom_private_by_press ⟨70000, 600⟩ (by decide +kernel)⟩

end BathroomRun

end HouseBus
