import HouseBus.Lib.Machine
import Mathlib.Logic.Function.Basic

/-!
# Threads with critical sections

The threads `θ` share a value and one lock. A thread arrives with a section `k`, waits for the
lock, does the operations `body k` on the value, one at a time, and frees the lock. The scheduler
chooses the thread of every step.

- **One owner** (`Ok.owner`, `Ok.exclusive`): only the owner of the lock is inside a section.
- **Order** (`done_prefix_run`): the operations that were done are a prefix of those of the
  sections, one section behind the other, in the order in which the lock was taken.
-/

namespace Mutex

/-- Where a thread is. -/
inductive Place (κ ο : Type*)
  | outside
  | waiting (k : κ)
  | inside (rest : List ο)

/-- The threads, the lock and the shared value; the sections that took the lock and the operations
that were done, in order. -/
structure State (θ κ ο σ : Type*) where
  place : θ → Place κ ο
  owner : Option θ
  shared : σ
  entered : List κ
  done : List ο

/-- A thread arrives at a section, or does its next step. -/
inductive Event (θ κ : Type*)
  | arrive (t : θ) (k : κ)
  | advance (t : θ)

variable {θ κ ο σ : Type*}

namespace State

/-- No thread is at a section. -/
def start (v : σ) : State θ κ ο σ := ⟨fun _ => .outside, none, v, [], []⟩

/-- The operations of the owner that are left. -/
def pending (s : State θ κ ο σ) : List ο :=
  match s.owner with
  | none => []
  | some t =>
    match s.place t with
    | .inside rest => rest
    | _ => []

/-- The thread `t` goes to the place `p`. -/
def move [DecidableEq θ] (s : State θ κ ο σ) (t : θ) (p : Place κ ο) : State θ κ ο σ :=
  { s with place := Function.update s.place t p }

end State

section Step

variable [DecidableEq θ] (body : κ → List ο) (act : σ → ο → σ)

/-- The next step of the thread `t`. -/
def advance (s : State θ κ ο σ) (t : θ) : State θ κ ο σ :=
  match s.place t with
  | .outside => s
  | .waiting k =>
    match s.owner with
    | none => { s.move t (.inside (body k)) with owner := some t, entered := s.entered ++ [k] }
    | some _ => s
  | .inside [] => { s.move t .outside with owner := none }
  | .inside (o :: rest) =>
    { s.move t (.inside rest) with shared := act s.shared o, done := s.done ++ [o] }

/-- A thread that is not outside does not arrive. -/
def arrive (s : State θ κ ο σ) (t : θ) (k : κ) : State θ κ ο σ :=
  match s.place t with
  | .outside => s.move t (.waiting k)
  | _ => s

/-- The state after an event. -/
def step (s : State θ κ ο σ) : Event θ κ → State θ κ ο σ
  | .arrive t k => arrive s t k
  | .advance t => advance body act s t

end Step

/-- The invariant, from the shared value `v` on. -/
structure Ok (body : κ → List ο) (act : σ → ο → σ) (v : σ) (s : State θ κ ο σ) : Prop where
  owner : ∀ t rest, s.place t = .inside rest → s.owner = some t
  shared : s.shared = s.done.foldl act v
  serial : s.done ++ s.pending = s.entered.flatMap body

variable {body : κ → List ο} {act : σ → ο → σ} {v : σ} {s : State θ κ ο σ}

theorem ok_start (v : σ) : Ok body act v (State.start v : State θ κ ο σ) := by
  refine ⟨?_, rfl, rfl⟩
  intro t rest h
  cases h

/-- Two threads are not inside. -/
theorem Ok.exclusive (h : Ok body act v s) {t u : θ} {rest rest' : List ο}
    (ht : s.place t = .inside rest) (hu : s.place u = .inside rest') : t = u :=
  Option.some_inj.mp ((h.owner t rest ht).symm.trans (h.owner u rest' hu))

theorem Ok.pending_of_inside (h : Ok body act v s) {t : θ} {rest : List ο}
    (ht : s.place t = .inside rest) : s.pending = rest := by
  rw [State.pending, h.owner t rest ht]
  simp only [ht]

theorem pending_of_free (h : s.owner = none) : s.pending = [] := by
  rw [State.pending, h]

/-! ## One step -/

variable [DecidableEq θ]

/-- A thread inside, after another one or itself went to a place. -/
theorem inside_move {t u : θ} {p : Place κ ο} {rest : List ο}
    (h : (s.move t p).place u = .inside rest) :
    u = t ∧ p = .inside rest ∨ u ≠ t ∧ s.place u = .inside rest := by
  change Function.update s.place t p u = .inside rest at h
  by_cases hut : u = t
  · subst hut
    rw [Function.update_self] at h
    exact .inl ⟨rfl, h⟩
  · rw [Function.update_of_ne hut] at h
    exact .inr ⟨hut, h⟩

theorem Ok.arrive (h : Ok body act v s) (t : θ) (k : κ) : Ok body act v (arrive s t k) := by
  unfold Mutex.arrive
  split
  · next hplace =>
    refine ⟨?_, h.shared, ?_⟩
    · intro u rest hu
      obtain ⟨-, hp⟩ | ⟨-, hu⟩ := inside_move hu
      · cases hp
      · exact h.owner u rest hu
    · have hpending : (s.move t (.waiting k)).pending = s.pending := by
        unfold State.pending State.move
        cases s.owner with
        | none => rfl
        | some u =>
          by_cases hut : u = t
          · subst hut
            simp only [Function.update_self, hplace]
          · simp only [Function.update_of_ne hut]
      rw [hpending]
      exact h.serial
  · exact h

/-- The lock is taken. -/
theorem Ok.enter (h : Ok body act v s) (t : θ) (k : κ) (hfree : s.owner = none) :
    Ok body act v
      { s.move t (.inside (body k)) with owner := some t, entered := s.entered ++ [k] } := by
  refine ⟨?_, h.shared, ?_⟩
  · intro u rest hu
    obtain ⟨rfl, -⟩ | ⟨-, hu⟩ := inside_move hu
    · rfl
    · cases hfree.symm.trans (h.owner u rest hu)
  · have hdone : s.done = s.entered.flatMap body := by
      rw [← h.serial, pending_of_free hfree, List.append_nil]
    simp only [State.pending, State.move, Function.update_self]
    rw [hdone, List.flatMap_append, List.flatMap_singleton]

/-- The lock is freed. -/
theorem Ok.leave (h : Ok body act v s) {t : θ} (ht : s.place t = .inside []) :
    Ok body act v { s.move t .outside with owner := none } := by
  refine ⟨?_, h.shared, ?_⟩
  · intro u rest hu
    obtain ⟨-, hp⟩ | ⟨hut, hu⟩ := inside_move hu
    · cases hp
    · exact absurd (h.exclusive hu ht) hut
  · show s.done ++ [] = s.entered.flatMap body
    rw [← h.serial, h.pending_of_inside ht]

/-- One operation. -/
theorem Ok.operate (h : Ok body act v s) {t : θ} {o : ο} {rest : List ο}
    (ht : s.place t = .inside (o :: rest)) :
    Ok body act v
      { s.move t (.inside rest) with shared := act s.shared o, done := s.done ++ [o] } := by
  have howner := h.owner t _ ht
  refine ⟨?_, ?_, ?_⟩
  · intro u rest' hu
    obtain ⟨rfl, -⟩ | ⟨-, hu⟩ := inside_move hu
    · exact howner
    · exact h.owner u rest' hu
  · rw [List.foldl_append, ← h.shared]
    rfl
  · show (s.done ++ [o]) ++ State.pending _ = s.entered.flatMap body
    rw [← h.serial, h.pending_of_inside ht, List.append_assoc]
    simp only [State.pending, State.move, howner, Function.update_self, List.singleton_append]

theorem Ok.step (h : Ok body act v s) (e : Event θ κ) : Ok body act v (step body act s e) := by
  cases e with
  | arrive t k => exact h.arrive t k
  | advance t =>
    show Ok body act v (advance body act s t)
    unfold advance
    split
    · exact h
    · split
      · next hfree => exact h.enter t _ hfree
      · exact h
    · next ht => exact h.leave ht
    · next ht => exact h.operate ht

/-! ## Every schedule -/

theorem ok_run (v : σ) (es : List (Event θ κ)) :
    Ok body act v (Machine.run (Mutex.step body act) (State.start v) es) :=
  Machine.Keeps.run (I := Ok body act v) (fun _ e h => h.step e) (ok_start v) es

/-- **Order**: the operations of a run are a prefix of those of its sections, one behind the other.
-/
theorem done_prefix_run (v : σ) (es : List (Event θ κ)) :
    (Machine.run (Mutex.step body act) (State.start v) es).done <+:
      (Machine.run (Mutex.step body act) (State.start v) es).entered.flatMap body :=
  ⟨_, (ok_run v es).serial⟩

end Mutex
