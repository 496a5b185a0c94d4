import HouseBus.Lib.Machine
import Mathlib.Logic.Function.Basic

/-!
# Broadcast buses

Stations that broadcast to each other. A message waits in the outbox of its sender until it is on
the bus (`transmit`), then it is in the inboxes of all others, each of which takes its own in order
(`deliver`). An outbox may give a message up (`abandon`), an inbox may overrun (`overrun`).

- **Local invariants** (`Local.keepsIf`): a predicate on one station, its clock and what it has
  heard, kept by its own events and by messages that have a property of all that is sent, holds of
  every station in every run.
- **Order** (`complete_step`): without losses a station hears from each other one what it sent, in
  order: `heard ++ inbox ++ outbox = sent`. On a quiet bus the last message heard is the last one
  sent (`latest_of_quiet`).
-/

namespace Bus

open Function (update)

variable {ι σ ε μ : Type*}

/-- What a station does at a tick: on an event of its own, with its broadcasts, and on a message. -/
structure Protocol (ι σ ε μ : Type*) where
  act : ι → ℕ → σ → ε → σ × List μ
  receive : ι → ℕ → σ → ι → μ → σ

/-- A message that was received at tick `time`. -/
structure Heard (ι μ : Type*) where
  time : ℕ
  source : ι
  message : μ

/-- The bus at a tick, with all messages of a station (`sent`, the last one at the end) and those
that it received (`heard`, the last one first). -/
structure State (ι σ μ : Type*) where
  now : ℕ
  station : ι → σ
  outbox : ι → List μ
  inbox : ι → List (ι × μ)
  sent : ι → List μ
  heard : ι → List (Heard ι μ)

/-- What happens after `delay` ticks. -/
inductive Event (ι ε : Type*)
  | act (delay : ℕ) (i : ι) (e : ε)
  | transmit (delay : ℕ) (i : ι)
  | deliver (delay : ℕ) (i : ι)
  | abandon (delay : ℕ) (i : ι)
  | overrun (delay : ℕ) (i : ι)

/-- No message is lost. -/
def Event.Lossless : Event ι ε → Prop
  | .abandon _ _ | .overrun _ _ => False
  | _ => True

/-- Before the first message, at tick `now`. -/
def State.start (now : ℕ) (station : ι → σ) : State ι σ μ :=
  ⟨now, station, fun _ => [], fun _ => [], fun _ => [], fun _ => []⟩

/-- The most recent message that was heard from a station. -/
def latest [DecidableEq ι] (heard : List (Heard ι μ)) (j : ι) : Option (Heard ι μ) :=
  heard.find? fun x => x.source = j

section Step

variable [DecidableEq ι] (P : Protocol ι σ ε μ)

/-- The bus after an event. -/
def step (s : State ι σ μ) : Event ι ε → State ι σ μ
  | .act delay i e =>
    let now := s.now + delay
    let acted := P.act i now (s.station i) e
    { s with
      now := now
      station := update s.station i acted.1
      outbox := update s.outbox i (s.outbox i ++ acted.2)
      sent := update s.sent i (s.sent i ++ acted.2) }
  | .transmit delay i =>
    match s.outbox i with
    | [] => { s with now := s.now + delay }
    | m :: rest =>
      { s with
        now := s.now + delay
        outbox := update s.outbox i rest
        inbox := fun j => if j = i then s.inbox j else s.inbox j ++ [(i, m)] }
  | .deliver delay i =>
    let now := s.now + delay
    match s.inbox i with
    | [] => { s with now := now }
    | (j, m) :: rest =>
      { s with
        now := now
        station := update s.station i (P.receive i now (s.station i) j m)
        inbox := update s.inbox i rest
        heard := update s.heard i (⟨now, j, m⟩ :: s.heard i) }
  | .abandon delay i =>
    { s with now := s.now + delay, outbox := update s.outbox i (s.outbox i).tail }
  | .overrun delay i =>
    { s with now := s.now + delay, inbox := update s.inbox i (s.inbox i).tail }

end Step

/-! ## Local invariants -/

/-- Messages in outboxes have the property of their sender, and those in inboxes come from another
station and have the property of that one. -/
structure Messages (Q : ι → μ → Prop) (s : State ι σ μ) : Prop where
  outbox : ∀ i, ∀ m ∈ s.outbox i, Q i m
  inbox : ∀ i, ∀ p ∈ s.inbox i, p.1 ≠ i ∧ Q p.1 p.2

/-- An invariant `I` of a station, its clock and what it has heard; the station's own events meet
the guard `G` and send messages with the property `Q`. -/
structure Local (P : Protocol ι σ ε μ) (G : ι → ℕ → σ → List (Heard ι μ) → ε → Prop)
    (Q : ι → μ → Prop) (I : ι → ℕ → σ → List (Heard ι μ) → Prop) : Prop where
  wait : ∀ {i now x heard} delay, I i now x heard → I i (now + delay) x heard
  act : ∀ {i now x heard e}, G i now x heard e → I i now x heard →
    I i now (P.act i now x e).1 heard
  sends : ∀ {i now x heard e}, G i now x heard e → I i now x heard →
    ∀ m ∈ (P.act i now x e).2, Q i m
  receive : ∀ {i j now x heard m}, j ≠ i → Q j m → I i now x heard →
    I i now (P.receive i now x j m) (⟨now, j, m⟩ :: heard)

/-- The guard of the events of the stations, on the bus. -/
def Guarded (G : ι → ℕ → σ → List (Heard ι μ) → ε → Prop) (s : State ι σ μ) : Event ι ε → Prop
  | .act delay i e => G i (s.now + delay) (s.station i) (s.heard i) e
  | _ => True

/-- The invariant at every station. -/
structure Everywhere (Q : ι → μ → Prop) (I : ι → ℕ → σ → List (Heard ι μ) → Prop)
    (s : State ι σ μ) : Prop where
  stations : ∀ i, I i s.now (s.station i) (s.heard i)
  messages : Messages Q s

section Rules

variable [DecidableEq ι] {P : Protocol ι σ ε μ} {G : ι → ℕ → σ → List (Heard ι μ) → ε → Prop}
  {Q : ι → μ → Prop} {I : ι → ℕ → σ → List (Heard ι μ) → Prop} {s : State ι σ μ}

theorem mem_update {α : Type*} {f : ι → List α} {i j : ι} {l : List α} {x : α}
    (h : x ∈ update f i l j) : (j = i ∧ x ∈ l) ∨ x ∈ f j := by
  by_cases hj : j = i
  · subst hj
    rw [Function.update_self] at h
    exact .inl ⟨rfl, h⟩
  · rw [Function.update_of_ne hj] at h
    exact .inr h

theorem messages_transmit (h : Messages Q s) (delay : ℕ) (i : ι) :
    Messages Q (step P s (.transmit delay i)) := by
  rw [step]
  split
  · exact ⟨h.outbox, h.inbox⟩
  · rename_i m rest hout
    have hrest : ∀ m' ∈ m :: rest, Q i m' := hout ▸ h.outbox i
    refine ⟨fun j m' hm' => ?_, fun j p hp => ?_⟩
    · obtain ⟨rfl, hin⟩ | hin := mem_update hm'
      · exact hrest m' (List.mem_cons_of_mem m hin)
      · exact h.outbox j m' hin
    · dsimp only at hp
      split at hp
      · exact h.inbox j p hp
      · rename_i hj
        obtain hp | hp := List.mem_append.mp hp
        · exact h.inbox j p hp
        · obtain rfl := List.mem_singleton.mp hp
          exact ⟨Ne.symm hj, hrest m List.mem_cons_self⟩

theorem messages_tail {inbox : List (ι × μ)} {i : ι} (h : Messages Q s)
    (hsub : ∀ p ∈ inbox, p ∈ s.inbox i) :
    ∀ j, ∀ p ∈ update s.inbox i inbox j, p.1 ≠ j ∧ Q p.1 p.2 := by
  intro j p hp
  obtain ⟨rfl, hin⟩ | hin := mem_update hp
  · exact h.inbox j p (hsub p hin)
  · exact h.inbox j p hin

/-- **Local invariants** hold of every station in every run. -/
theorem Local.keepsIf (h : Local P G Q I) :
    Machine.KeepsIf (step P) (Guarded G) (Everywhere Q I) := by
  rintro s e hG ⟨hstations, hmessages⟩
  cases e with
  | act delay i e =>
    have hi := h.wait delay (hstations i)
    refine ⟨fun j => ?_, fun j m hm => ?_, hmessages.inbox⟩
    · show I j (s.now + delay) (update s.station i _ j) (s.heard j)
      by_cases hj : j = i
      · subst hj
        rw [Function.update_self]
        exact h.act hG hi
      · rw [Function.update_of_ne hj]
        exact h.wait delay (hstations j)
    · obtain ⟨rfl, hin⟩ | hin := mem_update hm
      · obtain hold | hnew := List.mem_append.mp hin
        · exact hmessages.outbox j m hold
        · exact h.sends hG hi m hnew
      · exact hmessages.outbox j m hin
  | transmit delay i =>
    refine ⟨fun j => ?_, messages_transmit hmessages delay i⟩
    have hj := h.wait delay (hstations j)
    rw [step]
    split <;> exact hj
  | deliver delay i =>
    rw [step]
    split
    · exact ⟨fun j => h.wait delay (hstations j), hmessages.outbox, hmessages.inbox⟩
    · rename_i j m rest hin
      obtain ⟨hne, hm⟩ := hmessages.inbox i (j, m) (by rw [hin]; exact List.mem_cons_self)
      refine ⟨fun k => ?_, hmessages.outbox, ?_⟩
      · show I k (s.now + delay) (update s.station i _ k) (update s.heard i _ k)
        by_cases hk : k = i
        · subst hk
          rw [Function.update_self, Function.update_self]
          exact h.receive hne hm (h.wait delay (hstations k))
        · rw [Function.update_of_ne hk, Function.update_of_ne hk]
          exact h.wait delay (hstations k)
      · exact messages_tail hmessages fun p hp => by
          rw [hin]
          exact List.mem_cons_of_mem _ hp
  | abandon delay i =>
    refine ⟨fun j => h.wait delay (hstations j), fun j m hm => ?_, hmessages.inbox⟩
    obtain ⟨rfl, hin⟩ | hin := mem_update hm
    · exact hmessages.outbox j m (List.mem_of_mem_tail hin)
    · exact hmessages.outbox j m hin
  | overrun delay i =>
    refine ⟨fun j => h.wait delay (hstations j), hmessages.outbox, ?_⟩
    exact messages_tail hmessages fun p hp => List.mem_of_mem_tail hp

omit [DecidableEq ι] in
theorem everywhere_start {now : ℕ} {station : ι → σ} (h : ∀ i, I i now (station i) []) :
    Everywhere Q I (State.start now station) where
  stations := h
  messages := by
    constructor
    · intro i m hm
      cases hm
    · intro i p hp
      cases hp

end Rules

/-! ## What is heard -/

section Order

variable [DecidableEq ι] {P : Protocol ι σ ε μ}

/-- The messages from `j` in an inbox. -/
def fromSource (j : ι) (inbox : List (ι × μ)) : List μ :=
  inbox.filterMap fun p => if p.1 = j then some p.2 else none

/-- The messages from `j` that were heard, the last one at the end. -/
def heardFrom (j : ι) (heard : List (Heard ι μ)) : List μ :=
  fromSource j (heard.reverse.map fun x => (x.source, x.message))

theorem fromSource_append (j : ι) (l l' : List (ι × μ)) :
    fromSource j (l ++ l') = fromSource j l ++ fromSource j l' := List.filterMap_append

theorem fromSource_cons (j : ι) (p : ι × μ) (l : List (ι × μ)) :
    fromSource j (p :: l) = (if p.1 = j then [p.2] else []) ++ fromSource j l := by
  rw [fromSource, List.filterMap_cons]
  by_cases h : p.1 = j <;> simp [h, fromSource]

theorem heardFrom_cons (j : ι) (x : Heard ι μ) (heard : List (Heard ι μ)) :
    heardFrom j (x :: heard) =
      heardFrom j heard ++ if x.source = j then [x.message] else [] := by
  rw [heardFrom, List.reverse_cons, List.map_append, fromSource_append, List.map_cons,
    List.map_nil, fromSource_cons]
  simp [fromSource, heardFrom]

/-- The latest message is the last one heard. -/
theorem latest_message (heard : List (Heard ι μ)) (j : ι) :
    (latest heard j).map Heard.message = (heardFrom j heard).getLast? := by
  induction heard with
  | nil => rfl
  | cons x heard ih =>
    rw [latest, List.find?_cons, heardFrom_cons]
    by_cases h : x.source = j
    · simp [h]
    · simpa [h, latest] using ih

/-- Each station has heard from each other one what it sent, in order, but what is on the way. -/
def Complete (s : State ι σ μ) : Prop :=
  ∀ i j, j ≠ i → heardFrom j (s.heard i) ++ fromSource j (s.inbox i) ++ s.outbox j = s.sent j

/-- **No message is lost, doubled or overtaken** by one of the same sender. -/
theorem complete_step :
    Machine.KeepsIf (step P) (fun _ => Event.Lossless) (Complete (ι := ι) (σ := σ) (μ := μ)) := by
  intro s e hlossless h
  cases e with
  | act delay k e =>
    intro i j hne
    show heardFrom j (s.heard i) ++ fromSource j (s.inbox i) ++ update s.outbox k _ j =
      update s.sent k _ j
    by_cases hj : j = k
    · subst hj
      rw [Function.update_self, Function.update_self, ← List.append_assoc, h i j hne]
    · rw [Function.update_of_ne hj, Function.update_of_ne hj, h i j hne]
  | transmit delay k =>
    rw [step]
    split
    · exact h
    · rename_i m rest hout
      intro i j hne
      have hij := h i j hne
      dsimp only
      by_cases hj : j = k
      · subst hj
        rw [hout] at hij
        rw [if_neg hne.symm, Function.update_self, fromSource_append, fromSource_cons, if_pos rfl,
          ← hij]
        simp [fromSource]
      · rw [Function.update_of_ne hj]
        split
        · exact hij
        · rw [fromSource_append, fromSource_cons, if_neg (Ne.symm hj), ← hij]
          simp [fromSource]
  | deliver delay k =>
    rw [step]
    split
    · exact h
    · rename_i source m rest hin
      intro i j hne
      have hij := h i j hne
      dsimp only
      by_cases hi : i = k
      · subst hi
        rw [Function.update_self, Function.update_self, heardFrom_cons, ← hij, hin,
          fromSource_cons]
        simp only [List.append_assoc]
      · rw [Function.update_of_ne hi, Function.update_of_ne hi, hij]
  | abandon | overrun => exact absurd hlossless id

theorem complete_start (now : ℕ) (station : ι → σ) :
    Complete (State.start now station : State ι σ μ) := fun _ _ _ => rfl

/-- Nothing is on the way. -/
def Quiet (s : State ι σ μ) : Prop := ∀ i, s.outbox i = [] ∧ s.inbox i = []

/-- **On a quiet bus** the latest message is the last one sent. -/
theorem latest_of_quiet {s : State ι σ μ} (h : Complete s) (hquiet : Quiet s) {i j : ι}
    (hne : j ≠ i) : (latest (s.heard i) j).map Heard.message = (s.sent j).getLast? := by
  have hij := h i j hne
  rw [(hquiet j).1, (hquiet i).2] at hij
  rw [latest_message, ← hij]
  simp [fromSource]

end Order

end Bus
