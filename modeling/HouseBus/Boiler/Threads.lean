import HouseBus.Boiler.Heater
import HouseBus.Boiler.Undecodable
import HouseBus.NodeTasks.Threads

/-!
# The boiler before a restart

`FastTasksThread` drives the heater: it calls `dimmer_tick` and `app_fast_tick`. It ends when a
restart is requested, up to two seconds before the reset (much longer where the reset waits for a
wrap of the system time). Until then the heater stays as it is (`heater_stays_until_reset`).
-/

namespace HouseBus

/-- `dimmer_is_present` -/
def Dimmer.isPresent (d : Dimmer) : Bool := d.pin < 16

namespace Boiler

/-- What the boiler's functions read from outside: the configuration, the filtered sample, the
system time and a message. -/
structure Env where
  cfg : BoilerConfig
  adc : ℕ
  now : ℕ
  message : Received

/-- An iteration of `FastTasksThread`. -/
def fastTask (b : Boiler) : Boiler :=
  let b := if b.dimmer.isPresent then { b with dimmer := b.dimmer.tick } else b
  b.appFastTick

/-- The application of the boiler node. -/
def app (can : Canard) (qfp : Qfp) : App Boiler where
  Env := Env
  init env b := b.appInit env.cfg
  tick env b := b.appTick qfp env.adc env.now
  fastTick _ b := b.fastTask
  configUpdate env b := b.appConfigUpdate env.cfg
  receive env b := b.receive can qfp env.now env.message

/-- The heater and the duty cycle, and what was sent of it. -/
structure SameHeater (b b' : Boiler) : Prop where
  pad : b'.dimmer.pad = b.dimmer.pad
  boilerDc : b'.boilerDc = b.boilerDc
  sent : b'.sent = b.sent

variable {can : Canard} {qfp : Qfp} {b b' : Boiler}

theorem SameHeater.regulate (h : SameHeater b b') (now : ℕ) (currentPower : ℤ) (timestamp : ℕ) :
    SameHeater b (b'.regulate qfp now currentPower timestamp) := ⟨h.pad, h.boilerDc, h.sent⟩

/-- The handlers leave the heater alone: they only prepare the next `app_fast_tick`. -/
theorem SameHeater.receive (h : SameHeater b b') (now : ℕ) (message : Received) :
    SameHeater b (b'.receive can qfp now message) := by
  cases message with
  | boilerstatus timestamp transfer => exact ⟨h.pad, h.boilerDc, h.sent⟩
  | obis timestamp transfer =>
    show SameHeater b (b'.onObisData can qfp now timestamp transfer)
    unfold onObisData onObis280 onObis180
    dsimp only
    split_ifs <;> exact ⟨h.pad, h.boilerDc, h.sent⟩

/-- **A boiler that is about to restart leaves its heater as it is**, on or off: from the first
pass after the request on, no message, no configuration and no temperature changes the pad, the duty
cycle or what was sent of it. -/
theorem heater_stays_until_reset (can : Canard) (qfp : Qfp) {s : NodeThreads Boiler}
    (hmain : s.main = .idle) (hpass : s.canNode = .idle) (hfast : s.fastTasks ≠ .entered)
    (hrequested : isNodeRestartRequested s.node.state = true) (clock : PassClock) (vdda : ℕ)
    (es : List (ThreadEvent (app can qfp).Env)) :
    SameHeater s.app
      (Machine.run (NodeThreads.step (app can qfp)) s (.broadcastStatus clock vdda :: es)).app := by
  by_cases hreset : s.node.reset = true
  · rw [NodeThreads.run_of_reset hreset]
    exact ⟨rfl, rfl, rfl⟩
  · have hstop := NodeThreads.stopping_broadcastStatus (P := app can qfp) hmain hpass hrequested
      clock vdda
    rw [Machine.run_cons, NodeThreads.step, if_neg hreset]
    have hsame : (s.act (app can qfp) (.broadcastStatus clock vdda)).app = s.app ∧
        (s.act (app can qfp) (.broadcastStatus clock vdda)).fastTasks = s.fastTasks := by
      constructor <;> simp only [NodeThreads.act, hpass]
    refine hstop.keeps (by rwa [hsame.2]) (I := SameHeater s.app) ?_ ?_ ?_ es
    · exact fun env b h => ⟨h.pad, h.boilerDc, h.sent⟩
    · exact fun env b h => h.receive env.now env.message
    · rw [hsame.1]
      exact ⟨rfl, rfl, rfl⟩

/-- A boiler at half power that has switched its heater on before the request. -/
def heating : NodeThreads Boiler :=
  let env : Env := ⟨halfPower, 0, 0, obis1670⟩
  Machine.run (NodeThreads.step (app .uavcan (Qfp.const 0)))
    (NodeThreads.start ⟨fun _ => 0⟩ (Boiler.start 2))
    [.mainInit env, .mainOperational, .fastTest, .fastTick env, .requestRestart 0 5]

theorem heater_stays_until_reset_heating :
    (Machine.run (NodeThreads.step (app .uavcan (Qfp.const 0))) heating
      [.broadcastStatus ⟨10000, 10000, 10000, 10000⟩ 3300, .fastTest]).app.dimmer.pad = true :=
  (heater_stays_until_reset .uavcan (Qfp.const 0) (s := heating) rfl rfl (by decide) rfl
    ⟨10000, 10000, 10000, 10000⟩ 3300 [.fastTest]).pad

end Boiler

end HouseBus
