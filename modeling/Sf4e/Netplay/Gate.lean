/-
# The simulation gate

`GgpoGateModel` keeps apart the reasons for which the deterministic simulation may have to
wait: the phase of the session, a manual pause, and a fatal error.  A prediction stall and a
connection warning are kept as well, and do not close the gate.
-/
import Mathlib.Data.Int.Notation

namespace Sf4e

/-- `SimulationPhase`. -/
inductive SimulationPhase
  | noSession
  | waitingForRunning
  | running
  | battleClosing
deriving DecidableEq

/-- `AdvancePolicy`. -/
inductive AdvancePolicy
  | continue
  | stallPrediction
  | skipNotSynced
  | skipOther
  | fatal
deriving DecidableEq

/-- `ClassifyGgpoResult`. -/
def classifyGgpoResult (code : ℤ) : AdvancePolicy :=
  if code = 0 then .continue
  else if code = 4 then .stallPrediction
  else if code = 6 then .skipNotSynced
  else if code = 7 ∨ code = 8 then .skipOther
  else .fatal

/-- `GgpoGateModel`. -/
structure GgpoGateModel where
  phase : SimulationPhase := .noSession
  manualPause : Bool := false
  fatalError : Bool := false
  predictionStalled : Bool := false
  connectionWarningActive : Bool := false
  connectionWarningStartedAtMs : UInt32 := 0
deriving DecidableEq

namespace GgpoGateModel

/-- `OnSessionStarted`.  A manual pause stays. -/
def onSessionStarted (g : GgpoGateModel) : GgpoGateModel :=
  { g with
    phase := .waitingForRunning
    fatalError := false
    predictionStalled := false
    connectionWarningActive := false
    connectionWarningStartedAtMs := 0 }

/-- `OnRunning`. -/
def onRunning (g : GgpoGateModel) : GgpoGateModel :=
  if g.phase = .waitingForRunning then { g with phase := .running } else g

/-- `OnBattleClosing`. -/
def onBattleClosing (g : GgpoGateModel) : GgpoGateModel :=
  if g.phase ≠ .noSession then { g with phase := .battleClosing } else g

/-- `OnSessionClosed`. -/
def onSessionClosed (g : GgpoGateModel) : GgpoGateModel :=
  { g with phase := .noSession, predictionStalled := false, connectionWarningActive := false }

/-- `SetManualPause`. -/
def setManualPause (g : GgpoGateModel) (paused : Bool) : GgpoGateModel :=
  { g with manualPause := paused }

/-- `OnFatal`. -/
def onFatal (g : GgpoGateModel) : GgpoGateModel := { g with fatalError := true }

/-- `OnConnectionInterrupted`: whether the warning is new, and the gate. -/
def onConnectionInterrupted (g : GgpoGateModel) (nowMs : UInt32) : Bool × GgpoGateModel :=
  if g.connectionWarningActive then (false, g)
  else (true, { g with connectionWarningActive := true, connectionWarningStartedAtMs := nowMs })

/-- `OnConnectionResumed`: whether there was a warning, and the gate. -/
def onConnectionResumed (g : GgpoGateModel) : Bool × GgpoGateModel :=
  if !g.connectionWarningActive then (false, g)
  else (true, { g with connectionWarningActive := false })

/-- `OnPredictionThreshold`. -/
def onPredictionThreshold (g : GgpoGateModel) : GgpoGateModel :=
  { g with predictionStalled := true }

/-- `OnFrameAccepted`. -/
def onFrameAccepted (g : GgpoGateModel) : GgpoGateModel := { g with predictionStalled := false }

/-- `CanAdvanceDeterministicFrame`. -/
def canAdvanceDeterministicFrame (g : GgpoGateModel) : Bool :=
  g.phase = .running && !g.manualPause && !g.fatalError

end GgpoGateModel
end Sf4e
