/-
# The rollback diagnostics

`RollbackDiagnostics` counts what happens during a match: timings, frames that were skipped,
results of GGPO, bursts of rollback callbacks, stalls and connection warnings.  A burst, a stall
or a warning is begun by one event and closed by others, and what is closed is entered in
several counters.

How the events make up bursts is said apart from the collector (`Bursts`), and the counters of
the collector follow it as long as no counter wraps around: some have 32 bits and some 64.
-/
import Mathlib.Algebra.BigOperators.Fin
import Mathlib.Algebra.Order.BigOperators.Group.Finset
import Mathlib.Data.Fintype.BigOperators
import Sf4e.Diagnostics.TimingStat

namespace Sf4e
namespace Diag

/-! ## The collector -/

/-- `TimedOp`, in the order of the source. -/
inductive TimedOp
  | detouredBattleUpdate | engineBattleUpdate | addLocalInput | syncInput | advanceFrameApi
  | rollbackCallback | sessionClientStep | sessionServerStep | facadeTickFrame | ggpoIdle
  | steamPostUpdate | outerTick
  | saveTotal | saveRecordMementos | saveCopyKeys | saveSound | saveGlobals | semanticHash
  | loadTotal | loadKeyBackup | loadCopyIntoPlace | loadRestoreKeys
  | freeTotal | freeTmpSave | freeVictimInstall | freeClear | freeLiveRestore
  | timesyncSleep | pacingWait
deriving DecidableEq

/-- The operations by their numbers. -/
def timedOps : List TimedOp :=
  [.detouredBattleUpdate, .engineBattleUpdate, .addLocalInput, .syncInput, .advanceFrameApi,
    .rollbackCallback, .sessionClientStep, .sessionServerStep, .facadeTickFrame, .ggpoIdle,
    .steamPostUpdate, .outerTick, .saveTotal, .saveRecordMementos, .saveCopyKeys, .saveSound,
    .saveGlobals, .semanticHash, .loadTotal, .loadKeyBackup, .loadCopyIntoPlace,
    .loadRestoreKeys, .freeTotal, .freeTmpSave, .freeVictimInstall, .freeClear,
    .freeLiveRestore, .timesyncSleep, .pacingWait]

/-- `SkipReason`. -/
inductive SkipReason
  | updateGate | predictionThreshold | notSynchronized | addInputError | syncInputError
deriving DecidableEq

/-- The reasons by their numbers. -/
def skipReasonList : List SkipReason :=
  [.updateGate, .predictionThreshold, .notSynchronized, .addInputError, .syncInputError]

/-- `GgpoCallSite`. -/
inductive GgpoCallSite
  | addLocalInput | syncInput | advanceFrame | getNetworkStats
deriving DecidableEq

/-- The call sites by their numbers. -/
def ggpoCallSites : List GgpoCallSite :=
  [.addLocalInput, .syncInput, .advanceFrame, .getNetworkStats]

/-- The value with a number, if it is one of the list. -/
def ofNumber {α : Type} (values : List α) (number : ℤ) : Option α :=
  if number < 0 then none else values[number.toNat]?

/-- `NUM_RESULT_SLOTS`. -/
abbrev numResultSlots : ℕ := 13

/-- `NUM_BURST_BUCKETS`. -/
abbrev numBurstBuckets : ℕ := 8

/-- `kBurstUpper`. -/
def kBurstUpper : Vector UInt32 numBurstBuckets := #v[1, 2, 3, 4, 6, 8, 12, 0xffffffff]

/-- The bucket that a burst is counted in: the first one whose bound it does not exceed. -/
def burstBucket (length : UInt32) : ℕ := kBurstUpper.toList.findIdx fun upper => length ≤ upper

/-- `Gauge`. -/
structure Gauge where
  current : UInt32 := 0
  max : UInt32 := 0
deriving DecidableEq

/-- `Gauge::Update`. -/
def Gauge.update (g : Gauge) (v : UInt32) : Gauge := ⟨v, if v > g.max then v else g.max⟩

/-- The gauges of the collector. -/
inductive StateSize
  | trackedKeys | saveKeyVectorSize | saveKeyVectorCapacity | soundManagers | soundAdapters
  | criPlayerStateSize | managerStateSize | occupiedSaveSlots
deriving DecidableEq

/-- `RollbackDiagnostics`; the values are those of `memset(this, 0, sizeof(*this))`. -/
structure RollbackDiagnostics where
  enabled : Bool := false
  ops : TimedOp → TimingStat := fun _ => .reset
  skipReasons : SkipReason → UInt64 := fun _ => 0
  ggpoResults : GgpoCallSite → Fin numResultSlots → UInt32 := fun _ _ => 0
  totalRollbackCallbacks : UInt64 := 0
  rollbackCallbacksThisOuterFrame : UInt32 := 0
  maxRollbackCallbacksPerOuterFrame : UInt32 := 0
  outerFramesWithRollback : UInt64 := 0
  outerFrames : UInt64 := 0
  /-- The length of the open burst. -/
  currentResimBurst : UInt32 := 0
  /-- The length of the longest closed burst. -/
  maxResimBurst : UInt32 := 0
  resimBurstBuckets : Fin numBurstBuckets → UInt32 := fun _ => 0
  /-- The number of closed bursts. -/
  resimBursts : UInt64 := 0
  connectionWarnings : UInt32 := 0
  connectionResumes : UInt32 := 0
  terminalDisconnects : UInt32 := 0
  /-- When the open warning began; negative if there is none. -/
  connectionWarningStartMs : ℚ := 0
  connectionWarningDuration : TimingStat := .reset
  timesyncEvents : UInt32 := 0
  timesyncFramesTotal : UInt64 := 0
  timesyncMaxFrames : UInt32 := 0
  predictionStalls : UInt32 := 0
  /-- When the open stall began; negative if there is none. -/
  predictionStallStartMs : ℚ := 0
  predictionStallDuration : TimingStat := .reset
  gauges : StateSize → Gauge := fun _ => {}
  matchStartMs : ℚ := 0
  lastPeriodicEmitMs : ℚ := 0

namespace RollbackDiagnostics

variable (d : RollbackDiagnostics)

/-- `ResetForMatch`. -/
def resetForMatch (nowMs : ℚ) : RollbackDiagnostics where
  enabled := d.enabled
  connectionWarningStartMs := -1
  predictionStallStartMs := -1
  matchStartMs := nowMs
  lastPeriodicEmitMs := nowMs

/-- `RecordOp`. -/
def recordOp (op : ℤ) (ms : ℚ) : RollbackDiagnostics :=
  if !d.enabled then d
  else
    match ofNumber timedOps op with
    | none => d
    | some op => { d with ops := fun o => if o = op then (d.ops o).record ms else d.ops o }

/-- `RecordSkip`. -/
def recordSkip (reason : ℤ) (nowMs : ℚ) : RollbackDiagnostics :=
  if !d.enabled then d
  else
    match ofNumber skipReasonList reason with
    | none => d
    | some reason =>
      let d := { d with
        skipReasons := fun r => if r = reason then d.skipReasons r + 1 else d.skipReasons r }
      if reason = .predictionThreshold ∧ d.predictionStallStartMs < 0 then
        { d with predictionStalls := d.predictionStalls + 1, predictionStallStartMs := nowMs }
      else d

/-- `RecordGgpoResult`.  Slot 0 is for the codes that are not from 0 to 11. -/
def recordGgpoResult (callSite code : ℤ) : RollbackDiagnostics :=
  if !d.enabled then d
  else
    match ofNumber ggpoCallSites callSite with
    | none => d
    | some site =>
      let slot := if 0 ≤ code ∧ code ≤ 11 then code.toNat + 1 else 0
      { d with
        ggpoResults := fun c s =>
          if c = site ∧ s.val = slot then d.ggpoResults c s + 1 else d.ggpoResults c s }

/-- The block at the end of `OnFrameAdvanced` and of `OnOuterFrame`, which closes a burst. -/
def closeBurst : RollbackDiagnostics :=
  if d.currentResimBurst > 0 then
    { d with
      maxResimBurst :=
        if d.currentResimBurst > d.maxResimBurst then d.currentResimBurst else d.maxResimBurst
      resimBursts := d.resimBursts + 1
      resimBurstBuckets := fun i =>
        if burstBucket d.currentResimBurst = i.val then d.resimBurstBuckets i + 1
        else d.resimBurstBuckets i
      currentResimBurst := 0 }
  else d

/-- The block of `OnFrameAdvanced` and of `OnSessionEnded` that closes a stall. -/
def closeStall (nowMs : ℚ) : RollbackDiagnostics :=
  if d.predictionStallStartMs ≥ 0 then
    { d with
      predictionStallDuration :=
        d.predictionStallDuration.record (nowMs - d.predictionStallStartMs)
      predictionStallStartMs := -1 }
  else d

/-- The block of `OnConnectionResumed` and of `OnTerminalDisconnect` that closes a warning. -/
def closeWarning (nowMs : ℚ) : RollbackDiagnostics :=
  if d.connectionWarningStartMs ≥ 0 then
    { d with
      connectionWarningDuration :=
        d.connectionWarningDuration.record (nowMs - d.connectionWarningStartMs)
      connectionWarningStartMs := -1 }
  else d

/-- `OnFrameAdvanced`. -/
def onFrameAdvanced (nowMs : ℚ) : RollbackDiagnostics :=
  if !d.enabled then d else (d.closeStall nowMs).closeBurst

/-- `OnRollbackCallback`. -/
def onRollbackCallback : RollbackDiagnostics :=
  if !d.enabled then d
  else
    { d with
      totalRollbackCallbacks := d.totalRollbackCallbacks + 1
      rollbackCallbacksThisOuterFrame := d.rollbackCallbacksThisOuterFrame + 1
      currentResimBurst := d.currentResimBurst + 1 }

/-- The first part of `OnOuterFrame`. -/
def countOuterFrame : RollbackDiagnostics :=
  let d := { d with outerFrames := d.outerFrames + 1 }
  if d.rollbackCallbacksThisOuterFrame > 0 then
    { d with
      outerFramesWithRollback := d.outerFramesWithRollback + 1
      maxRollbackCallbacksPerOuterFrame :=
        if d.rollbackCallbacksThisOuterFrame > d.maxRollbackCallbacksPerOuterFrame then
          d.rollbackCallbacksThisOuterFrame
        else d.maxRollbackCallbacksPerOuterFrame
      rollbackCallbacksThisOuterFrame := 0 }
  else d

/-- `OnOuterFrame`.  It does not close a stall. -/
def onOuterFrame : RollbackDiagnostics := if !d.enabled then d else d.countOuterFrame.closeBurst

/-- `OnSessionEnded`. -/
def onSessionEnded (nowMs : ℚ) : RollbackDiagnostics :=
  if !d.enabled then d
  else
    let d := d.closeStall nowMs
    if d.currentResimBurst > 0 then d.onOuterFrame else d

/-- `OnConnectionInterrupted`. -/
def onConnectionInterrupted (nowMs : ℚ) : RollbackDiagnostics :=
  if !d.enabled then d
  else if d.connectionWarningStartMs < 0 then
    { d with
      connectionWarnings := d.connectionWarnings + 1
      connectionWarningStartMs := nowMs }
  else d

/-- `OnConnectionResumed`. -/
def onConnectionResumed (nowMs : ℚ) : RollbackDiagnostics :=
  if !d.enabled then d
  else { d with connectionResumes := d.connectionResumes + 1 }.closeWarning nowMs

/-- `OnTerminalDisconnect`. -/
def onTerminalDisconnect (nowMs : ℚ) : RollbackDiagnostics :=
  if !d.enabled then d
  else { d with terminalDisconnects := d.terminalDisconnects + 1 }.closeWarning nowMs

/-- `OnTimesyncEvent`. -/
def onTimesyncEvent (framesAhead : ℤ) : RollbackDiagnostics :=
  if !d.enabled then d
  else
    let d := { d with timesyncEvents := d.timesyncEvents + 1 }
    if framesAhead > 0 then
      { d with
        timesyncFramesTotal := d.timesyncFramesTotal + UInt64.ofNat framesAhead.toNat
        timesyncMaxFrames :=
          if UInt32.ofNat framesAhead.toNat > d.timesyncMaxFrames then
            UInt32.ofNat framesAhead.toNat
          else d.timesyncMaxFrames }
    else d

/-- `PeriodicSummaryDue`, and whether it says so. -/
def periodicSummaryDue (nowMs periodSec : ℚ) : RollbackDiagnostics × Bool :=
  if !d.enabled then (d, false)
  else if nowMs - d.lastPeriodicEmitMs ≥ periodSec * 1000 then
    ({ d with lastPeriodicEmitMs := nowMs }, true)
  else (d, false)

/-- `Update` of a gauge. -/
def updateGauge (size : StateSize) (v : UInt32) : RollbackDiagnostics :=
  { d with gauges := fun g => if g = size then (d.gauges g).update v else d.gauges g }

end RollbackDiagnostics

/-! ## Events -/

/-- A call of the collector. -/
inductive Event
  | recordOp (op : ℤ) (ms : ℚ)
  | recordSkip (reason : ℤ) (nowMs : ℚ)
  | recordGgpoResult (callSite code : ℤ)
  | frameAdvanced (nowMs : ℚ)
  | rollbackCallback (nowMs : ℚ)
  | outerFrame (nowMs : ℚ)
  | sessionEnded (nowMs : ℚ)
  | connectionInterrupted (nowMs : ℚ)
  | connectionResumed (nowMs : ℚ)
  | terminalDisconnect (nowMs : ℚ)
  | timesyncEvent (framesAhead : ℤ)
  | periodicSummaryDue (nowMs periodSec : ℚ)
  | updateGauge (size : StateSize) (v : UInt32)

namespace Event

/-- When an event happens, if it says so. -/
def time : Event → Option ℚ
  | recordSkip _ nowMs | frameAdvanced nowMs | rollbackCallback nowMs | outerFrame nowMs
  | sessionEnded nowMs | connectionInterrupted nowMs | connectionResumed nowMs
  | terminalDisconnect nowMs | periodicSummaryDue nowMs _ => some nowMs
  | _ => none

/-- The event is a rollback callback. -/
def isRollbackCallback : Event → Bool
  | rollbackCallback _ => true
  | _ => false

/-- The event is a refusal to predict further. -/
def isPredictionSkip : Event → Bool
  | recordSkip reason _ => ofNumber skipReasonList reason = some .predictionThreshold
  | _ => false

/-- The event is an interruption of the connection. -/
def isInterruption : Event → Bool
  | connectionInterrupted _ => true
  | _ => false

/-- The event is a bound between bursts. -/
def endsBurst : Event → Bool
  | frameAdvanced _ | outerFrame _ | sessionEnded _ => true
  | _ => false

end Event

namespace RollbackDiagnostics

/-- The collector after an event. -/
def after (d : RollbackDiagnostics) : Event → RollbackDiagnostics
  | .recordOp op ms => d.recordOp op ms
  | .recordSkip reason nowMs => d.recordSkip reason nowMs
  | .recordGgpoResult callSite code => d.recordGgpoResult callSite code
  | .frameAdvanced nowMs => d.onFrameAdvanced nowMs
  | .rollbackCallback _ => d.onRollbackCallback
  | .outerFrame _ => d.onOuterFrame
  | .sessionEnded nowMs => d.onSessionEnded nowMs
  | .connectionInterrupted nowMs => d.onConnectionInterrupted nowMs
  | .connectionResumed nowMs => d.onConnectionResumed nowMs
  | .terminalDisconnect nowMs => d.onTerminalDisconnect nowMs
  | .timesyncEvent framesAhead => d.onTimesyncEvent framesAhead
  | .periodicSummaryDue nowMs periodSec => (d.periodicSummaryDue nowMs periodSec).1
  | .updateGauge size v => d.updateGauge size v

/-- The collector after a sequence of events. -/
def run (d : RollbackDiagnostics) (events : List Event) : RollbackDiagnostics :=
  events.foldl after d

end RollbackDiagnostics

/-- The bursts of a sequence of events. -/
structure Bursts where
  /-- The lengths of the closed ones. -/
  closed : List ℕ := []
  /-- The length of the open one. -/
  current : ℕ := 0
deriving DecidableEq

/-- A burst is a run of rollback callbacks that no frame, outer tick or end of the session
interrupts. -/
def Bursts.after (b : Bursts) (event : Event) : Bursts :=
  if event.isRollbackCallback then { b with current := b.current + 1 }
  else if event.endsBurst ∧ 0 < b.current then ⟨b.closed ++ [b.current], 0⟩
  else b

/-- The bursts of the events. -/
def burstsOf (events : List Event) : Bursts := events.foldl Bursts.after {}

/-- What an episode that is open adds to those whose duration has been recorded. -/
def openEpisode (startMs : ℚ) : ℕ := if 0 ≤ startMs then 1 else 0

/-- The counters of the collector agree with each other and with the events. -/
structure Conserved (d : RollbackDiagnostics) (events : List Event) : Prop where
  /-- Every callback is in a closed burst or in the open one. -/
  callbacks : d.totalRollbackCallbacks.toNat = events.countP Event.isRollbackCallback ∧
    d.totalRollbackCallbacks.toNat = (burstsOf events).closed.sum + d.currentResimBurst.toNat
  /-- Every closed burst is in a bucket. -/
  bursts : d.resimBursts.toNat = (burstsOf events).closed.length ∧
    d.resimBursts.toNat = ∑ i, (d.resimBurstBuckets i).toNat
  /-- The longest closed burst. -/
  longest : d.maxResimBurst.toNat = (burstsOf events).closed.foldr max 0
  /-- Every stall has a duration or is open. -/
  stalls : d.predictionStalls.toNat =
    d.predictionStallDuration.count.toNat + openEpisode d.predictionStallStartMs
  /-- Every warning has a duration or is open. -/
  warnings : d.connectionWarnings.toNat =
    d.connectionWarningDuration.count.toNat + openEpisode d.connectionWarningStartMs

/-- The times of the events are not negative and do not go back. -/
structure Timestamps (events : List Event) : Prop where
  nonneg : ∀ e ∈ events, ∀ t ∈ e.time, 0 ≤ t
  nondecreasing : (events.filterMap Event.time).Pairwise (· ≤ ·)

/-! ## Bursts -/

/-- The counters that are about bursts. -/
structure BurstCounters where
  total : UInt64
  current : UInt32
  longest : UInt32
  count : UInt64
  buckets : Fin numBurstBuckets → UInt32

namespace BurstCounters

/-- One more callback. -/
def callback (c : BurstCounters) : BurstCounters :=
  { c with total := c.total + 1, current := c.current + 1 }

/-- The open burst, if there is one, is closed. -/
def close (c : BurstCounters) : BurstCounters :=
  if c.current > 0 then
    { c with
      longest := if c.current > c.longest then c.current else c.longest
      count := c.count + 1
      buckets := fun i =>
        if burstBucket c.current = i.val then c.buckets i + 1 else c.buckets i
      current := 0 }
  else c

/-- The counters have counted the bursts. -/
structure Tracks (c : BurstCounters) (b : Bursts) : Prop where
  total : c.total.toNat = b.closed.sum + b.current
  current : c.current.toNat = b.current
  longest : c.longest.toNat = b.closed.foldr max 0
  count : c.count.toNat = b.closed.length
  buckets : ∑ i, (c.buckets i).toNat = b.closed.length
  /-- No burst is empty. -/
  pos : ∀ n ∈ b.closed, 0 < n

variable {c : BurstCounters} {b : Bursts}

lemma Tracks.length_le (h : c.Tracks b) : b.closed.length ≤ b.closed.sum :=
  List.length_le_sum_of_one_le _ h.pos

lemma Tracks.callback (h : c.Tracks b) (hlt : b.closed.sum + b.current + 1 < 2 ^ 32) :
    c.callback.Tracks { b with current := b.current + 1 } := by
  refine ⟨?_, ?_, h.longest, h.count, h.buckets, h.pos⟩
  · show (c.total + 1).toNat = b.closed.sum + (b.current + 1)
    rw [UInt64.toNat_add, h.total, UInt64.toNat_one, Nat.mod_eq_of_lt (by omega), Nat.add_assoc]
  · show (c.current + 1).toNat = b.current + 1
    rw [UInt32.toNat_add, h.current, UInt32.toNat_one, Nat.mod_eq_of_lt (by omega)]

/-- Every burst has a bucket. -/
lemma burstBucket_lt (n : UInt32) : burstBucket n < numBurstBuckets := by
  refine (List.findIdx_lt_length_of_exists ⟨0xffffffff, ?_, ?_⟩).trans_eq Vector.length_toList
  · decide
  · have hn := n.toNat_lt
    rw [decide_eq_true_eq, UInt32.le_iff_toNat_le]
    show n.toNat ≤ 4294967295
    omega

/-- One more burst in its bucket. -/
lemma sum_buckets (buckets : Fin numBurstBuckets → UInt32) (n : UInt32)
    (hlt : ∑ i, (buckets i).toNat + 1 < 2 ^ 32) :
    ∑ i : Fin numBurstBuckets,
      (if burstBucket n = i.val then buckets i + 1 else buckets i).toNat =
      ∑ i, (buckets i).toNat + 1 := by
  have hone : ∀ i : Fin numBurstBuckets,
      (if burstBucket n = i.val then buckets i + 1 else buckets i).toNat =
        (buckets i).toNat + if (⟨burstBucket n, burstBucket_lt n⟩ : Fin numBurstBuckets) = i
          then 1 else 0 := by
    intro i
    have hle : (buckets i).toNat ≤ ∑ i, (buckets i).toNat :=
      Finset.single_le_sum (f := fun i => (buckets i).toNat) (fun _ _ => Nat.zero_le _)
        (Finset.mem_univ i)
    by_cases hi : burstBucket n = i.val
    · rw [if_pos hi, if_pos (Fin.ext hi), UInt32.toNat_add, UInt32.toNat_one,
        Nat.mod_eq_of_lt (by omega)]
    · rw [if_neg hi, if_neg (fun heq => hi (congrArg Fin.val heq)), Nat.add_zero]
  rw [Finset.sum_congr rfl fun i _ => hone i, Finset.sum_add_distrib, Finset.sum_ite_eq,
    if_pos (Finset.mem_univ _)]

lemma Tracks.close (h : c.Tracks b) (hlt : b.closed.sum + b.current < 2 ^ 32) :
    c.close.Tracks (if 0 < b.current then ⟨b.closed ++ [b.current], 0⟩ else b) := by
  have hlen := h.length_le
  have hiff : c.current > 0 ↔ 0 < b.current := by
    rw [gt_iff_lt, UInt32.lt_iff_toNat_lt, h.current, UInt32.toNat_zero]
  rw [BurstCounters.close]
  by_cases hpos : 0 < b.current
  · rw [if_pos (hiff.2 hpos), if_pos hpos]
    refine ⟨?_, rfl, ?_, ?_, ?_, ?_⟩
    · show c.total.toNat = (b.closed ++ [b.current]).sum + 0
      rw [h.total, List.sum_append, List.sum_singleton, Nat.add_zero]
    · show (if c.current > c.longest then c.current else c.longest).toNat =
        (b.closed ++ [b.current]).foldr max 0
      have hmax : ∀ l : List ℕ, (l ++ [b.current]).foldr max 0 = max (l.foldr max 0) b.current := by
        intro l
        induction l with
        | nil => simp
        | cons n l ih => rw [List.cons_append, List.foldr_cons, ih, List.foldr_cons, max_assoc]
      rw [hmax, ← h.longest, ← h.current]
      split
      · rename_i hgt
        rw [max_eq_right (UInt32.le_iff_toNat_le.1 (UInt32.le_of_lt hgt))]
      · rename_i hle
        rw [max_eq_left (UInt32.le_iff_toNat_le.1 (UInt32.not_lt.1 hle))]
    · show (c.count + 1).toNat = (b.closed ++ [b.current]).length
      rw [UInt64.toNat_add, h.count, UInt64.toNat_one, Nat.mod_eq_of_lt (by omega),
        List.length_append, List.length_singleton]
    · rw [sum_buckets _ _ (by rw [h.buckets]; omega), h.buckets, List.length_append,
        List.length_singleton]
    · intro n hn
      obtain hn | hn := List.mem_append.1 hn
      · exact h.pos n hn
      · rw [List.mem_singleton.1 hn]
        exact hpos
  · rw [if_neg (mt hiff.1 hpos), if_neg hpos]
    exact h

end BurstCounters

/-! ## Episodes -/

/-- The counters of the stalls, or of the warnings. -/
structure Episodes where
  begun : UInt32
  startMs : ℚ
  durations : TimingStat

namespace Episodes

/-- An episode begins, unless one is open. -/
def start (e : Episodes) (nowMs : ℚ) : Episodes :=
  if e.startMs < 0 then { e with begun := e.begun + 1, startMs := nowMs } else e

/-- The open episode, if there is one, ends. -/
def finish (e : Episodes) (nowMs : ℚ) : Episodes :=
  if e.startMs ≥ 0 then
    { e with durations := e.durations.record (nowMs - e.startMs), startMs := -1 }
  else e

/-- Every episode has a duration or is open, and no more than some have begun. -/
structure Matched (e : Episodes) (most : ℕ) : Prop where
  begun : e.begun.toNat = e.durations.count.toNat + openEpisode e.startMs
  le : e.begun.toNat ≤ most

variable {e : Episodes} {most : ℕ}

lemma Matched.mono {most' : ℕ} (h : e.Matched most) (hle : most ≤ most') : e.Matched most' :=
  ⟨h.begun, h.le.trans hle⟩

lemma Matched.start (h : e.Matched most) (hlt : most + 1 < 2 ^ 32) {nowMs : ℚ} (hnow : 0 ≤ nowMs) :
    (e.start nowMs).Matched (most + 1) := by
  have hle := h.le
  rw [Episodes.start]
  split
  · rename_i hnone
    have hbegun : (e.begun + 1).toNat = e.begun.toNat + 1 := by
      rw [UInt32.toNat_add, UInt32.toNat_one, Nat.mod_eq_of_lt (by omega)]
    refine ⟨?_, ?_⟩
    · show (e.begun + 1).toNat = e.durations.count.toNat + openEpisode nowMs
      rw [hbegun, h.begun, openEpisode, openEpisode, if_neg (not_le.2 hnone), if_pos hnow]
    · show (e.begun + 1).toNat ≤ most + 1
      omega
  · exact h.mono (Nat.le_succ _)

lemma Matched.finish (h : e.Matched most) (nowMs : ℚ) : (e.finish nowMs).Matched most := by
  rw [Episodes.finish]
  split
  · rename_i hopen
    refine ⟨?_, h.le⟩
    have hbegun := h.begun
    have hlt := e.begun.toNat_lt
    rw [openEpisode, if_pos hopen] at hbegun
    show e.begun.toNat = (e.durations.count + 1).toNat + openEpisode (-1)
    rw [UInt64.toNat_add, UInt64.toNat_one, Nat.mod_eq_of_lt (by omega), openEpisode,
      if_neg (by norm_num), hbegun, Nat.add_zero]
  · exact h

end Episodes

/-! ## Steps -/

namespace RollbackDiagnostics

variable {d : RollbackDiagnostics}

/-- The counters of the collector that are about bursts. -/
def burstCounters (d : RollbackDiagnostics) : BurstCounters :=
  ⟨d.totalRollbackCallbacks, d.currentResimBurst, d.maxResimBurst, d.resimBursts,
    d.resimBurstBuckets⟩

/-- The counters of the stalls. -/
def stalls (d : RollbackDiagnostics) : Episodes :=
  ⟨d.predictionStalls, d.predictionStallStartMs, d.predictionStallDuration⟩

/-- The counters of the connection warnings. -/
def warnings (d : RollbackDiagnostics) : Episodes :=
  ⟨d.connectionWarnings, d.connectionWarningStartMs, d.connectionWarningDuration⟩

lemma closeBurst_spec (d : RollbackDiagnostics) :
    d.closeBurst.enabled = d.enabled ∧ d.closeBurst.burstCounters = d.burstCounters.close ∧
      d.closeBurst.stalls = d.stalls ∧ d.closeBurst.warnings = d.warnings := by
  rw [closeBurst, BurstCounters.close]
  by_cases hpos : d.currentResimBurst > 0
  · rw [if_pos hpos, if_pos (show d.burstCounters.current > 0 from hpos)]
    exact ⟨rfl, rfl, rfl, rfl⟩
  · rw [if_neg hpos, if_neg (show ¬ d.burstCounters.current > 0 from hpos)]
    exact ⟨rfl, rfl, rfl, rfl⟩

lemma closeStall_spec (d : RollbackDiagnostics) (nowMs : ℚ) :
    (d.closeStall nowMs).enabled = d.enabled ∧
      (d.closeStall nowMs).burstCounters = d.burstCounters ∧
      (d.closeStall nowMs).stalls = d.stalls.finish nowMs ∧
      (d.closeStall nowMs).warnings = d.warnings := by
  rw [closeStall, Episodes.finish]
  by_cases hopen : d.predictionStallStartMs ≥ 0
  · rw [if_pos hopen, if_pos (show d.stalls.startMs ≥ 0 from hopen)]
    exact ⟨rfl, rfl, rfl, rfl⟩
  · rw [if_neg hopen, if_neg (show ¬ d.stalls.startMs ≥ 0 from hopen)]
    exact ⟨rfl, rfl, rfl, rfl⟩

lemma closeWarning_spec (d : RollbackDiagnostics) (nowMs : ℚ) :
    (d.closeWarning nowMs).enabled = d.enabled ∧
      (d.closeWarning nowMs).burstCounters = d.burstCounters ∧
      (d.closeWarning nowMs).stalls = d.stalls ∧
      (d.closeWarning nowMs).warnings = d.warnings.finish nowMs := by
  rw [closeWarning, Episodes.finish]
  by_cases hopen : d.connectionWarningStartMs ≥ 0
  · rw [if_pos hopen, if_pos (show d.warnings.startMs ≥ 0 from hopen)]
    exact ⟨rfl, rfl, rfl, rfl⟩
  · rw [if_neg hopen, if_neg (show ¬ d.warnings.startMs ≥ 0 from hopen)]
    exact ⟨rfl, rfl, rfl, rfl⟩

lemma countOuterFrame_spec (d : RollbackDiagnostics) :
    d.countOuterFrame.enabled = d.enabled ∧ d.countOuterFrame.burstCounters = d.burstCounters ∧
      d.countOuterFrame.stalls = d.stalls ∧ d.countOuterFrame.warnings = d.warnings := by
  simp only [countOuterFrame]
  split_ifs <;> exact ⟨rfl, rfl, rfl, rfl⟩

lemma onOuterFrame_spec (henabled : d.enabled = true) :
    d.onOuterFrame.enabled = true ∧ d.onOuterFrame.burstCounters = d.burstCounters.close ∧
      d.onOuterFrame.stalls = d.stalls ∧ d.onOuterFrame.warnings = d.warnings := by
  rw [onOuterFrame, henabled, Bool.not_true, if_neg Bool.false_ne_true]
  obtain ⟨he, hb, hs, hw⟩ := closeBurst_spec d.countOuterFrame
  obtain ⟨he', hb', hs', hw'⟩ := countOuterFrame_spec d
  exact ⟨he.trans (he'.trans henabled), hb.trans (by rw [hb']), hs.trans hs', hw.trans hw'⟩

/-- What an event does to the counters of the episodes: one begins, or the open one ends. -/
inductive Moves (e e' : Episodes) (begins : Bool) (time : Option ℚ) : Prop
  | same (h : e' = e)
  | start (nowMs : ℚ) (hbegins : begins = true) (htime : time = some nowMs)
      (h : e' = e.start nowMs)
  | finish (nowMs : ℚ) (h : e' = e.finish nowMs)

/-- What an event does. -/
structure Effect (d d' : RollbackDiagnostics) (event : Event) : Prop where
  enabled : d'.enabled = true
  bursts : d'.burstCounters =
    if event.isRollbackCallback then d.burstCounters.callback
    else if event.endsBurst then d.burstCounters.close
    else d.burstCounters
  stalls : Moves d.stalls d'.stalls event.isPredictionSkip event.time
  warnings : Moves d.warnings d'.warnings event.isInterruption event.time

/-- An event that is no part of a burst or of an episode. -/
lemma Effect.of_same {d d' : RollbackDiagnostics} {event : Event} (henabled : d'.enabled = true)
    (hcallback : event.isRollbackCallback = false) (hends : event.endsBurst = false)
    (hb : d'.burstCounters = d.burstCounters) (hs : d'.stalls = d.stalls)
    (hw : d'.warnings = d.warnings) : Effect d d' event :=
  ⟨henabled, by rw [hcallback, hends, if_neg Bool.false_ne_true, if_neg Bool.false_ne_true, hb],
    .same hs, .same hw⟩

/-- What `OnSessionEnded` does: the outer frame that it ends with is one of the bound of a burst,
and there is nothing to close without it. -/
lemma onSessionEnded_spec (henabled : d.enabled = true) (nowMs : ℚ) :
    Effect d (d.onSessionEnded nowMs) (.sessionEnded nowMs) := by
  obtain ⟨he, hb, hs, hw⟩ := closeStall_spec d nowMs
  rw [onSessionEnded, henabled, Bool.not_true, if_neg Bool.false_ne_true]
  dsimp only
  split
  · obtain ⟨he', hb', hs', hw'⟩ := onOuterFrame_spec (he.trans henabled)
    exact ⟨he', hb'.trans (by rw [hb]; rfl), .finish nowMs (hs'.trans hs), .same (hw'.trans hw)⟩
  · rename_i hnone
    refine ⟨he.trans henabled, ?_, .finish nowMs hs, .same hw⟩
    have hclose : d.burstCounters.close = d.burstCounters := by
      rw [BurstCounters.close, if_neg]
      rw [← hb]
      exact hnone
    rw [hb]
    exact hclose.symm

/-- Each event does what it should. -/
lemma effect_after (henabled : d.enabled = true) (event : Event) :
    Effect d (d.after event) event := by
  have hgo : ¬ (!d.enabled) = true := by simp [henabled]
  cases event with
  | recordOp op ms =>
    rw [after, recordOp, if_neg hgo]
    split
    · exact .of_same henabled rfl rfl rfl rfl rfl
    · exact .of_same henabled rfl rfl rfl rfl rfl
  | recordSkip reason nowMs =>
    rw [after, recordSkip, if_neg hgo]
    split
    · exact .of_same henabled rfl rfl rfl rfl rfl
    · rename_i r hr
      dsimp only
      -- only a skip for prediction begins a stall, and only if none is open
      by_cases hstall : r = .predictionThreshold ∧ d.predictionStallStartMs < 0
      · rw [if_pos hstall]
        refine ⟨henabled, rfl, .start nowMs ?_ rfl ?_, .same rfl⟩
        · exact decide_eq_true (hr.trans (congrArg some hstall.1))
        · rw [Episodes.start, if_pos (show d.stalls.startMs < 0 from hstall.2)]
          rfl
      · rw [if_neg hstall]
        exact .of_same henabled rfl rfl rfl rfl rfl
  | recordGgpoResult callSite code =>
    rw [after, recordGgpoResult, if_neg hgo]
    split
    · exact .of_same henabled rfl rfl rfl rfl rfl
    · exact .of_same henabled rfl rfl rfl rfl rfl
  | frameAdvanced nowMs =>
    rw [after, onFrameAdvanced, if_neg hgo]
    -- a frame ends the stall and the burst
    obtain ⟨he, hb, hs, hw⟩ := closeStall_spec d nowMs
    obtain ⟨he', hb', hs', hw'⟩ := closeBurst_spec (d.closeStall nowMs)
    exact ⟨he'.trans (he.trans henabled), hb'.trans (by rw [hb]; rfl),
      .finish nowMs (hs'.trans hs), .same (hw'.trans hw)⟩
  | rollbackCallback nowMs =>
    rw [after, onRollbackCallback, if_neg hgo]
    exact ⟨henabled, rfl, .same rfl, .same rfl⟩
  | outerFrame nowMs =>
    obtain ⟨he, hb, hs, hw⟩ := onOuterFrame_spec henabled
    exact ⟨he, hb, .same hs, .same hw⟩
  | sessionEnded nowMs => exact onSessionEnded_spec henabled nowMs
  | connectionInterrupted nowMs =>
    rw [after, onConnectionInterrupted, if_neg hgo]
    by_cases hnone : d.connectionWarningStartMs < 0
    · rw [if_pos hnone]
      refine ⟨henabled, rfl, .same rfl, .start nowMs rfl rfl ?_⟩
      rw [Episodes.start, if_pos (show d.warnings.startMs < 0 from hnone)]
      rfl
    · rw [if_neg hnone]
      exact .of_same henabled rfl rfl rfl rfl rfl
  | connectionResumed nowMs =>
    rw [after, onConnectionResumed, if_neg hgo]
    obtain ⟨he, hb, hs, hw⟩ :=
      closeWarning_spec { d with connectionResumes := d.connectionResumes + 1 } nowMs
    exact ⟨he.trans henabled, hb, .same hs, .finish nowMs hw⟩
  | terminalDisconnect nowMs =>
    rw [after, onTerminalDisconnect, if_neg hgo]
    obtain ⟨he, hb, hs, hw⟩ :=
      closeWarning_spec { d with terminalDisconnects := d.terminalDisconnects + 1 } nowMs
    exact ⟨he.trans henabled, hb, .same hs, .finish nowMs hw⟩
  | timesyncEvent framesAhead =>
    rw [after, onTimesyncEvent, if_neg hgo]
    dsimp only
    by_cases hahead : framesAhead > 0
    · rw [if_pos hahead]
      exact .of_same henabled rfl rfl rfl rfl rfl
    · rw [if_neg hahead]
      exact .of_same henabled rfl rfl rfl rfl rfl
  | periodicSummaryDue nowMs periodSec =>
    rw [after, periodicSummaryDue, if_neg hgo]
    split
    · exact .of_same henabled rfl rfl rfl rfl rfl
    · exact .of_same henabled rfl rfl rfl rfl rfl
  | updateGauge size v => exact .of_same henabled rfl rfl rfl rfl rfl

lemma Moves.matched {e e' : Episodes} {begins : Bool} {time : Option ℚ} {most : ℕ}
    (h : Moves e e' begins time) (hmatched : e.Matched most)
    (hlt : most + begins.toNat < 2 ^ 32) (htime : ∀ t ∈ time, 0 ≤ t) :
    e'.Matched (most + begins.toNat) := by
  cases h with
  | same h =>
    rw [h]
    exact hmatched.mono (Nat.le_add_right _ _)
  | start nowMs hbegins hnow h =>
    rw [hbegins] at hlt ⊢
    rw [h]
    exact hmatched.start hlt (htime nowMs hnow)
  | finish nowMs h =>
    rw [h]
    exact (hmatched.finish nowMs).mono (Nat.le_add_right _ _)

end RollbackDiagnostics

/-! ## Runs -/

open RollbackDiagnostics

/-- No counter of 32 bits wraps around: there are fewer than `2 ^ 32` rollback callbacks, and so
many refusals to predict further and interruptions of the connection. -/
structure FewEvents (events : List Event) : Prop where
  callbacks : events.countP Event.isRollbackCallback < 2 ^ 32
  skips : events.countP Event.isPredictionSkip < 2 ^ 32
  interruptions : events.countP Event.isInterruption < 2 ^ 32

lemma FewEvents.of_append {past events : List Event} (h : FewEvents (past ++ events)) :
    FewEvents past := by
  have hle : ∀ p : Event → Bool, past.countP p ≤ (past ++ events).countP p := by
    intro p
    rw [List.countP_append]
    exact Nat.le_add_right _ _
  exact ⟨(hle _).trans_lt h.callbacks, (hle _).trans_lt h.skips,
    (hle _).trans_lt h.interruptions⟩

lemma countP_concat (p : Event → Bool) (past : List Event) (event : Event) :
    (past ++ [event]).countP p = past.countP p + (p event).toNat := by
  rw [List.countP_append, List.countP_singleton]
  cases p event <;> rfl

lemma burstsOf_concat (past : List Event) (event : Event) :
    burstsOf (past ++ [event]) = (burstsOf past).after event := by
  rw [burstsOf, List.foldl_append]
  rfl

/-- Every callback is in one burst. -/
lemma sum_burstsOf (events : List Event) :
    (burstsOf events).closed.sum + (burstsOf events).current =
      events.countP Event.isRollbackCallback := by
  induction events using List.reverseRecOn with
  | nil => rfl
  | append_singleton past event ih =>
    rw [burstsOf_concat, countP_concat, ← ih, Bursts.after]
    by_cases hcallback : event.isRollbackCallback = true
    · rw [if_pos hcallback, hcallback, Nat.add_assoc]
      rfl
    · rw [if_neg hcallback, Bool.not_eq_true _ |>.mp hcallback]
      split
      · rw [List.sum_append, List.sum_singleton]
        rfl
      · rfl

/-- The counters of an enabled collector after some events. -/
structure Tracked (d : RollbackDiagnostics) (past : List Event) : Prop where
  enabled : d.enabled = true
  bursts : d.burstCounters.Tracks (burstsOf past)
  stalls : d.stalls.Matched (past.countP Event.isPredictionSkip)
  warnings : d.warnings.Matched (past.countP Event.isInterruption)

lemma tracked_resetForMatch {d : RollbackDiagnostics} (henabled : d.enabled = true) (nowMs : ℚ) :
    Tracked (d.resetForMatch nowMs) [] := by
  have hnone : openEpisode (-1) = 0 := if_neg (by norm_num)
  refine ⟨henabled, ⟨rfl, rfl, rfl, rfl, rfl, ?_⟩, ⟨hnone.symm, le_rfl⟩, ⟨hnone.symm, le_rfl⟩⟩
  intro n hn
  exact absurd hn List.not_mem_nil

lemma Tracked.after {d : RollbackDiagnostics} {past : List Event} {event : Event}
    (h : Tracked d past) (hfew : FewEvents (past ++ [event])) (htime : ∀ t ∈ event.time, 0 ≤ t) :
    Tracked (d.after event) (past ++ [event]) := by
  obtain ⟨henabled, hbursts, hstalls, hwarnings⟩ := effect_after h.enabled event
  have hsum := sum_burstsOf past
  have hcallbacks := hfew.callbacks
  have hskips := hfew.skips
  have hinterruptions := hfew.interruptions
  rw [countP_concat] at hcallbacks hskips hinterruptions
  refine ⟨henabled, ?_, ?_, ?_⟩
  · rw [hbursts, burstsOf_concat, Bursts.after]
    by_cases hcallback : event.isRollbackCallback = true
    · rw [hcallback] at hcallbacks
      rw [if_pos hcallback, if_pos hcallback]
      exact h.bursts.callback (by rw [hsum]; exact hcallbacks)
    · rw [if_neg hcallback, if_neg hcallback]
      by_cases hends : event.endsBurst = true
      · have hclose := h.bursts.close (by omega)
        rw [if_pos hends]
        simpa only [hends, true_and] using hclose
      · rw [if_neg hends, if_neg fun hboth => hends hboth.1]
        exact h.bursts
  · rw [countP_concat]
    exact hstalls.matched h.stalls hskips htime
  · rw [countP_concat]
    exact hwarnings.matched h.warnings hinterruptions htime

lemma Tracked.run {d : RollbackDiagnostics} {past events : List Event} (h : Tracked d past)
    (hfew : FewEvents (past ++ events)) (htimes : ∀ e ∈ events, ∀ t ∈ e.time, 0 ≤ t) :
    Tracked (d.run events) (past ++ events) := by
  induction events generalizing d past with
  | nil =>
    rw [List.append_nil]
    exact h
  | cons event events ih =>
    rw [List.append_cons] at hfew ⊢
    have hnext := h.after hfew.of_append (htimes event List.mem_cons_self)
    exact ih hnext hfew fun e he => htimes e (List.mem_cons_of_mem _ he)

/-- **As long as no counter of 32 bits wraps around, the counters agree with each other and with
the events.** -/
theorem conserved {d : RollbackDiagnostics} (henabled : d.enabled = true) (nowMs : ℚ)
    {events : List Event} (htimes : Timestamps events) (hfew : FewEvents events) :
    Conserved ((d.resetForMatch nowMs).run events) events := by
  have h := (tracked_resetForMatch henabled nowMs).run hfew htimes.nonneg
  rw [List.nil_append] at h
  have hcurrent := h.bursts.current
  have htotal := h.bursts.total
  refine ⟨⟨htotal.trans (sum_burstsOf events), ?_⟩, ⟨h.bursts.count, ?_⟩, h.bursts.longest,
    h.stalls.begun, h.warnings.begun⟩
  · exact htotal.trans (by rw [← hcurrent]; rfl)
  · exact h.bursts.count.trans h.bursts.buckets.symm

/-- Bursts that different events close, a stall that is open and a warning that is over. -/
theorem conserved_of_match :
    Conserved ((({ enabled := true } : RollbackDiagnostics).resetForMatch 0).run
      [.rollbackCallback 1, .rollbackCallback 1, .frameAdvanced 2, .connectionInterrupted 3,
        .connectionInterrupted 3, .rollbackCallback 4, .outerFrame 5, .terminalDisconnect 5,
        .rollbackCallback 6, .sessionEnded 7, .recordSkip 1 8, .rollbackCallback 9])
      [.rollbackCallback 1, .rollbackCallback 1, .frameAdvanced 2, .connectionInterrupted 3,
        .connectionInterrupted 3, .rollbackCallback 4, .outerFrame 5, .terminalDisconnect 5,
        .rollbackCallback 6, .sessionEnded 7, .recordSkip 1 8, .rollbackCallback 9] := by
  refine conserved rfl 0 ⟨?_, ?_⟩ ⟨by decide, by decide, by decide⟩
  · simp [Event.time]
  · show ([1, 1, 2, 3, 3, 4, 5, 5, 6, 7, 8, 9] : List ℚ).Pairwise (· ≤ ·)
    norm_num

/-- The counters after callbacks alone. -/
lemma run_callbacks (d : RollbackDiagnostics) (henabled : d.enabled = true) (n : ℕ) :
    (d.run (List.replicate n (.rollbackCallback 0))).totalRollbackCallbacks.toNat =
        (d.totalRollbackCallbacks.toNat + n) % 2 ^ 64 ∧
      (d.run (List.replicate n (.rollbackCallback 0))).currentResimBurst.toNat =
        (d.currentResimBurst.toNat + n) % 2 ^ 32 := by
  induction n generalizing d with
  | zero =>
    exact ⟨(Nat.mod_eq_of_lt d.totalRollbackCallbacks.toNat_lt).symm,
      (Nat.mod_eq_of_lt d.currentResimBurst.toNat_lt).symm⟩
  | succ n ih =>
    have hnext : d.onRollbackCallback = { d with
        totalRollbackCallbacks := d.totalRollbackCallbacks + 1
        rollbackCallbacksThisOuterFrame := d.rollbackCallbacksThisOuterFrame + 1
        currentResimBurst := d.currentResimBurst + 1 } := by
      rw [onRollbackCallback, henabled]
      rfl
    obtain ⟨htotal, hcurrent⟩ := ih d.onRollbackCallback (by rw [hnext]; exact henabled)
    rw [List.replicate_succ]
    refine ⟨htotal.trans ?_, hcurrent.trans ?_⟩
    · rw [hnext]
      show ((d.totalRollbackCallbacks + 1).toNat + n) % 2 ^ 64 = _
      rw [UInt64.toNat_add, UInt64.toNat_one]
      omega
    · rw [hnext]
      show ((d.currentResimBurst + 1).toNat + n) % 2 ^ 32 = _
      rw [UInt32.toNat_add, UInt32.toNat_one]
      omega

lemma burstsOf_callbacks (n : ℕ) :
    burstsOf (List.replicate n (.rollbackCallback 0)) = ⟨[], n⟩ := by
  induction n with
  | zero => rfl
  | succ n ih =>
    rw [List.replicate_succ', burstsOf_concat, ih]
    rfl

/-- After `2 ^ 32` callbacks in a row the length of the open burst is 0 again. -/
theorem not_conserved_wrapped :
    ∃ events, Timestamps events ∧
      ¬ Conserved ((({ enabled := true } : RollbackDiagnostics).resetForMatch 0).run events)
        events := by
  refine ⟨List.replicate (2 ^ 32) (.rollbackCallback 0), ⟨?_, ?_⟩, ?_⟩
  · intro e he t ht
    rw [List.eq_of_mem_replicate he] at ht
    obtain rfl : 0 = t := Option.some.inj ht
    exact le_rfl
  · rw [List.filterMap_replicate_of_some (rfl : Event.time (.rollbackCallback 0) = some 0)]
    exact List.pairwise_replicate.2 (.inr le_rfl)
  · intro h
    obtain ⟨htotal, hcurrent⟩ :=
      run_callbacks (({ enabled := true } : RollbackDiagnostics).resetForMatch 0) rfl (2 ^ 32)
    have hsum := h.callbacks.2
    rw [htotal, hcurrent, burstsOf_callbacks] at hsum
    exact absurd hsum (by decide)

end Diag
end Sf4e
