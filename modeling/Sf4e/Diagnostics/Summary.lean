/-
# The summary of the diagnostics

`FormatSummary` writes the statistics into a buffer of the caller, line by line, with `Append`.
`Append` formats behind what is there and moves on by what `vsnprintf` says that it would have
written, but not past the last place of the buffer.  So the buffer holds the beginning of all
that has been appended, and what lies behind the buffer is left alone.
-/
import Sf4e.Diagnostics.RollbackDiagnostics
import Sf4e.Relay.Udp
import Sf4e.Wire.Printf

namespace Sf4e
namespace Diag

open Wire
open Relay (ascii)

/-! ## The buffer -/

/-- The memory from the beginning of the buffer on, and how much of the buffer is used. -/
structure Buffer where
  memory : Memory
  used : ℕ

/-- `Append`, of a formatted text. -/
def append (cap : ℕ) (b : Buffer) (text : Text) : Buffer :=
  if b.used ≥ cap then b
  else
    let (memory, n) := vsnprintf b.memory b.used (cap - b.used) text
    let used :=
      if n > 0 then b.used + (if n.toNat < cap - b.used then n.toNat else cap - b.used - 1)
      else b.used
    ⟨memory, used⟩

/-- The buffer as `FormatSummary` prepares it. -/
def emptyBuffer (memory : Memory) : Buffer := ⟨memory.write 0 [0], 0⟩

/-! ## The texts -/

/-- `TimedOpName`. -/
def timedOpName : TimedOp → String
  | .detouredBattleUpdate => "battle_update"
  | .engineBattleUpdate => "engine_update"
  | .addLocalInput => "add_local_input"
  | .syncInput => "sync_input"
  | .advanceFrameApi => "advance_frame"
  | .rollbackCallback => "rollback_cb"
  | .sessionClientStep => "client_step"
  | .sessionServerStep => "server_step"
  | .facadeTickFrame => "facade_tick"
  | .ggpoIdle => "ggpo_idle"
  | .steamPostUpdate => "steam_post_update"
  | .outerTick => "outer_tick"
  | .saveTotal => "save"
  | .saveRecordMementos => "save.mementos"
  | .saveCopyKeys => "save.keys"
  | .saveSound => "save.sound"
  | .saveGlobals => "save.globals"
  | .semanticHash => "semantic_hash"
  | .loadTotal => "load"
  | .loadKeyBackup => "load.key_backup"
  | .loadCopyIntoPlace => "load.copy_into_place"
  | .loadRestoreKeys => "load.restore_keys"
  | .freeTotal => "free"
  | .freeTmpSave => "free.tmp_save"
  | .freeVictimInstall => "free.victim_install"
  | .freeClear => "free.clear"
  | .freeLiveRestore => "free.live_restore"
  | .timesyncSleep => "timesync_sleep"
  | .pacingWait => "pacing_wait"

/-- `SkipReasonName`. -/
def skipReasonName : SkipReason → String
  | .updateGate => "update_gate"
  | .predictionThreshold => "prediction_threshold"
  | .notSynchronized => "not_synchronized"
  | .addInputError => "add_input_error"
  | .syncInputError => "sync_input_error"

/-- `CallSiteName`. -/
def callSiteName : GgpoCallSite → String
  | .addLocalInput => "add_local_input"
  | .syncInput => "sync_input"
  | .advanceFrame => "advance_frame"
  | .getNetworkStats => "get_network_stats"

/-- `hitchOps`. -/
def hitchOps : List TimedOp :=
  [.detouredBattleUpdate, .engineBattleUpdate, .addLocalInput, .syncInput, .advanceFrameApi,
    .rollbackCallback, .sessionClientStep, .sessionServerStep, .facadeTickFrame, .ggpoIdle,
    .steamPostUpdate, .outerTick, .saveTotal, .saveRecordMementos, .saveCopyKeys, .saveSound,
    .saveGlobals, .semanticHash, .loadTotal, .loadKeyBackup, .loadCopyIntoPlace,
    .loadRestoreKeys, .freeTotal, .freeTmpSave, .freeVictimInstall, .freeClear,
    .freeLiveRestore]

/-- What `AppendStatLine` appends. -/
def statLine (name : String) (s : TimingStat) : List Text :=
  if s.count = 0 then []
  else
    [ascii "  " ++ padRight 22 (ascii name) ++ ascii " n=" ++ decimalText s.count.toNat ++
      ascii " p50=" ++ fixedText 2 (s.approxPercentileMs (50 / 100)) ++
      ascii " p95=" ++ fixedText 2 (s.approxPercentileMs (95 / 100)) ++
      ascii " p99=" ++ fixedText 2 (s.approxPercentileMs (99 / 100)) ++
      ascii " max=" ++ fixedText 2 s.maxMs ++ ascii " mean=" ++ fixedText 3 s.meanMs ++
      ascii " ms hitch[>=16.67,25,33.33,50,100]=" ++
      decimalText (s.hitchCounts 0).toNat ++ ascii "," ++
      decimalText (s.hitchCounts 1).toNat ++ ascii "," ++
      decimalText (s.hitchCounts 2).toNat ++ ascii "," ++
      decimalText (s.hitchCounts 3).toNat ++ ascii "," ++
      decimalText (s.hitchCounts 4).toNat ++ ascii "\n"]

namespace RollbackDiagnostics

variable (d : RollbackDiagnostics)

/-- The lines about frames that did not advance. -/
def stallTexts : List Text :=
  ascii " hard stalls:\n" ::
    (skipReasonList.filter fun r => d.skipReasons r ≠ 0).map (fun r =>
      ascii "  skip[" ++ ascii (skipReasonName r) ++ ascii "]=" ++
        decimalText (d.skipReasons r).toNat ++ ascii "\n") ++
    [ascii "  prediction stalls=" ++ decimalText d.predictionStalls.toNat ++ ascii " (active=" ++
      ascii (if d.predictionStallStartMs ≥ 0 then "yes" else "no") ++ ascii ")\n"] ++
    statLine "stall_duration" d.predictionStallDuration ++
    [ascii "  conn warnings=" ++ decimalText d.connectionWarnings.toNat ++ ascii " resumes=" ++
      decimalText d.connectionResumes.toNat ++ ascii " terminal=" ++
      decimalText d.terminalDisconnects.toNat ++ ascii "\n"] ++
    statLine "warning_duration" d.connectionWarningDuration ++
    [ascii "  timesync events=" ++ decimalText d.timesyncEvents.toNat ++ ascii " framesTotal=" ++
      decimalText d.timesyncFramesTotal.toNat ++ ascii " max=" ++
      decimalText d.timesyncMaxFrames.toNat ++ ascii "\n"] ++
    statLine "timesync_sleep" (d.ops .timesyncSleep) ++
    statLine "pacing_wait" (d.ops .pacingWait)

/-- The lines about the work of the frames. -/
def hitchTexts : List Text :=
  ascii " simulation hitches:\n" ::
    hitchOps.flatMap fun op => statLine (timedOpName op) (d.ops op)

/-- The lines about bursts. -/
def correctionTexts : List Text :=
  [ascii " visible corrections (burst = proxy, not exact distance):\n",
    ascii "  rollback callbacks=" ++ decimalText d.totalRollbackCallbacks.toNat ++
      ascii " outerFramesWithRollback=" ++ decimalText d.outerFramesWithRollback.toNat ++
      ascii " maxPerOuterFrame=" ++ decimalText d.maxRollbackCallbacksPerOuterFrame.toNat ++
      ascii "\n",
    ascii "  resim bursts=" ++ decimalText d.resimBursts.toNat ++ ascii " maxBurst=" ++
      decimalText d.maxResimBurst.toNat ++ ascii " buckets[<=1,2,3,4,6,8,12,+]="] ++
    (List.finRange numBurstBuckets).map (fun i =>
      ascii (if i.val ≠ 0 then "," else "") ++ decimalText (d.resimBurstBuckets i).toNat) ++
    [ascii "\n"]

/-- The lines about what GGPO has returned. -/
def resultTexts : List Text :=
  ascii " ggpo results (slot0=other/-1, slotN=code N-1):\n" ::
    ggpoCallSites.flatMap fun c =>
      -- `total`, which is of 64 bits
      if (List.finRange numResultSlots).foldl (fun total s =>
          total + (d.ggpoResults c s).toUInt64) 0 = 0 then []
      else
        (ascii "  " ++ padRight 18 (ascii (callSiteName c))) ::
          ((List.finRange numResultSlots).filter fun s => d.ggpoResults c s ≠ 0).map (fun s =>
            ascii " [" ++ signedText ((s.val : ℤ) - 1) ++ ascii "]=" ++
              decimalText (d.ggpoResults c s).toNat) ++
          [ascii "\n"]

/-- The current and the largest value of a gauge. -/
def gaugeText (size : StateSize) : Text :=
  decimalText (d.gauges size).current.toNat ++ ascii "/" ++ decimalText (d.gauges size).max.toNat

/-- The line about the gauges. -/
def sizeText : Text :=
  ascii " state sizes (cur/max): trackedKeys=" ++ d.gaugeText .trackedKeys ++
    ascii " keyVec=" ++ d.gaugeText .saveKeyVectorSize ++
    ascii " keyCap=" ++ d.gaugeText .saveKeyVectorCapacity ++
    ascii " sndMgr=" ++ d.gaugeText .soundManagers ++
    ascii " sndAdpt=" ++ d.gaugeText .soundAdapters ++
    ascii " criState=" ++ d.gaugeText .criPlayerStateSize ++
    ascii " mgrState=" ++ d.gaugeText .managerStateSize ++
    ascii " slots=" ++ d.gaugeText .occupiedSaveSlots ++ ascii "\n"

/-- What `FormatSummary` appends. -/
def summaryTexts (label : Option Text) : List Text :=
  [ascii "RollbackDiag [" ++ label.getD (ascii "-") ++ ascii "] outerFrames=" ++
      decimalText d.outerFrames.toNat ++ ascii "\n"] ++
    d.stallTexts ++ d.hitchTexts ++ d.correctionTexts ++ d.resultTexts ++ [d.sizeText]

/-- `FormatSummary` of a buffer that is not null: the memory behind it, and the result. -/
def formatSummary (memory : Memory) (cap : ℕ) (label : Option Text) : Memory × ℕ :=
  if !d.enabled || cap < 2 then (memory, 0)
  else
    let b := (d.summaryTexts label).foldl (append cap) (emptyBuffer memory)
    (b.memory, b.used)

end RollbackDiagnostics

/-! ## The property -/

/-- A text that `vsnprintf` can format: it has no zero in it, and its length is an `int`. -/
structure Formatted where
  bytes : Text
  noNul : 0 ∉ bytes
  length_le : bytes.length ≤ intMax

/-- The buffer holds what there is room for of a text. -/
structure Holds (cap : ℕ) (memory : Memory) (b : Buffer) (text : Text) : Prop where
  used_lt : b.used < cap
  /-- The terminator is the first zero. -/
  terminated : b.memory b.used = 0 ∧ ∀ i < b.used, b.memory i ≠ 0
  content : (List.range b.used).map b.memory = text.take (cap - 1)
  /-- The memory behind the buffer. -/
  behind : ∀ i, cap ≤ i → b.memory i = memory i

/-- A summary stays in its buffer, and the buffer has a terminator if something is written. -/
structure Contained (cap : ℕ) (memory : Memory) (result : Memory × ℕ) : Prop where
  behind : ∀ i, cap ≤ i → result.1 i = memory i
  terminated : result = (memory, 0) ∨ result.2 < cap ∧ ∃ i < cap, result.1 i = 0

/-! ## One text -/

variable {cap : ℕ} {memory : Memory} {b : Buffer} {text : Text}

/-- What is left of the buffer after a text: one place at least. -/
lemma used_append (hused : b.used < cap) (hlen : text.length ≤ intMax) :
    (append cap b text).used = b.used + min (cap - b.used - 1) text.length := by
  simp only [append, if_neg (not_le.2 hused), vsnprintf, if_pos hlen]
  by_cases hpos : 0 < text.length
  · rw [if_pos (by exact_mod_cast hpos), Int.toNat_natCast]
    split <;> omega
  · rw [if_neg (by exact_mod_cast hpos)]
    omega

lemma used_append_lt (hused : b.used < cap) (text : Text) : (append cap b text).used < cap := by
  by_cases hlen : text.length ≤ intMax
  · rw [used_append hused hlen]
    omega
  · simp only [append, if_neg (not_le.2 hused), vsnprintf, if_neg hlen]
    exact hused

lemma memory_append (hused : b.used < cap) (text : Text) :
    (append cap b text).memory = (vsnprintf b.memory b.used (cap - b.used) text).1 := by
  simp only [append, if_neg (not_le.2 hused)]

/-- The content goes on with the text, as far as there is room. -/
lemma Holds.append (h : Holds cap memory b text) (f : Formatted) :
    Holds cap memory (append cap b f.bytes) (text ++ f.bytes) := by
  have hlt := h.used_lt
  have hused := used_append hlt f.length_le
  have hlen : b.used = min (cap - 1) text.length := by
    have hcontent := congrArg List.length h.content
    rwa [List.length_map, List.length_range, List.length_take] at hcontent
  -- A place before the end of the content, and one in the text behind it.
  have hold : ∀ i < b.used, (Diag.append cap b f.bytes).memory i = b.memory i := by
    intro i hi
    rw [memory_append hlt]
    exact vsnprintf_of_lt hi
  have hnew : ∀ i < min (cap - b.used - 1) f.bytes.length,
      f.bytes[i]? = some ((Diag.append cap b f.bytes).memory (b.used + i)) := by
    intro i hi
    have hget := List.getElem?_eq_getElem (l := f.bytes) (i := i) (by omega)
    rw [memory_append hlt, vsnprintf_add (by omega) (by omega) hget, hget]
  have hcontent : (List.range (Diag.append cap b f.bytes).used).map
      (Diag.append cap b f.bytes).memory = (text ++ f.bytes).take (cap - 1) := by
    refine List.ext_getElem? fun i => ?_
    rw [hused, List.getElem?_map]
    by_cases hi : i < b.used
    · have hbefore := congrArg (·[i]?) h.content
      simp only [List.getElem?_map, List.getElem?_range hi, Option.map_some] at hbefore
      rw [List.getElem?_range (by omega), Option.map_some, hold i hi, hbefore,
        List.getElem?_take_of_lt (by omega), List.getElem?_take_of_lt (by omega),
        List.getElem?_append_left (by omega)]
    · by_cases hi' : i < b.used + min (cap - b.used - 1) f.bytes.length
      · have htext : text.length = b.used := by omega
        have hbyte := hnew (i - b.used) (by omega)
        rw [Nat.add_sub_cancel' (not_lt.1 hi)] at hbyte
        rw [List.getElem?_range hi', Option.map_some, List.getElem?_take_of_lt (by omega),
          List.getElem?_append_right (by omega), htext, hbyte]
      · rw [List.getElem?_eq_none (by simpa using hi'), Option.map_none,
          List.getElem?_eq_none (by simp; omega)]
  refine ⟨used_append_lt hlt _, ⟨?_, ?_⟩, hcontent, ?_⟩
  · rw [hused, memory_append hlt]
    exact vsnprintf_terminator (by omega)
  · intro i hi
    by_cases hi' : i < b.used
    · rw [hold i hi']
      exact h.terminated.2 i hi'
    · have hbyte := hnew (i - b.used) (by omega)
      rw [Nat.add_sub_cancel' (not_lt.1 hi')] at hbyte
      intro hzero
      rw [hzero] at hbyte
      exact f.noNul (List.mem_of_getElem? hbyte)
  · intro i hi
    rw [memory_append hlt, vsnprintf_of_le (by omega)]
    exact h.behind i hi

/-! ## All texts -/

lemma holds_emptyBuffer (hcap : 0 < cap) (memory : Memory) :
    Holds cap memory (emptyBuffer memory) [] where
  used_lt := hcap
  terminated := ⟨rfl, fun i hi => absurd hi (Nat.not_lt_zero i)⟩
  content := List.take_nil.symm
  behind i hi := by
    show memory.write 0 [0] i = memory i
    refine Memory.write_of_le ?_
    rw [List.length_singleton]
    omega

lemma Holds.foldl_append (h : Holds cap memory b text) (texts : List Formatted) :
    Holds cap memory (texts.foldl (fun b f => Diag.append cap b f.bytes) b)
      (text ++ texts.flatMap Formatted.bytes) := by
  induction texts generalizing b text with
  | nil => simpa using h
  | cons f texts ih =>
    have hrest := ih (h.append f)
    rwa [List.append_assoc] at hrest

/-- A buffer that is not full stays so, and nothing behind it changes, whatever the texts. -/
lemma foldl_append_contained (hused : b.used < cap) (hnul : ∃ i < cap, b.memory i = 0)
    (texts : List Text) :
    (texts.foldl (append cap) b).used < cap ∧
      (∃ i < cap, (texts.foldl (append cap) b).memory i = 0) ∧
      ∀ i, cap ≤ i → (texts.foldl (append cap) b).memory i = b.memory i := by
  induction texts generalizing b with
  | nil => exact ⟨hused, hnul, fun _ _ => rfl⟩
  | cons text texts ih =>
    have hnul' : ∃ i < cap, (append cap b text).memory i = 0 := by
      refine ⟨b.used + min (cap - b.used - 1) text.length, by omega, ?_⟩
      rw [memory_append hused]
      exact vsnprintf_terminator (by omega)
    obtain ⟨hlt, hterm, hbehind⟩ := ih (used_append_lt hused text) hnul'
    refine ⟨hlt, hterm, fun i hi => (hbehind i hi).trans ?_⟩
    rw [memory_append hused]
    exact vsnprintf_of_le (by omega)

lemma contained_formatSummary (d : RollbackDiagnostics) (memory : Memory) (cap : ℕ)
    (label : Option Text) : Contained cap memory (d.formatSummary memory cap label) := by
  rw [RollbackDiagnostics.formatSummary]
  generalize d.summaryTexts label = texts
  split
  · exact ⟨fun _ _ => rfl, .inl rfl⟩
  · rename_i hgo
    have hcap : 2 ≤ cap := by
      by_contra hlt
      exact hgo (by simp [not_le.1 hlt])
    have hempty := holds_emptyBuffer (show 0 < cap by omega) memory
    obtain ⟨hlt, hterm, hbehind⟩ := foldl_append_contained hempty.used_lt
      ⟨0, hempty.used_lt, hempty.terminated.1⟩ texts
    exact ⟨fun i hi => (hbehind i hi).trans (hempty.behind i hi), .inr ⟨hlt, hterm⟩⟩

/-- **A buffer that texts are appended to holds the beginning of all of them, and a summary does
not leave its buffer.** -/
theorem holds_appended (memory : Memory) (cap : ℕ) (hcap : 2 ≤ cap) :
    (∀ texts : List Formatted,
      Holds cap memory
        (texts.foldl (fun b f => append cap b f.bytes) (emptyBuffer memory))
        (texts.flatMap Formatted.bytes)) ∧
      ∀ (d : RollbackDiagnostics) (label : Option Text),
        Contained cap memory (d.formatSummary memory cap label) :=
  ⟨fun texts => (holds_emptyBuffer (by omega) memory).foldl_append texts,
    fun d label => contained_formatSummary d memory cap label⟩

/-- Two texts of which the buffer holds all but the last byte, and one that is lost. -/
theorem holds_appended_five :
    Holds 5 (fun _ => 255)
      ([⟨ascii "ab", by decide, by decide⟩, ⟨ascii "cde", by decide, by decide⟩,
          ⟨ascii "f", by decide, by decide⟩].foldl
        (fun b (f : Formatted) => append 5 b f.bytes) (emptyBuffer fun _ => 255))
      (ascii "abcdef") :=
  (holds_appended (fun _ => 255) 5 (by decide)).1 [⟨ascii "ab", by decide, by decide⟩,
    ⟨ascii "cde", by decide, by decide⟩, ⟨ascii "f", by decide, by decide⟩]

end Diag
end Sf4e
