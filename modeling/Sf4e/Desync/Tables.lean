/-
# What a client keeps to find a desync

A client that fights or watches records the state of every sixtieth frame (the snapshots) and
a hash of every thirtieth (the ring of checkpoints), sends what is old enough to its peers, and
compares what it receives with its own record of the same frame.  What it receives too early
waits in a map, one map for snapshots and one for hashes.

The simulation is the list of the frames accepted so far, newest first.  A rollback takes off
some of them and accepts as many again.  `Action` lists what can happen to a client and
`next` is what it does.
-/
import Sf4e.Data.OrderedMap
import Sf4e.Rollback.HashRing
import Sf4e.Trace.LTS

namespace Sf4e
namespace Desync

open HashRing Trace

/-! ## Data -/

/-- `StateSnapshot`. -/
structure StateSnapshot where
  frameIdx : ℤ
  /-- The bytes of the two `CharaStateSnapshot`. -/
  chara : List UInt8
  /-- The match that it was captured in, for reference. -/
  capturedIn : ℕ
deriving DecidableEq, Repr

/-- `BattleHashV2`. -/
structure BattleHashV2 where
  frameIdx : ℤ
  overall : UInt64
  flow : UInt64
  chara0 : UInt64
  chara1 : UInt64
  fromPlayer : Bool
  /-- The match that it was captured in, for reference. -/
  capturedIn : ℕ
deriving DecidableEq, Repr

/-- The messages that verify a battle. -/
inductive Message
  /-- `MT_BATTLE_SNAPSHOT`. -/
  | snapshot (m : StateSnapshot)
  /-- `MT_BATTLE_HASH`. -/
  | hash (m : BattleHashV2)
deriving DecidableEq, Repr

/-- An entry of `snapshotMap`: the snapshot and its `StateSnapshotMeta`. -/
structure LocalSnapshot where
  snapshot : StateSnapshot
  sent : Bool
  confirmed : Bool
deriving DecidableEq, Repr

/-- `snapshotMap`. -/
abbrev SnapshotMap := OrderedMap fun l : LocalSnapshot => l.snapshot.frameIdx

/-- `pendingRemoteSnapshots`. -/
abbrev PendingSnapshots := OrderedMap StateSnapshot.frameIdx

/-- `pendingRemoteHashes`. -/
abbrev PendingHashes := OrderedMap BattleHashV2.frameIdx

/-- A frame that the engine has simulated. -/
structure Frame (I : Type) where
  /-- The inputs of the two players that it was simulated with. -/
  input : I
  /-- What `ComputeSemanticHashes` returns after it. -/
  hashes : SemanticHashes
  /-- What `CaptureSnapshot` reads of the two characters after it. -/
  chara : List UInt8
deriving DecidableEq, Repr

/-- A client. -/
structure Client (I : Type) where
  /-- The frames of the battle, newest first. -/
  timeline : List (Frame I)
  /-- The match of the battle, for reference. -/
  battle : ℕ
  /-- The match that was last started from the lobby, for reference. -/
  startedMatch : ℕ
  snapshotMap : SnapshotMap
  hashCheckpoints : Ring
  /-- The match that each frame number was last captured in, for reference. -/
  checkpointMatch : ℤ → ℕ
  pendingRemoteSnapshots : PendingSnapshots
  pendingRemoteHashes : PendingHashes
  /-- The ready state is `RS_ISLEAVING`, which ends the battle. -/
  leaving : Bool

/-- A checkpoint and the remote hash that it was compared with. -/
structure HashComparison where
  checkpoint : HashCheckpoint
  /-- The match that the checkpoint was captured in, for reference. -/
  checkpointMatch : ℕ
  remote : BattleHashV2
deriving DecidableEq

/-- A remote snapshot and the local one that it was compared with. -/
structure SnapshotComparison where
  remote : StateSnapshot
  localSnapshot : StateSnapshot
deriving DecidableEq

/-- What a step puts out. -/
structure Out where
  /-- The messages that `Send` has accepted. -/
  sent : List Message := []
  hashComparisons : List HashComparison := []
  snapshotComparisons : List SnapshotComparison := []
  /-- The remote hashes that were taken out of the map without a comparison. -/
  displaced : List BattleHashV2 := []
deriving DecidableEq

/-- One output after another. -/
def Out.append (o o' : Out) : Out where
  sent := o.sent ++ o'.sent
  hashComparisons := o.hashComparisons ++ o'.hashComparisons
  snapshotComparisons := o.snapshotComparisons ++ o'.snapshotComparisons
  displaced := o.displaced ++ o'.displaced

/-! ## Comparing -/

/-- `memcmp` of the two snapshots is not zero. -/
def SnapshotComparison.Differs (c : SnapshotComparison) : Prop :=
  c.remote.frameIdx ≠ c.localSnapshot.frameIdx ∨ c.remote.chara ≠ c.localSnapshot.chara

instance (c : SnapshotComparison) : Decidable c.Differs := inferInstanceAs (Decidable (_ ∨ _))

/-- `ReportHashMismatch` reports a mismatch. -/
def HashComparison.Mismatch (c : HashComparison) : Prop :=
  c.checkpoint.hashes.overall ≠ c.remote.overall

instance (c : HashComparison) : Decidable c.Mismatch := inferInstanceAs (Decidable (_ ≠ _))

/-! ## Simulating and capturing -/

variable {I : Type}

namespace Client

/-- `GetNumFramesSimulated_FixedPoint`. -/
def numFramesSimulated (c : Client I) : FixedPoint := ⟨0, Int16.ofNat c.timeline.length⟩

/-- The integral part of the number of frames. -/
def frameIdx (c : Client I) : ℤ := c.numFramesSimulated.integral.toInt

/-- The engine's `BattleUpdate`. -/
def simulate (c : Client I) (frame : Frame I) : Client I :=
  { c with timeline := frame :: c.timeline }

/-- `CaptureSnapshot`, in the state after the frame. -/
def captureSnapshot (c : Client I) (frame : Frame I) : Client I :=
  if c.frameIdx.tmod 60 ≠ 0 then c
  else
    { c with
      snapshotMap := (c.snapshotMap.erase c.frameIdx).emplace
        ⟨⟨c.frameIdx, frame.chara, c.battle⟩, false, false⟩ }

/-- `CaptureHashCheckpoint`, in the state after the frame. -/
def captureCheckpoint (c : Client I) (frame : Frame I) : Option (Client I) :=
  (captureHashCheckpoint c.hashCheckpoints c.numFramesSimulated frame.hashes).map fun ring =>
    { c with
      hashCheckpoints := ring
      checkpointMatch := Function.update c.checkpointMatch c.frameIdx c.battle }

/-- `CaptureSnapshot` and `CaptureHashCheckpoint`, which read the state after the newest
frame. -/
def capture (c : Client I) : Option (Client I) :=
  match c.timeline with
  | [] => some c
  | frame :: _ => (c.captureSnapshot frame).captureCheckpoint frame

/-- `ggpo_advance_frame_callback`, once for each frame, oldest first. -/
def resimulate (c : Client I) : List (Frame I) → Option (Client I)
  | [] => some c
  | frame :: resim => (c.simulate frame).capture.bind fun c => c.resimulate resim

/-- The number of frames that GGPO predicts at most. -/
def maxPredictionFrames : ℕ := 8

/-- GGPO loads an earlier state and simulates as many frames again. -/
def rollback (c : Client I) (resim : List (Frame I)) : Option (Client I) :=
  if resim.length ≤ maxPredictionFrames ∧ resim.length ≤ c.timeline.length then
    { c with timeline := c.timeline.drop resim.length }.resimulate resim
  else none

/-- `BattleUpdate` with a GGPO session: the frame is simulated, `ggpo_advance_frame` may roll
back, and the newest frame is captured. -/
def battleUpdate (c : Client I) (frame : Frame I) (resim : List (Frame I)) :
    Option (Client I) :=
  ((c.simulate frame).rollback resim).bind capture

/-! ## Receiving -/

/-- `MT_BATTLE_SNAPSHOT` is received. -/
def onSnapshot (c : Client I) (remote : StateSnapshot) : Out × Client I :=
  match c.snapshotMap.find? remote.frameIdx with
  | some l =>
    let comparison : SnapshotComparison := ⟨remote, l.snapshot⟩
    ({ snapshotComparisons := [comparison] },
      { c with
        leaving := c.leaving || comparison.Differs
        snapshotMap :=
          if l.sent then c.snapshotMap.erase remote.frameIdx
          else c.snapshotMap.insert { l with confirmed := true } })
  | none => ({}, { c with pendingRemoteSnapshots := c.pendingRemoteSnapshots.emplace remote })

/-- `MAX_PENDING_REMOTE_HASHES`. -/
def maxPendingRemoteHashes : ℕ := 64

/-- The hash with the smallest frame number makes room when the map is full. -/
def makeRoom (pending : PendingHashes) : List BattleHashV2 × PendingHashes :=
  if maxPendingRemoteHashes ≤ pending.size then
    (pending.entries.head?.toList, pending.eraseBegin)
  else ([], pending)

/-- `MT_BATTLE_HASH` is received. -/
def onHash (c : Client I) (remote : BattleHashV2) : Out × Client I :=
  let room := makeRoom c.pendingRemoteHashes
  ({ displaced := room.1 ++ (room.2.find? remote.frameIdx).toList },
    { c with pendingRemoteHashes := room.2.insert remote })

/-- A message is received. -/
def onMessage (c : Client I) : Message → Out × Client I
  | .snapshot m => c.onSnapshot m
  | .hash m => c.onHash m

end Client

/-! ## Exchanging -/

/-- What the end of a `SessionClient::Step` depends on beside the tables. -/
structure Poll where
  /-- `_snapshotsEnabled`. -/
  snapshotsEnabled : Bool := true
  /-- `IsLocalPlayer`. -/
  isPlayer : Bool := true
  /-- `StrictDesyncEnabled`. -/
  strict : Bool := false
  /-- Does `Send` return `k_EResultOK` for the message? -/
  sendOk : Message → Bool := fun _ => true

/-- The number of frames after which a snapshot is exchanged. -/
def snapshotAgeFrames : ℤ := 60

/-- `HASH_CHECKPOINT_AGE_FRAMES`. -/
def hashCheckpointAgeFrames : ℤ := 30

/-- What becomes of a local snapshot, `none` when it is erased.  It is sent and looked up once
it is old enough, and then erased if it is confirmed. -/
def reconcileSnapshot (pending : PendingSnapshots) (mostRecentPredictiveFrame : ℤ)
    (l : LocalSnapshot) : Option LocalSnapshot :=
  if mostRecentPredictiveFrame - l.snapshot.frameIdx < snapshotAgeFrames then some l
  else if l.confirmed || (pending.find? l.snapshot.frameIdx).isSome then none
  else some { l with sent := true }

/-- The comparison of a local snapshot with the one that waits for it. -/
def compareSnapshot (pending : PendingSnapshots) (mostRecentPredictiveFrame : ℤ)
    (l : LocalSnapshot) : Option SnapshotComparison :=
  if mostRecentPredictiveFrame - l.snapshot.frameIdx < snapshotAgeFrames ∨ l.confirmed then none
  else (pending.find? l.snapshot.frameIdx).map fun remote => ⟨remote, l.snapshot⟩

lemma frameIdx_reconcileSnapshot (pending : PendingSnapshots) (f : ℤ) (l l' : LocalSnapshot)
    (h : reconcileSnapshot pending f l = some l') :
    l'.snapshot.frameIdx = l.snapshot.frameIdx := by
  simp only [reconcileSnapshot] at h
  split_ifs at h
  all_goals
    obtain rfl := Option.some.inj h
    rfl

namespace Client

/-- The outstanding snapshots are sent and compared. -/
def exchangeSnapshots (c : Client I) (poll : Poll) (mostRecentPredictiveFrame : ℤ) :
    Out × Client I :=
  let due := c.snapshotMap.entries.filter fun l =>
    snapshotAgeFrames ≤ mostRecentPredictiveFrame - l.snapshot.frameIdx ∧ l.sent = false
  let comparisons := c.snapshotMap.entries.filterMap
    (compareSnapshot c.pendingRemoteSnapshots mostRecentPredictiveFrame)
  ({ sent := (due.map fun l => Message.snapshot l.snapshot).filter poll.sendOk
     snapshotComparisons := comparisons },
    { c with
      leaving := c.leaving || comparisons.any fun comparison => decide comparison.Differs
      snapshotMap := c.snapshotMap.update
        (reconcileSnapshot c.pendingRemoteSnapshots mostRecentPredictiveFrame)
        (frameIdx_reconcileSnapshot _ _) })

/-- The message about a checkpoint. -/
def hashMessage (c : Client I) (cp : HashCheckpoint) : BattleHashV2 where
  frameIdx := cp.frameIdx
  overall := cp.hashes.overall
  flow := cp.hashes.flow
  chara0 := cp.hashes.chara.1
  chara1 := cp.hashes.chara.2
  fromPlayer := true
  capturedIn := c.checkpointMatch cp.frameIdx

/-- `ReportHashMismatch` sets the ready state to `RS_ISLEAVING`. -/
def terminates (poll : Poll) (comparison : HashComparison) : Bool :=
  comparison.Mismatch && poll.strict && comparison.remote.fromPlayer && poll.isPlayer

/-- `cp.sent = true` for the checkpoint in the slot. -/
def markSent (c : Client I) (i : Fin numHashCheckpoints) : Client I :=
  { c with
    hashCheckpoints := Function.update c.hashCheckpoints i
      { c.hashCheckpoints i with sent := true } }

/-- A player sends the checkpoint of the slot, if it has not been sent. -/
def sendHash (c : Client I) (poll : Poll) (i : Fin numHashCheckpoints) : Out × Client I :=
  let cp := c.hashCheckpoints i
  let message := Message.hash (c.hashMessage cp)
  if cp.sent = false ∧ poll.isPlayer = true ∧ poll.sendOk message = true then
    ({ sent := [message] }, c.markSent i)
  else ({}, c)

/-- The checkpoint of the slot is compared with the hash that waits for it. -/
def reconcileHash (c : Client I) (poll : Poll) (i : Fin numHashCheckpoints) :
    Out × Client I :=
  let cp := c.hashCheckpoints i
  match c.pendingRemoteHashes.find? cp.frameIdx with
  | none => ({}, c)
  | some remote =>
    let comparison : HashComparison := ⟨cp, c.checkpointMatch cp.frameIdx, remote⟩
    ({ hashComparisons := [comparison] },
      { c with
        leaving := c.leaving || terminates poll comparison
        pendingRemoteHashes := c.pendingRemoteHashes.erase cp.frameIdx })

/-- The checkpoint of the slot is in use and old enough to be exchanged. -/
def Due (c : Client I) (mostRecentPredictiveFrame : ℤ) (i : Fin numHashCheckpoints) : Prop :=
  (c.hashCheckpoints i).valid = true ∧
    hashCheckpointAgeFrames ≤ mostRecentPredictiveFrame - (c.hashCheckpoints i).frameIdx

instance (c : Client I) (f : ℤ) (i : Fin numHashCheckpoints) : Decidable (c.Due f i) :=
  inferInstanceAs (Decidable (_ ∧ _))

/-- The turn of one slot in the exchange of hashes. -/
def exchangeHash (c : Client I) (poll : Poll) (mostRecentPredictiveFrame : ℤ)
    (i : Fin numHashCheckpoints) : Out × Client I :=
  if c.Due mostRecentPredictiveFrame i then
    let sending := c.sendHash poll i
    let reconciling := sending.2.reconcileHash poll i
    (sending.1.append reconciling.1, reconciling.2)
  else ({}, c)

/-- The slots have their turns one after the other. -/
def exchangeHashes (c : Client I) (poll : Poll) (mostRecentPredictiveFrame : ℤ) :
    List (Fin numHashCheckpoints) → Out × Client I
  | [] => ({}, c)
  | i :: slots =>
    let first := c.exchangeHash poll mostRecentPredictiveFrame i
    let rest := first.2.exchangeHashes poll mostRecentPredictiveFrame slots
    (first.1.append rest.1, rest.2)

/-- The end of `SessionClient::Step`, after the messages. -/
def pass (c : Client I) (poll : Poll) : Out × Client I :=
  if poll.snapshotsEnabled then
    let snapshots := c.exchangeSnapshots poll c.frameIdx
    let hashes :=
      snapshots.2.exchangeHashes poll c.frameIdx (List.finRange numHashCheckpoints)
    (snapshots.1.append hashes.1, hashes.2)
  else ({}, c)

/-! ## Matches -/

/-- `ClearBattleState`. -/
def clearBattleState (c : Client I) : Out × Client I :=
  ({ displaced := c.pendingRemoteHashes.entries },
    { c with
      snapshotMap := .empty
      hashCheckpoints := clearHashCheckpoints
      pendingRemoteSnapshots := .empty
      pendingRemoteHashes := .empty })

/-- `StartMatchFromLobby`, which clears the tables first. -/
def startMatch (c : Client I) (k : ℕ) : Out × Client I :=
  ((c.clearBattleState).1, { (c.clearBattleState).2 with startedMatch := k })

/-- The battle of the started match begins, with frame zero. -/
def startBattle (c : Client I) : Client I :=
  { c with timeline := [], battle := c.startedMatch }

end Client

/-! ## Runs -/

/-- What happens to a client. -/
inductive Action (I : Type)
  /-- A frame is accepted, after a rollback of as many frames as are simulated again. -/
  | battleUpdate (frame : Frame I) (resim : List (Frame I))
  /-- The engine simulates a frame without GGPO. -/
  | engineUpdate (frame : Frame I)
  /-- GGPO rolls back while it is idle. -/
  | idle (resim : List (Frame I))
  /-- `SessionClient::Step` takes a message. -/
  | receive (m : Message)
  /-- `SessionClient::Step` comes to its end. -/
  | pass (poll : Poll)
  /-- The battle ends or is aborted. -/
  | clearBattleState
  /-- `StartMatchFromLobby`, for the start with this number. -/
  | startMatch (k : ℕ)
  /-- The battle begins. -/
  | startBattle

/-- One step of a client; `none` when it cannot be taken. -/
def next (c : Client I) : Action I → Option (Out × Client I)
  | .battleUpdate frame resim => (c.battleUpdate frame resim).map fun c => ({}, c)
  | .engineUpdate frame => some ({}, c.simulate frame)
  | .idle resim => (c.rollback resim).map fun c => ({}, c)
  | .receive m => some (c.onMessage m)
  | .pass poll => some (c.pass poll)
  | .clearBattleState => some c.clearBattleState
  | .startMatch k => some (c.startMatch k)
  | .startBattle => some ({}, c.startBattle)

/-- A client at the beginning of a match: nothing is simulated and the tables are empty. -/
def Client.start (k : ℕ) : Client I where
  timeline := []
  battle := k
  startedMatch := k
  snapshotMap := .empty
  hashCheckpoints := clearHashCheckpoints
  checkpointMatch := fun _ => 0
  pendingRemoteSnapshots := .empty
  pendingRemoteHashes := .empty
  leaving := false

/-- The runs of a client, from the beginning of a match. -/
def clientLTS (I : Type) : LTS (Client I) (Action I) Out :=
  .ofFun (fun c => ∃ k, c = Client.start k) next

/-- One step of a client's run. -/
abbrev ClientEntry (I : Type) := Entry (Client I) (Action I) Out

end Desync
end Sf4e
