/-
# The session protocol

The data of `sf4e__SessionProtocol`: connection ids, lobby and match data, the message
types with their names on the wire, and the requests a server deserialises.

A received message is looked at twice by the server: once for its `type`, and once as the
request struct that this type announces.  `Document` keeps exactly these views of a parsed
message, so that every error path of `SessionServer::Step` (no `type`, a `type` that is no
known name, a request that does not deserialise) is an ordinary value.
-/
import Mathlib.Data.Fintype.Basic
import Mathlib.Data.Fintype.Pi
import Mathlib.Data.Int.Basic
import Mathlib.Logic.Function.Basic

namespace Sf4e
namespace SessionProtocol

/-- `MAX_SF4E_PROTOCOL_USERS`. -/
def maxSf4eProtocolUsers : ℕ := 4

/-- `HSteamNetConnection`: the handle of a connection. -/
abbrev HSteamNetConnection := UInt32

/-- `Dimps::Math::FixedPoint`. -/
structure FixedPoint where
  /-- The fractional part. -/
  fractional : UInt16
  /-- The integral part, a signed 16-bit number. -/
  integral : Int16
deriving DecidableEq, Repr

/-- `ConnectionID`: an ephemeral address, a user on a host. -/
structure ConnectionID where
  /-- The identity of the server that manages the connection. -/
  host : String
  /-- The connection on that server. -/
  user : String
deriving DecidableEq, Repr

/-- `LobbyID`. -/
structure LobbyID where
  /-- The identity of the server that keeps the lobby. -/
  host : String
  /-- The lobby on that server. -/
  key : String
deriving DecidableEq, Repr

/-- `LobbyID::NULL_LOBBY_ID`. -/
def LobbyID.nullLobbyId : LobbyID := ⟨"", ""⟩

/-- `MF_BATTLE_LOADED`, the one member flag. -/
def mfBattleLoaded : UInt64 := 1

/-- `MemberData`. -/
structure MemberData where
  /-- The connection id the server assigned. -/
  connId : ConnectionID
  /-- The display name. -/
  name : String
  /-- The address the client connected from; empty for the server's own machine. -/
  ip : String
  /-- The port the client announced. -/
  port : UInt16
  /-- The member flags; they are not part of the JSON form. -/
  flags : UInt64
deriving DecidableEq, Repr

/-- Has the member reported that the battle is loaded? -/
def MemberData.battleLoaded (m : MemberData) : Bool := m.flags &&& mfBattleLoaded != 0

/-- The member as a peer reads it back from JSON: `flags` stays behind. -/
def MemberData.received (m : MemberData) : MemberData := { m with flags := 0 }

/-- `LobbyData`. -/
structure LobbyData where
  /-- The lobby. -/
  id : LobbyID
  /-- Are edition selects allowed? -/
  editionSelect : Bool
  /-- The number of rounds. -/
  roundCount : Int32
  /-- The time limit of a round. -/
  roundTime : FixedPoint
  /-- Is this a training lobby? -/
  trainingMode : Bool
  /-- The members in lobby order: the first two are the players. -/
  members : List MemberData
deriving DecidableEq, Repr

/-- `LobbyData::NULL_LOBBY`. -/
def LobbyData.nullLobby : LobbyData := ⟨LobbyID.nullLobbyId, false, 0, ⟨0, 0⟩, false, []⟩

/-- `VsMode::ConfirmedCharaConditions`: one side's character selection, nine bytes. -/
structure ConfirmedCharaConditions where
  charaID : UInt8
  costume : UInt8
  color : UInt8
  unused : UInt8
  personalAction : UInt8
  winQuote : UInt8
  ultraCombo : UInt8
  handicap : UInt8
  uncEdition : UInt8
deriving DecidableEq, Repr

/-- The nine zero bytes that `memset` writes. -/
def ConfirmedCharaConditions.zero : ConfirmedCharaConditions := ⟨0, 0, 0, 0, 0, 0, 0, 0, 0⟩

/-- One of the two playing sides; also the index of the lobby slot that plays it. -/
abbrev Side := Fin 2

/-- The numerals of `Side` use this instance. -/
instance neZero_two : @NeZero ℕ Zero.ofOfNat0 2 := ⟨by decide⟩

/-- One value per side. -/
def bySide {β : Type*} (a b : β) (i : Side) : β := if i = 0 then a else b

@[simp] lemma bySide_zero {β : Type*} (a b : β) : bySide a b 0 = a := rfl

@[simp] lemma bySide_one {β : Type*} (a b : β) : bySide a b 1 = b := rfl

/-- `MatchData`. -/
structure MatchData where
  /-- Per side, the number of the message that made it ready, or `-1`. -/
  readyMessageNum : Side → ℤ
  /-- Per side, the character selection. -/
  chara : Side → ConfirmedCharaConditions
  /-- The stage index, or `-1`. -/
  stageID : ℤ
  /-- The seed of the battle's random numbers. -/
  rngSeed : UInt32
deriving DecidableEq

namespace MatchData

/-- The ready numbers of a match nobody is ready for. -/
def noneReady : Side → ℤ := fun _ => -1

/-- `MatchData::Clear`, which is also what the constructor leaves behind. -/
def clear : MatchData :=
  { readyMessageNum := noneReady
    chara := fun _ => .zero
    stageID := -1
    rngSeed := 0xffffffff }

/-- `MatchData::ClearReady`. -/
def clearReady (m : MatchData) : MatchData := { m with readyMessageNum := noneReady }

/-- `MatchData::IsAllReady`. -/
def isAllReady (m : MatchData) : Bool :=
  m.readyMessageNum 0 != -1 && m.readyMessageNum 1 != -1

lemma isAllReady_iff {m : MatchData} :
    m.isAllReady = true ↔ ∀ i, m.readyMessageNum i ≠ -1 := by
  simp [isAllReady, Fin.forall_fin_two]

@[simp] lemma clear_readyMessageNum : clear.readyMessageNum = noneReady := rfl

@[simp] lemma clearReady_readyMessageNum (m : MatchData) :
    m.clearReady.readyMessageNum = noneReady := rfl

@[simp] lemma noneReady_apply (i : Side) : noneReady i = -1 := rfl

end MatchData

/-! ## Message types -/

/-- `MessageType`. -/
inductive MessageType
  | sessionHello | sessionHelloResp
  | sessionDataUpdate | sessionJoinReq | sessionJoinRej
  | lobbyReady | lobbyAllReady | lobbyReportResults | lobbyReset | lobbySetSettings
  | preBattleSetEnv | preBattleSetChara | preBattleSetStage
  | battleLoaded | battleSynced | battleSnapshot | battleHash | battleGgpoFrame
  | punchReady | punchGo
  | forward
deriving DecidableEq, Repr

/-- The table of `NLOHMANN_JSON_SERIALIZE_ENUM(MessageType, ...)`, in its order. -/
def messageTypeNames : List (MessageType × String) :=
  [(.sessionHello, "hello"), (.sessionHelloResp, "hello_resp"),
   (.sessionDataUpdate, "data_update"), (.sessionJoinRej, "join_rej"),
   (.sessionJoinReq, "join_req"),
   (.lobbyReady, "lobby_ready"), (.lobbyAllReady, "lobby_allready"),
   (.lobbyReportResults, "lobby_reportresults"), (.lobbyReset, "lobby_reset"),
   (.lobbySetSettings, "lobby_setsettings"),
   (.preBattleSetEnv, "prebattle_setenv"), (.preBattleSetChara, "prebattle_setchara"),
   (.preBattleSetStage, "prebattle_setstage"),
   (.battleLoaded, "battle_loaded"), (.battleSynced, "battle_synced"),
   (.battleSnapshot, "battle_snapshot"), (.battleHash, "battle_hash"),
   (.battleGgpoFrame, "battle_ggpo_frame"),
   (.punchReady, "punch_ready"), (.punchGo, "punch_go"),
   (.forward, "forward")]

/-- The JSON value under the key `type`. -/
inductive TypeField
  /-- A string. -/
  | name (s : String)
  /-- Any other JSON value. -/
  | other
deriving DecidableEq, Repr

/-- `from_json` of the enumeration: a value that is not in the table, string or not, is
read as the table's first entry, without an exception. -/
def MessageType.fromJson : TypeField → MessageType
  | .other => .sessionHello
  | .name s =>
    match messageTypeNames.find? fun p => p.2 == s with
    | some p => p.1
    | none => .sessionHello

/-- `to_json` of the enumeration. -/
def MessageType.toJson (t : MessageType) : TypeField :=
  match messageTypeNames.find? fun p => p.1 == t with
  | some p => .name p.2
  | none => .name "hello"

/-- Every message type survives its own encoding. -/
@[simp] lemma MessageType.fromJson_toJson (t : MessageType) : fromJson t.toJson = t := by
  cases t <;> decide

/-- `JoinResult`. -/
inductive JoinResult
  | joinOk | requestInvalid | lobbyFull | nameTaken | hashInvalid
deriving DecidableEq, Repr

/-! ## Requests -/

/-- `SessionJoinRequest`. -/
structure SessionJoinRequest where
  sidecarHash : String
  username : String
  port : UInt16
deriving DecidableEq, Repr

/-- `LobbyReportResults`. -/
structure LobbyReportResults where
  loserSide : Int32
deriving DecidableEq, Repr

/-- `LobbySetSettings`, with the defaults that stand in for missing keys. -/
structure LobbySetSettings where
  editionSelect : Bool := true
  roundCount : Int32 := 3
  roundTime : FixedPoint := ⟨0, 99⟩
  trainingMode : Bool := false
deriving DecidableEq, Repr

/-- `PreBattleSetEnv`. -/
structure PreBattleSetEnv where
  rngSeed : UInt32
deriving DecidableEq, Repr

/-- `PreBattleSetChara`. -/
structure PreBattleSetChara where
  chara : ConfirmedCharaConditions
deriving DecidableEq, Repr

/-- `PreBattleSetStage`. -/
structure PreBattleSetStage where
  stageID : Int32
deriving DecidableEq, Repr

/-- `BattleGgpoFrame`. -/
structure BattleGgpoFrame where
  src : ConnectionID
  dest : ConnectionID
  data : List UInt8
deriving DecidableEq, Repr

/-- `ForwardMessage`; the inner JSON value is only passed on, and kept as its text. -/
structure ForwardMessage where
  src : ConnectionID
  dest : ConnectionID
  msg : String
deriving DecidableEq, Repr

/-- A parsed message as the server looks at it.  Each field but the first is what
`msg.get_to` makes of the message for one request type; `none` is a thrown
`json::exception`. -/
structure Document where
  /-- The value under `type`; `none` when there is no such key. -/
  type : Option TypeField
  /-- The message as a `ForwardMessage`. -/
  forward : Option ForwardMessage := none
  /-- The message as a `SessionJoinRequest`. -/
  joinRequest : Option SessionJoinRequest := none
  /-- The message as a `PreBattleSetChara`. -/
  setChara : Option PreBattleSetChara := none
  /-- The message as a `PreBattleSetEnv`. -/
  setEnv : Option PreBattleSetEnv := none
  /-- The message as a `PreBattleSetStage`. -/
  setStage : Option PreBattleSetStage := none
  /-- The message as a `LobbySetSettings`. -/
  setSettings : Option LobbySetSettings := none
  /-- The message as a `LobbyReportResults`. -/
  reportResults : Option LobbyReportResults := none
  /-- The message as a `BattleGgpoFrame`. -/
  ggpoFrame : Option BattleGgpoFrame := none
  /-- The bytes the message was parsed from. -/
  text : List UInt8 := []
deriving DecidableEq, Repr

namespace Document

/-- A message that has nothing but a type, such as `LobbyReady` or `LobbyReset`. -/
def bare (t : MessageType) : Document := { type := some t.toJson }

@[simp] lemma bare_type (t : MessageType) : (bare t).type = some t.toJson := rfl

end Document

/-! ## What a server sends -/

/-- A message from the server. -/
inductive ServerMessage
  /-- `SessionHelloResp`. -/
  | helloResp (cid : ConnectionID)
  /-- `SessionDataUpdate`. -/
  | dataUpdate (lobbyData : LobbyData) (matchData : MatchData)
  /-- `SessionJoinReject`. -/
  | joinReject (result : JoinResult)
  /-- `LobbyAllReady`. -/
  | lobbyAllReady
  /-- `BattleSynced`. -/
  | battleSynced
  /-- `PunchGo`. -/
  | punchGo
  /-- A member's message, passed on as it was received. -/
  | relayed (msg : Document)
deriving DecidableEq

end SessionProtocol
end Sf4e
