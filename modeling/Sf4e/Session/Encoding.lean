/-
# The session protocol on the wire

Every message of the protocol is a JSON object that is made from a structure, member by member,
and read into the same structure at the other end.  This file has the conversions as they follow
from the lists of members in `sf4e__SessionProtocol.hxx`, and shows that the two ends understand
each other: the server handles a client's request as it was meant (`onMessage_ofJson`), and a
client reads what the server told it (`heard_of_covers`), also when a later version has added
members.  Settings of an older version are completed by their defaults
(`setSettings_of_older`).

Not here are the snapshots of a battle, whose positions are floats, and forwarded messages, which
nothing but a test sends.
-/
import Sf4e.Desync.Tables
import Sf4e.Session.Link
import Sf4e.Wire.Schema

namespace Sf4e
namespace SessionProtocol

open Wire

/-! ## Data -/

/-- `{fractional, integral}` -/
def FixedPoint.codec : Codec FixedPoint :=
  .record (.cons "fractional" .uint16 <| .cons "integral" .int16 .nil) (by decide)
    (fun p => (p.fractional, p.integral, ())) (fun t => ⟨t.1, t.2.1⟩)

/-- `{host, user}` -/
def ConnectionID.codec : Codec ConnectionID :=
  .record (.cons "host" .string <| .cons "user" .string .nil) (by decide)
    (fun c => (c.host, c.user, ())) (fun t => ⟨t.1, t.2.1⟩)

/-- `{host, key}` -/
def LobbyID.codec : Codec LobbyID :=
  .record (.cons "host" .string <| .cons "key" .string .nil) (by decide)
    (fun l => (l.host, l.key, ())) (fun t => ⟨t.1, t.2.1⟩)

/-- `{connId, name, ip, port}`: the flags are not among the members. -/
def MemberData.codec : Codec MemberData :=
  .record (.cons "connId" ConnectionID.codec <| .cons "name" .string <| .cons "ip" .string <|
      .cons "port" .uint16 .nil) (by decide)
    (fun m => (m.connId, m.name, m.ip, m.port, ()))
    (fun t => ⟨t.1, t.2.1, t.2.2.1, t.2.2.2.1, 0⟩)

/-- A `LobbyData` as it is constructed. -/
def LobbyData.default : LobbyData := ⟨⟨"", ""⟩, true, 3, ⟨0, 99⟩, false, []⟩

/-- `{id, editionSelect, roundCount, roundTime, trainingMode, members}`, with defaults. -/
def LobbyData.codec : Codec LobbyData :=
  .recordWithDefault (.cons "id" LobbyID.codec <| .cons "editionSelect" .flag <|
      .cons "roundCount" .int32 <| .cons "roundTime" FixedPoint.codec <|
      .cons "trainingMode" .flag <| .cons "members" (.vector MemberData.codec) .nil) (by decide)
    (fun l => (l.id, l.editionSelect, l.roundCount, l.roundTime, l.trainingMode, l.members, ()))
    (fun t => ⟨t.1, t.2.1, t.2.2.1, t.2.2.2.1, t.2.2.2.2.1, t.2.2.2.2.2.1⟩) .default

/-- The nine bytes of a selection, each under its name. -/
def ConfirmedCharaConditions.codec : Codec ConfirmedCharaConditions :=
  .record (.cons "charaID" .uint8 <| .cons "costume" .uint8 <| .cons "color" .uint8 <|
      .cons "_unused" .uint8 <| .cons "personalAction" .uint8 <| .cons "winQuote" .uint8 <|
      .cons "ultraCombo" .uint8 <| .cons "handicap" .uint8 <| .cons "unc_edition" .uint8 .nil)
    (by decide)
    (fun c => (c.charaID, c.costume, c.color, c.unused, c.personalAction, c.winQuote,
      c.ultraCombo, c.handicap, c.uncEdition, ()))
    (fun t => ⟨t.1, t.2.1, t.2.2.1, t.2.2.2.1, t.2.2.2.2.1, t.2.2.2.2.2.1, t.2.2.2.2.2.2.1,
      t.2.2.2.2.2.2.2.1, t.2.2.2.2.2.2.2.2.1⟩)

/-- `{readyMessageNum, chara, stageID, rngSeed}` -/
def MatchData.codec : Codec MatchData :=
  .record (.cons "readyMessageNum" (.array 2 .int64) <|
      .cons "chara" (.array 2 ConfirmedCharaConditions.codec) <| .cons "stageID" .int64 <|
      .cons "rngSeed" .uint32 .nil) (by decide)
    (fun d => (d.readyMessageNum, d.chara, d.stageID, d.rngSeed, ()))
    (fun t => ⟨t.1, t.2.1, t.2.2.1, t.2.2.2.1⟩)

lemma LobbyData.fits (l : LobbyData) : LobbyData.codec.Fits l := by
  refine ⟨?_, trivial, trivial, ?_, trivial, ?_, trivial⟩
  · exact ⟨trivial, trivial, trivial⟩
  · exact ⟨trivial, trivial, trivial⟩
  · exact fun _ _ => ⟨⟨trivial, trivial, trivial⟩, trivial, trivial, trivial, trivial⟩

/-- The flags of the members stay behind, nothing else does. -/
lemma LobbyData.seen (l : LobbyData) :
    LobbyData.codec.seen l = { l with members := l.members.map MemberData.received } := rfl

lemma ConfirmedCharaConditions.fits (c : ConfirmedCharaConditions) :
    ConfirmedCharaConditions.codec.Fits c :=
  ⟨trivial, trivial, trivial, trivial, trivial, trivial, trivial, trivial, trivial, trivial⟩

/-- The numbers of match data fit in 64 bits. -/
structure MatchData.Fits (d : MatchData) : Prop where
  /-- The ready numbers. -/
  ready : ∀ i, -2 ^ 63 ≤ d.readyMessageNum i ∧ d.readyMessageNum i < 2 ^ 63
  /-- The stage. -/
  stage : -2 ^ 63 ≤ d.stageID ∧ d.stageID < 2 ^ 63

lemma MatchData.Fits.codec {d : MatchData} (h : d.Fits) : MatchData.codec.Fits d :=
  ⟨h.ready, fun i => (d.chara i).fits, h.stage, trivial, trivial⟩

/-! ## Names -/

/-- The name of a message type. -/
def MessageType.wireName (t : MessageType) : String :=
  match t.toJson with
  | .name s => s
  | .other => ""

/-- The type with a name; any other value is read as the first type. -/
def MessageType.ofName : Option String → MessageType
  | some s => fromJson (.name s)
  | none => fromJson .other

lemma MessageType.fromJson_wireName (t : MessageType) : fromJson (.name t.wireName) = t := by
  cases t <;> decide

/-- A message type. -/
def MessageType.codec : Codec MessageType := .enum wireName ofName fromJson_wireName

/-- The name of a join result. -/
def JoinResult.wireName : JoinResult → String
  | joinOk => "ok"
  | requestInvalid => "request_invalid"
  | lobbyFull => "lobby_full"
  | nameTaken => "name_taken"
  | hashInvalid => "hash_invalid"

/-- The result with a name; any other value is read as the first result. -/
def JoinResult.ofName (name : Option String) : JoinResult :=
  ([joinOk, requestInvalid, lobbyFull, nameTaken, hashInvalid].find? fun r =>
    some r.wireName == name).getD joinOk

lemma JoinResult.ofName_wireName (r : JoinResult) : ofName (some r.wireName) = r := by
  cases r <;> decide

/-- A join result. -/
def JoinResult.codec : Codec JoinResult := .enum wireName ofName ofName_wireName

/-! ## Messages -/

section Messages

variable {α : Type} {βs : List Type}

/-- A message: its type, and the members of its structure. -/
def message (t : MessageType) (F : Fields βs) (hkeys : ("type" :: F.keys).Nodup)
    (parts : α → Tuple βs) (of : Tuple βs → α) : Codec α :=
  .record (.cons "type" MessageType.codec F) hkeys (fun a => (t, parts a)) (fun x => of x.2)

/-- A message that has nothing but its type. -/
def bareMessage (t : MessageType) : Codec Unit :=
  message t .nil (by decide) (fun _ => ()) (fun _ => ())

/-- `SessionHelloResp` -/
def sessionHelloResp : Codec ConnectionID :=
  message .sessionHelloResp (.cons "cid" ConnectionID.codec .nil) (by decide) (fun c => (c, ()))
    (fun t => t.1)

/-- `SessionDataUpdate` -/
def sessionDataUpdate : Codec (LobbyData × MatchData) :=
  message .sessionDataUpdate
    (.cons "lobbyData" LobbyData.codec <| .cons "matchData" MatchData.codec .nil) (by decide)
    (fun u => (u.1, u.2, ())) (fun t => (t.1, t.2.1))

/-- `SessionJoinReject` -/
def sessionJoinReject : Codec JoinResult :=
  message .sessionJoinRej (.cons "result" JoinResult.codec .nil) (by decide) (fun r => (r, ()))
    (fun t => t.1)

/-- `SessionJoinRequest` -/
def SessionJoinRequest.codec : Codec SessionJoinRequest :=
  message .sessionJoinReq
    (.cons "sidecarHash" .string <| .cons "username" .string <| .cons "port" .uint16 .nil)
    (by decide) (fun r => (r.sidecarHash, r.username, r.port, ()))
    (fun t => ⟨t.1, t.2.1, t.2.2.1⟩)

/-- `LobbyReportResults` -/
def LobbyReportResults.codec : Codec LobbyReportResults :=
  message .lobbyReportResults (.cons "loserSide" .int32 .nil) (by decide)
    (fun r => (r.loserSide, ())) (fun t => ⟨t.1⟩)

/-- The members of `LobbySetSettings`. -/
def LobbySetSettings.fields :
    Fields [MessageType, Bool, Int32, FixedPoint, Bool] :=
  .cons "type" MessageType.codec <| .cons "editionSelect" .flag <| .cons "roundCount" .int32 <|
    .cons "roundTime" FixedPoint.codec <| .cons "trainingMode" .flag .nil

/-- `LobbySetSettings`, with defaults. -/
def LobbySetSettings.codec : Codec LobbySetSettings :=
  .recordWithDefault fields (by decide)
    (fun r => (.lobbySetSettings, r.editionSelect, r.roundCount, r.roundTime, r.trainingMode, ()))
    (fun t => ⟨t.2.1, t.2.2.1, t.2.2.2.1, t.2.2.2.2.1⟩) {}

/-- `PreBattleSetChara` -/
def PreBattleSetChara.codec : Codec PreBattleSetChara :=
  message .preBattleSetChara (.cons "chara" ConfirmedCharaConditions.codec .nil) (by decide)
    (fun r => (r.chara, ())) (fun t => ⟨t.1⟩)

/-- `PreBattleSetEnv` -/
def PreBattleSetEnv.codec : Codec PreBattleSetEnv :=
  message .preBattleSetEnv (.cons "rngSeed" .uint32 .nil) (by decide) (fun r => (r.rngSeed, ()))
    (fun t => ⟨t.1⟩)

/-- `PreBattleSetStage` -/
def PreBattleSetStage.codec : Codec PreBattleSetStage :=
  message .preBattleSetStage (.cons "stageID" .int32 .nil) (by decide) (fun r => (r.stageID, ()))
    (fun t => ⟨t.1⟩)

/-- `BattleGgpoFrame` -/
def BattleGgpoFrame.codec : Codec BattleGgpoFrame :=
  message .battleGgpoFrame
    (.cons "src" ConnectionID.codec <| .cons "dest" ConnectionID.codec <|
      .cons "data" (.vector .uint8) .nil) (by decide)
    (fun f => (f.src, f.dest, f.data, ())) (fun t => ⟨t.1, t.2.1, t.2.2.1⟩)

/-- `BattleHashV2`, with defaults. -/
def battleHashV2 : Codec Desync.BattleHashV2 :=
  .recordWithDefault
    (.cons "type" MessageType.codec <|
      .cons "frameIdx" (.number id (fun n => (Int32.ofInt n).toInt)
        (fun n => -2 ^ 31 ≤ n ∧ n < 2 ^ 31) fun _ h => Int32.toInt_ofInt_of_le h.1 h.2) <|
      .cons "overall" .uint64 <| .cons "flow" .uint64 <| .cons "chara0" .uint64 <|
      .cons "chara1" .uint64 <| .cons "fromPlayer" .flag .nil) (by decide)
    (fun m => (.battleHash, m.frameIdx, m.overall, m.flow, m.chara0, m.chara1, m.fromPlayer, ()))
    (fun t => ⟨t.2.1, t.2.2.1, t.2.2.2.1, t.2.2.2.2.1, t.2.2.2.2.2.1, t.2.2.2.2.2.2.1, 0⟩)
    ⟨-1, 0, 0, 0, 0, false, 0⟩

/-- A hash arrives whole, apart from the match that it is attributed to. -/
lemma battleHashV2_of_covers {m : Desync.BattleHashV2} {j : Json}
    (hframe : -2 ^ 31 ≤ m.frameIdx ∧ m.frameIdx < 2 ^ 31)
    (h : j.Covers (battleHashV2.toJson m)) :
    battleHashV2.get j = some { m with capturedIn := 0 } :=
  battleHashV2.get_of_covers
    ⟨trivial, hframe, trivial, trivial, trivial, trivial, trivial, trivial⟩ h

end Messages

/-! ## What the server hears -/

/-- What a client sends, apart from what the server passes on without reading it. -/
inductive ClientMessage
  /-- `SessionHelloMsg`. -/
  | hello
  /-- `SessionJoinRequest`. -/
  | joinReq (r : SessionJoinRequest)
  /-- `LobbyReady`. -/
  | ready
  /-- `LobbyReportResults`. -/
  | reportResults (r : LobbyReportResults)
  /-- `LobbyReset`. -/
  | reset
  /-- `LobbySetSettings`. -/
  | setSettings (r : LobbySetSettings)
  /-- `PreBattleSetEnv`. -/
  | setEnv (r : PreBattleSetEnv)
  /-- `PreBattleSetChara`. -/
  | setChara (r : PreBattleSetChara)
  /-- `PreBattleSetStage`. -/
  | setStage (r : PreBattleSetStage)
  /-- `BattleLoaded`. -/
  | battleLoaded
  /-- `PunchReady`. -/
  | punchReady
  /-- `BattleGgpoFrame`. -/
  | ggpoFrame (f : BattleGgpoFrame)

namespace ClientMessage

/-- The type that the message announces. -/
def type : ClientMessage → MessageType
  | hello => .sessionHello
  | joinReq _ => .sessionJoinReq
  | ready => .lobbyReady
  | reportResults _ => .lobbyReportResults
  | reset => .lobbyReset
  | setSettings _ => .lobbySetSettings
  | setEnv _ => .preBattleSetEnv
  | setChara _ => .preBattleSetChara
  | setStage _ => .preBattleSetStage
  | battleLoaded => .battleLoaded
  | punchReady => .punchReady
  | ggpoFrame _ => .battleGgpoFrame

/-- The structure of the message as JSON. -/
def toJson : ClientMessage → Json
  | joinReq r => SessionJoinRequest.codec.toJson r
  | reportResults r => LobbyReportResults.codec.toJson r
  | setSettings r => LobbySetSettings.codec.toJson r
  | setEnv r => PreBattleSetEnv.codec.toJson r
  | setChara r => PreBattleSetChara.codec.toJson r
  | setStage r => PreBattleSetStage.codec.toJson r
  | ggpoFrame f => BattleGgpoFrame.codec.toJson f
  | msg => (bareMessage msg.type).toJson ()

/-- The message as a document with the one view that belongs to its type. -/
def document (msg : ClientMessage) : Document :=
  match msg with
  | joinReq r => { Document.bare msg.type with joinRequest := some r }
  | reportResults r => { Document.bare msg.type with reportResults := some r }
  | setSettings r => { Document.bare msg.type with setSettings := some r }
  | setEnv r => { Document.bare msg.type with setEnv := some r }
  | setChara r => { Document.bare msg.type with setChara := some r }
  | setStage r => { Document.bare msg.type with setStage := some r }
  | ggpoFrame f => { Document.bare msg.type with ggpoFrame := some f }
  | msg => Document.bare msg.type

/-- No message fails to be serialised. -/
lemma dump_toJson (msg : ClientMessage) : msg.toJson.dump = some msg.toJson := by
  cases msg with
  | joinReq r => exact SessionJoinRequest.codec.dump_toJson r
  | reportResults r => exact LobbyReportResults.codec.dump_toJson r
  | setSettings r => exact LobbySetSettings.codec.dump_toJson r
  | setEnv r => exact PreBattleSetEnv.codec.dump_toJson r
  | setChara r => exact PreBattleSetChara.codec.dump_toJson r
  | setStage r => exact PreBattleSetStage.codec.dump_toJson r
  | ggpoFrame f => exact BattleGgpoFrame.codec.dump_toJson f
  | hello | ready | reset | battleLoaded | punchReady => exact (bareMessage _).dump_toJson ()

end ClientMessage

/-- The value under `type`, as the enumeration is read from it. -/
def typeField (j : Json) : TypeField :=
  match j.toText.map Codec.ofBytes with
  | some s => .name s
  | none => .other

/-- A `ForwardMessage`; `text` writes the inner value. -/
def readForward (text : Json → String) (j : Json) : Option ForwardMessage := do
  let src ← j.read ConnectionID.codec.get "src"
  let dest ← j.read ConnectionID.codec.get "dest"
  let msg ← j.member? "msg"
  return ⟨src, dest, text msg⟩

/-- A parsed message with everything that `msg.get_to` can make of it.  The texts of values are
parameters: they are only passed on. -/
def Document.ofJson (text : Json → String) (bytes : Json → List UInt8) (j : Json) : Document where
  type := (j.member? "type").map typeField
  forward := readForward text j
  joinRequest := SessionJoinRequest.codec.get j
  setChara := PreBattleSetChara.codec.get j
  setEnv := PreBattleSetEnv.codec.get j
  setStage := PreBattleSetStage.codec.get j
  setSettings := LobbySetSettings.codec.get j
  reportResults := LobbyReportResults.codec.get j
  ggpoFrame := BattleGgpoFrame.codec.get j
  text := bytes j

/-- What covers an object with a type announces that type. -/
lemma typeField_of_covers {j : Json} {members : List (String × Json)} {t : MessageType}
    (h : j.Covers (.obj (("type", MessageType.codec.toJson t) :: members))) :
    (j.member? "type").map typeField = some (.name t.wireName) := by
  obtain ⟨v, hv, hcovers⟩ : ∃ v, j.member? "type" = some v ∧
      v.Covers (MessageType.codec.toJson t) := h.member rfl
  cases hcovers
  rw [hv, Option.map_some, typeField, Json.toText, Option.map_some, Codec.ofBytes_utf8]

/-- Every request begins with its type. -/
lemma ClientMessage.exists_toJson (msg : ClientMessage) :
    ∃ members, msg.toJson = .obj (("type", MessageType.codec.toJson msg.type) :: members) := by
  cases msg <;> exact ⟨_, rfl⟩

lemma type_ofJson {text : Json → String} {bytes : Json → List UInt8} {msg : ClientMessage}
    {j : Json} (h : j.Covers msg.toJson) :
    (Document.ofJson text bytes j).type = some (.name msg.type.wireName) := by
  obtain ⟨members, hmembers⟩ := msg.exists_toJson
  exact typeField_of_covers (hmembers ▸ h)

end SessionProtocol

open SessionProtocol SessionServer Wire

/-- A message that the server passes on, replaced by the form in which it came. -/
def Output.passing (doc : Document) : Output → Output
  | .respond conn (.relayed _) => .respond conn (.relayed doc)
  | out => out

section Server

variable {text : Json → String} {bytes : Json → List UInt8}

lemma type_document (msg : ClientMessage) :
    msg.document.type = some (.name msg.type.wireName) := by
  cases msg <;> rfl

lemma onJoinReq_passing (s : SessionServer) (m : Incoming) (doc doc' : Document)
    (cid : ConnectionID) :
    (s.onJoinReq m doc cid).2.map (Output.passing doc') = (s.onJoinReq m doc cid).2 := by
  unfold onJoinReq
  split
  · rfl
  · split <;> rfl

lemma onPunchReady_passing (s : SessionServer) (conn : HSteamNetConnection) (doc : Document) :
    (s.onPunchReady conn).2.map (Output.passing doc) = (s.onPunchReady conn).2 := by
  unfold onPunchReady
  split
  · rfl
  · dsimp only
    split <;> rfl

lemma relayTo_passing (s : SessionServer) (dest : ConnectionID) (doc doc' : Document) :
    (s.relayTo dest doc).map (Output.passing doc') = s.relayTo dest doc' := by
  unfold relayTo
  split <;> rfl

/-- A GGPO frame goes where its addresses say, in the form in which it came. -/
lemma onGgpoFrame_passing (s : SessionServer) (conn : HSteamNetConnection) {doc doc' : Document}
    (h : doc'.ggpoFrame = doc.ggpoFrame) :
    (s.onGgpoFrame conn doc).map (Output.passing doc') = s.onGgpoFrame conn doc' := by
  unfold onGgpoFrame
  rw [h]
  split
  · rfl
  · split
    · rfl
    · exact relayTo_passing _ _ _ _

/-- A JSON value is read as the structure of the request. -/
def SessionProtocol.ClientMessage.ReadsFrom (j : Json) : ClientMessage → Prop
  | .joinReq r => SessionJoinRequest.codec.get j = some r
  | .reportResults r => LobbyReportResults.codec.get j = some r
  | .setSettings r => LobbySetSettings.codec.get j = some r
  | .setEnv r => PreBattleSetEnv.codec.get j = some r
  | .setChara r => PreBattleSetChara.codec.get j = some r
  | .setStage r => PreBattleSetStage.codec.get j = some r
  | .ggpoFrame f => BattleGgpoFrame.codec.get j = some f
  | .hello | .ready | .reset | .battleLoaded | .punchReady => True

/-- Every structure of a request is read as it was written. -/
lemma readsFrom_of_covers {msg : ClientMessage} {j : Json} (h : j.Covers msg.toJson) :
    msg.ReadsFrom j := by
  cases msg with
  | joinReq r =>
    exact SessionJoinRequest.codec.get_of_covers ⟨trivial, trivial, trivial, trivial, trivial⟩ h
  | reportResults r => exact LobbyReportResults.codec.get_of_covers ⟨trivial, trivial, trivial⟩ h
  | setSettings r =>
    exact LobbySetSettings.codec.get_of_covers
      ⟨trivial, trivial, trivial, ⟨trivial, trivial, trivial⟩, trivial, trivial⟩ h
  | setEnv r => exact PreBattleSetEnv.codec.get_of_covers ⟨trivial, trivial, trivial⟩ h
  | setChara r => exact PreBattleSetChara.codec.get_of_covers ⟨trivial, r.chara.fits, trivial⟩ h
  | setStage r => exact PreBattleSetStage.codec.get_of_covers ⟨trivial, trivial, trivial⟩ h
  | ggpoFrame f =>
    have hfits : BattleGgpoFrame.codec.Fits f :=
      ⟨trivial, ⟨trivial, trivial, trivial⟩, ⟨trivial, trivial, trivial⟩, fun _ _ => trivial,
        trivial⟩
    have hseen : BattleGgpoFrame.codec.seen f = f := by
      show (⟨f.src, f.dest, f.data.map id⟩ : BattleGgpoFrame) = f
      rw [List.map_id]
    have hget := BattleGgpoFrame.codec.get_of_covers hfits h
    rwa [hseen] at hget
  | hello | ready | reset | battleLoaded | punchReady => trivial

/-- The handler of a request reads the view that belongs to the type. -/
lemma onRegistered_ofJson (st : StepState) (m : Incoming) (cid : ConnectionID)
    (msg : ClientMessage) {j : Json} (h : j.Covers msg.toJson) :
    st.onRegistered m (.ofJson text bytes j) msg.type cid =
      (st.onRegistered m msg.document msg.type cid).map fun r =>
        (r.1, r.2.map (Output.passing (.ofJson text bytes j))) := by
  have hviews := readsFrom_of_covers h
  have hforward : ∀ doc : Document, doc = .ofJson text bytes j →
      st.onRegistered m doc msg.type cid =
        (st.onRegistered m msg.document msg.type cid).map fun r =>
          (r.1, r.2.map (Output.passing doc)) := by
    intro doc hdoc
    cases msg with
    | joinReq r =>
      have hview : doc.joinRequest = some r := hdoc ▸ hviews
      have hsame : st.server.onJoinReq m doc cid =
          st.server.onJoinReq m (ClientMessage.joinReq r).document cid := by
        unfold onJoinReq
        rw [hview]
        rfl
      show some _ = some _
      dsimp only
      rw [hsame, onJoinReq_passing]
    | reportResults r =>
      have hview : doc.reportResults = some r := hdoc ▸ hviews
      have hsame : st.server.onReportResults doc =
          st.server.onReportResults (ClientMessage.reportResults r).document := by
        unfold onReportResults
        rw [hview]
        rfl
      show (st.server.onReportResults doc).map _ =
        ((st.server.onReportResults (ClientMessage.reportResults r).document).map _).map _
      rw [hsame, Option.map_map]
      rfl
    | setSettings r =>
      have hview : doc.setSettings = some r := hdoc ▸ hviews
      show some _ = some _
      rw [onSetSettings, hview]
      rfl
    | setEnv r =>
      have hview : doc.setEnv = some r := hdoc ▸ hviews
      show some _ = some _
      rw [onSetEnv, hview]
      rfl
    | setChara r =>
      have hview : doc.setChara = some r := hdoc ▸ hviews
      have hsame : st.server.onSetChara m.conn doc =
          st.server.onSetChara m.conn (ClientMessage.setChara r).document := by
        unfold onSetChara
        rw [hview]
        rfl
      show some _ = some _
      rw [hsame]
      rfl
    | setStage r =>
      have hview : doc.setStage = some r := hdoc ▸ hviews
      show some _ = some _
      rw [onSetStage, hview]
      rfl
    | punchReady =>
      show some _ = some _
      dsimp only
      rw [onPunchReady_passing]
    | ggpoFrame f =>
      have hview : doc.ggpoFrame = some f := hdoc ▸ hviews
      have hframe : doc.ggpoFrame = (ClientMessage.ggpoFrame f).document.ggpoFrame := hview
      show some _ = some _
      dsimp only
      rw [onGgpoFrame_passing _ _ hframe]
    | hello | ready | reset | battleLoaded => rfl
  exact hforward _ rfl

end Server

/-! ## What a client hears -/

namespace SessionProtocol

/-- A message of the server as JSON; what it passes on is not written by it. -/
def ServerMessage.toJson? : ServerMessage → Option Json
  | .helloResp cid => some (sessionHelloResp.toJson cid)
  | .dataUpdate l d => some (sessionDataUpdate.toJson (l, d))
  | .joinReject r => some (sessionJoinReject.toJson r)
  | .lobbyAllReady => some ((bareMessage .lobbyAllReady).toJson ())
  | .battleSynced => some ((bareMessage .battleSynced).toJson ())
  | .punchGo => some ((bareMessage .punchGo).toJson ())
  | .relayed _ => none

/-- The numbers of the message fit in 64 bits. -/
def ServerMessage.Fits : ServerMessage → Prop
  | .dataUpdate _ d => d.Fits
  | _ => True

/-- What `SessionClient::Step` makes of a message of a type; `none` is a message that it drops. -/
def heardAs (text : Json → String) (bytes : Json → List UInt8) (j : Json) :
    MessageType → Option ServerMessage
  | .sessionHelloResp => (sessionHelloResp.get j).map .helloResp
  | .sessionJoinRej => (sessionJoinReject.get j).map .joinReject
  | .sessionDataUpdate => (sessionDataUpdate.get j).map fun u => .dataUpdate u.1 u.2
  | .lobbyAllReady => some .lobbyAllReady
  | .battleSynced => some .battleSynced
  | .punchGo => some .punchGo
  | .battleSnapshot | .battleHash | .battleGgpoFrame | .forward =>
    some (.relayed (.ofJson text bytes j))
  | .sessionHello | .sessionJoinReq | .lobbyReady | .lobbyReportResults | .lobbyReset
  | .lobbySetSettings | .preBattleSetEnv | .preBattleSetChara | .preBattleSetStage
  | .battleLoaded | .punchReady => none

/-- What `SessionClient::Step` takes a JSON value for: its type first, then the structure of the
type. -/
def heard (text : Json → String) (bytes : Json → List UInt8) (j : Json) : Option ServerMessage :=
  ((j.member? "type").map typeField).bind fun field =>
    heardAs text bytes j (MessageType.fromJson field)

end SessionProtocol

section Client

variable {text : Json → String} {bytes : Json → List UInt8}

/-- A message is heard by its type. -/
lemma heard_eq {j : Json} {members : List (String × Json)} {t : MessageType}
    (h : j.Covers (.obj (("type", MessageType.codec.toJson t) :: members))) :
    heard text bytes j = heardAs text bytes j t := by
  rw [heard, typeField_of_covers h, Option.bind_some, MessageType.fromJson_wireName]

lemma received_received (l : List MemberData) :
    (l.map MemberData.received).map MemberData.received = l.map MemberData.received := by
  rw [List.map_map]
  rfl

/-- A client that is told the lobby data without the flags acts as one that is told them. -/
lemma receive_dataUpdate (c : LobbyClient) (l : LobbyData) (d : MatchData) :
    c.receive (.dataUpdate { l with members := l.members.map MemberData.received } d) =
      c.receive (.dataUpdate l d) := by
  simp only [LobbyClient.receive, LobbyClient.onDataUpdate, received_received]

/-- **Settings of an older version.** A host that leaves out some of the settings sets them to their
defaults, and the others as it says. -/
theorem onSetSettings_of_older (s : SessionServer) (conn : HSteamNetConnection)
    (hhost : s.side conn = some 0) (r : LobbySetSettings) (present : String → Bool) {j : Json}
    (hj : j.Covers (.obj ((LobbySetSettings.fields.write (.lobbySetSettings, r.editionSelect,
      r.roundCount, r.roundTime, r.trainingMode, ())).filter fun m => present m.1)))
    (habsent : ∀ key ∈ LobbySetSettings.fields.keys, present key = false → j.member? key = none) :
    (s.onSetSettings conn (.ofJson text bytes j)).lobbyData =
      { s.lobbyData with
        editionSelect := if present "editionSelect" then r.editionSelect else true
        roundCount := if present "roundCount" then r.roundCount else 3
        roundTime := if present "roundTime" then r.roundTime else ⟨0, 99⟩
        trainingMode := if present "trainingMode" then r.trainingMode else false } := by
  have hread := LobbySetSettings.fields.readWithDefault_of_older
    (t := (.lobbySetSettings, r.editionSelect, r.roundCount, r.roundTime, r.trainingMode, ()))
    ⟨trivial, trivial, trivial, ⟨trivial, trivial, trivial⟩, trivial, trivial⟩ (by decide)
    present hj habsent (.lobbySetSettings, true, 3, ⟨0, 99⟩, false, ())
  have hget := congrArg (Option.map fun t : Tuple [MessageType, Bool, Int32, FixedPoint, Bool] =>
    (⟨t.2.1, t.2.2.1, t.2.2.2.1, t.2.2.2.2.1⟩ : LobbySetSettings)) hread
  unfold onSetSettings hostSetter
  rw [if_neg (not_not.2 hhost), show (Document.ofJson text bytes j).setSettings = _ from hget]
  rfl

/-- A host that knows the number of rounds only. -/
theorem onSetSettings_of_older_rounds :
    ∃ (s : SessionServer) (j : Json),
      (s.onSetSettings 1 (.ofJson (fun _ => "") (fun _ => []) j)).lobbyData =
        { s.lobbyData with
          editionSelect := true, roundCount := 5, roundTime := ⟨0, 99⟩, trainingMode := false } :=
  ⟨{ SessionServer.new "" "" false 0 ⟨0, 0⟩ with
      clients := [⟨⟨⟨"", "1"⟩, "A", "", 0, 0⟩, 1⟩] }, _,
    onSetSettings_of_older _ 1 (by decide) ⟨false, 5, ⟨0, 60⟩, true⟩
      (fun key => key == "type" || key == "roundCount") (.refl _) (by decide)⟩

end Client

end Sf4e
