/-
# What the launcher makes of a connect plan

`ApplyConnectPlanJson` reads a plan into a `ConnectPlanResult`, and the launcher copies that
into the configuration of the game.  Of a plan's endpoints the reader takes `ggpoRemoteHost`,
then `host`, and only then `peerHost`, and likewise for the ports.  Every plan has a `host`
and a `ggpoPort`, the relay's, so the peer's endpoint is never read (`applyConnectPlanJson_plan`).

`faithful_iff` says when the reader gets what the broker meant: always, but for a P2P plan
and for a relay host that does not fit its field.
-/
import Sf4e.Broker.Plan

namespace Sf4e
namespace Broker

open Wire Transport
open Relay (ascii isHexToken)

/-! ## The reader -/

/-- `value` with a string as default; `none` is a thrown `type_error`. -/
def Object.text (o : Object) (key : String) (default : Text) : Option Text :=
  match o.lookup key with
  | none => some default
  | some (.str s) => some s
  | some (.bool _) | some (.num _) => none

/-- `value` with a number as default; a boolean counts as a number. -/
def Object.int (o : Object) (key : String) (default : ℤ) : Option ℤ :=
  match o.lookup key with
  | none => some default
  | some (.num n) => some n
  | some (.bool b) => some (if b then 1 else 0)
  | some (.str _) => none

/-- `ConnectPlanResult`. -/
structure ConnectPlanResult where
  ok : Bool
  ggpoTransport : UInt8
  ggpoRemoteHost : HostField
  ggpoRemotePort : UInt16
  matchId : HexIdField
  roomToken : HexIdField
deriving DecidableEq

/-- A result as `FetchConnectPlan` declares it. -/
def ConnectPlanResult.new : ConnectPlanResult :=
  ⟨false, 0, .copy [], 0, .copy [], .copy []⟩

/-- `TransportFromString`. -/
def transportFromString (transport : Text) : UInt8 :=
  if transport = ascii "udp_relay" then 1
  else if transport = ascii "p2p" then 2
  else 0

/-- `ApplyConnectPlanJson`; `none` is an exception. -/
def applyConnectPlanJson (j : Object) (out : ConnectPlanResult) : Option ConnectPlanResult := do
  let transport ← j.text "transport" (ascii "legacy_session_tunnel")
  let sessionHost ← j.text "host" []
  let remoteHost ← j.text "ggpoRemoteHost" sessionHost
  let host ← if remoteHost = [] ∧ transport = ascii "p2p" then j.text "peerHost" []
    else some remoteHost
  let udpPort ← j.int "ggpoRemotePort" 0
  let ggpoPort ← if udpPort ≤ 0 then j.int "ggpoPort" 0 else some udpPort
  let remotePort ← if ggpoPort ≤ 0 ∧ transport = ascii "p2p" then j.int "peerPort" 0
    else some ggpoPort
  let matchId ← j.text "matchId" []
  let roomToken ← j.text "roomToken" []
  return {
    ok := true
    ggpoTransport := transportFromString transport
    ggpoRemoteHost := if host = [] then out.ggpoRemoteHost else .copy host
    ggpoRemotePort := if 0 < remotePort then remotePort.toNat.toUInt16 else out.ggpoRemotePort
    matchId := if matchId = [] then out.matchId else .copy matchId
    roomToken := if roomToken = [] then out.roomToken else .copy roomToken }

/-- `ApplyConnectPlanToConfig`. -/
def applyConnectPlanToConfig (plan : ConnectPlanResult) (cfg : NetplayConfig) : NetplayConfig :=
  if plan.ok then
    { cfg with
      ggpoTransport := plan.ggpoTransport
      ggpoRemotePort := plan.ggpoRemotePort
      ggpoRemoteHost := .copy plan.ggpoRemoteHost.bytes
      matchId := .copy plan.matchId.bytes
      ggpoRoomToken := .copy plan.roomToken.bytes }
  else cfg

/-! ## What a plan decodes to -/

lemma transportFromString_name (t : GgpoTransportMode) :
    transportFromString (transportName t) = t.code := by
  cases t <;> decide

lemma relayAddress_ne (config : Config) (room : Room) : relayAddress config room ≠ [] := by
  unfold relayAddress
  split
  · exact config.relayHost_ne
  · exact room.host_ne

/-- A room with a GGPO relay has a port for it. -/
lemma ggpoPort_pos_of_not_legacyOnly {config : Config} {room : Room}
    (h : legacyOnly config room = false) : 0 < room.ggpoPort := by
  simp only [legacyOnly, Bool.or_eq_false_iff, beq_eq_false_iff_ne] at h
  exact Nat.pos_of_ne_zero h.2

lemma HexId.ne_nil (id : HexId) : id.1 ≠ [] := by
  intro h
  have hid := id.2
  simp [h, isHexToken] at hid

lemma HexId.fits (id : HexId) : Fits hexIdLen id.1 := by
  have hid := id.2
  simp only [isHexToken, Bool.and_eq_true, beq_iff_eq, List.all_eq_true] at hid
  refine ⟨?_, fun hzero => ?_⟩
  · simp [hexIdLen, hid.1]
  · exact absurd (hid.2 0 hzero) (by decide)

/-- The result of reading a plan of the room: the relay's endpoint, for every transport. -/
def decoded (config : Config) (room : Room) (out : ConnectPlanResult) : ConnectPlanResult where
  ok := true
  ggpoTransport := (intendedTransport config room).code
  ggpoRemoteHost := .copy (relayAddress config room)
  ggpoRemotePort := if 0 < room.ggpoPort then room.ggpoPort.toUInt16 else out.ggpoRemotePort
  matchId := .copy room.matchId.1
  roomToken := .copy room.roomToken.1

/-- What the reader finds in an object that holds a plan of the room. -/
structure HoldsPlan (config : Config) (room : Room) (j : Object) : Prop where
  transport : j.lookup "transport" = some (.str (transportName (intendedTransport config room)))
  host : j.lookup "host" = some (.str (relayAddress config room))
  /-- If the plan has a remote host, it is the relay's. -/
  remoteHost : j.lookup "ggpoRemoteHost" = none ∨
    j.lookup "ggpoRemoteHost" = some (.str (relayAddress config room))
  ggpoPort : j.lookup "ggpoPort" = some (.num room.ggpoPort)
  /-- If the plan has a remote port, it is the relay's. -/
  remotePort : j.lookup "ggpoRemotePort" = none ∨
    j.lookup "ggpoRemotePort" = some (.num room.ggpoPort)
  matchId : j.lookup "matchId" = some (.str room.matchId.1)
  roomToken : j.lookup "roomToken" = some (.str room.roomToken.1)

lemma holdsPlan_buildConnectPlan (config : Config) (room : Room) (role : String) :
    HoldsPlan config room (buildConnectPlan config room role true) := by
  rw [buildConnectPlan_eq]
  unfold planRest
  refine ⟨?_, ?_, ?_, ?_, ?_, ?_, ?_⟩
  all_goals
    split
    all_goals simp [planBase, List.lookup_cons]

/-- The members that the broker puts before a plan do not hide it. -/
lemma HoldsPlan.append {config : Config} {room : Room} {j : Object} (h : HoldsPlan config room j)
    {before : Object}
    (hbefore : ∀ p ∈ before, p.1 ∈ ["ok", "code", "relayOk", "ggpoRelayOk"]) :
    HoldsPlan config room (before ++ j) := by
  have hskip {key : String} (hkey : key ∉ ["ok", "code", "relayOk", "ggpoRelayOk"]) :
      (before ++ j).lookup key = j.lookup key := by
    have hnone : before.lookup key = none := by
      rw [List.lookup_eq_none_iff]
      intro p hp
      refine bne_iff_ne.2 ?_
      rintro rfl
      exact hkey (hbefore p hp)
    rw [List.lookup_append, hnone, Option.none_or]
  refine ⟨?_, ?_, ?_, ?_, ?_, ?_, ?_⟩
  all_goals rw [hskip (by decide)]
  · exact h.transport
  · exact h.host
  · exact h.remoteHost
  · exact h.ggpoPort
  · exact h.remotePort
  · exact h.matchId
  · exact h.roomToken

/-- **Every plan decodes to the relay's endpoint**, a P2P plan like any other. -/
lemma applyConnectPlanJson_plan {config : Config} {room : Room} {j : Object}
    (h : HoldsPlan config room j) (out : ConnectPlanResult) :
    applyConnectPlanJson j out = some (decoded config room out) := by
  have hhost := relayAddress_ne config room
  have htransport : j.text "transport" (ascii "legacy_session_tunnel") =
      some (transportName (intendedTransport config room)) := by simp [Object.text, h.transport]
  have hsession : j.text "host" [] = some (relayAddress config room) := by
    simp [Object.text, h.host]
  have hremote : j.text "ggpoRemoteHost" (relayAddress config room) =
      some (relayAddress config room) := by
    rcases h.remoteHost with hr | hr <;> simp [Object.text, hr]
  have hport : j.int "ggpoPort" 0 = some (room.ggpoPort : ℤ) := by simp [Object.int, h.ggpoPort]
  have hmatch : j.text "matchId" [] = some room.matchId.1 := by simp [Object.text, h.matchId]
  have htoken : j.text "roomToken" [] = some room.roomToken.1 := by
    simp [Object.text, h.roomToken]
  -- a P2P plan has a relay port, so the peer's port is not looked at
  have hskip : ¬ ((room.ggpoPort : ℤ) ≤ 0 ∧
      transportName (intendedTransport config room) = ascii "p2p") := by
    rintro ⟨hzero, hp2p⟩
    have hlegacy : legacyOnly config room = false := by
      by_contra hl
      have hintended : intendedTransport config room = .legacySessionTunnel := by
        simp [intendedTransport, eq_true_of_ne_false hl]
      rw [hintended] at hp2p
      exact absurd hp2p (by decide)
    have hpos := ggpoPort_pos_of_not_legacyOnly hlegacy
    omega
  have hread : applyConnectPlanJson j out = some { decoded config room out with
      ggpoRemotePort :=
        if 0 < (room.ggpoPort : ℤ) then (room.ggpoPort : ℤ).toNat.toUInt16
        else out.ggpoRemotePort } := by
    unfold applyConnectPlanJson
    simp only [htransport, hsession, hremote, hmatch, htoken, hhost, false_and, if_false,
      Option.bind_eq_bind, Option.bind_some, Option.pure_def, room.matchId.ne_nil,
      room.roomToken.ne_nil, transportFromString_name]
    rcases h.remotePort with hr | hr
    · have hn : j.int "ggpoRemotePort" 0 = some 0 := by simp [Object.int, hr]
      simp only [hn, Option.bind_some, le_refl, if_true, hport, hskip, if_false]
      rfl
    · have hn : j.int "ggpoRemotePort" 0 = some (room.ggpoPort : ℤ) := by simp [Object.int, hr]
      simp only [hn, Option.bind_some, hport, hskip, if_false]
      split <;> rfl
  rw [hread]
  simp [decoded]

/-! ## The intention and the outcome -/

/-- The relay's endpoint, as the broker gives it out. -/
def relayEndpointOf (config : Config) (room : Room) : Text × ℕ :=
  (relayAddress config room, room.ggpoPort)

/-- The endpoint of the other side. -/
def peerEndpointOf (room : Room) (role : String) : Option (Text × ℕ) :=
  (peerEndpoint room role).map fun e => (e.observedPublic, e.ggpoPort)

/-- An endpoint as the game reads it from its configuration, with its port as a number. -/
def readEndpoint (e : Option (Text × UInt16)) : Option (Text × ℕ) :=
  e.map fun e => (e.1, e.2.toNat)

/-- The launcher gets from a plan what the broker meant by it. -/
structure Faithful (config : Config) (room : Room) (role : String) (r : ConnectPlanResult)
    (cfg : NetplayConfig) : Prop where
  transport : r.ggpoTransport = (intendedTransport config room).code
  matchId : r.matchId.bytes = room.matchId.1
  roomToken : r.roomToken.bytes = room.roomToken.1
  /-- For a P2P plan the game punches the peer's endpoint. -/
  punch : intendedTransport config room = .p2p →
    readEndpoint (applyConnectPlanToConfig r cfg).punchEndpoint = peerEndpointOf room role
  /-- For a P2P plan, after a failed punch, and for a UDP relay plan the game registers with
  the relay. -/
  register : intendedTransport config room ≠ .legacySessionTunnel →
    readEndpoint (applyConnectPlanToConfig r cfg).relayEndpoint =
      some (relayEndpointOf config room)

lemma intendedTransport_eq_p2p_iff {config : Config} {room : Room} :
    intendedTransport config room = .p2p ↔
      legacyOnly config room = false ∧ predictP2pPossible room = true := by
  unfold intendedTransport
  by_cases hlegacy : legacyOnly config room = true
  · simp [hlegacy]
  · by_cases hp2p : predictP2pPossible room = true <;> simp [hlegacy, hp2p]

lemma intendedTransport_eq_legacy_iff {config : Config} {room : Room} :
    intendedTransport config room = .legacySessionTunnel ↔ legacyOnly config room = true := by
  unfold intendedTransport
  by_cases hlegacy : legacyOnly config room = true
  · simp [hlegacy]
  · by_cases hp2p : predictP2pPossible room = true <;> simp [hlegacy, hp2p]

lemma relayHost_of_readEndpoint {cfg : NetplayConfig} {e : Text × ℕ}
    (h : readEndpoint cfg.relayEndpoint = some e) : cfg.relayHost = e.1 := by
  unfold readEndpoint NetplayConfig.relayEndpoint at h
  split at h
  · simp at h
  · obtain rfl := Option.some.inj h
    rfl

/-- A host that fits is punched and registered with as it was given. -/
lemma readEndpoint_decoded {config : Config} {room : Room} (out : ConnectPlanResult)
    (cfg : NetplayConfig) (hlegacy : legacyOnly config room = false)
    (hfits : Fits netplaySessionHostLen (relayAddress config room)) :
    readEndpoint (applyConnectPlanToConfig (decoded config room out) cfg).punchEndpoint =
        some (relayEndpointOf config room) ∧
      readEndpoint (applyConnectPlanToConfig (decoded config room out) cfg).relayEndpoint =
        some (relayEndpointOf config room) := by
  have hpos := ggpoPort_pos_of_not_legacyOnly hlegacy
  have hlt : room.ggpoPort < 2 ^ 16 := by
    have := room.ggpoPort_le
    omega
  have hhost : (HostField.copy (relayAddress config room)).bytes = relayAddress config room :=
    (CString.copy_bytes_eq_iff _).2 hfits
  have hport : room.ggpoPort.toUInt16.toNat = room.ggpoPort := UInt16.toNat_ofNat_of_lt' hlt
  have hport' : room.ggpoPort.toUInt16 ≠ 0 := by
    intro hzero
    rw [hzero] at hport
    simp at hport
    omega
  have hpunch : (applyConnectPlanToConfig (decoded config room out) cfg).punchEndpoint =
      some (relayAddress config room, room.ggpoPort.toUInt16) := by
    simp [NetplayConfig.punchEndpoint, applyConnectPlanToConfig, decoded, hhost, hpos, hport',
      relayAddress_ne]
  rw [NetplayConfig.relayEndpoint_of_punchEndpoint hpunch, hpunch]
  simp [readEndpoint, relayEndpointOf, hport]

/-- What a faithful reading says about the room: what is punched is what is registered with. -/
lemma endpoints_of_faithful {config : Config} {room : Room} {role : String}
    {r : ConnectPlanResult} {cfg : NetplayConfig} (h : Faithful config room role r cfg)
    (hlegacy : legacyOnly config room = false) :
    Fits netplaySessionHostLen (relayAddress config room) ∧
      (predictP2pPossible room = true →
        peerEndpointOf room role = some (relayEndpointOf config room)) := by
  have hregister := h.register (mt intendedTransport_eq_legacy_iff.1 (by simp [hlegacy]))
  refine ⟨?_, fun hp2p => ?_⟩
  · rw [show relayAddress config room = (relayEndpointOf config room).1 from rfl,
      ← relayHost_of_readEndpoint hregister]
    exact NetplayConfig.fits_relayHost _
  · have hpunch := h.punch (intendedTransport_eq_p2p_iff.2 ⟨hlegacy, hp2p⟩)
    obtain ⟨peer, hpeer⟩ := exists_peer_of_predictP2pPossible hp2p role
    have hsome : peerEndpointOf room role = some (peer.observedPublic, peer.ggpoPort) := by
      simp [peerEndpointOf, hpeer]
    rw [hsome] at hpunch
    obtain ⟨e, he, -⟩ := Option.map_eq_some_iff.1 hpunch
    rw [NetplayConfig.relayEndpoint_of_punchEndpoint he] at hregister
    rw [he] at hpunch
    rw [hsome, ← hpunch, hregister]

/-- **Encoder and decoder agree** on a plan exactly when the broker offers nothing but the
session tunnel, or when the relay's host fits its field and P2P is not predicted, or is
predicted for a peer that is found at the relay's own endpoint. -/
theorem faithful_iff (config : Config) (room : Room) (role : String) (out : ConnectPlanResult)
    (cfg : NetplayConfig) :
    (∃ r, applyConnectPlanJson (buildConnectPlan config room role true) out = some r ∧
        Faithful config room role r cfg) ↔
      legacyOnly config room = true ∨
        Fits netplaySessionHostLen (relayAddress config room) ∧
          (predictP2pPossible room = true →
            peerEndpointOf room role = some (relayEndpointOf config room)) := by
  rw [applyConnectPlanJson_plan (holdsPlan_buildConnectPlan config room role)]
  constructor
  · rintro ⟨r, -, hfaithful⟩
    by_cases hlegacy : legacyOnly config room = true
    · exact .inl hlegacy
    · exact .inr (endpoints_of_faithful hfaithful (by simpa using hlegacy))
  · intro h
    refine ⟨_, rfl, ?_⟩
    have hid : (HexIdField.copy room.matchId.1).bytes = room.matchId.1 :=
      (CString.copy_bytes_eq_iff _).2 room.matchId.fits
    have htoken : (HexIdField.copy room.roomToken.1).bytes = room.roomToken.1 :=
      (CString.copy_bytes_eq_iff _).2 room.roomToken.fits
    refine ⟨rfl, hid, htoken, fun hp2p => ?_, fun hne => ?_⟩
    · obtain ⟨hlegacy, hpredict⟩ := intendedTransport_eq_p2p_iff.1 hp2p
      rcases h with h | ⟨hfits, hpeer⟩
      · simp [hlegacy] at h
      · rw [hpeer hpredict]
        exact (readEndpoint_decoded out cfg hlegacy hfits).1
    · have hlegacy := mt intendedTransport_eq_legacy_iff.2 hne
      rcases h with h | ⟨hfits, -⟩
      · exact absurd h hlegacy
      · exact (readEndpoint_decoded out cfg (by simpa using hlegacy) hfits).2

/-! ## Two players behind one address -/

/-- A broker with a relay in front of it. -/
def Config.example : Config where
  forceVpsRelay := true
  relayHost := ascii "198.51.100.1"
  brokerGgpoTransport := "auto"
  natProbePort := 8790
  relayHost_ne := by decide

/-- An endpoint behind the address `203.0.113.7`. -/
def Endpoint.example (port : ℕ) (hport : 1 ≤ port ∧ port ≤ 65535) : Endpoint where
  ggpoPort := port
  observedPublic := ascii "203.0.113.7"
  observedPort := port
  natType := ascii "unknown"
  port_range := hport
  public_ne := by decide

/-- A room of that broker in which no side has registered. -/
def Room.example : Room where
  host := ascii "198.51.100.1"
  port := 23456
  ggpoPort := 24456
  matchId := ⟨ascii "00112233445566778899aabbccddeeff", by decide⟩
  roomToken := ⟨ascii "ffeeddccbbaa99887766554433221100", by decide⟩
  hostSecret := ascii "secret"
  hostEndpoint := none
  guestEndpoint := none
  host_ne := by decide
  ggpoPort_le := by decide

/-- **A P2P plan that never reaches the peer.** Both sides have registered from one address, so
the broker offers P2P; the host reads the relay's endpoint where the peer's is meant. -/
theorem not_faithful_same_address :
    ¬ ∀ (config : Config) (room : Room) (role : String) (out : ConnectPlanResult)
        (cfg : NetplayConfig),
        ∃ r, applyConnectPlanJson (buildConnectPlan config room role true) out = some r ∧
          Faithful config room role r cfg := by
  intro h
  let room := (Room.example.setEndpoint .host (.example 23457 (by decide))).setEndpoint .guest
    (.example 23458 (by decide))
  obtain ⟨r, -, hfaithful⟩ := h .example room "host" .new
    ⟨.copy [], 23457, 0, 0, .copy [], .copy [], .copy []⟩
  have hpeer := (endpoints_of_faithful hfaithful (by decide)).2 (by decide)
  exact absurd hpeer (by decide)

end Broker
end Sf4e
