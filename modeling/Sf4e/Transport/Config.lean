/-
# The transport part of the netplay configuration

The fields of `NetplayConfig` by which a game finds its opponent, and the two ways in which
`PrepareForBattle` reads an endpoint out of them: the one it punches and the one it registers
with.  Both are the same pair of fields, `ggpoRemoteHost` and `ggpoRemotePort`.
-/
import Sf4e.Relay.Udp
import Sf4e.Wire.CString

namespace Sf4e
namespace Transport

open Wire

/-- `NETPLAY_SESSION_HOST_LEN`. -/
def netplaySessionHostLen : ℕ := 64

/-- The size of `matchId` and `ggpoRoomToken`. -/
def hexIdLen : ℕ := 33

/-- `char sessionHost[NETPLAY_SESSION_HOST_LEN]` and the like. -/
abbrev HostField := CString netplaySessionHostLen

/-- `char matchId[33]` and the like. -/
abbrev HexIdField := CString hexIdLen

/-- `strncpy_s` into a host field. -/
def HostField.copy (src : Text) : HostField := CString.copy netplaySessionHostLen (by decide) src

/-- `strncpy_s` into an id field. -/
def HexIdField.copy (src : Text) : HexIdField := CString.copy hexIdLen (by decide) src

/-- `GgpoTransportMode`. -/
inductive GgpoTransportMode
  | legacySessionTunnel | udpRelay | p2p
deriving DecidableEq

/-- The number of a transport in the configuration. -/
def GgpoTransportMode.code : GgpoTransportMode → UInt8
  | legacySessionTunnel => 0
  | udpRelay => 1
  | p2p => 2

/-- `NetplayConfig`, as far as it is about the transport. -/
structure NetplayConfig where
  sessionHost : HostField
  /-- The local port of GGPO. -/
  ggpoPort : UInt16
  /-- `0` is the session tunnel, `1` the UDP relay, `2` peer to peer. -/
  ggpoTransport : UInt8
  ggpoRemotePort : UInt16
  ggpoRemoteHost : HostField
  matchId : HexIdField
  ggpoRoomToken : HexIdField
deriving DecidableEq

namespace NetplayConfig

/-- The endpoint that `PrepareForBattle` punches, if any. -/
def punchEndpoint (cfg : NetplayConfig) : Option (Text × UInt16) :=
  if cfg.ggpoRemoteHost.bytes ≠ [] ∧ cfg.ggpoRemotePort ≠ 0 then
    some (cfg.ggpoRemoteHost.bytes, cfg.ggpoRemotePort)
  else none

/-- The host of the relay: the session host stands in for a missing one. -/
def relayHost (cfg : NetplayConfig) : Text :=
  if cfg.ggpoRemoteHost.bytes ≠ [] then cfg.ggpoRemoteHost.bytes else cfg.sessionHost.bytes

/-- The host of the relay comes out of a host field. -/
lemma fits_relayHost (cfg : NetplayConfig) : Fits netplaySessionHostLen cfg.relayHost := by
  unfold relayHost
  split
  · exact cfg.ggpoRemoteHost.fits
  · exact cfg.sessionHost.fits

/-- The endpoint that `PrepareForBattle` registers with, if any. -/
def relayEndpoint (cfg : NetplayConfig) : Option (Text × UInt16) :=
  if cfg.relayHost = [] ∨ cfg.ggpoRemotePort = 0 then none
  else some (cfg.relayHost, cfg.ggpoRemotePort)

/-- With a remote endpoint in the configuration, it is punched and registered with alike. -/
lemma relayEndpoint_of_punchEndpoint {cfg : NetplayConfig} {e : Text × UInt16}
    (h : cfg.punchEndpoint = some e) : cfg.relayEndpoint = some e := by
  unfold punchEndpoint at h
  split at h
  · rename_i hok
    obtain rfl := Option.some.inj h
    simp [relayEndpoint, relayHost, hok.1, hok.2]
  · simp at h

end NetplayConfig
end Transport
end Sf4e
