/-
# The endpoint of the remote player

The relay's host goes from the configuration of the facade into that of the battle, through
`PrepareForBattle`, back into the facade, and from there into the 32 bytes that GGPO reads its
remote player's address from.  On the way it is registered with, and for this it is resolved;
what GGPO gets is the text as it was configured.  `denotes_registered_iff` says that the two
are one endpoint exactly when the text is a numeric address.
-/
import Sf4e.Transport.Prepare

namespace Sf4e
namespace Transport

open Wire Relay SessionProtocol Trace

/-! ## The way of the endpoint -/

/-- The variables of the facade that the endpoint goes through. -/
structure FacadeConfig where
  /-- `s_config`. -/
  config : NetplayConfig
  /-- `s_brokerGgpoRemoteHost`. -/
  brokerHost : HostField
  /-- `s_brokerGgpoRemotePort`. -/
  brokerPort : UInt16

namespace FacadeConfig

/-- `CaptureBrokerGgpoEndpoint`. -/
def captureBrokerGgpoEndpoint (f : FacadeConfig) (cfg : NetplayConfig) : FacadeConfig :=
  if cfg.ggpoRemotePort ≠ 0 ∧ cfg.ggpoRemoteHost.bytes ≠ [] then
    { f with brokerPort := cfg.ggpoRemotePort, brokerHost := .copy cfg.ggpoRemoteHost.bytes }
  else f

/-- `InitFromPayload`. -/
def initFromPayload (f : FacadeConfig) (cfg : NetplayConfig) : FacadeConfig :=
  { f with config := cfg }.captureBrokerGgpoEndpoint cfg

/-- `RestoreBrokerGgpoEndpoint`. -/
def restoreBrokerGgpoEndpoint (f : FacadeConfig) (cfg : NetplayConfig) : NetplayConfig :=
  if f.brokerPort ≠ 0 ∧ f.brokerHost.bytes ≠ [] then
    { cfg with ggpoRemotePort := f.brokerPort, ggpoRemoteHost := .copy f.brokerHost.bytes }
  else cfg

/-- `ApplyGgpoTransportConfig`. -/
def applyGgpoTransportConfig (f : FacadeConfig) (cfg : NetplayConfig) : FacadeConfig :=
  let config := { f.config with ggpoTransport := cfg.ggpoTransport }
  let config :=
    if cfg.ggpoTransport ≠ 0 then
      { config with
        ggpoRemotePort := cfg.ggpoRemotePort
        ggpoRemoteHost := .copy cfg.ggpoRemoteHost.bytes }
    else if f.brokerPort ≠ 0 ∧ f.brokerHost.bytes ≠ [] then
      { config with
        ggpoRemotePort := f.brokerPort
        ggpoRemoteHost := .copy f.brokerHost.bytes }
    else config
  { f with
    config :=
      if cfg.ggpoRoomToken.bytes ≠ [] then
        { config with ggpoRoomToken := .copy cfg.ggpoRoomToken.bytes }
      else config }

/-- `transportCfg` of `_OnVsBattleTasksRegistered` in a VPS session: with credentials for the
relay, the session tunnel is replaced by the relay. -/
def transportCfg (f : FacadeConfig) : NetplayConfig :=
  f.restoreBrokerGgpoEndpoint <|
    if f.config.ggpoTransport = 0 ∧ f.config.ggpoRoomToken.bytes ≠ [] ∧
        f.config.ggpoRemotePort ≠ 0 then
      { f.config with ggpoTransport := GgpoTransportMode.udpRelay.code }
    else f.config

end FacadeConfig

/-- A `GGPOPlayer` of type `GGPO_PLAYERTYPE_REMOTE`. -/
structure RemotePlayer where
  /-- `u.remote.ip_address`. -/
  ipAddress : CString 32
  /-- `u.remote.port`. -/
  port : UInt16
deriving DecidableEq

/-- The endpoint that GGPO talks to; it takes numeric addresses only. -/
def RemotePlayer.endpoint (inet : Inet) (p : RemotePlayer) : Option SockAddr :=
  (inet.pton p.ipAddress.bytes).map fun ip => ⟨ip, htons p.port⟩

/-- `strcpy_s` into `ip_address`, which ends the program if the text does not fit. -/
def strcpyIpAddress (src : Text) : Option (CString 32) :=
  if h : Fits 32 src then some ⟨src, h.1, h.2⟩ else none

/-- The remote player as `_OnVsBattleTasksRegistered` fills it in.  `tunnel` is what
`GetRemoteEndpoint` has, `memberIp` and `memberPort` are what the lobby has of the other
player, and `serverAddr` is the address of the session server. -/
def FacadeConfig.remotePlayer (f : FacadeConfig) (effective : UInt8) (tunnel : Option RemotePlayer)
    (memberIp : Text) (memberPort : UInt16) (serverAddr : Text) : Option RemotePlayer :=
  let useLegacyGgpoTunnel := effective == GgpoTransportMode.legacySessionTunnel.code
  if useLegacyGgpoTunnel && tunnel.isSome then tunnel
  else if !useLegacyGgpoTunnel && f.config.ggpoRemoteHost.bytes != [] &&
      f.config.ggpoRemotePort != 0 then
    some ⟨.copy 32 (by decide) f.config.ggpoRemoteHost.bytes, f.config.ggpoRemotePort⟩
  else if memberIp = [] then (strcpyIpAddress serverAddr).map (⟨·, memberPort⟩)
  else (strcpyIpAddress memberIp).map (⟨·, memberPort⟩)

/-! ## What a call registers with -/

variable {inet : Inet} {cfg : NetplayConfig}

/-- The configuration that a registration leaves behind. -/
def registeredCfg (cfg : NetplayConfig) : NetplayConfig :=
  { cfg with
    ggpoRemoteHost := .copy cfg.relayHost
    ggpoTransport := GgpoTransportMode.udpRelay.code }

/-- A call with this configuration registers with what the relay's host resolves to. -/
structure Resolving (inet : Inet) (cfg : NetplayConfig) (c : Call) : Prop where
  /-- Only a call that succeeds changes its configuration. -/
  unchanged : (∀ effective, c.stage ≠ .done true effective) → c.cfg = cfg
  /-- The relay is tried only if the configuration has its endpoint. -/
  relay : (∀ ok effective, c.stage ≠ .done ok effective) → c.stage.pastPunch = true →
    cfg.relayEndpoint ≠ none
  register : ∀ again dest waiting, c.stage = .register again dest waiting →
    ∃ addresses, resolve inet cfg.relayHost cfg.ggpoRemotePort addresses = some dest
  done : c.stage = .done true GgpoTransportMode.udpRelay.code →
    c.cfg = registeredCfg cfg ∧ cfg.relayEndpoint ≠ none ∧ ∃ dest, c.registeredAt = some dest ∧
      ∃ addresses, resolve inet cfg.relayHost cfg.ggpoRemotePort addresses = some dest

lemma Resolving.moves {c c' : Call} {ev : CallEvent} {out : List Sent}
    (h : Resolving inet cfg c) (hpending : ∀ ok effective, c.stage ≠ .done ok effective)
    (hm : c.Moves inet ev out c') : Resolving inet cfg c' := by
  have hcfg : c.cfg = cfg := h.unchanged (hpending true)
  cases hm with
  | waits hwaits =>
    refine ⟨fun _ => hcfg, fun hdone hpast => ?_, fun again dest waiting hs => ?_, fun hs => ?_⟩
    · rcases hwaits.relay hpast with hc | hrelay | ⟨effective, hs⟩
      · exact h.relay hpending hc
      · rwa [hcfg] at hrelay
      · exact absurd hs (hdone _ _)
    · rcases (hwaits.register again dest waiting hs).2 with
        ⟨waiting', hstage⟩ | ⟨-, addresses, hdest⟩
      · exact h.register again dest waiting' hstage
      · exact ⟨addresses, by rwa [Call.relayAddress, hcfg] at hdest⟩
    · exact absurd (hwaits.failed _ _ hs) (by decide)
  | stepped hstage => exact ⟨fun _ => hcfg, h.relay, h.register, fun hs => absurd hs (hpending _ _)⟩
  | punches hstage =>
    exact ⟨fun _ => hcfg, fun _ hpast => by simp [Stage.pastPunch] at hpast, by simp, by simp⟩
  | punched hstage =>
    refine ⟨fun hs => absurd rfl (hs _), fun hdone => absurd rfl (hdone _ _),
      fun again dest waiting hs => ?_, fun hs => ?_⟩
    · simp [Call.punched, Call.finish] at hs
    · exact absurd (Stage.done.inj hs).2 (by decide)
  | registers hstage hr =>
    -- the destination was resolved when the loop began
    refine ⟨fun _ => hcfg, fun _ _ => ?_, fun again dest waiting hs => ?_, by simp⟩
    · exact h.relay hpending (by rw [hstage]; rfl)
    · obtain ⟨rfl, rfl, rfl⟩ := Stage.register.inj hs
      exact h.register _ _ _ hstage
  | registered hstage hd =>
    refine ⟨fun hs => absurd rfl (hs _), fun hdone => absurd rfl (hdone _ _),
      fun again dest waiting hs => ?_, fun hs => ⟨?_, ?_, _, rfl, ?_⟩⟩
    · simp [Call.registered, Call.finish] at hs
    · simp [Call.registered, Call.finish, registeredCfg, hcfg]
    · exact h.relay hpending (by rw [hstage]; rfl)
    · exact h.register _ _ _ hstage

lemma resolving_start (env : TransportEnv) (client : Option NetplayClient) :
    Resolving inet cfg (Call.start env client cfg) := by
  have hfresh : Resolving inet cfg (.fresh env client cfg) :=
    ⟨fun _ => rfl, fun _ hpast => by simp [Call.fresh, Stage.pastPunch] at hpast,
      by simp [Call.fresh], by simp [Call.fresh]⟩
  rcases Call.start_cases inet env client cfg with ⟨-, heq⟩ | heq | hm
  · rw [heq]
    refine ⟨fun hs => absurd rfl (hs _), fun hdone => absurd rfl (hdone _ _),
      fun again dest waiting hs => ?_, fun hs => ?_⟩
    · simp [Call.finish] at hs
    · exact absurd (Stage.done.inj hs).2 (by decide)
  · rw [heq]
    exact hfresh
  · exact hfresh.moves (by simp [Call.fresh]) hm

/-- In every run a call registers with what the relay's host resolves to. -/
lemma resolving_of_run {env : TransportEnv} {client : Option NetplayClient}
    {log : List (Entry Call CallEvent (List Sent))} {c : Call}
    (h : (callLTS inet (Call.start env client cfg)).Run log c) : Resolving inet cfg c := by
  refine h.invariant_of_step (fun _ => Resolving inet cfg) ?_ fun _ e hinv hs => ?_
  · rintro _ rfl
    exact resolving_start env client
  · exact hinv.moves (Call.pending_of_next hs) (Call.moves_of_next hs)

/-! ## Text and address -/

/-- A numeric address resolves to itself. -/
lemma resolve_of_pton {host : Text} (hnul : 0 ∉ host) (hne : host ≠ []) {ip : UInt32}
    (hip : inet.pton host = some ip) (port : UInt16) (addresses : List UInt32) :
    resolve inet host port addresses = some ⟨ip, htons port⟩ := by
  have hcopy : (CString.copy 64 (by decide) host).bytes = host :=
    (CString.copy_bytes_eq_iff _).2 ⟨inet.length_lt hip (by decide), hnul⟩
  simp [resolve, resolveHostToIPv4, hne, hip, hcopy]

/-- What a call hands on after a registration. -/
lemma remotePlayer_registered {f : FacadeConfig} (hendpoint : cfg.relayEndpoint ≠ none)
    (tunnel : Option RemotePlayer) (memberIp : Text) (memberPort : UInt16) (serverAddr : Text) :
    (f.applyGgpoTransportConfig (registeredCfg cfg)).remotePlayer GgpoTransportMode.udpRelay.code
        tunnel memberIp memberPort serverAddr =
      some ⟨.copy 32 (by decide) cfg.relayHost, cfg.ggpoRemotePort⟩ := by
  obtain ⟨hne, hport⟩ : cfg.relayHost ≠ [] ∧ cfg.ggpoRemotePort ≠ 0 := by
    simpa [NetplayConfig.relayEndpoint] using hendpoint
  have hcopy : (HostField.copy cfg.relayHost).bytes = cfg.relayHost :=
    (CString.copy_bytes_eq_iff _).2 cfg.fits_relayHost
  have hcode : GgpoTransportMode.udpRelay.code ≠ 0 := by decide
  have hlegacy : (GgpoTransportMode.udpRelay.code == GgpoTransportMode.legacySessionTunnel.code) =
      false := by decide
  by_cases htoken : cfg.ggpoRoomToken.bytes = []
  · simp [FacadeConfig.remotePlayer, FacadeConfig.applyGgpoTransportConfig, registeredCfg, hcode,
      hlegacy, hcopy, hne, hport, htoken]
  · simp [FacadeConfig.remotePlayer, FacadeConfig.applyGgpoTransportConfig, registeredCfg, hcode,
      hlegacy, hcopy, hne, hport, htoken]

/-- The text that GGPO gets is an address exactly when the relay's host is, and then it is the
same one. -/
lemma pton_copy_iff {host : Text} (hnul : 0 ∉ host) {ip : UInt32} :
    inet.pton (CString.copy 32 (by decide) host).bytes = some ip ↔ inet.pton host = some ip := by
  constructor
  · intro h
    -- an address has fifteen bytes at most, so that nothing was cut off
    rwa [CString.copy_bytes_of_length_lt (by decide) hnul (inet.length_lt h (by decide))] at h
  · intro h
    rwa [(CString.copy_bytes_eq_iff _).2 ⟨inet.length_lt h (by decide), hnul⟩]

/-- **GGPO talks to the endpoint that was registered** exactly when the relay's host is a
numeric address: for every facade, environment and session client, and every run of
`PrepareForBattle` that succeeds with the UDP relay. -/
theorem denotes_registered_iff {f : FacadeConfig} {env : TransportEnv}
    {client : Option NetplayClient} {log : List (Entry Call CallEvent (List Sent))} {c : Call}
    (h : (callLTS inet (Call.start env client f.transportCfg)).Run log c)
    (hdone : c.stage = .done true GgpoTransportMode.udpRelay.code)
    (tunnel : Option RemotePlayer) (memberIp : Text) (memberPort : UInt16) (serverAddr : Text) :
    (∃ p dest, (f.applyGgpoTransportConfig c.cfg).remotePlayer GgpoTransportMode.udpRelay.code
        tunnel memberIp memberPort serverAddr = some p ∧ c.registeredAt = some dest ∧
          p.endpoint inet = some dest) ↔
      (inet.pton f.transportCfg.relayHost).isSome = true := by
  obtain ⟨hcfg, hendpoint, dest, hdest, addresses, hresolve⟩ := (resolving_of_run h).done hdone
  have hplayer := remotePlayer_registered (f := f) hendpoint tunnel memberIp memberPort serverAddr
  have hnul : 0 ∉ f.transportCfg.relayHost := f.transportCfg.fits_relayHost.2
  rw [hcfg, hplayer, hdest]
  constructor
  · rintro ⟨p, dest', hp, -, hp'⟩
    obtain rfl := Option.some.inj hp
    obtain ⟨ip, hip, -⟩ := Option.map_eq_some_iff.1 hp'
    rw [(pton_copy_iff hnul).1 hip]
    rfl
  · intro hsome
    obtain ⟨ip, hip⟩ := Option.isSome_iff_exists.1 hsome
    refine ⟨_, dest, rfl, rfl, ?_⟩
    have hne : f.transportCfg.relayHost ≠ [] := by
      intro hnil
      simp [resolve, resolveHostToIPv4, hnil] at hresolve
    rw [resolve_of_pton hnul hne hip] at hresolve
    rw [RemotePlayer.endpoint, (pton_copy_iff hnul).2 hip, ← hresolve]
    rfl

/-! ## A numeric address and a name -/

/-- The facade of a client that was given this host of a relay. -/
def FacadeConfig.example (relayHost : Text) : FacadeConfig :=
  let cfg : NetplayConfig := ⟨.copy relayHost, 23457, GgpoTransportMode.udpRelay.code, 24456,
    .copy relayHost, .copy [], .copy roomToken⟩
  FacadeConfig.initFromPayload ⟨cfg, .copy [], 0⟩ cfg

/-- A relay that is given by its address is played with where it has registered. -/
theorem denotes_registered_numeric :
    ∃ (c : Call) (p : RemotePlayer) (dest : SockAddr),
      c.stage = .done true GgpoTransportMode.udpRelay.code ∧
      ((FacadeConfig.example (ascii "198.51.100.1")).applyGgpoTransportConfig c.cfg).remotePlayer
        GgpoTransportMode.udpRelay.code none [] 0 [] = some p ∧
      c.registeredAt = some dest ∧ p.endpoint Inet.dotted = some dest := by
  obtain ⟨log, c, hrun, hdone⟩ :=
    exists_callRun_of_exec Inet.dotted
      (.start .unset (some (readyClient 0 3 2))
        (FacadeConfig.example (ascii "198.51.100.1")).transportCfg)
      (relayProbed ++ [.proceed [], .received ⟨exampleRelay, kRespRegistered⟩])
      (p := fun _ c => c.stage = .done true GgpoTransportMode.udpRelay.code) (by decide +kernel)
  obtain ⟨p, dest, hp⟩ :=
    (denotes_registered_iff hrun hdone none [] 0 []).2 (by decide +kernel)
  exact ⟨c, p, dest, hdone, hp⟩

/-- **A relay that is given by its name is registered with and never played with**: GGPO gets
the name. -/
theorem not_denotes_registered_name :
    ¬ ∀ (inet : Inet) (f : FacadeConfig) (env : TransportEnv) (client : Option NetplayClient)
        (log : List (Entry Call CallEvent (List Sent))) (c : Call),
        (callLTS inet (Call.start env client f.transportCfg)).Run log c →
        c.stage = .done true GgpoTransportMode.udpRelay.code →
        ∃ p dest, (f.applyGgpoTransportConfig c.cfg).remotePlayer GgpoTransportMode.udpRelay.code
            none [] 0 [] = some p ∧ c.registeredAt = some dest ∧ p.endpoint inet = some dest := by
  intro h
  obtain ⟨log, c, hrun, hdone, hplayer⟩ :=
    exists_callRun_of_exec Inet.dotted
      (.start .unset (some (readyClient 0 3 2))
        (FacadeConfig.example (ascii "relay.example")).transportCfg)
      (relayProbed ++ [.proceed [], .received ⟨exampleRelay, kRespRegistered⟩])
      (p := fun _ c => c.stage = .done true GgpoTransportMode.udpRelay.code ∧
        (((FacadeConfig.example (ascii "relay.example")).applyGgpoTransportConfig
          c.cfg).remotePlayer GgpoTransportMode.udpRelay.code none [] 0 []).bind
            (RemotePlayer.endpoint Inet.dotted) = none) (by decide +kernel)
  obtain ⟨p, dest, hp, -, hendpoint⟩ := h _ _ _ _ log c hrun hdone
  rw [hp, Option.bind_some, hendpoint] at hplayer
  simp at hplayer

end Transport
end Sf4e
