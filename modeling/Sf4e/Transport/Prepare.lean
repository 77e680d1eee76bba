/-
# `PrepareForBattle`

A call of `GgpoTransport::PrepareForBattle`, with `TryCoordinatedP2pPunch`, `TryP2pPunch`,
`ProbeUdpRelayHealth` and `RegisterWithUdpRelay` inside it.  The call is kept as the point at
which it waits for the outside: a socket to be opened, a host to be resolved, a datagram to
come in, a deadline to pass.  `Call.next` takes it from one such point to the next.

`Moves` lists what one step can do, and is all that later proofs know of `Call.next`.
-/
import Sf4e.Match.Client
import Sf4e.Relay.Registration
import Sf4e.Transport.Config
import Sf4e.Wire.Inet

namespace Sf4e
namespace Transport

open Wire Relay SessionProtocol Trace

/-! ## Addresses -/

/-- `htons`. -/
def htons (port : UInt16) : UInt16 := port <<< 8 ||| port >>> 8

/-- `ResolveHostToIPv4` into 64 bytes; `addresses` is what `getaddrinfo` has for the host, and
empty if it fails. -/
def resolveHostToIPv4 (inet : Inet) (host : Text) (addresses : List UInt32) : Option Text :=
  if host = [] then none
  else
    match inet.pton host with
    | some _ => some (CString.copy 64 (by decide) host).bytes
    | none => addresses.head?.map inet.ntop

/-- A host and a port as the destination of a socket. -/
def resolve (inet : Inet) (host : Text) (port : UInt16) (addresses : List UInt32) :
    Option SockAddr := do
  let resolvedHost ← resolveHostToIPv4 inet host addresses
  let ip ← inet.pton resolvedHost
  return ⟨ip, htons port⟩

/-- What `recvfrom` gets of a datagram with a buffer of this size: a datagram that is too long
is an error, and one without a payload counts as nothing. -/
def recvfrom (size : ℕ) (d : Datagram) : Option Text :=
  if d.payload ≠ [] ∧ d.payload.length ≤ size then some d.payload else none

/-- `SendProbeAndWait` takes the datagram for an answer of `dest`, and it starts with `magic`. -/
def answersProbe (dest : SockAddr) (magic : Text) (d : Datagram) : Bool :=
  d.from_ == dest && (recvfrom 8 d).any fun response => response.take magic.length == magic

/-! ## The call -/

/-- `SF4E_GGPO_TRANSPORT`, which is compared without regard to case. -/
inductive TransportEnv
  | unset | legacy | udp | p2p | auto | other
deriving DecidableEq

/-- `ParseTransportEnv`. -/
def parseTransportEnv (env : TransportEnv) (configTransport : UInt8) : UInt8 :=
  match env with
  | .legacy => GgpoTransportMode.legacySessionTunnel.code
  | .udp => GgpoTransportMode.udpRelay.code
  | .p2p => GgpoTransportMode.p2p.code
  | .unset | .auto | .other => configTransport

/-- What a call waits for. -/
inductive Stage
  /-- `Punch_SendReady`. -/
  | sendReady
  /-- `PUNCH_GO`, or the deadline of `TryCoordinatedP2pPunch`. -/
  | waitGo
  /-- The socket of `TryP2pPunch`, which was called by `TryCoordinatedP2pPunch` or not. -/
  | openPunch (coordinated : Bool)
  /-- The loop of `TryP2pPunch`, before a punch or waiting after one. -/
  | punch (coordinated waiting : Bool)
  /-- The socket of the first or the second `ProbeUdpRelayHealth`, and its destination. -/
  | openHealth (again : Bool)
  /-- The answer to a health probe. -/
  | health (again : Bool) (dest : SockAddr)
  /-- The socket of the first or the second `RegisterWithUdpRelay`, and its destination. -/
  | openRegister (again : Bool)
  /-- The loop of `RegisterWithUdpRelay`, before a probe or waiting for an answer. -/
  | register (again : Bool) (dest : SockAddr) (waiting : Bool)
  /-- Nothing: the call has returned, with what it leaves in `outEffective`. -/
  | done (ok : Bool) (effective : UInt8)
deriving DecidableEq

/-- The attempts at P2P are over, and were in vain. -/
def Stage.pastPunch : Stage → Bool
  | sendReady | waitGo | openPunch _ | punch _ _ => false
  | openHealth _ | health _ _ | openRegister _ | register _ _ _ => true
  | done ok effective => !(ok && effective == GgpoTransportMode.p2p.code)

/-- A call of `PrepareForBattle`. -/
structure Call where
  env : TransportEnv
  /-- `*sessionClient`; `none` is a null pointer. -/
  client : Option NetplayClient
  cfg : NetplayConfig
  stage : Stage
  /-- The endpoint that `SF4R` came from, for reference. -/
  registeredAt : Option SockAddr
deriving DecidableEq

/-- What the outside does to a call. -/
inductive CallEvent
  /-- What was tried works; `addresses` is what `getaddrinfo` has for the relay's host. -/
  | proceed (addresses : List UInt32)
  /-- What was tried fails, or nothing has come in. -/
  | failure
  /-- The deadline of a loop has passed. -/
  | deadline
  /-- `SessionClient::Step` has handled messages. -/
  | stepped (client : NetplayClient)
  /-- A datagram comes in on the socket of a health probe. -/
  | probed (d : Datagram)
  /-- A datagram comes in on the GGPO port. -/
  | received (d : Datagram)
deriving DecidableEq

/-- The payload of a punch. -/
def punchPayload : Text := ascii "SF4E_PUNCH"

namespace Call

/-- The call returns. -/
def finish (c : Call) (ok : Bool) (effective : GgpoTransportMode) : Call :=
  { c with stage := .done ok effective.code }

/-- The registration that the session client stands for. -/
def registration (c : Call) : Option Registration :=
  c.client.bind NetplayClient.prepareForBattle

/-- The checks at the head of `RegisterWithUdpRelay`. -/
def canRegister (c : Call) (r : Registration) : Bool :=
  c.cfg.relayHost != [] && c.cfg.ggpoRoomToken.bytes.length == 32 && c.cfg.ggpoPort != 0 &&
    decide (0 ≤ r.generationA) && decide (0 ≤ r.generationB)

/-- What `RegisterWithUdpRelay` registers, if it gets that far. -/
def registering (c : Call) : Option Registration := c.registration.filter c.canRegister

lemma registration_of_registering {c : Call} {r : Registration} (h : c.registering = some r) :
    c.registration = some r ∧ c.canRegister r = true := by
  simpa [registering, Option.filter_eq_some_iff] using h

/-- The pair of ready numbers of a registration. -/
def readyMessageNum (r : Registration) (i : Slot) : UInt64 :=
  UInt64.ofInt (bySide r.generationA r.generationB i)

/-- The packet of `RegisterWithUdpRelay`. -/
def packet (c : Call) (r : Registration) : Text :=
  registrationPacket c.cfg.ggpoRoomToken.bytes r.playerSlot (readyMessageNum r)

/-- Where the relay of the configuration is found. -/
def relayAddress (inet : Inet) (c : Call) (addresses : List UInt32) : Option SockAddr :=
  resolve inet c.cfg.relayHost c.cfg.ggpoRemotePort addresses

/-- The part of `PrepareForBattle` for the UDP relay. -/
def startUdpRelay (c : Call) : Call :=
  if c.cfg.relayEndpoint = none then c.finish false .udpRelay
  else if c.cfg.ggpoRoomToken.bytes = [] then c.finish false .udpRelay
  else if c.registration = none then c.finish false .udpRelay
  else { c with stage := .openHealth false }

/-- P2P has failed: fall back to the relay, unless P2P is forced. -/
def p2pFailed (c : Call) : Call :=
  if c.env = .p2p then c.finish false .p2p else c.startUdpRelay

/-- `TryP2pPunch` returns `false`.  After a coordinated punch a plain one is tried. -/
def punchFailed (c : Call) (coordinated : Bool) : Call :=
  if coordinated then { c with stage := .openPunch false } else c.p2pFailed

/-- `TryP2pPunch` returns `true`. -/
def punched (c : Call) : Call :=
  { c with cfg := { c.cfg with ggpoTransport := GgpoTransportMode.p2p.code } }.finish true .p2p

/-- `ProbeUdpRelayHealth` returns `false`. -/
def healthFailed (c : Call) (again : Bool) : Call :=
  if again then c.finish false .udpRelay else { c with stage := .openHealth true }

/-- `RegisterWithUdpRelay` returns `false`. -/
def registerFailed (c : Call) (again : Bool) : Call :=
  if again then c.finish false .udpRelay else { c with stage := .openRegister true }

/-- `RegisterWithUdpRelay` returns `true`. -/
def registered (c : Call) (dest : SockAddr) : Call :=
  { c with
    cfg := { c.cfg with
      ggpoRemoteHost := .copy c.cfg.relayHost
      ggpoTransport := GgpoTransportMode.udpRelay.code }
    registeredAt := some dest }.finish true .udpRelay

/-- A call up to the first point at which it waits. -/
def start (env : TransportEnv) (client : Option NetplayClient) (cfg : NetplayConfig) : Call :=
  let c : Call := ⟨env, client, cfg, .sendReady, none⟩
  let requested := parseTransportEnv env cfg.ggpoTransport
  if env = .legacy then
    { c with
      cfg := { cfg with ggpoTransport := GgpoTransportMode.legacySessionTunnel.code } }.finish
      true .legacySessionTunnel
  else if requested = GgpoTransportMode.legacySessionTunnel.code then c.finish false .udpRelay
  else if requested = GgpoTransportMode.p2p.code then
    if cfg.punchEndpoint = none then c.p2pFailed
    else if client.isSome ∧ cfg.ggpoPort ≠ 0 then c
    else { c with stage := .openPunch false }
  else if requested = GgpoTransportMode.udpRelay.code then c.startUdpRelay
  else { c with stage := .done false requested }

/-- The call from one point at which it waits to the next, with the datagrams that it sends
from the GGPO port. -/
def next (inet : Inet) (c : Call) (ev : CallEvent) : Option (List Sent × Call) :=
  match c.stage, ev with
  | .sendReady, .proceed _ => some ([], { c with stage := .waitGo })
  | .sendReady, .failure => some ([], { c with stage := .openPunch false })
  | .waitGo, .stepped client => some ([], { c with client := some client })
  -- with or without `PUNCH_GO`, the punch is tried
  | .waitGo, .proceed _ => some ([], { c with stage := .openPunch true })
  | .waitGo, .deadline => some ([], { c with stage := .openPunch true })
  | .waitGo, .failure => some ([], { c with stage := .openPunch false })
  | .openPunch coordinated, .proceed _ =>
    match inet.pton c.cfg.ggpoRemoteHost.bytes with
    | some _ => some ([], { c with stage := .punch coordinated false })
    | none => some ([], c.punchFailed coordinated)
  | .openPunch coordinated, .failure => some ([], c.punchFailed coordinated)
  | .punch coordinated false, .proceed _ =>
    (inet.pton c.cfg.ggpoRemoteHost.bytes).map fun ip =>
      ([⟨⟨ip, htons c.cfg.ggpoRemotePort⟩, punchPayload⟩],
        { c with stage := .punch coordinated true })
  | .punch coordinated false, .deadline => some ([], c.punchFailed coordinated)
  | .punch coordinated true, .received d =>
    if (recvfrom 64 d).isSome then some ([], c.punched)
    else some ([], { c with stage := .punch coordinated false })
  | .punch coordinated true, .failure => some ([], { c with stage := .punch coordinated false })
  | .openHealth again, .proceed addresses =>
    match c.relayAddress inet addresses with
    | some dest => some ([], { c with stage := .health again dest })
    | none => some ([], c.healthFailed again)
  | .openHealth again, .failure => some ([], c.healthFailed again)
  | .health again dest, .probed d =>
    if answersProbe dest kRespHealth d then some ([], { c with stage := .openRegister false })
    else some ([], c.healthFailed again)
  | .health again _, .failure => some ([], c.healthFailed again)
  | .openRegister again, .proceed addresses =>
    match c.registering, c.relayAddress inet addresses with
    | some _, some dest => some ([], { c with stage := .register again dest false })
    | _, _ => some ([], c.registerFailed again)
  | .openRegister again, .failure => some ([], c.registerFailed again)
  | .register again dest false, .proceed _ =>
    c.registering.map fun r =>
      ([⟨dest, c.packet r⟩], { c with stage := .register again dest true })
  | .register _ _ false, .failure => some ([], c)
  | .register again _ false, .deadline => some ([], c.registerFailed again)
  | .register again dest true, .received d =>
    if answersProbe dest kRespRegistered d then some ([], c.registered dest)
    else some ([], { c with stage := .register again dest false })
  | .register again dest true, .failure =>
    some ([], { c with stage := .register again dest false })
  | _, _ => none

/-! ## What a step can do -/

/-- A step that only changes what the call waits for. -/
structure Waits (inet : Inet) (c : Call) (s : Stage) : Prop where
  /-- P2P is not tried again. -/
  pastPunch : c.stage.pastPunch = true → s.pastPunch = true
  /-- The relay is tried only if the configuration has its endpoint. -/
  relay : s.pastPunch = true → c.stage.pastPunch = true ∨ c.cfg.relayEndpoint ≠ none ∨
    ∃ effective, s = .done false effective
  /-- A registration that begins has passed the checks and has resolved its host; it does not
  wait before it has sent its probe. -/
  register : ∀ again dest waiting, s = .register again dest waiting → waiting = false ∧
    ((∃ waiting', c.stage = .register again dest waiting') ∨
      (∃ r, c.registering = some r) ∧ ∃ addresses, c.relayAddress inet addresses = some dest)
  /-- A call that returns so has failed. -/
  failed : ∀ ok effective, s = .done ok effective → ok = false

/-- What a step can do. -/
inductive Moves (inet : Inet) (c : Call) : CallEvent → List Sent → Call → Prop
  /-- It goes on to another stage. -/
  | waits {ev : CallEvent} {s : Stage} (h : Waits inet c s) :
      Moves inet c ev [] { c with stage := s }
  /-- While it waits for `PUNCH_GO`, the client changes. -/
  | stepped {client : NetplayClient} (h : c.stage = .waitGo) :
      Moves inet c (.stepped client) [] { c with client := some client }
  /-- It sends a punch. -/
  | punches {ev : CallEvent} {coordinated : Bool} {dest : SockAddr}
      (h : c.stage = .punch coordinated false) :
      Moves inet c ev [⟨dest, punchPayload⟩] { c with stage := .punch coordinated true }
  /-- It takes a datagram for the answer to a punch. -/
  | punched {coordinated : Bool} {d : Datagram} (h : c.stage = .punch coordinated true) :
      Moves inet c (.received d) [] c.punched
  /-- It sends its registration. -/
  | registers {ev : CallEvent} {again : Bool} {dest : SockAddr} {r : Registration}
      (h : c.stage = .register again dest false) (hr : c.registering = some r) :
      Moves inet c ev [⟨dest, c.packet r⟩] { c with stage := .register again dest true }
  /-- It takes a datagram for the answer `SF4R` of the relay. -/
  | registered {again : Bool} {dest : SockAddr} {d : Datagram}
      (h : c.stage = .register again dest true)
      (hd : answersProbe dest kRespRegistered d = true) :
      Moves inet c (.received d) [] (c.registered dest)

variable {inet : Inet} {c : Call}

/-- A step to a failed return. -/
lemma Waits.of_failure (effective : UInt8) : Waits inet c (.done false effective) := by
  refine ⟨fun _ => rfl, fun _ => .inr (.inr ⟨effective, rfl⟩), fun _ _ _ hs => by simp at hs, ?_⟩
  rintro ok effective' hs
  exact (Stage.done.inj hs).1.symm

lemma moves_finish {ev : CallEvent} (effective : GgpoTransportMode) :
    Moves inet c ev [] (c.finish false effective) :=
  .waits (.of_failure effective.code)

/-- A step to a stage before the registration that is past the punches. -/
lemma moves_pastPunch {ev : CallEvent} {s : Stage} (hs : s.pastPunch = true)
    (hc : c.stage.pastPunch = true ∨ c.cfg.relayEndpoint ≠ none)
    (hregister : ∀ again dest waiting, s ≠ .register again dest waiting)
    (hdone : ∀ ok effective, s ≠ .done ok effective) :
    Moves inet c ev [] { c with stage := s } :=
  .waits ⟨fun _ => hs, fun _ => hc.imp_right .inl,
    fun again dest waiting h => absurd h (hregister again dest waiting),
    fun ok effective h => absurd h (hdone ok effective)⟩

/-- A step to a stage of the attempts at P2P. -/
lemma moves_punching {ev : CallEvent} {s : Stage} (hc : c.stage.pastPunch = false)
    (hs : s.pastPunch = false) (hdone : ∀ ok effective, s ≠ .done ok effective) :
    Moves inet c ev [] { c with stage := s } := by
  refine .waits ⟨fun h => by simp [hc] at h, fun h => by simp [hs] at h, ?_,
    fun ok effective h => absurd h (hdone ok effective)⟩
  rintro again dest waiting rfl
  simp [Stage.pastPunch] at hs

lemma moves_startUdpRelay {ev : CallEvent} : Moves inet c ev [] c.startUdpRelay := by
  unfold startUdpRelay
  split_ifs
  · exact moves_finish _
  · exact moves_finish _
  · exact moves_finish _
  · rename_i hendpoint _ _
    exact moves_pastPunch rfl (.inr hendpoint) (by simp) (by simp)

lemma moves_p2pFailed {ev : CallEvent} : Moves inet c ev [] c.p2pFailed := by
  unfold p2pFailed
  split_ifs
  · exact moves_finish _
  · exact moves_startUdpRelay

lemma moves_punchFailed {ev : CallEvent} (coordinated : Bool) (hc : c.stage.pastPunch = false) :
    Moves inet c ev [] (c.punchFailed coordinated) := by
  unfold punchFailed
  split_ifs
  · exact moves_punching hc rfl (by simp)
  · exact moves_p2pFailed

lemma moves_healthFailed {ev : CallEvent} (again : Bool) (hc : c.stage.pastPunch = true) :
    Moves inet c ev [] (c.healthFailed again) := by
  unfold healthFailed
  split_ifs
  · exact moves_finish _
  · exact moves_pastPunch rfl (.inl hc) (by simp) (by simp)

lemma moves_registerFailed {ev : CallEvent} (again : Bool) (hc : c.stage.pastPunch = true) :
    Moves inet c ev [] (c.registerFailed again) := by
  unfold registerFailed
  split_ifs
  · exact moves_finish _
  · exact moves_pastPunch rfl (.inl hc) (by simp) (by simp)

/-- The loop of a registration goes on. -/
lemma moves_register {ev : CallEvent} {again waiting : Bool} {dest : SockAddr}
    (hc : c.stage = .register again dest waiting) :
    Moves inet c ev [] { c with stage := .register again dest false } := by
  refine .waits ⟨fun _ => rfl, fun _ => .inl (by rw [hc]; rfl),
    fun again' dest' waiting' hs => ?_, by simp⟩
  obtain ⟨rfl, rfl, rfl⟩ := Stage.register.inj hs
  exact ⟨rfl, .inl ⟨waiting, hc⟩⟩

/-- A step of the attempts at P2P. -/
lemma moves_of_next_punching {ev : CallEvent} {out : List Sent} {c' : Call}
    (hc : c.stage.pastPunch = false) (h : c.next inet ev = some (out, c')) :
    Moves inet c ev out c' := by
  cases hstage : c.stage with
  | openHealth | health | openRegister | register => simp [hstage, Stage.pastPunch] at hc
  | sendReady =>
    cases ev <;> simp only [next, hstage, Option.some.injEq, Prod.mk.injEq, reduceCtorEq] at h
    all_goals
      obtain ⟨rfl, rfl⟩ := h
      exact moves_punching hc rfl (by simp)
  | waitGo =>
    cases ev <;> simp only [next, hstage, Option.some.injEq, Prod.mk.injEq, reduceCtorEq] at h
    case stepped =>
      obtain ⟨rfl, rfl⟩ := h
      rw [← hstage]
      exact .stepped hstage
    all_goals
      obtain ⟨rfl, rfl⟩ := h
      exact moves_punching hc rfl (by simp)
  | openPunch coordinated =>
    cases ev <;> simp only [next, hstage, Option.some.injEq, Prod.mk.injEq, reduceCtorEq] at h
    case proceed =>
      split at h
      all_goals
        obtain ⟨rfl, rfl⟩ := Prod.mk.inj (Option.some.inj h)
      · exact moves_punching hc rfl (by simp)
      · exact moves_punchFailed coordinated hc
    case failure =>
      obtain ⟨rfl, rfl⟩ := h
      exact moves_punchFailed coordinated hc
  | punch coordinated waiting =>
    cases waiting <;> cases ev <;>
      simp only [next, hstage, Option.some.injEq, Prod.mk.injEq, reduceCtorEq] at h
    case false.proceed =>
      obtain ⟨ip, -, heq⟩ := Option.map_eq_some_iff.1 h
      obtain ⟨rfl, rfl⟩ := Prod.mk.inj heq
      exact .punches hstage
    case false.deadline =>
      obtain ⟨rfl, rfl⟩ := h
      exact moves_punchFailed coordinated hc
    case true.received =>
      -- any datagram that fits ends the punching
      split at h
      all_goals
        obtain ⟨rfl, rfl⟩ := Prod.mk.inj (Option.some.inj h)
      · exact .punched hstage
      · exact moves_punching hc rfl (by simp)
    case true.failure =>
      obtain ⟨rfl, rfl⟩ := h
      exact moves_punching hc rfl (by simp)
  | done ok effective => cases ev <;> simp [next, hstage] at h

/-- A step at the relay. -/
lemma moves_of_next_relay {ev : CallEvent} {out : List Sent} {c' : Call}
    (hc : c.stage.pastPunch = true) (h : c.next inet ev = some (out, c')) :
    Moves inet c ev out c' := by
  cases hstage : c.stage with
  | sendReady | waitGo | openPunch | punch => simp [hstage, Stage.pastPunch] at hc
  | openHealth again =>
    cases ev <;> simp only [next, hstage, Option.some.injEq, Prod.mk.injEq, reduceCtorEq] at h
    case proceed =>
      split at h
      all_goals
        obtain ⟨rfl, rfl⟩ := Prod.mk.inj (Option.some.inj h)
      · exact moves_pastPunch rfl (.inl hc) (by simp) (by simp)
      · exact moves_healthFailed again hc
    case failure =>
      obtain ⟨rfl, rfl⟩ := h
      exact moves_healthFailed again hc
  | health again dest =>
    cases ev <;> simp only [next, hstage, Option.some.injEq, Prod.mk.injEq, reduceCtorEq] at h
    case probed =>
      split at h
      all_goals
        obtain ⟨rfl, rfl⟩ := Prod.mk.inj (Option.some.inj h)
      · exact moves_pastPunch rfl (.inl hc) (by simp) (by simp)
      · exact moves_healthFailed again hc
    case failure =>
      obtain ⟨rfl, rfl⟩ := h
      exact moves_healthFailed again hc
  | openRegister again =>
    cases ev <;> simp only [next, hstage, Option.some.injEq, Prod.mk.injEq, reduceCtorEq] at h
    case proceed addresses =>
      -- the loop begins only with something to register and somewhere to send it
      split at h
      · rename_i r dest hr hdest
        obtain ⟨rfl, rfl⟩ := Prod.mk.inj (Option.some.inj h)
        refine .waits ⟨fun _ => rfl, fun _ => .inl hc, fun again' dest' waiting hs => ?_, by simp⟩
        obtain ⟨rfl, rfl, rfl⟩ := Stage.register.inj hs
        exact ⟨rfl, .inr ⟨⟨r, hr⟩, addresses, hdest⟩⟩
      · obtain ⟨rfl, rfl⟩ := Prod.mk.inj (Option.some.inj h)
        exact moves_registerFailed again hc
    case failure =>
      obtain ⟨rfl, rfl⟩ := h
      exact moves_registerFailed again hc
  | register again dest waiting =>
    cases waiting <;> cases ev <;>
      simp only [next, hstage, Option.some.injEq, Prod.mk.injEq, reduceCtorEq] at h
    case false.proceed =>
      obtain ⟨r, hr, heq⟩ := Option.map_eq_some_iff.1 h
      obtain ⟨rfl, rfl⟩ := Prod.mk.inj heq
      exact .registers hstage hr
    case false.failure =>
      -- `sendto` has failed, and the loop sleeps
      obtain ⟨rfl, rfl⟩ := h
      refine .waits (s := c.stage) ⟨id, .inl, fun again' dest' waiting hs => ?_,
        fun ok effective hs => by rw [hstage] at hs; cases hs⟩
      exact ⟨(Stage.register.inj (hstage.symm.trans hs)).2.2.symm, .inl ⟨waiting, hs⟩⟩
    case false.deadline =>
      obtain ⟨rfl, rfl⟩ := h
      exact moves_registerFailed again hc
    case true.received =>
      split at h
      all_goals
        obtain ⟨rfl, rfl⟩ := Prod.mk.inj (Option.some.inj h)
      · rename_i hd
        exact .registered hstage hd
      · exact moves_register hstage
    case true.failure =>
      obtain ⟨rfl, rfl⟩ := h
      exact moves_register hstage
  | done ok effective => cases ev <;> simp [next, hstage] at h

/-- **A step does one of these things.** -/
lemma moves_of_next {ev : CallEvent} {out : List Sent} {c' : Call}
    (h : c.next inet ev = some (out, c')) : Moves inet c ev out c' := by
  cases hc : c.stage.pastPunch with
  | false => exact moves_of_next_punching hc h
  | true => exact moves_of_next_relay hc h

/-- The point from which a call starts. -/
def fresh (env : TransportEnv) (client : Option NetplayClient) (cfg : NetplayConfig) : Call :=
  ⟨env, client, cfg, .sendReady, none⟩

/-- But for the forced tunnel, a call starts as if it had taken a step. -/
lemma start_cases (inet : Inet) (env : TransportEnv) (client : Option NetplayClient)
    (cfg : NetplayConfig) :
    (env = .legacy ∧ start env client cfg =
        { fresh env client cfg with
          cfg := { cfg with ggpoTransport := GgpoTransportMode.legacySessionTunnel.code } }.finish
          true .legacySessionTunnel) ∨
      start env client cfg = fresh env client cfg ∨
      Moves inet (fresh env client cfg) .failure [] (start env client cfg) := by
  unfold start
  dsimp only
  split_ifs with henv
  · exact .inl ⟨henv, rfl⟩
  · exact .inr (.inr (moves_finish _))
  · exact .inr (.inr moves_p2pFailed)
  · exact .inr (.inl rfl)
  · exact .inr (.inr (moves_punching rfl rfl (by simp)))
  · exact .inr (.inr moves_startUdpRelay)
  · exact .inr (.inr (.waits (.of_failure _)))

/-- How a call succeeds: a datagram on the GGPO port ends the punching or the registration. -/
lemma Moves.succeeds {ev : CallEvent} {out : List Sent} {c' : Call} (hm : Moves inet c ev out c')
    (hpending : ∀ ok effective, c.stage ≠ .done ok effective) {effective : UInt8}
    (h : c'.stage = .done true effective) :
    (∃ coordinated d, c.stage = .punch coordinated true ∧ ev = .received d ∧
        effective = GgpoTransportMode.p2p.code) ∨
      ∃ again dest d, c.stage = .register again dest true ∧ ev = .received d ∧
        answersProbe dest kRespRegistered d = true ∧ effective = GgpoTransportMode.udpRelay.code ∧
          c'.registration = c.registration := by
  cases hm with
  | waits hwaits => exact absurd (hwaits.failed _ _ h) (by decide)
  | stepped => exact absurd h (hpending _ _)
  | punches => simp at h
  | punched hstage => exact .inl ⟨_, _, hstage, rfl, (Stage.done.inj h).2.symm⟩
  | registers => simp at h
  | registered hstage hd => exact .inr ⟨_, _, _, hstage, rfl, hd, (Stage.done.inj h).2.symm, rfl⟩

/-- Only the forced tunnel succeeds at once. -/
lemma start_succeeds {env : TransportEnv} {client : Option NetplayClient} {cfg : NetplayConfig}
    {effective : UInt8} (inet : Inet) (h : (start env client cfg).stage = .done true effective) :
    env = .legacy ∧ effective = GgpoTransportMode.legacySessionTunnel.code := by
  rcases start_cases inet env client cfg with ⟨henv, heq⟩ | heq | hm
  · rw [heq] at h
    exact ⟨henv, (Stage.done.inj h).2.symm⟩
  · rw [heq] at h
    simp [fresh] at h
  · rcases hm.succeeds (by simp [fresh]) h with ⟨_, _, hstage, -⟩ | ⟨_, _, _, hstage, -⟩
    · simp [fresh] at hstage
    · simp [fresh] at hstage

/-- A call in the loop of its registration has something to register. -/
def Registers (c : Call) : Prop :=
  ∀ again dest waiting, c.stage = .register again dest waiting → ∃ r, c.registering = some r

lemma Registers.moves {ev : CallEvent} {out : List Sent} {c' : Call} (h : c.Registers)
    (hm : Moves inet c ev out c') : c'.Registers := by
  intro again dest waiting hs
  cases hm with
  | waits hwaits =>
    rcases (hwaits.register again dest waiting hs).2 with ⟨waiting', hstage⟩ | ⟨hr, -⟩
    · exact h again dest waiting' hstage
    · exact hr
  | stepped hstage => exact absurd (hstage.symm.trans hs) (by simp)
  | punches => simp at hs
  | punched => simp [punched, finish] at hs
  | registers hstage hr => exact ⟨_, hr⟩
  | registered => simp [registered, finish] at hs

lemma registers_start (inet : Inet) (env : TransportEnv) (client : Option NetplayClient)
    (cfg : NetplayConfig) : (start env client cfg).Registers := by
  have hfresh : (fresh env client cfg).Registers := by
    intro again dest waiting hs
    simp [fresh] at hs
  rcases start_cases inet env client cfg with ⟨-, heq⟩ | heq | hm
  · rw [heq]
    intro again dest waiting hs
    simp [finish] at hs
  · rw [heq]
    exact hfresh
  · exact hfresh.moves hm

/-- The registration of a call changes only with its client. -/
lemma Moves.registration {ev : CallEvent} {out : List Sent} {c' : Call}
    (hm : Moves inet c ev out c') : c'.registration = c.registration ∨
      ∃ client, ev = .stepped client ∧ c'.registration = client.prepareForBattle := by
  cases hm with
  | stepped => exact .inr ⟨_, rfl, rfl⟩
  | waits | punches | punched | registers | registered => exact .inl rfl

lemma registration_start (inet : Inet) (env : TransportEnv) (client : Option NetplayClient)
    (cfg : NetplayConfig) :
    (start env client cfg).registration = client.bind NetplayClient.prepareForBattle := by
  rcases start_cases inet env client cfg with ⟨-, heq⟩ | heq | hm
  · rw [heq]
    rfl
  · rw [heq]
    rfl
  · rcases hm.registration with hsame | ⟨_, hev, -⟩
    · exact hsame
    · simp at hev

/-- A call comes to wait for the answer to its registration by sending it. -/
lemma Moves.waiting {ev : CallEvent} {out : List Sent} {c' : Call} (hm : Moves inet c ev out c')
    {again : Bool} {dest : SockAddr} (h : c'.stage = .register again dest true) :
    ∃ r, c.registering = some r ∧ c.stage = .register again dest false ∧
      out = [⟨dest, c.packet r⟩] ∧ c'.registration = c.registration := by
  cases hm with
  | waits hwaits => exact absurd (hwaits.register again dest true h).1 (by simp)
  | stepped hstage => exact absurd (hstage.symm.trans h) (by simp)
  | punches => simp at h
  | punched => simp [Call.punched, finish] at h
  | registers hstage hr =>
    obtain ⟨rfl, rfl, -⟩ := Stage.register.inj h
    exact ⟨_, hr, hstage, rfl, rfl⟩
  | registered => simp [Call.registered, finish] at h

/-- A call does not begin in the middle of its registration. -/
lemma start_ne_register (inet : Inet) (env : TransportEnv) (client : Option NetplayClient)
    (cfg : NetplayConfig) (again : Bool) (dest : SockAddr) :
    (start env client cfg).stage ≠ .register again dest true := by
  intro h
  rcases start_cases inet env client cfg with ⟨-, heq⟩ | heq | hm
  · rw [heq] at h
    simp [finish] at h
  · rw [heq] at h
    simp [fresh] at h
  · obtain ⟨_, _, hstage, -⟩ := hm.waiting h
    simp [fresh] at hstage

/-- A call that is past its punches stays so. -/
lemma Moves.pastPunch {ev : CallEvent} {out : List Sent} {c' : Call} (hm : Moves inet c ev out c')
    (h : c.stage.pastPunch = true) : c'.stage.pastPunch = true := by
  cases hm with
  | waits hwaits => exact hwaits.pastPunch h
  | stepped => exact h
  | punches hstage | punched hstage =>
    rw [hstage] at h
    simp [Stage.pastPunch] at h
  | registers | registered => rfl

/-- What a call sends are punches and registrations. -/
lemma Moves.sends {ev : CallEvent} {out : List Sent} {c' : Call} (hm : Moves inet c ev out c')
    {o : Sent} (h : o ∈ out) : o.payload = punchPayload ∨
      ∃ r again dest, c.registering = some r ∧ c.stage = .register again dest false ∧
        out = [⟨dest, c.packet r⟩] ∧ o.payload = c.packet r := by
  cases hm with
  | waits | stepped | punched | registered => simp at h
  | punches =>
    rw [List.mem_singleton] at h
    subst h
    exact .inl rfl
  | registers hstage hr =>
    rw [List.mem_singleton] at h
    subst h
    exact .inr ⟨_, _, _, hr, hstage, rfl, rfl⟩

/-- A call that has returned does nothing more. -/
lemma pending_of_next {ev : CallEvent} {r : List Sent × Call} (h : c.next inet ev = some r) :
    ∀ ok effective, c.stage ≠ .done ok effective := by
  intro ok effective hstage
  cases ev <;> simp [next, hstage] at h

end Call

/-- A call as a transition system. -/
def callLTS (inet : Inet) (c : Call) : LTS Call CallEvent (List Sent) :=
  .ofFun (· = c) (Call.next inet)

/-- A list of events whose log passes a test. -/
lemma exists_callRun_of_exec (inet : Inet) (c : Call) (evs : List CallEvent)
    {p : List (Entry Call CallEvent (List Sent)) → Call → Prop} [∀ log c', Decidable (p log c')]
    (h : (LTS.exec (Call.next inet) c [] evs).any (fun r => decide (p r.1 r.2)) = true) :
    ∃ log c', (callLTS inet c).Run log c' ∧ p log c' := by
  obtain ⟨log, c', hpath, hp⟩ := LTS.exists_path_of_exec evs h
  exact ⟨log, c', ⟨c, rfl, hpath⟩, hp⟩

/-! ## A ready player -/

/-- The client of a player, when both are ready by these messages. -/
def readyClient (i : Slot) (num₀ num₁ : ℤ) : NetplayClient :=
  { NetplayClient.new with
    cid := if i = 0 then ⟨"", "host"⟩ else ⟨"", "guest"⟩
    lobbyData :=
      { LobbyData.nullLobby with
        members := [⟨⟨"", "host"⟩, "host", "", 23457, 0⟩, ⟨⟨"", "guest"⟩, "guest", "", 23457, 0⟩] }
    matchData := { MatchData.clear with readyMessageNum := fun j => if j = 0 then num₀ else num₁ } }

/-- The relay at `198.51.100.1`. -/
def exampleRelay : SockAddr := ⟨198 + 256 * (51 + 256 * (100 + 256 * 1)), htons 24456⟩

/-- The relay is found to be well, and the registration begins. -/
def relayProbed : List CallEvent :=
  [.proceed [exampleRelay.ip], .probed ⟨exampleRelay, kRespHealth⟩, .proceed [exampleRelay.ip]]

end Transport
end Sf4e
