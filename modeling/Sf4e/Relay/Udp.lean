/-
# The UDP relay

`ggpo_udp_relay` as it is written: one function from the relay's state and a received
datagram to the next state and the datagrams sent.  Datagrams are byte lists and are taken
apart at the offsets of the source.  Ports are kept in host byte order, on both sides of
every comparison.

The idle timeout and the logging are left out: neither touches the slots.
-/
import Sf4e.Session.Protocol
import Sf4e.Trace.LTS

namespace Sf4e
namespace Relay

open Trace

/-- One of the two slots of a pair of peers. -/
abbrev Slot := Fin 2

/-- The other slot. -/
def Slot.peer (i : Slot) : Slot := if i = 0 then 1 else 0

/-- `sockaddr_in` of an IPv4 peer. -/
structure SockAddr where
  /-- `sin_addr.s_addr`. -/
  ip : UInt32
  /-- `sin_port`. -/
  port : UInt16
deriving DecidableEq, Repr

/-- `Endpoint`. -/
structure Endpoint where
  addr : SockAddr := ⟨0, 0⟩
  active : Bool := false
deriving DecidableEq, Repr

/-- `GenerationKey`. -/
structure GenerationKey where
  readyMessageNum : Slot → UInt64 := fun _ => 0
  valid : Bool := false
deriving DecidableEq

/-- `GenerationState`. -/
structure GenerationState where
  key : GenerationKey := {}
  slots : Slot → Endpoint := fun _ => {}
deriving DecidableEq

/-- The locals of `main` that the loop keeps. -/
structure RelayState where
  /-- The pair of the legacy and the v2 registrations. -/
  slots : Slot → Endpoint := fun _ => {}
  activeGeneration : GenerationState := {}
  pendingGeneration : GenerationState := {}
deriving DecidableEq

/-! ## Constants -/

/-- The bytes of an ASCII literal. -/
def ascii (s : String) : List UInt8 := s.toList.map fun c => c.toNat.toUInt8

/-- `kMagicReg`. -/
def kMagicReg : List UInt8 := ascii "SF4G"
/-- `kMagicHealth`. -/
def kMagicHealth : List UInt8 := ascii "SF4H"
/-- `kRespHealth`. -/
def kRespHealth : List UInt8 := ascii "SF4OK"
/-- `kRespRegistered`. -/
def kRespRegistered : List UInt8 := ascii "SF4R"
/-- `kRespWaiting`. -/
def kRespWaiting : List UInt8 := ascii "SF4W"
/-- `kRegPacketLenLegacy`. -/
def kRegPacketLenLegacy : ℕ := 4 + 32
/-- `kRegPacketLenV2`. -/
def kRegPacketLenV2 : ℕ := 4 + 32 + 2
/-- `kRegPacketLenV3`. -/
def kRegPacketLenV3 : ℕ := 4 + 32 + 1 + 1 + 8 + 8
/-- `kRegistrationVersionV3`. -/
def kRegistrationVersionV3 : UInt8 := 3
/-- `kMaxPacket`. -/
def kMaxPacket : ℕ := 2048

/-! ## Helpers -/

/-- `std::isxdigit` in the C locale. -/
def isxdigit (b : UInt8) : Bool :=
  (48 ≤ b && b ≤ 57) || (65 ≤ b && b ≤ 70) || (97 ≤ b && b ≤ 102)

/-- `IsHexToken`. -/
def isHexToken (token : List UInt8) : Bool := token.length == 32 && token.all isxdigit

/-- `std::tolower` in the C locale. -/
def tolower (b : UInt8) : UInt8 := if 65 ≤ b && b ≤ 90 then b + 32 else b

/-- `strncmp(a, b, n) == 0`: equal up to a common terminator or for `n` bytes. -/
def strncmpEq : ℕ → List UInt8 → List UInt8 → Bool
  | 0, _, _ => true
  | n + 1, a, b =>
    if a.headD 0 ≠ b.headD 0 then false
    else if a.headD 0 = 0 then true
    else strncmpEq n a.tail b.tail

/-- `TokenMatches`. -/
def tokenMatches (expected received : List UInt8) : Bool :=
  strncmpEq 32 ((expected.take 32).map tolower) ((received.take 32).map tolower)

/-- `ReadU64Be`. -/
def readU64Be (data : List UInt8) : UInt64 :=
  (data.take 8).foldl (fun value b => (value <<< 8) ||| b.toUInt64) 0

/-- `SameIp`. -/
def sameIp (a b : SockAddr) : Bool := a.ip == b.ip

/-- `SameGeneration`. -/
def sameGeneration (a b : GenerationKey) : Bool :=
  a.valid && b.valid && a.readyMessageNum 0 == b.readyMessageNum 0 &&
    a.readyMessageNum 1 == b.readyMessageNum 1

/-- `BothSlotsActive`. -/
def bothSlotsActive (slots : Slot → Endpoint) : Bool := (slots 0).active && (slots 1).active

/-- `ResetGeneration`. -/
def resetGeneration (key : GenerationKey) : GenerationState := { key := key }

/-- The registration of an endpoint in a slot. -/
def bindSlot (slots : Slot → Endpoint) (i : Slot) (addr : SockAddr) : Slot → Endpoint :=
  Function.update slots i ⟨addr, true⟩

/-- `FindSlotByEndpoint`. -/
def findSlotByEndpoint (slots : Slot → Endpoint) (from_ : SockAddr) : Option Slot :=
  if (slots 0).active && (slots 0).addr == from_ then some 0
  else if (slots 1).active && (slots 1).addr == from_ then some 1
  else none

/-- `FindSlotByIp`; an ambiguous address finds no slot. -/
def findSlotByIp (slots : Slot → Endpoint) (from_ : SockAddr) : Option Slot :=
  match (slots 0).active && sameIp (slots 0).addr from_,
      (slots 1).active && sameIp (slots 1).addr from_ with
  | true, false => some 0
  | false, true => some 1
  | _, _ => none

/-- The unique slot with the declared port. -/
def findSlotByPort (slots : Slot → Endpoint) (declaredPort : UInt16) : Option Slot :=
  match (slots 0).active && (slots 0).addr.port == declaredPort,
      (slots 1).active && (slots 1).addr.port == declaredPort with
  | true, false => some 0
  | false, true => some 1
  | _, _ => none

/-- `FindSlotForRegistration`. -/
def findSlotForRegistration (slots : Slot → Endpoint) (from_ : SockAddr) (declaredPort : UInt16) :
    Option Slot :=
  match findSlotByEndpoint slots from_ with
  | some i => some i
  | none =>
    if (slots 0).active = false then some 0
    else if (slots 1).active = false then some 1
    else
      match findSlotByIp slots from_ with
      | some i => some i
      | none => if declaredPort ≠ 0 then findSlotByPort slots declaredPort else none

/-! ## Datagrams -/

/-- A datagram as `recvfrom` reports it. -/
structure Datagram where
  /-- The sender. -/
  from_ : SockAddr
  /-- The payload on the wire. -/
  payload : List UInt8
deriving DecidableEq, Repr

/-- What of the payload fits into the receive buffer. -/
def Datagram.buf (d : Datagram) : List UInt8 := d.payload.take kMaxPacket

/-- Is it a health probe? -/
def isHealth (buf : List UInt8) : Bool := buf.length == 4 && buf.take 4 == kMagicHealth

/-- `isRegLegacy`. -/
def isRegLegacy (buf : List UInt8) : Bool :=
  buf.length == kRegPacketLenLegacy && buf.take 4 == kMagicReg

/-- `isRegV2`. -/
def isRegV2 (buf : List UInt8) : Bool :=
  buf.length == kRegPacketLenV2 && buf.take 4 == kMagicReg

/-- `isRegV3`. -/
def isRegV3 (buf : List UInt8) : Bool :=
  buf.length == kRegPacketLenV3 && buf.take 4 == kMagicReg &&
    buf.getD 36 0 == kRegistrationVersionV3

/-- The player slot of a v3 registration, unless its byte is out of range. -/
def playerSlot (buf : List UInt8) : Option Slot :=
  if buf.getD 37 0 = 0 then some 0 else if buf.getD 37 0 = 1 then some 1 else none

/-- The generation key of a v3 registration. -/
def generationKey (buf : List UInt8) : GenerationKey :=
  { readyMessageNum := fun i => if i = 0 then readU64Be (buf.drop 38) else readU64Be (buf.drop 46)
    valid := true }

/-- The declared port of a legacy or v2 registration. -/
def declaredPort (buf : List UInt8) : UInt16 :=
  if isRegV2 buf then (buf.getD 36 0).toUInt16 <<< 8 ||| (buf.getD 37 0).toUInt16 else 0

/-- What the relay sends. -/
structure Sent where
  /-- The receiver. -/
  dest : SockAddr
  /-- The payload. -/
  payload : List UInt8
deriving DecidableEq, Repr

/-! ## The loop body -/

namespace RelayState

/-- A v3 registration of the slot `i` under the key, from `from_`: the registration goes to
the active generation when it has this key, and else to the pending generation, which is
started anew when it has another key and promoted when both its slots are there. -/
def registerV3 (st : RelayState) (key : GenerationKey) (i : Slot) (from_ : SockAddr) :
    RelayState × List UInt8 :=
  if sameGeneration st.activeGeneration.key key then
    let target := { st.activeGeneration with slots := bindSlot st.activeGeneration.slots i from_ }
    ({ st with activeGeneration := target },
      if bothSlotsActive target.slots then kRespRegistered else kRespWaiting)
  else
    let pending :=
      if sameGeneration st.pendingGeneration.key key then st.pendingGeneration
      else resetGeneration key
    let target := { pending with slots := bindSlot pending.slots i from_ }
    if bothSlotsActive target.slots then
      ({ st with activeGeneration := target, pendingGeneration := {} }, kRespRegistered)
    else ({ st with pendingGeneration := target }, kRespWaiting)

/-- The branch of the v3 registrations. -/
def onRegV3 (st : RelayState) (token : List UInt8) (from_ : SockAddr) (buf : List UInt8) :
    RelayState × List Sent :=
  if tokenMatches token (buf.drop 4) then
    match playerSlot buf with
    | none => (st, [])
    | some i =>
      let (st', resp) := st.registerV3 (generationKey buf) i from_
      (st', [⟨from_, resp⟩])
  else (st, [])

/-- The branch of the legacy and v2 registrations. -/
def onRegLegacy (st : RelayState) (token : List UInt8) (from_ : SockAddr) (buf : List UInt8) :
    RelayState × List Sent :=
  if tokenMatches token (buf.drop 4) then
    match findSlotForRegistration st.slots from_ (declaredPort buf) with
    | none => (st, [])
    | some i =>
      let rematchRebind := (st.slots i).active && (st.slots i).addr != from_
      let bound := bindSlot st.slots i from_
      let slots :=
        if rematchRebind then
          Function.update bound i.peer { bound i.peer with active := false }
        else bound
      ({ st with slots := slots },
        [⟨from_, if bothSlotsActive slots then kRespRegistered else kRespWaiting⟩])
  else (st, [])

/-- The slots that data is forwarded between. -/
def forwardingSlots (st : RelayState) : Slot → Endpoint :=
  if st.activeGeneration.key.valid then st.activeGeneration.slots else st.slots

/-- The branch of everything else: data is forwarded to the other slot.  Without an active
generation an unknown port is taken for a rebind of the slot with its address. -/
def onData (st : RelayState) (from_ : SockAddr) (buf : List UInt8) : RelayState × List Sent :=
  match findSlotByEndpoint st.forwardingSlots from_ with
  | some i =>
    (st, if (st.forwardingSlots i.peer).active then
      [⟨(st.forwardingSlots i.peer).addr, buf⟩] else [])
  | none =>
    if st.activeGeneration.key.valid then (st, [])
    else
      match findSlotByIp st.slots from_ with
      | none => (st, [])
      | some i =>
        ({ st with slots := Function.update st.slots i { st.slots i with addr := from_ } },
          if (st.slots i.peer).active then [⟨(st.slots i.peer).addr, buf⟩] else [])

/-- The loop body of `main`. -/
def receive (st : RelayState) (token : List UInt8) (d : Datagram) : RelayState × List Sent :=
  let buf := d.buf
  if buf = [] then (st, [])
  else if isHealth buf then (st, [⟨d.from_, kRespHealth⟩])
  else if isRegV3 buf then st.onRegV3 token d.from_ buf
  else if isRegLegacy buf || isRegV2 buf then st.onRegLegacy token d.from_ buf
  else st.onData d.from_ buf

end RelayState

/-- One turn of the loop: what is sent, and the next state. -/
def RelayState.next (token : List UInt8) (st : RelayState) (d : Datagram) :
    Option (List Sent × RelayState) :=
  some ((st.receive token d).2, (st.receive token d).1)

/-- The relay as a transition system, for the token it was started with. -/
def relayLTS (token : List UInt8) : LTS RelayState Datagram (List Sent) :=
  .ofFun (· = {}) (RelayState.next token)

/-- An entry of the relay's log. -/
abbrev RelayEntry := Entry RelayState Datagram (List Sent)

/-- A list of datagrams whose log passes a test. -/
lemma exists_relayRun_of_exec {token : List UInt8} (ds : List Datagram)
    {p : List RelayEntry → RelayState → Prop} [∀ log st, Decidable (p log st)]
    (h : (LTS.exec (RelayState.next token) {} [] ds).any (fun r => decide (p r.1 r.2)) = true) :
    ∃ log st, (relayLTS token).Run log st ∧ p log st := by
  obtain ⟨log, st, hpath, hp⟩ := LTS.exists_path_of_exec ds h
  exact ⟨log, st, ⟨{}, rfl, hpath⟩, hp⟩

end Relay
end Sf4e
