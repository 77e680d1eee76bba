/-
# Datagrams on the GGPO port

The port of GGPO is open to everybody, and the program itself uses it for registrations,
probes and punches before GGPO binds it.  `IsValidUdpMsg` decides what GGPO may look at.  A
read of a byte that is not in the datagram has no value here, so that "decides without reading
outside" is something to prove.

How large the parts of a `UdpMsg` are is GGPO's business and a parameter; that its header is
packed and has the type in its fifth byte is not.
-/
import Sf4e.Relay.Registration

namespace Sf4e
namespace Ggpo

open Relay

/-! ## Messages of GGPO -/

/-- `UdpMsg::MsgType`, without `Invalid`. -/
inductive MsgType
  | syncRequest | syncReply | input | qualityReport | qualityReply | keepAlive | inputAck
deriving DecidableEq

/-- The number of a type in the header. -/
def MsgType.code : MsgType → UInt8
  | syncRequest => 1
  | syncReply => 2
  | input => 3
  | qualityReport => 4
  | qualityReply => 5
  | keepAlive => 6
  | inputAck => 7

/-- The type with a number. -/
def MsgType.ofCode (code : UInt8) : Option MsgType :=
  if code = 1 then some syncRequest
  else if code = 2 then some syncReply
  else if code = 3 then some input
  else if code = 4 then some qualityReport
  else if code = 5 then some qualityReply
  else if code = 6 then some keepAlive
  else if code = 7 then some inputAck
  else none

@[simp] lemma MsgType.ofCode_code (t : MsgType) : ofCode t.code = some t := by
  cases t <;> decide

/-- Numbers above the types'. -/
lemma MsgType.ofCode_eq_none {code : UInt8} (h : 7 < code) : ofCode code = none := by
  have hlt : 7 < code.toNat := h
  have hne {n : UInt8} (hn : n.toNat ≤ 7) : code ≠ n := by
    rintro rfl
    omega
  simp [ofCode, hne]

/-- `sizeof(msg->hdr)`: magic, sequence number and type, packed. -/
def sizeofHdr : ℕ := 5

/-- `offsetof(UdpMsg, hdr.type)`. -/
def offsetofType : ℕ := 4

/-- The sizes in a `UdpMsg`. -/
structure UdpMsgLayout where
  /-- `sizeof(msg->u.sync_request)`, and so on. -/
  syncRequest : ℕ
  syncReply : ℕ
  qualityReport : ℕ
  qualityReply : ℕ
  inputAck : ℕ
  /-- `offsetof(UdpMsg, u.input.num_bits)`. -/
  offsetofNumBits : ℕ
  /-- `offsetof(UdpMsg, u.input.bits)`. -/
  offsetofBits : ℕ
  /-- `sizeof(msg->u.input.bits)`. -/
  sizeofBits : ℕ
  /-- The number of bits comes before the bits. -/
  numBits_le : offsetofNumBits + 2 ≤ offsetofBits

/-- The layout of a packed `UdpMsg` for four players. -/
def packedLayout : UdpMsgLayout := ⟨7, 4, 5, 4, 4, 29, 32, 4096, by decide⟩

/-! ## The check -/

/-- A byte of the datagram. -/
def readU8 (datagram : List UInt8) (offset : ℕ) : Option UInt8 := datagram[offset]?

/-- A 16-bit number in host byte order. -/
def readU16 (datagram : List UInt8) (offset : ℕ) : Option ℕ := do
  let low ← readU8 datagram offset
  let high ← readU8 datagram (offset + 1)
  return low.toNat + 256 * high.toNat

/-- The cases of the switch in `IsValidUdpMsg`. -/
def isValidOfType (layout : UdpMsgLayout) (msg : List UInt8) : MsgType → Option Bool
  | .syncRequest => some (msg.length == sizeofHdr + layout.syncRequest)
  | .syncReply => some (msg.length == sizeofHdr + layout.syncReply)
  | .qualityReport => some (msg.length == sizeofHdr + layout.qualityReport)
  | .qualityReply => some (msg.length == sizeofHdr + layout.qualityReply)
  | .keepAlive => some (msg.length == sizeofHdr)
  | .inputAck => some (msg.length == sizeofHdr + layout.inputAck)
  | .input =>
    if msg.length < layout.offsetofBits then some false
    else (readU16 msg layout.offsetofNumBits).map fun numBits =>
      let bitBytes := (numBits + 7) / 8
      if layout.sizeofBits < bitBytes then false
      else msg.length == layout.offsetofBits + bitBytes

/-- `IsValidUdpMsg`; `none` would be a read outside the datagram. -/
def isValidUdpMsg (layout : UdpMsgLayout) : Option (List UInt8) → Option Bool
  | none => some false
  | some msg =>
    if msg.length < sizeofHdr then some false
    else
      match readU8 msg offsetofType with
      | none => none
      | some type =>
        match MsgType.ofCode type with
        | some t => isValidOfType layout msg t
        | none => some false

/-- `UdpProtocol::OnMsg`: what is not valid is dropped before it is dispatched. -/
def onMsg {σ : Type*} (layout : UdpMsgLayout) (dispatch : List UInt8 → σ → σ)
    (msg : List UInt8) (s : σ) : Option σ :=
  (isValidUdpMsg layout (some msg)).map fun valid => if valid then dispatch msg s else s

/-! ## What GGPO sends -/

/-- `UdpMsg::PacketSize`. -/
def packetSize (layout : UdpMsgLayout) (numBits : ℕ) : MsgType → ℕ
  | .syncRequest => sizeofHdr + layout.syncRequest
  | .syncReply => sizeofHdr + layout.syncReply
  | .qualityReport => sizeofHdr + layout.qualityReport
  | .qualityReply => sizeofHdr + layout.qualityReply
  | .keepAlive => sizeofHdr
  | .inputAck => sizeofHdr + layout.inputAck
  | .input => layout.offsetofBits + (numBits + 7) / 8

/-- The type of a datagram. -/
def typeOf (msg : List UInt8) : Option MsgType := msg[offsetofType]?.bind MsgType.ofCode

/-- The number of input bits that a datagram announces. -/
def numBitsOf (layout : UdpMsgLayout) (msg : List UInt8) : ℕ :=
  (msg.getD layout.offsetofNumBits 0).toNat + 256 * (msg.getD (layout.offsetofNumBits + 1) 0).toNat

/-- The datagram has the length of its type, as GGPO sends it. -/
structure WellSized (layout : UdpMsgLayout) (msg : List UInt8) (t : MsgType) : Prop where
  type : typeOf msg = some t
  length : msg.length = packetSize layout (numBitsOf layout msg) t
  /-- Input bits fit into their array. -/
  bits : t = .input → numBitsOf layout msg ≤ 8 * layout.sizeofBits

variable {layout : UdpMsgLayout} {msg : List UInt8}

lemma readU16_eq {offset : ℕ} (h : offset + 2 ≤ msg.length) :
    readU16 msg offset =
      some ((msg.getD offset 0).toNat + 256 * (msg.getD (offset + 1) 0).toNat) := by
  have hlow : readU8 msg offset = some (msg.getD offset 0) := by
    rw [readU8, List.getElem?_eq_getElem (by omega), List.getD_eq_getElem _ _ (by omega)]
  have hhigh : readU8 msg (offset + 1) = some (msg.getD (offset + 1) 0) := by
    rw [readU8, List.getElem?_eq_getElem (by omega), List.getD_eq_getElem _ _ (by omega)]
  simp [readU16, hlow, hhigh]

lemma typeOf_eq_none_of_short (h : msg.length < sizeofHdr) : typeOf msg = none := by
  have hout : msg[offsetofType]? = none :=
    List.getElem?_eq_none (by simp only [sizeofHdr, offsetofType] at h ⊢; omega)
  simp [typeOf, hout]

/-- The switch is on the type of the datagram. -/
lemma isValidUdpMsg_eq :
    isValidUdpMsg layout (some msg) =
      match typeOf msg with
      | some t => isValidOfType layout msg t
      | none => some false := by
  by_cases hshort : msg.length < sizeofHdr
  · rw [isValidUdpMsg, if_pos hshort, typeOf_eq_none_of_short hshort]
  · have hin : offsetofType < msg.length := by
      simp only [sizeofHdr, offsetofType] at hshort ⊢
      omega
    have hread : readU8 msg offsetofType = some msg[offsetofType] := List.getElem?_eq_getElem hin
    have htype : typeOf msg = MsgType.ofCode msg[offsetofType] := by
      rw [typeOf, List.getElem?_eq_getElem hin, Option.bind_some]
    rw [isValidUdpMsg, if_neg hshort, htype]
    simp only [hread]

/-- A datagram of no known type is not valid. -/
lemma isValidUdpMsg_of_typeOf_none (h : typeOf msg = none) :
    isValidUdpMsg layout (some msg) = some false := by
  rw [isValidUdpMsg_eq]
  simp only [h]

lemma wellSized_iff {t : MsgType} (h : typeOf msg = some t) (hinput : t ≠ .input) :
    WellSized layout msg t ↔ msg.length = packetSize layout (numBitsOf layout msg) t :=
  ⟨fun hw => hw.length, fun hlength => ⟨h, hlength, fun heq => absurd heq hinput⟩⟩

/-- **The check.**  It reads nothing outside the datagram, and accepts exactly what is well
sized for its type. -/
lemma isValidUdpMsg_of_typeOf (layout : UdpMsgLayout) {t : MsgType} (h : typeOf msg = some t) :
    ∃ valid, isValidUdpMsg layout (some msg) = some valid ∧
      (valid = true ↔ WellSized layout msg t) := by
  rw [isValidUdpMsg_eq]
  simp only [h]
  cases t with
  | input =>
    by_cases hshort : msg.length < layout.offsetofBits
    · refine ⟨false, if_pos hshort, iff_of_false (by simp) fun hw => ?_⟩
      have hlength := hw.length
      simp only [packetSize] at hlength
      omega
    · have hread : readU16 msg layout.offsetofNumBits = some (numBitsOf layout msg) :=
        readU16_eq (layout.numBits_le.trans (not_lt.1 hshort))
      simp only [isValidOfType, if_neg hshort, hread, Option.map_some]
      refine ⟨_, rfl, ?_⟩
      constructor
      · intro hvalid
        split at hvalid
        · cases hvalid
        · exact ⟨h, beq_iff_eq.1 hvalid, fun _ => by omega⟩
      · intro hw
        have hbits := hw.bits rfl
        rw [if_neg (by omega)]
        exact beq_iff_eq.2 hw.length
  | syncRequest | syncReply | qualityReport | qualityReply | keepAlive | inputAck =>
    refine ⟨_, rfl, ?_⟩
    rw [wellSized_iff h (by simp)]
    exact beq_iff_eq

/-! ## What the program itself sends -/

/-- A datagram of the relay's protocol, of the probes or of the punches. -/
inductive Control : List UInt8 → Prop
  | registered : Control kRespRegistered
  | waiting : Control kRespWaiting
  | health : Control kMagicHealth
  | healthReply : Control kRespHealth
  | punch : Control (ascii "SF4E_PUNCH")
  | probe : Control (ascii "SF4E_PROBE")
  /-- A registration without a version. -/
  | legacy {token : List UInt8} (htoken : isHexToken token = true) :
      Control (kMagicReg ++ token)
  /-- A registration with the declared port. -/
  | v2 {token : List UInt8} (htoken : isHexToken token = true) (high low : UInt8) :
      Control (kMagicReg ++ token ++ [high, low])
  /-- A registration with slot and key. -/
  | v3 {token : List UInt8} (htoken : isHexToken token = true) (i : Slot)
      (readyMessageNum : Slot → UInt64) :
      Control (registrationPacket token i readyMessageNum)

/-- The digits of a token are no message types. -/
lemma typeOf_registration {token rest : List UInt8} (htoken : isHexToken token = true) :
    typeOf (kMagicReg ++ token ++ rest) = none := by
  have hlength := length_of_isHexToken htoken
  simp only [isHexToken, Bool.and_eq_true, List.all_eq_true] at htoken
  obtain ⟨digit, token, rfl⟩ := List.exists_cons_of_length_eq_add_one hlength
  have hdigit := htoken.2 digit List.mem_cons_self
  have hhigh : 7 < digit := by
    simp only [isxdigit, Bool.or_eq_true, Bool.and_eq_true, decide_eq_true_eq,
      UInt8.le_iff_toNat_le] at hdigit
    have hle : 48 ≤ digit.toNat := by
      rcases hdigit with (⟨hle, -⟩ | ⟨hle, -⟩) | ⟨hle, -⟩
      · exact hle
      · exact le_trans (by decide) hle
      · exact le_trans (by decide) hle
    show 7 < digit.toNat
    omega
  have hfifth : (kMagicReg ++ digit :: token ++ rest)[offsetofType]? = some digit := rfl
  rw [typeOf, hfifth, Option.bind_some, MsgType.ofCode_eq_none hhigh]

/-- None of them has the type of a message of GGPO. -/
lemma typeOf_of_control (h : Control msg) : typeOf msg = none := by
  cases h with
  | registered => decide
  | waiting => decide
  | health => decide
  | healthReply => decide
  | punch => decide
  | probe => decide
  | legacy htoken =>
    rw [← List.append_nil (kMagicReg ++ _)]
    exact typeOf_registration htoken
  | v2 htoken high low => exact typeOf_registration htoken
  | v3 htoken i readyMessageNum =>
    have htake := List.take_of_length_le (length_of_isHexToken htoken).le
    rw [registrationPacket, htake, List.append_assoc, List.append_assoc]
    exact typeOf_registration htoken

/-- What the program itself sends never reaches GGPO's handlers. -/
theorem onMsg_of_control {σ : Type*} (dispatch : List UInt8 → σ → σ) (s : σ)
    (h : Control msg) : onMsg layout dispatch msg s = some s := by
  rw [onMsg, isValidUdpMsg_of_typeOf_none (typeOf_of_control h)]
  rfl

/-- **Validation of datagrams.**  For every layout and every datagram the check reads nothing
outside the datagram; what it accepts has exactly the length of its type; it accepts everything
that has the length GGPO sends, with any number of input bits that fit; and it rejects
everything the program itself sends on this port. -/
theorem isValidUdpMsg_spec (layout : UdpMsgLayout) (msg : List UInt8) :
    (∃ valid, isValidUdpMsg layout (some msg) = some valid) ∧
    (isValidUdpMsg layout (some msg) = some true →
      ∃ t, typeOf msg = some t ∧ msg.length = packetSize layout (numBitsOf layout msg) t) ∧
    (∀ t, WellSized layout msg t → isValidUdpMsg layout (some msg) = some true) ∧
    (Control msg → isValidUdpMsg layout (some msg) = some false) := by
  refine ⟨?_, ?_, ?_, fun h => isValidUdpMsg_of_typeOf_none (typeOf_of_control h)⟩
  · cases htype : typeOf msg with
    | none => exact ⟨false, isValidUdpMsg_of_typeOf_none htype⟩
    | some t =>
      obtain ⟨valid, hvalid, -⟩ := isValidUdpMsg_of_typeOf layout htype
      exact ⟨valid, hvalid⟩
  · intro haccept
    cases htype : typeOf msg with
    | none =>
      rw [isValidUdpMsg_of_typeOf_none htype] at haccept
      cases haccept
    | some t =>
      obtain ⟨valid, hvalid, hiff⟩ := isValidUdpMsg_of_typeOf layout htype
      rw [hvalid] at haccept
      exact ⟨t, rfl, (hiff.1 (Option.some.inj haccept)).length⟩
  · intro t hw
    obtain ⟨valid, hvalid, hiff⟩ := isValidUdpMsg_of_typeOf layout hw.type
    rw [hvalid, hiff.2 hw]

/-- A synchronisation request of twelve bytes is well sized. -/
example : isValidUdpMsg packedLayout (some [0x34, 0x12, 1, 0, 1, 0x12, 0x34, 0x56, 0x78, 0, 0, 1]) =
    some true := by decide

end Ggpo
end Sf4e
