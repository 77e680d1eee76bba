/-
# What a datagram does to the slots

The relay searches a slot for a legacy or v2 registration by four rules, one after the
other, and a slot for data by two.  The file turns each search into a list of cases and says
what the relay does with a datagram of each kind.
-/
import Sf4e.Relay.Stale

namespace Sf4e
namespace Relay

open Trace RelayState

variable {slots : Slot → Endpoint} {from_ addr : SockAddr} {i j : Slot}

/-! ## Slots -/

lemma Slot.eq_or_eq_peer : ∀ i j : Slot, j = i ∨ j = i.peer := by decide

@[simp] lemma Slot.peer_peer : ∀ i : Slot, i.peer.peer = i := by decide

lemma Slot.peer_zero : Slot.peer 0 = 1 := by decide

lemma Slot.peer_one : Slot.peer 1 = 0 := by decide

/-- The endpoint holds the slot. -/
def Holds (slots : Slot → Endpoint) (addr : SockAddr) (i : Slot) : Prop := slots i = ⟨addr, true⟩

/-- An endpoint of the same host holds the slot. -/
def HoldsIp (slots : Slot → Endpoint) (addr : SockAddr) (i : Slot) : Prop :=
  (slots i).active = true ∧ (slots i).addr.ip = addr.ip

instance : Decidable (Holds slots addr i) := inferInstanceAs (Decidable (_ = _))

instance : Decidable (HoldsIp slots addr i) := inferInstanceAs (Decidable (_ ∧ _))

lemma holds_iff : Holds slots addr i ↔ (slots i).active = true ∧ (slots i).addr = addr := by
  unfold Holds
  cases slots i with
  | mk a active => simp [and_comm]

lemma Holds.active (h : Holds slots addr i) : (slots i).active = true := (holds_iff.1 h).1

lemma Holds.holdsIp (h : Holds slots addr i) : HoldsIp slots addr i :=
  ⟨h.active, by rw [(holds_iff.1 h).2]⟩

lemma eq_some_of_findSlotByEndpoint (h : findSlotByEndpoint slots from_ = some i) :
    Holds slots from_ i := by
  rw [holds_iff]
  unfold findSlotByEndpoint at h
  split at h
  · rename_i h₀
    obtain rfl := Option.some.inj h
    simpa using h₀
  · split at h
    · rename_i h₁
      obtain rfl := Option.some.inj h
      simpa using h₁
    · simp at h

lemma findSlotByEndpoint_eq_none :
    findSlotByEndpoint slots from_ = none ↔ ∀ i, ¬ Holds slots from_ i := by
  simp only [Fin.forall_fin_two, holds_iff]
  unfold findSlotByEndpoint
  split
  · simp_all
  · split
    · simp_all
    · simp_all

lemma findSlotByIp_eq_some :
    findSlotByIp slots from_ = some i ↔ HoldsIp slots from_ i ∧ ¬ HoldsIp slots from_ i.peer := by
  have hbool (j : Slot) :
      HoldsIp slots from_ j ↔ ((slots j).active && sameIp (slots j).addr from_) = true := by
    simp [HoldsIp, sameIp]
  rw [hbool, hbool]
  revert i
  simp only [Fin.forall_fin_two, findSlotByIp, Slot.peer_zero, Slot.peer_one]
  generalize ((slots 0).active && sameIp (slots 0).addr from_) = b₀
  generalize ((slots 1).active && sameIp (slots 1).addr from_) = b₁
  revert b₀ b₁
  decide

/-- The rules by which a slot is found for a registration, in their order. -/
inductive SlotFor (slots : Slot → Endpoint) (from_ : SockAddr) : Slot → Prop
  /-- The endpoint holds the slot already. -/
  | exact {i : Slot} (hi : Holds slots from_ i) : SlotFor slots from_ i
  /-- The slot is free. -/
  | free {i : Slot} (hnone : ∀ j, ¬ Holds slots from_ j) (hi : (slots i).active = false) :
      SlotFor slots from_ i
  /-- No slot is free, and this one alone is held by an endpoint of the same host. -/
  | sameIp {i : Slot} (hnone : ∀ j, ¬ Holds slots from_ j) (hall : ∀ j, (slots j).active = true)
      (hi : HoldsIp slots from_ i ∧ ¬ HoldsIp slots from_ i.peer) : SlotFor slots from_ i
  /-- No slot is free and the host does not tell; the declared port does. -/
  | declared {i : Slot} (hnone : ∀ j, ¬ Holds slots from_ j) (hall : ∀ j, (slots j).active = true)
      (hip : ∀ j, HoldsIp slots from_ j → HoldsIp slots from_ j.peer) : SlotFor slots from_ i

/-- No rule finds a slot. -/
structure NoSlotFor (slots : Slot → Endpoint) (from_ : SockAddr) : Prop where
  /-- The endpoint holds no slot. -/
  unheld : ∀ j, ¬ Holds slots from_ j
  /-- No slot is free. -/
  full : ∀ j, (slots j).active = true
  /-- Both slots or none are held by endpoints of the host. -/
  ambiguous : ∀ j, HoldsIp slots from_ j → HoldsIp slots from_ j.peer

/-- **Inversion of the search for a slot.** -/
lemma slotFor_cases (slots : Slot → Endpoint) (from_ : SockAddr) (port : UInt16) :
    (∃ i, findSlotForRegistration slots from_ port = some i ∧ SlotFor slots from_ i) ∨
      findSlotForRegistration slots from_ port = none ∧ NoSlotFor slots from_ := by
  unfold findSlotForRegistration
  cases hend : findSlotByEndpoint slots from_ with
  | some i => exact .inl ⟨i, rfl, .exact (eq_some_of_findSlotByEndpoint hend)⟩
  | none =>
    have hnone := findSlotByEndpoint_eq_none.1 hend
    by_cases h₀ : (slots 0).active = false
    · exact .inl ⟨0, by simp [h₀], .free hnone h₀⟩
    by_cases h₁ : (slots 1).active = false
    · exact .inl ⟨1, by simp [h₀, h₁], .free hnone h₁⟩
    have hall : ∀ j, (slots j).active = true :=
      Fin.forall_fin_two.2 ⟨by simpa using h₀, by simpa using h₁⟩
    dsimp only
    rw [if_neg h₀, if_neg h₁]
    cases hip : findSlotByIp slots from_ with
    | some i =>
      exact .inl ⟨i, rfl, .sameIp hnone hall (findSlotByIp_eq_some.1 hip)⟩
    | none =>
      have hamb : ∀ j, HoldsIp slots from_ j → HoldsIp slots from_ j.peer := by
        intro j hj
        by_contra hpeer
        rw [findSlotByIp_eq_some.2 ⟨hj, hpeer⟩] at hip
        simp at hip
      dsimp only
      cases hport : (if port ≠ 0 then findSlotByPort slots port else none) with
      | some i => exact .inl ⟨i, rfl, .declared hnone hall hamb⟩
      | none => exact .inr ⟨rfl, hnone, hall, hamb⟩

/-! ## Legacy registrations -/

/-- The declared port of a legacy or v2 registration that carries the token. -/
def legacyRegistration? (token : List UInt8) (d : Datagram) : Option UInt16 :=
  if (isRegLegacy d.buf || isRegV2 d.buf) && tokenMatches token (d.buf.drop 4) then
    some (declaredPort d.buf)
  else none

/-- The slots after a registration of the slot `i`: when the slot moves to another endpoint,
the other slot has to register again. -/
def rebindSlot (slots : Slot → Endpoint) (i : Slot) (from_ : SockAddr) : Slot → Endpoint :=
  if (slots i).active && (slots i).addr != from_ then
    Function.update (bindSlot slots i from_) i.peer
      { bindSlot slots i from_ i.peer with active := false }
  else bindSlot slots i from_

@[simp] lemma rebindSlot_self (slots : Slot → Endpoint) (i : Slot) (from_ : SockAddr) :
    rebindSlot slots i from_ i = ⟨from_, true⟩ := by
  unfold rebindSlot
  split
  · rw [Function.update_of_ne i.peer_ne.symm, bindSlot_self]
  · rw [bindSlot_self]

/-- The other slot keeps its address, and is active as long as nothing moves. -/
lemma rebindSlot_peer (slots : Slot → Endpoint) (i : Slot) (from_ : SockAddr) :
    rebindSlot slots i from_ i.peer =
      ⟨(slots i.peer).addr, (slots i.peer).active &&
        !((slots i).active && (slots i).addr != from_)⟩ := by
  unfold rebindSlot
  split
  · rename_i hmoves
    rw [Function.update_self, bindSlot_of_ne _ i.peer_ne, hmoves]
    simp
  · rename_i hstays
    rw [bindSlot_of_ne _ i.peer_ne, Bool.eq_false_iff.2 hstays]
    simp

/-- What a legacy or v2 registration leads to. -/
inductive RegistersLegacy (st : RelayState) (from_ : SockAddr) : RelayState → List Sent → Prop
  /-- There is no slot for it. -/
  | reject (h : NoSlotFor st.slots from_) : RegistersLegacy st from_ st []
  /-- It is bound to a slot, and answered. -/
  | bind {i : Slot} (h : SlotFor st.slots from_ i) :
      RegistersLegacy st from_ { st with slots := rebindSlot st.slots i from_ }
        [⟨from_, if bothSlotsActive (rebindSlot st.slots i from_) then kRespRegistered
          else kRespWaiting⟩]

/-- A legacy registration is neither a probe nor a v3 registration. -/
lemma not_isRegV3_of_legacy {buf : List UInt8} (h : (isRegLegacy buf || isRegV2 buf) = true) :
    buf ≠ [] ∧ isHealth buf = false ∧ isRegV3 buf = false := by
  have hlen : buf.length = 36 ∨ buf.length = 38 := by
    simp only [isRegLegacy, isRegV2, Bool.or_eq_true, Bool.and_eq_true, beq_iff_eq] at h
    obtain ⟨hlen, -⟩ | ⟨hlen, -⟩ := h
    · exact .inl hlen
    · exact .inr hlen
  refine ⟨?_, ?_, ?_⟩
  · rintro rfl
    simp at hlen
  · obtain hlen | hlen := hlen
    · simp [isHealth, hlen]
    · simp [isHealth, hlen]
  · obtain hlen | hlen := hlen
    · simp [isRegV3, hlen, kRegPacketLenV3]
    · simp [isRegV3, hlen, kRegPacketLenV3]

variable {token : List UInt8} {d : Datagram}

/-- **Inversion of a legacy registration.** -/
lemma registersLegacy_receive {port : UInt16} (h : legacyRegistration? token d = some port)
    (st : RelayState) :
    RegistersLegacy st d.from_ (st.receive token d).1 (st.receive token d).2 := by
  obtain ⟨hreg, htoken⟩ : (isRegLegacy d.buf || isRegV2 d.buf) = true ∧
      tokenMatches token (d.buf.drop 4) = true := by
    unfold legacyRegistration? at h
    split at h
    · rename_i hboth
      exact Bool.and_eq_true _ _ ▸ hboth
    · simp at h
  obtain ⟨hne, hhealth, hv3⟩ := not_isRegV3_of_legacy hreg
  have hreceive : st.receive token d = st.onRegLegacy token d.from_ d.buf := by
    simp [receive, hne, hhealth, hv3, hreg]
  rw [hreceive]
  unfold onRegLegacy
  rw [if_pos htoken]
  obtain ⟨i, hi, hslot⟩ | ⟨hnone, hno⟩ := slotFor_cases st.slots d.from_ (declaredPort d.buf)
  · rw [hi]
    exact .bind hslot
  · rw [hnone]
    exact .reject hno

/-! ## Data -/

/-- The slot that a data datagram comes from. -/
inductive SourceSlot (st : RelayState) (from_ : SockAddr) : Slot → Prop
  /-- The sender holds the slot. -/
  | endpoint {i : Slot} (h : Holds st.forwardingSlots from_ i) : SourceSlot st from_ i
  /-- There is no active generation, the sender holds no slot, and one slot alone is held by
  an endpoint of its host. -/
  | rebind {i : Slot} (hgen : st.activeGeneration.key.valid = false)
      (hnone : ∀ j, ¬ Holds st.slots from_ j)
      (hi : HoldsIp st.slots from_ i ∧ ¬ HoldsIp st.slots from_ i.peer) : SourceSlot st from_ i

instance {st : RelayState} : Decidable (SourceSlot st from_ i) :=
  decidable_of_iff (Holds st.forwardingSlots from_ i ∨
      st.activeGeneration.key.valid = false ∧ (∀ j, ¬ Holds st.slots from_ j) ∧
        HoldsIp st.slots from_ i ∧ ¬ HoldsIp st.slots from_ i.peer) <| by
    constructor
    · rintro (h | ⟨hgen, hnone, hi⟩)
      · exact .endpoint h
      · exact .rebind hgen hnone hi
    · rintro (h | ⟨hgen, hnone, hi⟩)
      · exact .inl h
      · exact .inr ⟨hgen, hnone, hi⟩

/-- What is sent on of data that comes from the slot `i`. -/
def toPeer (slots : Slot → Endpoint) (i : Slot) (payload : List UInt8) : List Sent :=
  if (slots i.peer).active then [⟨(slots i.peer).addr, payload⟩] else []

/-- The slots after data came from another port of the host of the slot `i`. -/
def moveSlot (slots : Slot → Endpoint) (i : Slot) (from_ : SockAddr) : Slot → Endpoint :=
  Function.update slots i { slots i with addr := from_ }

@[simp] lemma moveSlot_self (slots : Slot → Endpoint) (i : Slot) (from_ : SockAddr) :
    moveSlot slots i from_ i = ⟨from_, (slots i).active⟩ := by simp [moveSlot]

@[simp] lemma moveSlot_peer (slots : Slot → Endpoint) (i : Slot) (from_ : SockAddr) :
    moveSlot slots i from_ i.peer = slots i.peer := by
  simp [moveSlot, Function.update_of_ne i.peer_ne]

/-- What data leads to. -/
inductive Carries (st : RelayState) (from_ : SockAddr) (buf : List UInt8) :
    RelayState → List Sent → Prop
  /-- It comes from nowhere. -/
  | unknown (h : ∀ i, ¬ SourceSlot st from_ i) : Carries st from_ buf st []
  /-- It comes from the holder of a slot. -/
  | endpoint {i : Slot} (h : Holds st.forwardingSlots from_ i) :
      Carries st from_ buf st (toPeer st.forwardingSlots i buf)
  /-- It comes from another port of the host that alone holds a slot. -/
  | rebind {i : Slot} (hgen : st.activeGeneration.key.valid = false)
      (hnone : ∀ j, ¬ Holds st.slots from_ j)
      (hi : HoldsIp st.slots from_ i ∧ ¬ HoldsIp st.slots from_ i.peer) :
      Carries st from_ buf { st with slots := moveSlot st.slots i from_ } (toPeer st.slots i buf)

lemma forwardingSlots_of_not_valid {st : RelayState}
    (h : st.activeGeneration.key.valid = false) : st.forwardingSlots = st.slots := by
  simp [forwardingSlots, h]

/-- **Inversion of data.** -/
lemma carries_receive (h : isData d.buf = true) (st : RelayState) :
    Carries st d.from_ d.buf (st.receive token d).1 (st.receive token d).2 := by
  rw [receive_of_isData h]
  unfold onData
  cases hend : findSlotByEndpoint st.forwardingSlots d.from_ with
  | some i => exact .endpoint (eq_some_of_findSlotByEndpoint hend)
  | none =>
    have hnone := findSlotByEndpoint_eq_none.1 hend
    cases hgen : st.activeGeneration.key.valid with
    | true =>
      simp only [if_true]
      refine .unknown fun i hi => ?_
      cases hi with
      | endpoint hi => exact hnone i hi
      | rebind hinvalid => simp [hinvalid] at hgen
    | false =>
      rw [forwardingSlots_of_not_valid hgen] at hnone
      simp only [Bool.false_eq_true, if_false]
      cases hip : findSlotByIp st.slots d.from_ with
      | some i => exact .rebind hgen hnone (findSlotByIp_eq_some.1 hip)
      | none =>
        refine .unknown fun i hi => ?_
        cases hi with
        | endpoint hi => exact hnone i (forwardingSlots_of_not_valid hgen ▸ hi)
        | rebind _ _ hi =>
          rw [findSlotByIp_eq_some.2 hi] at hip
          simp at hip

/-! ## The other datagrams -/

/-- A datagram that is neither a registration with the token nor data changes nothing. -/
lemma receive_of_other (hv3 : registration? token d = none)
    (hlegacy : legacyRegistration? token d = none) (hdata : isData d.buf = false)
    (st : RelayState) : (st.receive token d).1 = st := by
  unfold receive
  dsimp only
  split
  · rfl
  · rename_i hne
    split
    · rfl
    · rename_i hhealth
      split
      · rename_i hreg
        unfold onRegV3
        split
        · rename_i htoken
          split
          · rfl
          · rename_i i hi
            simp [registration?, hreg, htoken, hi] at hv3
        · rfl
      · rename_i hreg
        split
        · rename_i hold
          -- it has a wrong token
          have htoken : tokenMatches token (d.buf.drop 4) ≠ true := by
            intro htoken
            simp [legacyRegistration?, hold, htoken] at hlegacy
          simp [onRegLegacy, htoken]
        · rename_i hold
          simp only [Bool.or_eq_true, not_or, Bool.not_eq_true] at hold
          simp [isData, hne, hhealth, hreg, hold] at hdata

end Relay
end Sf4e
