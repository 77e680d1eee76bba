/-
# Registrations with the UDP relay

A v3 registration names the room's token, a player slot and a key, the pair of message
numbers under which a match was agreed.  The file says what the relay takes for one and that
it reads what a client writes, lists the three ways in which a registration ends, and shows
that nothing else touches the generations.
-/
import Mathlib.Data.List.GetD
import Sf4e.Relay.Udp

namespace Sf4e
namespace Relay

open Trace RelayState

/-! ## Registrations -/

/-- The key and the slot that a datagram registers, when it is a v3 registration that
carries the token. -/
def registration? (token : List UInt8) (d : Datagram) : Option (GenerationKey × Slot) :=
  if isRegV3 d.buf && tokenMatches token (d.buf.drop 4) then
    (playerSlot d.buf).map fun i => (generationKey d.buf, i)
  else none

lemma valid_of_registration {token : List UInt8} {d : Datagram} {key : GenerationKey} {i : Slot}
    (h : registration? token d = some (key, i)) : key.valid = true := by
  unfold registration? at h
  split at h
  · obtain ⟨j, -, hj⟩ := Option.map_eq_some_iff.1 h
    rw [← (Prod.mk.inj hj).1]
    rfl
  · simp at h

/-! ## The packet of a registration -/

/-- `WriteU64Be`, of the client. -/
def writeU64Be (value : UInt64) : List UInt8 :=
  [(value >>> 56).toUInt8, (value >>> 48).toUInt8, (value >>> 40).toUInt8,
    (value >>> 32).toUInt8, (value >>> 24).toUInt8, (value >>> 16).toUInt8,
    (value >>> 8).toUInt8, value.toUInt8]

/-- The packet that `RegisterWithUdpRelay` sends. -/
def registrationPacket (roomToken : List UInt8) (i : Slot) (readyMessageNum : Slot → UInt64) :
    List UInt8 :=
  kMagicReg ++ roomToken.take 32 ++ [kRegistrationVersionV3, if i = 0 then 0 else 1] ++
    writeU64Be (readyMessageNum 0) ++ writeU64Be (readyMessageNum 1)

lemma shiftLeft_or_toUInt8 (w : UInt64) : (w >>> 8) <<< 8 ||| w.toUInt8.toUInt64 = w := by
  apply UInt64.toNat_inj.1
  have hw := w.toNat_lt
  simp [UInt64.toNat_or, UInt64.toNat_shiftLeft, UInt64.toNat_shiftRight]
  rw [Nat.shiftLeft_eq, Nat.shiftRight_eq_div_pow, Nat.mod_eq_of_lt (by omega), mul_comm]
  have := Nat.two_pow_add_eq_or_of_lt (i := 8) (b := w.toNat % 256) (by omega) (w.toNat / 2^8)
  omega

/-- What is written in big endian is read back. -/
lemma readU64Be_writeU64Be (v : UInt64) (rest : List UInt8) :
    readU64Be (writeU64Be v ++ rest) = v := by
  -- eight bytes of shifts, each undone by `shiftLeft_or_toUInt8`
  have hzero : (0 : UInt64) <<< 8 = (v >>> 56) >>> 8 <<< 8 := by
    apply UInt64.toNat_inj.1
    have hv := v.toNat_lt
    simp [UInt64.toNat_shiftLeft, UInt64.toNat_shiftRight, Nat.shiftRight_eq_div_pow]
    omega
  have hshift (a b : UInt64) (hb : a.toNat = b.toNat + 8) (hlt : a.toNat < 64) :
      v >>> a = (v >>> b) >>> 8 := by
    apply UInt64.toNat_inj.1
    have hb' : b.toNat % 64 = b.toNat := Nat.mod_eq_of_lt (by omega)
    have ha' : a.toNat % 64 = b.toNat + 8 := by rw [Nat.mod_eq_of_lt hlt, hb]
    simp [UInt64.toNat_shiftRight, ha', hb', Nat.shiftRight_add]
  simp only [readU64Be, writeU64Be, List.cons_append, List.nil_append, List.take_succ_cons,
    List.take_zero, List.foldl_cons, List.foldl_nil]
  rw [hzero, shiftLeft_or_toUInt8, hshift 56 48 rfl (by decide), shiftLeft_or_toUInt8,
    hshift 48 40 rfl (by decide), shiftLeft_or_toUInt8, hshift 40 32 rfl (by decide),
    shiftLeft_or_toUInt8, hshift 32 24 rfl (by decide), shiftLeft_or_toUInt8,
    hshift 24 16 rfl (by decide), shiftLeft_or_toUInt8, hshift 16 8 rfl (by decide),
    shiftLeft_or_toUInt8, shiftLeft_or_toUInt8]

lemma strncmpEq_self : ∀ (n : ℕ) (a : List UInt8), strncmpEq n a a = true
  | 0, _ => rfl
  | n + 1, a => by simp [strncmpEq, strncmpEq_self n a.tail]

lemma tokenMatches_self (token : List UInt8) : tokenMatches token token = true :=
  strncmpEq_self 32 _
lemma length_of_isHexToken {token : List UInt8} (h : isHexToken token = true) :
    token.length = 32 := by
  simp only [isHexToken, Bool.and_eq_true, beq_iff_eq] at h
  exact h.1

/-- The packet as the relay receives it: magic, token, and the fields from offset 36 on. -/
lemma buf_registrationPacket {token : List UInt8} (htoken : token.length = 32) (addr : SockAddr)
    (i : Slot) (nums : Slot → UInt64) :
    (⟨addr, registrationPacket token i nums⟩ : Datagram).buf =
      (kMagicReg ++ token) ++ (kRegistrationVersionV3 :: (if i = 0 then 0 else 1) ::
        (writeU64Be (nums 0) ++ (writeU64Be (nums 1) ++ []))) := by
  have hw (v : UInt64) : (writeU64Be v).length = 8 := rfl
  rw [Datagram.buf, registrationPacket, List.take_of_length_le htoken.le,
    List.take_of_length_le (by simp [htoken, hw, kMagicReg, ascii, kMaxPacket])]
  simp

lemma length_kMagicReg_append {token : List UInt8} (htoken : token.length = 32) :
    (kMagicReg ++ token).length = 36 := by simp [htoken, kMagicReg, ascii]

/-- The relay reads the slot of a client's packet. -/
lemma playerSlot_registrationPacket {token : List UInt8} (htoken : token.length = 32)
    (addr : SockAddr) (i : Slot) (nums : Slot → UInt64) :
    playerSlot (⟨addr, registrationPacket token i nums⟩ : Datagram).buf = some i := by
  have hhead := length_kMagicReg_append htoken
  rw [buf_registrationPacket htoken, playerSlot, List.getD_append_right _ _ _ _ (by omega), hhead]
  revert i
  simp [Fin.forall_fin_two]

/-- The relay reads the key of a client's packet. -/
lemma generationKey_registrationPacket {token : List UInt8} (htoken : token.length = 32)
    (addr : SockAddr) (i : Slot) (nums : Slot → UInt64) :
    generationKey (⟨addr, registrationPacket token i nums⟩ : Datagram).buf = ⟨nums, true⟩ := by
  have hhead := length_kMagicReg_append htoken
  have hdrop (d : ℕ) (l : List UInt8) :
      List.drop (36 + d) ((kMagicReg ++ token) ++ l) = List.drop d l := by
    rw [← hhead, List.drop_length_add_append]
  have h₀ : readU64Be (List.drop 38 (⟨addr, registrationPacket token i nums⟩ : Datagram).buf) =
      nums 0 := by
    rw [buf_registrationPacket htoken, hdrop 2]
    exact readU64Be_writeU64Be _ _
  have h₁ : readU64Be (List.drop 46 (⟨addr, registrationPacket token i nums⟩ : Datagram).buf) =
      nums 1 := by
    rw [buf_registrationPacket htoken, hdrop 10]
    exact readU64Be_writeU64Be _ _
  rw [generationKey, GenerationKey.mk.injEq]
  refine ⟨funext (Fin.forall_fin_two.2 ⟨h₀, h₁⟩), rfl⟩

/-- Whatever its token, the packet of a client registers nothing but its slot under its key. -/
lemma eq_of_registration_registrationPacket {expected token : List UInt8}
    (htoken : token.length = 32) {addr : SockAddr} {i j : Slot} {nums : Slot → UInt64}
    {key : GenerationKey}
    (h : registration? expected ⟨addr, registrationPacket token i nums⟩ = some (key, j)) :
    key = ⟨nums, true⟩ ∧ j = i := by
  unfold registration? at h
  split at h
  · rw [playerSlot_registrationPacket htoken, generationKey_registrationPacket htoken] at h
    simpa [eq_comm] using h
  · simp at h

/-- A packet of a client is a v3 registration. -/
lemma isRegV3_registrationPacket {token : List UInt8} (htoken : token.length = 32)
    (addr : SockAddr) (i : Slot) (nums : Slot → UInt64) :
    isRegV3 (⟨addr, registrationPacket token i nums⟩ : Datagram).buf = true := by
  have hhead := length_kMagicReg_append htoken
  have hw (v : UInt64) : (writeU64Be v).length = 8 := rfl
  rw [buf_registrationPacket htoken, isRegV3, List.getD_append_right _ _ _ _ (by omega), hhead]
  simp [kRegPacketLenV3, hw, htoken, kMagicReg, ascii]

/-- The token of a client's packet. -/
lemma token_registrationPacket {token : List UInt8} (htoken : token.length = 32)
    (addr : SockAddr) (i : Slot) (nums : Slot → UInt64) :
    ((⟨addr, registrationPacket token i nums⟩ : Datagram).buf.drop 4).take 32 = token := by
  rw [buf_registrationPacket htoken, List.append_assoc, List.drop_left' (by rfl),
    List.take_left' htoken]

/-- **Round trip of a registration.** The relay reads the packet of a client as the slot and
the key that it was made from. -/
theorem registration_registrationPacket {token : List UInt8} (htoken : isHexToken token = true)
    (addr : SockAddr) (i : Slot) (nums : Slot → UInt64) :
    registration? token ⟨addr, registrationPacket token i nums⟩ = some (⟨nums, true⟩, i) := by
  have htk := length_of_isHexToken htoken
  have htok : tokenMatches token
      ((⟨addr, registrationPacket token i nums⟩ : Datagram).buf.drop 4) = true := by
    have hself := tokenMatches_self token
    rw [tokenMatches, List.take_of_length_le htk.le] at hself ⊢
    rw [token_registrationPacket htk]
    exact hself
  simp [registration?, isRegV3_registrationPacket htk, htok, playerSlot_registrationPacket htk,
    generationKey_registrationPacket htk]

/-- A token, for the examples. -/
def roomToken : List UInt8 := List.replicate 32 97

/-- A key, for the examples. -/
def exampleKey (num₀ num₁ : UInt64) : GenerationKey := ⟨fun j => if j = 0 then num₀ else num₁, true⟩

/-- A registration from a port of one address, for the examples. -/
def registrationFrom (port : UInt16) (i : Slot) (num₀ num₁ : UInt64) : Datagram :=
  ⟨⟨1, port⟩, registrationPacket roomToken i (exampleKey num₀ num₁).readyMessageNum⟩

/-! ## The ends of a registration -/

lemma sameGeneration_iff {a key : GenerationKey} (hkey : key.valid = true) :
    sameGeneration a key = true ↔ a = key := by
  obtain ⟨nums, valid⟩ := a
  obtain ⟨nums', valid'⟩ := key
  obtain rfl : valid' = true := hkey
  simp only [sameGeneration, Bool.and_eq_true, beq_iff_eq, GenerationKey.mk.injEq, and_true]
  constructor
  · rintro ⟨⟨hv, h₀⟩, h₁⟩
    exact ⟨funext (Fin.forall_fin_two.2 ⟨h₀, h₁⟩), hv⟩
  · rintro ⟨rfl, rfl⟩
    exact ⟨⟨rfl, rfl⟩, rfl⟩

lemma bothSlotsActive_iff {slots : Slot → Endpoint} :
    bothSlotsActive slots = true ↔ ∀ i, (slots i).active = true := by
  simp [bothSlotsActive, Fin.forall_fin_two]

lemma Slot.peer_ne : ∀ i : Slot, i.peer ≠ i := by decide

@[simp] lemma bindSlot_self (slots : Slot → Endpoint) (i : Slot) (addr : SockAddr) :
    bindSlot slots i addr i = ⟨addr, true⟩ := by simp [bindSlot]

lemma bindSlot_of_ne {slots : Slot → Endpoint} {i j : Slot} (addr : SockAddr) (h : j ≠ i) :
    bindSlot slots i addr j = slots j := by simp [bindSlot, Function.update_of_ne h]

/-- A generation after the registration of one more slot. -/
def GenerationState.bind (g : GenerationState) (i : Slot) (addr : SockAddr) : GenerationState :=
  { g with slots := bindSlot g.slots i addr }

/-- The three ways in which a v3 registration ends. -/
inductive Registers (st : RelayState) (key : GenerationKey) (i : Slot) (addr : SockAddr) :
    RelayState → List UInt8 → Prop
  /-- The active generation has the key: the slot is refreshed. -/
  | refresh (hkey : st.activeGeneration.key = key) :
      Registers st key i addr { st with activeGeneration := st.activeGeneration.bind i addr }
        (if bothSlotsActive (bindSlot st.activeGeneration.slots i addr) then kRespRegistered
        else kRespWaiting)
  /-- The registration waits in a pending generation, `g` before it. -/
  | hold {g : GenerationState} (hkey : st.activeGeneration.key ≠ key)
      (hg : g = st.pendingGeneration ∧ st.pendingGeneration.key = key ∨
        g = resetGeneration key ∧ st.pendingGeneration.key ≠ key)
      (hone : bothSlotsActive (bindSlot g.slots i addr) = false) :
      Registers st key i addr { st with pendingGeneration := g.bind i addr } kRespWaiting
  /-- The pending generation is complete and replaces the active one. -/
  | promote (hkey : st.activeGeneration.key ≠ key) (hpending : st.pendingGeneration.key = key)
      (hboth : bothSlotsActive (bindSlot st.pendingGeneration.slots i addr) = true) :
      Registers st key i addr
        { st with
          activeGeneration := st.pendingGeneration.bind i addr
          pendingGeneration := {} } kRespRegistered

lemma mem_responses {p : Prop} [Decidable p] :
    (if p then kRespRegistered else kRespWaiting) ∈ [kRespRegistered, kRespWaiting] := by
  split <;> simp

lemma Registers.response {st st' : RelayState} {key : GenerationKey} {i : Slot} {addr : SockAddr}
    {resp : List UInt8} (h : Registers st key i addr st' resp) :
    resp ∈ [kRespRegistered, kRespWaiting] := by
  cases h with
  | refresh => exact mem_responses
  | hold => exact List.mem_cons_of_mem _ List.mem_cons_self
  | promote => exact List.mem_cons_self

/-- **Inversion of a v3 registration.** -/
lemma registers_registerV3 (st : RelayState) {key : GenerationKey} (hkey : key.valid = true)
    (i : Slot) (addr : SockAddr) :
    Registers st key i addr (st.registerV3 key i addr).1 (st.registerV3 key i addr).2 := by
  unfold registerV3
  split
  · rename_i hactive
    exact .refresh ((sameGeneration_iff hkey).1 hactive)
  · rename_i hactive
    have hne : st.activeGeneration.key ≠ key := fun h => hactive ((sameGeneration_iff hkey).2 h)
    dsimp only
    by_cases hpending : sameGeneration st.pendingGeneration.key key = true
    · rw [if_pos hpending]
      have heq := (sameGeneration_iff hkey).1 hpending
      split
      · rename_i hboth
        exact .promote hne heq hboth
      · rename_i hone
        exact .hold hne (Or.inl ⟨rfl, heq⟩) (Bool.eq_false_iff.2 hone)
    · rw [if_neg hpending]
      have hother : st.pendingGeneration.key ≠ key :=
        fun h => hpending ((sameGeneration_iff hkey).2 h)
      -- a generation just started has its other slot free
      have hfree : bothSlotsActive (bindSlot (resetGeneration key).slots i addr) = false := by
        rw [Bool.eq_false_iff, Ne, bothSlotsActive_iff]
        intro hall
        have hpeer := hall i.peer
        rw [bindSlot_of_ne addr i.peer_ne] at hpeer
        simp [resetGeneration] at hpeer
      simp only [hfree, Bool.false_eq_true, if_false]
      exact .hold hne (Or.inr ⟨rfl, hother⟩) hfree

/-! ## The loop body -/

lemma buf_ne_nil_of_isRegV3 {buf : List UInt8} (h : isRegV3 buf = true) :
    buf ≠ [] ∧ isHealth buf = false := by
  simp only [isRegV3, Bool.and_eq_true, beq_iff_eq] at h
  obtain ⟨⟨hlen, -⟩, -⟩ := h
  constructor
  · rintro rfl
    simp [kRegPacketLenV3] at hlen
  · simp [isHealth, hlen, kRegPacketLenV3]

/-- A registration is handled by `registerV3`, and answered to its sender. -/
lemma receive_of_registration {token : List UInt8} {d : Datagram} {key : GenerationKey}
    {i : Slot} (h : registration? token d = some (key, i)) (st : RelayState) :
    st.receive token d = ((st.registerV3 key i d.from_).1,
      [⟨d.from_, (st.registerV3 key i d.from_).2⟩]) := by
  unfold registration? at h
  split at h
  · rename_i hreg
    obtain ⟨hv3, htoken⟩ := Bool.and_eq_true _ _ ▸ hreg
    obtain ⟨hne, hhealth⟩ := buf_ne_nil_of_isRegV3 hv3
    obtain ⟨j, hj, hkey⟩ := Option.map_eq_some_iff.1 h
    obtain ⟨rfl, rfl⟩ := Prod.mk.inj hkey
    simp [receive, hne, hhealth, hv3, onRegV3, htoken, hj]
  · simp at h

/-- What the relay does with a datagram that is no registration. -/
inductive Passes (st : RelayState) (d : Datagram) : RelayState → List Sent → Prop
  /-- It is dropped. -/
  | drop : Passes st d st []
  /-- It is a health probe. -/
  | health : Passes st d st [⟨d.from_, kRespHealth⟩]
  /-- It is a legacy or v2 registration, which the generations know nothing of. -/
  | legacy (slots : Slot → Endpoint) {resp : List UInt8}
      (hresp : resp ∈ [kRespRegistered, kRespWaiting]) :
      Passes st d { st with slots := slots } [⟨d.from_, resp⟩]
  /-- It is data, which goes to the other slot, if it goes anywhere. -/
  | forward (slots : Slot → Endpoint) {out : List Sent} (hv3 : isRegV3 d.buf = false)
      (hout : ∀ o ∈ out, o.payload = d.buf) : Passes st d { st with slots := slots } out

lemma passes_onRegLegacy (st : RelayState) (token : List UInt8) (d : Datagram) :
    Passes st d (st.onRegLegacy token d.from_ d.buf).1
      (st.onRegLegacy token d.from_ d.buf).2 := by
  unfold onRegLegacy
  split
  · split
    · exact .drop
    · exact .legacy _ mem_responses
  · exact .drop

lemma passes_onData (st : RelayState) {d : Datagram} (hv3 : isRegV3 d.buf = false) :
    Passes st d (st.onData d.from_ d.buf).1 (st.onData d.from_ d.buf).2 := by
  have hout {p : Prop} [Decidable p] {dest : SockAddr} :
      ∀ o ∈ if p then [(⟨dest, d.buf⟩ : Sent)] else [], o.payload = d.buf := by
    intro o ho
    split at ho
    · rw [List.mem_singleton] at ho
      subst ho
      rfl
    · simp at ho
  unfold onData
  split
  · exact .forward st.slots hv3 hout
  · split
    · exact .drop
    · split
      · exact .drop
      · exact .forward _ hv3 hout

/-- **Inversion of a datagram that is no registration.** -/
lemma passes_receive {token : List UInt8} {d : Datagram} (h : registration? token d = none)
    (st : RelayState) : Passes st d (st.receive token d).1 (st.receive token d).2 := by
  unfold receive
  dsimp only
  split
  · exact .drop
  · split
    · exact .health
    · split
      · rename_i hv3
        -- it has a wrong token, or a slot out of range
        unfold onRegV3
        split
        · rename_i htoken
          split
          · exact .drop
          · rename_i i hi
            simp [registration?, hv3, htoken, hi] at h
        · exact .drop
      · rename_i hv3
        split
        · exact passes_onRegLegacy st token d
        · exact passes_onData st (by simpa using hv3)

/-- Nothing but a registration touches the generations. -/
lemma generations_of_not_registration {token : List UInt8} {d : Datagram}
    (h : registration? token d = none) (st : RelayState) :
    (st.receive token d).1.activeGeneration = st.activeGeneration ∧
      (st.receive token d).1.pendingGeneration = st.pendingGeneration := by
  have hpasses := passes_receive h st
  generalize st.receive token d = r at hpasses
  obtain ⟨st', out⟩ := r
  cases hpasses with
  | drop | health | legacy | forward => exact ⟨rfl, rfl⟩

/-- What the relay sends are its answers, and the data that it forwards. -/
lemma payload_of_mem_receive {token : List UInt8} {st : RelayState} {d : Datagram} {o : Sent}
    (h : o ∈ (st.receive token d).2) :
    o.payload ∈ [kRespHealth, kRespRegistered, kRespWaiting] ∨
      o.payload = d.buf ∧ isRegV3 d.buf = false := by
  cases hreg : registration? token d with
  | none =>
    have hpasses := passes_receive hreg st
    generalize st.receive token d = r at h hpasses
    obtain ⟨st', out⟩ := r
    cases hpasses with
    | drop => simp at h
    | health =>
      rw [List.mem_singleton] at h
      subst h
      exact .inl (by simp)
    | legacy slots hresp =>
      rw [List.mem_singleton] at h
      subst h
      exact .inl (List.mem_cons_of_mem _ hresp)
    | forward slots hv3 hout => exact .inr ⟨hout o h, hv3⟩
  | some r =>
    obtain ⟨key, i⟩ := r
    rw [receive_of_registration hreg, List.mem_singleton] at h
    subst h
    have hregisters := registers_registerV3 st (valid_of_registration hreg) i d.from_
    exact .inl (List.mem_cons_of_mem _ hregisters.response)

/-! ## Steps -/

variable {token : List UInt8}

lemma post_of_steps {e : RelayEntry} (h : (relayLTS token).Steps e) :
    e.post = (e.pre.receive token e.act).1 ∧ e.out = (e.pre.receive token e.act).2 := by
  obtain ⟨hout, hpost⟩ := Prod.mk.inj (Option.some.inj h)
  exact ⟨hpost.symm, hout.symm⟩

/-- A step that registers. -/
lemma registers_of_steps {e : RelayEntry} (h : (relayLTS token).Steps e) {key : GenerationKey}
    {i : Slot} (hreg : registration? token e.act = some (key, i)) :
    ∃ resp, e.out = [⟨e.act.from_, resp⟩] ∧ Registers e.pre key i e.act.from_ e.post resp := by
  obtain ⟨hpost, hout⟩ := post_of_steps h
  rw [receive_of_registration hreg] at hpost hout
  refine ⟨_, hout, ?_⟩
  rw [hpost]
  exact registers_registerV3 e.pre (valid_of_registration hreg) i e.act.from_

end Relay
end Sf4e
