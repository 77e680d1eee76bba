/-
# The codec of a registration

The packet of a registration is written by one program and read by another, each with offsets,
lengths and byte order of its own.  `codec_agrees` puts the two together: what the client writes
is taken for a v3 registration and nothing else, the relay reads the token, slot and numbers out
of it that went into it, and these determine the packet.  Only the case of the token's digits is
not told apart, by `TokenMatches`.
-/
import Sf4e.Relay.Registration
import Sf4e.Wire.BigEndian

namespace Sf4e
namespace Relay

open Trace RelayState Wire

/-! ## Tokens -/

/-- Equal up to the case of letters. -/
def SameToken (a b : List UInt8) : Prop := a.map tolower = b.map tolower

instance (a b : List UInt8) : Decidable (SameToken a b) :=
  inferInstanceAs (Decidable (_ = _))

lemma SameToken.symm {a b : List UInt8} (h : SameToken a b) : SameToken b a := Eq.symm h

lemma SameToken.trans {a b c : List UInt8} (h : SameToken a b) (h' : SameToken b c) :
    SameToken a c := Eq.trans h h'

/-- On strings without a terminator, `strncmp` compares all of them. -/
lemma strncmpEq_iff {n : ℕ} {a b : List UInt8} (ha : a.length = n) (hb : b.length = n)
    (hnul : 0 ∉ a) : strncmpEq n a b = true ↔ a = b := by
  induction n generalizing a b with
  | zero =>
    rw [List.length_eq_zero_iff.1 ha, List.length_eq_zero_iff.1 hb]
    simp [strncmpEq]
  | succ n ih =>
    obtain ⟨x, a, rfl⟩ := List.exists_cons_of_length_eq_add_one ha
    obtain ⟨y, b, rfl⟩ := List.exists_cons_of_length_eq_add_one hb
    obtain ⟨hx, hnul⟩ := not_or.1 (List.mem_cons.not.1 hnul)
    rw [strncmpEq, List.headD_cons, List.headD_cons, List.tail_cons, List.tail_cons,
      List.cons.injEq]
    by_cases hxy : x = y
    · subst hxy
      rw [if_neg (by simp), if_neg (Ne.symm hx), ih (by simpa using ha) (by simpa using hb) hnul]
      simp
    · simp [hxy]

lemma tolower_ne_zero {b : UInt8} (h : isxdigit b = true) : tolower b ≠ 0 := by
  intro hzero
  unfold tolower at hzero
  split at hzero
  · rename_i hupper
    simp only [Bool.and_eq_true, decide_eq_true_eq, UInt8.le_iff_toNat_le] at hupper
    obtain ⟨-, hle⟩ := hupper
    have hle' : b.toNat ≤ 90 := hle
    have hsum : (b + 32).toNat = b.toNat + 32 := by
      rw [UInt8.toNat_add]
      exact Nat.mod_eq_of_lt (by show b.toNat + 32 < 256; omega)
    rw [hzero] at hsum
    simp at hsum
  · subst hzero
    simp [isxdigit] at h

/-- A token is made of nonzero bytes. -/
lemma zero_notMem_map_tolower {token : List UInt8} (h : isHexToken token = true) :
    0 ∉ token.map tolower := by
  simp only [isHexToken, Bool.and_eq_true, List.all_eq_true] at h
  intro hmem
  obtain ⟨b, hb, hzero⟩ := List.mem_map.1 hmem
  exact tolower_ne_zero (h.2 b hb) hzero

/-- What `TokenMatches` compares. -/
lemma tokenMatches_iff {expected received : List UInt8} (hexpected : isHexToken expected = true)
    (hreceived : 32 ≤ received.length) :
    tokenMatches expected received = true ↔ SameToken expected (received.take 32) := by
  have hlength := length_of_isHexToken hexpected
  rw [tokenMatches, List.take_of_length_le hlength.le]
  exact strncmpEq_iff (by rw [List.length_map, hlength])
    (by rw [List.length_map, List.length_take]; omega) (zero_notMem_map_tolower hexpected)

/-! ## Numbers -/

/-- The relay's number is the one that the bytes are the digits of. -/
lemma toNat_readU64Be (data : List UInt8) : (readU64Be data).toNat = beNat (data.take 8) :=
  toNat_foldl_pushByte _ (List.length_take_le _ _)

/-- Eight bytes are determined by the number that is read from them. -/
lemma take_eq_of_readU64Be_eq {a b : List UInt8} (ha : 8 ≤ a.length) (hb : 8 ≤ b.length)
    (h : readU64Be a = readU64Be b) : a.take 8 = b.take 8 := by
  refine eq_of_beNat_eq (by rw [List.length_take, List.length_take]; omega) ?_
  rw [← toNat_readU64Be, ← toNat_readU64Be, h]

/-! ## Packets -/

/-- The relay takes the datagram for a v3 registration and nothing else. -/
structure IsV3Registration (buf : List UInt8) : Prop where
  v3 : isRegV3 buf = true
  health : isHealth buf = false
  legacy : isRegLegacy buf = false
  v2 : isRegV2 buf = false
  /-- In particular it is not taken for data. -/
  receive : ∀ (st : RelayState) (expected : List UInt8) (d : Datagram), d.buf = buf →
    st.receive expected d = st.onRegV3 expected d.from_ buf

/-- What the relay reads out of a v3 registration. -/
structure Decodes (buf token : List UInt8) (i : Slot) (nums : Slot → UInt64) : Prop where
  v3 : isRegV3 buf = true
  token : SameToken ((buf.drop 4).take 32) token
  slot : playerSlot buf = some i
  key : generationKey buf = ⟨nums, true⟩

/-- The packets differ at most in the case of the token's digits. -/
structure SamePacket (a b : List UInt8) : Prop where
  magic : a.take 4 = b.take 4
  token : SameToken ((a.drop 4).take 32) ((b.drop 4).take 32)
  fields : a.drop 36 = b.drop 36

/-- The kinds of packets have different lengths. -/
lemma isV3Registration_of_isRegV3 {buf : List UInt8} (h : isRegV3 buf = true) :
    IsV3Registration buf := by
  obtain ⟨hne, hhealth⟩ := buf_ne_nil_of_isRegV3 h
  have hlength : buf.length = kRegPacketLenV3 := by
    simp only [isRegV3, Bool.and_eq_true, beq_iff_eq] at h
    exact h.1.1
  refine ⟨h, hhealth, ?_, ?_, fun st expected d hd => ?_⟩
  · simp [isRegLegacy, hlength, kRegPacketLenV3, kRegPacketLenLegacy]
  · simp [isRegV2, hlength, kRegPacketLenV3, kRegPacketLenV2]
  · simp [RelayState.receive, hd, hne, hhealth, h]

lemma decodes_registrationPacket {token : List UInt8} (htoken : token.length = 32)
    (addr : SockAddr) (i : Slot) (nums : Slot → UInt64) :
    Decodes (⟨addr, registrationPacket token i nums⟩ : Datagram).buf token i nums where
  v3 := isRegV3_registrationPacket htoken addr i nums
  token := by
    rw [token_registrationPacket htoken]
    rfl
  slot := playerSlot_registrationPacket htoken addr i nums
  key := generationKey_registrationPacket htoken addr i nums

/-- The byte of the slot. -/
lemma getD_of_playerSlot {buf : List UInt8} {i : Slot} (h : playerSlot buf = some i) :
    buf.getD 37 0 = if i = 0 then 0 else 1 := by
  unfold playerSlot at h
  split_ifs at h with hzero hone
  · obtain rfl := Option.some.inj h
    simpa using hzero
  · obtain rfl := Option.some.inj h
    simpa using hone

/-- The fields of a v3 registration, from offset 36 on. -/
lemma drop_eq_of_decodes {buf token : List UInt8} {i : Slot} {nums : Slot → UInt64}
    (h : Decodes buf token i nums) :
    buf.drop 36 = kRegistrationVersionV3 :: (if i = 0 then 0 else 1) ::
      ((buf.drop 38).take 8 ++ (buf.drop 46).take 8) := by
  have hv3 := h.v3
  simp only [isRegV3, Bool.and_eq_true, beq_iff_eq] at hv3
  obtain ⟨⟨hlength, -⟩, hversion⟩ := hv3
  have hslot := getD_of_playerSlot h.slot
  simp only [kRegPacketLenV3] at hlength
  rw [List.getD_eq_getElem _ _ (by omega)] at hversion hslot
  have htail : (buf.drop 38).take 8 ++ (buf.drop 46).take 8 = buf.drop 38 := by
    have hrest : (buf.drop 46).take 8 = buf.drop 46 :=
      List.take_of_length_le (by rw [List.length_drop]; omega)
    have hnext : buf.drop 46 = (buf.drop 38).drop 8 := by rw [List.drop_drop]
    rw [hrest, hnext, List.take_append_drop]
  rw [htail, List.drop_eq_getElem_cons (by omega : 36 < buf.length), hversion,
    List.drop_eq_getElem_cons (by omega : 37 < buf.length), hslot]

/-- **What the relay reads determines the packet**, up to the case of the token's digits. -/
lemma samePacket_of_decodes {a b token : List UInt8} {i : Slot} {nums : Slot → UInt64}
    (ha : Decodes a token i nums) (hb : Decodes b token i nums) : SamePacket a b := by
  have hav3 := ha.v3
  have hbv3 := hb.v3
  simp only [isRegV3, Bool.and_eq_true, beq_iff_eq, kRegPacketLenV3] at hav3 hbv3
  obtain ⟨⟨halen, hamagic⟩, -⟩ := hav3
  obtain ⟨⟨hblen, hbmagic⟩, -⟩ := hbv3
  have hkey := congrArg GenerationKey.readyMessageNum (ha.key.trans hb.key.symm)
  have hfirst : readU64Be (a.drop 38) = readU64Be (b.drop 38) := congrFun hkey 0
  have hsecond : readU64Be (a.drop 46) = readU64Be (b.drop 46) := congrFun hkey 1
  refine ⟨hamagic.trans hbmagic.symm, ha.token.trans hb.token.symm, ?_⟩
  rw [drop_eq_of_decodes ha, drop_eq_of_decodes hb,
    take_eq_of_readU64Be_eq (by rw [List.length_drop]; omega)
      (by rw [List.length_drop]; omega) hfirst,
    take_eq_of_readU64Be_eq (by rw [List.length_drop]; omega)
      (by rw [List.length_drop]; omega) hsecond]

/-! ## The client's numbers -/

/-- The numbers of a client, as they are cast for the packet. -/
def wireNums (nums : Slot → Int64) : Slot → UInt64 := fun j => (nums j).toUInt64

/-- A number that is not negative keeps its value. -/
lemma toNat_wireNums {nums : Slot → Int64} {j : Slot} (h : 0 ≤ nums j) :
    ((wireNums nums j).toNat : ℤ) = (nums j).toInt := by
  have hpos : 0 ≤ (nums j).toInt := Int64.le_iff_toInt_le.1 h
  rw [wireNums, Int64.toNat_toUInt64_of_le h, Int64.toNatClampNeg, Int.toNat_of_nonneg hpos]

/-- **The codec of a registration.**  The packet that a client makes of a token, a slot and two
numbers is taken for a v3 registration and nothing else, whoever sends it and whatever state the
relay is in; the relay reads the same token, slot and numbers out of it, and accepts the token
exactly when it is its own up to case.  And any two packets that the relay reads alike are the
same up to the case of the token's digits. -/
theorem codec_agrees {token : List UInt8} {nums : Slot → Int64}
    (htoken : isHexToken token = true) (hnums : ∀ j, 0 ≤ nums j) (i : Slot) (addr : SockAddr) :
    let buf := (⟨addr, registrationPacket token i (wireNums nums)⟩ : Datagram).buf
    IsV3Registration buf ∧
    Decodes buf token i (wireNums nums) ∧
    (∀ j, (((generationKey buf).readyMessageNum j).toNat : ℤ) = (nums j).toInt) ∧
    (∀ expected, isHexToken expected = true →
      (tokenMatches expected (buf.drop 4) = true ↔ SameToken expected token)) ∧
    ∀ (a b token' : List UInt8) (i' : Slot) (nums' : Slot → UInt64),
      Decodes a token' i' nums' → Decodes b token' i' nums' → SamePacket a b := by
  intro buf
  have hlength := length_of_isHexToken htoken
  have hdecodes : Decodes buf token i (wireNums nums) :=
    decodes_registrationPacket hlength addr i (wireNums nums)
  refine ⟨isV3Registration_of_isRegV3 hdecodes.v3, hdecodes, ?_, ?_, ?_⟩
  · intro j
    rw [hdecodes.key]
    exact toNat_wireNums (hnums j)
  · intro expected hexpected
    have htake : (buf.drop 4).take 32 = token :=
      token_registrationPacket hlength addr i (wireNums nums)
    have hlong : 32 ≤ (buf.drop 4).length := by
      have htaken := congrArg List.length htake
      rw [List.length_take, hlength] at htaken
      omega
    rw [tokenMatches_iff hexpected hlong, htake]
  · intro a b token' i' nums' ha hb
    exact samePacket_of_decodes ha hb

/-- The codec at the largest numbers. -/
theorem codec_agrees_max :
    Decodes (⟨⟨1, 7⟩, registrationPacket roomToken 1 (wireNums fun _ => Int64.maxValue)⟩ :
      Datagram).buf roomToken 1 (wireNums fun _ => Int64.maxValue) :=
  (codec_agrees (by decide) (by decide) 1 ⟨1, 7⟩).2.1

end Relay
end Sf4e
