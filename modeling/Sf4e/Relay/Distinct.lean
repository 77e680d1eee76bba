/-
# Distinct endpoints and faithful forwarding

The relay forwards data from the slot that the sender holds to the other slot, so all of the
forwarding rests on the two slots having different holders.  Legacy registrations look for
the sender among the holders before anything else, and data moves a slot only to a sender
that holds none.  A v3 registration names its slot and is not compared with the holder of
the other one: the file says exactly when that goes wrong, and when a datagram does not fit
the receive buffer.
-/
import Sf4e.Relay.Slots

namespace Sf4e
namespace Relay

open Trace RelayState

variable {token : List UInt8} {slots : Slot → Endpoint} {addr : SockAddr} {i : Slot}

/-! ## Distinct endpoints -/

/-- The active slots hold distinct endpoints. -/
def DistinctEndpoints (slots : Slot → Endpoint) : Prop :=
  ∀ i j, i ≠ j → (slots i).active = true → (slots j).active = true →
    (slots i).addr ≠ (slots j).addr

/-- An endpoint holds one slot at most. -/
lemma DistinctEndpoints.eq_of_holds (h : DistinctEndpoints slots) {i j : Slot}
    (hi : Holds slots addr i) (hj : Holds slots addr j) : i = j := by
  by_contra hne
  refine h i j hne hi.active hj.active ?_
  rw [(holds_iff.1 hi).2, (holds_iff.1 hj).2]

lemma distinctEndpoints_of_peer (i : Slot)
    (h : (slots i).active = true → (slots i.peer).active = true →
      (slots i).addr ≠ (slots i.peer).addr) : DistinctEndpoints slots := by
  intro j k hne hj hk
  obtain rfl | rfl := Slot.eq_or_eq_peer i j
  · obtain rfl | rfl := Slot.eq_or_eq_peer j k
    · exact absurd rfl hne
    · exact h hj hk
  · obtain rfl | rfl := Slot.eq_or_eq_peer i k
    · exact (h hk hj).symm
    · exact absurd rfl hne

/-- A slot may be given to an endpoint that does not hold the other one. -/
lemma DistinctEndpoints.bindSlot (hpeer : ¬ Holds slots addr i.peer) :
    DistinctEndpoints (bindSlot slots i addr) := by
  refine distinctEndpoints_of_peer i fun _ hactive heq => hpeer ?_
  rw [bindSlot_of_ne _ i.peer_ne] at hactive heq
  rw [bindSlot_self] at heq
  exact holds_iff.2 ⟨hactive, heq.symm⟩

/-- The search finds the slot that the endpoint holds, if there is one. -/
lemma SlotFor.not_holds_peer (hslot : SlotFor slots addr i) (h : DistinctEndpoints slots) :
    ¬ Holds slots addr i.peer := by
  cases hslot with
  | exact hi => exact fun hpeer => i.peer_ne (h.eq_of_holds hpeer hi)
  | free hnone | sameIp hnone | declared hnone => exact hnone i.peer

lemma DistinctEndpoints.rebindSlot (h : DistinctEndpoints slots) (hslot : SlotFor slots addr i) :
    DistinctEndpoints (rebindSlot slots i addr) := by
  refine distinctEndpoints_of_peer i fun _ hactive heq => hslot.not_holds_peer h ?_
  rw [rebindSlot_peer] at hactive heq
  rw [rebindSlot_self] at heq
  exact holds_iff.2 ⟨(Bool.and_eq_true_iff.1 hactive).1, heq.symm⟩

lemma DistinctEndpoints.moveSlot (hnone : ∀ j, ¬ Holds slots addr j) :
    DistinctEndpoints (moveSlot slots i addr) := by
  refine distinctEndpoints_of_peer i fun _ hactive heq => hnone i.peer ?_
  rw [moveSlot_peer] at hactive heq
  rw [moveSlot_self] at heq
  exact holds_iff.2 ⟨hactive, heq.symm⟩

/-! ## Faithful steps -/

/-- Data goes, as it was sent, from the slot it comes from to the endpoint of the other slot
and nowhere else, and is dropped when it comes from nowhere or the other slot is free. -/
structure ForwardsFaithfully (e : RelayEntry) : Prop where
  /-- Data of a slot goes to the other slot. -/
  known : ∀ i, SourceSlot e.pre e.act.from_ i →
    e.out = toPeer e.pre.forwardingSlots i e.act.payload
  /-- Other data is dropped. -/
  unknown : (∀ i, ¬ SourceSlot e.pre e.act.from_ i) → e.out = []
  /-- Nothing is sent back. -/
  others : ∀ o ∈ e.out, o.dest ≠ e.act.from_

/-- What the relay promises of each step. -/
structure Faithful (e : RelayEntry) : Prop where
  /-- The legacy pair holds distinct endpoints. -/
  legacy : DistinctEndpoints e.post.slots
  /-- So does the active generation. -/
  active : DistinctEndpoints e.post.activeGeneration.slots
  /-- Data is forwarded faithfully. -/
  data : isData e.act.buf = true → ForwardsFaithfully e

/-- The generation with a key, if the relay has one. -/
def RelayState.generation? (st : RelayState) (key : GenerationKey) : Option GenerationState :=
  if st.activeGeneration.key = key then some st.activeGeneration
  else if st.pendingGeneration.key = key then some st.pendingGeneration
  else none

/-- The datagram is no v3 registration by an endpoint that holds the other slot of the
generation, and no data for a slot that is longer than the receive buffer. -/
structure Separate (token : List UInt8) (e : RelayEntry) : Prop where
  /-- The sender of a registration does not hold the other slot. -/
  registers : ∀ r ∈ registration? token e.act, ∀ g ∈ e.pre.generation? r.1,
    ¬ Holds g.slots e.act.from_ r.2.peer
  /-- Data to be forwarded fits the receive buffer. -/
  fits : isData e.act.buf = true → ∀ i, SourceSlot e.pre e.act.from_ i →
    (e.pre.forwardingSlots i.peer).active = true → e.act.payload.length ≤ kMaxPacket

instance (e : RelayEntry) : Decidable (Separate token e) :=
  decidable_of_iff ((∀ r ∈ registration? token e.act, ∀ g ∈ e.pre.generation? r.1,
      ¬ Holds g.slots e.act.from_ r.2.peer) ∧
      (isData e.act.buf = true → ∀ i, SourceSlot e.pre e.act.from_ i →
        (e.pre.forwardingSlots i.peer).active = true → e.act.payload.length ≤ kMaxPacket))
    ⟨fun h => ⟨h.1, h.2⟩, fun h => ⟨h.registers, h.fits⟩⟩

/-! ## Registrations -/

/-- A registration keeps the active generation's endpoints distinct if and only if the
sender does not hold the other slot of the generation that it registers with. -/
lemma Registers.distinct_iff {st st' : RelayState} {key : GenerationKey} {resp : List UInt8}
    (h : Registers st key i addr st' resp)
    (hpre : DistinctEndpoints st.activeGeneration.slots) :
    DistinctEndpoints st'.activeGeneration.slots ↔
      ∀ g ∈ st.generation? key, ¬ Holds g.slots addr i.peer := by
  -- with the other slot held by the same endpoint the two slots are not distinct
  have hbind (slots : Slot → Endpoint) :
      DistinctEndpoints (bindSlot slots i addr) ↔ ¬ Holds slots addr i.peer := by
    refine ⟨fun hd hpeer => i.peer_ne ?_, fun hpeer => .bindSlot hpeer⟩
    have hheld : Holds (bindSlot slots i addr) addr i.peer := by
      rw [Holds, bindSlot_of_ne _ i.peer_ne]
      exact hpeer
    exact hd.eq_of_holds hheld (bindSlot_self slots i addr)
  cases h with
  | refresh hkey => simp [generation?, hkey, GenerationState.bind, hbind]
  | hold hkey hg hone =>
    rename_i g
    refine iff_of_true hpre fun g' hg' hpeer => ?_
    obtain ⟨rfl, hpk⟩ | ⟨-, hpk⟩ := hg
    · obtain rfl : st.pendingGeneration = g' := by simpa [generation?, hkey, hpk] using hg'
      -- the other slot is active, so the generation would be complete
      rw [Bool.eq_false_iff, Ne, bothSlotsActive_iff] at hone
      refine hone fun j => ?_
      obtain rfl | rfl := Slot.eq_or_eq_peer i j
      · simp
      · rw [bindSlot_of_ne _ i.peer_ne]
        exact hpeer.active
    · simp [generation?, hkey, hpk] at hg'
  | promote hkey hpk => simp [generation?, hkey, hpk, GenerationState.bind, hbind]

lemma Registers.slots_eq {st st' : RelayState} {key : GenerationKey} {resp : List UInt8}
    (h : Registers st key i addr st' resp) : st'.slots = st.slots := by
  cases h with
  | refresh | hold | promote => rfl

/-! ## Data -/

/-- Data of a slot fits the receive buffer if it is forwarded unchanged. -/
lemma length_le_of_buf_eq {d : Datagram} (h : d.buf = d.payload) :
    d.payload.length ≤ kMaxPacket := by
  rw [← h, Datagram.buf]
  exact List.length_take_le _ _

lemma mem_toPeer {payload : List UInt8} {o : Sent} (h : o ∈ toPeer slots i payload) :
    (slots i.peer).active = true ∧ o = ⟨(slots i.peer).addr, payload⟩ := by
  unfold toPeer at h
  split at h
  · rename_i hactive
    exact ⟨hactive, List.mem_singleton.1 h⟩
  · simp at h

lemma SourceSlot.unique {st : RelayState} (h : DistinctEndpoints st.forwardingSlots) {j : Slot}
    (hi : SourceSlot st addr i) (hj : SourceSlot st addr j) : i = j := by
  cases hi with
  | endpoint hi =>
    cases hj with
    | endpoint hj => exact h.eq_of_holds hi hj
    | rebind hgen hnone => exact absurd (forwardingSlots_of_not_valid hgen ▸ hi) (hnone i)
  | rebind hgen hnone hi =>
    cases hj with
    | endpoint hj => exact absurd (forwardingSlots_of_not_valid hgen ▸ hj) (hnone j)
    | rebind _ _ hj =>
      obtain rfl | rfl := Slot.eq_or_eq_peer i j
      · rfl
      · exact absurd hj.1 hi.2

/-- The sender of data does not hold the slot that the data goes to. -/
lemma SourceSlot.not_holds_peer {st : RelayState} (h : DistinctEndpoints st.forwardingSlots)
    (hi : SourceSlot st addr i) : ¬ Holds st.forwardingSlots addr i.peer := by
  intro hpeer
  cases hi with
  | endpoint hi => exact i.peer_ne (h.eq_of_holds hpeer hi)
  | rebind hgen hnone => exact hnone _ (forwardingSlots_of_not_valid hgen ▸ hpeer)

lemma Carries.cases_out {st st' : RelayState} {buf : List UInt8} {out : List Sent}
    (h : Carries st addr buf st' out) :
    (∀ i, ¬ SourceSlot st addr i) ∧ out = [] ∨
      ∃ i, SourceSlot st addr i ∧ out = toPeer st.forwardingSlots i buf := by
  cases h with
  | unknown h => exact .inl ⟨h, rfl⟩
  | endpoint h => exact .inr ⟨_, .endpoint h, rfl⟩
  | rebind hgen hnone hi =>
    exact .inr ⟨_, .rebind hgen hnone hi, by rw [forwardingSlots_of_not_valid hgen]⟩

/-- Between distinct endpoints data is forwarded faithfully if and only if it fits the
receive buffer or is dropped. -/
lemma Carries.faithful_iff_of_step {e : RelayEntry}
    (h : Carries e.pre e.act.from_ e.act.buf e.post e.out)
    (hpre : DistinctEndpoints e.pre.forwardingSlots) :
    ForwardsFaithfully e ↔ ∀ i, SourceSlot e.pre e.act.from_ i →
      (e.pre.forwardingSlots i.peer).active = true → e.act.payload.length ≤ kMaxPacket := by
  obtain ⟨hnone, hout⟩ | ⟨i, hi, hout⟩ := h.cases_out
  · refine iff_of_true ⟨fun i hi => absurd hi (hnone i), fun _ => hout, fun o ho => ?_⟩
      fun i hi => absurd hi (hnone i)
    simp [hout] at ho
  · constructor
    · intro hf j hj hactive
      obtain rfl := hi.unique hpre hj
      have hsame := hout.symm.trans (hf.known i hi)
      simp only [toPeer, hactive, if_true, List.cons.injEq, Sent.mk.injEq, and_true,
        true_and] at hsame
      exact length_le_of_buf_eq hsame
    · intro hfits
      refine ⟨fun j hj => ?_, fun hnone => absurd hi (hnone i), fun o ho heq => ?_⟩
      · obtain rfl := hi.unique hpre hj
        rw [hout]
        unfold toPeer
        split
        · rename_i hactive
          rw [Datagram.buf, List.take_of_length_le (hfits i hi hactive)]
        · rfl
      · rw [hout] at ho
        obtain ⟨hactive, rfl⟩ := mem_toPeer ho
        exact hi.not_holds_peer hpre (holds_iff.2 ⟨hactive, heq⟩)

/-! ## Steps -/

/-- Both pairs hold distinct endpoints. -/
structure Apart (st : RelayState) : Prop where
  /-- The legacy pair. -/
  legacy : DistinctEndpoints st.slots
  /-- The active generation. -/
  active : DistinctEndpoints st.activeGeneration.slots

lemma Apart.forwarding {st : RelayState} (h : Apart st) :
    DistinctEndpoints st.forwardingSlots := by
  unfold forwardingSlots
  split
  · exact h.active
  · exact h.legacy

lemma isData_eq_false_of_registration {d : Datagram} {r : GenerationKey × Slot}
    (h : registration? token d = some r) : isData d.buf = false := by
  have hv3 : isRegV3 d.buf = true := by
    by_contra hv3
    simp [registration?, hv3] at h
  simp [isData, hv3]

/-- **Step lemma.** From distinct endpoints a step is faithful if and only if it is
separate. -/
lemma Apart.faithful_iff_of_step {e : RelayEntry} (h : Apart e.pre)
    (hstep : (relayLTS token).Steps e) : Faithful e ↔ Separate token e := by
  obtain ⟨hpost, hout⟩ := post_of_steps hstep
  cases hreg : registration? token e.act with
  | some r =>
    -- a v3 registration
    obtain ⟨key, i⟩ := r
    have hdata := isData_eq_false_of_registration hreg
    obtain ⟨resp, -, hends⟩ := registers_of_steps hstep hreg
    have hiff := hends.distinct_iff h.active
    constructor
    · intro hf
      refine ⟨fun r hr => ?_, fun hd => by simp [hdata] at hd⟩
      obtain rfl : (key, i) = r := by simpa [hreg] using hr
      exact hiff.1 hf.active
    · intro hs
      refine ⟨hends.slots_eq ▸ h.legacy, hiff.2 ?_, fun hd => by simp [hdata] at hd⟩
      exact hs.registers (key, i) hreg
  | none =>
    obtain ⟨hactive, -⟩ := generations_of_not_registration hreg e.pre
    rw [← hpost] at hactive
    have hapart : DistinctEndpoints e.post.activeGeneration.slots := hactive ▸ h.active
    cases hdata : isData e.act.buf with
    | true =>
      -- data
      have hcarries : Carries e.pre e.act.from_ e.act.buf (e.pre.receive token e.act).1
          (e.pre.receive token e.act).2 := carries_receive hdata e.pre
      rw [← hpost, ← hout] at hcarries
      have hlegacy : DistinctEndpoints e.post.slots := by
        obtain ⟨pre, d, out, post⟩ := e
        dsimp only at hcarries ⊢
        cases hcarries with
        | unknown | endpoint => exact h.legacy
        | rebind _ hnone => exact .moveSlot hnone
      have hiff := hcarries.faithful_iff_of_step h.forwarding
      exact ⟨fun hf => ⟨by simp [hreg], fun _ => hiff.1 (hf.data hdata)⟩,
        fun hs => ⟨hlegacy, hapart, fun _ => hiff.2 (hs.fits hdata)⟩⟩
    | false =>
      have hlegacy : DistinctEndpoints e.post.slots := by
        rw [hpost]
        cases hl : legacyRegistration? token e.act with
        | some port =>
          have hends := registersLegacy_receive hl e.pre
          generalize e.pre.receive token e.act = r at hends
          obtain ⟨post, out⟩ := r
          cases hends with
          | reject => exact h.legacy
          | bind hslot => exact h.legacy.rebindSlot hslot
        | none =>
          rw [receive_of_other hreg hl hdata]
          exact h.legacy
      exact iff_of_true ⟨hlegacy, hapart, fun hd => by simp [hdata] at hd⟩
        ⟨by simp [hreg], fun hd => by simp [hdata] at hd⟩

/-- A run whose steps were faithful ends with distinct endpoints. -/
lemma apart_of_faithful {log : List RelayEntry} {st : RelayState}
    (h : (relayLTS token).Run log st) (hf : ∀ e ∈ log, Faithful e) : Apart st := by
  refine h.invariant (fun _ st => Apart st) ?_ (fun _ _ _ _ hf => ⟨hf.legacy, hf.active⟩) hf
  rintro st rfl
  exact ⟨fun _ _ _ hi => by simp at hi, fun _ _ _ hi => by simp at hi⟩

/-! ## Runs -/

/-- **The relay keeps its endpoints distinct and forwards faithfully in a run if and only if
no v3 registration of the run comes from the holder of the other slot, and no data that it
forwards is longer than its buffer.** -/
theorem faithful_iff_separate {log : List RelayEntry} {st : RelayState}
    (h : (relayLTS token).Run log st) :
    (∀ e ∈ log, Faithful e) ↔ ∀ e ∈ log, Separate token e := by
  induction log generalizing st with
  | nil => simp
  | cons e older ih =>
    obtain ⟨hrun, hstep, -⟩ := @LTS.Run.at_entry _ _ _ _ _ [] older e h
    rw [List.forall_mem_cons, List.forall_mem_cons, ← ih hrun]
    constructor
    · rintro ⟨he, hf⟩
      exact ⟨((apart_of_faithful hrun hf).faithful_iff_of_step hstep).1 he, hf⟩
    · rintro ⟨he, hf⟩
      exact ⟨((apart_of_faithful hrun hf).faithful_iff_of_step hstep).2 he, hf⟩

/-- Two players register the slots of a match, and their data goes from one to the other. -/
theorem faithful_two_players :
    ∃ log st, (relayLTS roomToken).Run log st ∧
      (∃ e ∈ log, e.out = [⟨⟨1, 6⟩, e.act.payload⟩] ∧ isData e.act.buf = true) ∧
      ∀ e ∈ log, Faithful e := by
  obtain ⟨log, st, hrun, hout, hs⟩ := @exists_relayRun_of_exec roomToken
    [⟨⟨1, 5⟩, kMagicReg ++ roomToken⟩, ⟨⟨2, 5⟩, kMagicReg ++ roomToken⟩, ⟨⟨1, 7⟩, [8, 9]⟩,
      registrationFrom 5 0 1 2, registrationFrom 6 1 1 2, ⟨⟨1, 5⟩, [8, 9]⟩, ⟨⟨1, 6⟩, [9]⟩]
    (fun log _ => (∃ e ∈ log, e.out = [⟨⟨1, 6⟩, e.act.payload⟩] ∧ isData e.act.buf = true) ∧
      ∀ e ∈ log, Separate roomToken e) _ (by decide +kernel)
  exact ⟨log, st, hrun, hout, (faithful_iff_separate hrun).2 hs⟩

/-- **Data is sent back to its sender.** One endpoint registers both slots of a generation and
then sends data. -/
theorem not_faithful :
    ¬ ∀ (token : List UInt8) (log : List RelayEntry) (st : RelayState),
        (relayLTS token).Run log st → ∀ e ∈ log, Faithful e := by
  intro h
  obtain ⟨log, st, hrun, e, he, hdata, hback⟩ := @exists_relayRun_of_exec roomToken
    [registrationFrom 5 0 1 2, registrationFrom 5 1 1 2, ⟨⟨1, 5⟩, [8, 9]⟩]
    (fun log _ => ∃ e ∈ log, isData e.act.buf = true ∧ e.out = [⟨e.act.from_, e.act.payload⟩]) _
    (by decide +kernel)
  have hothers := ((h _ log st hrun e he).data hdata).others
  rw [hback] at hothers
  exact hothers _ (List.mem_singleton_self _) rfl

end Relay
end Sf4e
