/-
# Pairing by legacy registrations

Two clients behind different public addresses register with the relay by legacy or v2
packets, each from whatever port it has at the moment.  A registration names no slot, so the
relay has to find out whose it is.  It takes a free slot before it compares addresses: a
client that comes back from a new port while the other slot is free gets a second slot, and
the relay reports a pair that is one client twice.
-/
import Sf4e.Relay.Slots

namespace Sf4e
namespace Relay

open Trace RelayState

variable {token : List UInt8} {a b : UInt32} {i j : Slot}

/-! ## Pairing -/

/-- The slot is held by an endpoint of the host. -/
def HeldBy (slots : Slot → Endpoint) (ip : UInt32) (i : Slot) : Prop :=
  (slots i).active = true ∧ (slots i).addr.ip = ip

/-- Everything that is received comes from one of two hosts. -/
def TwoClients (a b : UInt32) (log : List RelayEntry) : Prop :=
  ∀ e ∈ log, e.act.from_.ip = a ∨ e.act.from_.ip = b

/-- What the relay promises of a registration by one of the clients `a` and `b`. -/
structure PairsClients (a b : UInt32) (e : RelayEntry) : Prop where
  /-- `SF4R` is sent when each of them holds a slot. -/
  paired : ∀ o ∈ e.out, o.payload = kRespRegistered →
    ∃ i, HeldBy e.post.slots a i ∧ HeldBy e.post.slots b i.peer
  /-- A client that holds a slot registers it again, and no other one. -/
  own : ∀ i, HoldsIp e.pre.slots e.act.from_ i →
    Holds e.post.slots e.act.from_ i ∧ (e.post.slots i.peer).addr = (e.pre.slots i.peer).addr
  /-- A slot that the other client holds is not given away. -/
  others : ∀ i, (e.pre.slots i).active = true → ¬ HoldsIp e.pre.slots e.act.from_ i →
    (e.post.slots i).addr = (e.pre.slots i).addr

/-- All legacy registrations of the log are paired. -/
def Pairs (token : List UInt8) (a b : UInt32) (log : List RelayEntry) : Prop :=
  ∀ e ∈ log, (legacyRegistration? token e.act).isSome = true → PairsClients a b e

/-- A client that registers from a new port finds the other slot taken. -/
def MovesWhenPaired (e : RelayEntry) : Prop :=
  ∀ i, HoldsIp e.pre.slots e.act.from_ i → ¬ Holds e.pre.slots e.act.from_ i →
    (e.pre.slots i.peer).active = true

instance (log : List RelayEntry) : Decidable (TwoClients a b log) :=
  inferInstanceAs (Decidable (∀ e ∈ log, _))

instance (e : RelayEntry) : Decidable (MovesWhenPaired e) :=
  inferInstanceAs (Decidable (∀ _, _))

/-! ## One slot each -/

/-- Each slot in use is held by one of the two clients, and neither holds both. -/
structure OneEach (a b : UInt32) (slots : Slot → Endpoint) : Prop where
  /-- The holders are the clients. -/
  holder : ∀ i, (slots i).active = true → (slots i).addr.ip = a ∨ (slots i).addr.ip = b
  /-- A client holds one slot at most. -/
  one : ∀ i, (slots i).active = true → (slots i.peer).active = true →
    (slots i).addr.ip ≠ (slots i.peer).addr.ip

variable {slots : Slot → Endpoint} {from_ : SockAddr}

lemma OneEach.not_holdsIp_peer (h : OneEach a b slots) (hi : HoldsIp slots from_ i) :
    ¬ HoldsIp slots from_ i.peer := by
  intro hpeer
  exact h.one i hi.1 hpeer.1 (by rw [hi.2, hpeer.2])

/-- When both slots are in use, each client holds one of them. -/
lemma OneEach.holdsIp_of_full (h : OneEach a b slots) (hfrom : from_.ip = a ∨ from_.ip = b)
    (hall : ∀ j, (slots j).active = true) : ∃ i, HoldsIp slots from_ i := by
  by_contra hnone
  have hne (i : Slot) : (slots i).addr.ip ≠ from_.ip := fun heq => hnone ⟨i, hall i, heq⟩
  have h₀ := h.holder 0 (hall 0)
  have h₁ := h.holder 1 (hall 1)
  have hdiff := h.one 0 (hall 0) (hall _)
  rw [Slot.peer_zero] at hdiff
  -- both would be held by the client that `from_` is not
  obtain rfl | rfl := hfrom
  · exact hdiff ((h₀.resolve_left (hne 0)).trans (h₁.resolve_left (hne 1)).symm)
  · exact hdiff ((h₀.resolve_right (hne 0)).trans (h₁.resolve_right (hne 1)).symm)

/-- A registration finds a slot. -/
lemma OneEach.not_noSlotFor (h : OneEach a b slots) (hfrom : from_.ip = a ∨ from_.ip = b) :
    ¬ NoSlotFor slots from_ := by
  intro hno
  obtain ⟨i, hi⟩ := h.holdsIp_of_full hfrom hno.full
  exact h.not_holdsIp_peer hi (hno.ambiguous i hi)

/-- What the search has to find: a slot that is free or the client's own, and the only one
that is the client's. -/
structure Finds (slots : Slot → Endpoint) (from_ : SockAddr) (i : Slot) : Prop where
  /-- The slot is free or the client's. -/
  free : (slots i).active = true → HoldsIp slots from_ i
  /-- The other slot is not the client's. -/
  other : ¬ HoldsIp slots from_ i.peer

/-- The search finds the right slot, as long as a client that moves finds the other slot
taken. -/
lemma OneEach.finds (h : OneEach a b slots) (hfrom : from_.ip = a ∨ from_.ip = b)
    (hslot : SlotFor slots from_ i)
    (hmoves : ∀ j, HoldsIp slots from_ j → ¬ Holds slots from_ j →
      (slots j.peer).active = true) : Finds slots from_ i := by
  cases hslot with
  | exact hi => exact ⟨fun _ => hi.holdsIp, h.not_holdsIp_peer hi.holdsIp⟩
  | free hnone hi =>
    refine ⟨fun hactive => by simp [hi] at hactive, fun hpeer => ?_⟩
    -- the client moves while the slot that it is given is free
    have hactive := hmoves _ hpeer (hnone _)
    rw [Slot.peer_peer] at hactive
    simp [hi] at hactive
  | sameIp hnone hall hi => exact ⟨fun _ => hi.1, hi.2⟩
  | declared hnone hall hip =>
    obtain ⟨k, hk⟩ := h.holdsIp_of_full hfrom hall
    exact absurd (hip k hk) (h.not_holdsIp_peer hk)

/-- Giving the right slot to a client leaves one slot for each. -/
lemma OneEach.rebindSlot (h : OneEach a b slots) (hfrom : from_.ip = a ∨ from_.ip = b)
    (hfinds : Finds slots from_ i) : OneEach a b (rebindSlot slots i from_) := by
  have hpeer (hactive : (Relay.rebindSlot slots i from_ i.peer).active = true) :
      (slots i.peer).active = true ∧ (slots i.peer).addr.ip ≠ from_.ip := by
    rw [rebindSlot_peer] at hactive
    have hpre := (Bool.and_eq_true_iff.1 hactive).1
    exact ⟨hpre, fun heq => hfinds.other ⟨hpre, heq⟩⟩
  constructor
  · intro j hj
    obtain rfl | rfl := Slot.eq_or_eq_peer i j
    · rwa [rebindSlot_self]
    · have hpre := hpeer hj
      rw [rebindSlot_peer]
      exact h.holder _ hpre.1
  · intro j hj hjpeer
    obtain rfl | rfl := Slot.eq_or_eq_peer i j
    · have hne := (hpeer hjpeer).2
      rw [rebindSlot_self, rebindSlot_peer]
      exact hne.symm
    · have hne := (hpeer hj).2
      rw [Slot.peer_peer, rebindSlot_self, rebindSlot_peer]
      exact hne

/-- A slot that moves to another port of its host stays with its client. -/
lemma OneEach.moveSlot (h : OneEach a b slots) (hi : HoldsIp slots from_ i) :
    OneEach a b (moveSlot slots i from_) := by
  have hsame (j : Slot) : (Relay.moveSlot slots i from_ j).active = (slots j).active ∧
      (Relay.moveSlot slots i from_ j).addr.ip = (slots j).addr.ip := by
    obtain rfl | rfl := Slot.eq_or_eq_peer i j
    · rw [moveSlot_self]
      exact ⟨rfl, hi.2.symm⟩
    · rw [moveSlot_peer]
      exact ⟨rfl, rfl⟩
  constructor
  · intro j hj
    rw [(hsame j).1] at hj
    rw [(hsame j).2]
    exact h.holder j hj
  · intro j hj hpeer
    rw [(hsame _).1] at hj hpeer
    rw [(hsame _).2, (hsame _).2]
    exact h.one j hj hpeer

/-! ## Steps -/

/-- A registration that gets the right slot is paired. -/
lemma OneEach.pairs_of_finds {e : RelayEntry} (h : OneEach a b e.pre.slots)
    (hfrom : e.act.from_.ip = a ∨ e.act.from_.ip = b) (hfinds : Finds e.pre.slots e.act.from_ i)
    (hpost : e.post.slots = Relay.rebindSlot e.pre.slots i e.act.from_)
    (hout : e.out = [⟨e.act.from_, if bothSlotsActive (Relay.rebindSlot e.pre.slots i e.act.from_)
      then kRespRegistered else kRespWaiting⟩]) : PairsClients a b e := by
  constructor
  · intro o ho hresp
    rw [hout, List.mem_singleton] at ho
    subst ho
    have hboth : bothSlotsActive (Relay.rebindSlot e.pre.slots i e.act.from_) = true := by
      by_contra hnot
      rw [if_neg hnot] at hresp
      exact absurd (show kRespWaiting = kRespRegistered from hresp) (by decide)
    rw [← hpost, bothSlotsActive_iff] at hboth
    have heach := h.rebindSlot hfrom hfinds
    rw [← hpost] at heach
    have hne := heach.one i (hboth i) (hboth i.peer)
    -- one slot is the sender's, and the other client holds the other one
    have hi := heach.holder i (hboth i)
    have hpeer := heach.holder i.peer (hboth i.peer)
    obtain hi | hi := hi
    · exact ⟨i, ⟨hboth i, hi⟩, hboth _, hpeer.resolve_left fun heq => hne (hi.trans heq.symm)⟩
    · refine ⟨i.peer, ⟨hboth _, hpeer.resolve_right fun heq => hne (hi.trans heq.symm)⟩, ?_⟩
      rw [Slot.peer_peer]
      exact ⟨hboth i, hi⟩
  · intro j hj
    obtain rfl | rfl := Slot.eq_or_eq_peer i j
    · rw [hpost]
      exact ⟨rebindSlot_self _ _ _, by rw [rebindSlot_peer]⟩
    · exact absurd hj hfinds.other
  · intro j hj hip
    obtain rfl | rfl := Slot.eq_or_eq_peer i j
    · exact absurd (hfinds.free hj) hip
    · rw [hpost, rebindSlot_peer]

/-- A client that moves while the other slot is free gets that slot too. -/
lemma movesWhenPaired_of_pairs {e : RelayEntry} (h : PairsClients a b e)
    (hends : RegistersLegacy e.pre e.act.from_ e.post e.out) : MovesWhenPaired e := by
  intro i hi hmoved
  by_contra hfree
  rw [Bool.not_eq_true] at hfree
  obtain ⟨hown, -⟩ := h.own i hi
  obtain ⟨pre, d, out, post⟩ := e
  dsimp only at hi hmoved hfree hown hends
  cases hends with
  | reject hno =>
    have hfull := hno.full i.peer
    simp [hfree] at hfull
  | bind hslot =>
    rename_i k
    obtain rfl | rfl := Slot.eq_or_eq_peer i k
    · cases hslot with
      | exact hk => exact hmoved hk
      | free _ hk =>
        have hactive := hi.1
        simp [hk] at hactive
      | sameIp _ hall | declared _ hall =>
        have hfull := hall k.peer
        simp [hfree] at hfull
    · -- the slot of the client keeps its old endpoint
      have hkeeps := (holds_iff.1 hown).2
      have hpeer := rebindSlot_peer pre.slots i.peer d.from_
      rw [Slot.peer_peer] at hpeer
      dsimp only at hkeeps
      rw [hpeer] at hkeeps
      exact hmoved (holds_iff.2 ⟨hi.1, hkeeps⟩)

/-- **Step lemma.** With one slot for each client, a registration is paired if and only if it
does not move while the other slot is free. -/
lemma OneEach.pairs_iff {e : RelayEntry} (h : OneEach a b e.pre.slots)
    (hfrom : e.act.from_.ip = a ∨ e.act.from_.ip = b) (hstep : (relayLTS token).Steps e)
    (hreg : (legacyRegistration? token e.act).isSome = true) :
    PairsClients a b e ↔ MovesWhenPaired e := by
  obtain ⟨port, hport⟩ := Option.isSome_iff_exists.1 hreg
  obtain ⟨hpost, hout⟩ := post_of_steps hstep
  have hends := registersLegacy_receive hport e.pre
  rw [← hpost, ← hout] at hends
  refine ⟨fun hpairs => movesWhenPaired_of_pairs hpairs hends, fun hmoves => ?_⟩
  obtain ⟨pre, d, out, post⟩ := e
  dsimp only at h hfrom hends
  cases hends with
  | reject hno => exact absurd hno (h.not_noSlotFor hfrom)
  | bind hslot => exact h.pairs_of_finds hfrom (h.finds hfrom hslot hmoves) rfl rfl

/-- A step leaves one slot for each client, if a registration moves only when both are
taken. -/
lemma OneEach.step {e : RelayEntry} (h : OneEach a b e.pre.slots)
    (hfrom : e.act.from_.ip = a ∨ e.act.from_.ip = b) (hstep : (relayLTS token).Steps e)
    (hmoves : (legacyRegistration? token e.act).isSome = true → MovesWhenPaired e) :
    OneEach a b e.post.slots := by
  rw [(post_of_steps hstep).1]
  cases hv3 : registration? token e.act with
  | some r =>
    obtain ⟨key, i⟩ := r
    rw [receive_of_registration hv3]
    have hends := registers_registerV3 e.pre (valid_of_registration hv3) i e.act.from_
    generalize e.pre.registerV3 key i e.act.from_ = r at hends
    obtain ⟨post, resp⟩ := r
    cases hends with
    | refresh | hold | promote => exact h
  | none =>
    cases hdata : isData e.act.buf with
    | true =>
      have hcarries : Carries e.pre e.act.from_ e.act.buf (e.pre.receive token e.act).1
          (e.pre.receive token e.act).2 := carries_receive hdata e.pre
      generalize e.pre.receive token e.act = r at hcarries
      obtain ⟨post, out⟩ := r
      dsimp only at hcarries ⊢
      cases hcarries with
      | unknown | endpoint => exact h
      | rebind _ _ hi => exact h.moveSlot hi.1
    | false =>
      cases hl : legacyRegistration? token e.act with
      | none =>
        rw [receive_of_other hv3 hl hdata]
        exact h
      | some port =>
        have hends := registersLegacy_receive hl e.pre
        generalize e.pre.receive token e.act = r at hends
        obtain ⟨post, out⟩ := r
        dsimp only at hends ⊢
        cases hends with
        | reject => exact h
        | bind hslot => exact h.rebindSlot hfrom (h.finds hfrom hslot (hmoves (by simp [hl])))

lemma oneEach_of_run {log : List RelayEntry} {st : RelayState}
    (h : (relayLTS token).Run log st) (hclients : TwoClients a b log)
    (hmoves : ∀ e ∈ log, (legacyRegistration? token e.act).isSome = true → MovesWhenPaired e) :
    OneEach a b st.slots := by
  have hok : ∀ e ∈ log, (e.act.from_.ip = a ∨ e.act.from_.ip = b) ∧
      ((legacyRegistration? token e.act).isSome = true → MovesWhenPaired e) :=
    fun e he => ⟨hclients e he, hmoves e he⟩
  refine h.invariant (fun _ st => OneEach a b st.slots) ?_
    (fun _ e hi hs hok => hi.step hok.1 hs hok.2) hok
  rintro st rfl
  exact ⟨fun i hi => by simp at hi, fun i hi => by simp at hi⟩

/-! ## Runs -/

/-- **The legacy registrations of two clients are paired in a run if and only if no client
registers from a new port while it holds a slot and the other slot is free.** -/
theorem pairs_iff_movesWhenPaired {log : List RelayEntry} {st : RelayState}
    (h : (relayLTS token).Run log st) (hclients : TwoClients a b log) :
    Pairs token a b log ↔
      ∀ e ∈ log, (legacyRegistration? token e.act).isSome = true → MovesWhenPaired e := by
  unfold Pairs
  induction log generalizing st with
  | nil => simp
  | cons e older ih =>
    obtain ⟨hrun, hstep, -⟩ := @LTS.Run.at_entry _ _ _ _ _ [] older e h
    have hfrom := hclients e List.mem_cons_self
    have holder : TwoClients a b older := fun e he => hclients e (List.mem_cons_of_mem _ he)
    rw [List.forall_mem_cons, List.forall_mem_cons, ih hrun holder, and_congr_left_iff]
    intro hmoves
    have heach := oneEach_of_run hrun holder hmoves
    exact forall_congr' fun hreg => heach.pairs_iff hfrom hstep hreg

/-- A legacy registration, for the examples. -/
def legacyFrom (ip : UInt32) (port : UInt16) : Datagram := ⟨⟨ip, port⟩, kMagicReg ++ roomToken⟩

/-- Two clients register, and both come back from new ports for a rematch. -/
theorem pairs_rematch :
    ∃ log st, (relayLTS roomToken).Run log st ∧ TwoClients 1 2 log ∧
      (∃ e ∈ log.head?, e.out = [⟨⟨2, 8⟩, kRespRegistered⟩]) ∧ Pairs roomToken 1 2 log := by
  obtain ⟨log, st, hrun, hclients, hout, hmoves⟩ := @exists_relayRun_of_exec roomToken
    [legacyFrom 1 5, legacyFrom 2 6, legacyFrom 1 7, legacyFrom 2 8]
    (fun log _ => TwoClients 1 2 log ∧ (∃ e ∈ log.head?, e.out = [⟨⟨2, 8⟩, kRespRegistered⟩]) ∧
      ∀ e ∈ log, (legacyRegistration? roomToken e.act).isSome = true → MovesWhenPaired e) _
    (by decide +kernel)
  exact ⟨log, st, hrun, hclients, hout, (pairs_iff_movesWhenPaired hrun hclients).2 hmoves⟩

/-- **One client is paired with itself.** It registers, and registers again from a new port
before the other client does. -/
theorem not_pairs :
    ¬ ∀ (token : List UInt8) (a b : UInt32) (log : List RelayEntry) (st : RelayState), a ≠ b →
        (relayLTS token).Run log st → TwoClients a b log →
        (∀ e ∈ log, (legacyRegistration? token e.act).isSome = true) → Pairs token a b log := by
  intro h
  obtain ⟨log, st, hrun, hclients, hreg, e, he, hout, hone⟩ := @exists_relayRun_of_exec roomToken
    [legacyFrom 1 5, legacyFrom 1 7]
    (fun log _ => TwoClients 1 2 log ∧
      (∀ e ∈ log, (legacyRegistration? roomToken e.act).isSome = true) ∧
      ∃ e ∈ log, (∃ o ∈ e.out, o.payload = kRespRegistered) ∧
        ∀ i, (e.post.slots i).addr.ip = 1) _ (by decide +kernel)
  obtain ⟨o, ho, hresp⟩ := hout
  obtain ⟨i, -, -, hb⟩ :=
    (h _ 1 2 log st (by decide) hrun hclients hreg e he (hreg e he)).paired o ho hresp
  rw [hone] at hb
  exact absurd hb (by decide)

end Relay
end Sf4e
