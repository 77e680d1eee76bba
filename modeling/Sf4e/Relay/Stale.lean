/-
# Stale registrations at the UDP relay

A key `K` was active and has been superseded by `K'`.  What comes in afterwards is traffic
of `K'` and, delayed or duplicated, registrations under `K`.  A stale registration starts a
pending generation, so the relay's memory of them is one bit per slot; when both bits are
set, `K` is promoted once more.
-/
import Sf4e.Relay.Generation

namespace Sf4e
namespace Relay

open Trace RelayState

variable {token : List UInt8} {K K' : GenerationKey}

/-! ## Forwarding -/

/-- Neither empty nor a probe nor a registration. -/
def isData (buf : List UInt8) : Bool :=
  !buf.isEmpty && !isHealth buf && !isRegV3 buf && !isRegLegacy buf && !isRegV2 buf

/-- Data from `a` is passed on to `b`, and to nobody else. -/
def Forwards (token : List UInt8) (st : RelayState) (a b : SockAddr) : Prop :=
  ∀ payload, isData (Datagram.buf ⟨a, payload⟩) = true →
    (st.receive token ⟨a, payload⟩).2 = [⟨b, Datagram.buf ⟨a, payload⟩⟩]

lemma receive_of_isData {d : Datagram} (h : isData d.buf = true) (st : RelayState) :
    st.receive token d = st.onData d.from_ d.buf := by
  simp only [isData, Bool.and_eq_true, Bool.not_eq_true', List.isEmpty_eq_false_iff] at h
  obtain ⟨⟨⟨⟨hne, hhealth⟩, hv3⟩, hlegacy⟩, hv2⟩ := h
  simp [receive, hne, hhealth, hv3, hlegacy, hv2]

/-- A complete active generation forwards from each of its slots to the other. -/
lemma forwards_of_active {st : RelayState} {addr : Slot → SockAddr}
    (hvalid : st.activeGeneration.key.valid = true)
    (hslots : ∀ i, st.activeGeneration.slots i = ⟨addr i, true⟩) (i : Slot) :
    Forwards token st (addr i) (addr i.peer) := by
  intro payload hdata
  rw [receive_of_isData hdata]
  generalize Datagram.buf ⟨addr i, payload⟩ = buf
  have hf : st.forwardingSlots = fun i => ⟨addr i, true⟩ := by
    simp [forwardingSlots, hvalid, funext hslots]
  -- two slots with one address are told apart by their index only, and both are its peer
  revert i
  refine Fin.forall_fin_two.2 ⟨?_, ?_⟩
  · intro _
    simp [onData, hf, findSlotByEndpoint, Slot.peer]
  · intro _
    by_cases heq : addr 0 = addr 1
    · simp [onData, hf, findSlotByEndpoint, Slot.peer, heq]
    · simp [onData, hf, findSlotByEndpoint, Slot.peer, heq]

/-! ## A superseded key -/

/-- After `older`, in which `K` was active, the entry `p` makes another key `K'` active. -/
structure Superseded (K K' : GenerationKey) (older : List RelayEntry) (p : RelayEntry) :
    Prop where
  /-- `K` was active. -/
  active : K.valid = true ∧ ∃ e ∈ older, e.post.activeGeneration.key = K
  /-- `K'` is another key. -/
  other : K' ≠ K
  /-- `K'` takes over. -/
  replaced : p.pre.activeGeneration.key ≠ K' ∧ p.post.activeGeneration.key = K'

/-- The datagram registers a slot under `K` or under `K'`, or nothing at all. -/
def Expected (token : List UInt8) (K K' : GenerationKey) (d : Datagram) : Prop :=
  registration? token d = none ∨
    ∃ i, registration? token d = some (K, i) ∨ registration? token d = some (K', i)

/-- A registration of the slot under the key is among the entries. -/
def Seen (token : List UInt8) (key : GenerationKey) (log : List RelayEntry) (i : Slot) : Prop :=
  ∃ e ∈ log, registration? token e.act = some (key, i)

/-- The endpoint of a slot of `K'`: where its newest registration came from, and else what
the generation started with. -/
def endpointOf (token : List UInt8) (K' : GenerationKey) (p : RelayEntry)
    (log : List RelayEntry) (i : Slot) : SockAddr :=
  match log.find? fun e => registration? token e.act = some (K', i) with
  | some e => e.act.from_
  | none => (p.post.activeGeneration.slots i).addr

/-- In the entries after `p`, `K` never becomes active and the relay forwards between the
two endpoints of `K'`. -/
structure StaysSuperseded (token : List UInt8) (K K' : GenerationKey) (p : RelayEntry)
    (newer : List RelayEntry) : Prop where
  /-- `K` stays inactive. -/
  inactive : ∀ e ∈ newer, e.post.activeGeneration.key ≠ K
  /-- `K'` is served. -/
  forwards : ∀ later e earlier, newer = later ++ e :: earlier → ∀ i,
    Forwards token e.post (endpointOf token K' p (e :: earlier) i)
      (endpointOf token K' p (e :: earlier) i.peer)

instance (K K' : GenerationKey) (older : List RelayEntry) (p : RelayEntry) :
    Decidable (Superseded K K' older p) :=
  decidable_of_iff ((K.valid = true ∧ ∃ e ∈ older, e.post.activeGeneration.key = K) ∧ K' ≠ K ∧
      p.pre.activeGeneration.key ≠ K' ∧ p.post.activeGeneration.key = K')
    ⟨fun h => ⟨h.1, h.2.1, h.2.2⟩, fun h => ⟨h.active, h.other, h.replaced⟩⟩

instance (token : List UInt8) (K K' : GenerationKey) (d : Datagram) :
    Decidable (Expected token K K' d) :=
  inferInstanceAs (Decidable (_ ∨ _))

instance (token : List UInt8) (key : GenerationKey) (log : List RelayEntry) (i : Slot) :
    Decidable (Seen token key log i) :=
  inferInstanceAs (Decidable (∃ e ∈ log, _))

/-! ## The invariant -/

@[simp] lemma seen_nil {key : GenerationKey} {i : Slot} : ¬ Seen token key [] i := by
  simp [Seen]

lemma seen_cons {key : GenerationKey} {e : RelayEntry} {log : List RelayEntry} {i : Slot} :
    Seen token key (e :: log) i ↔
      registration? token e.act = some (key, i) ∨ Seen token key log i := by
  simp [Seen]

lemma endpointOf_cons_self {p e : RelayEntry} {log : List RelayEntry} {i : Slot}
    (h : registration? token e.act = some (K', i)) :
    endpointOf token K' p (e :: log) i = e.act.from_ := by
  simp [endpointOf, h]

lemma endpointOf_cons_of_ne {p e : RelayEntry} {log : List RelayEntry} {i : Slot}
    (h : registration? token e.act ≠ some (K', i)) :
    endpointOf token K' p (e :: log) i = endpointOf token K' p log i := by
  simp [endpointOf, h]

/-- While `K` stays superseded: `K'` is active with its endpoints, and the pending
generation remembers which slots of `K` have registered, not both. -/
structure Holding (token : List UInt8) (K K' : GenerationKey) (p : RelayEntry)
    (log : List RelayEntry) (st : RelayState) : Prop where
  /-- `K'` was registered. -/
  valid : K'.valid = true
  /-- `K'` is active. -/
  key : st.activeGeneration.key = K'
  /-- Its slots hold its endpoints. -/
  slots : ∀ i, st.activeGeneration.slots i = ⟨endpointOf token K' p log i, true⟩
  /-- The pending generation remembers the stale registrations. -/
  pending : ∀ i, st.pendingGeneration.key = K ∧
    (st.pendingGeneration.slots i).active = true ↔ Seen token K log i
  /-- One slot has not registered. -/
  one : ∃ i, ¬ Seen token K log i

/-- A stale registration fills its slot of the pending generation or, when that completes
it, makes `K` active. -/
lemma Holding.stale {p e : RelayEntry} {log : List RelayEntry} {i : Slot}
    (h : Holding token K K' p log e.pre) (hne : K' ≠ K)
    (hreg : registration? token e.act = some (K, i)) {resp : List UInt8}
    (hend : Registers e.pre K i e.act.from_ e.post resp) :
    Holding token K K' p (e :: log) e.post ∨
      (e.post.activeGeneration.key = K ∧ ∀ j, Seen token K (e :: log) j) := by
  have hseen (j : Slot) : Seen token K (e :: log) j ↔ j = i ∨ Seen token K log j := by
    rw [seen_cons, hreg, Option.some.injEq, Prod.mk.injEq]
    simp [eq_comm]
  have hslots (j : Slot) : endpointOf token K' p (e :: log) j = endpointOf token K' p log j :=
    endpointOf_cons_of_ne (by simp [hreg, hne.symm])
  obtain ⟨pre, d, out, post⟩ := e
  dsimp only at h hend hseen hslots ⊢
  cases hend with
  | refresh hkey => exact absurd (h.key.symm.trans hkey) hne
  | hold hkey hg hone =>
    left
    rename_i g
    have hg' : g.key = K ∧ ∀ j, (g.slots j).active = true ↔ Seen token K log j := by
      obtain ⟨rfl, hpk⟩ | ⟨rfl, hpk⟩ := hg
      · exact ⟨hpk, fun j => by simp [← h.pending j, hpk]⟩
      · exact ⟨rfl, fun j => by simp [← h.pending j, hpk, resetGeneration]⟩
    have hbind (j : Slot) : ((bindSlot g.slots i d.from_) j).active = true ↔
        Seen token K (⟨pre, d, out, { pre with pendingGeneration := g.bind i d.from_ }⟩ :: log)
          j := by
      rw [hseen]
      by_cases hji : j = i
      · simp [hji]
      · simp [bindSlot_of_ne _ hji, hg'.2 j, hji]
    refine ⟨h.valid, h.key, fun j => by rw [hslots]; exact h.slots j, fun j => ?_, ?_⟩
    · rw [← hbind j]
      simp [GenerationState.bind, hg'.1]
    · by_contra hall
      push Not at hall
      rw [Bool.eq_false_iff, Ne, bothSlotsActive_iff] at hone
      exact hone fun j => (hbind j).2 (hall j)
  | promote hkey hpk hboth =>
    right
    refine ⟨hpk, fun j => ?_⟩
    rw [hseen]
    by_cases hji : j = i
    · exact Or.inl hji
    · have hj := bothSlotsActive_iff.1 hboth j
      rw [bindSlot_of_ne _ hji] at hj
      exact Or.inr ((h.pending j).1 ⟨hpk, hj⟩)

/-- A registration under `K'` moves its endpoint. -/
lemma Holding.refresh {p e : RelayEntry} {log : List RelayEntry} {i : Slot}
    (h : Holding token K K' p log e.pre) (hne : K' ≠ K)
    (hreg : registration? token e.act = some (K', i)) {resp : List UInt8}
    (hend : Registers e.pre K' i e.act.from_ e.post resp) :
    Holding token K K' p (e :: log) e.post := by
  have hseen (j : Slot) : Seen token K (e :: log) j ↔ Seen token K log j := by
    rw [seen_cons, hreg, Option.some.injEq, Prod.mk.injEq]
    simp [hne]
  have hself : endpointOf token K' p (e :: log) i = e.act.from_ := endpointOf_cons_self hreg
  have hother (j : Slot) (hji : j ≠ i) :
      endpointOf token K' p (e :: log) j = endpointOf token K' p log j :=
    endpointOf_cons_of_ne (by simp [hreg, hji.symm])
  obtain ⟨pre, d, out, post⟩ := e
  dsimp only at h hend hseen hself hother ⊢
  cases hend with
  | refresh hkey =>
    refine ⟨h.valid, h.key, fun j => ?_, fun j => by rw [hseen]; exact h.pending j, ?_⟩
    · by_cases hji : j = i
      · subst hji
        rw [hself]
        simp [GenerationState.bind]
      · rw [hother j hji]
        simp [GenerationState.bind, bindSlot_of_ne _ hji, h.slots j]
    · obtain ⟨j, hj⟩ := h.one
      exact ⟨j, fun hs => hj ((hseen j).1 hs)⟩
  | hold hkey => exact absurd h.key hkey
  | promote hkey => exact absurd h.key hkey

/-- **Step lemma.** An expected datagram leaves the relay holding, or it is the one that
completes the stale generation. -/
lemma Holding.step {p e : RelayEntry} {log : List RelayEntry}
    (h : Holding token K K' p log e.pre) (hne : K' ≠ K) (hstep : (relayLTS token).Steps e)
    (hexp : Expected token K K' e.act) :
    Holding token K K' p (e :: log) e.post ∨
      (e.post.activeGeneration.key = K ∧ ∀ j, Seen token K (e :: log) j) := by
  obtain hnone | ⟨i, hreg | hreg⟩ := hexp
  · left
    obtain ⟨hactive, hpending⟩ := generations_of_not_registration hnone e.pre
    rw [← (post_of_steps hstep).1] at hactive hpending
    have hseen (j : Slot) : Seen token K (e :: log) j ↔ Seen token K log j := by
      simp [seen_cons, hnone]
    refine ⟨h.valid, hactive ▸ h.key, fun j => ?_, fun j => ?_, ?_⟩
    · rw [hactive, h.slots j, endpointOf_cons_of_ne (by simp [hnone])]
    · rw [hpending, hseen]
      exact h.pending j
    · obtain ⟨j, hj⟩ := h.one
      exact ⟨j, fun hs => hj ((hseen j).1 hs)⟩
  · obtain ⟨resp, -, hend⟩ := registers_of_steps hstep hreg
    exact h.stale hne hreg hend
  · obtain ⟨resp, -, hend⟩ := registers_of_steps hstep hreg
    exact Or.inl (h.refresh hne hreg hend)

/-- The relay is holding right after `K'` took over. -/
lemma holding_of_replaced {older : List RelayEntry} {p : RelayEntry}
    (hrun : (relayLTS token).Run older p.pre) (hstep : (relayLTS token).Steps p)
    (hs : Superseded K K' older p) : Holding token K K' p [] p.post := by
  have hinv := (relayInv_of_run hrun).step hstep
  have hchanged : p.post.activeGeneration.key ≠ p.pre.activeGeneration.key := by
    rw [hs.replaced.2]
    exact hs.replaced.1.symm
  obtain ⟨i, hreg, -, -, -⟩ := promotes_of_ne hinv hstep hchanged
  have hvalid := valid_of_registration hreg
  have hempty : p.post.pendingGeneration = {} := by
    obtain ⟨resp, -, hend⟩ := registers_of_steps hstep hreg
    obtain ⟨pre, d, out, post⟩ := p
    dsimp only at hend hchanged ⊢
    cases hend with
    | refresh => exact absurd rfl hchanged
    | hold => exact absurd rfl hchanged
    | promote => rfl
  refine ⟨hs.replaced.2 ▸ hvalid, hs.replaced.2, fun j => ?_, fun j => ?_, ⟨0, seen_nil⟩⟩
  · have hj := bothSlotsActive_iff.1 (hinv.complete hvalid) j
    simp only [endpointOf, List.find?_nil, ← hj]
  · simp [hempty]

/-! ## Never reactivated -/

/-- **A superseded key stays superseded, and its successor is served, if and only if for one
of its slots no stale registration comes in.** -/
theorem staysSuperseded_iff {newer older : List RelayEntry} {p : RelayEntry} {st : RelayState}
    (h : (relayLTS token).Run (newer ++ p :: older) st) (hs : Superseded K K' older p)
    (hexp : ∀ e ∈ newer, Expected token K K' e.act) :
    StaysSuperseded token K K' p newer ↔ ∃ i, ¬ Seen token K newer i := by
  obtain ⟨hrun, hstep, hpath⟩ := h.at_entry
  have hstart := holding_of_replaced hrun hstep hs
  constructor
  · intro hstays
    have hok : ∀ e ∈ newer, Expected token K K' e.act ∧ e.post.activeGeneration.key ≠ K :=
      fun e he => ⟨hexp e he, hstays.inactive e he⟩
    refine (hpath.invariant (Holding token K K' p) hstart ?_ hok).one
    rintro log e hlog hsteps ⟨hexp, hinactive⟩
    obtain hnext | ⟨hactive, -⟩ := hlog.step hs.other hsteps hexp
    · exact hnext
    · exact absurd hactive hinactive
  · rintro ⟨i, hi⟩
    have hholding : ∀ later e earlier, newer = later ++ e :: earlier →
        Holding token K K' p (e :: earlier) e.post := by
      rintro later e earlier rfl
      obtain ⟨hbefore, hsteps, -⟩ := hpath.at_entry
      have hok : ∀ e' ∈ e :: earlier, Expected token K K' e'.act ∧
          registration? token e'.act ≠ some (K, i) := fun e' he' =>
        ⟨hexp e' (List.mem_append_right _ he'),
          fun hreg => hi ⟨e', List.mem_append_right _ he', hreg⟩⟩
      have hboth := (LTS.Path.snoc hbefore hsteps).invariant
        (fun log st => Holding token K K' p log st ∧ ¬ Seen token K log i) ⟨hstart, seen_nil⟩ ?_ hok
      · exact hboth.1
      rintro log e' ⟨hlog, hunseen⟩ hsteps' ⟨hexp', hreg'⟩
      have hnext : ¬ Seen token K (e' :: log) i := by
        rw [seen_cons]
        exact not_or.2 ⟨hreg', hunseen⟩
      obtain h' | ⟨-, hall⟩ := hlog.step hs.other hsteps' hexp'
      · exact ⟨h', hnext⟩
      · exact absurd (hall i) hnext
    constructor
    · intro e he
      obtain ⟨later, earlier, heq⟩ := List.append_of_mem he
      rw [(hholding later e earlier heq).key]
      exact hs.other
    · intro later e earlier heq j
      have hat := hholding later e earlier heq
      exact forwards_of_active (hat.key ▸ hat.valid) hat.slots j

/-- The log of two matches on the same endpoints, cut where the second one takes over, and of
what is received after that. -/
lemma exists_rematch_of_exec (ds : List Datagram) {q : List RelayEntry → List RelayEntry → Prop}
    [∀ newer older, Decidable (q newer older)]
    (h : (LTS.exec (RelayState.next roomToken) {} []
      ([registrationFrom 5 0 1 2, registrationFrom 6 1 1 2, registrationFrom 5 0 3 4,
        registrationFrom 6 1 3 4] ++ ds)).any (fun r => decide
          (∃ p ∈ (r.1.drop ds.length).head?,
            Superseded (exampleKey 1 2) (exampleKey 3 4) (r.1.drop (ds.length + 1)) p ∧
            q (r.1.take ds.length) (r.1.drop (ds.length + 1)))) = true) :
    ∃ newer p older st, (relayLTS roomToken).Run (newer ++ p :: older) st ∧
      Superseded (exampleKey 1 2) (exampleKey 3 4) older p ∧ q newer older := by
  obtain ⟨log, st, hrun, p, hp, hs, hq⟩ :=
    @exists_relayRun_of_exec roomToken _
      (fun log _ => ∃ p ∈ (log.drop ds.length).head?,
        Superseded (exampleKey 1 2) (exampleKey 3 4) (log.drop (ds.length + 1)) p ∧
        q (log.take ds.length) (log.drop (ds.length + 1))) _ h
  have hlog : log = log.take ds.length ++ p :: log.drop (ds.length + 1) := by
    have hcons := List.eq_cons_of_mem_head? hp
    rw [List.tail_drop] at hcons
    rw [← hcons, List.take_append_drop]
  exact ⟨_, p, _, st, hlog ▸ hrun, hs, hq⟩

/-- After the rematch the first player's registration for the first match is delivered twice
more. -/
theorem staysSuperseded_one_slot :
    ∃ newer p older st, (relayLTS roomToken).Run (newer ++ p :: older) st ∧
      (∃ i, Seen roomToken (exampleKey 1 2) newer i) ∧
      StaysSuperseded roomToken (exampleKey 1 2) (exampleKey 3 4) p newer := by
  obtain ⟨newer, p, older, st, hrun, hs, hexp, hone, hseen⟩ :=
    exists_rematch_of_exec [registrationFrom 5 0 1 2, registrationFrom 5 0 1 2]
      (q := fun newer _ =>
        (∀ e ∈ newer, Expected roomToken (exampleKey 1 2) (exampleKey 3 4) e.act) ∧
        (∃ i, ¬ Seen roomToken (exampleKey 1 2) newer i) ∧
        ∃ i, Seen roomToken (exampleKey 1 2) newer i) (by decide +kernel)
  exact ⟨newer, p, older, st, hrun, hseen, (staysSuperseded_iff hrun hs hexp).2 hone⟩

/-- **A superseded key is reactivated.** After the rematch the registrations of both players
for the first match are delivered once more, and nothing else. -/
theorem not_staysSuperseded :
    ¬ ∀ (token : List UInt8) (K K' : GenerationKey) (newer older : List RelayEntry)
        (p : RelayEntry) (st : RelayState), (relayLTS token).Run (newer ++ p :: older) st →
        Superseded K K' older p → (∀ e ∈ newer, Expected token K K' e.act) →
        (∀ e ∈ newer, ∃ e' ∈ older, e'.act = e.act) → StaysSuperseded token K K' p newer := by
  intro h
  obtain ⟨newer, p, older, st, hrun, hs, hexp, hcopy, e, he, hactive⟩ :=
    exists_rematch_of_exec [registrationFrom 5 0 1 2, registrationFrom 6 1 1 2]
      (q := fun newer older =>
        (∀ e ∈ newer, Expected roomToken (exampleKey 1 2) (exampleKey 3 4) e.act) ∧
        (∀ e ∈ newer, ∃ e' ∈ older, e'.act = e.act) ∧
        ∃ e ∈ newer, e.post.activeGeneration.key = exampleKey 1 2) (by decide +kernel)
  exact (h _ _ _ newer older p st hrun hs hexp hcopy).inactive e he hactive

end Relay
end Sf4e
