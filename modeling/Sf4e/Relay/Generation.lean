/-
# Generation safety of the UDP relay

The relay keeps an active and a pending generation, both driven by whatever datagrams come
in.  `RelayInv` is their joint invariant: every slot that is taken, in either of them, was
registered for that slot, under that very key and with the token, from exactly the endpoint
it holds; and an active generation with a valid key has both slots taken.  Each of the three
ways in which a registration can end (`Registers`) preserves it.
-/
import Sf4e.Relay.Registration

namespace Sf4e
namespace Relay

open Trace RelayState

/-! ## The invariant -/

/-- Some datagram of the log registered this slot under this key from this endpoint. -/
def RegisteredAs (token : List UInt8) (log : List RelayEntry) (key : GenerationKey) (i : Slot)
    (addr : SockAddr) : Prop :=
  ∃ e ∈ log, registration? token e.act = some (key, i) ∧ e.act.from_ = addr

lemma RegisteredAs.mono {token : List UInt8} {log : List RelayEntry} {key : GenerationKey}
    {i : Slot} {addr : SockAddr} (h : RegisteredAs token log key i addr) (e : RelayEntry) :
    RegisteredAs token (e :: log) key i addr := by
  obtain ⟨e', he', h'⟩ := h
  exact ⟨e', List.mem_cons_of_mem _ he', h'⟩

/-- Every slot taken in the generation was registered for it. -/
def Backed (token : List UInt8) (log : List RelayEntry) (g : GenerationState) : Prop :=
  g.key.valid = true → ∀ i, (g.slots i).active = true →
    RegisteredAs token log g.key i (g.slots i).addr

lemma Backed.mono {token : List UInt8} {log : List RelayEntry} {g : GenerationState}
    (h : Backed token log g) (e : RelayEntry) : Backed token (e :: log) g :=
  fun hvalid i hi => (h hvalid i hi).mono e

/-- One more registration keeps a generation backed. -/
lemma Backed.bind {token : List UInt8} {log : List RelayEntry} {g : GenerationState}
    (h : Backed token log g) {e : RelayEntry} {i : Slot}
    (he : registration? token e.act = some (g.key, i)) :
    Backed token (e :: log) (g.bind i e.act.from_) := by
  intro hvalid j hj
  by_cases hji : j = i
  · subst hji
    exact ⟨e, List.mem_cons_self, he, by simp [GenerationState.bind]⟩
  · simp only [GenerationState.bind, bindSlot_of_ne _ hji] at hj ⊢
    exact (h hvalid j hj).mono e

/-- The joint invariant of the two generations. -/
structure RelayInv (token : List UInt8) (log : List RelayEntry) (st : RelayState) : Prop where
  /-- The active generation is backed by registrations. -/
  active : Backed token log st.activeGeneration
  /-- The pending generation is backed by registrations. -/
  pending : Backed token log st.pendingGeneration
  /-- The active generation is complete. -/
  complete : st.activeGeneration.key.valid = true →
    bothSlotsActive st.activeGeneration.slots = true

lemma bothSlotsActive_bind {slots : Slot → Endpoint} (h : bothSlotsActive slots = true)
    (i : Slot) (addr : SockAddr) : bothSlotsActive (bindSlot slots i addr) = true := by
  rw [bothSlotsActive_iff] at h ⊢
  intro j
  by_cases hji : j = i
  · subst hji
    simp
  · rw [bindSlot_of_ne addr hji]
    exact h j

variable {token : List UInt8}

/-- **Step lemma.** Every datagram preserves the joint invariant. -/
lemma RelayInv.step {log : List RelayEntry} {e : RelayEntry} (h : RelayInv token log e.pre)
    (hstep : (relayLTS token).Steps e) : RelayInv token (e :: log) e.post := by
  cases hreg : registration? token e.act with
  | none =>
    obtain ⟨hactive, hpending⟩ := generations_of_not_registration hreg e.pre
    rw [← (post_of_steps hstep).1] at hactive hpending
    refine ⟨?_, ?_, ?_⟩
    · rw [hactive]
      exact h.active.mono e
    · rw [hpending]
      exact h.pending.mono e
    · rw [hactive]
      exact h.complete
  | some r =>
    obtain ⟨key, i⟩ := r
    obtain ⟨resp, -, hcases⟩ := registers_of_steps hstep hreg
    obtain ⟨pre, d, out, post⟩ := e
    dsimp only at h hreg hcases ⊢
    cases hcases with
    | refresh hkey =>
      exact ⟨h.active.bind (by rw [hreg, hkey]), h.pending.mono _, fun hvalid =>
        bothSlotsActive_bind (h.complete hvalid) i _⟩
    | hold hkey hg hone =>
      refine ⟨h.active.mono _, ?_, h.complete⟩
      obtain ⟨rfl, hpk⟩ | ⟨rfl, -⟩ := hg
      · exact h.pending.bind (by rw [hreg, hpk])
      · have hempty : Backed token log (resetGeneration key) := by
          intro _ j hj
          simp [resetGeneration] at hj
        exact hempty.bind hreg
    | promote hkey hpk hboth =>
      exact ⟨h.pending.bind (by rw [hreg, hpk]), fun hvalid => by simp at hvalid, fun _ => hboth⟩

/-- The joint invariant in every run. -/
lemma relayInv_of_run {log : List RelayEntry} {st : RelayState}
    (h : (relayLTS token).Run log st) : RelayInv token log st := by
  refine h.invariant_of_step (RelayInv token) ?_ fun _ _ hi hs => hi.step hs
  rintro st rfl
  exact ⟨fun hv => by simp at hv, fun hv => by simp at hv, fun hv => by simp at hv⟩

/-- The joint invariant right after an entry of a run. -/
lemma relayInv_at_entry {newer older : List RelayEntry} {e : RelayEntry} {st : RelayState}
    (h : (relayLTS token).Run (newer ++ e :: older) st) :
    (relayLTS token).Steps e ∧ RelayInv token (e :: older) e.post := by
  obtain ⟨hrun, hstep, -⟩ := h.at_entry
  exact ⟨hstep, (relayInv_of_run hrun).step hstep⟩

/-! ## Generation safety -/

/-- The entry promotes the pending generation: a registration completes it, and both its
slots were registered under its key from the endpoints they hold. -/
def Promotes (token : List UInt8) (older : List RelayEntry) (e : RelayEntry) : Prop :=
  ∃ i, registration? token e.act = some (e.post.activeGeneration.key, i) ∧
    e.pre.pendingGeneration.key = e.post.activeGeneration.key ∧
    e.post.activeGeneration = e.pre.pendingGeneration.bind i e.act.from_ ∧
    ∀ j, RegisteredAs token (e :: older) e.post.activeGeneration.key j
      (e.post.activeGeneration.slots j).addr

/-- The entry answers a registration with `SF4R`. -/
def AnswersRegistered (token : List UInt8) (e : RelayEntry) (key : GenerationKey) (i : Slot) :
    Prop :=
  registration? token e.act = some (key, i) ∧ ⟨e.act.from_, kRespRegistered⟩ ∈ e.out

/-- What the active generation looks like when a registration of slot `i` under `key` is
answered with `SF4R`: it has that key, its slot `i` is the sender, and the other slot was
registered under that key from the endpoint it holds. -/
structure Vouched (token : List UInt8) (older : List RelayEntry) (e : RelayEntry)
    (key : GenerationKey) (i : Slot) : Prop where
  hasKey : e.post.activeGeneration.key = key
  sender : e.post.activeGeneration.slots i = ⟨e.act.from_, true⟩
  other : (e.post.activeGeneration.slots i.peer).active = true ∧
    RegisteredAs token (e :: older) key i.peer (e.post.activeGeneration.slots i.peer).addr

/-- The four parts of generation safety, over a log and the state it leads to. -/
structure GenerationSafety (token : List UInt8) (log : List RelayEntry) (st : RelayState) :
    Prop where
  /-- An active generation with a valid key holds two registered endpoints. -/
  complete : st.activeGeneration.key.valid = true → ∀ i,
    (st.activeGeneration.slots i).active = true ∧
      RegisteredAs token log st.activeGeneration.key i (st.activeGeneration.slots i).addr
  /-- The active key changes by promotion only. -/
  promoted : ∀ newer e older, log = newer ++ e :: older →
    e.post.activeGeneration.key ≠ e.pre.activeGeneration.key → Promotes token older e
  /-- `SF4R` says the truth. -/
  vouched : ∀ newer e older, log = newer ++ e :: older → ∀ key i,
    AnswersRegistered token e key i → Vouched token older e key i
  /-- A datagram without the token changes no generation. -/
  guarded : ∀ e ∈ log, tokenMatches token (e.act.buf.drop 4) = false →
    e.post.activeGeneration = e.pre.activeGeneration ∧
      e.post.pendingGeneration = e.pre.pendingGeneration

lemma registration_eq_none {d : Datagram} (h : tokenMatches token (d.buf.drop 4) = false) :
    registration? token d = none := by
  simp [registration?, h]

lemma promotes_of_ne {older : List RelayEntry} {e : RelayEntry}
    (hpost : RelayInv token (e :: older) e.post) (hstep : (relayLTS token).Steps e)
    (hne : e.post.activeGeneration.key ≠ e.pre.activeGeneration.key) : Promotes token older e := by
  cases hreg : registration? token e.act with
  | none =>
    obtain ⟨hactive, -⟩ := generations_of_not_registration hreg e.pre
    rw [← (post_of_steps hstep).1] at hactive
    exact absurd (by rw [hactive]) hne
  | some r =>
    obtain ⟨key, i⟩ := r
    have hvalid := valid_of_registration hreg
    obtain ⟨resp, -, hcases⟩ := registers_of_steps hstep hreg
    obtain ⟨pre, d, out, post⟩ := e
    dsimp only at hreg hcases hne hpost ⊢
    cases hcases with
    | refresh hkey => exact absurd rfl hne
    | hold hkey hg hone => exact absurd rfl hne
    | promote hkey hpk hboth =>
      refine ⟨i, by rw [hreg]; simp [GenerationState.bind, hpk], rfl, rfl, fun j => ?_⟩
      exact hpost.active (by simp [GenerationState.bind, hpk, hvalid]) j
        (bothSlotsActive_iff.1 hboth j)

lemma vouched_of_answers {older : List RelayEntry} {e : RelayEntry} {key : GenerationKey}
    {i : Slot} (hpost : RelayInv token (e :: older) e.post) (hstep : (relayLTS token).Steps e)
    (h : AnswersRegistered token e key i) : Vouched token older e key i := by
  obtain ⟨hreg, hresp⟩ := h
  have hvalid := valid_of_registration hreg
  obtain ⟨resp, hout, hcases⟩ := registers_of_steps hstep hreg
  have hsent : resp = kRespRegistered := by
    rw [hout] at hresp
    exact (Sent.mk.inj (List.mem_singleton.1 hresp)).2.symm
  have hkey : e.post.activeGeneration.key = key ∧
      e.post.activeGeneration.slots i = ⟨e.act.from_, true⟩ := by
    obtain ⟨pre, d, out, post⟩ := e
    dsimp only at hcases ⊢
    cases hcases with
    | refresh hkey => exact ⟨hkey, by simp [GenerationState.bind]⟩
    | hold => exact absurd hsent (by decide)
    | promote hkey hpk hboth => exact ⟨hpk, by simp [GenerationState.bind]⟩
  have hcomplete := hpost.complete (by rw [hkey.1, hvalid])
  have hpeer := bothSlotsActive_iff.1 hcomplete i.peer
  refine ⟨hkey.1, hkey.2, hpeer, ?_⟩
  rw [← hkey.1]
  exact hpost.active (by rw [hkey.1, hvalid]) i.peer hpeer

/-- **Generation safety**, in every reachable state of the relay and for every sequence of
datagrams. -/
theorem generationSafety {log : List RelayEntry} {st : RelayState}
    (h : (relayLTS token).Run log st) : GenerationSafety token log st := by
  have hinv := relayInv_of_run h
  refine ⟨fun hvalid i => ?_, fun newer e older hlog hne => ?_,
    fun newer e older hlog key i ha => ?_, fun e he htoken => ?_⟩
  · have hi := bothSlotsActive_iff.1 (hinv.complete hvalid) i
    exact ⟨hi, hinv.active hvalid i hi⟩
  · obtain ⟨hstep, hpost⟩ := relayInv_at_entry (hlog ▸ h)
    exact promotes_of_ne hpost hstep hne
  · obtain ⟨hstep, hpost⟩ := relayInv_at_entry (hlog ▸ h)
    exact vouched_of_answers hpost hstep ha
  · obtain ⟨s, -, hpath⟩ := h
    rw [(post_of_steps (hpath.steps_of_mem he)).1]
    exact generations_of_not_registration (registration_eq_none htoken) e.pre

/-- Two players register, and the generation is promoted. -/
theorem generationSafety_two_players :
    ∃ log st, (relayLTS roomToken).Run log st ∧ st.activeGeneration.key.valid = true ∧
      GenerationSafety roomToken log st := by
  obtain ⟨log, st, hrun, hvalid⟩ :=
    @exists_relayRun_of_exec roomToken [registrationFrom 5 0 1 2, registrationFrom 6 1 1 2]
      (fun _ st => st.activeGeneration.key.valid = true) _ (by decide +kernel)
  exact ⟨log, st, hrun, hvalid, generationSafety hrun⟩

end Relay
end Sf4e
