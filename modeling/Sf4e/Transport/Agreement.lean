/-
# Do the two players of a match come to the same transport?

With P2P configured, either player tries to punch and falls back to the relay on its own.  A
player that has fallen back does not punch any more, and the relay confirms a registration only
when the other player has registered for the same match, that is, has fallen back as well.  So
the two come to the same transport unless the confirmation is not one for this match: because a
stale answer is taken, or because the match has the key of an earlier one
(`sameTransport_of_answersOwn`).
-/
import Sf4e.Transport.Network

namespace Sf4e
namespace Transport

open Wire Relay Trace

variable {site : Site}

/-! ## The relay sends no registrations -/

lemma registration_eq_none_of_isRegV3 {token : List UInt8} {d : Datagram}
    (h : isRegV3 d.buf = false) : registration? token d = none := by
  simp [registration?, h]

lemma buf_buf (addr : SockAddr) (d : Datagram) : (⟨addr, d.buf⟩ : Datagram).buf = d.buf := by
  simp [Datagram.buf, List.take_take]

/-- What the relay sends are its answers and what is no registration anyway. -/
lemma registration_of_mem_receive {token : List UInt8} {st : RelayState} {d : Datagram} {o : Sent}
    (h : o ∈ (st.receive token d).2) (addr : SockAddr) :
    registration? token ⟨addr, o.payload⟩ = none := by
  refine registration_eq_none_of_isRegV3 ?_
  rcases payload_of_mem_receive h with hresp | ⟨hdata, hv3⟩
  · have hall : ∀ resp ∈ [kRespHealth, kRespRegistered, kRespWaiting],
        isRegV3 (resp.take kMaxPacket) = false := by decide
    exact hall _ hresp
  · rw [hdata, buf_buf]
    exact hv3

lemma registration_punchPayload (token : List UInt8) (addr : SockAddr) :
    registration? token ⟨addr, punchPayload⟩ = none :=
  registration_eq_none_of_isRegV3 (show isRegV3 (punchPayload.take kMaxPacket) = false by decide)

/-! ## Where registrations come from -/

/-- Somebody has sent this registration. -/
def Network.HasProbed (s : Network) (key : GenerationKey) (j : Slot) : Prop :=
  ∃ b ∈ s.probes, b.slot = j ∧ b.key = key

/-- Every registration on the network is accounted for. -/
structure Accounted (site : Site) (rlog : List RelayEntry) (s : Network) : Prop where
  /-- A call registers the slot of its player. -/
  own : ∀ i, ∀ c ∈ (s.players i).call, ∀ r ∈ c.registration, r.playerSlot = i
  sent : ∀ p ∈ s.sent, ∀ key j, registration? site.token p.datagram = some (key, j) →
    s.HasProbed key j
  received : ∀ e ∈ rlog, ∀ key j, registration? site.token e.act = some (key, j) →
    s.HasProbed key j
  /-- A call that waits for the answer to its registration has sent it. -/
  waiting : ∀ i, ∀ c ∈ (s.players i).call, ∀ again dest, c.stage = .register again dest true →
    ∃ b ∈ s.probes, b.slot = i ∧ b.game = (s.players i).game ∧ c.key = some b.key
  /-- A call that has come to the relay has registered. -/
  reported : ∀ r ∈ s.reports, r.effective = GgpoTransportMode.udpRelay.code →
    ∃ b ∈ s.probes, b.slot = r.slot ∧ b.game = r.game ∧ r.key = some b.key

lemma Network.HasProbed.mono {s t : Network} {key : GenerationKey} {j : Slot}
    (h : s.HasProbed key j) (hprobes : ∀ b ∈ s.probes, b ∈ t.probes) : t.HasProbed key j := by
  obtain ⟨b, hb, h⟩ := h
  exact ⟨b, hprobes b hb, h⟩

@[simp] lemma game_advanced {s : Network} {i j : Slot} {c c' : Call} {out : List Sent} :
    ((s.advanced i c out c').players j).game = (s.players j).game := by
  rcases eq_or_ne j i with rfl | hne
  · simp [Network.advanced]
  · simp [Network.advanced, Function.update_of_ne hne]

/-- The registration among the datagrams of a call. -/
lemma probeOf_eq {i : Slot} {p : Player} {c : Call} {r : Registration} {again : Bool}
    {dest : SockAddr} (hr : c.registering = some r)
    (hstage : c.stage = .register again dest false) :
    probeOf i p c [⟨dest, c.packet r⟩] = [⟨i, p.game, ⟨Call.readyMessageNum r, true⟩⟩] := by
  simp [probeOf, hstage, Call.key, (Call.registration_of_registering hr).1]

/-- The packet of a call registers what the call is to register. -/
lemma registration_packet {token : List UInt8} {c : Call} {r : Registration} {addr : SockAddr}
    {key : GenerationKey} {j : Slot} (hr : c.registering = some r)
    (h : registration? token ⟨addr, c.packet r⟩ = some (key, j)) :
    key = ⟨Call.readyMessageNum r, true⟩ ∧ j = r.playerSlot := by
  have hcan := (Call.registration_of_registering hr).2
  simp only [Call.canRegister, Bool.and_eq_true, beq_iff_eq] at hcan
  exact eq_of_registration_registrationPacket hcan.1.1.1.2 h

/-- A step of one player's call keeps the account. -/
lemma Accounted.advanced {rlog : List RelayEntry} {s : Network} {i : Slot} {ev : CallEvent}
    {c c' : Call} {out : List Sent} (h : Accounted site rlog s)
    (hcall : c ∈ (s.players i).call) (hpending : ∀ ok effective, c.stage ≠ .done ok effective)
    (hm : c.Moves site.inet ev out c')
    (hown : ∀ client, ev = .stepped client → ownSlot i client = true) :
    Accounted site rlog (s.advanced i c out c') := by
  have hprobes : ∀ b ∈ s.probes, b ∈ (s.advanced i c out c').probes :=
    fun b hb => List.mem_append_left _ hb
  refine ⟨fun j c₂ hc₂ r hr => ?_, fun p hp key j hreg => ?_, fun e he key j hreg => ?_,
    fun j c₂ hc₂ again dest hstage => ?_, fun r hr heffective => ?_⟩
  · rcases call_advanced hc₂ with ⟨rfl, rfl⟩ | ⟨-, hc₂⟩
    · rcases hm.registration with hsame | ⟨client, rfl, hnew⟩
      · exact h.own _ c hcall r (hsame ▸ hr)
      · have hslot := hown client rfl
        rw [hnew] at hr
        rw [ownSlot, Option.mem_def.1 hr] at hslot
        exact beq_iff_eq.1 hslot
    · exact h.own j c₂ hc₂ r hr
  · rcases List.mem_append.1 hp with hp | hp
    · exact (h.sent p hp key j hreg).mono hprobes
    · obtain ⟨o, ho, rfl⟩ := List.mem_map.1 hp
      rcases hm.sends ho with hpunch | ⟨r, again, dest, hr, hstage, rfl, hpacket⟩
      · simp only [Packet.datagram, hpunch, registration_punchPayload] at hreg
        simp at hreg
      · -- the packet is noted as a probe
        simp only [Packet.datagram, hpacket] at hreg
        obtain ⟨rfl, rfl⟩ := registration_packet hr hreg
        have hslot := h.own i c hcall r (Call.registration_of_registering hr).1
        refine ⟨⟨i, (s.players i).game, ⟨Call.readyMessageNum r, true⟩⟩, ?_, hslot.symm, rfl⟩
        exact List.mem_append_right _ (by rw [probeOf_eq hr hstage]; exact List.mem_cons_self)
  · exact (h.received e he key j hreg).mono hprobes
  · rcases call_advanced hc₂ with ⟨rfl, rfl⟩ | ⟨-, hc₂⟩
    · obtain ⟨r, hr, hfalse, rfl, hsame⟩ := hm.waiting hstage
      refine ⟨_, List.mem_append_right _ (by rw [probeOf_eq hr hfalse]; exact List.mem_cons_self),
        rfl, by simp, ?_⟩
      simp [Call.key, hsame, (Call.registration_of_registering hr).1]
    · obtain ⟨b, hb, hslot, hgame, hkey⟩ := h.waiting j c₂ hc₂ again dest hstage
      exact ⟨b, hprobes b hb, hslot, by simp [hgame], hkey⟩
  · rcases report_advanced hr with hr | ⟨hrslot, hrgame, hrkey, hdone⟩
    · obtain ⟨b, hb, hb'⟩ := h.reported r hr heffective
      exact ⟨b, hprobes b hb, hb'⟩
    · rcases hm.succeeds hpending hdone with
        ⟨_, _, -, -, hp2p⟩ | ⟨again, dest, -, hstage, -, -, -, hsame⟩
      · exact absurd (hp2p.symm.trans heffective) (by decide)
      · obtain ⟨b, hb, hslot, hgame, hkey⟩ := h.waiting i c hcall again dest hstage
        refine ⟨b, hprobes b hb, hslot.trans hrslot.symm, hgame.trans hrgame.symm, ?_⟩
        rw [hrkey, ← hkey]
        simp [Call.key, hsame]

lemma game_prepared_of_ne {s : Network} {i j : Slot} {game : ℕ} {env : TransportEnv}
    {client : NetplayClient} {cfg : NetplayConfig} (h : j ≠ i) :
    ((s.prepared i game env client cfg).players j).game = (s.players j).game := by
  simp [Network.prepared, Function.update_of_ne h]

@[simp] lemma game_rebound {s : Network} {i j : Slot} {addr : SockAddr} :
    ((s.rebound i addr).players j).game = (s.players j).game := by
  rcases eq_or_ne j i with rfl | hne
  · simp [Network.rebound]
  · simp [Network.rebound, Function.update_of_ne hne]

lemma Accounted.prepared {rlog : List RelayEntry} {s : Network} {i : Slot} {game : ℕ}
    {env : TransportEnv} {client : NetplayClient} {cfg : NetplayConfig} (h : Accounted site rlog s)
    (hown : ownSlot i client = true) :
    Accounted site rlog (s.prepared i game env client cfg) := by
  refine ⟨fun j c hc r hr => ?_, h.sent, h.received, fun j c hc again dest hstage => ?_,
    fun r hr heffective => ?_⟩
  · rcases call_prepared hc with ⟨rfl, rfl⟩ | ⟨-, hc⟩
    · have hclient : client.prepareForBattle = some r := by
        rw [← hr]
        exact (Call.registration_start site.inet env (some client) cfg).symm
      rw [ownSlot, hclient] at hown
      exact beq_iff_eq.1 hown
    · exact h.own j c hc r hr
  · rcases call_prepared hc with ⟨rfl, rfl⟩ | ⟨hne, hc⟩
    · exact absurd hstage (Call.start_ne_register site.inet env _ cfg again dest)
    · obtain ⟨b, hb, hslot, hgame, hkey⟩ := h.waiting j c hc again dest hstage
      exact ⟨b, hb, hslot, by rw [hgame, game_prepared_of_ne hne], hkey⟩
  · rcases report_prepared hr with hr | ⟨-, -, -, hlegacy⟩
    · exact h.reported r hr heffective
    · exact absurd (hlegacy.symm.trans heffective) (by decide)

/-- Every step keeps the account. -/
lemma Accounted.step {log : List NetEntry} {e : NetEntry}
    (h : Accounted site (relayLog site log) e.pre) (hstep : (netLTS site).Steps e) :
    Accounted site (relayLog site (e :: log)) e.post := by
  have hm := netMoves_of_steps hstep
  obtain ⟨s, a, ⟨⟩, t⟩ := e
  dsimp only at h hm ⊢
  cases hm with
  | prepares hidle hgame hown =>
    rw [relayLog_cons_of_none rfl]
    exact h.prepared hown
  | advances hcall hpending hm hev hown =>
    rw [relayLog_cons_of_none rfl]
    exact h.advanced hcall hpending hm hown
  | delivers hp hcall hpending hm =>
    rw [relayLog_cons_of_none rfl]
    exact h.advanced hcall hpending hm (by simp)
  | @relays n p hp =>
    -- what the relay receives was sent, and what it sends registers nothing
    rw [relayLog_cons_relay hp]
    have hsent := h.sent p (List.mem_of_getElem? hp)
    refine ⟨h.own, fun p' hp' key j hreg => ?_, fun e he key j hreg => ?_, h.waiting, h.reported⟩
    · rcases List.mem_append.1 hp' with hp' | hp'
      · exact h.sent p' hp' key j hreg
      · obtain ⟨o, ho, rfl⟩ := List.mem_map.1 hp'
        simp only [Packet.datagram, registration_of_mem_receive ho] at hreg
        simp at hreg
    · rcases List.mem_cons.1 he with rfl | he
      · exact hsent key j hreg
      · exact h.received e he key j hreg
  | @plays i dst payload hplay =>
    rw [relayLog_cons_of_none rfl]
    refine ⟨h.own, fun p hp key j hreg => ?_, h.received, h.waiting, h.reported⟩
    rcases List.mem_append.1 hp with hp | hp
    · exact h.sent p hp key j hreg
    · rw [List.mem_singleton] at hp
      subst hp
      simp only [Packet.datagram, registration_eq_none_of_isRegV3 hplay] at hreg
      simp at hreg
  | @rebinds i addr =>
    rw [relayLog_cons_of_none rfl]
    refine ⟨fun j c hc => h.own j c (call_rebound ▸ hc), h.sent, h.received,
      fun j c hc again dest hstage => ?_, h.reported⟩
    obtain ⟨b, hb, hslot, hgame, hkey⟩ := h.waiting j c (call_rebound ▸ hc) again dest hstage
    exact ⟨b, hb, hslot, by simp [hgame], hkey⟩

lemma accounted_of_run {log : List NetEntry} {t : Network} (h : (netLTS site).Run log t) :
    Accounted site (relayLog site log) t := by
  refine h.invariant_of_step (fun log t => Accounted site (relayLog site log) t) ?_
    fun _ _ hinv hs => hinv.step hs
  intro s hs
  refine ⟨fun i c hc => ?_, fun p hp => ?_, fun e he => ?_, fun i c hc => ?_, fun r hr => ?_⟩
  · simp [hs.call] at hc
  · simp [hs.sent] at hp
  · simp [relayLog] at he
  · simp [hs.call] at hc
  · simp [hs.reports] at hr

/-! ## Punching and registering do not mix -/

/-- The transports and the matches of probes and reports. -/
structure Phased (s : Network) : Prop where
  probeGame : ∀ b ∈ s.probes, b.game ≤ (s.players b.slot).game
  reportGame : ∀ r ∈ s.reports, r.game ≤ (s.players r.slot).game
  /-- A player that has registered for its match does not punch any more. -/
  pastPunch : ∀ b ∈ s.probes, b.game = (s.players b.slot).game →
    ∀ c ∈ (s.players b.slot).call, c.stage.pastPunch = true
  /-- A call that goes on has not succeeded. -/
  pending : ∀ i, ∀ c ∈ (s.players i).call, (∀ ok effective, c.stage ≠ .done ok effective) →
    ∀ r ∈ s.reports, r.slot = i → r.game < (s.players i).game
  /-- A player that has registered for a match does not come to P2P in it. -/
  noP2p : ∀ b ∈ s.probes, ∀ r ∈ s.reports, r.slot = b.slot → r.game = b.game →
    r.effective ≠ GgpoTransportMode.p2p.code
  /-- With P2P configured, a call comes to P2P or to the relay. -/
  effective : ∀ r ∈ s.reports, r.requested = GgpoTransportMode.p2p.code →
    r.effective = GgpoTransportMode.p2p.code ∨ r.effective = GgpoTransportMode.udpRelay.code

lemma mem_probeOf {i : Slot} {p : Player} {c : Call} {out : List Sent} {b : Probe}
    (h : b ∈ probeOf i p c out) :
    b.slot = i ∧ b.game = p.game ∧ c.stage.pastPunch = true := by
  unfold probeOf at h
  split at h
  · rename_i hstage _
    rw [List.mem_singleton] at h
    subst h
    exact ⟨rfl, rfl, by rw [hstage]; rfl⟩
  · simp at h

/-- A step of one player's call keeps the phases. -/
lemma Phased.advanced {s : Network} {i : Slot} {ev : CallEvent} {c c' : Call} {out : List Sent}
    (h : Phased s) (hcall : c ∈ (s.players i).call)
    (hpending : ∀ ok effective, c.stage ≠ .done ok effective) (hm : c.Moves site.inet ev out c') :
    Phased (s.advanced i c out c') := by
  -- a probe of this match, old or new, means that the call does not punch
  have hpast : ∀ b ∈ (s.advanced i c out c').probes, b.slot = i → b.game = (s.players i).game →
      c.stage.pastPunch = true := by
    rintro b hb rfl hgame
    rcases List.mem_append.1 hb with hb | hb
    · exact h.pastPunch b hb hgame c hcall
    · exact (mem_probeOf hb).2.2
  refine ⟨fun b hb => ?_, fun r hr => ?_, fun b hb hgame c₂ hc₂ => ?_,
    fun j c₂ hc₂ hpending₂ r hr hslot => ?_, fun b hb r hr hslot hgame => ?_,
    fun r hr hrequested => ?_⟩
  · rw [game_advanced]
    rcases List.mem_append.1 hb with hb | hb
    · exact h.probeGame b hb
    · obtain ⟨hslot, hgame, -⟩ := mem_probeOf hb
      rw [hgame, hslot]
  · rw [game_advanced]
    rcases report_advanced hr with hr | ⟨hslot, hgame, -, -⟩
    · exact h.reportGame r hr
    · rw [hgame, hslot]
  · rw [game_advanced] at hgame
    rcases call_advanced hc₂ with ⟨hslot, rfl⟩ | ⟨hne, hc₂⟩
    · exact hm.pastPunch (hpast b hb hslot (hslot ▸ hgame))
    · rcases List.mem_append.1 hb with hb | hb
      · exact h.pastPunch b hb hgame c₂ hc₂
      · exact absurd (mem_probeOf hb).1 hne
  · rw [game_advanced]
    rcases call_advanced hc₂ with ⟨rfl, rfl⟩ | ⟨hne, hc₂⟩
    · rcases report_advanced hr with hr | ⟨-, -, -, hdone⟩
      · exact h.pending j c hcall hpending r hr hslot
      · exact absurd hdone (hpending₂ _ _)
    · rcases report_advanced hr with hr | ⟨hslot', -, -, -⟩
      · exact h.pending j c₂ hc₂ hpending₂ r hr hslot
      · exact absurd (hslot.symm.trans hslot') hne
  · rcases report_advanced hr with hr | ⟨hrslot, hrgame, -, hdone⟩
    · rcases List.mem_append.1 hb with hb | hb
      · exact h.noP2p b hb r hr hslot hgame
      · -- the call registers, so that it has not succeeded before
        obtain ⟨hslot', hgame', -⟩ := mem_probeOf hb
        have hlt := h.pending i c hcall hpending r hr (hslot.trans hslot')
        have hsame : b.game = (s.players i).game := hgame'
        omega
    · intro hp2p
      rcases hm.succeeds hpending hdone with ⟨_, _, hstage, -⟩ | ⟨_, _, _, -, -, -, hudp, -⟩
      · have hc := hpast b hb (hslot.symm.trans hrslot) (hgame.symm.trans hrgame)
        rw [hstage] at hc
        simp [Stage.pastPunch] at hc
      · exact absurd (hudp.symm.trans hp2p) (by decide)
  · rcases report_advanced hr with hr | ⟨-, -, -, hdone⟩
    · exact h.effective r hr hrequested
    · rcases hm.succeeds hpending hdone with
        ⟨_, _, -, -, hp2p⟩ | ⟨_, _, _, -, -, -, hudp, -⟩
      · exact .inl hp2p
      · exact .inr hudp

lemma Phased.prepared {s : Network} {i : Slot} {game : ℕ} {env : TransportEnv}
    {client : NetplayClient} {cfg : NetplayConfig} (h : Phased s)
    (hgame : (s.players i).game < game) : Phased (s.prepared i game env client cfg) := by
  have hnew : ((s.prepared i game env client cfg).players i).game = game := by
    simp [Network.prepared]
  have hle (j : Slot) :
      (s.players j).game ≤ ((s.prepared i game env client cfg).players j).game := by
    rcases eq_or_ne j i with rfl | hne
    · rw [hnew]
      omega
    · rw [game_prepared_of_ne hne]
  refine ⟨fun b hb => (h.probeGame b hb).trans (hle _), fun r hr => ?_,
    fun b hb hgame' c hc => ?_, fun j c hc hpending r hr hslot => ?_,
    fun b hb r hr hslot hgame' => ?_, fun r hr hrequested => ?_⟩
  · rcases report_prepared hr with hr | ⟨hslot, hgame', -, -⟩
    · exact (h.reportGame r hr).trans (hle _)
    · rw [hslot, hnew, hgame']
  · rcases call_prepared hc with ⟨hslot, -⟩ | ⟨hne, hc⟩
    · -- the match is a new one
      have hold := h.probeGame b hb
      rw [hslot] at hgame' hold
      rw [hnew] at hgame'
      omega
    · rw [game_prepared_of_ne hne] at hgame'
      exact h.pastPunch b hb hgame' c hc
  · rcases call_prepared hc with ⟨rfl, rfl⟩ | ⟨hne, hc⟩
    · rcases List.mem_append.1 hr with hr | hr
      · have hold := h.reportGame r hr
        rw [hslot] at hold
        rw [hnew]
        omega
      · exact absurd (eq_of_mem_reportOf hr).1 (hpending _ _)
    · rw [game_prepared_of_ne hne]
      rcases report_prepared hr with hr | ⟨hslot', -, -, -⟩
      · exact h.pending j c hc hpending r hr hslot
      · exact absurd (hslot.symm.trans hslot') hne
  · rcases report_prepared hr with hr | ⟨-, -, -, hlegacy⟩
    · exact h.noP2p b hb r hr hslot hgame'
    · rw [hlegacy]
      decide
  · rcases report_prepared hr with hr | ⟨-, -, hlegacy, -⟩
    · exact h.effective r hr hrequested
    · -- the tunnel was forced, not P2P
      exact absurd (hlegacy.symm.trans hrequested) (by decide)

lemma Phased.step {e : NetEntry} (h : Phased e.pre) (hstep : (netLTS site).Steps e) :
    Phased e.post := by
  have hm := netMoves_of_steps hstep
  obtain ⟨s, a, ⟨⟩, t⟩ := e
  dsimp only at h hm ⊢
  cases hm with
  | prepares hidle hgame hown => exact h.prepared hgame
  | advances hcall hpending hm hev hown => exact h.advanced hcall hpending hm
  | delivers hp hcall hpending hm => exact h.advanced hcall hpending hm
  | relays | plays =>
    exact ⟨h.probeGame, h.reportGame, h.pastPunch, h.pending, h.noP2p, h.effective⟩
  | rebinds =>
    refine ⟨fun b hb => ?_, fun r hr => ?_, fun b hb hgame c hc => ?_,
      fun j c hc hpending r hr hslot => ?_, h.noP2p, h.effective⟩
    · rw [game_rebound]
      exact h.probeGame b hb
    · rw [game_rebound]
      exact h.reportGame r hr
    · rw [game_rebound] at hgame
      exact h.pastPunch b hb hgame c (call_rebound ▸ hc)
    · rw [game_rebound]
      exact h.pending j c (call_rebound ▸ hc) hpending r hr hslot

lemma phased_of_run {log : List NetEntry} {t : Network} (h : (netLTS site).Run log t) :
    Phased t := by
  refine h.invariant_of_step (fun _ => Phased) ?_ fun _ _ hinv hs => hinv.step hs
  intro s hs
  refine ⟨fun b hb => ?_, fun r hr => ?_, fun b hb => ?_, fun i c hc => ?_, fun b hb => ?_,
    fun r hr => ?_⟩
  · simp [hs.probes] at hb
  · simp [hs.reports] at hr
  · simp [hs.probes] at hb
  · simp [hs.call] at hc
  · simp [hs.probes] at hb
  · simp [hs.reports] at hr

/-! ## Agreement -/

/-- Both players have come to P2P, or both to the relay. -/
def SameTransport (r r' : Report) : Prop :=
  (r.effective = GgpoTransportMode.p2p.code ∧ r'.effective = GgpoTransportMode.p2p.code) ∨
    (r.effective = GgpoTransportMode.udpRelay.code ∧ r'.effective = GgpoTransportMode.udpRelay.code)

/-- The players of a match for which both are prepared, with P2P configured, have come to the
same transport. -/
def Network.Agrees (s : Network) : Prop :=
  ∀ r ∈ s.reports, ∀ r' ∈ s.reports, r.slot = 0 → r'.slot = 1 → r.game = r'.game →
    r.requested = GgpoTransportMode.p2p.code → r'.requested = GgpoTransportMode.p2p.code →
    SameTransport r r'

/-- No two matches have been registered under one key. -/
def Network.KeysFresh (s : Network) : Prop :=
  ∀ a ∈ s.probes, ∀ b ∈ s.probes, sameGeneration a.key b.key = true → a.game = b.game

/-- A player at the relay does not leave the other one with P2P. -/
lemma not_p2p_of_udpRelay {log : List NetEntry} {t : Network} (h : (netLTS site).Run log t)
    (hok : ∀ e ∈ log, AnswersOwn e) (hfresh : t.KeysFresh) {r r' : Report} (hr : r ∈ t.reports)
    (hr' : r' ∈ t.reports) (hgame : r.game = r'.game)
    (hudp : r.effective = GgpoTransportMode.udpRelay.code) :
    r'.effective ≠ GgpoTransportMode.p2p.code := by
  obtain ⟨key, hkey, hboth⟩ := (truthful_of_run h hok).reported r hr hudp
  have haccounted := accounted_of_run h
  obtain ⟨b, hb, -, hb', hbkey⟩ := haccounted.reported r hr hudp
  obtain rfl := Option.some.inj (hbkey.symm.trans hkey)
  -- the relay has a registration of the other player under this key
  obtain ⟨addr, e, he, hreg, -⟩ := hboth r'.slot
  obtain ⟨b', hb'mem, hslot, hsame⟩ := haccounted.received e he _ _ hreg
  have hvalid := valid_of_registration hreg
  have hgame' : b'.game = b.game := hfresh b' hb'mem b hb ((sameGeneration_iff hvalid).2 hsame)
  exact (phased_of_run h).noP2p b' hb'mem r' hr' hslot.symm (by omega)

/-- **Both players use the same transport** in every run in which no stale answer is taken and
no key is used for two matches. -/
theorem sameTransport_of_answersOwn {log : List NetEntry} {t : Network}
    (h : (netLTS site).Run log t) (hok : ∀ e ∈ log, AnswersOwn e) (hfresh : t.KeysFresh) :
    t.Agrees := by
  intro r hr r' hr' _ _ hgame hrequested hrequested'
  have hphased := phased_of_run h
  rcases hphased.effective r hr hrequested with hp2p | hudp
  · rcases hphased.effective r' hr' hrequested' with hp2p' | hudp'
    · exact .inl ⟨hp2p, hp2p'⟩
    · exact absurd hp2p (not_p2p_of_udpRelay h hok hfresh hr' hr hgame.symm hudp')
  · rcases hphased.effective r' hr' hrequested' with hp2p' | hudp'
    · exact absurd hp2p' (not_p2p_of_udpRelay h hok hfresh hr hr' hgame hudp)
    · exact .inr ⟨hudp, hudp'⟩

/-! ## Two matches with P2P -/

instance (s : Network) : Decidable s.KeysFresh :=
  inferInstanceAs (Decidable (∀ a ∈ s.probes, ∀ b ∈ s.probes,
    sameGeneration a.key b.key = true → a.game = b.game))

/-- A player prepares a match with P2P, up to the first punch. -/
def punching (i : Slot) (game : ℕ) (num₀ num₁ : ℤ) : List NetAction :=
  .prepare i game .unset (readyClient i num₀ num₁) (exampleCfg .p2p) ::
    (List.replicate 4 (CallEvent.proceed [])).map (NetAction.event i)

/-- No punch comes through to a player, in either attempt, and it sends its registration. -/
def fallingBack (i : Slot) : List NetAction :=
  ([CallEvent.failure, .deadline, .proceed [], .deadline] ++ relayProbed ++
    [CallEvent.proceed []]).map (NetAction.event i)

/-- A match in which all punches are lost. -/
def fallbackMatch : List NetAction :=
  punching 0 1 3 2 ++ fallingBack 0 ++ punching 1 1 3 2 ++ fallingBack 1 ++
    [.relay 1, .relay 3, .deliver 1 5, .event 0 .failure, .event 0 (.proceed []), .relay 6,
      .deliver 0 7]

/-- The player has got to the match with P2P configured. -/
def Network.HasCome (s : Network) (i : Slot) (game : ℕ) (effective : GgpoTransportMode) : Prop :=
  ∃ r ∈ s.reports, r.slot = i ∧ r.game = game ∧
    r.requested = GgpoTransportMode.p2p.code ∧ r.effective = effective.code

instance (s : Network) (i : Slot) (game : ℕ) (effective : GgpoTransportMode) :
    Decidable (s.HasCome i game effective) :=
  inferInstanceAs (Decidable (∃ r ∈ s.reports, r.slot = i ∧ r.game = game ∧
    r.requested = GgpoTransportMode.p2p.code ∧ r.effective = effective.code))

/-- When all punches are lost, both players come to the relay. -/
theorem sameTransport_fallback :
    ∃ log t, (netLTS .example).Run log t ∧ t.HasCome 0 1 .udpRelay ∧ t.HasCome 1 1 .udpRelay ∧
      t.Agrees := by
  obtain ⟨log, t, hrun, ⟨hcome₀, hcome₁⟩, hok, hfresh⟩ :=
    exists_netRun_of_exec fallbackMatch
      (p := fun log t => (t.HasCome 0 1 .udpRelay ∧ t.HasCome 1 1 .udpRelay) ∧
        (∀ e ∈ log, AnswersOwn e) ∧ t.KeysFresh)
      (by decide +kernel)
  exact ⟨log, t, hrun, hcome₀, hcome₁, sameTransport_of_answersOwn hrun hok hfresh⟩

/-- **A stale answer splits the players**: in the second match the punch of the second player
comes through to the first one, but not the other way round.  The second player falls back to
the relay, and takes its `SF4R` of the first match for the confirmation. -/
theorem not_sameTransport_stale :
    ¬ ∀ (site : Site) (log : List NetEntry) (t : Network), (netLTS site).Run log t → t.Agrees := by
  intro h
  obtain ⟨log, t, hrun, hcome₀, hcome₁⟩ :=
    exists_netRun_of_exec
      (fallbackMatch ++ punching 0 2 5 4 ++ punching 1 2 5 4 ++ [.relay 9, .deliver 0 10] ++
        fallingBack 1 ++ [.deliver 1 5])
      (p := fun _ t => t.HasCome 0 2 .p2p ∧ t.HasCome 1 2 .udpRelay)
      (by decide +kernel)
  obtain ⟨r, hr, hslot, hgame, hrequested, heffective⟩ := hcome₀
  obtain ⟨r', hr', hslot', hgame', hrequested', heffective'⟩ := hcome₁
  rcases h _ log t hrun r hr r' hr' hslot hslot' (hgame.trans hgame'.symm) hrequested hrequested'
    with ⟨-, hp2p⟩ | ⟨hudp, -⟩
  · exact absurd (heffective'.symm.trans hp2p) (by decide)
  · exact absurd (heffective.symm.trans hudp) (by decide)

end Transport
end Sf4e
