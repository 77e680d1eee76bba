/-
# Two players, a relay and the datagrams between them

The players go through the matches of a room, each in one call of `PrepareForBattle` after the
other, always from the same port.  A datagram that was sent may be delivered late, several
times, out of order or never.  `NetMoves` lists what one step can do.

The relay of this system runs as a relay does (`relayRun_of_run`), so that its invariants hold:
an `SF4R` that answers a registration says that both slots have been registered under its key
(`bothRegistered_of_answer`).
-/
import Sf4e.Relay.Generation
import Sf4e.Transport.Prepare

namespace Sf4e
namespace Transport

open Wire Relay SessionProtocol Trace

/-! ## The network -/

/-- What does not change: the address functions of the players, and the relay's endpoint and
token. -/
structure Site where
  inet : Inet
  relayAddr : SockAddr
  token : List UInt8

/-- A datagram that was sent. -/
structure Packet where
  src : SockAddr
  dst : SockAddr
  payload : Text
  /-- The key of the registration that the relay answers with it, for reference. -/
  answers : Option GenerationKey
deriving DecidableEq

/-- A datagram as its receiver gets it. -/
def Packet.datagram (p : Packet) : Datagram := ⟨p.src, p.payload⟩

/-- A player. -/
structure Player where
  /-- The endpoint that its GGPO port has on the network. -/
  addr : SockAddr
  /-- The number of the match that it prepares, or has prepared last. -/
  game : ℕ
  /-- The transport that was configured for the match. -/
  requested : UInt8
  call : Option Call

/-- A registration that a player has sent. -/
structure Probe where
  slot : Slot
  game : ℕ
  key : GenerationKey
deriving DecidableEq

/-- A call of `PrepareForBattle` that has succeeded. -/
structure Report where
  slot : Slot
  game : ℕ
  /-- The transport that was configured. -/
  requested : UInt8
  /-- The transport that the call has come to. -/
  effective : UInt8
  /-- The key that the player has registered under, if the call has come to the relay. -/
  key : Option GenerationKey
deriving DecidableEq

/-- The state of the network. -/
structure Network where
  relay : RelayState
  players : Slot → Player
  sent : List Packet
  /-- The registrations that were sent, for reference. -/
  probes : List Probe
  /-- The calls that have succeeded, for reference. -/
  reports : List Report

/-- What happens in the network. -/
inductive NetAction
  /-- A player enters `PrepareForBattle` for its next match. -/
  | prepare (i : Slot) (game : ℕ) (env : TransportEnv) (client : NetplayClient)
      (cfg : NetplayConfig)
  /-- Something happens to the call of a player, apart from a datagram on its GGPO port. -/
  | event (i : Slot) (ev : CallEvent)
  /-- A datagram is delivered to a player who waits for one on the GGPO port. -/
  | deliver (i : Slot) (n : ℕ)
  /-- A datagram is delivered to the relay. -/
  | relay (n : ℕ)
  /-- A player who is not in a call plays: GGPO sends something. -/
  | play (i : Slot) (dst : SockAddr) (payload : Text)
  /-- A player gets another endpoint on the network. -/
  | rebind (i : Slot) (addr : SockAddr)
deriving DecidableEq

/-- The key under which a call registers. -/
def Call.key (c : Call) : Option GenerationKey :=
  c.registration.map fun r => ⟨Call.readyMessageNum r, true⟩

/-- A call has returned, or there is none. -/
def Player.idle (p : Player) : Bool :=
  match p.call with
  | none => true
  | some c => match c.stage with
    | .done _ _ => true
    | _ => false

/-- A client that is to register takes the slot of its player. -/
def ownSlot (i : Slot) (client : NetplayClient) : Bool :=
  client.prepareForBattle.all fun r => r.playerSlot == i

/-- The report of a call, if it has just succeeded. -/
def reportOf (i : Slot) (p : Player) (c : Call) : List Report :=
  match c.stage with
  | .done true effective => [⟨i, p.game, p.requested, effective, c.key⟩]
  | _ => []

/-- The registration among the datagrams that a call sends. -/
def probeOf (i : Slot) (p : Player) (c : Call) (out : List Sent) : List Probe :=
  match c.stage, out, c.key with
  | .register _ _ _, _ :: _, some key => [⟨i, p.game, key⟩]
  | _, _, _ => []

namespace Network

/-- A player enters `PrepareForBattle`. -/
def prepared (s : Network) (i : Slot) (game : ℕ) (env : TransportEnv) (client : NetplayClient)
    (cfg : NetplayConfig) : Network :=
  let c := Call.start env (some client) cfg
  let p : Player := ⟨(s.players i).addr, game, parseTransportEnv env cfg.ggpoTransport, some c⟩
  { s with
    players := Function.update s.players i p
    reports := s.reports ++ reportOf i p c }

/-- The call `c` of a player becomes `c'` and sends. -/
def advanced (s : Network) (i : Slot) (c : Call) (out : List Sent) (c' : Call) : Network :=
  let p : Player := { s.players i with call := some c' }
  { s with
    players := Function.update s.players i p
    sent := s.sent ++ out.map fun o => ⟨p.addr, o.dest, o.payload, none⟩
    probes := s.probes ++ probeOf i p c out
    reports := s.reports ++ reportOf i p c' }

/-- Something happens to the call of a player. -/
def advance (inet : Inet) (s : Network) (i : Slot) (ev : CallEvent) : Option (Unit × Network) := do
  let c ← (s.players i).call
  let (out, c') ← c.next inet ev
  return ((), s.advanced i c out c')

/-- The relay receives a datagram. -/
def relayed (site : Site) (s : Network) (p : Packet) : Network :=
  { s with
    relay := (s.relay.receive site.token p.datagram).1
    sent := s.sent ++ (s.relay.receive site.token p.datagram).2.map fun o =>
      ⟨site.relayAddr, o.dest, o.payload, (registration? site.token p.datagram).map Prod.fst⟩ }

/-- A player plays. -/
def played (s : Network) (i : Slot) (dst : SockAddr) (payload : Text) : Network :=
  { s with sent := s.sent ++ [⟨(s.players i).addr, dst, payload, none⟩] }

/-- A player gets another endpoint. -/
def rebound (s : Network) (i : Slot) (addr : SockAddr) : Network :=
  { s with players := Function.update s.players i { s.players i with addr := addr } }

/-- One step. -/
def next (site : Site) (s : Network) : NetAction → Option (Unit × Network)
  | .prepare i game env client cfg =>
    if (s.players i).idle ∧ (s.players i).game < game ∧ ownSlot i client then
      some ((), s.prepared i game env client cfg)
    else none
  -- a datagram comes from the network
  | .event _ (.received _) => none
  | .event i (.stepped client) =>
    if ownSlot i client then s.advance site.inet i (.stepped client) else none
  | .event i ev => s.advance site.inet i ev
  | .deliver i n => do
    let p ← s.sent[n]?
    if p.dst = (s.players i).addr then s.advance site.inet i (.received p.datagram) else none
  | .relay n => do
    let p ← s.sent[n]?
    if p.dst = site.relayAddr then some ((), s.relayed site p) else none
  -- what GGPO sends is no registration
  | .play i dst payload =>
    if (s.players i).idle ∧ isRegV3 (⟨(s.players i).addr, payload⟩ : Datagram).buf = false then
      some ((), s.played i dst payload)
    else none
  | .rebind i addr => some ((), s.rebound i addr)

/-- A network in which nothing has happened. -/
structure New (s : Network) : Prop where
  relay : s.relay = {}
  sent : s.sent = []
  probes : s.probes = []
  reports : s.reports = []
  call : ∀ i, (s.players i).call = none

end Network

/-- The network as a transition system. -/
def netLTS (site : Site) : LTS Network NetAction Unit :=
  .ofFun Network.New (Network.next site)

/-- An entry of the network's log. -/
abbrev NetEntry := Entry Network NetAction Unit

/-! ## What a step can do -/

variable {site : Site}

/-- What a step can do. -/
inductive NetMoves (site : Site) (s : Network) : NetAction → Network → Prop
  /-- A player enters `PrepareForBattle`. -/
  | prepares {i : Slot} {game : ℕ} {env : TransportEnv} {client : NetplayClient}
      {cfg : NetplayConfig} (hidle : (s.players i).idle = true)
      (hgame : (s.players i).game < game) (hown : ownSlot i client = true) :
      NetMoves site s (.prepare i game env client cfg) (s.prepared i game env client cfg)
  /-- The call of a player goes on, but not by a datagram on the GGPO port. -/
  | advances {i : Slot} {ev : CallEvent} {c c' : Call} {out : List Sent}
      (hcall : (s.players i).call = some c)
      (hpending : ∀ ok effective, c.stage ≠ .done ok effective)
      (hm : c.Moves site.inet ev out c') (hev : ∀ d, ev ≠ .received d)
      (hown : ∀ client, ev = .stepped client → ownSlot i client = true) :
      NetMoves site s (.event i ev) (s.advanced i c out c')
  /-- A player gets a datagram. -/
  | delivers {i : Slot} {n : ℕ} {p : Packet} {c c' : Call} {out : List Sent}
      (hp : s.sent[n]? = some p) (hcall : (s.players i).call = some c)
      (hpending : ∀ ok effective, c.stage ≠ .done ok effective)
      (hm : c.Moves site.inet (.received p.datagram) out c') :
      NetMoves site s (.deliver i n) (s.advanced i c out c')
  /-- The relay gets a datagram. -/
  | relays {n : ℕ} {p : Packet} (hp : s.sent[n]? = some p) :
      NetMoves site s (.relay n) (s.relayed site p)
  /-- A player plays. -/
  | plays {i : Slot} {dst : SockAddr} {payload : Text}
      (hreg : isRegV3 (⟨(s.players i).addr, payload⟩ : Datagram).buf = false) :
      NetMoves site s (.play i dst payload) (s.played i dst payload)
  /-- A player gets another endpoint. -/
  | rebinds {i : Slot} {addr : SockAddr} : NetMoves site s (.rebind i addr) (s.rebound i addr)

lemma exists_of_advance {inet : Inet} {s t : Network} {i : Slot} {ev : CallEvent}
    (h : s.advance inet i ev = some ((), t)) :
    ∃ c out c', (s.players i).call = some c ∧ (∀ ok effective, c.stage ≠ .done ok effective) ∧
      c.Moves inet ev out c' ∧ t = s.advanced i c out c' := by
  simp only [Network.advance, Option.bind_eq_bind, Option.bind_eq_some_iff, Option.pure_def,
    Option.some.injEq, Prod.mk.injEq, true_and] at h
  obtain ⟨c, hcall, ⟨out, c'⟩, hnext, rfl⟩ := h
  exact ⟨c, out, c', hcall, Call.pending_of_next hnext, Call.moves_of_next hnext, rfl⟩

/-- **A step does one of these things.** -/
lemma netMoves_of_steps {e : NetEntry} (h : (netLTS site).Steps e) :
    NetMoves site e.pre e.act e.post := by
  obtain ⟨s, a, ⟨⟩, t⟩ := e
  have hnext : s.next site a = some ((), t) := h
  cases a with
  | prepare i game env client cfg =>
    simp only [Network.next] at hnext
    split at hnext
    · rename_i hok
      obtain rfl := (Prod.mk.inj (Option.some.inj hnext)).2
      exact .prepares hok.1 hok.2.1 hok.2.2
    · simp at hnext
  | event i ev =>
    cases ev with
    | received d => simp [Network.next] at hnext
    | stepped client =>
      simp only [Network.next] at hnext
      split at hnext
      · rename_i hown
        obtain ⟨c, out, c', hcall, hpending, hm, rfl⟩ := exists_of_advance hnext
        refine .advances hcall hpending hm (by simp) ?_
        rintro client' hclient
        rwa [← CallEvent.stepped.inj hclient]
      · simp at hnext
    | proceed addresses | failure | deadline | probed d =>
      obtain ⟨c, out, c', hcall, hpending, hm, rfl⟩ := exists_of_advance hnext
      exact .advances hcall hpending hm (by simp) (by simp)
  | deliver i n =>
    simp only [Network.next, Option.bind_eq_bind, Option.bind_eq_some_iff] at hnext
    obtain ⟨p, hp, hnext⟩ := hnext
    split at hnext
    · obtain ⟨c, out, c', hcall, hpending, hm, rfl⟩ := exists_of_advance hnext
      exact .delivers hp hcall hpending hm
    · simp at hnext
  | relay n =>
    simp only [Network.next, Option.bind_eq_bind, Option.bind_eq_some_iff] at hnext
    obtain ⟨p, hp, hnext⟩ := hnext
    split at hnext
    · obtain rfl := (Prod.mk.inj (Option.some.inj hnext)).2
      exact .relays hp
    · simp at hnext
  | play i dst payload =>
    simp only [Network.next] at hnext
    split at hnext
    · rename_i hok
      obtain rfl := (Prod.mk.inj (Option.some.inj hnext)).2
      exact .plays hok.2
    · simp at hnext
  | rebind i addr =>
    obtain rfl := (Prod.mk.inj (Option.some.inj hnext)).2
    exact .rebinds

/-! ## The relay's part of a run -/

/-- What the entry is to the relay. -/
def relayEntryOf (site : Site) (e : NetEntry) : Option RelayEntry :=
  match e.act with
  | .relay n => (e.pre.sent[n]?).map fun p =>
    ⟨e.pre.relay, p.datagram, (e.pre.relay.receive site.token p.datagram).2, e.post.relay⟩
  | _ => none

/-- The relay's log. -/
def relayLog (site : Site) (log : List NetEntry) : List RelayEntry :=
  log.filterMap (relayEntryOf site)

lemma mem_relayLog_cons {e : NetEntry} {log : List NetEntry} {e' : RelayEntry}
    (h : e' ∈ relayLog site log) : e' ∈ relayLog site (e :: log) := by
  unfold relayLog at h ⊢
  rw [List.filterMap_cons]
  split
  · exact h
  · exact List.mem_cons_of_mem _ h

lemma relayLog_cons_of_none {e : NetEntry} {log : List NetEntry} (h : relayEntryOf site e = none) :
    relayLog site (e :: log) = relayLog site log := by
  rw [relayLog, List.filterMap_cons, h]
  rfl

lemma relayLog_cons_relay {s t : Network} {n : ℕ} {p : Packet} {log : List NetEntry}
    (hp : s.sent[n]? = some p) :
    relayLog site (⟨s, .relay n, (), t⟩ :: log) =
      ⟨s.relay, p.datagram, (s.relay.receive site.token p.datagram).2, t.relay⟩ ::
        relayLog site log := by
  simp [relayLog, relayEntryOf, hp]

/-- **The relay of the network runs as a relay does.** -/
lemma relayRun_of_run {log : List NetEntry} {t : Network} (h : (netLTS site).Run log t) :
    (relayLTS site.token).Run (relayLog site log) t.relay := by
  refine h.invariant_of_step
    (fun log t => (relayLTS site.token).Run (relayLog site log) t.relay) ?_ ?_
  · intro s hs
    exact ⟨{}, rfl, by rw [hs.relay]; exact .refl⟩
  · intro log e hrun hstep
    have hm := netMoves_of_steps hstep
    obtain ⟨s, a, ⟨⟩, t⟩ := e
    dsimp only at hrun hm ⊢
    cases hm with
    | relays hp =>
      obtain ⟨s₀, hs₀, hpath⟩ := hrun
      rw [relayLog_cons_relay hp]
      exact ⟨s₀, hs₀, .snoc hpath rfl⟩
    | prepares | advances | delivers | plays | rebinds =>
      rw [relayLog_cons_of_none rfl]
      exact hrun

/-- The relay has received a registration of either slot under the key. -/
def BothRegistered (site : Site) (log : List NetEntry) (key : GenerationKey) : Prop :=
  ∀ j, ∃ addr, RegisteredAs site.token (relayLog site log) key j addr

lemma BothRegistered.mono {log : List NetEntry} {key : GenerationKey}
    (h : BothRegistered site log key) (e : NetEntry) : BothRegistered site (e :: log) key := by
  intro j
  obtain ⟨addr, e', he', hreg⟩ := h j
  exact ⟨addr, e', mem_relayLog_cons he', hreg⟩

lemma Slot.eq_peer_of_ne : ∀ {i j : Slot}, j ≠ i → j = i.peer := by decide

/-- **What an `SF4R` says**: when the relay answers a registration with it, both slots have been
registered under the key of that registration. -/
lemma registered_of_answer {token : List UInt8} {older : List RelayEntry} {e : RelayEntry}
    {key : GenerationKey} {o : Sent} (hinv : RelayInv token (e :: older) e.post)
    (hstep : (relayLTS token).Steps e) (ho : o ∈ e.out)
    (hkey : (registration? token e.act).map Prod.fst = some key)
    (hpayload : o.payload.take 4 = kRespRegistered) :
    ∀ j, ∃ addr, RegisteredAs token (e :: older) key j addr := by
  obtain ⟨⟨key', i⟩, hreg, rfl⟩ := Option.map_eq_some_iff.1 hkey
  obtain ⟨resp, hout, hregisters⟩ := registers_of_steps hstep hreg
  have hresp : resp = kRespRegistered ∨ resp = kRespWaiting := by
    simpa using hregisters.response
  have hanswers : AnswersRegistered token e key' i := by
    refine ⟨hreg, ?_⟩
    rw [hout, List.mem_singleton] at ho
    rcases hresp with rfl | rfl
    · rw [hout]
      exact List.mem_cons_self
    · rw [ho] at hpayload
      exact absurd (show kRespWaiting.take 4 = kRespRegistered from hpayload) (by decide)
  have hvouched := vouched_of_answers hinv hstep hanswers
  intro j
  rcases eq_or_ne j i with rfl | hne
  · exact ⟨e.act.from_, e, List.mem_cons_self, hreg, rfl⟩
  · rw [Slot.eq_peer_of_ne hne]
    exact ⟨_, hvouched.other.2⟩

/-! ## Registration is sound -/

/-- The packet answers a registration under the key that a call registers. -/
def Packet.answersKey (p : Packet) (c : Call) : Bool :=
  match p.answers, c.key with
  | some key, some key' => sameGeneration key key'
  | _, _ => false

/-- A player who registers and takes a datagram for the relay's `SF4R` has got the answer to a
registration under the key that it is registering. -/
def answersOwn (s : Network) : NetAction → Bool
  | .deliver i n =>
    match s.sent[n]?, (s.players i).call with
    | some p, some c =>
      match c.stage with
      | .register _ dest true =>
        !answersProbe dest kRespRegistered p.datagram || p.answersKey c
      | _ => true
    | _, _ => true
  | _ => true

/-- No stale answer is taken in this step. -/
def AnswersOwn (e : NetEntry) : Prop := answersOwn e.pre e.act = true

instance (e : NetEntry) : Decidable (AnswersOwn e) :=
  inferInstanceAs (Decidable (answersOwn e.pre e.act = true))

/-- What the answers of the relay and the reports of the players say. -/
structure Truthful (site : Site) (log : List NetEntry) (s : Network) : Prop where
  /-- An `SF4R` on its way says the truth about the key it answers. -/
  answered : ∀ p ∈ s.sent, ∀ key ∈ p.answers, p.payload.take 4 = kRespRegistered →
    BothRegistered site log key
  /-- A player in the loop of its registration has something to register. -/
  registers : ∀ i, ∀ c ∈ (s.players i).call, c.Registers
  /-- A player who has come to the relay has been told the truth. -/
  reported : ∀ r ∈ s.reports, r.effective = GgpoTransportMode.udpRelay.code →
    ∃ key ∈ r.key, BothRegistered site log key

lemma mem_advanced {s : Network} {i : Slot} {c c' : Call} {out : List Sent} {p : Packet}
    (h : p ∈ (s.advanced i c out c').sent) : p ∈ s.sent ∨ p.answers = none := by
  rcases List.mem_append.1 h with h | h
  · exact .inl h
  · obtain ⟨o, -, rfl⟩ := List.mem_map.1 h
    exact .inr rfl

/-- The call of a player after a step of one player's call. -/
lemma call_advanced {s : Network} {i j : Slot} {c c' c₂ : Call} {out : List Sent}
    (h : c₂ ∈ ((s.advanced i c out c').players j).call) :
    (j = i ∧ c₂ = c') ∨ j ≠ i ∧ c₂ ∈ (s.players j).call := by
  rcases eq_or_ne j i with rfl | hne
  · refine .inl ⟨rfl, ?_⟩
    simpa [Network.advanced, eq_comm] using h
  · refine .inr ⟨hne, ?_⟩
    simpa [Network.advanced, Function.update_of_ne hne] using h

lemma call_prepared {s : Network} {i j : Slot} {game : ℕ} {env : TransportEnv}
    {client : NetplayClient} {cfg : NetplayConfig} {c : Call}
    (h : c ∈ ((s.prepared i game env client cfg).players j).call) :
    (j = i ∧ c = .start env (some client) cfg) ∨ j ≠ i ∧ c ∈ (s.players j).call := by
  rcases eq_or_ne j i with rfl | hne
  · refine .inl ⟨rfl, ?_⟩
    simpa [Network.prepared, eq_comm] using h
  · refine .inr ⟨hne, ?_⟩
    simpa [Network.prepared, Function.update_of_ne hne] using h

lemma call_rebound {s : Network} {i j : Slot} {addr : SockAddr} :
    ((s.rebound i addr).players j).call = (s.players j).call := by
  rcases eq_or_ne j i with rfl | hne
  · simp [Network.rebound]
  · simp [Network.rebound, Function.update_of_ne hne]

lemma eq_of_mem_reportOf {i : Slot} {p : Player} {c : Call} {r : Report}
    (h : r ∈ reportOf i p c) :
    c.stage = .done true r.effective ∧ r = ⟨i, p.game, p.requested, r.effective, c.key⟩ := by
  unfold reportOf at h
  split at h
  · rename_i effective hstage
    rw [List.mem_singleton] at h
    subst h
    exact ⟨hstage, rfl⟩
  · simp at h

/-- A report after a step of one player's call. -/
lemma report_advanced {s : Network} {i : Slot} {c c' : Call} {out : List Sent} {r : Report}
    (h : r ∈ (s.advanced i c out c').reports) :
    r ∈ s.reports ∨ r.slot = i ∧ r.game = (s.players i).game ∧ r.key = c'.key ∧
      c'.stage = .done true r.effective := by
  rcases List.mem_append.1 h with h | h
  · exact .inl h
  · obtain ⟨hdone, heq⟩ := eq_of_mem_reportOf h
    refine .inr ⟨?_, ?_, ?_, hdone⟩
    all_goals rw [heq]

/-- A report after a player has entered `PrepareForBattle`: nothing but the forced tunnel
succeeds at once. -/
lemma report_prepared {s : Network} {i : Slot} {game : ℕ} {env : TransportEnv}
    {client : NetplayClient} {cfg : NetplayConfig} {r : Report}
    (h : r ∈ (s.prepared i game env client cfg).reports) :
    r ∈ s.reports ∨ r.slot = i ∧ r.game = game ∧
      r.requested = GgpoTransportMode.legacySessionTunnel.code ∧
        r.effective = GgpoTransportMode.legacySessionTunnel.code := by
  rcases List.mem_append.1 h with h | h
  · exact .inl h
  · obtain ⟨hdone, heq⟩ := eq_of_mem_reportOf h
    obtain ⟨henv, hlegacy⟩ := Call.start_succeeds Inet.dotted hdone
    refine .inr ⟨?_, ?_, ?_, hlegacy⟩
    all_goals rw [heq]
    rw [henv]
    rfl

lemma answers_of_answersKey {p : Packet} {c : Call} (h : p.answersKey c = true)
    {key : GenerationKey} (hkey : c.key = some key) (hvalid : key.valid = true) :
    p.answers = some key := by
  unfold Packet.answersKey at h
  split at h
  · rename_i key₁ key₂ hanswers hkey₂
    obtain rfl := Option.some.inj (hkey.symm.trans hkey₂)
    rw [hanswers, (sameGeneration_iff hvalid).1 h]
  · simp at h

lemma answers_of_answersProbe {dest : SockAddr} {p : Packet}
    (h : answersProbe dest kRespRegistered p.datagram = true) :
    p.payload.take 4 = kRespRegistered := by
  simp only [answersProbe, Bool.and_eq_true, Option.any_eq_true] at h
  obtain ⟨-, response, hresponse, hmagic⟩ := h
  unfold recvfrom at hresponse
  split at hresponse
  · obtain rfl := Option.some.inj hresponse
    exact beq_iff_eq.1 hmagic
  · simp at hresponse

lemma Truthful.mono {log : List NetEntry} {s : Network} (h : Truthful site log s) (e : NetEntry) :
    Truthful site (e :: log) s := by
  refine ⟨fun p hp key hkey hpayload => (h.answered p hp key hkey hpayload).mono e, h.registers,
    fun r hr heffective => ?_⟩
  obtain ⟨key, hkey, hboth⟩ := h.reported r hr heffective
  exact ⟨key, hkey, hboth.mono e⟩

lemma Truthful.prepared {log : List NetEntry} {s : Network} {i : Slot} {game : ℕ}
    {env : TransportEnv} {client : NetplayClient} {cfg : NetplayConfig}
    (h : Truthful site log s) : Truthful site log (s.prepared i game env client cfg) := by
  refine ⟨h.answered, fun j c hc => ?_, fun r hr heffective => ?_⟩
  · rcases call_prepared hc with ⟨-, rfl⟩ | ⟨-, hc⟩
    · exact Call.registers_start site.inet _ _ _
    · exact h.registers j c hc
  · rcases report_prepared hr with hr | ⟨-, -, -, hlegacy⟩
    · exact h.reported r hr heffective
    · exact absurd (hlegacy.symm.trans heffective) (by decide)

/-- A step of one player's call keeps what is said true, if what the call reports is true. -/
lemma Truthful.advanced {log : List NetEntry} {s : Network} {i : Slot} {ev : CallEvent}
    {c c' : Call} {out : List Sent} (h : Truthful site log s) (hcall : c ∈ (s.players i).call)
    (hm : c.Moves site.inet ev out c')
    (hreport : c'.stage = .done true GgpoTransportMode.udpRelay.code →
      ∃ key ∈ c'.key, BothRegistered site log key) :
    Truthful site log (s.advanced i c out c') := by
  refine ⟨fun p hp key hkey hpayload => ?_, fun j c hc => ?_, fun r hr heffective => ?_⟩
  · rcases mem_advanced hp with hp | hnone
    · exact h.answered p hp key hkey hpayload
    · simp [hnone] at hkey
  · rcases call_advanced hc with ⟨rfl, rfl⟩ | ⟨-, hc⟩
    · exact (h.registers _ _ hcall).moves hm
    · exact h.registers j c hc
  · rcases report_advanced hr with hr | ⟨-, -, hrkey, hdone⟩
    · exact h.reported r hr heffective
    · rw [heffective] at hdone
      obtain ⟨key, hkey, hboth⟩ := hreport hdone
      exact ⟨key, by rwa [hrkey], hboth⟩

/-- A datagram that completes a registration, and is no stale answer, says the truth. -/
lemma Truthful.delivered {log : List NetEntry} {s : Network} {i : Slot} {n : ℕ} {p : Packet}
    {c c' : Call} {out : List Sent} (h : Truthful site log s) (hp : s.sent[n]? = some p)
    (hcall : (s.players i).call = some c) (hpending : ∀ ok effective, c.stage ≠ .done ok effective)
    (hm : c.Moves site.inet (.received p.datagram) out c')
    (hok : answersOwn s (.deliver i n) = true)
    (hdone : c'.stage = .done true GgpoTransportMode.udpRelay.code) :
    ∃ key ∈ c'.key, BothRegistered site log key := by
  -- the call comes to the relay by taking the datagram for an answer, not by a punch
  rcases hm.succeeds hpending hdone with
    ⟨_, _, -, -, hp2p⟩ | ⟨again, dest, d, hregister, hd, hprobe, -, hregistration⟩
  · exact absurd hp2p (by decide)
  · obtain rfl := CallEvent.received.inj hd
    -- the answer is one to the key that is being registered
    simp only [answersOwn, hp, hcall, hregister, hprobe, Bool.not_true, Bool.false_or] at hok
    obtain ⟨r, hr⟩ := h.registers _ _ hcall _ _ _ hregister
    have hkey : c.key = some ⟨Call.readyMessageNum r, true⟩ := by
      simp [Call.key, (Call.registration_of_registering hr).1]
    have hkey' : c'.key = some ⟨Call.readyMessageNum r, true⟩ := by
      rw [← hkey]
      simp [Call.key, hregistration]
    have hanswers := answers_of_answersKey hok hkey rfl
    exact ⟨_, hkey', h.answered p (List.mem_of_getElem? hp) _ hanswers
      (answers_of_answersProbe hprobe)⟩

/-- A step that takes no stale answer keeps what is said true. -/
lemma Truthful.step {log : List NetEntry} {e : NetEntry} (h : Truthful site log e.pre)
    (hrun : (netLTS site).Run log e.pre) (hstep : (netLTS site).Steps e) (hok : AnswersOwn e) :
    Truthful site (e :: log) e.post := by
  have hm := netMoves_of_steps hstep
  have hrelay := relayRun_of_run hrun
  have hlater := h.mono e
  obtain ⟨s, a, ⟨⟩, t⟩ := e
  dsimp only at hm hrelay hlater ⊢
  cases hm with
  | prepares hidle hgame hown => exact hlater.prepared
  | advances hcall hpending hm hev hown =>
    refine hlater.advanced hcall hm fun hdone => ?_
    -- a call succeeds by a datagram on the GGPO port only
    rcases hm.succeeds hpending hdone with ⟨_, d, -, hd, -⟩ | ⟨_, _, d, -, hd, -⟩
    · exact absurd hd (hev d)
    · exact absurd hd (hev d)
  | delivers hp hcall hpending hm =>
    exact hlater.advanced hcall hm (hlater.delivered hp hcall hpending hm hok)
  | @relays n p hp =>
    refine ⟨fun p' hp' key hkey hpayload => ?_, hlater.registers, hlater.reported⟩
    rcases List.mem_append.1 hp' with hp' | hp'
    · exact hlater.answered p' hp' key hkey hpayload
    · obtain ⟨o, ho, rfl⟩ := List.mem_map.1 hp'
      have hrelayStep : (relayLTS site.token).Steps ⟨s.relay, p.datagram,
          (s.relay.receive site.token p.datagram).2, (s.relayed site p).relay⟩ := rfl
      have hinv := (relayInv_of_run hrelay).step hrelayStep
      intro j
      rw [relayLog_cons_relay hp]
      exact registered_of_answer hinv hrelayStep ho hkey hpayload j
  | plays hreg =>
    refine ⟨fun p hp key hkey hpayload => ?_, hlater.registers, hlater.reported⟩
    rcases List.mem_append.1 hp with hp | hp
    · exact hlater.answered p hp key hkey hpayload
    · rw [List.mem_singleton] at hp
      subst hp
      simp at hkey
  | rebinds =>
    exact ⟨hlater.answered, fun j c hc => hlater.registers j c (call_rebound ▸ hc),
      hlater.reported⟩

lemma truthful_of_new {s : Network} (h : s.New) : Truthful site [] s := by
  refine ⟨fun p hp => ?_, fun i c hc => ?_, fun r hr => ?_⟩
  · simp [h.sent] at hp
  · simp [h.call] at hc
  · simp [h.reports] at hr

/-- In a run in which no stale answer is taken, what is said is true. -/
lemma truthful_of_run {log : List NetEntry} {t : Network} (h : (netLTS site).Run log t)
    (hok : ∀ e ∈ log, AnswersOwn e) : Truthful site log t := by
  refine (h.invariant (fun log t => (netLTS site).Run log t ∧ Truthful site log t) ?_ ?_ hok).2
  · intro s hs
    exact ⟨⟨s, hs, .refl⟩, truthful_of_new hs⟩
  · rintro log e ⟨hrun, htruthful⟩ hstep he
    exact ⟨hrun.snoc hstep, htruthful.step hrun hstep he⟩

/-- **A registration is sound** if no stale answer is taken: a player that has come to the relay
has registered under a key for which the relay has received a registration of either slot. -/
theorem bothRegistered_of_answersOwn {log : List NetEntry} {t : Network}
    (h : (netLTS site).Run log t) (hok : ∀ e ∈ log, AnswersOwn e) :
    ∀ r ∈ t.reports, r.effective = GgpoTransportMode.udpRelay.code →
      ∃ key ∈ r.key, BothRegistered site log key :=
  (truthful_of_run h hok).reported

/-! ## Two matches over the relay -/

/-- The relay of the example, for players who have its address. -/
def Site.example : Site := ⟨Inet.dotted, exampleRelay, roomToken⟩

/-- The configuration of a player, with the relay of the example or with P2P. -/
def exampleCfg (transport : GgpoTransportMode) : NetplayConfig :=
  ⟨.copy (ascii "198.51.100.1"), 23457, transport.code, 24456, .copy (ascii "198.51.100.1"),
    .copy [], .copy roomToken⟩

/-- Two players who have just entered the room. -/
def Network.start : Network where
  relay := {}
  players i := ⟨⟨i.val.toUInt32 + 1, 23457⟩, 0, 0, none⟩
  sent := []
  probes := []
  reports := []

/-- A list of actions in that room whose log passes a test. -/
lemma exists_netRun_of_exec (acts : List NetAction) {p : List NetEntry → Network → Prop}
    [∀ log t, Decidable (p log t)]
    (h : (LTS.exec (Network.next .example) .start [] acts).any (fun r => decide (p r.1 r.2)) =
      true) :
    ∃ log t, (netLTS .example).Run log t ∧ p log t := by
  obtain ⟨log, t, hpath, hp⟩ := LTS.exists_path_of_exec acts h
  exact ⟨log, t, ⟨.start, ⟨rfl, rfl, rfl, rfl, fun _ => rfl⟩, hpath⟩, hp⟩

/-- A player prepares a match with the relay, up to the first probe. -/
def probing (i : Slot) (game : ℕ) (num₀ num₁ : ℤ) : List NetAction :=
  [.prepare i game .unset (readyClient i num₀ num₁) (exampleCfg .udpRelay)] ++
    (relayProbed ++ [CallEvent.proceed []]).map (NetAction.event i)

/-- The first match: the first player registers and waits, the second registers, the first
registers once more, and both are told. -/
def firstMatch : List NetAction :=
  probing 0 1 3 2 ++ [.relay 0, .deliver 0 1] ++ probing 1 1 3 2 ++
    [.relay 2, .deliver 1 3, .event 0 (.proceed []), .relay 4, .deliver 0 5]

/-- In the first match a registration is sound. -/
theorem bothRegistered_first_match :
    ∃ log t, (netLTS .example).Run log t ∧ (∃ r ∈ t.reports, r.slot = 0) ∧
      ∀ r ∈ t.reports, r.effective = GgpoTransportMode.udpRelay.code →
        ∃ key ∈ r.key, BothRegistered .example log key := by
  obtain ⟨log, t, hrun, hreport, hok⟩ :=
    exists_netRun_of_exec firstMatch
      (p := fun log t => (∃ r ∈ t.reports, r.slot = 0) ∧ ∀ e ∈ log, AnswersOwn e)
      (by decide +kernel)
  exact ⟨log, t, hrun, hreport, bothRegistered_of_answersOwn hrun hok⟩

/-- **A stale answer is taken for the confirmation**: the `SF4R` of the first match is delivered
once more in the second, in which the second player has not even entered `PrepareForBattle`. -/
theorem not_bothRegistered_stale :
    ¬ ∀ (site : Site) (log : List NetEntry) (t : Network), (netLTS site).Run log t →
        ∀ r ∈ t.reports, r.effective = GgpoTransportMode.udpRelay.code →
          ∃ key ∈ r.key, BothRegistered site log key := by
  intro h
  obtain ⟨log, t, hrun, ⟨r, hr, hudp, key, hkey, hsame⟩, hnever⟩ :=
    exists_netRun_of_exec (firstMatch ++ probing 0 2 5 4 ++ [.deliver 0 5])
      (p := fun log t => (∃ r ∈ t.reports, r.effective = GgpoTransportMode.udpRelay.code ∧
          ∃ key ∈ r.key, sameGeneration key (exampleKey 5 4) = true) ∧
        ∀ e ∈ relayLog .example log,
          registration? Site.example.token e.act ≠ some (exampleKey 5 4, 1))
      (by decide +kernel)
  obtain ⟨key', hkey', hboth⟩ := h _ log t hrun r hr hudp
  obtain rfl := Option.some.inj (hkey.symm.trans hkey')
  rw [(sameGeneration_iff rfl).1 hsame] at hboth
  obtain ⟨addr, e, he, hreg, -⟩ := hboth 1
  exact hnever e he hreg

end Transport
end Sf4e
