/-
# Who has which port?

A `Lobby` is the registry together with the creations that are under way, each suspended at an
await.  Creations begin and go on in any order, with any answer of the relay manager or none,
and rooms end in between.

The session ports of the rooms and of the creations under way stay distinct
(`Registry.Holds`), and the reserved ports are those of the creations.  A creation finds no port
only when every one is taken.
-/
import Sf4e.Broker.Creation
import Sf4e.Trace.LTS

namespace Sf4e
namespace Broker

open Wire Trace

/-! ## Runs -/

/-- The registry and the creations under way. -/
structure Lobby (config : CapacityConfig) where
  registry : Registry
  creations : List (Creation config)

/-- What happens to a lobby. -/
inductive LobbyAction
  /-- A call of `createRoomRecord`. -/
  | create (args : CreateArgs) (draws : Draws)
  /-- A request of a creation is answered, or rejected. -/
  | resume (i : ℕ) (reply : Option HttpReply) (draws : Draws)
  /-- A room is deleted, or it is pruned after its time. -/
  | endRoom (code : Text)

variable (s : Settings)

/-- The session port that a call still holds after a turn. -/
def Turn.held {config : CapacityConfig} (turn : Turn config) : List ℕ :=
  match turn.progress with
  | .awaits c => [c.ports.sessionPort]
  | .done _ => []

namespace Lobby

/-- The lobby after a turn of a call, beside the other calls, and what the call has come to. -/
def settle {config : CapacityConfig} (others : List (Creation config)) (turn : Turn config) :
    Option Created × Lobby config :=
  match turn.progress with
  | .awaits c => (none, ⟨turn.registry, c :: others⟩)
  | .done result => (some result, ⟨turn.registry, others⟩)

/-- One step. -/
def next (t : Lobby s.capacity) : LobbyAction → Option (Option Created × Lobby s.capacity)
  | .create args draws => (t.registry.createRoomRecord s args draws).map (settle t.creations)
  | .resume i reply draws =>
    t.creations[i]?.bind fun c =>
      (t.registry.resume s c reply draws).map (settle (t.creations.eraseIdx i))
  | .endRoom code => some (none, { t with registry := t.registry.delete code })

/-- The session ports of the creations under way. -/
def heldPorts {config : CapacityConfig} (t : Lobby config) : List ℕ :=
  t.creations.map fun c => c.ports.sessionPort

end Lobby

/-- The runs of a broker's lobby, from the start of the broker. -/
def lobbyLTS : LTS (Lobby s.capacity) LobbyAction (Option Created) :=
  .ofFun (fun t => t = ⟨⟨[], []⟩, []⟩) (Lobby.next s)

/-! ## The property -/

/-- The ports are in order. -/
structure Lobby.InOrder (t : Lobby s.capacity) : Prop where
  /-- No two rooms or creations have the same session port. -/
  distinct : (t.registry.roomPorts ++ t.heldPorts).Nodup
  /-- Session ports are in the range configured for them. -/
  session_mem : ∀ p ∈ t.registry.roomPorts ++ t.heldPorts, p ∈ s.capacity.sessionPorts
  /-- A GGPO port is the image of the session port. -/
  ggpo : ∀ room ∈ t.registry.rooms, room.ggpoPort = 0 ∨
    room.ggpoPort = ggpoPortForSessionPort s.capacity room.port ∧
      room.ggpoPort ∈ s.capacity.ggpoPorts
  /-- No other room uses it, and no room uses it as its session port. -/
  unshared : t.registry.rooms.Pairwise fun room room' =>
    (room.ggpoPort = room'.ggpoPort → room.ggpoPort = 0) ∧
      room.ggpoPort ≠ room'.port ∧ room.port ≠ room'.ggpoPort
  /-- There are not too many rooms. -/
  length_le : t.registry.rooms.length ≤ s.capacity.maxRooms
  /-- The reserved ports are those of the creations under way. -/
  reserved : ∀ p, p ∈ t.registry.reservedPorts ↔ p ∈ t.heldPorts

/-- A creation that finds no port has met with a room or a reservation on every one. -/
def RefusedFull (e : Entry (Lobby s.capacity) LobbyAction (Option Created)) : Prop :=
  e.out = some .full →
    ∀ p ∈ s.capacity.sessionPorts,
      p ∈ e.pre.registry.roomPorts ∨ p ∈ e.pre.registry.reservedPorts

/-! ## What a registry holds -/

/-- **Invariant.** The registry, while the calls under way hold the given session ports. -/
structure Registry.Holds (reg : Registry) (held : List ℕ) : Prop where
  distinct : (reg.roomPorts ++ held).Nodup
  session_mem : ∀ p ∈ reg.roomPorts ++ held, p ∈ s.capacity.sessionPorts
  reserved : ∀ p, p ∈ reg.reservedPorts ↔ p ∈ held
  ggpo : ∀ room ∈ reg.rooms, room.ggpoPort = 0 ∨
    room.ggpoPort = ggpoPortForSessionPort s.capacity room.port

variable {s}

namespace Registry

variable {reg : Registry} {held : List ℕ} {c : Creation s.capacity} {draws : Draws}
  {turn : Turn s.capacity}

/-- The order in which the calls are listed does not matter. -/
lemma Holds.perm {held' : List ℕ} (h : reg.Holds s held) (hperm : held.Perm held') :
    reg.Holds s held' where
  distinct := (hperm.append_left reg.roomPorts).nodup_iff.1 h.distinct
  session_mem p hp := h.session_mem p ((hperm.append_left reg.roomPorts).mem_iff.2 hp)
  reserved p := (h.reserved p).trans hperm.mem_iff
  ggpo := h.ggpo

/-- Rooms may go. -/
lemma Holds.delete (h : reg.Holds s held) (code : Text) : (reg.delete code).Holds s held := by
  have hsub : ((reg.delete code).roomPorts ++ held).Sublist (reg.roomPorts ++ held) :=
    (List.filter_sublist.map _).append_right held
  refine ⟨hsub.nodup h.distinct, fun p hp => h.session_mem p (hsub.mem hp), h.reserved, ?_⟩
  intro room hroom
  exact h.ggpo room (List.mem_of_mem_filter hroom)

/-- A call gets a port that nobody has. -/
lemma Holds.reserve (h : reg.Holds s held) {ports : PortPair s.capacity} {reserved : List ℕ}
    (halloc : allocatePortPair s.capacity reg.roomPorts reg.reservedPorts =
      some (ports, reserved)) :
    Holds s { reg with reservedPorts := reserved } (ports.sessionPort :: held) := by
  obtain ⟨hroom, hres, rfl⟩ := allocatePortPair_some halloc
  have hheld : ports.sessionPort ∉ held := fun hmem => hres ((h.reserved _).2 hmem)
  refine ⟨?_, ?_, ?_, h.ggpo⟩
  · show (reg.roomPorts ++ ports.sessionPort :: held).Nodup
    rw [List.nodup_middle, List.nodup_cons]
    exact ⟨by simp [hroom, hheld], h.distinct⟩
  · intro p hp
    rcases List.mem_append.1 hp with hp | hp
    · exact h.session_mem p (List.mem_append_left _ hp)
    · rcases List.mem_cons.1 hp with rfl | hp
      · exact ports.session_mem
      · exact h.session_mem p (List.mem_append_right _ hp)
  · intro p
    rw [List.mem_append, List.mem_singleton, List.mem_cons, h.reserved]
    exact or_comm

/-- A call that ends without a room gives its port back. -/
lemma Holds.release {port : ℕ} (h : reg.Holds s (port :: held)) :
    (reg.release port).Holds s held := by
  have hsub : (reg.roomPorts ++ held).Sublist (reg.roomPorts ++ port :: held) :=
    (List.sublist_cons_self port held).append_left _
  refine ⟨hsub.nodup h.distinct, fun p hp => h.session_mem p (hsub.mem hp), ?_, h.ggpo⟩
  intro p
  have hport : port ∉ held := by
    have hnodup := h.distinct
    rw [List.nodup_middle, List.nodup_cons] at hnodup
    exact fun hmem => hnodup.1 (List.mem_append_right _ hmem)
  simp only [Registry.release, releasePortReservation, List.mem_filter, h.reserved,
    List.mem_cons, decide_eq_true_eq]
  constructor
  · rintro ⟨hp | hp, hne⟩
    · exact absurd hp hne
    · exact hp
  · intro hp
    exact ⟨.inr hp, fun heq => hport (heq ▸ hp)⟩

/-- A call that commits its room gives its port to the room. -/
lemma Holds.commit {ggpoRelayOk : Bool} (h : reg.Holds s (c.ports.sessionPort :: held))
    (hturn : reg.commit s c draws ggpoRelayOk = some turn) :
    turn.registry.Holds s (turn.held ++ held) := by
  obtain ⟨-, rfl⟩ := commit_eq_some hturn
  have hrel := h.release
  have hports : (reg.roomPorts ++ [c.ports.sessionPort]) ++ held =
      reg.roomPorts ++ c.ports.sessionPort :: held := by simp
  refine ⟨?_, ?_, hrel.reserved, ?_⟩
  · simpa [roomPorts, Registry.release, Creation.room, Turn.held, ← hports] using h.distinct
  · intro p hp
    refine h.session_mem p ?_
    simpa [roomPorts, Registry.release, Creation.room, Turn.held, ← hports] using hp
  · intro room hroom
    rcases List.mem_append.1 hroom with hroom | hroom
    · exact h.ggpo room hroom
    · obtain rfl := List.mem_singleton.1 hroom
      simp only [Creation.room]
      split
      · exact .inr c.ports.ggpo_eq
      · exact .inl rfl

/-- **Step lemma.** A call up to its first await. -/
lemma Holds.createRoomRecord {args : CreateArgs} (h : reg.Holds s held)
    (hturn : reg.createRoomRecord s args draws = some turn) :
    turn.registry.Holds s (turn.held ++ held) := by
  cases begun hturn with
  | full => exact h
  | @refused ports reserved message halloc =>
    have hholds : Holds s { reg with reservedPorts := reserved } (ports.sessionPort :: held) :=
      h.reserve halloc
    exact hholds.release
  | await halloc => exact h.reserve halloc
  | @commit ports reserved turn halloc hforce hcommit =>
    exact Holds.commit (c := args.creation draws ports) (h.reserve halloc) hcommit

/-- **Step lemma.** A call from an await on. -/
lemma Holds.resume {reply : Option HttpReply} (h : reg.Holds s (c.ports.sessionPort :: held))
    (hturn : reg.resume s c reply draws = some turn) :
    turn.registry.Holds s (turn.held ++ held) := by
  cases resumed hturn with
  | await => exact h
  | commit hok hsession hcommit => exact h.commit hcommit
  | failed | thrown => exact h.release

/-! ## Counting -/

lemma Holds.card (h : reg.Holds s held) : reg.roomPorts.toFinset.card = reg.rooms.length := by
  have hnodup : reg.roomPorts.Nodup := (List.nodup_append.1 h.distinct).1
  rw [List.toFinset_card_of_nodup hnodup, roomPorts, List.length_map]

lemma Holds.subset (h : reg.Holds s held) : reg.roomPorts.toFinset ⊆ s.capacity.sessionPorts := by
  intro p hp
  exact h.session_mem p (List.mem_append_left _ (List.mem_toFinset.1 hp))

lemma Holds.length_le (h : reg.Holds s held) : reg.rooms.length ≤ s.capacity.maxRooms := by
  rw [← h.card, ← CapacityConfig.card_sessionPorts]
  exact Finset.card_le_card h.subset

/-- As many rooms as there can be take every session port. -/
lemma Holds.mem_of_full (h : reg.Holds s held) (hfull : s.capacity.maxRooms ≤ reg.rooms.length)
    {p : ℕ} (hp : p ∈ s.capacity.sessionPorts) : p ∈ reg.roomPorts := by
  have hall : reg.roomPorts.toFinset = s.capacity.sessionPorts := by
    refine Finset.eq_of_subset_of_card_le h.subset ?_
    rwa [h.card, CapacityConfig.card_sessionPorts]
  rw [← List.mem_toFinset, hall]
  exact hp

/-- No call ends for want of a port once it has one. -/
lemma progress_resume_ne_full {reply : Option HttpReply}
    (h : reg.resume s c reply draws = some turn) : turn.progress ≠ .done .full := by
  cases resumed h with
  | await => simp [Registry.await]
  | commit hok hsession hcommit =>
    obtain ⟨-, rfl⟩ := commit_eq_some hcommit
    simp
  | failed hstage hfailed hresult =>
    obtain ⟨message, rfl⟩ | rfl := hresult <;> simp [Registry.abandon]
  | thrown => simp [Registry.abandon]

/-- A call that finds no port has met with a room or a reservation on every one. -/
lemma Holds.taken_of_full {args : CreateArgs} (h : reg.Holds s held)
    (hturn : reg.createRoomRecord s args draws = some turn)
    (hfull : turn.progress = .done .full) {p : ℕ} (hp : p ∈ s.capacity.sessionPorts) :
    p ∈ reg.roomPorts ∨ p ∈ reg.reservedPorts := by
  cases begun hturn with
  | full hcases =>
    rcases hcases with hmax | hnone
    · exact .inl (h.mem_of_full hmax hp)
    · exact allocatePortPair_none hnone hp
  | refused => simp [Registry.abandon] at hfull
  | await => simp [Registry.await] at hfull
  | commit halloc hforce hcommit =>
    obtain ⟨-, rfl⟩ := commit_eq_some hcommit
    simp at hfull

end Registry

/-! ## The lobby -/

namespace Lobby

/-- **Invariant.** The registry holds what the creations under way have reserved. -/
def Kept (t : Lobby s.capacity) : Prop := t.registry.Holds s t.heldPorts

lemma settle_registry {config : CapacityConfig} (others : List (Creation config))
    (turn : Turn config) : (settle others turn).2.registry = turn.registry := by
  unfold settle
  split <;> rfl

lemma settle_heldPorts {config : CapacityConfig} (others : List (Creation config))
    (turn : Turn config) : (settle others turn).2.heldPorts =
      turn.held ++ others.map fun c => c.ports.sessionPort := by
  unfold settle Turn.held
  split
  · simp [heldPorts]
  · simp [heldPorts]

lemma progress_of_settle_full {config : CapacityConfig} {others : List (Creation config)}
    {turn : Turn config} (h : (settle others turn).1 = some .full) :
    turn.progress = .done .full := by
  unfold settle at h
  split at h
  · exact absurd h (by simp)
  · rename_i result hprogress
    rw [hprogress, Option.some.inj h]

/-- A creation in front of the others. -/
lemma heldPorts_perm {config : CapacityConfig} {t : Lobby config} {i : ℕ} {c : Creation config}
    (hc : t.creations[i]? = some c) : t.heldPorts.Perm
      (c.ports.sessionPort :: (t.creations.eraseIdx i).map fun c => c.ports.sessionPort) := by
  obtain ⟨hi, rfl⟩ := List.getElem?_eq_some_iff.1 hc
  exact ((List.getElem_cons_eraseIdx_perm hi).map fun c => c.ports.sessionPort).symm

/-- **Step lemma.** No step takes a port away or gives one out twice. -/
lemma Kept.step {t t' : Lobby s.capacity} {a : LobbyAction} {out : Option Created}
    (h : t.Kept) (hnext : t.next s a = some (out, t')) : t'.Kept := by
  cases a with
  | create args draws =>
    obtain ⟨turn, hturn, hsettle⟩ := Option.map_eq_some_iff.1 hnext
    have hholds := Registry.Holds.createRoomRecord h hturn
    obtain rfl : t' = (settle t.creations turn).2 := by rw [hsettle]
    rw [Kept, settle_registry, settle_heldPorts]
    exact hholds
  | resume i reply draws =>
    obtain ⟨c, hc, hmap⟩ := Option.bind_eq_some_iff.1 hnext
    obtain ⟨turn, hturn, hsettle⟩ := Option.map_eq_some_iff.1 hmap
    have hholds := (Registry.Holds.perm h (heldPorts_perm hc)).resume hturn
    obtain rfl : t' = (settle (t.creations.eraseIdx i) turn).2 := by rw [hsettle]
    rw [Kept, settle_registry, settle_heldPorts]
    exact hholds
  | endRoom code =>
    obtain ⟨-, rfl⟩ := Prod.mk.inj (Option.some.inj hnext)
    exact Registry.Holds.delete h code

lemma Kept.refusedFull {t t' : Lobby s.capacity} {a : LobbyAction} {out : Option Created}
    (h : t.Kept) (hnext : t.next s a = some (out, t')) : RefusedFull s ⟨t, a, out, t'⟩ := by
  rintro (rfl : out = some .full) p hp
  cases a with
  | create args draws =>
    obtain ⟨turn, hturn, hsettle⟩ := Option.map_eq_some_iff.1 hnext
    have hout : (settle t.creations turn).1 = some .full := by rw [hsettle]
    exact Registry.Holds.taken_of_full h hturn (progress_of_settle_full hout) hp
  | resume i reply draws =>
    obtain ⟨c, -, hmap⟩ := Option.bind_eq_some_iff.1 hnext
    obtain ⟨turn, hturn, hsettle⟩ := Option.map_eq_some_iff.1 hmap
    have hout : (settle (t.creations.eraseIdx i) turn).1 = some .full := by rw [hsettle]
    exact absurd (progress_of_settle_full hout) (Registry.progress_resume_ne_full hturn)
  | endRoom code =>
    obtain ⟨hout, -⟩ := Prod.mk.inj (Option.some.inj hnext)
    exact absurd hout (by simp)

/-- The GGPO ports of two rooms with different session ports. -/
lemma ggpo_unshared {config : CapacityConfig} {room room' : RoomRecord}
    (hmem : room.port ∈ config.sessionPorts) (hmem' : room'.port ∈ config.sessionPorts)
    (h : room.ggpoPort = 0 ∨ room.ggpoPort = ggpoPortForSessionPort config room.port)
    (h' : room'.ggpoPort = 0 ∨ room'.ggpoPort = ggpoPortForSessionPort config room'.port)
    (hne : room.port ≠ room'.port) :
    (room.ggpoPort = room'.ggpoPort → room.ggpoPort = 0) ∧ room.ggpoPort ≠ room'.port := by
  constructor
  · intro heq
    by_contra hzero
    have h₁ := h.resolve_left hzero
    have h₂ := h'.resolve_left (heq ▸ hzero)
    exact hne (ggpoPortForSessionPort_inj hmem hmem' (by rw [← h₁, ← h₂, heq]))
  · intro heq
    rcases h with h | h
    · have hpos := CapacityConfig.pos_of_mem_sessionPorts hmem'
      omega
    · have hg := ggpoPortForSessionPort_mem hmem
      rw [← h, heq] at hg
      exact CapacityConfig.notMem_sessionPorts_of_mem_ggpoPorts hg hmem'

lemma Kept.inOrder {t : Lobby s.capacity} (h : t.Kept) : t.InOrder s where
  distinct := h.distinct
  session_mem := h.session_mem
  ggpo room hroom := by
    refine (h.ggpo room hroom).imp_right fun heq => ⟨heq, ?_⟩
    rw [heq]
    exact ggpoPortForSessionPort_mem
      (h.session_mem _ (List.mem_append_left _ (List.mem_map_of_mem hroom)))
  unshared := by
    have hports : t.registry.rooms.Pairwise fun room room' => room.port ≠ room'.port :=
      List.pairwise_map.1 (List.nodup_append.1 h.distinct).1
    have hmem {room : RoomRecord} (hroom : room ∈ t.registry.rooms) :
        room.port ∈ s.capacity.sessionPorts :=
      h.session_mem _ (List.mem_append_left _ (List.mem_map_of_mem hroom))
    refine hports.imp_of_mem fun {room room'} hroom hroom' hne => ?_
    obtain ⟨hsame, hport⟩ := ggpo_unshared (hmem hroom) (hmem hroom') (h.ggpo _ hroom)
      (h.ggpo _ hroom') hne
    obtain ⟨-, hport'⟩ := ggpo_unshared (hmem hroom') (hmem hroom) (h.ggpo _ hroom')
      (h.ggpo _ hroom) hne.symm
    exact ⟨hsame, hport, hport'.symm⟩
  length_le := h.length_le
  reserved := h.reserved

lemma kept_of_run {log : List (Entry (Lobby s.capacity) LobbyAction (Option Created))}
    {t : Lobby s.capacity} (h : (lobbyLTS s).Run log t) : t.Kept := by
  refine h.invariant_of_step (fun _ t => t.Kept) ?_ fun _ e hkept hstep => hkept.step hstep
  rintro _ rfl
  exact ⟨by simp [Registry.roomPorts, heldPorts], by simp [Registry.roomPorts, heldPorts],
    by simp [heldPorts], by simp⟩

end Lobby

/-- **Port allocation.** At the end of every run of a lobby the ports are in order, and along the
run nobody is refused for want of a port while one is free. -/
theorem ports_inOrder {log : List (Entry (Lobby s.capacity) LobbyAction (Option Created))}
    {t : Lobby s.capacity} (h : (lobbyLTS s).Run log t) :
    t.InOrder s ∧ ∀ e ∈ log, RefusedFull s e := by
  refine ⟨(Lobby.kept_of_run h).inOrder, fun e he => ?_⟩
  obtain ⟨newer, older, rfl⟩ := List.append_of_mem he
  obtain ⟨hrun, hstep, -⟩ := h.at_entry
  exact (Lobby.kept_of_run hrun).refusedFull hstep

/-- A list of actions that a new lobby can carry out, and whose log passes a test. -/
lemma exists_lobbyRun_of_exec (acts : List LobbyAction)
    {p : List (Entry (Lobby s.capacity) LobbyAction (Option Created)) → Lobby s.capacity → Prop}
    [∀ log t, Decidable (p log t)]
    (h : (LTS.exec (Lobby.next s) ⟨⟨[], []⟩, []⟩ [] acts).any
      (fun r => decide (p r.1 r.2)) = true) :
    ∃ log t, (lobbyLTS s).Run log t ∧ p log t := by
  obtain ⟨log, t, hpath, hp⟩ := LTS.exists_path_of_exec acts h
  exact ⟨log, t, ⟨_, rfl, hpath⟩, hp⟩

/-- A broker for two rooms, with relays on the VPS. -/
def Settings.twoRooms : Settings where
  forceVpsRelay := true
  relayHost := utf8 "relay"
  brokerGgpoTransport := "auto"
  natProbePort := 8790
  relayHost_ne := by decide +kernel
  capacity := {
    maxRooms := 2
    relayPortBase := 23456
    ggpoUdpPortBase := 24456
    roomCapacityWarningPercent := 80
    maxRooms_pos := by decide
    relayPortBase_pos := by decide
    ggpoUdpPortBase_pos := by decide
    percent_range := by decide
    relayPort_le := by decide
    ggpoUdpPort_le := by decide
    disjoint := by decide }
  roomOccupiedIdleMs := some 0
  roomLobbyIdleMs := some 300000

/-- An id of 32 equal digits. -/
def HexId.ofDigit (d : Fin 10) : HexId :=
  ⟨.replicate 32 (48 + UInt8.ofNat d), by revert d; decide⟩

/-- What a call draws, by a digit. -/
def Draws.ofDigit (d : Fin 10) : Draws where
  matchId := .ofDigit d
  roomToken := .ofDigit d
  token := .replicate 16 (48 + UInt8.ofNat d)
  hostSecret := .replicate 64 (48 + UInt8.ofNat d)
  now := 0

/-- What a launcher asks for. -/
def CreateArgs.ofHash (d : Fin 10) : CreateArgs :=
  ⟨none, [], .replicate 64 (48 + UInt8.ofNat d)⟩

/-- `201 { ok: true }`. -/
def HttpReply.created201 : HttpReply := ⟨201, .obj [("ok", .bool true)]⟩

/-- Two creations at a time: the first one gets its room, the second one loses its request and its
port, and a third one gets the port. -/
theorem ports_inOrder_two_creations :
    ∃ log t, (lobbyLTS .twoRooms).Run log t ∧ t.registry.roomPorts = [23456] ∧
      t.registry.reservedPorts = [23457] ∧ t.InOrder .twoRooms ∧
      ∀ e ∈ log, RefusedFull .twoRooms e := by
  obtain ⟨log, t, hrun, hrooms, hreserved⟩ := exists_lobbyRun_of_exec (s := .twoRooms)
    [.create (.ofHash 1) (.ofDigit 1), .create (.ofHash 1) (.ofDigit 2),
      .resume 1 (some .created201) (.ofDigit 1), .resume 0 (some .created201) (.ofDigit 1),
      .resume 0 none (.ofDigit 2), .create (.ofHash 1) (.ofDigit 3),
      .create (.ofHash 1) (.ofDigit 4)]
    (p := fun _ t => t.registry.roomPorts = [23456] ∧ t.registry.reservedPorts = [23457])
    (by decide +kernel)
  exact ⟨log, t, hrun, hrooms, hreserved, ports_inOrder hrun⟩

end Broker
end Sf4e
