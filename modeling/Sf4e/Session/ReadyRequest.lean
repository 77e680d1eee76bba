/-
# A client's ready request

A client that gets ready remembers the number of its message in
`_outstandingReadyRequestNumber` and offers no other ready until it has seen that number in
its own slot.  The server sends out what it holds at the end of a `Step`, so the number can be
gone before anybody has seen it: a reset or a result in the same `Step` clears it, and a
player who was moved out of its slot is not heard at all.  Nothing else clears the request,
and the client can never get ready again.

`neverSticks_of_keepsReady` shows that the request is settled as soon as the updates of the
`Step` have come in, in every run in which each ready of the client is handled while the client
plays and its `Step` then neither clears the ready state nor breaks off.
-/
import Sf4e.Session.Link

namespace Sf4e

open SessionProtocol SessionServer Trace

/-! ## The property -/

/-- The numbers of the ready messages among some messages. -/
def readys (ps : List (Document × ℕ)) : List ℕ :=
  ps.filterMap fun p => if p.1.type? = some .lobbyReady then some p.2 else none

/-- A `Step` of the server returns. -/
def ReturnsFromStep (e : LinkEntry) : Prop :=
  e.act = .server .endStep ∨ e.act = .server .nullMessage

/-- The player gets ready. -/
def GetsReady (e : LinkEntry) : Prop := ∃ choice, e.act = .ready choice

/-- The message that the client receives. -/
def delivery? (e : LinkEntry) : Option ServerMessage :=
  if e.act = .deliver then e.pre.down.head? else none

/-- The number of data updates sent to the client in the course of a log. -/
def updatesSent (conn : HSteamNetConnection) (log : List LinkEntry) : ℕ :=
  (updates (log.flatMap fun e => e.out.flatMap (Output.deliveries conn))).length

/-- The number of data updates the client has received in the course of a log. -/
def updatesDelivered (log : List LinkEntry) : ℕ :=
  (updates (log.flatMap fun e => (delivery? e).toList)).length

/-- **No ready request sticks**: when a `Step` of the server has returned with every ready of
the client handled, and the updates sent up to then have been delivered, and the player has not
got ready once more, then the client can get ready again. -/
def NeverSticks (conn : HSteamNetConnection) (log : List LinkEntry) (t : Link) : Prop :=
  ∀ newer e older, log = newer ++ e :: older → ReturnsFromStep e →
    readys e.post.up = [] → (∀ e' ∈ newer, ¬ GetsReady e') →
    updatesSent conn (e :: older) ≤ updatesDelivered log → t.client.CanReadyAgain

/-! ## The condition -/

/-- What the server does in an entry. -/
def serverAction? (conn : HSteamNetConnection) (e : LinkEntry) : Option Action :=
  match e.act with
  | .server a => some a
  | .handle peerAddr isLocalHost =>
    e.pre.up.head?.map fun p => .message (incoming conn peerAddr isLocalHost p)
  | .deliver | .ready _ | .send _ => none

/-- The server takes a ready of the client. -/
def HandlesReady (e : LinkEntry) : Prop :=
  (∃ p ∈ e.pre.up.head?, p.1.type? = some .lobbyReady) ∧ ∃ addr loc, e.act = .handle addr loc

/-- The server clears the ready state, or its `Step` breaks off. -/
def Interrupts (conn : HSteamNetConnection) (e : LinkEntry) : Prop :=
  ∃ a ∈ serverAction? conn e, e.pre.phase.clears a = true ∨ a = .nullMessage

/-- The running `Step` has handled a ready of the client. -/
def ReadyInStep : List LinkEntry → Prop :=
  Since (fun e => ¬ ReturnsFromStep e) HandlesReady

/-- Each ready of the client is handled while the client plays, and nothing clears the ready
state or breaks off the `Step` after it. -/
def KeepsReady (conn : HSteamNetConnection) : List LinkEntry → Prop
  | [] => True
  | e :: log =>
    KeepsReady conn log ∧ (HandlesReady e → (e.pre.phase.server.side conn).isSome) ∧
      (ReadyInStep log → ¬ Interrupts conn e)

instance : DecidablePred ReturnsFromStep := fun e =>
  inferInstanceAs (Decidable (e.act = .server .endStep ∨ e.act = .server .nullMessage))

instance : DecidablePred GetsReady := fun e =>
  match h : e.act with
  | .ready choice => isTrue ⟨choice, h⟩
  | .server _ | .handle _ _ | .deliver | .send _ =>
    isFalse fun ⟨_, hready⟩ => by rw [h] at hready; nomatch hready

instance : DecidablePred HandlesReady := fun e =>
  match h : e.act with
  | .handle addr loc =>
    decidable_of_iff (∃ p ∈ e.pre.up.head?, p.1.type? = some .lobbyReady)
      ⟨fun hready => ⟨hready, addr, loc, h⟩, And.left⟩
  | .server _ | .ready _ | .deliver | .send _ =>
    isFalse fun ⟨_, _, _, hhandle⟩ => by rw [h] at hhandle; nomatch hhandle

instance (conn : HSteamNetConnection) : DecidablePred (Interrupts conn) := fun e =>
  inferInstanceAs (Decidable (∃ a ∈ serverAction? conn e,
    e.pre.phase.clears a = true ∨ a = .nullMessage))

instance : DecidablePred ReadyInStep :=
  inferInstanceAs (DecidablePred (Since (fun e => ¬ ReturnsFromStep e) HandlesReady))

instance (conn : HSteamNetConnection) : DecidablePred (KeepsReady conn)
  | [] => isTrue trivial
  | e :: log =>
    have : Decidable (KeepsReady conn log) := instDecidablePredListLinkEntryKeepsReady conn log
    inferInstanceAs (Decidable (KeepsReady conn log ∧
      (HandlesReady e → (e.pre.phase.server.side conn).isSome) ∧
      (ReadyInStep log → ¬ Interrupts conn e)))

/-! ## What an update shows -/

/-- An update shows the number `n` in the slot of the member called `name`. -/
def Shows (name : String) (n : ℤ) (u : LobbyData × MatchData) : Prop :=
  ∃ i, firstSlot (fun m => m.name == name) u.1.members = some i ∧ u.2.readyMessageNum i = n

/-- The server holds the number `n` for the member called `name` on the connection. -/
def ServerHolds (conn : HSteamNetConnection) (name : String) (n : ℤ) (s : SessionServer) : Prop :=
  ∃ i, s.occupant i = some (conn, name) ∧ s.matchData.readyMessageNum i = n

lemma firstSlot_received (p : MemberData → Bool) (hp : ∀ m, p m.received = p m)
    (members : List MemberData) :
    firstSlot p (members.map MemberData.received) = firstSlot p members := by
  have hany (k : ℕ) : ((members.map MemberData.received)[k]?).any p = (members[k]?).any p := by
    rw [List.getElem?_map, Option.any_map]
    exact congrArg (fun q => (members[k]?).any q) (funext hp)
  unfold firstSlot
  rw [hany, hany]

/-- A name that nobody else has finds the slot of its member. -/
lemma firstSlot_of_occupant {s : SessionServer} (hnodup : s.names.Nodup) {i : Side}
    {conn : HSteamNetConnection} {name : String} (h : s.occupant i = some (conn, name)) :
    firstSlot (fun m => m.name == name) (StepState.sentLobbyData s).members = some i := by
  obtain ⟨c, hc, hwho⟩ := Option.map_eq_some_iff.1 h
  have hname : c.data.name = name := congrArg Prod.snd hwho
  have hget : s.clients[i.val]? = some c := hc
  have hslot (k : ℕ) : ((StepState.sentLobbyData s).members[k]?).any (fun m => m.name == name) =
      (s.clients[k]?).any fun c => c.data.name == name := by
    simp only [StepState.sentLobbyData, List.getElem?_map, Option.any_map]
  unfold firstSlot
  rw [hslot, hslot]
  match i with
  | 0 =>
    have h₀ : s.clients[0]? = some c := hget
    simp [h₀, hname]
  | 1 =>
    have h₁ : s.clients[1]? = some c := hget
    -- the member in slot 0 has another name
    have h₀ : (s.clients[0]?).any (fun c => c.data.name == name) = false := by
      cases hother : s.clients[0]? with
      | none => rfl
      | some c' =>
        by_contra hsame
        have hname' : c'.data.name = name := by simpa using hsame
        have h₀' : s.names[0]? = some name := by simp [names, hother, hname']
        have h₁' : s.names[1]? = some name := by simp [names, h₁, hname]
        exact absurd ((List.nodup_iff_getElem?_ne_getElem?.1 hnodup) 0 1 (by omega)
          (List.getElem?_eq_some_iff.1 h₁').1 (h₀'.trans h₁'.symm)) (by simp)
    simp [h₀, h₁, hname]

lemma shows_of_serverHolds {conn : HSteamNetConnection} {name : String} {n : ℤ}
    {s : SessionServer} (hnodup : s.names.Nodup) (h : ServerHolds conn name n s) :
    Shows name n (StepState.sentLobbyData s, s.matchData) := by
  obtain ⟨i, hocc, hn⟩ := h
  exact ⟨i, firstSlot_of_occupant hnodup hocc, hn⟩

namespace LobbyClient

/-- An update settles the request, or leaves it. -/
lemma onDataUpdate_cases (c : LobbyClient) (l : LobbyData) (d : MatchData) :
    (c.onDataUpdate l d).outstandingReadyRequestNumber = -1 ∨
      (c.onDataUpdate l d).outstandingReadyRequestNumber = c.outstandingReadyRequestNumber := by
  unfold onDataUpdate
  dsimp only
  split
  · split
    · exact .inr rfl
    · split
      · exact .inl rfl
      · exact .inr rfl
  · exact .inr rfl

/-- An update that shows the request's number settles it. -/
lemma onDataUpdate_of_shows {c : LobbyClient} {u : LobbyData × MatchData}
    (hout : -1 < c.outstandingReadyRequestNumber)
    (h : Shows c.name c.outstandingReadyRequestNumber u) :
    (c.onDataUpdate u.1 u.2).outstandingReadyRequestNumber = -1 := by
  obtain ⟨i, hslot, hn⟩ := h
  unfold onDataUpdate
  dsimp only
  rw [if_pos hout, firstSlot_received _ (fun _ => rfl), hslot]
  simp [hn]

lemma receive_cases (c : LobbyClient) (msg : ServerMessage) :
    (c.receive msg).1.outstandingReadyRequestNumber = -1 ∨
      (c.receive msg).1.outstandingReadyRequestNumber = c.outstandingReadyRequestNumber := by
  cases msg with
  | dataUpdate l d => exact c.onDataUpdate_cases l d
  | helloResp | joinReject | lobbyAllReady | battleSynced | punchGo | relayed => exact .inr rfl

/-- A client without a request can get ready whenever it is shown as not ready. -/
lemma canReadyAgain_iff {c : LobbyClient} :
    c.CanReadyAgain ↔ c.outstandingReadyRequestNumber = -1 := by
  refine ⟨And.left, fun h => ⟨h, fun i hside hready => ?_⟩⟩
  simp [canLobbyReady, hside, h, hready]

end LobbyClient

/-! ## The ready messages on their way up -/

lemma readys_append (ps qs : List (Document × ℕ)) : readys (ps ++ qs) = readys ps ++ readys qs :=
  List.filterMap_append

lemma readys_cons_of_not {p : Document × ℕ} {ps : List (Document × ℕ)}
    (h : p.1.type? ≠ some .lobbyReady) : readys (p :: ps) = readys ps := by
  simp [readys, h]

lemma readys_cons_of_ready {p : Document × ℕ} {ps : List (Document × ℕ)}
    (h : p.1.type? = some .lobbyReady) : readys (p :: ps) = p.2 :: readys ps := by
  simp [readys, h]

lemma readys_post {t : Link} {docs : List Document}
    (h : ∀ doc ∈ docs, doc.type? ≠ some .lobbyReady) : readys (t.post docs).up = readys t.up := by
  have hnone : readys (docs.zipIdx (t.client.sentMessages + 1)) = [] :=
    List.filterMap_eq_nil_iff.2 fun p hp => if_neg (h p.1 (List.fst_mem_of_mem_zipIdx hp))
  show readys (t.up ++ docs.zipIdx (t.client.sentMessages + 1)) = readys t.up
  rw [readys_append, hnone, List.append_nil]

/-- Getting ready sends one ready message, the last one, and its number is the request. -/
lemma readys_readyMessages (t : Link) (i : Side) (choice : ReadyChoice) :
    ∃ n : ℕ, readys (t.post (LobbyClient.readyMessages i choice)).request.up =
        readys t.up ++ [n] ∧
      (t.post (LobbyClient.readyMessages i choice)).request.client.outstandingReadyRequestNumber =
        n := by
  refine ⟨t.client.sentMessages + (LobbyClient.readyMessages i choice).length, ?_, rfl⟩
  show readys (t.up ++ (LobbyClient.readyMessages i choice).zipIdx (t.client.sentMessages + 1)) = _
  rw [readys_append]
  congr 1
  match i with
  | 0 => simp [LobbyClient.readyMessages, readys, Document.type?]
  | 1 => simp [LobbyClient.readyMessages, readys, Document.type?]

lemma receive_docs {c : LobbyClient} {msg : ServerMessage} {doc : Document}
    (h : doc ∈ (c.receive msg).2) : doc.type? ≠ some .lobbyReady := by
  cases msg with
  | helloResp cid =>
    obtain rfl := List.mem_singleton.1 h
    simp [LobbyClient.joinMessage, Document.type?]
  | dataUpdate | joinReject | lobbyAllReady | battleSynced | punchGo | relayed =>
    simp [LobbyClient.receive] at h

/-! ## Where a request stands -/

/-- Where the client's request stands. -/
inductive Underway (conn : HSteamNetConnection) (log : List LinkEntry) (t : Link) : Prop
  /-- There is none. -/
  | settled (hnone : t.client.outstandingReadyRequestNumber = -1)
  /-- Its ready is the last one on the way to the server. -/
  | sent (n : ℕ) (hlast : (readys t.up).getLast? = some n)
      (hnum : t.client.outstandingReadyRequestNumber = n)
  /-- The running `Step` has handled its ready. -/
  | handled (hup : readys t.up = []) (hlt : -1 < t.client.outstandingReadyRequestNumber)
      (hstep : ReadyInStep log) (st : StepState) (hph : t.phase = .receiving st)
      (hdirty : st.server.dataDirty = true)
      (hholds : ServerHolds conn t.client.name t.client.outstandingReadyRequestNumber st.server)
  /-- An update on the way to the client shows its number. -/
  | shown (hup : readys t.up = []) (hlt : -1 < t.client.outstandingReadyRequestNumber)
      (u : LobbyData × MatchData) (hu : u ∈ updates t.down)
      (hshows : Shows t.client.name t.client.outstandingReadyRequestNumber u)

/-- A message that does not clear the ready state leaves the number of a member that did not
send it. -/
lemma ServerHolds.message {conn : HSteamNetConnection} {name : String} {n : ℤ}
    {st st' : StepState} {m : Incoming} {ev : Event} {out : List Output}
    (hh : st.Handled m ev st' out) (hclears : ev.clears = false)
    (hconn : m.conn ≠ conn ∨ ∀ i, ev ≠ .ready i) (h : ServerHolds conn name n st.server)
    (hdirty : st.server.dataDirty = true) :
    ServerHolds conn name n st'.server ∧ st'.server.dataDirty = true := by
  obtain ⟨i, hocc, hn⟩ := h
  cases hh with
  | ready hside =>
    rename_i j
    have hne : m.conn ≠ conn := hconn.resolve_right fun hnot => hnot j rfl
    have hij : i ≠ j := by
      rintro rfl
      obtain ⟨name', hocc'⟩ := exists_occupant_of_side hside
      rw [hocc] at hocc'
      exact hne (Prod.mk.inj (Option.some.inj hocc')).1.symm
    refine ⟨⟨i, hocc, ?_⟩, rfl⟩
    show Function.update st.server.matchData.readyMessageNum j _ i = n
    rwa [Function.update_of_ne hij]
  | reset | results => simp [Event.clears] at hclears
  | setter hs' =>
    exact ⟨⟨i, (hs'.occupant i).trans hocc, by rw [hs'.ready]; exact hn⟩, hs'.dirty hdirty⟩
  | other hquiet =>
    exact ⟨⟨i, hquiet.occupant i _ hocc, by rw [hquiet.ready]; exact hn⟩, hquiet.dirty hdirty⟩

/-- The data update at the end of a `Step` reaches every member. -/
lemma mem_updates_broadcasts {st : StepState} {conn : HSteamNetConnection}
    (hdirty : st.server.dataDirty = true) (hconn : conn ∈ st.server.conns) :
    (StepState.sentLobbyData st.server, st.server.matchData) ∈
      updates (st.broadcasts.flatMap (Output.deliveries conn)) := by
  refine mem_updates.2 (List.mem_flatMap.2 ⟨st.server.broadcastMessage
    (StepState.dataUpdate st.server), by simp [StepState.broadcasts, hdirty], ?_⟩)
  refine List.mem_replicate.2 ⟨?_, rfl⟩
  exact (List.count_pos_iff.2 hconn).ne'

lemma mem_conns_of_occupant {s : SessionServer} {i : Side} {w : Who}
    (h : s.occupant i = some w) : w.1 ∈ s.conns := by
  obtain ⟨c, hc, rfl⟩ := Option.map_eq_some_iff.1 h
  exact List.mem_map.2 ⟨c, List.mem_of_getElem? hc, rfl⟩

variable {conn : HSteamNetConnection} {log : List LinkEntry}

/-- What an update on its way shows, it shows until the client takes it. -/
lemma Underway.of_down {t : Link} {down : List ServerMessage} {ph : Phase}
    {up : List (Document × ℕ)} (hup : readys t.up = []) (hup' : readys up = readys t.up)
    (hlt : -1 < t.client.outstandingReadyRequestNumber)
    {u : LobbyData × MatchData} (hu : u ∈ updates t.down)
    (hshows : Shows t.client.name t.client.outstandingReadyRequestNumber u) :
    Underway conn log { t with phase := ph, up := up, down := t.down ++ down } := by
  refine .shown (hup'.trans hup) hlt u ?_ hshows
  show u ∈ updates (t.down ++ down)
  rw [updates_append]
  exact List.mem_append_left _ hu

/-- **A step of the server in a `Step` that has handled the request's ready.** -/
lemma underway_of_handled {t : Link} {st : StepState} {a : Action} {out : List Output}
    {ph' : Phase} {e : LinkEntry} {up : List (Document × ℕ)} (hkeep : Upkeep conn t)
    (hup : readys up = []) (hlt : -1 < t.client.outstandingReadyRequestNumber)
    (hin : ReadyInStep log) (hph : t.phase = .receiving st)
    (hdirty : st.server.dataDirty = true)
    (hholds : ServerHolds conn t.client.name t.client.outstandingReadyRequestNumber st.server)
    (hnext : t.phase.next a = some (out, ph')) (hclears : t.phase.clears a = false)
    (hcut : a ≠ .nullMessage)
    (hact : ∀ m ∈ a.message?, m.conn ≠ conn ∨ ∀ i, st.server.event m ≠ .ready i)
    (hreturns : (∃ m, a = .message m) → ¬ ReturnsFromStep e) :
    Underway conn (e :: log) { t with
      phase := ph', up := up, down := t.down ++ out.flatMap (Output.deliveries conn) } := by
  rw [hph] at hnext hclears
  cases a with
  | message m =>
    obtain ⟨⟨st', out'⟩, hm, heq⟩ := Option.map_eq_some_iff.1 hnext
    obtain ⟨rfl, rfl⟩ := Prod.mk.inj heq
    obtain ⟨hholds', hdirty'⟩ := hholds.message (StepState.onMessage_cases hm) hclears
      (hact m rfl) hdirty
    exact .handled hup hlt (.inr ⟨hreturns ⟨m, rfl⟩, hin⟩) st' rfl hdirty' hholds'
  | endStep =>
    obtain ⟨rfl, rfl⟩ := Prod.mk.inj (Option.some.inj hnext)
    have hnames : st.server.names.Nodup := by simpa [hph] using hkeep.names
    obtain ⟨i, hocc, hn⟩ := hholds
    refine .shown hup hlt (StepState.sentLobbyData st.server, st.server.matchData) ?_
      (shows_of_serverHolds hnames ⟨i, hocc, hn⟩)
    show _ ∈ updates (t.down ++ _)
    rw [updates_append]
    exact List.mem_append_right _ (mem_updates_broadcasts hdirty (mem_conns_of_occupant hocc))
  | nullMessage => exact absurd rfl hcut
  | beginStep | pollError | statusChanged | resetLobbyForRematch =>
    simp [Phase.next] at hnext

/-- The server takes the client's next message. -/
lemma underway_of_handle {t : Link} {addr : String} {loc : Bool} {p : Document × ℕ}
    {up : List (Document × ℕ)} {out : List Output} {ph' : Phase} {t' : Link}
    (hkeep : Upkeep conn t) (h : Underway conn log t) (hup : t.up = p :: up)
    (hnext : t.phase.next (.message (incoming conn addr loc p)) = some (out, ph'))
    (hplays : p.1.type? = some .lobbyReady → (t.phase.server.side conn).isSome)
    (hclears : ReadyInStep log → t.phase.clears (.message (incoming conn addr loc p)) = false) :
    Underway conn (⟨t, .handle addr loc, out, t'⟩ :: log) { t with
      phase := ph', up := up, down := t.down ++ out.flatMap (Output.deliveries conn) } := by
  have hgoes : ¬ ReturnsFromStep ⟨t, .handle addr loc, out, t'⟩ := by simp [ReturnsFromStep]
  by_cases hready : p.1.type? = some .lobbyReady
  · have hcons : readys t.up = p.2 :: readys up := by rw [hup, readys_cons_of_ready hready]
    cases h with
    | settled hnone => exact .settled hnone
    | handled hnil | shown hnil => simp [hcons] at hnil
    | sent n hlast hnum =>
      by_cases hlater : readys up = []
      · -- the ready is the request's own, and it finds the client in a slot
        obtain rfl : p.2 = n := by simpa [hcons, hlater] using hlast
        obtain ⟨i, hside⟩ := Option.isSome_iff_exists.1 (hplays hready)
        obtain ⟨c, hc, hconn⟩ := exists_player_of_side hside
        have hmem : c ∈ t.phase.server.clients := List.mem_of_getElem? hc
        cases hph : t.phase with
        | idle s => simp [hph, Phase.next] at hnext
        | receiving st =>
          rw [hph] at hnext hside hc hmem
          obtain ⟨⟨st', out'⟩, hm, heq⟩ := Option.map_eq_some_iff.1 hnext
          obtain ⟨rfl, rfl⟩ := Prod.mk.inj heq
          have hid : (st.server.cidMap conn).isSome = true := by
            have hids := hkeep.ids
            rw [hph] at hids
            exact hconn ▸ hids c hmem
          have hev : st.server.event (incoming conn addr loc p) = .ready i :=
            event_eq_ready_iff.2 ⟨hready, hid, hside⟩
          have hh := StepState.onMessage_cases hm
          rw [hev] at hh
          have hname : c.data.name = t.client.name := hkeep.own c (hph ▸ hmem) hconn
          cases hh with
          | ready =>
            refine .handled hlater (by rw [hnum]; omega)
              (.inl ⟨⟨p, by simp [hup], hready⟩, addr, loc, rfl⟩) _ rfl rfl
              ⟨i, ?_, ?_⟩
            · show st.server.occupant i = some (conn, t.client.name)
              rw [occupant, show st.server.player i = some c from hc, ← hname, ← hconn]
              rfl
            · show Function.update st.server.matchData.readyMessageNum i (p.2 : ℤ) i = _
              rw [Function.update_self, hnum]
      · refine .sent n ?_ hnum
        show (readys up).getLast? = some n
        rw [hcons, List.getLast?_cons] at hlast
        obtain ⟨m, hm⟩ := Option.isSome_iff_exists.1 (List.getLast?_isSome.2 hlater)
        rw [hm] at hlast ⊢
        exact hlast
  · have hsame : readys t.up = readys up := by rw [hup, readys_cons_of_not hready]
    cases h with
    | settled hnone => exact .settled hnone
    | sent n hlast hnum => exact .sent n (by rw [hsame] at hlast; exact hlast) hnum
    | handled hnil hlt hin st hph hdirty hholds =>
      refine underway_of_handled hkeep (hsame ▸ hnil) hlt hin hph hdirty hholds hnext
        (hclears hin) (by simp) (fun m hm => .inr fun i hev => hready ?_) fun _ => hgoes
      obtain rfl : incoming conn addr loc p = m := by simpa [Action.message?] using hm
      exact (event_eq_ready_iff.1 hev).1
    | shown hnil hlt u hu hshows => exact .of_down hnil hsame.symm hlt hu hshows

/-- The client takes the next message. -/
lemma underway_of_deliver {t : Link} {msg : ServerMessage} {down : List ServerMessage}
    {e : LinkEntry} (h : Underway conn log t) (hdown : t.down = msg :: down)
    (hgoes : ¬ ReturnsFromStep e) :
    Underway conn (e :: log)
      ({ t with client := (t.client.receive msg).1, down := down }.post
        (t.client.receive msg).2) := by
  have hready := readys_post (t := { t with client := (t.client.receive msg).1, down := down })
    fun doc hdoc => @receive_docs t.client msg doc hdoc
  have hname := receive_name t.client msg
  rcases t.client.receive_cases msg with hnone | hsame
  · exact .settled hnone
  · cases h with
    | settled hnone => exact .settled (hsame.trans hnone)
    | sent n hlast hnum => exact .sent n (by rw [hready]; exact hlast) (hsame.trans hnum)
    | handled hup hlt hin st hph hdirty hholds =>
      refine .handled (hready.trans hup) (by rw [← hsame] at hlt; exact hlt)
        (.inr ⟨hgoes, hin⟩) st hph hdirty ?_
      show ServerHolds conn (t.client.receive msg).1.name
        (t.client.receive msg).1.outstandingReadyRequestNumber st.server
      rwa [hname, hsame]
    | shown hup hlt u hu hshows =>
      rw [hdown, mem_updates] at hu
      rcases List.mem_cons.1 hu with hmsg | hu
      · -- the update settles the request
        subst hmsg
        exact .settled (LobbyClient.onDataUpdate_of_shows hlt hshows)
      · refine .shown (hready.trans hup) (by rw [← hsame] at hlt; exact hlt) u
          (mem_updates.2 hu) ?_
        show Shows (t.client.receive msg).1.name
          (t.client.receive msg).1.outstandingReadyRequestNumber u
        rwa [hname, hsame]

/-- **Step lemma for a request.** -/
lemma Underway.step {e : LinkEntry} (hkeep : Upkeep conn e.pre) (h : Underway conn log e.pre)
    (hstep : (linkLTS conn).Steps e)
    (hplays : HandlesReady e → (e.pre.phase.server.side conn).isSome)
    (hgoes : ReadyInStep log → ¬ Interrupts conn e) : Underway conn (e :: log) e.post := by
  obtain ⟨t, act, out, t'⟩ := e
  have hmove : LinkMoves conn t act out t' := linkMoves_of_next hstep
  have hclears {a : Action} (ha : a ∈ serverAction? conn ⟨t, act, out, t'⟩)
      (hin : ReadyInStep log) : t.phase.clears a = false ∧ a ≠ .nullMessage := by
    refine ⟨?_, fun hnull => hgoes hin ⟨a, ha, .inr hnull⟩⟩
    by_contra hc
    exact hgoes hin ⟨a, ha, .inl (by simpa using hc)⟩
  cases hmove with
  | server hconn hnext =>
    rename_i a ph'
    cases h with
    | settled hnone => exact .settled hnone
    | sent n hlast hnum => exact .sent n hlast hnum
    | handled hup hlt hin st hph hdirty hholds =>
      -- the update is still to be sent, by this step or by a later one
      obtain ⟨hclear, hcut⟩ := hclears rfl hin
      refine underway_of_handled hkeep hup hlt hin hph hdirty hholds hnext hclear hcut
        (fun m hm => .inl (hconn m hm)) ?_
      rintro ⟨m, rfl⟩
      simp [ReturnsFromStep]
    | shown hup hlt u hu hshows => exact .of_down hup rfl hlt hu hshows
  | handle hup hnext =>
    rename_i addr loc p up ph'
    refine underway_of_handle hkeep h hup hnext (fun hready => ?_) fun hin => ?_
    · exact hplays ⟨⟨p, by simp [hup], hready⟩, addr, loc, rfl⟩
    · exact (hclears (by simp [serverAction?, hup]) hin).1
  | deliver hdown => exact underway_of_deliver h hdown (by simp [ReturnsFromStep])
  | ready hside hcan =>
    rename_i choice i
    obtain ⟨n, hready, hnum⟩ := readys_readyMessages t i choice
    exact .sent n (by rw [hready]; simp) hnum
  | send hready hjoin =>
    rename_i doc
    have hsame : readys (t.post [doc]).up = readys t.up :=
      readys_post fun doc' hdoc' => List.mem_singleton.1 hdoc' ▸ hready
    cases h with
    | settled hnone => exact .settled hnone
    | sent n hlast hnum => exact .sent n (by rw [hsame]; exact hlast) hnum
    | handled hup hlt hin st hph hdirty hholds =>
      exact .handled (hsame.trans hup) hlt (.inr ⟨by simp [ReturnsFromStep], hin⟩) st hph hdirty
        hholds
    | shown hup hlt u hu hshows => exact .shown (hsame.trans hup) hlt u hu hshows

lemma underway_of_run {t : Link} (h : (linkLTS conn).Run log t) (hkeep : KeepsReady conn log) :
    Underway conn log t := by
  have hinv := h.invariant_of_step
    (fun log t => Upkeep conn t ∧ (KeepsReady conn log → Underway conn log t)) ?_
    fun log e hi hs => ⟨hi.1.step hs, fun hk => (hi.2 hk.1).step hi.1 hs hk.2.1 hk.2.2⟩
  · exact hinv.2 hkeep
  · rintro t hfresh
    refine ⟨upkeep_of_run ⟨t, hfresh, .refl⟩, fun _ => ?_⟩
    obtain ⟨-, -, -, name, hash, port, hclient⟩ := hfresh
    exact .settled (by rw [hclient]; rfl)

/-! ## After the `Step` has returned -/

@[simp] lemma updatesSent_cons (e : LinkEntry) :
    updatesSent conn (e :: log) =
      (updates (e.out.flatMap (Output.deliveries conn))).length + updatesSent conn log := by
  simp [updatesSent]

@[simp] lemma updatesDelivered_cons (e : LinkEntry) :
    updatesDelivered (e :: log) =
      (updates (delivery? e).toList).length + updatesDelivered log := by
  simp [updatesDelivered]

lemma updatesDelivered_append (newer older : List LinkEntry) :
    updatesDelivered (newer ++ older) = updatesDelivered newer + updatesDelivered older := by
  simp [updatesDelivered]

/-- Updates are delivered once each: what was sent is delivered or on its way. -/
lemma updatesSent_eq {t : Link} (h : (linkLTS conn).Run log t) :
    updatesSent conn log = updatesDelivered log + (updates t.down).length := by
  refine h.invariant_of_step (fun log t =>
    updatesSent conn log = updatesDelivered log + (updates t.down).length) ?_ ?_
  · rintro t ⟨-, -, hdown, -⟩
    simp [updatesSent, updatesDelivered, hdown]
  · rintro log ⟨t, act, out, t'⟩ hinv hstep
    have hmove : LinkMoves conn t act out t' := linkMoves_of_next hstep
    change updatesSent conn log = updatesDelivered log + (updates t.down).length at hinv
    cases hmove with
    | server | handle =>
      simp only [updatesSent_cons, updatesDelivered_cons, delivery?, reduceCtorEq, if_false,
        Option.toList_none, updates_nil, List.length_nil, updates_append, List.length_append]
      omega
    | deliver hdown =>
      rename_i msg down
      have hsplit : (updates t.down).length = (updates [msg]).length + (updates down).length := by
        rw [hdown, ← List.length_append, ← updates_append, List.singleton_append]
      simp only [updatesSent_cons, updatesDelivered_cons, delivery?, if_true, hdown,
        List.head?_cons, Option.toList_some, List.flatMap_nil, updates_nil, List.length_nil,
        Link.post]
      omega
    | ready | send =>
      simpa [updatesSent, updatesDelivered, delivery?, Link.post, Link.request] using hinv

/-- The request is settled, or one of the next `due` updates shows its number. -/
def Settling (due : ℕ) (t : Link) : Prop :=
  t.client.outstandingReadyRequestNumber = -1 ∨
    ∃ before after u, t.down = before ++ .dataUpdate u.1 u.2 :: after ∧
      -1 < t.client.outstandingReadyRequestNumber ∧
      Shows t.client.name t.client.outstandingReadyRequestNumber u ∧
      (updates before).length < due

/-- **Step lemma for a settling request.** Only the player's getting ready asks for more. -/
lemma Settling.step {e : LinkEntry} {due : ℕ}
    (h : Settling (due + (updates (delivery? e).toList).length) e.pre)
    (hstep : (linkLTS conn).Steps e) (hnot : ¬ GetsReady e) : Settling due e.post := by
  obtain ⟨t, act, out, t'⟩ := e
  have hmove : LinkMoves conn t act out t' := linkMoves_of_next hstep
  rcases h with hnone | ⟨before, after, u, hdown, hlt, hshows, hdue⟩
  · cases hmove with
    | server | handle | send => exact .inl hnone
    | deliver => exact .inl ((t.client.receive_cases _).elim id fun h => h.trans hnone)
    | ready => exact absurd ⟨_, rfl⟩ hnot
  · cases hmove with
    | server | handle =>
      refine .inr ⟨before, after ++ out.flatMap (Output.deliveries conn), u, ?_, hlt, hshows,
        by simpa [delivery?] using hdue⟩
      show t.down ++ _ = _
      rw [show t.down = _ from hdown, List.append_assoc, List.cons_append]
    | send =>
      exact .inr ⟨before, after, u, hdown, hlt, hshows, by simpa [delivery?] using hdue⟩
    | ready => exact absurd ⟨_, rfl⟩ hnot
    | deliver hhead =>
      rename_i msg down
      have hname := receive_name t.client msg
      rw [show t.down = _ from hdown] at hhead
      cases before with
      | nil =>
        -- the update that comes in is the one that shows the number
        obtain ⟨rfl, -⟩ := List.cons.inj hhead
        exact .inl (LobbyClient.onDataUpdate_of_shows hlt hshows)
      | cons msg' before =>
        obtain ⟨rfl, rfl⟩ := List.cons.inj hhead
        rcases t.client.receive_cases msg' with hnone | hsame
        · exact .inl hnone
        · refine .inr ⟨before, after, u, rfl, ?_, ?_, ?_⟩
          · show -1 < (t.client.receive msg').1.outstandingReadyRequestNumber
            rwa [hsame]
          · show Shows (t.client.receive msg').1.name
              (t.client.receive msg').1.outstandingReadyRequestNumber u
            rwa [hname, hsame]
          · have hsplit : updates (msg' :: before) = updates [msg'] ++ updates before :=
              updates_append [msg'] before
            have hhead' : t.down.head? = some msg' := by rw [show t.down = _ from hdown]; rfl
            simp only [delivery?, if_true, hhead', Option.toList_some, hsplit,
              List.length_append] at hdue
            omega

/-- Updates that come in settle the request. -/
lemma Settling.path {t t' : Link} {newer : List LinkEntry} {due : ℕ}
    (hpath : (linkLTS conn).Path t newer t') (hnot : ∀ e ∈ newer, ¬ GetsReady e)
    (h : Settling (due + updatesDelivered newer) t) : Settling due t' := by
  induction hpath generalizing due with
  | refl => simpa [updatesDelivered] using h
  | snoc hp hs ih =>
    rename_i newer e
    refine Settling.step (ih (fun e' he' => hnot e' (List.mem_cons_of_mem _ he')) ?_) hs
      (hnot e List.mem_cons_self)
    rw [updatesDelivered_cons] at h
    rwa [add_assoc]

/-- **Ready requests do not stick** in any run in which each ready of the client is handled
while the client plays, and in which nothing clears the ready state or breaks off the `Step`
after it. -/
theorem neverSticks_of_keepsReady {conn : HSteamNetConnection} {log : List LinkEntry} {t : Link}
    (h : (linkLTS conn).Run log t) (hkeep : KeepsReady conn log) : NeverSticks conn log t := by
  rintro newer e older rfl hreturns hup hnot hdelivered
  obtain ⟨hrun, hstep, hpath⟩ := h.at_entry
  have hkeep' : KeepsReady conn (e :: older) := by
    clear hnot hdelivered h hpath
    induction newer with
    | nil => exact hkeep
    | cons _ newer ih => exact ih hkeep.1
  have hrun' := hrun.snoc hstep
  have hsent := updatesSent_eq hrun'
  rw [LobbyClient.canReadyAgain_iff]
  -- at the return the request is settled or shown by an update on its way
  have hsettling : Settling (0 + updatesDelivered newer) e.post := by
    cases underway_of_run hrun' hkeep' with
    | settled hnone => exact .inl hnone
    | sent n hlast => simp [hup] at hlast
    | handled _ _ hin =>
      rcases hin with hready | ⟨hgoes, -⟩
      · obtain ⟨-, addr, loc, hact⟩ := hready
        simp [ReturnsFromStep, hact] at hreturns
      · exact absurd hreturns hgoes
    | shown _ hlt u hu hshows =>
      obtain ⟨before, after, hdown⟩ := List.append_of_mem (mem_updates.1 hu)
      refine .inr ⟨before, after, u, hdown, hlt, hshows, ?_⟩
      rw [hdown, updates_append, List.length_append] at hsent
      have hone : 0 < (updates (.dataUpdate u.1 u.2 :: after)).length := by simp [updates]
      rw [updatesDelivered_append] at hdelivered
      omega
  obtain hnone | ⟨_, _, _, _, _, _, hfalse⟩ := Settling.path hpath hnot hsettling
  · exact hnone
  · omega

/-! ## A reset in the same `Step` -/

/-- A fresh server, and the client `A` that has just connected to it. -/
def Link.fresh : Link :=
  ⟨.idle (.new "" "" true 3 ⟨0, 99⟩), .new "A" "" 0, [], []⟩

/-- `A`, on connection 1, and `B`, on connection 2, join; then `A` gets ready. -/
def LinkAction.joinAndReady : List LinkAction :=
  [.send (.bare .sessionHello), .server .beginStep, .handle "" true, .server .endStep, .deliver,
    .server .beginStep, .handle "" true] ++ (Action.enter 2 "B").map .server ++
  [.server .endStep, .deliver, .ready ⟨.zero, 7, 1⟩]

/-- The server's next `Step` takes the four messages of `A` and the given other actions, and
`A` receives one message. -/
def LinkAction.stepAndDeliver (acts : List Action) : List LinkAction :=
  [.server .beginStep] ++ List.replicate 4 (.handle "" true) ++ acts.map .server ++
    [.server .endStep, .deliver]

/-- A list of actions that a fresh link can carry out, and whose log passes a test. -/
lemma exists_link_run_of_exec (acts : List LinkAction) {p : List LinkEntry → Link → Prop}
    [∀ log t, Decidable (p log t)]
    (h : (LTS.exec (Link.next 1) .fresh [] acts).any (fun r => decide (p r.1 r.2)) = true) :
    ∃ log t, (linkLTS 1).Run log t ∧ p log t := by
  obtain ⟨log, t, hpath, hp⟩ := LTS.exists_path_of_exec acts h
  exact ⟨log, t, ⟨_, ⟨⟨_, _, _, _, _, rfl⟩, rfl, rfl, _, _, _, rfl⟩, hpath⟩, hp⟩

/-- A ready that is settled. -/
theorem neverSticks_one_ready :
    ∃ log t, (linkLTS 1).Run log t ∧ (∃ e ∈ log, HandlesReady e) ∧ NeverSticks 1 log t := by
  obtain ⟨log, t, hrun, hready, hkeep⟩ :=
    exists_link_run_of_exec (LinkAction.joinAndReady ++ LinkAction.stepAndDeliver [])
    (p := fun log _ => (∃ e ∈ log, HandlesReady e) ∧ KeepsReady 1 log) (by decide +kernel)
  exact ⟨log, t, hrun, hready, neverSticks_of_keepsReady hrun hkeep⟩

/-- **A reset in the same `Step`.** `A` gets ready, and the `Step` that takes its ready also
takes a reset of `B`.  The update that goes out shows nobody as ready, `A` has received it,
and still waits for the number of its ready. -/
theorem not_neverSticks_reset :
    ¬ ∀ (conn : HSteamNetConnection) (log : List LinkEntry) (t : Link),
        (linkLTS conn).Run log t → NeverSticks conn log t := by
  intro h
  obtain ⟨log, t, hrun, e, he, hreturns, hup, hnot, hall, hstuck⟩ :=
    exists_link_run_of_exec (LinkAction.joinAndReady ++
      LinkAction.stepAndDeliver [.message (.bare 2 3 .lobbyReset)])
    (p := fun log t => ∃ e ∈ (log.drop 1).head?, ReturnsFromStep e ∧ readys e.post.up = [] ∧
      (∀ e' ∈ log.take 1, ¬ GetsReady e') ∧
      updatesSent 1 (e :: (log.drop 1).tail) ≤ updatesDelivered log ∧
      t.client.outstandingReadyRequestNumber ≠ -1) (by decide +kernel)
  have hlog : log = log.take 1 ++ e :: (log.drop 1).tail := by
    rw [← List.eq_cons_of_mem_head? he, List.take_append_drop]
  exact hstuck (h 1 log t hrun _ e _ hlog hreturns hup hnot hall).1

end Sf4e
