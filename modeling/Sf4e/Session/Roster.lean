/-
# One seat per connection

The lobby is meant to be a list of at most four people: no two of them under one name, on one
connection or with one connection id.  `RegisterToWait` checks the hash, the size and the
name of a request, but not whether its connection already is a member.  So the uniqueness of
connections is the one part of the invariant that the requests themselves have to provide,
and `seated_iff` says exactly that: a run keeps the invariant if and only if no member's
connection sends a second request that is let in.

What matters of a member is its seat: connection, connection id and name.  Every message but
a join permutes the seats, and a disconnect takes some away.
-/
import Mathlib.Data.List.Perm.Subperm
import Sf4e.Session.Membership

namespace Sf4e

open SessionProtocol SessionServer Trace

/-! ## The invariant -/

/-- The connection ids of the members, in lobby order. -/
def SessionServer.connIds (s : SessionServer) : List ConnectionID :=
  s.clients.map (·.data.connId)

/-- The lobby as it is meant to be. -/
structure Seated (s : SessionServer) : Prop where
  /-- There are at most four members. -/
  length : s.clients.length ≤ maxSf4eProtocolUsers
  /-- No two members have one name. -/
  names : s.names.Nodup
  /-- No connection is two members. -/
  conns : s.conns.Nodup
  /-- No connection id is given to two members. -/
  connIds : s.connIds.Nodup
  /-- Dropping a connection leaves no member that belongs to it. -/
  drops : ∀ info : StatusChange, info.drops = true →
    ∀ c ∈ (s.onSteamNetConnectionStatusChanged info).clients, c.conn ≠ info.conn

/-- The checks of `RegisterToWait`. -/
structure SessionServer.Admits (s : SessionServer) (request : SessionJoinRequest) : Prop where
  /-- The hash is the server's. -/
  hash : request.sidecarHash = s.sidecarHash
  /-- There is room. -/
  room : s.clients.length < maxSf4eProtocolUsers
  /-- The name is free. -/
  name : ∀ c ∈ s.clients, c.data.name ≠ request.username

instance (s : SessionServer) : DecidablePred s.Admits := fun request =>
  decidable_of_iff (request.sidecarHash = s.sidecarHash ∧
    s.clients.length < maxSf4eProtocolUsers ∧ ∀ c ∈ s.clients, c.data.name ≠ request.username)
    ⟨fun h => ⟨h.1, h.2.1, h.2.2⟩, fun h => ⟨h.hash, h.room, h.name⟩⟩

/-- The join request in a message on a connection that has an id. -/
def SessionServer.joinRequest (s : SessionServer) (m : Incoming) : Option SessionJoinRequest :=
  match s.request m with
  | some (.sessionJoinReq, doc) => doc.joinRequest
  | _ => none

/-- A member's connection asks to join once more, and the request passes the checks. -/
def Rejoins (e : ServerEntry) : Prop :=
  ∃ m ∈ e.act.message?, (∃ r ∈ e.pre.server.joinRequest m, e.pre.server.Admits r) ∧
    m.conn ∈ e.pre.server.conns

instance : DecidablePred Rejoins := fun e =>
  inferInstanceAs (Decidable (∃ m ∈ e.act.message?,
    (∃ r ∈ e.pre.server.joinRequest m, e.pre.server.Admits r) ∧ m.conn ∈ e.pre.server.conns))

/-! ## Seats -/

/-- What a member is told apart by. -/
abbrev Seat := HSteamNetConnection × ConnectionID × String

/-- The seat of a member. -/
def SessionMember.seat (c : SessionMember) : Seat := (c.conn, c.data.connId, c.data.name)

/-- The seats, in lobby order. -/
def SessionServer.seats (s : SessionServer) : List Seat := s.clients.map SessionMember.seat

lemma conns_eq_map_seats (s : SessionServer) : s.conns = s.seats.map (·.1) := by
  simp only [SessionServer.conns, SessionServer.seats, List.map_map]
  rfl

lemma connIds_eq_map_seats (s : SessionServer) : s.connIds = s.seats.map (·.2.1) := by
  simp only [SessionServer.connIds, SessionServer.seats, List.map_map]
  rfl

lemma seat_markLoaded (conn : HSteamNetConnection) (c : SessionMember) :
    (markLoaded conn c).seat = c.seat := by
  unfold markLoaded
  split <;> rfl

/-- A message that does not let anybody in permutes the seats. -/
lemma seats_perm_of_loadHandled {st st' : StepState} {m : Incoming} {ev : LoadEvent}
    (h : st.LoadHandled m ev st') (hev : ev ≠ .join) :
    st'.server.seats.Perm st.server.seats := by
  cases h with
  | loaded =>
    show ((st.server.clients.map (markLoaded m.conn)).map SessionMember.seat).Perm _
    rw [List.map_map]
    exact .of_eq (List.map_congr_left fun c _ => seat_markLoaded m.conn c)
  | reset =>
    show ((st.server.clients.map markUnloaded).map SessionMember.seat).Perm _
    rw [List.map_map]
    exact .of_eq rfl
  | join => exact absurd rfl hev
  | other hclients => exact hclients.map _

lemma clients_statusChanged_sublist (s : SessionServer) (info : StatusChange) :
    (s.onSteamNetConnectionStatusChanged info).clients.Sublist s.clients := by
  unfold onSteamNetConnectionStatusChanged
  split
  · split
    · exact .refl _
    · exact List.eraseIdx_sublist _ _
  · exact .refl _

/-! ## Joining -/

lemma registerToWait_joinOk_iff {s : SessionServer} {m : Incoming}
    {request : SessionJoinRequest} {cid : ConnectionID} :
    (s.registerToWait m request cid).1 = .joinOk ↔ s.Admits request := by
  unfold registerToWait
  split_ifs with hhash hfull hname
  · simpa using fun h : s.Admits request => hhash h.hash
  · simpa using fun h : s.Admits request => absurd h.room (by omega)
  · obtain ⟨c, hc, heq⟩ := List.any_eq_true.1 hname
    simpa using fun h : s.Admits request => h.name c hc (beq_iff_eq.1 heq)
  all_goals
    refine iff_of_true rfl ⟨not_not.1 hhash, by omega, fun c hc heq => hname ?_⟩
    exact List.any_eq_true.2 ⟨c, hc, beq_iff_eq.2 heq⟩

/-- The seat of a member that is let in. -/
lemma registerToWait_seats {s : SessionServer} {m : Incoming} {request : SessionJoinRequest}
    {cid : ConnectionID} (h : s.Admits request) :
    (s.registerToWait m request cid).2.seats = s.seats ++ [(m.conn, cid, request.username)] := by
  have hok : (s.registerToWait m request cid).1 = .joinOk := registerToWait_joinOk_iff.2 h
  unfold registerToWait at hok ⊢
  split_ifs at hok ⊢
  all_goals
    simp only [seats, List.map_append, List.map_cons, List.map_nil]
    rfl

lemma mem_joinRequest_iff {s : SessionServer} {m : Incoming} {r : SessionJoinRequest} :
    r ∈ s.joinRequest m ↔
      ∃ doc, s.request m = some (.sessionJoinReq, doc) ∧ doc.joinRequest = some r := by
  unfold joinRequest
  constructor
  · intro h
    split at h
    · exact ⟨_, by assumption, h⟩
    · exact absurd h (by simp)
  · rintro ⟨doc, hreq, hr⟩
    simp [hreq, hr]

/-- The messages that count as a join are the requests that pass the checks. -/
lemma loadEvent_eq_join_iff {s : SessionServer} {m : Incoming} :
    s.loadEvent m = .join ↔ ∃ r ∈ s.joinRequest m, s.Admits r := by
  constructor
  · intro h
    obtain ⟨doc, hreq⟩ := exists_request_of_join h
    obtain ⟨cid, hcid⟩ := Option.isSome_iff_exists.1 (request_eq_some_iff.1 hreq).2.2
    cases hr : doc.joinRequest with
    | none => simp [loadEvent, hreq, hcid, hr] at h
    | some r =>
      refine ⟨r, mem_joinRequest_iff.2 ⟨doc, hreq, hr⟩, ?_⟩
      by_contra hadm
      have hok : (s.registerToWait m r cid).1 ≠ .joinOk := mt registerToWait_joinOk_iff.1 hadm
      simp [loadEvent, hreq, hcid, hr, hok] at h
  · rintro ⟨r, hr, hadm⟩
    obtain ⟨doc, hreq, hr⟩ := mem_joinRequest_iff.1 hr
    obtain ⟨cid, hcid⟩ := Option.isSome_iff_exists.1 (request_eq_some_iff.1 hreq).2.2
    have hok : (s.registerToWait m r cid).1 = .joinOk := registerToWait_joinOk_iff.2 hadm
    simp [loadEvent, hreq, hcid, hr, hok]

/-- A request that passes the checks adds one seat: that of its connection, under the id the
connection was given. -/
lemma seats_of_join {st st' : StepState} {m : Incoming} {r : SessionJoinRequest}
    {out : List Output} (h : st.onMessage m = some (st', out)) (hr : r ∈ st.server.joinRequest m)
    (hadm : st.server.Admits r) :
    ∃ cid, st.server.cidMap m.conn = some cid ∧
      st'.server.seats = st.server.seats ++ [(m.conn, cid, r.username)] := by
  obtain ⟨doc, hreq, hr⟩ := mem_joinRequest_iff.1 hr
  obtain ⟨hp, htype, hsome⟩ := request_eq_some_iff.1 hreq
  obtain ⟨cid, hcid⟩ := Option.isSome_iff_exists.1 hsome
  obtain ⟨field, hfield, hjoin⟩ : ∃ f, doc.type = some f ∧ MessageType.fromJson f =
      .sessionJoinReq := by simpa [Incoming.type?, hp] using htype
  simp only [StepState.onMessage, hp, hfield, hjoin, hcid, StepState.onRegistered,
    Option.some.injEq, Prod.mk.injEq] at h
  obtain ⟨rfl, -⟩ := h
  refine ⟨cid, hcid, ?_⟩
  have hok : (st.server.registerToWait m r cid).1 = .joinOk := registerToWait_joinOk_iff.2 hadm
  have hpair : st.server.registerToWait m r cid =
      (.joinOk, (st.server.registerToWait m r cid).2) := Prod.ext hok rfl
  have hserver : (st.server.onJoinReq m doc cid).1 =
      { (st.server.registerToWait m r cid).2 with dataDirty := true } := by
    simp only [onJoinReq, hr]
    rw [hpair]
  rw [hserver]
  exact registerToWait_seats hadm

/-- **Inversion for the seats.** A step of the server lets one connection in, or it adds no
seat. -/
lemma seats_of_next {ph ph' : Phase} {a : Action} {out : List Output}
    (h : ph.next a = some (out, ph')) :
    (∃ m ∈ a.message?, ∃ r ∈ ph.server.joinRequest m, ph.server.Admits r ∧
      ∃ cid, ph.server.cidMap m.conn = some cid ∧
        ph'.server.seats = ph.server.seats ++ [(m.conn, cid, r.username)]) ∨
      ph'.server.seats.Subperm ph.server.seats := by
  cases ph with
  | idle s =>
    cases a <;> simp only [Phase.next, Option.some.injEq, Prod.mk.injEq, reduceCtorEq] at h
    all_goals obtain ⟨-, rfl⟩ := h
    case statusChanged info =>
      exact .inr ((clients_statusChanged_sublist s info).map SessionMember.seat).subperm
    case resetLobbyForRematch =>
      refine .inr (List.Perm.of_eq ?_).subperm
      show (s.clients.map markUnloaded).map SessionMember.seat = s.clients.map SessionMember.seat
      rw [List.map_map]
      rfl
    all_goals exact .inr (.refl _)
  | receiving st =>
    cases a <;> simp only [Phase.next, Option.some.injEq, Prod.mk.injEq, reduceCtorEq] at h
    case message m =>
      obtain ⟨⟨st', out'⟩, hm, heq⟩ := Option.map_eq_some_iff.1 h
      obtain ⟨-, rfl⟩ := Prod.mk.inj heq
      by_cases hev : st.server.loadEvent m = .join
      · obtain ⟨r, hr, hadm⟩ := loadEvent_eq_join_iff.1 hev
        exact .inl ⟨m, rfl, r, hr, hadm, seats_of_join hm hr hadm⟩
      · exact .inr (seats_perm_of_loadHandled (StepState.onMessage_loadHandled hm) hev).subperm
    all_goals
      obtain ⟨-, rfl⟩ := h
      exact .inr (.refl _)

/-! ## Connection ids -/

/-- The connection ids are the ones the server makes out of connection handles. -/
structure IdsNameConns (s : SessionServer) : Prop where
  /-- An id that was handed out names its connection. -/
  cidMap : ∀ conn cid, s.cidMap conn = some cid → cid.user = toString conn.toNat
  /-- A member's id names the member's connection. -/
  seats : ∀ x ∈ s.seats, x.2.1.user = toString x.1.toNat

/-- Decimal notation is unambiguous. -/
lemma toString_conn_injective {a b : HSteamNetConnection}
    (h : toString a.toNat = toString b.toNat) : a = b := by
  have hdigits : Nat.toDigits 10 a.toNat = Nat.toDigits 10 b.toNat := by
    simpa [Nat.toString_eq_ofList_toDigits] using congrArg String.toList h
  refine UInt32.toNat_inj.1 ?_
  rw [← Nat.ofDigitChars_ten_toDigits (n := a.toNat), hdigits, Nat.ofDigitChars_ten_toDigits]

lemma IdsNameConns.inj {s : SessionServer} (h : IdsNameConns s) {x y : Seat} (hx : x ∈ s.seats)
    (hy : y ∈ s.seats) (hid : x.2.1 = y.2.1) : x.1 = y.1 :=
  toString_conn_injective (by rw [← h.seats x hx, ← h.seats y hy, hid])

lemma cidMap_statusChanged (s : SessionServer) (info : StatusChange) :
    (s.onSteamNetConnectionStatusChanged info).cidMap = s.cidMap := by
  unfold onSteamNetConnectionStatusChanged
  split
  · split <;> rfl
  · rfl

/-- A message hands out an id only for its own connection, and names it. -/
lemma cidMap_onMessage {st st' : StepState} {m : Incoming} {out : List Output}
    (h : st.onMessage m = some (st', out)) {conn : HSteamNetConnection} {cid : ConnectionID}
    (hcid : st'.server.cidMap conn = some cid) :
    st.server.cidMap conn = some cid ∨ cid.user = toString conn.toNat := by
  unfold StepState.onMessage at h
  split at h
  · obtain ⟨rfl, -⟩ := Prod.mk.inj (Option.some.inj h)
    exact .inl hcid
  · split at h
    · obtain ⟨rfl, -⟩ := Prod.mk.inj (Option.some.inj h)
      exact .inl hcid
    · dsimp only at h
      split at h
      · split at h
        all_goals obtain ⟨rfl, -⟩ := Prod.mk.inj (Option.some.inj h)
        · by_cases hconn : conn = m.conn
          · subst hconn
            obtain rfl : ⟨st.server.identity, toString m.conn.toNat⟩ = cid := by
              simpa [onHello] using hcid
            exact .inr rfl
          · exact .inl (by simpa [onHello, Function.update_of_ne hconn] using hcid)
        · exact .inl hcid
      · exact .inl (by rwa [StepState.onRegistered_cidMap h] at hcid)

lemma cidMap_of_next {ph ph' : Phase} {a : Action} {out : List Output}
    (h : ph.next a = some (out, ph')) {conn : HSteamNetConnection} {cid : ConnectionID}
    (hcid : ph'.server.cidMap conn = some cid) :
    ph.server.cidMap conn = some cid ∨ cid.user = toString conn.toNat := by
  cases ph with
  | idle s =>
    cases a <;> simp only [Phase.next, Option.some.injEq, Prod.mk.injEq, reduceCtorEq] at h
    all_goals obtain ⟨-, rfl⟩ := h
    case statusChanged info =>
      rw [Phase.server_idle, cidMap_statusChanged] at hcid
      exact .inl hcid
    all_goals exact .inl hcid
  | receiving st =>
    cases a <;> simp only [Phase.next, Option.some.injEq, Prod.mk.injEq, reduceCtorEq] at h
    case message m =>
      obtain ⟨⟨st', out'⟩, hm, heq⟩ := Option.map_eq_some_iff.1 h
      obtain ⟨-, rfl⟩ := Prod.mk.inj heq
      exact cidMap_onMessage hm hcid
    all_goals
      obtain ⟨-, rfl⟩ := h
      exact .inl hcid

/-- **Step lemma for the ids.** -/
lemma IdsNameConns.step {ph ph' : Phase} {a : Action} {out : List Output}
    (hids : IdsNameConns ph.server) (h : ph.next a = some (out, ph')) :
    IdsNameConns ph'.server := by
  constructor
  · intro conn cid hcid
    rcases cidMap_of_next h hcid with hold | hnew
    · exact hids.cidMap conn cid hold
    · exact hnew
  · intro x hx
    rcases seats_of_next h with ⟨m, -, r, -, -, cid, hcid, hseats⟩ | hsub
    · rw [hseats] at hx
      rcases List.mem_append.1 hx with hx | hx
      · exact hids.seats x hx
      · obtain rfl := List.mem_singleton.1 hx
        exact hids.cidMap m.conn cid hcid
    · exact hids.seats x (hsub.subset hx)

lemma idsNameConns_of_run {log : List ServerEntry} {ph : Phase} (h : serverLTS.Run log ph) :
    IdsNameConns ph.server := by
  refine h.invariant_of_step (fun _ ph => IdsNameConns ph.server) ?_
    fun _ e hi hs => hi.step hs
  rintro s ⟨_, _, _, _, _, rfl⟩
  exact ⟨by simp [SessionServer.new], by simp [SessionServer.seats, SessionServer.new]⟩

/-! ## What a run keeps -/

lemma nodup_names_of_run {log : List ServerEntry} {ph : Phase} (h : serverLTS.Run log ph) :
    ph.server.names.Nodup := by
  refine h.invariant_of_step (fun _ ph => ph.server.names.Nodup) ?_
    fun _ e hi hs => nodup_names_of_next hs hi
  rintro s ⟨_, _, _, _, _, rfl⟩
  exact List.nodup_nil

/-- No run fills the lobby beyond its size, whoever joins how often. -/
lemma length_clients_of_run {log : List ServerEntry} {ph : Phase} (h : serverLTS.Run log ph) :
    ph.server.clients.length ≤ maxSf4eProtocolUsers := by
  have hlength : ∀ s : SessionServer, s.clients.length = s.seats.length := by
    intro s
    simp [SessionServer.seats]
  refine h.invariant_of_step
    (fun _ ph => ph.server.clients.length ≤ maxSf4eProtocolUsers) ?_ fun _ e hi hs => ?_
  · rintro s ⟨_, _, _, _, _, rfl⟩
    simp [SessionServer.new]
  · rcases seats_of_next hs with ⟨m, -, r, -, hadm, cid, -, hseats⟩ | hsub
    · have hroom := hadm.room
      rw [hlength] at hroom ⊢
      rw [hseats, List.length_append]
      exact hroom
    · have hle := hsub.length_le
      rw [← hlength, ← hlength] at hle
      omega

/-- Without a second join, no connection gets a second seat. -/
lemma nodup_conns_of_next {e : ServerEntry} (hs : serverLTS.Steps e) (hok : ¬ Rejoins e)
    (h : e.pre.server.conns.Nodup) : e.post.server.conns.Nodup := by
  rw [conns_eq_map_seats] at h ⊢
  rcases seats_of_next hs with ⟨m, hm, r, hr, hadm, cid, -, hseats⟩ | hsub
  · rw [hseats, List.map_append]
    refine List.nodup_append.2 ⟨h, List.nodup_singleton _, ?_⟩
    intro a ha b hb hab
    obtain rfl := List.mem_singleton.1 hb
    obtain rfl : a = m.conn := hab
    rw [← conns_eq_map_seats] at ha
    exact hok ⟨m, hm, ⟨r, hr, hadm⟩, ha⟩
  · obtain ⟨l, hperm, hsub⟩ := hsub
    exact (hperm.map _).nodup_iff.1 (h.sublist (hsub.map _))

/-- A second join gives its connection a second seat. -/
lemma not_nodup_conns_of_rejoins {e : ServerEntry} (hs : serverLTS.Steps e) (h : Rejoins e) :
    ¬ e.post.server.conns.Nodup := by
  obtain ⟨m, hm, ⟨r, hr, hadm⟩, hmem⟩ := h
  obtain ⟨pre, act, out, post⟩ := e
  cases act with
  | message m' =>
    obtain rfl : m' = m := by simpa [Action.message?] using hm
    cases pre with
    | idle s => simp [Trace.LTS.Steps, serverLTS, Trace.LTS.ofFun, Phase.next] at hs
    | receiving st =>
      obtain ⟨⟨st', out'⟩, hmsg, heq⟩ := Option.map_eq_some_iff.1 hs
      obtain ⟨-, rfl⟩ := Prod.mk.inj heq
      obtain ⟨cid, -, hseats⟩ := seats_of_join hmsg hr hadm
      intro hnodup
      simp only [Phase.server_receiving] at hnodup
      rw [conns_eq_map_seats, hseats, List.map_append, ← conns_eq_map_seats] at hnodup
      exact (List.nodup_append.1 hnodup).2.2 m'.conn hmem m'.conn (List.mem_singleton.2 rfl) rfl
  | beginStep | nullMessage | endStep | pollError | statusChanged | resetLobbyForRematch =>
    simp [Action.message?] at hm

/-- Where no connection has two seats, a dropped connection has none left. -/
lemma drops_of_nodup_conns {s : SessionServer} (h : s.conns.Nodup) {info : StatusChange}
    (hdrops : info.drops = true) :
    ∀ c ∈ (s.onSteamNetConnectionStatusChanged info).clients, c.conn ≠ info.conn := by
  intro c hc heq
  unfold onSteamNetConnectionStatusChanged at hc
  rw [if_pos hdrops] at hc
  split at hc
  · rename_i hnone
    have hno := List.findIdx?_eq_none_iff.1 hnone c hc
    exact absurd heq (by simpa using hno)
  · rename_i k hk
    obtain ⟨hlt, hconn, -⟩ := List.findIdx?_eq_some_iff_getElem.1 hk
    obtain ⟨j, hj, hne, rfl⟩ := List.mem_eraseIdx_iff_getElem.1 hc
    -- the erased member and the one left behind would share the connection
    have hjlt : j < s.conns.length := by simpa [conns] using hj
    have hsame : s.conns[j]? = s.conns[k]? := by
      have hconns : s.clients[j].conn = s.clients[k].conn := heq.trans (beq_iff_eq.1 hconn).symm
      simpa [conns, List.getElem?_eq_getElem hj, List.getElem?_eq_getElem hlt] using hconns
    exact hne ((List.getElem?_inj hjlt h).1 hsame)

/-- In every run, all that the lobby needs is one seat per connection. -/
lemma seated_of_run {log : List ServerEntry} {ph : Phase} (h : serverLTS.Run log ph)
    (hconns : ph.server.conns.Nodup) : Seated ph.server where
  length := length_clients_of_run h
  names := nodup_names_of_run h
  conns := hconns
  connIds := by
    rw [conns_eq_map_seats] at hconns
    rw [connIds_eq_map_seats]
    refine (List.Nodup.of_map _ hconns).map_on fun x hx y hy hid => ?_
    have hconn : x.1 = y.1 := (idsNameConns_of_run h).inj hx hy hid
    exact List.inj_on_of_nodup_map hconns hx hy hconn
  drops := fun _ hdrops => drops_of_nodup_conns hconns hdrops

lemma nodup_conns_of_run {log : List ServerEntry} {ph : Phase} (h : serverLTS.Run log ph)
    (hok : ∀ e ∈ log, ¬ Rejoins e) : ph.server.conns.Nodup := by
  refine h.invariant (fun _ ph => ph.server.conns.Nodup) ?_
    (fun _ e hi hs hr => nodup_conns_of_next hs hr hi) hok
  rintro s ⟨_, _, _, _, _, rfl⟩
  exact List.nodup_nil

/-- **One seat per connection.** The lobby is as it is meant to be in every state of a run
exactly when no member's connection sends a further join request that passes the checks. -/
theorem seated_iff {log : List ServerEntry} {ph : Phase} (h : serverLTS.Run log ph) :
    (∀ newer older t, log = newer ++ older → serverLTS.Run older t → Seated t.server) ↔
      ∀ e ∈ log, ¬ Rejoins e := by
  constructor
  · intro hall e he hrejoin
    obtain ⟨newer, older, rfl⟩ := List.append_of_mem he
    obtain ⟨hrun, hstep, -⟩ := h.at_entry
    have hseated : Seated e.post.server :=
      hall newer (e :: older) e.post rfl (hrun.snoc hstep)
    exact not_nodup_conns_of_rejoins hstep hrejoin hseated.conns
  · rintro hok newer older t rfl hrun
    have hconns : t.server.conns.Nodup :=
      nodup_conns_of_run hrun fun e he => hok e (List.mem_append_right _ he)
    exact seated_of_run hrun hconns

/-- Two members join, a third is turned away for its name, and the first disconnects. -/
theorem seated_two_members :
    ∃ log ph, serverLTS.Run log ph ∧ ph.server.names = ["B"] ∧ Seated ph.server := by
  obtain ⟨log, ph, hrun, hnames, hok⟩ := exists_run_of_exec
    ([.beginStep] ++ Action.enter 1 "A" ++ Action.enter 2 "B" ++ Action.enter 3 "B" ++
      [.endStep, .statusChanged ⟨1, .closedByPeer, .connected⟩])
    (p := fun log ph => ph.server.names = ["B"] ∧ ∀ e ∈ log, ¬ Rejoins e) (by decide +kernel)
  exact ⟨log, ph, hrun, hnames, (seated_iff hrun).2 hok [] log ph rfl hrun⟩

/-- **A second join breaks the lobby.** The connection of `A` joins once more as `B`.  When it
is closed, only `A` is erased, and `B` stays behind on a connection that is gone. -/
theorem not_seated_rejoin :
    ¬ ∀ log ph, serverLTS.Run log ph → Seated ph.server := by
  intro h
  obtain ⟨log, ph, hrun, hconns, hleft⟩ := exists_run_of_exec
    ([.beginStep] ++ Action.enter 1 "A" ++ [.message (.join 1 3 ⟨"", "B", 0⟩), .endStep])
    (p := fun _ ph => ph.server.conns = [1, 1] ∧
      (ph.server.onSteamNetConnectionStatusChanged ⟨1, .closedByPeer, .connected⟩).conns = [1])
    (by decide +kernel)
  have hseated := h log ph hrun
  obtain ⟨c, hc, hconn⟩ := List.mem_map.1 (hleft ▸ List.mem_singleton.2 rfl : (1 : UInt32) ∈ _)
  exact hseated.drops ⟨1, .closedByPeer, .connected⟩ rfl c hc hconn

end Sf4e
