/-
# Who is in the lobby

A member enters the lobby with a join request, under the connection the request came on and
the name it carries, and no handler renames a member afterwards.  Names stay unique, so the
name finds a member's slot just as its connection does.
-/
import Sf4e.Session.Loading

namespace Sf4e

open SessionProtocol SessionServer Trace

/-! ## Names -/

/-- The members' names, in lobby order. -/
def SessionServer.names (s : SessionServer) : List String := s.clients.map (·.data.name)

/-- No message makes two members have the same name. -/
lemma nodup_names_onMessage {st st' : StepState} {m : Incoming} {out : List Output}
    (h : st.onMessage m = some (st', out)) (hnodup : st.server.names.Nodup) :
    st'.server.names.Nodup := by
  have hh := StepState.onMessage_loadHandled h
  generalize st.server.loadEvent m = ev at hh
  cases hh with
  | loaded =>
    have hname : (st.onBattleLoaded m.conn).server.names = st.server.names := by
      show (st.server.clients.map (markLoaded m.conn)).map (·.data.name) = st.server.names
      rw [List.map_map]
      refine List.map_congr_left fun c _ => ?_
      exact congrArg Prod.snd (who_markLoaded m.conn c)
    rwa [hname]
  | reset =>
    have hname : st.server.resetLobbyForRematch.names = st.server.names := by
      show (st.server.clients.map markUnloaded).map (·.data.name) = st.server.names
      rw [List.map_map]
      rfl
    rwa [hname]
  | join hclients _ hnew =>
    rw [names, hclients, List.map_append]
    refine List.nodup_append.2 ⟨hnodup, List.nodup_singleton _, ?_⟩
    intro a ha b hb hab
    obtain ⟨c', hc', rfl⟩ := List.mem_map.1 ha
    exact hnew c' hc' (hab.trans (List.mem_singleton.1 hb))
  | other hclients => exact (hclients.map _).nodup_iff.2 hnodup

lemma nodup_names_statusChanged {s : SessionServer} (info : StatusChange)
    (hnodup : s.names.Nodup) : (s.onSteamNetConnectionStatusChanged info).names.Nodup := by
  unfold onSteamNetConnectionStatusChanged
  split
  · split
    · exact hnodup
    · exact hnodup.sublist ((List.eraseIdx_sublist _ _).map _)
  · exact hnodup

/-- **Step lemma for the names.** -/
lemma nodup_names_of_next {ph ph' : Phase} {a : Action} {out : List Output}
    (h : ph.next a = some (out, ph')) (hnodup : ph.server.names.Nodup) :
    ph'.server.names.Nodup := by
  cases ph with
  | idle s =>
    cases a <;> simp only [Phase.next, Option.some.injEq, Prod.mk.injEq, reduceCtorEq] at h
    all_goals obtain ⟨-, rfl⟩ := h
    case statusChanged info => exact nodup_names_statusChanged info hnodup
    case resetLobbyForRematch =>
      show ((s.clients.map markUnloaded).map (·.data.name)).Nodup
      rw [List.map_map]
      exact hnodup
    all_goals exact hnodup
  | receiving st =>
    cases a <;> simp only [Phase.next, Option.some.injEq, Prod.mk.injEq, reduceCtorEq] at h
    case message m =>
      obtain ⟨⟨st', out'⟩, hm, heq⟩ := Option.map_eq_some_iff.1 h
      obtain ⟨-, rfl⟩ := Prod.mk.inj heq
      exact nodup_names_onMessage hm hnodup
    all_goals
      obtain ⟨-, rfl⟩ := h
      exact hnodup

/-! ## Where members come from -/

/-- The message is a join request under the given name. -/
def Incoming.JoinsAs (m : Incoming) (name : String) : Prop :=
  m.type? = some .sessionJoinReq ∧ ∃ doc ∈ m.payload, ∃ r ∈ doc.joinRequest, r.username = name

/-- A member that joined under its connection and the requested name. -/
lemma who_of_registerToWait {s : SessionServer} {m : Incoming} {request : SessionJoinRequest}
    {cid : ConnectionID} {c : SessionMember}
    (h : c ∈ (s.registerToWait m request cid).2.clients) :
    c ∈ s.clients ∨ c.who = (m.conn, request.username) := by
  unfold registerToWait at h
  split_ifs at h
  · exact .inl h
  · exact .inl h
  · exact .inl h
  all_goals
    rcases List.mem_append.1 h with h | h
    · exact .inl h
    · exact .inr (by rw [List.mem_singleton.1 h]; rfl)

lemma who_of_onJoinReq {s : SessionServer} {m : Incoming} {doc : Document} {cid : ConnectionID}
    {c : SessionMember} (h : c ∈ (s.onJoinReq m doc cid).1.clients) :
    c ∈ s.clients ∨ ∃ r ∈ doc.joinRequest, c.who = (m.conn, r.username) := by
  unfold onJoinReq at h
  cases hr : doc.joinRequest with
  | none =>
    rw [hr] at h
    exact .inl h
  | some request =>
    simp only [hr] at h
    have hmem : c ∈ (s.registerToWait m request cid).2.clients := by
      split at h
      · rename_i heq
        rw [heq]
        exact h
      · rename_i heq
        rw [heq]
        exact h
    exact (who_of_registerToWait hmem).imp id fun hwho => ⟨request, rfl, hwho⟩

/-- A message that does not join leaves everybody who they are. -/
lemma who_of_loadHandled {st st' : StepState} {m : Incoming} {ev : LoadEvent}
    (h : st.LoadHandled m ev st') (hev : ev ≠ .join) {c : SessionMember}
    (hc : c ∈ st'.server.clients) : IsMember st.server c.who := by
  cases h with
  | loaded =>
    obtain ⟨c₀, hc₀, rfl⟩ := List.mem_map.1 hc
    rw [who_markLoaded]
    exact isMember_of_mem hc₀
  | reset =>
    obtain ⟨c₀, hc₀, rfl⟩ := List.mem_map.1 hc
    exact ⟨c₀, hc₀, rfl⟩
  | join => exact absurd rfl hev
  | other hclients => exact isMember_of_mem (hclients.mem_iff.1 hc)

/-- A message that counts as a join is a join request on a connection with an id. -/
lemma exists_request_of_join {s : SessionServer} {m : Incoming} (h : s.loadEvent m = .join) :
    ∃ doc, s.request m = some (.sessionJoinReq, doc) := by
  unfold loadEvent at h
  split at h
  · simp at h
  · rename_i type doc hreq
    cases type <;> simp only [reduceCtorEq] at h
    case lobbyReset => split_ifs at h
    case sessionJoinReq => exact ⟨doc, hreq⟩

/-- **Members come from join requests.** After a message every member was there before, or
has just joined on the message's connection, which has an id, and under the name it carries. -/
lemma who_of_onMessage {st st' : StepState} {m : Incoming} {out : List Output}
    (h : st.onMessage m = some (st', out)) {c : SessionMember} (hc : c ∈ st'.server.clients) :
    IsMember st.server c.who ∨
      (st.server.cidMap m.conn).isSome = true ∧ c.conn = m.conn ∧ m.JoinsAs c.data.name := by
  by_cases hev : st.server.loadEvent m = .join
  · obtain ⟨doc, hreq⟩ := exists_request_of_join hev
    obtain ⟨hp, htype, hsome⟩ := request_eq_some_iff.1 hreq
    obtain ⟨cid, hcid⟩ := Option.isSome_iff_exists.1 hsome
    obtain ⟨field, hfield, hjoin⟩ : ∃ f, doc.type = some f ∧ MessageType.fromJson f =
        .sessionJoinReq := by simpa [Incoming.type?, hp] using htype
    simp only [StepState.onMessage, hp, hfield, hjoin, hcid, StepState.onRegistered,
      Option.some.injEq, Prod.mk.injEq] at h
    obtain ⟨rfl, -⟩ := h
    rcases who_of_onJoinReq hc with hc | ⟨r, hr, hwho⟩
    · exact .inl (isMember_of_mem hc)
    · obtain ⟨hconn, hname⟩ := Prod.mk.inj hwho
      exact .inr ⟨hsome, hconn, htype, doc, hp, r, hr, hname.symm⟩
  · exact .inl (who_of_loadHandled (StepState.onMessage_loadHandled h) hev hc)

/-- The same for every step of the server. -/
lemma who_of_next {ph ph' : Phase} {a : Action} {out : List Output}
    (h : ph.next a = some (out, ph')) {c : SessionMember} (hc : c ∈ ph'.server.clients) :
    IsMember ph.server c.who ∨ ∃ m ∈ a.message?,
      (ph.server.cidMap m.conn).isSome = true ∧ c.conn = m.conn ∧ m.JoinsAs c.data.name := by
  cases ph with
  | idle s =>
    cases a <;> simp only [Phase.next, Option.some.injEq, Prod.mk.injEq, reduceCtorEq] at h
    all_goals obtain ⟨-, rfl⟩ := h
    case statusChanged info => exact .inl (isMember_of_mem (mem_of_mem_statusChanged hc))
    case resetLobbyForRematch =>
      obtain ⟨c₀, hc₀, rfl⟩ := List.mem_map.1 hc
      exact .inl ⟨c₀, hc₀, rfl⟩
    all_goals exact .inl (isMember_of_mem hc)
  | receiving st =>
    cases a <;> simp only [Phase.next, Option.some.injEq, Prod.mk.injEq, reduceCtorEq] at h
    case message m =>
      obtain ⟨⟨st', out'⟩, hm, heq⟩ := Option.map_eq_some_iff.1 h
      obtain ⟨-, rfl⟩ := Prod.mk.inj heq
      exact (who_of_onMessage hm hc).imp id fun hjoin => ⟨m, rfl, hjoin⟩
    all_goals
      obtain ⟨-, rfl⟩ := h
      exact .inl (isMember_of_mem hc)

/-! ## Members and connection ids -/

/-- Every member's connection has an id. -/
def SessionServer.HasIds (s : SessionServer) : Prop :=
  ∀ c ∈ s.clients, (s.cidMap c.conn).isSome = true

lemma keepsIds_of_next {ph ph' : Phase} {a : Action} {out : List Output}
    (h : ph.next a = some (out, ph')) : KeepsIds ph.server ph'.server := by
  cases moves_of_next h with
  | beginStep | pollError | resetLobbyForRematch | nullMessage | endStep => exact fun _ hc => hc
  | statusChanged =>
    rename_i s info
    refine StepState.keepsIds_of_eq ?_
    show (s.onSteamNetConnectionStatusChanged info).cidMap = s.cidMap
    unfold onSteamNetConnectionStatusChanged
    split
    · split <;> rfl
    · rfl
  | message _ hids => exact hids

/-- **Step lemma for the ids.** -/
lemma hasIds_of_next {ph ph' : Phase} {a : Action} {out : List Output}
    (h : ph.next a = some (out, ph')) (hids : ph.server.HasIds) : ph'.server.HasIds := by
  intro c hc
  refine keepsIds_of_next h c.conn ?_
  rcases who_of_next h hc with ⟨c₀, hc₀, hwho⟩ | ⟨m, -, hsome, hconn, -⟩
  · rw [← (Prod.mk.inj hwho).1]
    exact hids c₀ hc₀
  · rw [hconn]
    exact hsome

end Sf4e
