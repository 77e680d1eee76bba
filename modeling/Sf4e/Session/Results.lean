/-
# Reported results and the queue of members

`HandleResults` takes the loser out of the lobby's vector and appends it again, by an iterator
that is the start of the vector plus a number from the wire.  Two things can go wrong with such
an iterator: the number can lead outside the vector, and appending can move the elements away
from it.  The constructor reserves room for one more than a lobby has, so the second never
happens in any run (`backs_of_run`).  Against the first there is no check.

`keepsQueue_iff` says which reports are handled as a queue would have it.
-/
import Sf4e.Data.GrowableVector
import Sf4e.Session.Roster

namespace Sf4e

open SessionProtocol SessionServer Trace

/-! ## The vector of the members -/

/-- `clients`. -/
abbrev MemberVector := GrowableVector SessionMember

/-- `clients` as the constructor leaves it. -/
def MemberVector.new : MemberVector := GrowableVector.empty.reserve (maxSf4eProtocolUsers + 1)

namespace SessionServer

/-- The member that `RegisterToWait` appends. -/
def newMember (m : Incoming) (request : SessionJoinRequest) (cid : ConnectionID) :
    SessionMember where
  data :=
    { connId := cid
      name := request.username
      ip := if m.isLocalHost then "" else m.peerAddr
      port := request.port
      flags := 0 }
  conn := m.conn

/-- `HandleResults` on the vector. -/
def handleResultsIn (v : MemberVector) (loserIndex : ℤ) : Option MemberVector := do
  let loser ← v.advance v.begin loserIndex
  let member ← v.get loser
  (v.pushBack member).erase loser

/-- What the handlers of registered connections do to the vector. -/
def membersOnRegistered (s : SessionServer) (m : Incoming) (doc : Document) (cid : ConnectionID)
    (v : MemberVector) : MessageType → Option MemberVector
  | .sessionJoinReq =>
    match doc.joinRequest with
    | none => some v
    | some request =>
      if (s.registerToWait m request cid).1 = .joinOk then
        some (v.pushBack (newMember m request cid))
      else some v
  | .battleLoaded => some (v.modify (markLoaded m.conn))
  | .lobbyReportResults =>
    match doc.reportResults with
    | none => some v
    | some request => handleResultsIn v request.loserSide.toInt
  | .lobbyReset => some (if (s.side m.conn).isSome then v.modify markUnloaded else v)
  | .sessionHello | .sessionHelloResp | .sessionDataUpdate | .sessionJoinRej | .lobbyReady
  | .lobbyAllReady | .lobbySetSettings | .preBattleSetEnv | .preBattleSetChara
  | .preBattleSetStage | .battleSynced | .battleSnapshot | .battleHash | .battleGgpoFrame
  | .punchReady | .punchGo | .forward => some v

/-- What a message does to the vector. -/
def membersOnMessage (s : SessionServer) (m : Incoming) (v : MemberVector) :
    Option MemberVector :=
  match s.request m, s.cidMap m.conn with
  | some (type, doc), some cid => s.membersOnRegistered m doc cid v type
  | _, _ => some v

/-- What the connection callback does to the vector. -/
def membersOnStatusChanged (info : StatusChange) (v : MemberVector) : Option MemberVector :=
  if info.drops then
    match v.elems.findIdx? fun c => c.conn == info.conn with
    | none => some v
    | some k => (v.advance v.begin k).bind v.erase
  else some v

end SessionServer

/-- What an action does to the vector. -/
def Phase.members : Phase → Action → MemberVector → Option MemberVector
  | .receiving st, .message m, v => st.server.membersOnMessage m v
  | .idle _, .statusChanged info, v => membersOnStatusChanged info v
  | .idle _, .resetLobbyForRematch, v => some (v.modify markUnloaded)
  | _, _, v => some v

/-- The server together with the vector its members are kept in. -/
abbrev MemberState := Phase × MemberVector

/-- A step of both; there is none when an access to the vector fails. -/
def memberNext (t : MemberState) (a : Action) : Option (List Output × MemberState) :=
  match t.1.next a, t.1.members a t.2 with
  | some (out, ph'), some v' => some (out, (ph', v'))
  | _, _ => none

/-- The server with its vector as a transition system. -/
def memberLTS : LTS MemberState Action (List Output) :=
  .ofFun (fun t => Fresh t.1 ∧ t.2 = .new) memberNext

/-! ## A queue -/

section Queue

variable {α : Type*}

/-- The element at `i` goes to the end, and the others keep their order. -/
structure MovesToTail (i : ℕ) (old new : List α) : Prop where
  /-- The lists around the element are the same. -/
  exists_split : ∃ before x after,
    old = before ++ x :: after ∧ before.length = i ∧ new = before ++ after ++ [x]
  /-- Nobody is lost. -/
  perm : new.Perm old

/-- Erasing an element after appending a copy of it. -/
lemma movesToTail_eraseIdx {l : List α} {i : ℕ} {x : α} (h : l[i]? = some x) :
    MovesToTail i l ((l ++ [x]).eraseIdx i) := by
  obtain ⟨hlt, rfl⟩ := List.getElem?_eq_some_iff.1 h
  have hold : l = l.take i ++ l[i] :: l.drop (i + 1) := by
    rw [List.getElem_cons_drop, List.take_append_drop]
  have hnew : (l ++ [l[i]]).eraseIdx i = l.take i ++ l.drop (i + 1) ++ [l[i]] := by
    rw [List.eraseIdx_append_of_lt_length hlt, List.eraseIdx_eq_take_drop_succ]
  refine ⟨⟨l.take i, l[i], l.drop (i + 1), hold, ?_, hnew⟩, ?_⟩
  · rw [List.length_take]
    omega
  · rw [List.eraseIdx_append_of_lt_length hlt]
    exact (List.perm_append_singleton _ _).trans (List.getElem_cons_eraseIdx_perm hlt)

/-- Only the last element stays where it is, if no element occurs twice. -/
lemma eraseIdx_append_eq_self_iff {l : List α} {i : ℕ} {x : α} (hnodup : l.Nodup)
    (h : l[i]? = some x) : (l ++ [x]).eraseIdx i = l ↔ i + 1 = l.length := by
  obtain ⟨hlt, rfl⟩ := List.getElem?_eq_some_iff.1 h
  rw [List.eraseIdx_append_of_lt_length hlt]
  constructor
  · intro heq
    by_contra hne
    have hnext : (l.eraseIdx i ++ [l[i]])[i]? = l[i]? := by rw [heq]
    rw [List.getElem?_append_left (by rw [List.length_eraseIdx_of_lt hlt]; omega),
      List.getElem?_eraseIdx_of_ge le_rfl] at hnext
    have := (List.getElem?_inj hlt hnodup).1 hnext.symm
    omega
  · intro hlast
    have hne : l ≠ [] := List.ne_nil_of_length_pos (by omega)
    obtain ⟨l', a, rfl⟩ : ∃ l' a, l = l' ++ [a] :=
      ⟨l.dropLast, l.getLast hne, (List.dropLast_append_getLast hne).symm⟩
    have hi : i = l'.length := by simpa using hlast
    subst hi
    rw [List.eraseIdx_append_of_length_le le_rfl]
    simp

end Queue

/-! ## The vector never moves -/

/-- The vector holds the members of the server, in the buffer that the constructor reserved. -/
structure Backs (v : MemberVector) (s : SessionServer) : Prop where
  elems : v.elems = s.clients
  capacity : v.capacity = maxSf4eProtocolUsers + 1
  buffer : v.buffer = 1

namespace Backs

variable {v : MemberVector} {s s' : SessionServer} {l : ℤ}

lemma of_clients (h : Backs v s) (hclients : s'.clients = s.clients) : Backs v s' :=
  ⟨h.elems.trans hclients.symm, h.capacity, h.buffer⟩

lemma modify (h : Backs v s) {f : SessionMember → SessionMember}
    (hclients : s'.clients = s.clients.map f) : Backs (v.modify f) s' :=
  ⟨by rw [GrowableVector.elems_modify, h.elems, hclients], h.capacity, h.buffer⟩

/-- The buffer has room for one more than a lobby. -/
lemma length_lt (h : Backs v s) (hlength : s.clients.length ≤ maxSf4eProtocolUsers) :
    v.elems.length < v.capacity := by
  rw [h.elems, h.capacity]
  omega

lemma pushBack (h : Backs v s) (hlength : s.clients.length ≤ maxSf4eProtocolUsers)
    {c : SessionMember} (hclients : s'.clients = s.clients ++ [c]) : Backs (v.pushBack c) s' := by
  rw [GrowableVector.pushBack_of_lt (h.length_lt hlength)]
  refine ⟨?_, h.capacity, h.buffer⟩
  show v.elems ++ [c] = s'.clients
  rw [h.elems, hclients]

/-- Erasing a member that is there. -/
lemma erase (h : Backs v s) {i : ℕ} (hi : i < s.clients.length)
    (hclients : s'.clients = s.clients.eraseIdx i) :
    ∃ v', (v.advance v.begin i).bind v.erase = some v' ∧ Backs v' s' := by
  have hlt : i < v.elems.length := by rwa [h.elems]
  rw [GrowableVector.advance_begin, if_pos (by omega), Option.bind_some, Int.toNat_natCast,
    GrowableVector.erase_mk v hlt]
  refine ⟨_, rfl, ?_, h.capacity, h.buffer⟩
  show v.elems.eraseIdx i = s'.clients
  rw [h.elems, hclients]

/-- A report with a number outside the lobby leads outside the vector. -/
lemma handleResultsIn_eq_none (h : Backs v s) (hl : s.handleResults l = none) :
    handleResultsIn v l = none := by
  unfold handleResultsIn
  rw [GrowableVector.advance_begin, h.elems]
  split
  · rename_i hrange
    unfold handleResults at hl
    rw [if_neg (by omega)] at hl
    cases hget : s.clients[l.toNat]? with
    | none =>
      -- the number leads to the end of the vector, where there is nothing to read
      simp [GrowableVector.get_mk, h.elems, hget]
    | some loser => simp [hget] at hl
  · rfl

/-- A report with a number in the lobby is handled within the buffer. -/
lemma handleResultsIn (h : Backs v s) (hlength : s.clients.length ≤ maxSf4eProtocolUsers)
    (hl : s.handleResults l = some s') :
    ∃ v', SessionServer.handleResultsIn v l = some v' ∧ Backs v' s' := by
  unfold handleResults at hl
  split_ifs at hl with hneg
  cases hget : s.clients[l.toNat]? with
  | none => simp [hget] at hl
  | some loser =>
    simp only [hget, Option.some.injEq] at hl
    obtain ⟨hlt, -⟩ := List.getElem?_eq_some_iff.1 hget
    have hfrom : v.advance v.begin l = some ⟨v.buffer, l.toNat⟩ := by
      rw [GrowableVector.advance_begin, h.elems, if_pos (by omega)]
    have hread : v.get ⟨v.buffer, l.toNat⟩ = some loser := by
      rw [GrowableVector.get_mk, h.elems, hget]
    -- the iterator survives, as nothing is moved
    have hpush : Backs (v.pushBack loser) { s with clients := s.clients ++ [loser] } :=
      h.pushBack hlength rfl
    have hsame : (v.pushBack loser).buffer = v.buffer := by rw [hpush.buffer, h.buffer]
    have hstill : l.toNat < (v.pushBack loser).elems.length := by
      rw [GrowableVector.elems_pushBack, List.length_append, h.elems]
      omega
    have herase := GrowableVector.erase_mk (v.pushBack loser) hstill
    rw [hsame] at herase
    have hstep : SessionServer.handleResultsIn v l =
        (v.pushBack loser).erase ⟨v.buffer, l.toNat⟩ := by
      simp only [SessionServer.handleResultsIn, hfrom, hread, Option.bind_eq_bind,
        Option.bind_some]
    rw [herase] at hstep
    refine ⟨_, hstep, ?_, hpush.capacity, hpush.buffer⟩
    show (v.pushBack loser).elems.eraseIdx l.toNat = s'.clients
    rw [hpush.elems, ← hl]

end Backs

/-! ## Every step of the server is one of its vector -/

section Refinement

variable {v : MemberVector} {st st' : StepState} {m : Incoming} {out : List Output}

/-- What `RegisterToWait` appends. -/
lemma registerToWait_eq (s : SessionServer) (m : Incoming) (request : SessionJoinRequest)
    (cid : ConnectionID) :
    s.registerToWait m request cid =
      ((s.registerToWait m request cid).1,
        if (s.registerToWait m request cid).1 = .joinOk then
          { s with clients := s.clients ++ [newMember m request cid] }
        else s) := by
  unfold registerToWait
  split
  · rfl
  · split
    · rfl
    · split <;> rfl

lemma Backs.onJoinReq {s : SessionServer} (h : Backs v s)
    (hlength : s.clients.length ≤ maxSf4eProtocolUsers) (doc : Document) (cid : ConnectionID) :
    ∃ v', s.membersOnRegistered m doc cid v .sessionJoinReq = some v' ∧
      Backs v' (s.onJoinReq m doc cid).1 := by
  unfold membersOnRegistered SessionServer.onJoinReq
  cases doc.joinRequest with
  | none => exact ⟨v, rfl, h⟩
  | some request =>
    dsimp only
    rw [registerToWait_eq]
    dsimp only
    cases (s.registerToWait m request cid).1 with
    | joinOk => exact ⟨_, rfl, h.pushBack hlength rfl⟩
    | requestInvalid => exact ⟨_, rfl, h⟩
    | lobbyFull => exact ⟨_, rfl, h⟩
    | nameTaken => exact ⟨_, rfl, h⟩
    | hashInvalid => exact ⟨_, rfl, h⟩

lemma Backs.onRegistered (h : Backs v st.server)
    (hlength : st.server.clients.length ≤ maxSf4eProtocolUsers) {doc : Document}
    {type : MessageType} {cid : ConnectionID}
    (hstep : st.onRegistered m doc type cid = some (st', out)) :
    ∃ v', st.server.membersOnRegistered m doc cid v type = some v' ∧ Backs v' st'.server := by
  cases type <;> simp only [StepState.onRegistered, Option.some.injEq, Prod.mk.injEq] at hstep
  case lobbyReportResults =>
    obtain ⟨s', hs', heq⟩ := Option.map_eq_some_iff.1 hstep
    obtain ⟨rfl, -⟩ := Prod.mk.inj heq
    unfold onReportResults at hs'
    unfold membersOnRegistered
    cases hreport : doc.reportResults with
    | none =>
      simp only [hreport, Option.some.injEq] at hs'
      exact ⟨v, rfl, hs' ▸ h⟩
    | some report =>
      simp only [hreport] at hs'
      obtain ⟨s₁, hs₁, rfl⟩ := Option.map_eq_some_iff.1 hs'
      obtain ⟨v', hv', hbacks⟩ := h.handleResultsIn hlength hs₁
      exact ⟨v', hv', hbacks.of_clients rfl⟩
  all_goals obtain ⟨rfl, -⟩ := hstep
  case sessionJoinReq => exact h.onJoinReq hlength doc cid
  case battleLoaded => exact ⟨_, rfl, h.modify rfl⟩
  case lobbyReset =>
    unfold onReset membersOnRegistered
    cases st.server.side m.conn with
    | none => exact ⟨v, rfl, h⟩
    | some i => exact ⟨_, rfl, h.modify rfl⟩
  case preBattleSetChara => exact ⟨v, rfl, h.of_clients (onSetChara_sets _ _ _).clients⟩
  case preBattleSetEnv => exact ⟨v, rfl, h.of_clients (onSetEnv_sets _ _ _).clients⟩
  case preBattleSetStage => exact ⟨v, rfl, h.of_clients (onSetStage_sets _ _ _).clients⟩
  case lobbySetSettings => exact ⟨v, rfl, h.of_clients (onSetSettings_sets _ _ _).clients⟩
  case lobbyReady =>
    refine ⟨v, rfl, h.of_clients ?_⟩
    unfold StepState.onReady
    split <;> rfl
  case punchReady =>
    refine ⟨v, rfl, h.of_clients ?_⟩
    unfold onPunchReady
    split
    · rfl
    · dsimp only
      split <;> rfl
  all_goals exact ⟨v, rfl, h⟩

lemma Backs.onMessage (h : Backs v st.server)
    (hlength : st.server.clients.length ≤ maxSf4eProtocolUsers)
    (hstep : st.onMessage m = some (st', out)) :
    ∃ v', st.server.membersOnMessage m v = some v' ∧ Backs v' st'.server := by
  rcases StepState.onMessage_request hstep with
    ⟨type, doc, cid, hreq, hcid, hstep⟩ | ⟨hreq, rfl, -⟩ | ⟨hreq, -, rfl, -⟩
  · obtain ⟨v', hv', hbacks⟩ := h.onRegistered hlength hstep
    exact ⟨v', by simp only [membersOnMessage, hreq, hcid, hv'], hbacks⟩
  · exact ⟨v, by simp only [membersOnMessage, hreq], h⟩
  · exact ⟨v, by simp only [membersOnMessage, hreq], h.of_clients rfl⟩

lemma Backs.onStatusChanged {s : SessionServer} (h : Backs v s) (info : StatusChange) :
    ∃ v', membersOnStatusChanged info v = some v' ∧
      Backs v' (s.onSteamNetConnectionStatusChanged info) := by
  unfold membersOnStatusChanged onSteamNetConnectionStatusChanged
  rw [h.elems]
  split
  · cases hfind : s.clients.findIdx? fun c => c.conn == info.conn with
    | none => exact ⟨v, rfl, h⟩
    | some k =>
      obtain ⟨hk, -⟩ := List.findIdx?_eq_some_iff_getElem.1 hfind
      exact h.erase hk rfl
  · exact ⟨v, rfl, h⟩

/-- **Step lemma.**  No step of the server is held up by its vector, which stays in its
buffer. -/
theorem Backs.next {ph ph' : Phase} {a : Action} (h : Backs v ph.server)
    (hlength : ph.server.clients.length ≤ maxSf4eProtocolUsers)
    (hstep : ph.next a = some (out, ph')) :
    ∃ v', ph.members a v = some v' ∧ Backs v' ph'.server := by
  cases ph with
  | idle s =>
    cases a <;> simp only [Phase.next, Option.some.injEq, Prod.mk.injEq, reduceCtorEq] at hstep
    all_goals obtain ⟨-, rfl⟩ := hstep
    case statusChanged info => exact h.onStatusChanged info
    case resetLobbyForRematch => exact ⟨_, rfl, h.modify rfl⟩
    all_goals exact ⟨v, rfl, h⟩
  | receiving st =>
    cases a with
    | message m =>
      simp only [Phase.next, Option.map_eq_some_iff, Prod.mk.injEq] at hstep
      obtain ⟨⟨st', out'⟩, hm, -, rfl⟩ := hstep
      exact h.onMessage hlength hm
    | nullMessage =>
      obtain ⟨-, rfl⟩ := Prod.mk.inj (Option.some.inj hstep)
      exact ⟨v, rfl, h⟩
    | endStep =>
      obtain ⟨-, rfl⟩ := Prod.mk.inj (Option.some.inj hstep)
      exact ⟨v, rfl, h.of_clients rfl⟩
    | beginStep => cases hstep
    | pollError => cases hstep
    | statusChanged => cases hstep
    | resetLobbyForRematch => cases hstep

end Refinement

lemma backs_new {ph : Phase} (h : Fresh ph) : Backs .new ph.server := by
  obtain ⟨_, _, _, _, _, rfl⟩ := h
  exact ⟨rfl, rfl, rfl⟩

lemma eq_some_of_memberNext {t t' : MemberState} {a : Action} {out : List Output}
    (h : memberNext t a = some (out, t')) :
    t.1.next a = some (out, t'.1) ∧ t.1.members a t.2 = some t'.2 := by
  unfold memberNext at h
  split at h
  · rename_i out' ph' v' hnext hmembers
    obtain ⟨rfl, rfl⟩ := Prod.mk.inj (Option.some.inj h)
    exact ⟨hnext, hmembers⟩
  · cases h

/-- **Run lemma.**  In every run the vector holds the members, in the reserved buffer. -/
theorem backs_of_run {log : List (Entry MemberState Action (List Output))} {t : MemberState}
    (h : memberLTS.Run log t) :
    (∃ log', serverLTS.Run log' t.1) ∧ Backs t.2 t.1.server := by
  refine h.invariant_of_step
    (fun _ t => (∃ log', serverLTS.Run log' t.1) ∧ Backs t.2 t.1.server) ?_ ?_
  · rintro ⟨ph, v⟩ ⟨hfresh, rfl⟩
    exact ⟨⟨[], ph, hfresh, .refl⟩, backs_new hfresh⟩
  · rintro log ⟨t, a, out, t'⟩ ⟨⟨log', hrun⟩, hbacks⟩ hstep
    obtain ⟨hnext, hmembers⟩ := eq_some_of_memberNext hstep
    obtain ⟨v', hv', hbacks'⟩ := hbacks.next (length_clients_of_run hrun) hnext
    have hsame : v' = t'.2 := Option.some.inj (hv'.symm.trans hmembers)
    exact ⟨⟨_, LTS.Run.snoc (e := ⟨t.1, a, out, t'.1⟩) hrun hnext⟩, hsame ▸ hbacks'⟩

/-- Every run of the server is one of the server with its vector. -/
theorem exists_memberRun {log : List ServerEntry} {ph : Phase} (h : serverLTS.Run log ph) :
    ∃ log' v, memberLTS.Run log' (ph, v) := by
  refine h.invariant_of_step (fun _ ph => ∃ log' v, memberLTS.Run log' (ph, v)) ?_ ?_
  · intro ph hfresh
    exact ⟨[], .new, (ph, .new), ⟨hfresh, rfl⟩, .refl⟩
  · rintro log ⟨ph, a, out, ph'⟩ ⟨log', v, hrun⟩ hstep
    obtain ⟨⟨log'', hserver⟩, hbacks⟩ := backs_of_run hrun
    obtain ⟨v', hv', -⟩ := hbacks.next (length_clients_of_run hserver) hstep
    have hnext : ph.next a = some (out, ph') := hstep
    have hboth : memberNext (ph, v) a = some (out, (ph', v')) := by
      simp only [memberNext, hnext, hv']
    exact ⟨_, v', LTS.Run.snoc (e := ⟨(ph, v), a, out, (ph', v')⟩) hrun hboth⟩

/-! ## Reports -/

/-- The number of a side that a member plays on. -/
def IsPlayerSide (s : SessionServer) (l : ℤ) : Prop := (l = 0 ∨ l = 1) ∧ l < s.clients.length

/-- The number of a member. -/
def IsMemberIndex (s : SessionServer) (l : ℤ) : Prop := 0 ≤ l ∧ l < s.clients.length

lemma IsPlayerSide.isMemberIndex {s : SessionServer} {l : ℤ} (h : IsPlayerSide s l) :
    IsMemberIndex s l := ⟨by have hside := h.1; omega, h.2⟩

/-- A report of the loser `l` is handled as in a queue: every access to the vector is to an
element that is there, a valid number moves the member it names to the tail, and any other
number changes nothing at all. -/
def KeepsQueue (Valid : SessionServer → ℤ → Prop) (st : StepState) (v : MemberVector)
    (m : Incoming) (l : ℤ) : Prop :=
  ∃ out st' v', memberNext (.receiving st, v) (.message m) = some (out, (.receiving st', v')) ∧
    v'.buffer = v.buffer ∧
    (Valid st.server l → MovesToTail l.toNat st.server.clients st'.server.clients) ∧
    (¬ Valid st.server l → st' = st ∧ v' = v)

/-- The report of the last member, when there is nothing to clear and an update goes out in any
case. -/
structure Redundant (s : SessionServer) (l : ℤ) : Prop where
  last : l + 1 = s.clients.length
  index : 0 ≤ l
  matchData : s.matchData = MatchData.clear
  dataDirty : s.dataDirty = true

section Reports

variable {log : List (Entry MemberState Action (List Output))} {st : StepState}
  {v : MemberVector} {m : Incoming} {doc : Document} {report : LobbyReportResults}

/-- A number in the lobby moves its member. -/
lemma handleResults_of_isMemberIndex {s : SessionServer} {l : ℤ} (h : IsMemberIndex s l) :
    ∃ loser, s.clients[l.toNat]? = some loser ∧ s.handleResults l = some { s with
      clients := (s.clients ++ [loser]).eraseIdx l.toNat
      matchData := MatchData.clear } := by
  obtain ⟨hpos, hlt⟩ := h
  have hget : s.clients[l.toNat]? = some s.clients[l.toNat] :=
    List.getElem?_eq_getElem (by omega)
  refine ⟨_, hget, ?_⟩
  rw [handleResults, if_neg (by omega)]
  simp only [hget]

/-- A number outside the lobby leads nowhere. -/
lemma handleResults_of_not_isMemberIndex {s : SessionServer} {l : ℤ}
    (h : ¬ IsMemberIndex s l) : s.handleResults l = none := by
  unfold handleResults
  split_ifs with hneg
  · rfl
  · have hout : s.clients[l.toNat]? = none := by
      refine List.getElem?_eq_none ?_
      by_contra hlt
      exact h ⟨by omega, by omega⟩
    simp only [hout]

/-- What a report amounts to. -/
lemma onMessage_of_report (hreq : st.server.request m = some (.lobbyReportResults, doc))
    (hreport : doc.reportResults = some report) :
    st.onMessage m = (st.server.handleResults report.loserSide.toInt).map fun s' =>
      ({ st with server := { s' with dataDirty := true } }, []) := by
  obtain ⟨cid, -, heq⟩ := StepState.onMessage_of_request hreq
  rw [heq]
  simp only [StepState.onRegistered, onReportResults, hreport, Option.map_map]
  rfl

/-- A report of a member goes through, and the member goes to the tail. -/
lemma memberNext_of_report (hbacks : Backs v st.server)
    (hlength : st.server.clients.length ≤ maxSf4eProtocolUsers)
    (hreq : st.server.request m = some (.lobbyReportResults, doc))
    (hreport : doc.reportResults = some report)
    (hl : IsMemberIndex st.server report.loserSide.toInt) :
    ∃ loser v', st.server.clients[report.loserSide.toInt.toNat]? = some loser ∧
      memberNext (.receiving st, v) (.message m) = some ([], (.receiving { st with
        server := { st.server with
          clients := (st.server.clients ++ [loser]).eraseIdx report.loserSide.toInt.toNat
          matchData := MatchData.clear
          dataDirty := true } }, v')) ∧
      v'.buffer = v.buffer ∧ v'.capacity = v.capacity ∧
      v'.elems = (st.server.clients ++ [loser]).eraseIdx report.loserSide.toInt.toNat := by
  obtain ⟨loser, hget, hres⟩ := handleResults_of_isMemberIndex hl
  have hnext : (Phase.receiving st).next (.message m) = some ([], .receiving { st with
      server := { st.server with
        clients := (st.server.clients ++ [loser]).eraseIdx report.loserSide.toInt.toNat
        matchData := MatchData.clear
        dataDirty := true } }) := by
    simp only [Phase.next, onMessage_of_report hreq hreport, hres, Option.map_some]
  have hbacks₀ : Backs v (Phase.receiving st).server := hbacks
  obtain ⟨v', hv', hbacks'⟩ := hbacks₀.next hlength hnext
  refine ⟨loser, v', hget, ?_, ?_, ?_, hbacks'.elems⟩
  · simp only [memberNext, hnext, hv']
  · rw [hbacks'.buffer, hbacks.buffer]
  · rw [hbacks'.capacity, hbacks.capacity]

/-- A report of nobody ends in an access outside the vector. -/
lemma memberNext_of_report_none (hreq : st.server.request m = some (.lobbyReportResults, doc))
    (hreport : doc.reportResults = some report)
    (hl : ¬ IsMemberIndex st.server report.loserSide.toInt) :
    memberNext (.receiving st, v) (.message m) = none := by
  have hnext : (Phase.receiving st).next (.message m) = none := by
    simp only [Phase.next, onMessage_of_report hreq hreport,
      handleResults_of_not_isMemberIndex hl, Option.map_none]
  simp only [memberNext, hnext]

/-- **Reports and the queue.**  In every run, a report is handled as in a queue exactly when it
names a member; if only the players' sides count as valid, exactly when it names a player, or
the last member at a moment when that changes nothing. -/
theorem keepsQueue_iff (hrun : memberLTS.Run log (.receiving st, v))
    (hreq : st.server.request m = some (.lobbyReportResults, doc))
    (hreport : doc.reportResults = some report) :
    (KeepsQueue IsMemberIndex st v m report.loserSide.toInt ↔
      IsMemberIndex st.server report.loserSide.toInt) ∧
    (KeepsQueue IsPlayerSide st v m report.loserSide.toInt ↔
      IsPlayerSide st.server report.loserSide.toInt ∨
        Redundant st.server report.loserSide.toInt) := by
  obtain ⟨⟨log', hserver⟩, hbacks'⟩ := backs_of_run hrun
  have hbacks : Backs v st.server := hbacks'
  have hlength : st.server.clients.length ≤ maxSf4eProtocolUsers := length_clients_of_run hserver
  have hnodup : st.server.clients.Nodup := List.Nodup.of_map _ (nodup_names_of_run hserver)
  by_cases hl : IsMemberIndex st.server report.loserSide.toInt
  · obtain ⟨loser, v', hget, hnext, hbuffer, hcapacity, helems⟩ :=
      memberNext_of_report hbacks hlength hreq hreport hl
    have hmoves := movesToTail_eraseIdx hget
    have hqueue {Valid : SessionServer → ℤ → Prop}
        (hvalid : Valid st.server report.loserSide.toInt) :
        KeepsQueue Valid st v m report.loserSide.toInt :=
      ⟨_, _, v', hnext, hbuffer, fun _ => hmoves, fun hno => absurd hvalid hno⟩
    refine ⟨iff_of_true (hqueue hl) hl, ?_⟩
    by_cases hside : IsPlayerSide st.server report.loserSide.toInt
    · exact iff_of_true (hqueue hside) (.inl hside)
    · constructor
      · rintro ⟨out, st', v'', hnext', -, -, hsame⟩
        obtain ⟨hst, -⟩ := hsame hside
        rw [hnext] at hnext'
        -- the state after the report is the one before it
        have hserver : st.server = { st.server with
            clients := (st.server.clients ++ [loser]).eraseIdx report.loserSide.toInt.toNat
            matchData := MatchData.clear
            dataDirty := true } := by
          have hst' := congrArg (fun r => r.2.1.server) (Option.some.inj hnext')
          rw [hst] at hst'
          exact hst'.symm
        have hlast := (eraseIdx_append_eq_self_iff hnodup hget).1
          (congrArg SessionServer.clients hserver).symm
        refine .inr ⟨by have := hl.1; omega, hl.1, ?_, ?_⟩
        · exact congrArg SessionServer.matchData hserver
        · exact congrArg SessionServer.dataDirty hserver
      · rintro (hside' | hredundant)
        · exact absurd hside' hside
        · have hlast := hredundant.last
          have hindex := hredundant.index
          have hclients : (st.server.clients ++ [loser]).eraseIdx
              report.loserSide.toInt.toNat = st.server.clients :=
            (eraseIdx_append_eq_self_iff hnodup hget).2 (by omega)
          have hserver : { st.server with
              clients := (st.server.clients ++ [loser]).eraseIdx report.loserSide.toInt.toNat
              matchData := MatchData.clear
              dataDirty := true } = st.server := by
            rw [hclients, ← hredundant.matchData, ← hredundant.dataDirty]
          rw [hserver] at hnext
          refine ⟨_, _, v', hnext, hbuffer, fun h => absurd h hside, fun _ => ⟨rfl, ?_⟩⟩
          exact GrowableVector.ext (by rw [helems, hclients, hbacks.elems]) hcapacity hbuffer
  · have hnone : ∀ {Valid : SessionServer → ℤ → Prop},
        ¬ KeepsQueue Valid st v m report.loserSide.toInt := by
      rintro Valid ⟨out, st', v', hnext, -⟩
      rw [memberNext_of_report_none hreq hreport hl] at hnext
      cases hnext
    refine ⟨iff_of_false hnone hl, iff_of_false hnone ?_⟩
    rintro (hside | hredundant)
    · exact hl hside.isMemberIndex
    · exact hl ⟨hredundant.index, by have hlast := hredundant.last; omega⟩

end Reports

/-! ## A lobby of two -/

/-- The running call of `Step`. -/
def Phase.receiving? : Phase → Option StepState
  | .idle _ => none
  | .receiving st => some st

/-- The report of a loser. -/
def reportDocument (loserSide : Int32) : Document :=
  { Document.bare .lobbyReportResults with reportResults := some ⟨loserSide⟩ }

/-- The report on the first connection. -/
def reportOf (loserSide : Int32) : Incoming where
  conn := 1
  messageNumber := 3
  payload := some (reportDocument loserSide)

/-- Two members, and the first is about to report. -/
def TwoMembers (loserSide : Int32) (st : StepState) : Prop :=
  st.server.request (reportOf loserSide) =
      some (.lobbyReportResults, reportDocument loserSide) ∧
    st.server.clients.length = 2

instance (loserSide : Int32) : DecidablePred (TwoMembers loserSide) := fun _ =>
  inferInstanceAs (Decidable (_ ∧ _))

/-- The messages of two clients that join. -/
def twoJoin : List Action := [.beginStep] ++ Action.enter 1 "A" ++ Action.enter 2 "B"

lemma exists_twoMembers {loserSide : Int32}
    (h : (LTS.exec Phase.next (.idle (.new "" "" true 3 ⟨0, 99⟩)) [] twoJoin).any
      (fun r => decide (∃ st ∈ r.2.receiving?, TwoMembers loserSide st)) = true) :
    ∃ log st v, memberLTS.Run log (.receiving st, v) ∧ TwoMembers loserSide st := by
  obtain ⟨log, ph, hrun, st, hst, htwo⟩ := exists_run_of_exec twoJoin
    (p := fun _ ph => ∃ st ∈ ph.receiving?, TwoMembers loserSide st) h
  cases ph with
  | idle s => cases hst
  | receiving st' =>
    obtain rfl := Option.some.inj hst
    obtain ⟨log', v, hrun'⟩ := exists_memberRun hrun
    exact ⟨log', st', v, hrun', htwo⟩

/-- The second player's defeat is handled as in a queue. -/
theorem keepsQueue_two_members :
    ∃ log st v, memberLTS.Run log (.receiving st, v) ∧
      KeepsQueue IsPlayerSide st v (reportOf 1) 1 := by
  obtain ⟨log, st, v, hrun, hreq, hlength⟩ : ∃ log st v,
      memberLTS.Run log (.receiving st, v) ∧ TwoMembers 1 st :=
    exists_twoMembers (by decide +kernel)
  refine ⟨log, st, v, hrun, ?_⟩
  have hside : IsPlayerSide st.server 1 := ⟨.inr rfl, by rw [hlength]; decide⟩
  exact (keepsQueue_iff hrun hreq rfl).2.2 (.inl hside)

/-- **A report of the loser `-1` reaches in front of the vector.** -/
theorem not_keepsQueue : ¬ ∀ (log : List (Entry MemberState Action (List Output)))
    (st : StepState) (v : MemberVector) (m : Incoming) (doc : Document)
    (report : LobbyReportResults), memberLTS.Run log (.receiving st, v) →
      st.server.request m = some (.lobbyReportResults, doc) →
      doc.reportResults = some report →
      KeepsQueue IsMemberIndex st v m report.loserSide.toInt := by
  intro h
  obtain ⟨log, st, v, hrun, hreq, hlength⟩ : ∃ log st v,
      memberLTS.Run log (.receiving st, v) ∧ TwoMembers (-1) st :=
    exists_twoMembers (by decide +kernel)
  have hqueue := h log st v _ _ _ hrun hreq rfl
  have hnone : memberNext (.receiving st, v) (.message (reportOf (-1))) = none :=
    memberNext_of_report_none hreq rfl fun hindex => absurd hindex.1 (by decide)
  obtain ⟨out, st', v', hnext, -⟩ := hqueue
  rw [hnone] at hnext
  cases hnext

end Sf4e
