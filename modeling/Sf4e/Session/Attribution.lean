/-
# Whose selection, whose punch mark

The server keeps a character selection and a punch mark per side, and a side is a slot of the
member list.  The list shifts: a disconnect moves everybody behind the lost member up, and a
reported result sends the loser to the end.  A selection or a mark that stays where it is while
the list shifts then belongs to somebody else.

The file asks of every stored value where it came from.  `SelectedBy` and `PunchedBy` find the
sender in the log, `Attributed` says that the sender still sits in the slot, and
`attributed_iff` finds the steps that break this: a disconnect that shifts a slot with a mark or
a selection, and a result that shifts a slot with a mark, because `HandleResults` clears the
selections but not the marks.
-/
import Mathlib.Data.List.InsertIdx
import Sf4e.Session.ReadyBarrier
import Sf4e.Session.Roster

namespace Sf4e

open SessionProtocol SessionServer Trace

/-- What a message amounts to, for the values stored per side. -/
inductive SlotEvent
  /-- The player on this side selects a character. -/
  | select (i : Side) (chara : ConfirmedCharaConditions)
  /-- The player on this side reports a punched hole. -/
  | punch (i : Side)
  /-- A player resets the lobby. -/
  | reset
  /-- Somebody reports a loser. -/
  | results (loserIndex : ℤ)
  /-- Anything else. -/
  | other
deriving DecidableEq

/-- Is this the broadcast of `PUNCH_GO`? -/
def Output.isPunchGo : Output → Bool
  | .broadcast _ .punchGo => true
  | _ => false

namespace SessionServer

/-- What a message amounts to in this state, for the values stored per side. -/
def slotEvent (s : SessionServer) (m : Incoming) : SlotEvent :=
  match s.request m with
  | none => .other
  | some (type, doc) =>
    match type with
    | .preBattleSetChara =>
      match s.side m.conn, doc.setChara with
      | some i, some r => .select i r.chara
      | _, _ => .other
    | .punchReady => (s.side m.conn).elim .other .punch
    | .lobbyReset => (s.side m.conn).elim .other fun _ => .reset
    | .lobbyReportResults => doc.reportResults.elim .other fun r => .results r.loserSide.toInt
    | _ => .other

/-- The marks after a report from the player on side `i`: the second one clears both. -/
def punchedMarks (s : SessionServer) (i : Side) : Side → Bool :=
  let marks := Function.update s.punchReady i true
  if marks 0 && marks 1 then fun _ => false else marks

/-- A step that leaves the values stored per side alone and may fill empty slots. -/
structure KeepsSlots (s s' : SessionServer) : Prop where
  /-- The selections stay. -/
  chara : s'.matchData.chara = s.matchData.chara
  /-- The marks stay. -/
  punch : s'.punchReady = s.punchReady
  /-- Nobody leaves a slot. -/
  occupant : ∀ i w, s.occupant i = some w → s'.occupant i = some w

lemma KeepsSlots.refl (s : SessionServer) : KeepsSlots s s := ⟨rfl, rfl, fun _ _ h => h⟩

lemma onHello_keepsSlots (s : SessionServer) (conn : HSteamNetConnection) :
    KeepsSlots s (s.onHello conn).1 := ⟨rfl, rfl, fun _ _ h => h⟩

lemma onJoinReq_keepsSlots (s : SessionServer) (m : Incoming) (doc : Document)
    (cid : ConnectionID) : KeepsSlots s (s.onJoinReq m doc cid).1 := by
  have hquiet := s.onJoinReq_quiet m doc cid
  refine ⟨congrArg MatchSetup.chara hquiet.setup, ?_, hquiet.occupant⟩
  unfold onJoinReq
  split
  · rfl
  · rename_i request _
    obtain ⟨c, h⟩ | ⟨r, hr, h⟩ := s.registerToWait_cases m request cid
    · rw [h]
    · rw [h]
      cases r <;> rfl

lemma hostSetter_keepsSlots {ρ : Type} (s : SessionServer) (conn : HSteamNetConnection)
    (request : Option ρ) {set : ρ → SessionServer} (h : ∀ r, KeepsSlots s (set r)) :
    KeepsSlots s (s.hostSetter conn request set) := by
  unfold hostSetter
  split
  · exact .refl s
  · split
    · exact .refl s
    · exact ⟨(h _).chara, (h _).punch, (h _).occupant⟩

end SessionServer

namespace StepState

/-- Everything that handling a message can do to the values stored per side, by the kind of
the message. -/
inductive SlotHandled (st : StepState) (m : Incoming) :
    SlotEvent → StepState → List Output → Prop
  | select {i : Side} {c : ConfirmedCharaConditions} {s' : SessionServer}
      (hside : st.server.side m.conn = some i)
      (hchara : s'.matchData.chara = Function.update st.server.matchData.chara i c)
      (hpunch : s'.punchReady = st.server.punchReady) (hclients : s'.clients = st.server.clients) :
      SlotHandled st m (.select i c) { st with server := s' } []
  | punch {i : Side} {s' : SessionServer} {out : List Output}
      (hside : st.server.side m.conn = some i)
      (hchara : s'.matchData.chara = st.server.matchData.chara)
      (hpunch : s'.punchReady = st.server.punchedMarks i)
      (hclients : s'.clients = st.server.clients)
      (hgo : out.any Output.isPunchGo = true →
        ∀ j, Function.update st.server.punchReady i true j = true) :
      SlotHandled st m (.punch i) { st with server := s' } out
  | reset {i : Side} (hside : st.server.side m.conn = some i) :
      SlotHandled st m .reset { st with server := st.server.resetLobbyForRematch } []
  | results {l : ℤ} {s' : SessionServer} (hs' : st.server.handleResults l = some s') :
      SlotHandled st m (.results l) { st with server := { s' with dataDirty := true } } []
  | other {st' : StepState} {out : List Output} (hkeep : KeepsSlots st.server st'.server)
      (hgo : out.any Output.isPunchGo = false) : SlotHandled st m .other st' out

/-- A message that leaves everything as it is. -/
lemma SlotHandled.of_same {st : StepState} {m : Incoming} {out : List Output}
    (hgo : out.any Output.isPunchGo = false) : SlotHandled st m .other st out :=
  .other (.refl _) hgo

lemma any_isPunchGo_relayTo (s : SessionServer) (dest : ConnectionID) (doc : Document) :
    (s.relayTo dest doc).any Output.isPunchGo = false := by
  unfold relayTo
  split <;> rfl

lemma any_isPunchGo_onVerification (s : SessionServer) (conn : HSteamNetConnection)
    (doc : Document) : (s.onVerification conn doc).any Output.isPunchGo = false := by
  simp [onVerification, Output.isPunchGo]

lemma onPunchReady_slotHandled {st : StepState} {m : Incoming} {i : Side}
    (hside : st.server.side m.conn = some i) :
    SlotHandled st m (.punch i) { st with server := (st.server.onPunchReady m.conn).1 }
      (st.server.onPunchReady m.conn).2 := by
  simp only [onPunchReady, hside]
  split
  · rename_i hboth
    refine .punch hside rfl (by simp only [punchedMarks]; rw [if_pos hboth]) rfl fun _ => ?_
    rw [Fin.forall_fin_two]
    simpa using hboth
  · rename_i hboth
    exact .punch hside rfl (by simp only [punchedMarks]; rw [if_neg hboth]) rfl (by simp)

lemma onRegistered_slotHandled {st st' : StepState} {m : Incoming} {doc : Document}
    {type : MessageType} {cid : ConnectionID} {out : List Output}
    (hreq : st.server.request m = some (type, doc))
    (h : st.onRegistered m doc type cid = some (st', out)) :
    SlotHandled st m (st.server.slotEvent m) st' out := by
  simp only [slotEvent, hreq]
  cases type <;> simp only [onRegistered, Option.some.injEq, Prod.mk.injEq] at h ⊢
  case lobbyReportResults =>
    unfold onReportResults at h
    cases hr : doc.reportResults with
    | none =>
      simp only [hr, Option.map_some, Option.some.injEq, Prod.mk.injEq] at h
      obtain ⟨rfl, rfl⟩ := h
      exact .of_same rfl
    | some request =>
      simp only [hr, Option.map_map, Option.map_eq_some_iff, Function.comp_apply,
        Prod.mk.injEq] at h
      obtain ⟨s', hs', rfl, rfl⟩ := h
      exact .results hs'
  all_goals obtain ⟨rfl, rfl⟩ := h
  case preBattleSetChara =>
    unfold onSetChara
    cases hside : st.server.side m.conn with
    | none => exact .of_same rfl
    | some i =>
      cases hr : doc.setChara with
      | none => exact .of_same rfl
      | some r => exact .select hside rfl rfl rfl
  case punchReady =>
    cases hside : st.server.side m.conn with
    | none =>
      have hsame : st.server.onPunchReady m.conn = (st.server, []) := by
        simp [onPunchReady, hside]
      rw [hsame]
      exact .of_same rfl
    | some i => exact onPunchReady_slotHandled hside
  case lobbyReset =>
    unfold onReset
    cases hside : st.server.side m.conn with
    | none => exact .of_same rfl
    | some i => exact .reset hside
  -- from here on the slots stay as they are
  case sessionJoinReq =>
    refine .other (onJoinReq_keepsSlots _ _ _ _) ?_
    unfold onJoinReq
    split
    · rfl
    · split <;> rfl
  case preBattleSetEnv =>
    exact .other (hostSetter_keepsSlots _ _ _ fun _ => ⟨rfl, rfl, fun _ _ h => h⟩) rfl
  case preBattleSetStage =>
    exact .other (hostSetter_keepsSlots _ _ _ fun _ => ⟨rfl, rfl, fun _ _ h => h⟩) rfl
  case lobbySetSettings =>
    exact .other (hostSetter_keepsSlots _ _ _ fun _ => ⟨rfl, rfl, fun _ _ h => h⟩) rfl
  case battleLoaded =>
    exact .other ⟨rfl, rfl, (onBattleLoaded_quiet _ _).occupant⟩ rfl
  case lobbyReady =>
    unfold onReady
    split
    · exact .of_same rfl
    · exact .other ⟨rfl, rfl, fun _ _ h => h⟩ rfl
  case forward =>
    refine .of_same ?_
    unfold onForward
    split
    · rfl
    · exact any_isPunchGo_relayTo _ _ _
  case battleSnapshot => exact .of_same (any_isPunchGo_onVerification _ _ _)
  case battleHash => exact .of_same (any_isPunchGo_onVerification _ _ _)
  case battleGgpoFrame =>
    refine .of_same ?_
    unfold onGgpoFrame
    split
    · rfl
    · split
      · rfl
      · exact any_isPunchGo_relayTo _ _ _
  all_goals exact .of_same rfl

/-- **Inversion.** What handling a message does to the values stored per side is determined by
the kind of the message. -/
theorem onMessage_slotHandled {st st' : StepState} {m : Incoming} {out : List Output}
    (h : st.onMessage m = some (st', out)) :
    SlotHandled st m (st.server.slotEvent m) st' out := by
  rcases onMessage_request h with ⟨type, doc, cid, hreq, -, hreg⟩ | ⟨hreq, rfl, rfl⟩ |
    ⟨hreq, -, rfl, rfl⟩
  · exact onRegistered_slotHandled hreq hreg
  · rw [slotEvent, hreq]
    exact .of_same rfl
  · rw [slotEvent, hreq]
    exact .other (onHello_keepsSlots _ _) rfl

end StepState

/-! ## Who sent what is stored -/

/-- What an action amounts to, for the values stored per side. -/
def Phase.slotEvent : Phase → Action → SlotEvent
  | .receiving st, .message m => st.server.slotEvent m
  | .idle _, .resetLobbyForRematch => .reset
  | _, _ => .other

/-- The member `w` in slot `i` sends the message of the entry. -/
def SentFrom (i : Side) (w : Who) (e : ServerEntry) : Prop :=
  e.pre.server.occupant i = some w ∧ ∃ m ∈ e.act.message?, m.conn = w.1

/-- The member `w` in slot `i` selects a character. -/
def Selects (i : Side) (w : Who) (c : ConfirmedCharaConditions) (e : ServerEntry) : Prop :=
  e.pre.slotEvent e.act = .select i c ∧ SentFrom i w e

/-- The entry replaces or clears the selection of side `i`. -/
def TouchesSelection (i : Side) (e : ServerEntry) : Prop :=
  match e.pre.slotEvent e.act with
  | .select j _ => j = i
  | .results _ => True
  | .punch _ | .reset | .other => False

/-- The selection stored for side `i` is `c`, and `w` sent it. -/
def SelectedBy (log : List ServerEntry) (i : Side) (w : Who)
    (c : ConfirmedCharaConditions) : Prop :=
  Since (fun e => ¬ TouchesSelection i e) (Selects i w c) log

/-- The member `w` in slot `i` reports a punched hole. -/
def Punches (i : Side) (w : Who) (e : ServerEntry) : Prop :=
  e.pre.slotEvent e.act = .punch i ∧ SentFrom i w e

/-- The entry broadcasts `PUNCH_GO`. -/
def SendsPunchGo (e : ServerEntry) : Prop := e.out.any Output.isPunchGo = true

/-- The entry renews or clears the mark of side `i`. -/
def TouchesMark (i : Side) (e : ServerEntry) : Prop :=
  e.pre.slotEvent e.act = .punch i ∨ e.pre.slotEvent e.act = .reset ∨ SendsPunchGo e

/-- The mark stored for side `i` was sent by `w`, since the last reset and the last
`PUNCH_GO`. -/
def PunchedBy (log : List ServerEntry) (i : Side) (w : Who) : Prop :=
  Since (fun e => ¬ TouchesMark i e) (Punches i w) log

/-- The selection stored for side `i`, if any, was sent by the member in the slot. -/
structure SelectionAttributed (log : List ServerEntry) (i : Side) (s : SessionServer) :
    Prop where
  /-- The sender of the stored selection is in the slot. -/
  sender : ∀ w c, SelectedBy log i w c → s.matchData.chara i = c ∧ s.occupant i = some w
  /-- A selection other than the cleared one has a sender. -/
  sent : s.matchData.chara i ≠ .zero → ∃ w c, SelectedBy log i w c

/-- The mark stored for side `i`, if set, was sent by the member in the slot. -/
def MarkAttributed (log : List ServerEntry) (i : Side) (s : SessionServer) : Prop :=
  s.punchReady i = true → ∃ w, s.occupant i = some w ∧ PunchedBy log i w

/-- Everything that is stored for a side was sent by the member in the slot. -/
def Attributed (log : List ServerEntry) (s : SessionServer) : Prop :=
  ∀ i, SelectionAttributed log i s ∧ MarkAttributed log i s

/-- Every `PUNCH_GO` answers reports of both members that are in the slots then. -/
def PunchGoInOrder (log : List ServerEntry) : Prop :=
  ∀ newer e older, log = newer ++ e :: older → SendsPunchGo e →
    ∀ i, ∃ w, e.pre.server.occupant i = some w ∧ (Punches i w e ∨ PunchedBy older i w)

/-! ## Steps that shift the slots -/

/-- The step takes the occupant of slot `i` away: a disconnect at or before the slot, or a
result that sends somebody at or before the slot to the end. -/
def Shifts (i : Side) (ph : Phase) (a : Action) : Prop :=
  i.val < ph.server.clients.length ∧
    ((∃ info ∈ a.statusChange?, info.drops = true ∧
      ∃ k ∈ ph.server.clients.findIdx? (fun c => c.conn == info.conn), k ≤ i.val) ∨
    ∃ l : ℕ, ph.slotEvent a = .results l ∧ l ≤ i.val ∧ l + 1 < ph.server.clients.length)

/-- The step shifts a slot and leaves its mark or, for a disconnect, its selection behind. -/
def LeavesBehind (older : List ServerEntry) (e : ServerEntry) : Prop :=
  ∃ i, Shifts i e.pre e.act ∧ (e.pre.server.punchReady i = true ∨
    e.act.statusChange?.isSome = true ∧ ∃ w c, SelectedBy older i w c)

/-! ## The members behind the slots -/

/-- Who is in the lobby, in lobby order. -/
def SessionServer.whos (s : SessionServer) : List Who := s.clients.map SessionMember.who

lemma occupant_eq_getElem? (s : SessionServer) (i : Side) : s.occupant i = s.whos[i.val]? := by
  simp [SessionServer.occupant, SessionServer.player, SessionServer.whos]

lemma nodup_whos {s : SessionServer} (h : s.names.Nodup) : s.whos.Nodup := by
  refine List.Nodup.of_map Prod.snd ?_
  rw [SessionServer.whos, List.map_map]
  exact h

lemma length_whos (s : SessionServer) : s.whos.length = s.clients.length :=
  List.length_map _

/-- A reported result moves one member to the end and clears the match data, and nothing
else. -/
lemma handleResults_whos {s s' : SessionServer} {l : ℤ} (h : s.handleResults l = some s') :
    ∃ (n : ℕ) (w : Who), l = n ∧ s.whos[n]? = some w ∧
      s'.whos = (s.whos ++ [w]).eraseIdx n ∧ s'.matchData = .clear ∧
      s'.punchReady = s.punchReady := by
  unfold handleResults at h
  split_ifs at h with hneg
  split at h
  · exact absurd h (by simp)
  · rename_i loser hget
    obtain rfl := Option.some.inj h
    refine ⟨l.toNat, loser.who, by omega, by simp [whos, hget], ?_, rfl, rfl⟩
    simp only [whos, ← List.eraseIdx_map, List.map_append, List.map_cons, List.map_nil]

/-- A disconnect erases at most one member. -/
lemma statusChanged_whos (s : SessionServer) (info : StatusChange) :
    (s.onSteamNetConnectionStatusChanged info).whos = s.whos ∧
      (∀ k, info.drops = true → s.clients.findIdx? (fun c => c.conn == info.conn) ≠ some k) ∨
    ∃ k, info.drops = true ∧ s.clients.findIdx? (fun c => c.conn == info.conn) = some k ∧
      (s.onSteamNetConnectionStatusChanged info).whos = s.whos.eraseIdx k := by
  unfold onSteamNetConnectionStatusChanged
  split
  · rename_i hdrops
    split
    · rename_i hnone
      exact .inl ⟨rfl, fun k _ => by simp [hnone]⟩
    · rename_i k hk
      exact .inr ⟨k, hdrops, hk, by simp only [whos, ← List.eraseIdx_map]⟩
  · rename_i hdrops
    exact .inl ⟨rfl, fun k h => absurd h hdrops⟩

lemma punchReady_statusChanged (s : SessionServer) (info : StatusChange) :
    (s.onSteamNetConnectionStatusChanged info).punchReady = s.punchReady := by
  unfold onSteamNetConnectionStatusChanged
  split
  · split <;> rfl
  · rfl

/-- Sending a member to the end keeps a slot that is before it, and the last one. -/
lemma getElem?_rotate_of_keeps {ws : List Who} {w : Who} {n i : ℕ} (hw : ws[n]? = some w)
    (hi : i < ws.length) (hkeep : n ≤ i → ws.length ≤ n + 1) :
    ((ws ++ [w]).eraseIdx n)[i]? = ws[i]? := by
  rw [List.getElem?_eraseIdx]
  split
  · rw [List.getElem?_append_left hi]
  · have hlen := hkeep (by omega)
    obtain rfl : i = n := by omega
    rw [List.getElem?_append_right (by omega), hw, show i + 1 - ws.length = 0 by omega]
    rfl

/-- Sending a member to the end changes every slot from its own to the last one. -/
lemma getElem?_rotate_of_shifts {ws : List Who} {w : Who} {n i : ℕ} (hnodup : ws.Nodup)
    (hw : ws[n]? = some w) (hi : i < ws.length) (hle : n ≤ i) (hlen : n + 1 < ws.length) :
    ((ws ++ [w]).eraseIdx n)[i]? ≠ ws[i]? := by
  rw [List.getElem?_eraseIdx, if_neg (by omega)]
  by_cases hlast : i + 1 < ws.length
  · rw [List.getElem?_append_left hlast]
    intro heq
    have := (List.getElem?_inj hlast hnodup).1 heq
    omega
  · rw [List.getElem?_append_right (by omega), show i + 1 - ws.length = 0 by omega]
    intro heq
    have hsame : ws[i]? = ws[n]? := by rw [← heq, hw]; rfl
    have := (List.getElem?_inj hi hnodup).1 hsame
    omega

/-- **A step that shifts a slot changes who is in it.** -/
lemma occupant_ne_of_shifts {e : ServerEntry} (hs : serverLTS.Steps e)
    (hnodup : e.pre.server.names.Nodup) {i : Side} (h : Shifts i e.pre e.act) :
    e.post.server.occupant i ≠ e.pre.server.occupant i := by
  obtain ⟨pre, act, out, post⟩ := e
  obtain ⟨hlt, ⟨info, hinfo, hdrops, k, hk, hle⟩ | ⟨l, hev, hle, hlen⟩⟩ := h
  · obtain rfl : act = .statusChanged info := by
      cases act <;> simp_all [Action.statusChange?]
    cases pre with
    | receiving st => simp [Trace.LTS.Steps, serverLTS, Trace.LTS.ofFun, Phase.next] at hs
    | idle s =>
      obtain ⟨-, rfl⟩ := Prod.mk.inj (Option.some.inj hs)
      simp only [Phase.server_idle, occupant_eq_getElem?]
      rcases statusChanged_whos s info with ⟨-, hno⟩ | ⟨k', -, hk', hwhos⟩
      · exact absurd hk (hno k hdrops)
      · obtain rfl : k' = k := Option.some.inj (hk'.symm.trans hk)
        rw [hwhos, List.getElem?_eraseIdx, if_neg (by omega)]
        intro heq
        have hi : i.val < s.whos.length := by rw [length_whos]; exact hlt
        have := (List.getElem?_inj hi (nodup_whos hnodup)).1 heq.symm
        omega
  · cases pre with
    | idle s => cases act <;> simp [Phase.slotEvent] at hev
    | receiving st =>
      cases act <;> simp only [Phase.slotEvent, reduceCtorEq] at hev
      case message m =>
        obtain ⟨⟨st', out'⟩, hm, heq⟩ := Option.map_eq_some_iff.1 hs
        obtain ⟨-, rfl⟩ := Prod.mk.inj heq
        have hh := StepState.onMessage_slotHandled hm
        rw [hev] at hh
        cases hh with
        | results hs' =>
          rename_i s'
          obtain ⟨n, w, hn, hw, hwhos, -⟩ := handleResults_whos hs'
          obtain rfl : l = n := by exact_mod_cast hn
          simp only [Phase.server_receiving, occupant_eq_getElem?] at hlt hlen ⊢
          have hwhos' : ({ s' with dataDirty := true } : SessionServer).whos = s'.whos := rfl
          rw [hwhos', hwhos]
          rw [← length_whos] at hlt hlen
          exact getElem?_rotate_of_shifts (nodup_whos hnodup) hw hlt hle hlen

/-- A step that does not shift a slot leaves its occupant in it. -/
lemma occupant_of_not_shifts {e : ServerEntry} (hs : serverLTS.Steps e) {i : Side} {w : Who}
    (h : ¬ Shifts i e.pre e.act) (hw : e.pre.server.occupant i = some w) :
    e.post.server.occupant i = some w := by
  obtain ⟨pre, act, out, post⟩ := e
  have hlt : i.val < pre.server.clients.length := by
    rw [occupant_eq_getElem?] at hw
    rw [← length_whos]
    exact (List.getElem?_eq_some_iff.1 hw).1
  cases pre with
  | idle s =>
    cases act <;>
      simp only [Trace.LTS.Steps, serverLTS, Trace.LTS.ofFun, Phase.next, Option.some.injEq,
        Prod.mk.injEq, reduceCtorEq] at hs
    all_goals obtain ⟨-, rfl⟩ := hs
    case statusChanged info =>
      refine occupant_of_leavesNoMark (fun hdrops k hk => ?_) hw
      by_contra hle
      exact h ⟨hlt, .inl ⟨info, rfl, hdrops, k, hk, not_lt.1 hle⟩⟩
    case resetLobbyForRematch => exact (occupant_resetLobbyForRematch s i).trans hw
    all_goals exact hw
  | receiving st =>
    cases act <;>
      simp only [Trace.LTS.Steps, serverLTS, Trace.LTS.ofFun, Phase.next, Option.some.injEq,
        Prod.mk.injEq, reduceCtorEq] at hs
    case message m =>
      obtain ⟨⟨st', out'⟩, hm, heq⟩ := Option.map_eq_some_iff.1 hs
      obtain ⟨-, rfl⟩ := Prod.mk.inj heq
      have hh := StepState.onMessage_slotHandled hm
      generalize hev : st.server.slotEvent m = ev at hh
      cases hh with
      | select hside hchara hpunch hclients | punch hside hchara hpunch hclients =>
        simpa [occupant, player, hclients] using hw
      | reset => exact (occupant_resetLobbyForRematch st.server i).trans hw
      | results hs' =>
        rename_i l s'
        obtain ⟨n, w', rfl, hw', hwhos, -⟩ := handleResults_whos hs'
        have hlt' : i.val < st.server.whos.length := by rw [length_whos]; exact hlt
        -- the loser is behind the slot, or at the end of the queue already
        have hkeep : n ≤ i.val → st.server.whos.length ≤ n + 1 := by
          intro hle
          by_contra hlen
          rw [length_whos, not_le] at hlen
          exact h ⟨hlt, .inr ⟨n, hev, hle, hlen⟩⟩
        have hocc : s'.occupant i = some w := by
          rw [occupant_eq_getElem?, hwhos, getElem?_rotate_of_keeps hw' hlt' hkeep,
            ← occupant_eq_getElem?]
          exact hw
        exact hocc
      | other hkeep => exact hkeep.occupant i w hw
    all_goals
      obtain ⟨-, rfl⟩ := hs
      exact hw

/-! ## Step lemmas -/

lemma touchesSelection_of_selects {i : Side} {w : Who} {c : ConfirmedCharaConditions}
    {e : ServerEntry} (h : Selects i w c e) : TouchesSelection i e := by
  simp [TouchesSelection, h.1]

/-- A step that does not touch the selection of a slot, and does not take its sender away. -/
lemma SelectionAttributed.keep {log : List ServerEntry} {e : ServerEntry} {i : Side}
    {s s' : SessionServer} (h : SelectionAttributed log i s) (hnot : ¬ TouchesSelection i e)
    (hchara : s'.matchData.chara i = s.matchData.chara i)
    (hocc : ∀ w c, SelectedBy log i w c → s.occupant i = some w → s'.occupant i = some w) :
    SelectionAttributed (e :: log) i s' := by
  constructor
  · rintro w c (hsel | ⟨-, hsel⟩)
    · exact absurd (touchesSelection_of_selects hsel) hnot
    · obtain ⟨hc, hw⟩ := h.sender w c hsel
      exact ⟨hchara.trans hc, hocc w c hsel hw⟩
  · intro hne
    rw [hchara] at hne
    obtain ⟨w, c, hsel⟩ := h.sent hne
    exact ⟨w, c, .inr ⟨hnot, hsel⟩⟩

/-- A step that does not touch the mark of a slot, and does not take its sender away. -/
lemma MarkAttributed.keep {log : List ServerEntry} {e : ServerEntry} {i : Side}
    {s s' : SessionServer} (h : MarkAttributed log i s) (hnot : ¬ TouchesMark i e)
    (hpunch : s'.punchReady i = true → s.punchReady i = true)
    (hocc : ∀ w, s.punchReady i = true → s.occupant i = some w → s'.occupant i = some w) :
    MarkAttributed (e :: log) i s' := by
  intro hmark
  obtain ⟨w, hw, hsince⟩ := h (hpunch hmark)
  exact ⟨w, hocc w (hpunch hmark) hw, .inr ⟨hnot, hsince⟩⟩

/-- What one step stores for the two sides and announces of it. -/
inductive SlotMoves (e : ServerEntry) : Prop
  | select {i : Side} {c : ConfirmedCharaConditions} {m : Incoming}
      (hev : e.pre.slotEvent e.act = .select i c) (hm : m ∈ e.act.message?)
      (hside : e.pre.server.side m.conn = some i)
      (hchara : e.post.server.matchData.chara =
        Function.update e.pre.server.matchData.chara i c)
      (hpunch : e.post.server.punchReady = e.pre.server.punchReady) (hgo : ¬ SendsPunchGo e)
  | punch {i : Side} {m : Incoming} (hev : e.pre.slotEvent e.act = .punch i)
      (hm : m ∈ e.act.message?) (hside : e.pre.server.side m.conn = some i)
      (hchara : e.post.server.matchData.chara = e.pre.server.matchData.chara)
      (hpunch : e.post.server.punchReady = e.pre.server.punchedMarks i)
      (hgo : SendsPunchGo e → ∀ j, Function.update e.pre.server.punchReady i true j = true)
  | reset (hev : e.pre.slotEvent e.act = .reset)
      (hchara : e.post.server.matchData.chara = e.pre.server.matchData.chara)
      (hpunch : e.post.server.punchReady = fun _ => false) (hgo : ¬ SendsPunchGo e)
  | results {l : ℤ} (hev : e.pre.slotEvent e.act = .results l)
      (hchara : e.post.server.matchData.chara = MatchData.clear.chara)
      (hpunch : e.post.server.punchReady = e.pre.server.punchReady) (hgo : ¬ SendsPunchGo e)
  | other (hev : e.pre.slotEvent e.act = .other)
      (hchara : e.post.server.matchData.chara = e.pre.server.matchData.chara)
      (hpunch : e.post.server.punchReady = e.pre.server.punchReady) (hgo : ¬ SendsPunchGo e)

lemma any_isPunchGo_broadcasts (st : StepState) :
    st.broadcasts.any Output.isPunchGo = false := by
  unfold StepState.broadcasts
  split_ifs <;> rfl

/-- **Inversion of a step**, for the values stored per side. -/
lemma slotMoves_of_steps {e : ServerEntry} (hs : serverLTS.Steps e) : SlotMoves e := by
  obtain ⟨pre, act, out, post⟩ := e
  cases pre with
  | idle s =>
    cases act <;>
      simp only [Trace.LTS.Steps, serverLTS, Trace.LTS.ofFun, Phase.next, Option.some.injEq,
        Prod.mk.injEq, reduceCtorEq] at hs
    all_goals obtain ⟨rfl, rfl⟩ := hs
    case resetLobbyForRematch => exact .reset rfl rfl rfl (by simp [SendsPunchGo])
    case statusChanged info =>
      refine .other rfl ?_ ?_ (by simp [SendsPunchGo])
      · simp [readyMessageNum_statusChanged]
      · exact punchReady_statusChanged s info
    all_goals exact .other rfl rfl rfl (by simp [SendsPunchGo])
  | receiving st =>
    cases act <;>
      simp only [Trace.LTS.Steps, serverLTS, Trace.LTS.ofFun, Phase.next, Option.some.injEq,
        Prod.mk.injEq, reduceCtorEq] at hs
    case message m =>
      obtain ⟨⟨st', out'⟩, hm, heq⟩ := Option.map_eq_some_iff.1 hs
      obtain ⟨rfl, rfl⟩ := Prod.mk.inj heq
      have hh := StepState.onMessage_slotHandled hm
      generalize hev : st.server.slotEvent m = ev at hh
      cases hh with
      | select hside hchara hpunch =>
        exact .select hev rfl hside hchara hpunch (by simp [SendsPunchGo])
      | punch hside hchara hpunch _ hgo => exact .punch hev rfl hside hchara hpunch hgo
      | reset => exact .reset hev rfl rfl (by simp [SendsPunchGo])
      | results hs' =>
        rename_i l s'
        obtain ⟨-, -, -, -, -, hdata, hpunch⟩ := handleResults_whos hs'
        exact .results hev (congrArg MatchData.chara hdata) hpunch (by simp [SendsPunchGo])
      | other hkeep hgo => exact .other hev hkeep.chara hkeep.punch (by simp [SendsPunchGo, hgo])
    all_goals obtain ⟨rfl, rfl⟩ := hs
    case nullMessage => exact .other rfl rfl rfl (by simp [SendsPunchGo])
    case endStep =>
      exact .other rfl rfl rfl (by simp [SendsPunchGo, any_isPunchGo_broadcasts])

/-- The player on a side is in its slot, and the message is theirs. -/
lemma exists_sentFrom {e : ServerEntry} {m : Incoming} {i : Side} (hm : m ∈ e.act.message?)
    (hside : e.pre.server.side m.conn = some i) : ∃ w, SentFrom i w e := by
  obtain ⟨name, hw⟩ := exists_occupant_of_side hside
  exact ⟨(m.conn, name), hw, m, hm, rfl⟩

/-- **Step lemma for the selections.** -/
lemma SelectionAttributed.step {log : List ServerEntry} {e : ServerEntry} {i : Side}
    (h : SelectionAttributed log i e.pre.server) (hs : serverLTS.Steps e)
    (hok : ¬ LeavesBehind log e) : SelectionAttributed (e :: log) i e.post.server := by
  have hkeep : ¬ TouchesSelection i e →
      e.post.server.matchData.chara i = e.pre.server.matchData.chara i →
      SelectionAttributed (e :: log) i e.post.server := by
    intro hnot hchara
    refine h.keep hnot hchara fun w c hsel hw => occupant_of_not_shifts hs (fun hsh => ?_) hw
    -- only a disconnect shifts a slot and keeps its selection
    rcases hsh.2 with ⟨info, hinfo, -⟩ | ⟨l, hl, -⟩
    · exact hok ⟨i, hsh, .inr ⟨by rw [hinfo]; rfl, w, c, hsel⟩⟩
    · exact hnot (by simp [TouchesSelection, hl])
  cases slotMoves_of_steps hs with
  | select hev hm hside hchara hpunch hgo =>
    rename_i j c m
    by_cases hji : j = i
    · subst hji
      obtain ⟨w, hw⟩ := exists_sentFrom hm hside
      have hchara' : e.post.server.matchData.chara j = c := by simp [hchara]
      constructor
      · rintro w' c' (⟨hev', hw'⟩ | ⟨hnot, -⟩)
        · obtain rfl : c = c' := by simpa using hev.symm.trans hev'
          refine ⟨hchara', occupant_of_not_shifts hs (fun hsh => ?_) hw'.1⟩
          rcases hsh.2 with ⟨info, hinfo, -⟩ | ⟨l, hl, -⟩
          · cases hact : e.act <;> simp_all [Action.message?, Action.statusChange?]
          · simp [hl] at hev
        · exact absurd (by simp [TouchesSelection, hev]) hnot
      · exact fun _ => ⟨w, c, .inl ⟨hev, hw⟩⟩
    · refine hkeep (by simpa [TouchesSelection, hev] using hji) ?_
      rw [hchara, Function.update_of_ne (Ne.symm hji)]
  | punch hev _ _ hchara | reset hev hchara | other hev hchara =>
    exact hkeep (by simp [TouchesSelection, hev]) (by rw [hchara])
  | results hev hchara =>
    -- a result clears the selection, and with it the question whose it was
    constructor
    · rintro w c (⟨hev', -⟩ | ⟨hnot, -⟩)
      · simp [hev] at hev'
      · exact absurd (by simp [TouchesSelection, hev]) hnot
    · exact fun hne => absurd (by rw [hchara]; rfl) hne

/-- **Step lemma for the marks.** -/
lemma MarkAttributed.step {log : List ServerEntry} {e : ServerEntry} {i : Side}
    (h : MarkAttributed log i e.pre.server) (hs : serverLTS.Steps e)
    (hok : ¬ LeavesBehind log e) : MarkAttributed (e :: log) i e.post.server := by
  have hkeep : ¬ TouchesMark i e →
      (e.post.server.punchReady i = true → e.pre.server.punchReady i = true) →
      MarkAttributed (e :: log) i e.post.server := by
    intro hnot hpunch
    exact h.keep hnot hpunch fun w hmark hw =>
      occupant_of_not_shifts hs (fun hsh => hok ⟨i, hsh, .inl hmark⟩) hw
  cases slotMoves_of_steps hs with
  | select hev _ _ _ hpunch hgo | results hev _ hpunch hgo | other hev _ hpunch hgo =>
    exact hkeep (by simp [TouchesMark, hev, hgo]) (by rw [hpunch]; exact id)
  | reset hev _ hpunch => exact fun hmark => absurd hmark (by simp [hpunch])
  | punch hev hm hside hchara hpunch hgo =>
    rename_i j m
    intro hmark
    -- the mark survives, so this was not the second report
    have hboth : ¬ ∀ k, Function.update e.pre.server.punchReady j true k = true := by
      intro hall
      simp [hpunch, punchedMarks, hall] at hmark
    have hnotgo : ¬ SendsPunchGo e := fun hsend => hboth (hgo hsend)
    by_cases hji : j = i
    · subst hji
      obtain ⟨w, hw⟩ := exists_sentFrom hm hside
      refine ⟨w, occupant_of_not_shifts hs (fun hsh => ?_) hw.1, .inl ⟨hev, hw⟩⟩
      rcases hsh.2 with ⟨info, hinfo, -⟩ | ⟨l, hl, -⟩
      · cases hact : e.act <;> simp_all [Action.message?, Action.statusChange?]
      · simp [hl] at hev
    · refine hkeep ?_ ?_ hmark
      · simpa [TouchesMark, hev, hnotgo] using hji
      · intro hmark
        rw [Fin.forall_fin_two, ← Bool.and_eq_true] at hboth
        rwa [hpunch, punchedMarks, if_neg hboth, Function.update_of_ne (Ne.symm hji)] at hmark

/-! ## Runs -/

lemma attributed_of_run {log : List ServerEntry} {ph : Phase} (h : serverLTS.Run log ph)
    (hok : ∀ newer e older, log = newer ++ e :: older → ¬ LeavesBehind older e) :
    Attributed log ph.server := by
  revert hok
  refine h.invariant_of_step (fun log ph =>
    (∀ newer e older, log = newer ++ e :: older → ¬ LeavesBehind older e) →
      Attributed log ph.server) ?_ ?_
  · rintro s ⟨_, _, _, _, _, rfl⟩ - i
    exact ⟨⟨fun _ _ hsel => absurd hsel since_nil, fun hne => absurd rfl hne⟩,
      fun hmark => absurd hmark (by simp [SessionServer.new])⟩
  · intro log e ih hs hok i
    have hold : Attributed log e.pre.server :=
      ih fun newer e' older hlog => hok (e :: newer) e' older (by rw [hlog]; rfl)
    have he : ¬ LeavesBehind log e := hok [] e log rfl
    exact ⟨(hold i).1.step hs he, (hold i).2.step hs he⟩

/-- Where the marks are attributed, `PUNCH_GO` is in order. -/
lemma punchGo_of_attributed {older : List ServerEntry} {e : ServerEntry}
    (h : Attributed older e.pre.server) (hs : serverLTS.Steps e) (hgo : SendsPunchGo e)
    (i : Side) :
    ∃ w, e.pre.server.occupant i = some w ∧ (Punches i w e ∨ PunchedBy older i w) := by
  cases slotMoves_of_steps hs with
  | select _ _ _ _ _ hnot | reset _ _ _ hnot | results _ _ _ hnot | other _ _ _ hnot =>
    exact absurd hgo hnot
  | punch hev hm hside hchara hpunch hall =>
    rename_i j m
    by_cases hji : j = i
    · subst hji
      obtain ⟨w, hw⟩ := exists_sentFrom hm hside
      exact ⟨w, hw.1, .inl ⟨hev, hw⟩⟩
    · have hmark : e.pre.server.punchReady i = true := by
        simpa [Function.update_of_ne (Ne.symm hji)] using hall hgo i
      obtain ⟨w, hw, hsince⟩ := (h i).2 hmark
      exact ⟨w, hw, .inr hsince⟩

/-- A step that leaves a value behind attributes it to the wrong member. -/
lemma not_attributed_of_leavesBehind {older : List ServerEntry} {e : ServerEntry}
    (h : Attributed older e.pre.server) (hs : serverLTS.Steps e)
    (hnodup : e.pre.server.names.Nodup) (hleave : LeavesBehind older e) :
    ¬ Attributed (e :: older) e.post.server := by
  intro h'
  obtain ⟨i, hshift, hvalue⟩ := hleave
  have hne := occupant_ne_of_shifts hs hnodup hshift
  have hquiet : (∀ j, e.pre.slotEvent e.act ≠ .punch j) ∧ e.pre.slotEvent e.act ≠ .reset := by
    rcases hshift.2 with ⟨info, hinfo, -⟩ | ⟨l, hl, -⟩
    · have hact : e.act = .statusChanged info := by
        cases hact : e.act <;> simp_all [Action.statusChange?]
      rw [hact]
      cases e.pre <;> simp [Phase.slotEvent]
    · simp [hl]
  rcases hvalue with hmark | ⟨hdisc, w, c, hsel⟩
  · -- the mark stays, so both occupants would have sent it
    have hkept : e.post.server.punchReady = e.pre.server.punchReady ∧ ¬ SendsPunchGo e := by
      cases slotMoves_of_steps hs with
      | select _ _ _ _ hpunch hgo | results _ _ hpunch hgo | other _ _ hpunch hgo =>
        exact ⟨hpunch, hgo⟩
      | punch hev => exact absurd hev (hquiet.1 _)
      | reset hev => exact absurd hev hquiet.2
    obtain ⟨w, hw, hsince⟩ := (h i).2 hmark
    obtain ⟨w', hw', hsince'⟩ := (h' i).2 (by rw [hkept.1]; exact hmark)
    rcases hsince' with htrig | ⟨-, hsince'⟩
    · exact hquiet.1 i htrig.1
    · have hsame : w = w' := hsince.same hsince' (fun e' ht hk => hk (.inl ht.1))
        (fun e' ht hk => hk (.inl ht.1)) fun e' ht ht' =>
          Option.some.inj (ht.2.1.symm.trans ht'.2.1)
      exact hne (by rw [hw, hw', hsame])
  · -- a disconnect does not touch the selection, so its sender would still be in the slot
    have hnot : ¬ TouchesSelection i e := by
      have hact : ∃ info, e.act = .statusChanged info := by
        cases hact : e.act <;> simp_all [Action.statusChange?]
      obtain ⟨info, hact⟩ := hact
      rw [TouchesSelection, hact]
      cases e.pre <;> simp [Phase.slotEvent]
    have hw := ((h i).1.sender w c hsel).2
    have hw' := ((h' i).1.sender w c (.inr ⟨hnot, hsel⟩)).2
    exact hne (by rw [hw, hw'])

/-- **Attribution per side.** In every state of a run the stored selections and marks are
those of the members in the slots, and every `PUNCH_GO` is in order, exactly when no step of
the run shifts a slot and leaves its mark or, for a disconnect, its selection behind. -/
theorem attributed_iff {log : List ServerEntry} {ph : Phase} (h : serverLTS.Run log ph) :
    ((∀ newer older t, log = newer ++ older → serverLTS.Run older t →
        Attributed older t.server) ∧ PunchGoInOrder log) ↔
      ∀ newer e older, log = newer ++ e :: older → ¬ LeavesBehind older e := by
  constructor
  · rintro ⟨hall, -⟩ newer e older rfl hleave
    obtain ⟨hrun, hstep, -⟩ := h.at_entry
    have hpre : Attributed older e.pre.server :=
      hall (newer ++ [e]) older e.pre (by simp) hrun
    have hpost : Attributed (e :: older) e.post.server :=
      hall newer (e :: older) e.post rfl (hrun.snoc hstep)
    exact not_attributed_of_leavesBehind hpre hstep (nodup_names_of_run hrun) hleave hpost
  · intro hok
    have hpart : ∀ newer older t, log = newer ++ older → serverLTS.Run older t →
        Attributed older t.server := by
      rintro newer older t rfl hrun
      exact attributed_of_run hrun fun newer' e older' hold =>
        hok (newer ++ newer') e older' (by rw [hold, List.append_assoc])
    refine ⟨hpart, ?_⟩
    rintro newer e older rfl hgo i
    obtain ⟨hrun, hstep, -⟩ := h.at_entry
    exact punchGo_of_attributed (hpart (newer ++ [e]) older e.pre (by simp) hrun) hstep hgo i

/-- A run of resets, selections and punch reports only shifts nothing. -/
lemma not_leavesBehind_of_still {older : List ServerEntry} {e : ServerEntry}
    (hdisc : e.act.statusChange? = none) (hres : ∀ l, e.pre.slotEvent e.act ≠ .results l) :
    ¬ LeavesBehind older e := by
  rintro ⟨i, ⟨-, ⟨info, hinfo, -⟩ | ⟨l, hl, -⟩⟩, -⟩
  · rw [hdisc] at hinfo
    exact absurd hinfo (by simp)
  · exact hres l hl

instance (i : Side) (w : Who) : DecidablePred (SentFrom i w) := fun e =>
  inferInstanceAs (Decidable (e.pre.server.occupant i = some w ∧
    ∃ m ∈ e.act.message?, m.conn = w.1))

instance (i : Side) (w : Who) (c : ConfirmedCharaConditions) : DecidablePred (Selects i w c) :=
  fun e => inferInstanceAs (Decidable (e.pre.slotEvent e.act = .select i c ∧ SentFrom i w e))

instance (i : Side) : DecidablePred (TouchesSelection i) := fun e => by
  unfold TouchesSelection
  split <;> infer_instance

instance (i : Side) (w : Who) : DecidablePred (Punches i w) := fun e =>
  inferInstanceAs (Decidable (e.pre.slotEvent e.act = .punch i ∧ SentFrom i w e))

instance : DecidablePred SendsPunchGo := fun e =>
  inferInstanceAs (Decidable (e.out.any Output.isPunchGo = true))

/-- Is the event a reported result? -/
def SlotEvent.isResults : SlotEvent → Bool
  | .results _ => true
  | _ => false

/-- Two members join, both report a punched hole, and `PUNCH_GO` goes out in order. -/
theorem attributed_two_members :
    ∃ log ph, serverLTS.Run log ph ∧ (∃ e ∈ log, SendsPunchGo e) ∧ PunchGoInOrder log := by
  obtain ⟨log, ph, hrun, hgo, hstill⟩ := exists_run_of_exec
    ([.beginStep] ++ Action.enter 1 "A" ++ Action.enter 2 "B" ++
      [.message (.bare 1 3 .punchReady), .message (.bare 2 3 .punchReady), .endStep])
    (p := fun log _ => (∃ e ∈ log, SendsPunchGo e) ∧ ∀ e ∈ log,
      e.act.statusChange? = none ∧ (e.pre.slotEvent e.act).isResults = false)
    (by decide +kernel)
  refine ⟨log, ph, hrun, hgo, ((attributed_iff hrun).2 fun newer e older hlog => ?_).2⟩
  obtain ⟨hdisc, hres⟩ := hstill e (by simp [hlog])
  exact not_leavesBehind_of_still hdisc fun l hl => by simp [hl, SlotEvent.isResults] at hres

/-- **Disconnects and rotations break the attribution.** `A`, `B` and `C` join.  When `B` has
selected a character and `A` disconnects, the selection of `B` is stored for side 1, where
`C` is now.  When `A` has reported a punched hole and then lost, the mark of `A` is stored for
side 0, where `B` is now, and the report of `C` alone makes `PUNCH_GO` go out. -/
theorem not_attributed :
    (¬ ∀ log ph, serverLTS.Run log ph → Attributed log ph.server) ∧
      ¬ ∀ log ph, serverLTS.Run log ph → PunchGoInOrder log := by
  constructor
  · intro h
    obtain ⟨log, ph, hrun, hsel, hocc⟩ := exists_run_of_exec
      ([.beginStep] ++ Action.enter 1 "A" ++ Action.enter 2 "B" ++ Action.enter 3 "C" ++
        [.message ⟨2, 3, "", true, some
          { Document.bare .preBattleSetChara with setChara := some ⟨⟨5, 0, 0, 0, 0, 0, 0, 0, 0⟩⟩ }⟩,
          .endStep, .statusChanged ⟨1, .closedByPeer, .connected⟩])
      (p := fun log ph => Since (fun e => ¬ TouchesSelection 1 e)
        (Selects 1 (2, "B") ⟨5, 0, 0, 0, 0, 0, 0, 0, 0⟩) log ∧
          ph.server.occupant 1 = some (3, "C")) (by decide +kernel)
    have hw := ((h log ph hrun 1).1.sender (2, "B") _ hsel).2
    rw [hocc] at hw
    exact absurd hw (by decide)
  · intro h
    obtain ⟨log, ph, hrun, e, he, hgo, hocc, hnever⟩ := exists_run_of_exec
      ([.beginStep] ++ Action.enter 1 "A" ++ Action.enter 2 "B" ++ Action.enter 3 "C" ++
        [.message (.bare 1 3 .punchReady),
          .message ⟨1, 4, "", true, some
            { Document.bare .lobbyReportResults with reportResults := some ⟨0⟩ }⟩,
          .message (.bare 3 3 .punchReady)])
      (p := fun log _ => ∃ e ∈ log.head?, SendsPunchGo e ∧
        e.pre.server.occupant 0 = some (2, "B") ∧ ∀ e' ∈ log, ¬ Punches 0 (2, "B") e')
      (by decide +kernel)
    have hlog : log = [] ++ e :: log.tail := List.eq_cons_of_mem_head? he
    obtain ⟨w, hw, hsent⟩ := h log ph hrun [] e log.tail hlog hgo 0
    obtain rfl : (2, "B") = w := Option.some.inj (hocc.symm.trans hw)
    rcases hsent with hsent | hsince
    · exact hnever e (by rw [hlog]; simp) hsent
    · obtain ⟨e', he', hsent⟩ := hsince.exists_trig
      exact hnever e' (List.mem_of_mem_tail he') hsent

end Sf4e
