/-
# The pair of a match stays frozen

The two ready numbers that go out with `LOBBY_ALLREADY` are the key under which both players
register with the UDP relay, each at its own time.  So the pair must not change while the
match is on.  The server does not refuse the ready of a player who is ready already, though,
and such a repeated ready changes the pair and calls the players to another match.

`frozen_of_notRepeated` shows that nothing else does: without a repeated ready the pair is
frozen until the next clearing, in the server, in every update it sends and in every
registration of a client that has received the broadcast.
-/
import Sf4e.Match.Client

namespace Sf4e

open SessionProtocol SessionServer Trace

/-! ## What a step does to the ready numbers -/

/-- A step clears the ready numbers, sets one of them, or leaves them. -/
lemma readyMessageNum_cases {e : ServerEntry} (hstep : serverLTS.Steps e) :
    (Clears e ∧ e.post.server.matchData.readyMessageNum = MatchData.noneReady) ∨
      (¬ Clears e ∧ ∃ i, e.pre.event e.act = .ready i ∧ ∃ m ∈ e.act.message?,
        e.post.server.matchData.readyMessageNum =
          Function.update e.pre.server.matchData.readyMessageNum i (m.messageNumber : ℤ)) ∨
      (¬ Clears e ∧ (∀ i, e.pre.event e.act ≠ .ready i) ∧
        e.post.server.matchData.readyMessageNum = e.pre.server.matchData.readyMessageNum) := by
  obtain ⟨pre, act, out, post⟩ := e
  have hmove := moves_of_steps hstep
  cases hmove with
  | beginStep | pollError | nullMessage | endStep =>
    exact Or.inr (Or.inr ⟨by simp [Clears, Phase.clears, Phase.event, Event.clears],
      by simp [Phase.event], rfl⟩)
  | resetLobbyForRematch => exact Or.inl ⟨rfl, rfl⟩
  | statusChanged =>
    exact Or.inr (Or.inr ⟨by simp [Clears, Phase.clears, Phase.event, Event.clears],
      by simp [Phase.event], by simp [readyMessageNum_statusChanged]⟩)
  | message hev hids hh =>
    cases hh with
    | ready hside =>
      exact Or.inr (Or.inl ⟨by simp [Clears, Phase.clears, Phase.event, hev, Event.clears], _,
        hev, _, rfl, rfl⟩)
    | reset hside =>
      exact Or.inl ⟨by simp [Clears, Phase.clears, Phase.event, hev, Event.clears], rfl⟩
    | results hs' =>
      have hnone := readyMessageNum_of_handleResults hs'
      exact Or.inl ⟨by simp [Clears, Phase.clears, Phase.event, hev, Event.clears], hnone⟩
    | setter hs' =>
      exact Or.inr (Or.inr ⟨by simp [Clears, Phase.clears, Phase.event, hev, Event.clears],
        by simp [Phase.event, hev], hs'.ready⟩)
    | other hquiet hlatch hout =>
      exact Or.inr (Or.inr ⟨by simp [Clears, Phase.clears, Phase.event, hev, Event.clears],
        by simp [Phase.event, hev], hquiet.ready⟩)

/-- Only a ready latches `LOBBY_ALLREADY`. -/
lemma latched_of_steps {e : ServerEntry} (hstep : serverLTS.Steps e)
    (hready : ∀ i, e.pre.event e.act ≠ .ready i) (h : e.pre.latched = false) :
    e.post.latched = false := by
  obtain ⟨pre, act, out, post⟩ := e
  have hmove := moves_of_steps hstep
  dsimp only at h hready
  cases hmove with
  | beginStep | pollError | statusChanged | resetLobbyForRematch | nullMessage | endStep => rfl
  | message hev hids hh =>
    cases hh with
    | ready hside => exact absurd hev (hready _)
    | reset hside | results hs' | setter hs' => exact h
    | other hquiet hlatch hout => exact hlatch.trans h

/-! ## A frozen pair -/

/-- The pair of ready numbers that a broadcast goes out with. -/
def pairOf (e : ServerEntry) : Side → ℤ := e.pre.server.matchData.readyMessageNum

/-- A player gets ready although both players are, outside the `Step` that noticed so. -/
def RepeatsReady (e : ServerEntry) : Prop :=
  e.pre.latched = false ∧ e.pre.server.matchData.isAllReady = true ∧
    ∃ i, e.pre.event e.act = .ready i

instance : DecidablePred RepeatsReady := fun e =>
  inferInstanceAs (Decidable (e.pre.latched = false ∧ e.pre.server.matchData.isAllReady = true ∧
    ∃ i, e.pre.event e.act = .ready i))

/-- After the broadcast `e`, in the entries `newer`, the pair is frozen. -/
structure Frozen (newer : List ServerEntry) (e : ServerEntry) (older : List ServerEntry) :
    Prop where
  /-- There is no second broadcast. -/
  once : ∀ e' ∈ newer, ¬ BroadcastsAllReady e'
  /-- The server keeps the pair. -/
  kept : ∀ e' ∈ newer, e'.post.server.matchData.readyMessageNum = pairOf e
  /-- Every data update carries the pair. -/
  sent : ∀ conn, ∀ u ∈ updates (received conn (newer ++ [e])), u.2.readyMessageNum = pairOf e
  /-- A client that has received the broadcast registers with the relay under the pair. -/
  registered : ∀ conn ∈ e.pre.server.conns, ∀ log c, clientLTS.Run log c →
    delivered log <+: received conn (newer ++ e :: older) →
    ∀ later a earlier, log = later ++ a :: earlier →
      allReadys (received conn older) < allReadys (delivered earlier) →
      ∀ r, ClientOutput.registers r ∈ a.out →
        r.generationA = pairOf e 0 ∧ r.generationB = pairOf e 1

/-- A broadcast with its pair, and no further broadcast to come. -/
def Settled (nums : Side → ℤ) (ph : Phase) : Prop :=
  ph.server.matchData.readyMessageNum = nums ∧ ph.latched = false

lemma isAllReady_of_readyMessageNum {d d' : MatchData} (h : d.isAllReady = true)
    (heq : d'.readyMessageNum = d.readyMessageNum) : d'.isAllReady = true := by
  rw [isAllReady_congr heq]
  exact h

/-- **Step lemma.** Without a further ready and without a clearing the pair stays settled. -/
lemma Settled.step {d : MatchData} {e : ServerEntry} (h : Settled d.readyMessageNum e.pre)
    (hd : d.isAllReady = true) (hstep : serverLTS.Steps e) (hclear : ¬ Clears e)
    (hrep : ¬ RepeatsReady e) : Settled d.readyMessageNum e.post := by
  have hall : e.pre.server.matchData.isAllReady = true := isAllReady_of_readyMessageNum hd h.1
  obtain ⟨hc, -⟩ | ⟨-, i, hready, -⟩ | ⟨-, hready, hsame⟩ := readyMessageNum_cases hstep
  · exact absurd hc hclear
  · exact absurd ⟨h.2, hall, i, hready⟩ hrep
  · exact ⟨hsame.trans h.1, latched_of_steps hstep hready h.2⟩

/-- Run lemma: the pair is settled on both sides of every entry. -/
lemma settled_of_path {d : MatchData} (hd : d.isAllReady = true) {ph₀ ph : Phase}
    {later earlier : List ServerEntry} {e : ServerEntry}
    (h : serverLTS.Path ph₀ (later ++ e :: earlier) ph) (hstart : Settled d.readyMessageNum ph₀)
    (hok : ∀ e' ∈ later ++ e :: earlier, ¬ Clears e' ∧ ¬ RepeatsReady e') :
    Settled d.readyMessageNum e.pre ∧ Settled d.readyMessageNum e.post := by
  obtain ⟨hbefore, hstep, -⟩ := h.at_entry
  have hpre := hbefore.invariant (fun _ => Settled d.readyMessageNum) hstart
    (fun _ _ hi hs ha => hi.step hd hs ha.1 ha.2) fun e' he' => hok e' (by simp [he'])
  have he := hok e (by simp)
  exact ⟨hpre, hpre.step hd hstep he.1 he.2⟩

/-- A client that has received a broadcast after which all updates carry one pair registers
under this pair. -/
lemma generation_of_registers {before after : List ServerMessage} {l : LobbyData} {d : MatchData}
    {rest : List ServerMessage} {nums : Side → ℤ} (hafter : after = .dataUpdate l d :: rest)
    (hnums : ∀ u ∈ updates after, u.2.readyMessageNum = nums) {earlier : List ClientEntry}
    {a : ClientEntry} (hrun : clientLTS.Run earlier a.pre) (hstep : clientLTS.Steps a)
    (hheard : delivered earlier <+: before ++ after)
    (hcount : allReadys before < allReadys (delivered earlier)) {r : Registration}
    (hr : ClientOutput.registers r ∈ a.out) : r.generationA = nums 0 ∧ r.generationB = nums 1 := by
  obtain ⟨got, ⟨tail, hgot⟩, -, u, hu, hholds⟩ := holds_of_prefix hafter hheard hcount
  have hheld : a.pre.matchData.readyMessageNum = nums := by
    have hmem : u ∈ updates after := by
      rw [← hgot, updates_append]
      exact List.mem_append_left _ (List.mem_of_getLast? hu)
    have hdata := (holdsData_of_run hrun).data
    rw [hholds] at hdata
    rw [(Prod.mk.inj hdata).2]
    exact hnums u hmem
  obtain ⟨-, -, hstarted | ⟨r', hr', heq⟩⟩ := clientOutput_of_steps hstep hr
  · simp at hstarted
  · obtain rfl := ClientOutput.registers.inj heq
    simp only [NetplayClient.prepareForBattle] at hr'
    split at hr'
    · obtain ⟨i, -, rfl⟩ := Option.map_eq_some_iff.1 hr'
      exact ⟨congrFun hheld 0, congrFun hheld 1⟩
    · simp at hr'

/-- **The pair of a broadcast is frozen until the next clearing, in every run in which no
player repeats its ready and nothing clears the ready state between the latch and the end of
its `Step`.** -/
theorem frozen_of_notRepeated {newer older : List ServerEntry} {e : ServerEntry} {ph : Phase}
    (h : serverLTS.Run (newer ++ e :: older) ph) (hall : BroadcastsAllReady e)
    (hclear : ∀ e' ∈ newer, ¬ Clears e')
    (hok : ∀ e' ∈ newer ++ e :: older, ¬ RepeatsReady e' ∧ ¬ ClearsLatched e') :
    Frozen newer e older := by
  obtain ⟨hrun, hstep, hpath⟩ := h.at_entry
  obtain ⟨st, hpre, -, -, hpost, hl⟩ := exists_endStep_of_broadcastsAllReady hstep hall
  have hready : e.pre.server.matchData.isAllReady = true :=
    latchReady_of_run hrun (fun e' he' => (hok e' (by simp [he'])).2) (by simpa [hpre] using hl)
  have hstart : Settled (pairOf e) e.post := by
    rw [hpost, pairOf, hpre]
    exact ⟨rfl, rfl⟩
  have hsettled : ∀ e' ∈ newer, Settled (pairOf e) e'.pre ∧ Settled (pairOf e) e'.post := by
    intro e' he'
    obtain ⟨later, earlier, rfl⟩ := List.append_of_mem he'
    exact settled_of_path hready hpath hstart fun a ha =>
      ⟨hclear a ha, (hok a (List.mem_append_left _ ha)).1⟩
  have hsent (conn : HSteamNetConnection) :
      ∀ u ∈ updates (received conn (newer ++ [e])), u.2.readyMessageNum = pairOf e := by
    have hseg : serverLTS.Path e.pre (newer ++ [e]) ph :=
      LTS.path_append_iff.2 ⟨_, .snoc .refl hstep, hpath⟩
    refine forall_updates_of_path (p := fun _ d => d.readyMessageNum = pairOf e) hseg rfl
      (fun e' he' _ _ => ?_) conn
    rcases List.mem_append.1 he' with he' | he'
    · exact (hsettled e' he').2.1
    · obtain rfl := List.mem_singleton.1 he'
      exact hstart.1
  refine ⟨fun e' he' hall' => ?_, fun e' he' => (hsettled e' he').2.1, hsent, ?_⟩
  · obtain ⟨st', hpre', -, -, -, hl'⟩ :=
      exists_endStep_of_broadcastsAllReady (hpath.steps_of_mem he') hall'
    have hnot := (hsettled e' he').1.2
    simp [hpre', hl'] at hnot
  · rintro conn hconn log c hclient hheard later a earlier rfl hcount r hr
    obtain ⟨hbefore, hastep, -⟩ := hclient.at_entry
    obtain ⟨rest, hrest⟩ := exists_received_eq_update newer hrun hstep hall hconn
    refine generation_of_registers hrest (hsent conn) hbefore hastep ?_ hcount hr
    have hold : delivered earlier <+: delivered (later ++ a :: earlier) := by
      simp [delivered, List.filterMap_append]
    rw [← received_append, List.append_assoc]
    exact hold.trans hheard

/-- A frozen pair at work: loading messages come in after the broadcast. -/
theorem frozen_after_allReady :
    ∃ newer e older ph, serverLTS.Run (newer ++ e :: older) ph ∧ BroadcastsAllReady e ∧
      Frozen newer e older := by
  obtain ⟨log, ph, hrun, e, he, hall, hclear, hok⟩ := exists_run_of_exec
    (Action.bothReady ++ [.beginStep, .message (.bare 1 4 .battleLoaded), .endStep])
    (p := fun log _ => ∃ e ∈ (log.drop 3).head?, BroadcastsAllReady e ∧
      (∀ e' ∈ log.take 3, ¬ Clears e') ∧ ∀ e' ∈ log, ¬ RepeatsReady e' ∧ ¬ ClearsLatched e')
    (by decide +kernel)
  have hlog : log.take 3 ++ e :: (log.drop 3).tail = log := by
    rw [← List.eq_cons_of_mem_head? he, List.take_append_drop]
  rw [← hlog] at hrun hok
  exact ⟨_, e, _, ph, hrun, hall, frozen_of_notRepeated hrun hall hclear hok⟩

/-- The registration in an output. -/
def ClientOutput.registration? : ClientOutput → Option Registration
  | .registers r => some r
  | .started _ => none

/-- A client that hears the messages in its main menu and goes to battle over the relay. -/
def playsOverRelay (msgs : List ServerMessage) : List ClientAction :=
  msgs.map (.deliver · true) ++ [.preBattle true, .battle true true true]

/-- **A repeated ready.** `A` gets ready once more after `LOBBY_ALLREADY` has gone out.  The
pair changes under way, and a client that hears of it registers under another pair than the
one of the broadcast. -/
theorem not_frozen_repeated_ready :
    ¬ ∀ (newer older : List ServerEntry) (e : ServerEntry) (ph : Phase),
        serverLTS.Run (newer ++ e :: older) ph → BroadcastsAllReady e →
        (∀ e' ∈ newer, ¬ Clears e') → Frozen newer e older := by
  intro h
  obtain ⟨log, ph, hrun, e, he, hall, hclear, hconn, ⟨clog, c⟩, hexec, a, ha, hheard, hcount,
      o, ho, r, hr, hne⟩ := exists_run_of_exec
    (Action.bothReady ++ [.beginStep, .message (.bare 1 4 .lobbyReady), .endStep])
    (p := fun log _ => ∃ e ∈ (log.drop 3).head?, BroadcastsAllReady e ∧
      (∀ e' ∈ log.take 3, ¬ Clears e') ∧ 2 ∈ e.pre.server.conns ∧
      ∃ r ∈ LTS.exec NetplayClient.next .new [] (playsOverRelay (received 2 log)),
        ∃ a ∈ r.1.head?, delivered r.1 <+: received 2 log ∧
          allReadys (received 2 (log.drop 3).tail) < allReadys (delivered r.1.tail) ∧
          ∃ o ∈ a.out, ∃ g ∈ o.registration?, g.generationA ≠ pairOf e 0) (by decide +kernel)
  have hlog : log.take 3 ++ e :: (log.drop 3).tail = log := by
    rw [← List.eq_cons_of_mem_head? he, List.take_append_drop]
  have hclient : clientLTS.Run clog c := ⟨_, rfl, LTS.path_of_exec .refl hexec⟩
  have ho' : ClientOutput.registers r ∈ a.out := by
    cases o with
    | registers r' =>
      obtain rfl : r' = r := by simpa [ClientOutput.registration?] using hr
      exact ho
    | started m => simp [ClientOutput.registration?] at hr
  rw [← hlog] at hrun hheard
  have hfrozen := h _ _ e ph hrun hall hclear
  exact hne (hfrozen.registered 2 hconn clog c hclient hheard [] a clog.tail
    (List.eq_cons_of_mem_head? ha) hcount r ho').1

end Sf4e
