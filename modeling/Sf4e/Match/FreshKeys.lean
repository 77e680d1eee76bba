/-
# Fresh keys

The relay lives as long as the room and keeps the generation of the last match active, so a
new match needs a key that no earlier match of the room has had.  The key is a pair of
message numbers, and message numbers are counted per connection.  On one connection they
increase, so a pair that shares a connection with an earlier one, on the same side or on
both sides crosswise, is different (`freshKey_of_shared`).  Pairs that come from unrelated
connections may coincide.

Where a ready number comes from is what `mark` finds in the log: the message that set it.
-/
import Sf4e.Match.Frozen
import Sf4e.Relay.Generation

namespace Sf4e

open SessionProtocol SessionServer Trace Relay

/-! ## Message numbers -/

/-- The number of a message on its connection: an `int64`, larger than those of the earlier
messages, and 1 on a new connection. -/
structure Numbered (m : Incoming) (log : List ServerEntry) : Prop where
  /-- Message numbers are of type `int64`. -/
  int64 : m.messageNumber < 2 ^ 63
  /-- They increase on each connection. -/
  increasing : ∀ e ∈ log, ∀ m' ∈ e.act.message?, m'.conn = m.conn →
    m'.messageNumber < m.messageNumber
  /-- They start from 1. -/
  first : (∀ e ∈ log, ∀ m' ∈ e.act.message?, m'.conn ≠ m.conn) → m.messageNumber = 1

/-- Every message of the log is numbered. -/
def AllNumbered : List ServerEntry → Prop
  | [] => True
  | e :: log => (∀ m ∈ e.act.message?, Numbered m log) ∧ AllNumbered log

instance (m : Incoming) (log : List ServerEntry) : Decidable (Numbered m log) :=
  decidable_of_iff (m.messageNumber < 2 ^ 63 ∧
      (∀ e ∈ log, ∀ m' ∈ e.act.message?, m'.conn = m.conn →
        m'.messageNumber < m.messageNumber) ∧
      ((∀ e ∈ log, ∀ m' ∈ e.act.message?, m'.conn ≠ m.conn) → m.messageNumber = 1))
    ⟨fun h => ⟨h.1, h.2.1, h.2.2⟩, fun h => ⟨h.int64, h.increasing, h.first⟩⟩

instance : DecidablePred AllNumbered
  | [] => inferInstanceAs (Decidable True)
  | e :: log =>
    have : Decidable (AllNumbered log) := instDecidablePredListServerEntryAllNumbered log
    inferInstanceAs (Decidable ((∀ m ∈ e.act.message?, Numbered m log) ∧ AllNumbered log))

lemma AllNumbered.older {newer older : List ServerEntry} (h : AllNumbered (newer ++ older)) :
    AllNumbered older := by
  induction newer with
  | nil => exact h
  | cons e newer ih => exact ih h.2

lemma AllNumbered.numbered {newer older : List ServerEntry} {e : ServerEntry}
    (h : AllNumbered (newer ++ e :: older)) {m : Incoming} (hm : m ∈ e.act.message?) :
    Numbered m older :=
  h.older.1 m hm

/-- A later message on a connection has the larger number. -/
lemma AllNumbered.lt {newer older : List ServerEntry} (h : AllNumbered (newer ++ older))
    {e e' : ServerEntry} (he : e ∈ newer) (he' : e' ∈ older) {m m' : Incoming}
    (hm : m ∈ e.act.message?) (hm' : m' ∈ e'.act.message?) (hconn : m'.conn = m.conn) :
    m'.messageNumber < m.messageNumber := by
  obtain ⟨later, earlier, rfl⟩ := List.append_of_mem he
  rw [List.append_assoc, List.cons_append] at h
  exact (h.numbered hm).increasing e' (List.mem_append_right _ he') m' hm' hconn

/-! ## Marks -/

/-- The message that set a slot's ready number, since the ready state was last cleared. -/
def mark (i : Side) : List ServerEntry → Option Incoming
  | [] => none
  | e :: log =>
    if Clears e then none
    else if e.pre.event e.act = .ready i then e.act.message?
    else mark i log

/-- The ready numbers are those of the marks, in every run. -/
lemma readyMessageNum_eq_mark {log : List ServerEntry} {ph : Phase} (h : serverLTS.Run log ph) :
    ∀ i, ph.server.matchData.readyMessageNum i =
      (mark i log).elim (-1) fun m => (m.messageNumber : ℤ) := by
  refine h.invariant_of_step (fun log ph => ∀ i, ph.server.matchData.readyMessageNum i =
    (mark i log).elim (-1) fun m => (m.messageNumber : ℤ)) ?_ fun log e hlog hstep i => ?_
  · rintro ph ⟨_, _, _, _, _, rfl⟩ i
    rfl
  · obtain ⟨hc, hnone⟩ | ⟨hc, j, hready, m, hm, hset⟩ | ⟨hc, hready, hsame⟩ :=
      readyMessageNum_cases hstep
    · simp [mark, hc, hnone]
    · rw [hset, mark, if_neg hc, hready]
      by_cases hji : j = i
      · subst hji
        simp [Option.mem_def.1 hm]
      · rw [if_neg (by simpa using hji), Function.update_of_ne (Ne.symm hji), hlog i]
    · rw [hsame, mark, if_neg hc, if_neg (hready i), hlog i]

lemma exists_mem_of_mark {i : Side} {log : List ServerEntry} {m : Incoming}
    (h : mark i log = some m) : ∃ e ∈ log, m ∈ e.act.message? := by
  induction log with
  | nil => simp [mark] at h
  | cons e log ih =>
    simp only [mark] at h
    split_ifs at h
    · exact ⟨e, List.mem_cons_self, h⟩
    · obtain ⟨e', he', hm⟩ := ih h
      exact ⟨e', List.mem_cons_of_mem _ he', hm⟩

lemma AllNumbered.int64_of_mark {i : Side} {log : List ServerEntry} (h : AllNumbered log)
    {m : Incoming} (hm : mark i log = some m) : m.messageNumber < 2 ^ 63 := by
  obtain ⟨e, he, hme⟩ := exists_mem_of_mark hm
  obtain ⟨newer, older, rfl⟩ := List.append_of_mem he
  exact (h.numbered hme).int64

/-- A mark is younger than the last clearing. -/
lemma exists_mem_of_mark_of_clears {i : Side} {newer older : List ServerEntry} {k : ServerEntry}
    (hk : Clears k) {m : Incoming} (h : mark i (newer ++ k :: older) = some m) :
    ∃ e ∈ newer, m ∈ e.act.message? := by
  induction newer with
  | nil => simp [mark, hk] at h
  | cons e newer ih =>
    simp only [List.cons_append, mark] at h
    split_ifs at h
    · exact ⟨e, List.mem_cons_self, h⟩
    · obtain ⟨e', he', hm⟩ := ih h
      exact ⟨e', List.mem_cons_of_mem _ he', hm⟩

/-- The pair of a broadcast comes from two marks. -/
lemma exists_mark_of_broadcastsAllReady {older : List ServerEntry} {e : ServerEntry}
    (hrun : serverLTS.Run older e.pre) (hstep : serverLTS.Steps e) (hall : BroadcastsAllReady e)
    (hok : ∀ e' ∈ older, ¬ ClearsLatched e') (i : Side) :
    ∃ m, mark i older = some m ∧ pairOf e i = (m.messageNumber : ℤ) := by
  obtain ⟨st, hpre, -, -, -, hl⟩ := exists_endStep_of_broadcastsAllReady hstep hall
  have hready : e.pre.server.matchData.isAllReady = true :=
    latchReady_of_run hrun hok (by simpa [hpre] using hl)
  have hi := MatchData.isAllReady_iff.1 hready i
  have hmark := readyMessageNum_eq_mark hrun i
  cases hm : mark i older with
  | none =>
    rw [hm] at hmark
    exact absurd hmark hi
  | some m =>
    rw [hm] at hmark
    exact ⟨m, rfl, hmark⟩

/-! ## Keys -/

/-- The relay's key for a pair of ready numbers. -/
def relayKey (nums : Side → ℤ) : GenerationKey := ⟨fun i => UInt64.ofInt (nums i), true⟩

/-- The datagram that a client registers with. -/
def Registration.datagram (r : Registration) (roomToken : List UInt8) (addr : SockAddr) :
    Datagram :=
  ⟨addr, registrationPacket roomToken r.playerSlot
    fun i => UInt64.ofInt (bySide r.generationA r.generationB i)⟩

/-- The relay reads a client's registration as one under the key of the client's pair. -/
lemma registration_datagram {roomToken : List UInt8} (h : isHexToken roomToken = true)
    (r : Registration) (addr : SockAddr) :
    registration? roomToken (r.datagram roomToken addr) =
      some (relayKey (bySide r.generationA r.generationB), r.playerSlot) :=
  registration_registrationPacket h addr _ _

/-- Message numbers fit into the key. -/
lemma ofInt_inj {m n : ℕ} (hm : m < 2 ^ 63) (hn : n < 2 ^ 63)
    (h : UInt64.ofInt (m : ℤ) = UInt64.ofInt (n : ℤ)) : m = n := by
  have h' := congrArg UInt64.toNat h
  simp only [UInt64.ofInt, UInt64.toNat_ofNat'] at h'
  omega

/-! ## Fresh keys -/

/-- The connection whose ready counts for a slot. -/
def readyConn (i : Side) (log : List ServerEntry) : Option HSteamNetConnection :=
  (mark i log).map (·.conn)

/-- The two broadcasts, after `older₁` and after `older₂`, share a connection on one side,
or both connections crosswise. -/
def SharesConnection (older₁ older₂ : List ServerEntry) : Prop :=
  readyConn 0 older₁ = readyConn 0 older₂ ∨ readyConn 1 older₁ = readyConn 1 older₂ ∨
    (readyConn 0 older₁ = readyConn 1 older₂ ∧ readyConn 1 older₁ = readyConn 0 older₂)

instance (older₁ older₂ : List ServerEntry) : Decidable (SharesConnection older₁ older₂) :=
  inferInstanceAs (Decidable (_ ∨ _ ∨ (_ ∧ _)))

/-- The broadcast `e₂` has another key than `e₁`, and the relay tells them apart. -/
structure FreshKey (e₁ e₂ : ServerEntry) : Prop where
  /-- The pairs are different. -/
  differ : pairOf e₁ ≠ pairOf e₂
  /-- When the relay answers a registration for the new match with `SF4R`, the generation of
  the old match is no longer active, and the peer has registered for the new one. -/
  relay : ∀ token rlog rst, (relayLTS token).Run rlog rst →
    ∀ newer a older, rlog = newer ++ a :: older →
    ∀ i, AnswersRegistered token a (relayKey (pairOf e₂)) i →
      a.post.activeGeneration.key ≠ relayKey (pairOf e₁) ∧
        RegisteredAs token (a :: older) (relayKey (pairOf e₂)) i.peer
          (a.post.activeGeneration.slots i.peer).addr

/-- A later broadcast, after a clearing, counts only readies that came after those of the
earlier one; so on a shared connection its number is larger. -/
lemma lt_of_marks {newer mid older : List ServerEntry} {k : ServerEntry} (hk : Clears k)
    (hnum : AllNumbered (newer ++ k :: (mid ++ older))) {i j : Side} {m₁ m₂ : Incoming}
    (h₁ : mark i older = some m₁) (h₂ : mark j (newer ++ k :: (mid ++ older)) = some m₂)
    (hconn : m₁.conn = m₂.conn) : m₁.messageNumber < m₂.messageNumber := by
  obtain ⟨e₁, he₁, hm₁⟩ := exists_mem_of_mark h₁
  obtain ⟨e₂, he₂, hm₂⟩ := exists_mem_of_mark_of_clears hk h₂
  refine hnum.lt he₂ (List.mem_cons_of_mem _ (List.mem_append_right _ he₁)) hm₂ hm₁ hconn

/-- Two pairs of marks are different as soon as a connection is shared. -/
lemma exists_ne_of_sharesConnection {older₁ older₂ : List ServerEntry}
    (hlt : ∀ i j m₁ m₂, mark i older₁ = some m₁ → mark j older₂ = some m₂ → m₁.conn = m₂.conn →
      m₁.messageNumber < m₂.messageNumber)
    (hs : SharesConnection older₁ older₂) {m₁ m₂ : Side → Incoming}
    (h₁ : ∀ i, mark i older₁ = some (m₁ i)) (h₂ : ∀ i, mark i older₂ = some (m₂ i)) :
    ∃ i, (m₁ i).messageNumber ≠ (m₂ i).messageNumber := by
  have hconn {i j : Side} (h : readyConn i older₁ = readyConn j older₂) :
      (m₁ i).messageNumber < (m₂ j).messageNumber := by
    rw [readyConn, readyConn, h₁, h₂, Option.map_some, Option.map_some, Option.some.injEq] at h
    exact hlt i j _ _ (h₁ i) (h₂ j) h
  obtain h | h | ⟨h, h'⟩ := hs
  · exact ⟨0, (hconn h).ne⟩
  · exact ⟨1, (hconn h).ne⟩
  · -- crosswise, the two pairs cannot agree on both sides
    by_contra hall
    push Not at hall
    have hcross := hconn h
    have hcross' := hconn h'
    have hzero := hall 0
    have hone := hall 1
    omega

/-- **The keys of two matches are different when their broadcasts share a connection on one
side, or both connections crosswise, in every run in which nothing clears the ready state
between the latch and the end of its `Step`.** -/
theorem freshKey_of_shared {newer mid older : List ServerEntry} {e₁ e₂ : ServerEntry} {ph : Phase}
    (h : serverLTS.Run (newer ++ e₂ :: (mid ++ e₁ :: older)) ph)
    (hnum : AllNumbered (newer ++ e₂ :: (mid ++ e₁ :: older)))
    (hall₁ : BroadcastsAllReady e₁) (hall₂ : BroadcastsAllReady e₂) (hclear : ∃ k ∈ mid, Clears k)
    (hok : ∀ e ∈ newer ++ e₂ :: (mid ++ e₁ :: older), ¬ ClearsLatched e)
    (hshared : SharesConnection older (mid ++ e₁ :: older)) : FreshKey e₁ e₂ := by
  obtain ⟨hrun₂, hstep₂, -⟩ := h.at_entry
  obtain ⟨hrun₁, hstep₁, -⟩ := hrun₂.at_entry
  have hnum₂ : AllNumbered (mid ++ e₁ :: older) := hnum.older.2
  have hmarks₁ := exists_mark_of_broadcastsAllReady hrun₁ hstep₁ hall₁ fun e he =>
    hok e (by simp [he])
  have hmarks₂ := exists_mark_of_broadcastsAllReady hrun₂ hstep₂ hall₂ fun e he =>
    hok e (List.mem_append_right _ (List.mem_cons_of_mem _ he))
  choose m₁ hm₁ hpair₁ using hmarks₁
  choose m₂ hm₂ hpair₂ using hmarks₂
  obtain ⟨k, hk, hclears⟩ := hclear
  obtain ⟨later, earlier, rfl⟩ := List.append_of_mem hk
  have hcut : (later ++ k :: earlier) ++ e₁ :: older =
      later ++ k :: ((earlier ++ [e₁]) ++ older) := by simp
  obtain ⟨i, hne⟩ := exists_ne_of_sharesConnection (fun i j m m' hm hm' hc =>
    lt_of_marks hclears (hcut ▸ hnum₂) hm (hcut ▸ hm') hc) hshared hm₁ hm₂
  have hkey : relayKey (pairOf e₁) ≠ relayKey (pairOf e₂) := by
    intro heq
    have hnums := congrFun (congrArg GenerationKey.readyMessageNum heq) i
    simp only [relayKey, hpair₁ i, hpair₂ i] at hnums
    exact hne (ofInt_inj (hnum₂.older.2.int64_of_mark (hm₁ i)) (hnum₂.int64_of_mark (hm₂ i)) hnums)
  refine ⟨fun heq => hkey (congrArg relayKey heq), ?_⟩
  intro token rlog rst hrelay newer' a older' hlog j hanswer
  obtain ⟨hastep, hinv⟩ := relayInv_at_entry (hlog ▸ hrelay)
  have hvouched := vouched_of_answers hinv hastep hanswer
  exact ⟨fun heq => hkey (heq ▸ hvouched.hasKey), hvouched.other.2⟩

/-- A log with two broadcasts passes a test: the second one is the newest entry, and `n`
entries, one of them a clearing, lie between the two. -/
def TwoMatches (n : ℕ) (q : List ServerEntry → List ServerEntry → ServerEntry → ServerEntry → Prop)
    (log : List ServerEntry) : Prop :=
  ∃ e₂ ∈ log.head?, ∃ e₁ ∈ (log.tail.drop n).head?, AllNumbered log ∧ BroadcastsAllReady e₁ ∧
    BroadcastsAllReady e₂ ∧ (∃ k ∈ log.tail.take n, Clears k) ∧
    q log.tail (log.tail.drop n).tail e₁ e₂

instance (n : ℕ) (q : List ServerEntry → List ServerEntry → ServerEntry → ServerEntry → Prop)
    [∀ later older e₁ e₂, Decidable (q later older e₁ e₂)] : DecidablePred (TwoMatches n q) :=
  fun log => inferInstanceAs (Decidable (∃ e₂ ∈ log.head?, ∃ e₁ ∈ (log.tail.drop n).head?,
    AllNumbered log ∧ BroadcastsAllReady e₁ ∧ BroadcastsAllReady e₂ ∧
    (∃ k ∈ log.tail.take n, Clears k) ∧ q log.tail (log.tail.drop n).tail e₁ e₂))

lemma TwoMatches.exists_run {n : ℕ}
    {q : List ServerEntry → List ServerEntry → ServerEntry → ServerEntry → Prop}
    {log : List ServerEntry} {ph : Phase} (h : TwoMatches n q log) (hrun : serverLTS.Run log ph) :
    ∃ mid older e₁ e₂, serverLTS.Run ([] ++ e₂ :: (mid ++ e₁ :: older)) ph ∧
      AllNumbered ([] ++ e₂ :: (mid ++ e₁ :: older)) ∧ BroadcastsAllReady e₁ ∧
      BroadcastsAllReady e₂ ∧ (∃ k ∈ mid, Clears k) ∧ q (mid ++ e₁ :: older) older e₁ e₂ := by
  obtain ⟨e₂, he₂, e₁, he₁, hnum, hall₁, hall₂, hclear, hq⟩ := h
  have htail : log.tail.take n ++ e₁ :: (log.tail.drop n).tail = log.tail := by
    rw [← List.eq_cons_of_mem_head? he₁, List.take_append_drop]
  have hlog : e₂ :: log.tail = log := (List.eq_cons_of_mem_head? he₂).symm
  refine ⟨log.tail.take n, (log.tail.drop n).tail, e₁, e₂, ?_, ?_, hall₁, hall₂, hclear, ?_⟩
  all_goals rw [htail]
  · exact hlog ▸ hrun
  · exact hlog ▸ hnum
  · exact hq

/-- A rematch of the same two players. -/
theorem freshKey_rematch :
    ∃ mid older e₁ e₂ ph, serverLTS.Run ([] ++ e₂ :: (mid ++ e₁ :: older)) ph ∧
      BroadcastsAllReady e₁ ∧ BroadcastsAllReady e₂ ∧ FreshKey e₁ e₂ := by
  obtain ⟨log, ph, hrun, htwo⟩ := exists_run_of_exec (Action.bothReady ++
      [.beginStep, .message (.bare 1 4 .lobbyReset), .message (.bare 2 4 .lobbyReset), .endStep,
        .beginStep, .message (.bare 1 5 .lobbyReady), .message (.bare 2 5 .lobbyReady), .endStep])
    (p := fun log _ => TwoMatches 7 (fun later older _ e₂ =>
      (∀ e ∈ e₂ :: later, ¬ ClearsLatched e) ∧ SharesConnection older later) log)
    (by decide +kernel)
  obtain ⟨mid, older, e₁, e₂, hrun', hnum, hall₁, hall₂, hclear, hok, hshared⟩ :=
    htwo.exists_run hrun
  exact ⟨mid, older, e₁, e₂, ph, hrun', hall₁, hall₂,
    freshKey_of_shared hrun' hnum hall₁ hall₂ hclear hok hshared⟩

/-- **The same key twice.** After a match the lobby is reset, both players leave, join again
on new connections and get ready with the message numbers they had before. -/
theorem not_freshKey_rejoin :
    ¬ ∀ (newer mid older : List ServerEntry) (e₁ e₂ : ServerEntry) (ph : Phase),
        serverLTS.Run (newer ++ e₂ :: (mid ++ e₁ :: older)) ph →
        AllNumbered (newer ++ e₂ :: (mid ++ e₁ :: older)) → BroadcastsAllReady e₁ →
        BroadcastsAllReady e₂ → (∃ k ∈ mid, Clears k) → FreshKey e₁ e₂ := by
  intro h
  obtain ⟨log, ph, hrun, htwo⟩ := exists_run_of_exec (Action.bothReady ++
      [.beginStep, .message (.bare 1 4 .lobbyReset), .endStep,
        .statusChanged ⟨1, .closedByPeer, .connected⟩,
        .statusChanged ⟨2, .closedByPeer, .connected⟩, .beginStep] ++
      Action.enter 3 "A" ++ Action.enter 4 "B" ++
      [.message (.bare 3 3 .lobbyReady), .message (.bare 4 3 .lobbyReady), .endStep])
    (p := fun log _ => TwoMatches 12 (fun _ _ e₁ e₂ => ∀ i, pairOf e₁ i = pairOf e₂ i) log)
    (by decide +kernel)
  obtain ⟨mid, older, e₁, e₂, hrun', hnum, hall₁, hall₂, hclear, hsame⟩ := htwo.exists_run hrun
  exact (h [] mid older e₁ e₂ ph hrun' hnum hall₁ hall₂ hclear).differ (funext hsame)

end Sf4e
