/-
# The players and the spectators' messages

A world of one session server and a client on each connection.  The server passes snapshots
and hashes on to everybody but the sender, whoever sends them, and every client compares what
it receives with its own tables.  A relayed message carries no sender.  The reference data of
`Relayed` and `Station` keep track of what a spectator has sent, from the server up to the
comparison, and a step puts out the judgements of its comparisons.

A spectator's hash ends a fight only in the strict mode and when it calls itself a player's.
A spectator's snapshot ends it whenever it differs from the player's (`Intrudes`).
-/
import Sf4e.Session.Spectators
import Sf4e.Desync.Steps

namespace Sf4e
namespace Desync

open HashRing Trace Client SessionProtocol

variable {I : Type}

/-! ## The world -/

/-- A message on its way to the server, with what a client that it is passed on to reads in
it. -/
structure Packet where
  incoming : Incoming
  /-- The message as a `BattleSnapshot`. -/
  snapshot : Option StateSnapshot := none
  /-- The message as a `BattleHashV2`. -/
  hash : Option BattleHashV2 := none

/-- What a client takes the message for, by its type. -/
def Packet.verification (p : Packet) : Option Message :=
  match p.incoming.type? with
  | some .battleSnapshot => p.snapshot.map .snapshot
  | some .battleHash => p.hash.map .hash
  | _ => none

/-- A verification message on its way from the server to a client. -/
structure Relayed where
  message : Message
  /-- A spectator has sent it, for reference. -/
  fromSpectator : Bool
deriving DecidableEq, Repr

/-- The client on a connection. -/
structure Station (I : Type) where
  client : Client I
  /-- The verification messages on their way to it, oldest first. -/
  inbox : List Relayed
  /-- Is the snapshot that waits for this frame a spectator's?  For reference. -/
  snapshotFrom : ℤ → Bool
  /-- Is the hash that waits for this frame a spectator's?  For reference. -/
  hashFrom : ℤ → Bool

/-- A comparison that a client has made. -/
structure Judgement where
  /-- The connection of the client. -/
  conn : HSteamNetConnection
  /-- The remote message is a spectator's. -/
  fromSpectator : Bool
  /-- The ready state is set to `RS_ISLEAVING`. -/
  ends : Bool
deriving DecidableEq, Repr

/-- The server and the clients on all connections. -/
structure World (I : Type) where
  phase : Phase
  station : HSteamNetConnection → Station I

/-- What happens in the world. -/
inductive WorldAction (I : Type)
  /-- The loop of `Step` takes the next message. -/
  | packet (p : Packet)
  /-- Anything else that happens to the server. -/
  | server (act : Sf4e.Action)
  /-- The client on the connection takes its next verification message. -/
  | deliver (conn : HSteamNetConnection)
  /-- The client on the connection does something on its own. -/
  | client (conn : HSteamNetConnection) (act : Action I)
  /-- The handle is given to a new client. -/
  | connect (conn : HSteamNetConnection)

/-- The message that the server handles. -/
def WorldAction.packet? : WorldAction I → Option Packet
  | .packet p => some p
  | _ => none

namespace Station

/-- The client of a new connection. -/
def new : Station I := ⟨.start 0, [], fun _ => false, fun _ => false⟩

/-- The judgements of a client's step, when the waiting messages come from `snapshotFrom` and
`hashFrom`. -/
def judgements (conn : HSteamNetConnection) (snapshotFrom hashFrom : ℤ → Bool) (poll : Poll)
    (o : Out) : List Judgement :=
  (o.snapshotComparisons.map fun cmp =>
    ⟨conn, snapshotFrom cmp.remote.frameIdx, decide cmp.Differs⟩) ++
  o.hashComparisons.map fun cmp =>
    ⟨conn, hashFrom cmp.remote.frameIdx, terminates poll cmp⟩

/-- Does the message wait in `pendingRemoteSnapshots` after it was received? -/
def Keeps (c : Client I) (m : StateSnapshot) : Bool :=
  (c.snapshotMap.find? m.frameIdx).isNone && (c.pendingRemoteSnapshots.find? m.frameIdx).isNone

/-- The client takes a message.  The waiting snapshot of a frame is the first that came, and the
waiting hash is the last. -/
def receive (conn : HSteamNetConnection) (t : Station I) (r : Relayed) (rest : List Relayed) :
    List Judgement × Station I :=
  let taken := t.client.onMessage r.message
  let kept : Station I := { t with client := taken.2, inbox := rest }
  (judgements conn (fun _ => r.fromSpectator) (fun _ => r.fromSpectator) {} taken.1,
    match r.message with
    | .snapshot m =>
      if Keeps t.client m then
        { kept with snapshotFrom := Function.update t.snapshotFrom m.frameIdx r.fromSpectator }
      else kept
    | .hash m =>
      { kept with hashFrom := Function.update t.hashFrom m.frameIdx r.fromSpectator })

/-- The settings of a `SessionClient::Step` that comes to its end. -/
def poll : Action I → Poll
  | .pass poll => poll
  | _ => {}

/-- The client does something on its own. -/
def act (conn : HSteamNetConnection) (t : Station I) (a : Action I) :
    Option (List Judgement × Station I) :=
  match a with
  | .receive _ => none
  | a => (Desync.next t.client a).map fun r =>
      (judgements conn t.snapshotFrom t.hashFrom (poll a) r.1, { t with client := r.2 })

end Station

namespace World

/-- What the server's outputs carry to a connection. -/
def relays (p : Packet) (fromSpectator : Bool) (conn : HSteamNetConnection)
    (out : List Output) : List Relayed :=
  out.filterMap fun o => match o with
    | .respond c (.relayed _) =>
      if c = conn then p.verification.map fun m => ⟨m, fromSpectator⟩ else none
    | _ => none

/-- One step of the world; `none` when it cannot be taken. -/
def next (w : World I) : WorldAction I → Option (List Judgement × World I)
  | .packet p =>
    (w.phase.next (.message p.incoming)).map fun r =>
      let fromSpectator := decide (w.phase.server.Spectates p.incoming.conn)
      ([],
        { phase := r.2
          station := fun c =>
            { w.station c with
              inbox := (w.station c).inbox ++ relays p fromSpectator c r.1 } })
  | .server a =>
    match a with
    | .message _ => none
    | a => (w.phase.next a).map fun r => ([], { w with phase := r.2 })
  | .deliver conn =>
    match (w.station conn).inbox with
    | [] => none
    | r :: rest =>
      let received := (w.station conn).receive conn r rest
      some (received.1, { w with station := Function.update w.station conn received.2 })
  | .client conn a =>
    ((w.station conn).act conn a).map fun r =>
      (r.1, { w with station := Function.update w.station conn r.2 })
  | .connect conn =>
    some ([], { w with station := Function.update w.station conn .new })

end World

/-- The runs of a world with a fresh server and new clients. -/
def worldLTS (I : Type) : LTS (World I) (WorldAction I) (List Judgement) :=
  .ofFun (fun w => Fresh w.phase ∧ w.station = fun _ => .new) World.next

/-- One step of the world. -/
abbrev WorldEntry (I : Type) := Entry (World I) (WorldAction I) (List Judgement)

/-! ## The property -/

/-- The spectators are kept apart from the players' fight in this step. -/
structure Isolated (e : WorldEntry I) : Prop where
  /-- A spectator's message changes neither the match nor the settings nor the players. -/
  server : ∀ p ∈ e.act.packet?, e.pre.phase.server.Spectates p.incoming.conn →
    KeepsMatch e.pre.phase.server e.post.phase.server
  /-- A spectator's message does not make a player's client end the fight. -/
  fight : ∀ j ∈ e.out, e.pre.phase.server.Plays j.conn → j.fromSpectator = true → j.ends = false

/-! ## The condition -/

/-- The message as a snapshot. -/
def Message.snapshot? : Message → Option StateSnapshot
  | .snapshot m => some m
  | .hash _ => none

/-- A spectator's snapshot, just received, differs from the client's own of the frame. -/
def Station.Refutes (t : Station I) : Prop :=
  ∃ r ∈ t.inbox.head?, r.fromSpectator = true ∧ ∃ m ∈ r.message.snapshot?,
    ∃ l ∈ t.client.snapshotMap.find? m.frameIdx, l.snapshot.chara ≠ m.chara

instance (t : Station I) : Decidable t.Refutes :=
  inferInstanceAs (Decidable (∃ r ∈ t.inbox.head?, r.fromSpectator = true ∧
    ∃ m ∈ r.message.snapshot?,
      ∃ l ∈ t.client.snapshotMap.find? m.frameIdx, l.snapshot.chara ≠ m.chara))

/-- A waiting snapshot of a spectator differs from the client's own of the frame, which is old
enough to be compared. -/
def Station.RefutesLate (t : Station I) : Prop :=
  ∃ l ∈ t.client.snapshotMap.entries,
    snapshotAgeFrames ≤ t.client.frameIdx - l.snapshot.frameIdx ∧ l.confirmed = false ∧
    t.snapshotFrom l.snapshot.frameIdx = true ∧
    ∃ m ∈ t.client.pendingRemoteSnapshots.find? l.snapshot.frameIdx,
      l.snapshot.chara ≠ m.chara

instance (t : Station I) : Decidable t.RefutesLate :=
  inferInstanceAs (Decidable (∃ l ∈ t.client.snapshotMap.entries,
    snapshotAgeFrames ≤ t.client.frameIdx - l.snapshot.frameIdx ∧ l.confirmed = false ∧
    t.snapshotFrom l.snapshot.frameIdx = true ∧
    ∃ m ∈ t.client.pendingRemoteSnapshots.find? l.snapshot.frameIdx,
      l.snapshot.chara ≠ m.chara))

/-- A waiting hash of a spectator calls itself a player's and differs from the client's own
checkpoint, which is old enough to be compared. -/
def Station.Denies (t : Station I) : Prop :=
  ∃ i, t.client.Due t.client.frameIdx i ∧
    t.hashFrom (t.client.hashCheckpoints i).frameIdx = true ∧
    ∃ m ∈ t.client.pendingRemoteHashes.find? (t.client.hashCheckpoints i).frameIdx,
      m.fromPlayer = true ∧ (t.client.hashCheckpoints i).hashes.overall ≠ m.overall

instance (t : Station I) : Decidable t.Denies :=
  inferInstanceAs (Decidable (∃ i, t.client.Due t.client.frameIdx i ∧
    t.hashFrom (t.client.hashCheckpoints i).frameIdx = true ∧
    ∃ m ∈ t.client.pendingRemoteHashes.find? (t.client.hashCheckpoints i).frameIdx,
      m.fromPlayer = true ∧ (t.client.hashCheckpoints i).hashes.overall ≠ m.overall))

/-- A spectator oversteps, or the branch that ends a player's fight over a spectator's message
is taken. -/
def Intrudes (e : WorldEntry I) : Prop :=
  match e.act with
  | .packet p =>
    e.pre.phase.server.Spectates p.incoming.conn ∧ e.pre.phase.server.Oversteps p.incoming
  | .deliver conn => e.pre.phase.server.Plays conn ∧ (e.pre.station conn).Refutes
  | .client conn (.pass poll) =>
    e.pre.phase.server.Plays conn ∧ poll.snapshotsEnabled = true ∧
      ((e.pre.station conn).RefutesLate ∨
        poll.strict = true ∧ poll.isPlayer = true ∧ (e.pre.station conn).Denies)
  | _ => False

instance : DecidablePred (Intrudes (I := I)) := fun e => by
  unfold Intrudes
  split <;> infer_instance

/-! ## What is compared -/

lemma snapshotComparisons_exchangeHash (c : Client I) (poll : Poll) (f : ℤ)
    (i : Fin numHashCheckpoints) : (c.exchangeHash poll f i).1.snapshotComparisons = [] := by
  by_cases hdue : c.Due f i
  · rw [exchangeHash_of_due poll hdue, Out.append]
    rcases sendHash_cases c poll i with h | ⟨-, h⟩
    all_goals
      rw [h]
      rcases reconcileHash_cases _ poll i with ⟨-, h'⟩ | ⟨remote, _, -, h'⟩
      all_goals
        rw [h']
        rfl
  · rw [exchangeHash_of_not_due poll hdue]

lemma snapshotComparisons_exchangeHashes (c : Client I) (poll : Poll) (f : ℤ)
    (slots : List (Fin numHashCheckpoints)) :
    (c.exchangeHashes poll f slots).1.snapshotComparisons = [] := by
  induction slots generalizing c with
  | nil => rfl
  | cons i slots ih =>
    simp only [exchangeHashes, Out.append, snapshotComparisons_exchangeHash, ih,
      List.append_nil]

/-- The snapshots that are compared at the end of a `SessionClient::Step`. -/
lemma snapshotComparisons_pass {c : Client I} {poll : Poll} {cmp : SnapshotComparison}
    (h : cmp ∈ (c.pass poll).1.snapshotComparisons) :
    poll.snapshotsEnabled = true ∧
      ∃ l ∈ c.snapshotMap, snapshotAgeFrames ≤ c.frameIdx - l.snapshot.frameIdx ∧
        l.confirmed = false ∧ cmp.localSnapshot = l.snapshot ∧
        c.pendingRemoteSnapshots.find? l.snapshot.frameIdx = some cmp.remote := by
  cases hen : poll.snapshotsEnabled with
  | false => simp [pass_of_disabled c hen] at h
  | true =>
    refine ⟨rfl, ?_⟩
    rw [pass_of_enabled c hen] at h
    generalize List.finRange numHashCheckpoints = slots at h
    rcases List.mem_append.1 h with h | h
    · obtain ⟨l, hl, heq⟩ := List.mem_filterMap.1 h
      unfold compareSnapshot at heq
      split at heq
      · exact absurd heq (by simp)
      · rename_i hdue
        rw [not_or, not_lt, Bool.not_eq_true] at hdue
        obtain ⟨remote, hfind, rfl⟩ := Option.map_eq_some_iff.1 heq
        exact ⟨l, hl, hdue.1, hdue.2, rfl, hfind⟩
    · rw [snapshotComparisons_exchangeHashes] at h
      simp at h

/-- Only a received message and the end of a `SessionClient::Step` compare snapshots. -/
lemma snapshotComparisons_of_next {c c' : Client I} {act : Action I} {o : Out}
    (hpass : ∀ poll, act ≠ .pass poll) (hreceive : ∀ m, act ≠ .receive m)
    (h : Desync.next c act = some (o, c')) : o.snapshotComparisons = [] := by
  cases act with
  | battleUpdate frame resim =>
    obtain ⟨_, -, heq⟩ := Option.map_eq_some_iff.1 h
    obtain ⟨rfl, -⟩ := Prod.mk.inj heq
    rfl
  | idle resim =>
    obtain ⟨_, -, heq⟩ := Option.map_eq_some_iff.1 h
    obtain ⟨rfl, -⟩ := Prod.mk.inj heq
    rfl
  | receive m => exact absurd rfl (hreceive m)
  | pass poll => exact absurd rfl (hpass poll)
  | engineUpdate | clearBattleState | startMatch | startBattle =>
    obtain ⟨rfl, -⟩ := Prod.mk.inj (Option.some.inj h)
    rfl

/-! ## Judgements -/

namespace Station

lemma mem_judgements {conn : HSteamNetConnection} {sf hf : ℤ → Bool} {poll : Poll} {o : Out}
    {j : Judgement} (h : j ∈ judgements conn sf hf poll o) :
    j.conn = conn ∧
      ((∃ cmp ∈ o.snapshotComparisons, j.fromSpectator = sf cmp.remote.frameIdx ∧
          j.ends = decide cmp.Differs) ∨
        ∃ cmp ∈ o.hashComparisons, j.fromSpectator = hf cmp.remote.frameIdx ∧
          j.ends = terminates poll cmp) := by
  rcases List.mem_append.1 h with h | h
  · obtain ⟨cmp, hcmp, rfl⟩ := List.mem_map.1 h
    exact ⟨rfl, .inl ⟨cmp, hcmp, rfl, rfl⟩⟩
  · obtain ⟨cmp, hcmp, rfl⟩ := List.mem_map.1 h
    exact ⟨rfl, .inr ⟨cmp, hcmp, rfl, rfl⟩⟩

/-- Two snapshots of one frame differ in the characters. -/
lemma chara_ne_of_differs {cmp : SnapshotComparison} (h : cmp.Differs)
    (hframe : cmp.remote.frameIdx = cmp.localSnapshot.frameIdx) :
    cmp.localSnapshot.chara ≠ cmp.remote.chara := by
  rcases h with h | h
  · exact absurd hframe h
  · exact h.symm

lemma receive_fst (conn : HSteamNetConnection) (t : Station I) (r : Relayed)
    (rest : List Relayed) : (t.receive conn r rest).1 =
      judgements conn (fun _ => r.fromSpectator) (fun _ => r.fromSpectator) {}
        (t.client.onMessage r.message).1 := rfl

/-- A message that ends the fight as it is received is a snapshot that differs. -/
lemma refutes_of_receive {conn : HSteamNetConnection} {t : Station I} {r : Relayed}
    {rest : List Relayed} (hinbox : t.inbox = r :: rest) {j : Judgement}
    (hj : j ∈ (t.receive conn r rest).1) (hfrom : j.fromSpectator = true)
    (hends : j.ends = true) : t.Refutes := by
  rw [receive_fst] at hj
  obtain ⟨-, ⟨cmp, hcmp, hs, he⟩ | ⟨cmp, hcmp, -, -⟩⟩ := mem_judgements hj
  · have hspec : r.fromSpectator = true := hs ▸ hfrom
    have hdiff : cmp.Differs := of_decide_eq_true (he ▸ hends)
    cases hm : r.message with
    | hash m => simp [hm, onMessage, onHash] at hcmp
    | snapshot m =>
      simp only [hm, onMessage, onSnapshot] at hcmp
      split at hcmp
      · rename_i l hl
        obtain rfl := List.mem_singleton.1 hcmp
        obtain ⟨-, hkey⟩ := OrderedMap.find?_eq_some_iff.1 hl
        exact ⟨r, by simp [hinbox], hspec, m, by simp [hm, Message.snapshot?], l, hl,
          chara_ne_of_differs hdiff hkey.symm⟩
      · simp at hcmp
  · have hstep : Desync.next t.client (.receive r.message) =
        some ((t.client.onMessage r.message).1, (t.client.onMessage r.message).2) := rfl
    have hnil : (t.client.onMessage r.message).1.hashComparisons = [] :=
      (quiet_of_next (by simp) hstep).2
    simp [hnil] at hcmp

/-- A message that ends the fight at the end of a `SessionClient::Step`. -/
lemma refutesLate_or_denies_of_pass {conn : HSteamNetConnection} {t : Station I} {poll : Poll}
    {j : Judgement}
    (hj : j ∈ judgements conn t.snapshotFrom t.hashFrom poll (t.client.pass poll).1)
    (hfrom : j.fromSpectator = true) (hends : j.ends = true) :
    poll.snapshotsEnabled = true ∧
      (t.RefutesLate ∨ poll.strict = true ∧ poll.isPlayer = true ∧ t.Denies) := by
  obtain ⟨-, ⟨cmp, hcmp, hs, he⟩ | ⟨cmp, hcmp, hs, he⟩⟩ := mem_judgements hj
  · have hdiff : cmp.Differs := of_decide_eq_true (he ▸ hends)
    obtain ⟨hen, l, hl, hage, hconf, hlocal, hfind⟩ := snapshotComparisons_pass hcmp
    have hkey := (OrderedMap.find?_eq_some_iff.1 hfind).2
    have hframe : cmp.remote.frameIdx = l.snapshot.frameIdx := hkey
    refine ⟨hen, .inl ⟨l, hl, hage, hconf, ?_, cmp.remote, hfind, ?_⟩⟩
    · rw [← hframe, ← hs, hfrom]
    · have hne := chara_ne_of_differs hdiff (by rw [hlocal, hframe])
      rwa [hlocal] at hne
  · cases hen : poll.snapshotsEnabled with
    | false => simp [pass_of_disabled t.client hen] at hcmp
    | true =>
      obtain ⟨i, hdue, hhashes, -, hmem, hframe⟩ :=
        (traced_pass t.client poll).hashCompared cmp hcmp
      have hterm : terminates poll cmp = true := he ▸ hends
      simp only [terminates, Bool.and_eq_true, decide_eq_true_eq, HashComparison.Mismatch,
        hhashes] at hterm
      obtain ⟨⟨⟨hne, hstrict⟩, hplayer⟩, hlocal⟩ := hterm
      refine ⟨rfl, .inr ⟨hstrict, hlocal, i, hdue, ?_, cmp.remote, ?_, hplayer, hne⟩⟩
      · rw [← hframe, ← hs, hfrom]
      · exact OrderedMap.find?_eq_some_iff.2 ⟨hmem, hframe⟩

lemma exists_next_of_act {conn : HSteamNetConnection} {t t' : Station I} {a : Action I}
    {js : List Judgement} (h : t.act conn a = some (js, t')) :
    (∀ m, a ≠ .receive m) ∧ ∃ o c', Desync.next t.client a = some (o, c') ∧
      js = judgements conn t.snapshotFrom t.hashFrom (poll a) o ∧
      t' = { t with client := c' } := by
  have hreceive : ∀ m, a ≠ .receive m := by
    rintro m rfl
    simp [act] at h
  have hmap : ((Desync.next t.client a).map fun r =>
      (judgements conn t.snapshotFrom t.hashFrom (poll a) r.1, { t with client := r.2 })) =
        some (js, t') := by
    cases a with
    | receive m => exact absurd rfl (hreceive m)
    | _ => exact h
  obtain ⟨⟨o, c'⟩, hr, heq⟩ := Option.map_eq_some_iff.1 hmap
  obtain ⟨rfl, rfl⟩ := Prod.mk.inj heq
  exact ⟨hreceive, o, c', hr, rfl, rfl⟩

/-- A client that acts on its own judges only at the end of a `SessionClient::Step`. -/
lemma exists_pass_of_act {conn : HSteamNetConnection} {t t' : Station I} {a : Action I}
    {js : List Judgement} (h : t.act conn a = some (js, t')) {j : Judgement} (hj : j ∈ js) :
    ∃ poll, a = .pass poll ∧
      j ∈ judgements conn t.snapshotFrom t.hashFrom poll (t.client.pass poll).1 := by
  obtain ⟨hreceive, o, c', hr, rfl, -⟩ := exists_next_of_act h
  by_cases hpass : ∃ poll, a = .pass poll
  · obtain ⟨poll, rfl⟩ := hpass
    obtain ⟨rfl, -⟩ := Prod.mk.inj (Option.some.inj hr)
    exact ⟨poll, rfl, hj⟩
  · push Not at hpass
    -- nothing is compared, so nothing is judged
    have hnil : judgements conn t.snapshotFrom t.hashFrom (poll a) o = [] := by
      simp [judgements, snapshotComparisons_of_next hpass hreceive hr, (quiet_of_next hpass hr).2]
    rw [hnil] at hj
    simp at hj

end Station

/-! ## The ready state -/

/-- A comparison of the output ends the fight. -/
def Out.ends (poll : Poll) (o : Out) : Bool :=
  (o.snapshotComparisons.any fun cmp => decide cmp.Differs) ||
    o.hashComparisons.any fun cmp => terminates poll cmp

lemma ends_append (poll : Poll) (o o' : Out) :
    (o.append o').ends poll = (o.ends poll || o'.ends poll) := by
  simp only [Out.ends, Out.append, List.any_append]
  grind

@[simp] lemma ends_empty (poll : Poll) : ({} : Out).ends poll = false := rfl

lemma leaving_exchangeHash (c : Client I) (poll : Poll) (f : ℤ) (i : Fin numHashCheckpoints) :
    (c.exchangeHash poll f i).2.leaving =
      (c.leaving || (c.exchangeHash poll f i).1.ends poll) := by
  by_cases hdue : c.Due f i
  · rw [exchangeHash_of_due poll hdue, ends_append]
    have hsend : (c.sendHash poll i).2.leaving = c.leaving ∧
        (c.sendHash poll i).1.ends poll = false := by
      rcases sendHash_cases c poll i with h | ⟨-, h⟩
      all_goals
        rw [h]
        exact ⟨rfl, rfl⟩
    rw [hsend.2, Bool.false_or, ← hsend.1]
    unfold reconcileHash
    dsimp only
    split
    · simp
    · simp [Out.ends]
  · simp [exchangeHash_of_not_due poll hdue]

lemma leaving_exchangeHashes (c : Client I) (poll : Poll) (f : ℤ)
    (slots : List (Fin numHashCheckpoints)) :
    (c.exchangeHashes poll f slots).2.leaving =
      (c.leaving || (c.exchangeHashes poll f slots).1.ends poll) := by
  induction slots generalizing c with
  | nil => simp [exchangeHashes]
  | cons i slots ih =>
    simp only [exchangeHashes, ends_append]
    rw [ih, leaving_exchangeHash, Bool.or_assoc]

lemma leaving_pass (c : Client I) (poll : Poll) :
    (c.pass poll).2.leaving = (c.leaving || (c.pass poll).1.ends poll) := by
  cases h : poll.snapshotsEnabled with
  | false => simp [pass_of_disabled c h]
  | true =>
    rw [pass_of_enabled c h]
    generalize List.finRange numHashCheckpoints = slots
    have hsnap : (c.exchangeSnapshots poll c.frameIdx).2.leaving =
        (c.leaving || (c.exchangeSnapshots poll c.frameIdx).1.ends poll) := by
      simp [exchangeSnapshots, Out.ends]
    simp only [ends_append]
    rw [leaving_exchangeHashes, hsnap, Bool.or_assoc]

lemma leaving_onMessage (c : Client I) (m : Message) (poll : Poll) :
    (c.onMessage m).2.leaving = (c.leaving || (c.onMessage m).1.ends poll) := by
  cases m with
  | snapshot m =>
    simp only [onMessage, onSnapshot]
    split
    · simp [Out.ends]
    · simp
  | hash m => simp [onMessage, onHash, Out.ends]

lemma leaving_capture {c c' : Client I} (h : c.capture = some c') : c'.leaving = c.leaving := by
  rcases capture_eq h with ⟨-, rfl⟩ | ⟨frame, -, ring, -, -, rfl⟩
  · rfl
  · obtain ⟨m, hm⟩ := captureSnapshot_eq c frame
    rw [hm]

/-- A client sets its ready state to `RS_ISLEAVING` over its comparisons and nothing else. -/
lemma leaving_of_next {c c' : Client I} {act : Action I} {o : Out}
    (h : Desync.next c act = some (o, c')) :
    c'.leaving = (c.leaving || o.ends (Station.poll act)) := by
  cases act with
  | battleUpdate frame resim =>
    obtain ⟨c₁, hc₁, heq⟩ := Option.map_eq_some_iff.1 h
    obtain ⟨rfl, rfl⟩ := Prod.mk.inj heq
    have hkeep : c₁.leaving = c.leaving :=
      battleUpdate_preserves (p := fun c' => c'.leaving = c.leaving) (fun _ _ hp => hp)
        (fun _ _ hp => hp) (fun _ _ hcap hp => (leaving_capture hcap).trans hp) hc₁ rfl
    simpa using hkeep
  | idle resim =>
    obtain ⟨c₁, hc₁, heq⟩ := Option.map_eq_some_iff.1 h
    obtain ⟨rfl, rfl⟩ := Prod.mk.inj heq
    have hkeep : c₁.leaving = c.leaving :=
      rollback_preserves (p := fun c' => c'.leaving = c.leaving) (fun _ _ hp => hp)
        (fun _ _ hp => hp) (fun _ _ hcap hp => (leaving_capture hcap).trans hp) hc₁ rfl
    simpa using hkeep
  | receive m =>
    obtain ⟨rfl, rfl⟩ := Prod.mk.inj (Option.some.inj h)
    exact leaving_onMessage c m {}
  | pass poll =>
    obtain ⟨rfl, rfl⟩ := Prod.mk.inj (Option.some.inj h)
    exact leaving_pass c poll
  | engineUpdate | clearBattleState | startMatch | startBattle =>
    obtain ⟨rfl, rfl⟩ := Prod.mk.inj (Option.some.inj h)
    simp [simulate, clearBattleState, startBattle, Out.ends]

lemma any_ends_judgements (conn : HSteamNetConnection) (sf hf : ℤ → Bool) (poll : Poll)
    (o : Out) : ((Station.judgements conn sf hf poll o).any fun j => j.ends) = o.ends poll := by
  simp [Station.judgements, Out.ends, List.any_append, List.any_map, Function.comp_def]

lemma leaving_receive (conn : HSteamNetConnection) (t : Station I) (r : Relayed)
    (rest : List Relayed) : (t.receive conn r rest).2.client.leaving =
      (t.client.leaving || (t.receive conn r rest).1.any fun j => j.ends) := by
  rw [Station.receive_fst, any_ends_judgements, ← leaving_onMessage]
  simp only [Station.receive]
  split
  · split_ifs <;> rfl
  · rfl

lemma leaving_act {conn : HSteamNetConnection} {t t' : Station I} {a : Action I}
    {js : List Judgement} (h : t.act conn a = some (js, t')) :
    t'.client.leaving = (t.client.leaving || js.any fun j => j.ends) := by
  obtain ⟨-, o, c', hr, rfl, rfl⟩ := Station.exists_next_of_act h
  rw [any_ends_judgements]
  exact leaving_of_next hr

/-- **The judgements say it all.** A client's ready state is `RS_ISLEAVING` after a step exactly
if it was before or one of the client's judgements ends the fight. -/
theorem leaving_of_steps {e : WorldEntry I} (hs : (worldLTS I).Steps e)
    {conn : HSteamNetConnection} (hsame : e.act ≠ .connect conn) :
    (e.post.station conn).client.leaving =
      ((e.pre.station conn).client.leaving || e.out.any fun j => j.conn = conn && j.ends) := by
  obtain ⟨w, act, js, w'⟩ := e
  have hnext : w.next act = some (js, w') := hs
  -- a step of another client judges nothing on this connection
  have hother : ∀ {conn' js' t'}, conn' ≠ conn → (∀ j ∈ js', j.conn = conn') →
      ((Function.update w.station conn' t' : HSteamNetConnection → Station I) conn).client.leaving =
        ((w.station conn).client.leaving ||
          (js' : List Judgement).any fun j => j.conn = conn && j.ends) := by
    intro conn' js' t' hne hjs
    have hnone : (js'.any fun j => decide (j.conn = conn) && j.ends) = false := by
      rw [List.any_eq_false]
      intro j hj
      simp [hjs j hj, hne]
    rw [hnone, Function.update_of_ne hne.symm, Bool.or_false]
  have hown : ∀ {js' : List Judgement}, (∀ j ∈ js', j.conn = conn) →
      (js'.any fun j => decide (j.conn = conn) && j.ends) = js'.any fun j => j.ends := by
    intro js' hjs
    rw [Bool.eq_iff_iff, List.any_eq_true, List.any_eq_true]
    refine exists_congr fun j => and_congr_right fun hj => ?_
    simp [hjs j hj]
  cases act with
  | packet p =>
    obtain ⟨r, -, heq⟩ := Option.map_eq_some_iff.1 hnext
    obtain ⟨rfl, rfl⟩ := Prod.mk.inj heq
    simp
  | server a =>
    cases a with
    | message m => simp [World.next] at hnext
    | _ =>
      obtain ⟨r, -, heq⟩ := Option.map_eq_some_iff.1 hnext
      obtain ⟨rfl, rfl⟩ := Prod.mk.inj heq
      simp
  | deliver conn' =>
    simp only [World.next] at hnext
    split at hnext
    · exact absurd hnext (by simp)
    · rename_i r rest hinbox
      obtain ⟨rfl, rfl⟩ := Prod.mk.inj (Option.some.inj hnext)
      have hjs : ∀ j ∈ ((w.station conn').receive conn' r rest).1, j.conn = conn' :=
        fun j hj => (Station.mem_judgements (Station.receive_fst .. ▸ hj)).1
      by_cases hc : conn' = conn
      · subst hc
        simp only [Function.update_self, hown hjs]
        exact leaving_receive ..
      · exact hother hc hjs
  | client conn' a =>
    obtain ⟨⟨js', t'⟩, hact, heq⟩ := Option.map_eq_some_iff.1 hnext
    obtain ⟨rfl, rfl⟩ := Prod.mk.inj heq
    have hjs : ∀ j ∈ js', j.conn = conn' := by
      intro j hj
      obtain ⟨poll, -, hj'⟩ := Station.exists_pass_of_act hact hj
      exact (Station.mem_judgements hj').1
    by_cases hc : conn' = conn
    · subst hc
      simp only [Function.update_self, hown hjs]
      exact leaving_act hact
    · exact hother hc hjs
  | connect conn' =>
    obtain ⟨rfl, rfl⟩ := Prod.mk.inj (Option.some.inj hnext)
    have hc : conn' ≠ conn := fun hc => hsame (hc ▸ rfl)
    exact hother hc (by simp)

/-! ## Runs -/

/-- **Step lemma.** A step in which no spectator intrudes keeps the spectators apart. -/
lemma isolated_of_not_intrudes {e : WorldEntry I} (hs : (worldLTS I).Steps e)
    (hok : ¬ Intrudes e) : Isolated e := by
  obtain ⟨w, act, js, w'⟩ := e
  have hnext : w.next act = some (js, w') := hs
  cases act with
  | packet p =>
    obtain ⟨⟨out, ph⟩, hph, heq⟩ := Option.map_eq_some_iff.1 hnext
    obtain ⟨rfl, rfl⟩ := Prod.mk.inj heq
    refine ⟨fun p' hp' hspec => ?_, fun j hj => absurd hj (by simp)⟩
    obtain rfl : p = p' := Option.some.inj hp'
    cases hpre : w.phase with
    | idle s => simp [hpre, Phase.next] at hph
    | receiving st =>
      rw [hpre] at hph
      obtain ⟨⟨st', out'⟩, hmsg, heq⟩ := Option.map_eq_some_iff.1 hph
      obtain ⟨rfl, rfl⟩ := Prod.mk.inj heq
      simp only [hpre, Phase.server_receiving] at hspec ⊢
      refine keepsMatch_of_spectator hmsg hspec fun hover => hok ?_
      simp only [Intrudes, hpre]
      exact ⟨hspec, hover⟩
  | server a =>
    refine ⟨fun p hp => absurd hp (by simp [WorldAction.packet?]), fun j hj => ?_⟩
    -- the server judges nothing
    have hjs : js = [] := by
      cases a with
      | message m => simp [World.next] at hnext
      | _ =>
        obtain ⟨r, -, heq⟩ := Option.map_eq_some_iff.1 hnext
        exact (Prod.mk.inj heq).1.symm
    simp [hjs] at hj
  | deliver conn =>
    refine ⟨fun p hp => absurd hp (by simp [WorldAction.packet?]), fun j hj hplays hfrom => ?_⟩
    simp only [World.next] at hnext
    split at hnext
    · exact absurd hnext (by simp)
    · rename_i r rest hinbox
      obtain ⟨rfl, -⟩ := Prod.mk.inj (Option.some.inj hnext)
      -- a verdict on a message that came over the server
      have hj' : j ∈ ((w.station conn).receive conn r rest).1 := hj
      obtain rfl := (Station.mem_judgements (Station.receive_fst .. ▸ hj')).1
      by_contra hends
      exact hok ⟨hplays, Station.refutes_of_receive hinbox hj' hfrom (by simpa using hends)⟩
  | client conn a =>
    refine ⟨fun p hp => absurd hp (by simp [WorldAction.packet?]), fun j hj hplays hfrom => ?_⟩
    obtain ⟨⟨js', t'⟩, hact, heq⟩ := Option.map_eq_some_iff.1 hnext
    obtain ⟨rfl, -⟩ := Prod.mk.inj heq
    obtain ⟨poll, rfl, hj'⟩ := Station.exists_pass_of_act hact hj
    obtain rfl := (Station.mem_judgements hj').1
    by_contra hends
    exact hok ⟨hplays, Station.refutesLate_or_denies_of_pass hj' hfrom (by simpa using hends)⟩
  | connect conn =>
    obtain ⟨rfl, -⟩ := Prod.mk.inj (Option.some.inj hnext)
    exact ⟨fun p hp => absurd hp (by simp [WorldAction.packet?]), fun j hj => absurd hj (by simp)⟩

/-- **Spectator isolation.** In a run in which no spectator intrudes, the spectators' messages
change neither the match nor the settings nor the players, and end no player's fight. -/
theorem isolated_of_run {log : List (WorldEntry I)} {w : World I} (h : (worldLTS I).Run log w)
    (hok : ∀ e ∈ log, ¬ Intrudes e) : ∀ e ∈ log, Isolated e := by
  obtain ⟨s, -, hpath⟩ := h
  intro e he
  exact isolated_of_not_intrudes (hpath.steps_of_mem he) (hok e he)

/-- A list of actions that a fresh world can carry out, and whose log passes a test. -/
lemma exists_worldRun_of_exec (acts : List (WorldAction Unit))
    {p : List (WorldEntry Unit) → World Unit → Prop} [∀ log w, Decidable (p log w)]
    (h : (LTS.exec World.next ⟨.idle (.new "" "" true 3 ⟨0, 99⟩), fun _ => .new⟩ [] acts).any
      (fun r => decide (p r.1 r.2)) = true) :
    ∃ log w, (worldLTS Unit).Run log w ∧ p log w := by
  obtain ⟨log, w, hpath, hp⟩ := LTS.exists_path_of_exec acts h
  exact ⟨log, w, ⟨_, ⟨⟨_, _, _, _, _, rfl⟩, rfl⟩, hpath⟩, hp⟩

/-- `A`, `B` and `C` join on the connections 1, 2 and 3. -/
def WorldAction.threeJoin : List (WorldAction I) :=
  .server .beginStep ::
    (Action.enter 1 "A" ++ Action.enter 2 "B" ++ Action.enter 3 "C").filterMap fun a =>
      a.message?.map fun m => .packet ⟨m, none, none⟩

/-- The client on connection 1 simulates sixty frames and takes a snapshot of the last. -/
def WorldAction.sixtyFrames : List (WorldAction Unit) :=
  let frame : Frame Unit := ⟨(), ⟨0, 0, (0, 0)⟩, [7]⟩
  List.replicate 59 (.client 1 (.engineUpdate frame)) ++ [.client 1 (.battleUpdate frame [])]

/-- A snapshot of frame 60 from the connection. -/
def WorldAction.sendSnapshot (conn : HSteamNetConnection) (chara : List UInt8) :
    WorldAction I :=
  .packet ⟨.bare conn 3 .battleSnapshot, some ⟨60, chara, 0⟩, none⟩

/-- The spectator `C` sends a snapshot that agrees with the one of the player `A`, and a report
of a result of its own while nothing is prepared. -/
theorem isolated_agreeing_spectator :
    ∃ log w, (worldLTS Unit).Run log w ∧
      (∃ e ∈ log, ∃ j ∈ e.out, e.pre.phase.server.Plays j.conn ∧ j.fromSpectator = true) ∧
      ∀ e ∈ log, Isolated e := by
  obtain ⟨log, w, hrun, hjudged, hok⟩ := exists_worldRun_of_exec
    (WorldAction.threeJoin ++ WorldAction.sixtyFrames ++ [.sendSnapshot 3 [7], .deliver 1,
      .packet ⟨⟨3, 4, "", true, some { Document.bare .lobbyReportResults with
        reportResults := some ⟨2⟩ }⟩, none, none⟩])
    (p := fun log _ => (∃ e ∈ log, ∃ j ∈ e.out, e.pre.phase.server.Plays j.conn ∧
      j.fromSpectator = true) ∧ ∀ e ∈ log, ¬ Intrudes e) (by decide +kernel)
  exact ⟨log, w, hrun, hjudged, isolated_of_run hrun hok⟩

/-- **A spectator decides a match and ends a fight.** The spectator `C` reports that the player
in slot 0 has lost.  In another run it sends a snapshot that differs from the player's. -/
theorem not_isolated_spectator :
    (¬ ∀ log w, (worldLTS Unit).Run log w → ∀ e ∈ log, ∀ p ∈ e.act.packet?,
      e.pre.phase.server.Spectates p.incoming.conn →
      KeepsMatch e.pre.phase.server e.post.phase.server) ∧
    ¬ ∀ log w, (worldLTS Unit).Run log w → ∀ e ∈ log, ∀ j ∈ e.out,
      e.pre.phase.server.Plays j.conn → j.fromSpectator = true → j.ends = false := by
  constructor
  · intro h
    obtain ⟨log, w, hrun, e, he, p, hp, hspec, hocc⟩ := exists_worldRun_of_exec
      (WorldAction.threeJoin ++ [.packet ⟨⟨3, 3, "", true, some { Document.bare
        .lobbyReportResults with reportResults := some ⟨0⟩ }⟩, none, none⟩])
      (p := fun log _ => ∃ e ∈ log, ∃ p ∈ e.act.packet?,
        e.pre.phase.server.Spectates p.incoming.conn ∧
        e.post.phase.server.occupant 0 ≠ e.pre.phase.server.occupant 0)
      (by decide +kernel)
    exact hocc ((h log w hrun e he p hp hspec).occupant 0)
  · intro h
    obtain ⟨log, w, hrun, e, he, j, hj, hplays, hfrom, hends⟩ := exists_worldRun_of_exec
      (WorldAction.threeJoin ++ WorldAction.sixtyFrames ++ [.sendSnapshot 3 [8], .deliver 1])
      (p := fun log _ => ∃ e ∈ log, ∃ j ∈ e.out, e.pre.phase.server.Plays j.conn ∧
        j.fromSpectator = true ∧ j.ends = true) (by decide +kernel)
    exact absurd (h log w hrun e he j hj hplays hfrom) (by simp [hends])

end Desync
end Sf4e
