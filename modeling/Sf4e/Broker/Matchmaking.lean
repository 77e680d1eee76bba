/-
# Matchmaking

Two requests that are put into the queue one after the other are a pair, and a room is created
for them.  The room is sent to the request that has come second, by whose handler it is created.
The first has been told to wait, and nothing keeps what has become of it: when its client asks
again, it is put into the queue as if it were new.

`AtomicMatches` says what would be wanted for all pairs.  Runs have it in which no client that
has been told to wait asks again and in which no creation for a pair fails (`Orderly`).  Which
client has sent a request is not known to the broker; here it is any function of the requests.
-/
import Sf4e.Broker.Queue
import Sf4e.Broker.ServerSound
import Sf4e.Data.Pairing

namespace Sf4e
namespace Broker

open Trace

variable {s : ServerSettings}

/-! ## The queue and the pairs -/

/-- The requests in the queue, and the pairs that have been taken out of it. -/
def lobby : List (ServerEntry s) → Pairing Waiting
  | [] => {}
  | e :: log =>
    match e.pre.joined e.act with
    | none => lobby log
    | some w => (lobby log).join w

/-- The handler of the request has ended. -/
def Over (log : List (ServerEntry s)) (id : ℕ) : Prop :=
  ∃ e ∈ log, ∃ ending, e.out.ended = some (id, ending)

/-- The room has been sent to the request. -/
def Gets (log : List (ServerEntry s)) (id : ℕ) (room : RoomRecord) : Prop :=
  ∃ e ∈ log, e.pre.obtained e.act = some (id, room)

/-- The answer is one of an error, or there is none. -/
def Ending.failed : Ending → Bool
  | .answered a => 400 ≤ a.status
  | .thrown => true

section

variable {κ : Type*} (client : ℕ → κ)

/-- The request is the first one of the client for a match along a log. -/
def NextPoll (k : κ) (log : List (ServerEntry s)) (id : ℕ) : Prop :=
  ∃ later e earlier body, log = later ++ e :: earlier ∧
    e.pre.polled e.act = some (id, body) ∧ client id = k ∧
    ∀ e' ∈ earlier, ∀ r ∈ e'.pre.polled e'.act, client r.1 ≠ k

/-- What is wanted of matchmaking. -/
structure AtomicMatches (log : List (ServerEntry s)) : Prop where
  /-- No request is in two pairs, or twice in one. -/
  once : ((lobby log).members.map Waiting.id).Nodup
  /-- The two of a pair are of different clients. -/
  differ : ∀ p ∈ (lobby log).pairs, client p.1.id ≠ client p.2.id
  /-- The answer to the second is a room. -/
  second : ∀ p ∈ (lobby log).pairs, Over log p.2.id → ∃ room, Gets log p.2.id room
  /-- The answer to the next request of the first one's client is the same room. -/
  first : ∀ newer e older a b, log = newer ++ e :: older →
    (lobby (e :: older)).pairs = (a, b) :: (lobby older).pairs →
    ∀ id, NextPoll client (client a.id) newer id → Over log id →
      ∃ room, Gets log id room ∧ (Over log b.id → Gets log b.id room)
  /-- A request that ends in an error is not left in the queue and has taken nothing out. -/
  failed : ∀ e ∈ log, ∀ id ending, e.out.ended = some (id, ending) → ending.failed = true →
    id ∉ (lobby log).waiting.map Waiting.id ∧ id ∉ (lobby log).pairs.map fun p => p.2.id

end

/-! ## Orderly runs -/

/-- The creation of a room with these arguments can begin. -/
def Server.creates (t : Server s.capacity) (args : CreateArgs) : Bool :=
  t.registry.rooms.length < s.capacity.maxRooms &&
    (allocatePortPair s.capacity t.registry.roomPorts t.registry.reservedPorts).isSome &&
    (!s.forceVpsRelay || isValidSidecarHash args.sidecarHash)

/-- The creation goes on with the answer of the relay manager. -/
def Creation.starts {config : CapacityConfig} (c : Creation config) (reply : Option HttpReply) :
    Bool :=
  match c.stage with
  | .startingSession =>
    match startRelaySession reply with
    | .started => true
    | _ => false
  | .startingGgpo =>
    match startGgpoRelaySession reply with
    | .started => true
    | .failed message => message.toText.isSome
    | .thrown => false

/-- The creation for a pair that gets an answer, and the answer. -/
def answered (e : ServerEntry s) : Option (Creation s.capacity × Option HttpReply) :=
  match e.act with
  | .reply id reply _ =>
    match e.pre.jobs.at? id with
    | some (.creating c true) => some (c, reply)
    | _ => none
  | _ => none

section

variable {κ : Type*} (client : ℕ → κ)

/-- A client that has been told to wait does not ask for a match again, but for a request that is
refused while the client is still waiting. -/
def AsksOnce (older : List (ServerEntry s)) (e : ServerEntry s) : Prop :=
  ∀ r ∈ e.pre.polled e.act, ∀ w ∈ (lobby older).firsts, client w.id = client r.1 →
    (e.pre.joined e.act).isNone = true ∧ w.id ∈ (lobby older).waiting.map Waiting.id

/-- The creation for the pair that the step makes can begin. -/
def Begins (e : ServerEntry s) : Prop :=
  ∀ r ∈ e.pre.polled e.act, ∀ q ∈ e.pre.pairOf r.2,
    (Server.pairArgs s q.1 q.2.1 q.2.2).any e.pre.creates = true

/-- The creation for a pair that gets its answer in the step can go on. -/
def GoesOn (e : ServerEntry s) : Prop := ∀ r ∈ answered e, r.1.starts r.2 = true

/-- All steps of a log are orderly. -/
def Orderly : List (ServerEntry s) → Prop
  | [] => True
  | e :: log => (AsksOnce client log e ∧ Begins e ∧ GoesOn e) ∧ Orderly log

instance [DecidableEq κ] (older : List (ServerEntry s)) (e : ServerEntry s) :
    Decidable (AsksOnce client older e) :=
  inferInstanceAs (Decidable (∀ r ∈ e.pre.polled e.act, ∀ w ∈ (lobby older).firsts,
    client w.id = client r.1 →
      (e.pre.joined e.act).isNone = true ∧ w.id ∈ (lobby older).waiting.map Waiting.id))

instance (e : ServerEntry s) : Decidable (Begins e) :=
  inferInstanceAs (Decidable (∀ r ∈ e.pre.polled e.act, ∀ q ∈ e.pre.pairOf r.2,
    (Server.pairArgs s q.1 q.2.1 q.2.2).any e.pre.creates = true))

instance (e : ServerEntry s) : Decidable (GoesOn e) :=
  inferInstanceAs (Decidable (∀ r ∈ answered e, r.1.starts r.2 = true))

/-- Whether all steps of a log are orderly. -/
def decideOrderly [DecidableEq κ] : ∀ log : List (ServerEntry s), Decidable (Orderly client log)
  | [] => .isTrue trivial
  | e :: log =>
    have : Decidable (Orderly client log) := decideOrderly log
    inferInstanceAs (Decidable ((AsksOnce client log e ∧ Begins e ∧ GoesOn e) ∧ Orderly client log))

instance [DecidableEq κ] : DecidablePred (Orderly (s := s) client) := decideOrderly client

end

/-! ## What a step does to the pairs -/

variable {t : Server s.capacity} {log : List (ServerEntry s)} {e : ServerEntry s}

lemma lobby_cons_of_none (h : e.pre.joined e.act = none) : lobby (e :: log) = lobby log := by
  simp only [lobby, h]

lemma lobby_cons_of_some {w : Waiting} (h : e.pre.joined e.act = some w) :
    lobby (e :: log) = (lobby log).join w := by
  simp only [lobby, h]

lemma Over.cons {id : ℕ} (h : Over log id) (e : ServerEntry s) : Over (e :: log) id := by
  obtain ⟨e', he', hended⟩ := h
  exact ⟨e', List.mem_cons_of_mem _ he', hended⟩

lemma Gets.cons {id : ℕ} {room : RoomRecord} (h : Gets log id room) (e : ServerEntry s) :
    Gets (e :: log) id room := by
  obtain ⟨e', he', hobtained⟩ := h
  exact ⟨e', List.mem_cons_of_mem _ he', hobtained⟩

/-- A request that is over after a step is over before it, or ends in it. -/
lemma Over.of_cons {id : ℕ} (h : Over (e :: log) id) :
    Over log id ∨ ∃ ending, e.out.ended = some (id, ending) := by
  obtain ⟨e', he', hended⟩ := h
  rcases List.mem_cons.1 he' with rfl | he'
  · exact .inr hended
  · exact .inl ⟨e', he', hended⟩

namespace Server

lemma joined_body {id : ℕ} {body name : Value} (draws : Draws)
    (hat : t.jobs.at? id = some (.reading .queueJoin))
    (hname : t.joining s (some body) = some name) :
    t.joined (.body id (some body) draws) = some ⟨id, name⟩ := by
  simp [joined, polled_body id (some body) draws hat, hname]

lemma pairTurn_reply {id : ℕ} {c : Creation s.capacity} {reply : Option HttpReply}
    {draws : Draws} {ct : Turn s.capacity} (hat : t.jobs.at? id = some (.creating c true))
    (hct : t.registry.resume s.toSettings c reply draws = some ct) :
    t.pairTurn (.reply id reply draws) = some (id, ct) := by
  simp [pairTurn, hat, hct]

lemma pairOf_eq {body name a b : Value} {rest : List Value}
    (hname : t.joining s (some body) = some name) (hqueue : t.queue ++ [name] = a :: b :: rest) :
    t.pairOf (some body) = some (a, b, body) := by
  simp only [pairOf, hname, hqueue]

end Server

/-! ## Every run

A request is in the lobby once.  Its handler is over or creates the room of its pair. -/

/-- The handlers of the requests in the lobby, and of those that are over. -/
structure Handled (log : List (ServerEntry s)) (jobs : Jobs (Suspended s.capacity)) : Prop where
  numbered : jobs.Numbered
  members : ∀ w ∈ (lobby log).members, w.id < jobs.count ∧
    (jobs.at? w.id = none ∨ ∃ c, jobs.at? w.id = some (.creating c true))
  ended : ∀ id, Over log id → id < jobs.count ∧ jobs.at? id = none

namespace Handled

variable {jobs : Jobs (Suspended s.capacity)} {id : ℕ}

lemma draw (h : Handled log jobs) : Handled log jobs.draw where
  numbered := h.numbered.draw
  members w hw := ⟨Nat.lt_succ_of_lt (h.members w hw).1, (h.members w hw).2⟩
  ended id hid := ⟨Nat.lt_succ_of_lt (h.ended id hid).1, (h.ended id hid).2⟩

/-- A handler that is at work and does not create the room of a pair is not that of a request in
the lobby. -/
lemma ne_of_unpaired (h : Handled log jobs) {hd : Suspended s.capacity}
    (hat : jobs.at? id = some hd) (hunpaired : ∀ c, hd ≠ .creating c true) {w : Waiting}
    (hw : w ∈ (lobby log).members) : w.id ≠ id := by
  rintro rfl
  rcases (h.members w hw).2 with hnone | ⟨c, hcreating⟩
  · rw [hnone] at hat
    cases hat
  · rw [hcreating] at hat
    exact hunpaired c (Option.some.inj hat).symm

lemma not_over (h : Handled log jobs) {hd : Suspended s.capacity}
    (hat : jobs.at? id = some hd) : ¬ Over log id := by
  intro hover
  rw [(h.ended id hover).2] at hat
  cases hat

/-- A handler has a turn.  The requests that come into the lobby are its own, and it creates a
room for them or is over. -/
lemma settle (h : Handled log jobs) {progress : Suspended s.capacity ⊕ Ending}
    (hid : id < jobs.count) (hnot : ¬ Over log id) (hended : e.out.ended = Jobs.ended id progress)
    (hmembers : ∀ w ∈ (lobby (e :: log)).members, (w ∈ (lobby log).members ∧ w.id ≠ id) ∨
      w.id = id ∧ ∀ hd, progress = .inl hd → ∃ c, hd = .creating c true) :
    Handled (e :: log) (jobs.settle id progress) where
  numbered := h.numbered.settle hid progress
  members w hw := by
    rw [Jobs.count_settle]
    rcases hmembers w hw with ⟨hold, hne⟩ | ⟨rfl, hcreates⟩
    · rw [Jobs.at?_settle_of_ne progress hne]
      exact h.members w hold
    · refine ⟨hid, ?_⟩
      rw [Jobs.at?_settle_self]
      cases progress with
      | inl hd =>
        obtain ⟨c, rfl⟩ := hcreates hd rfl
        exact .inr ⟨c, rfl⟩
      | inr ending => exact .inl rfl
  ended id' hover := by
    rw [Jobs.count_settle]
    rcases hover.of_cons with hold | ⟨ending, hnew⟩
    · have hne : id' ≠ id := by
        rintro rfl
        exact hnot hold
      rw [Jobs.at?_settle_of_ne progress hne]
      exact h.ended id' hold
    · rw [hended] at hnew
      obtain ⟨rfl, rfl⟩ := Jobs.of_ended hnew
      exact ⟨hid, Jobs.at?_settle_self _⟩

end Handled

/-- The queue has the names of the requests that wait, one at most, and the lobby no request
twice. -/
structure Lined (log : List (ServerEntry s)) (t : Server s.capacity) : Prop where
  handled : Handled log t.jobs
  queue : t.queue = (lobby log).waiting.map Waiting.name
  short : (lobby log).waiting.length ≤ 1
  once : ((lobby log).members.map Waiting.id).Nodup

namespace Lined

/-- The progress of a turn of a creation for a pair. -/
lemma creating_of_creationTurn {t : Server s.capacity} {ct : Turn s.capacity}
    {hd : Suspended s.capacity} (h : (t.creationTurn s true ct).progress = .inl hd) :
    ∃ c, hd = .creating c true := by
  simp only [Server.creationTurn] at h
  split at h
  · rename_i c hc
    exact ⟨c, (Sum.inl.inj h).symm⟩
  · cases h

/-- What the turn of a request for a match leaves: the queue, with the lobby, and the handler. -/
lemma of_joinTurn (h : Lined log t) (id : ℕ) {body name : Value} {draws : Draws}
    {turn : HandlerTurn s.capacity} (hturn : JoinTurn t body name draws turn) :
    turn.server.queue = ((lobby log).join ⟨id, name⟩).waiting.map Waiting.name ∧
      turn.server.jobs = t.jobs ∧
      ∀ hd, turn.progress = .inl hd → ∃ c, hd = .creating c true := by
  have hjoined := Pairing.joined h.short ⟨id, name⟩
  have hqueue := h.queue
  generalize (lobby log).join ⟨id, name⟩ = q at hjoined ⊢
  cases hturn with
  | waits hempty =>
    refine ⟨?_, rfl, by simp [Server.answer]⟩
    cases hjoined with
    | waits hnone => rfl
    | pairs hone => simp [hempty, hone] at hqueue
  | throws hpair hargs =>
    refine ⟨?_, rfl, by simp [Server.throw]⟩
    cases hjoined with
    | waits hnone => simp [hqueue, hnone] at hpair
    | pairs hone =>
      rw [hqueue, hone] at hpair
      simp only [List.map_cons, List.map_nil, List.cons_append, List.nil_append,
        List.cons.injEq] at hpair
      exact hpair.2.2.symm
  | creates hpair hargs hct =>
    refine ⟨?_, rfl, fun hd hhd => creating_of_creationTurn hhd⟩
    cases hjoined with
    | waits hnone => simp [hqueue, hnone] at hpair
    | pairs hone =>
      rw [hqueue, hone] at hpair
      simp only [List.map_cons, List.map_nil, List.cons_append, List.nil_append,
        List.cons.injEq] at hpair
      exact hpair.2.2.symm

/-- The lobby stays as it is. -/
lemma of_same (h : Lined log t) {t' : Server s.capacity} (hjoined : e.pre.joined e.act = none)
    (hqueue : t'.queue = t.queue) (hhandled : Handled (e :: log) t'.jobs) :
    Lined (e :: log) t' := by
  have hlobby : lobby (e :: log) = lobby log := lobby_cons_of_none hjoined
  exact ⟨hhandled, by rw [hlobby, hqueue, h.queue], hlobby ▸ h.short, hlobby ▸ h.once⟩

/-- **Step lemma.** -/
lemma step (h : Lined log t) {act : ServerAction} {r : ServerOut × Server s.capacity}
    (hstep : QueueStep t act r) : Lined (⟨t, act, r.1, r.2⟩ :: log) r.2 := by
  cases hstep with
  | @timer _ out t' hpolled hpair hended hqueue hjobs =>
    have hjoined : t.joined act = none := by simp [Server.joined, hpolled]
    refine h.of_same hjoined hqueue ?_
    have hlobby : lobby (⟨t, act, out, t'⟩ :: log) = lobby log := lobby_cons_of_none hjoined
    refine ⟨?_, ?_, fun id hover => ?_⟩
    · rw [hjobs]
      exact h.handled.numbered
    · rw [hlobby, hjobs]
      exact h.handled.members
    · rcases hover.of_cons with hold | ⟨ending, hnew⟩
      · rw [hjobs]
        exact h.handled.ended id hold
      · rw [hended] at hnew
        cases hnew
  | @request req now turn hturn =>
    refine h.of_same rfl hturn.queue ?_
    have hlt := h.handled.draw.numbered
    -- a request that is over has an older number
    have hcount : ∀ id, Over log id → id ≠ t.jobs.count := fun id hover =>
      Nat.ne_of_lt (h.handled.ended id hover).1
    have hjobs : turn.server.jobs = t.jobs.draw := hturn.jobs
    show Handled _ (turn.server.jobs.settle t.jobs.count turn.progress)
    rw [hjobs]
    refine h.handled.draw.settle (Nat.lt_succ_self _) (fun hover => hcount _ hover rfl) rfl ?_
    intro w hw
    exact .inl ⟨hw, Nat.ne_of_lt (h.handled.members w hw).1⟩
  | @aside _ id hd turn hat hunpaired hjoined hpair hturn =>
    refine h.of_same hjoined hturn.queue ?_
    show Handled _ (turn.server.jobs.settle id turn.progress)
    rw [hturn.jobs]
    have hlobby : lobby (⟨t, act, (Server.settle id turn).1, (Server.settle id turn).2⟩ :: log) =
      lobby log := lobby_cons_of_none hjoined
    -- a handler that waits for no pair is no member of the lobby
    refine h.handled.settle (h.handled.numbered.lt_of_at? hat) (h.handled.not_over hat) rfl ?_
    intro w hw
    rw [hlobby] at hw
    exact .inl ⟨hw, h.handled.ne_of_unpaired hat hunpaired hw⟩
  | @joins id body name draws turn hat hname hturn =>
    have hjoined := Server.joined_body draws hat hname
    have hlobby : lobby (⟨t, .body id (some body) draws, (Server.settle id turn).1,
        (Server.settle id turn).2⟩ :: log) = (lobby log).join ⟨id, name⟩ :=
      lobby_cons_of_some hjoined
    obtain ⟨hqueue, hjobs, hcreates⟩ := h.of_joinTurn id hturn
    have hpairing := Pairing.joined h.short ⟨id, name⟩
    -- it was not a member before it joined
    have hfresh : ∀ w ∈ (lobby log).members, w.id ≠ id := fun w hw =>
      h.handled.ne_of_unpaired hat (by simp) hw
    refine ⟨?_, by rw [hlobby]; exact hqueue, hlobby ▸ hpairing.length_le, ?_⟩
    · show Handled _ (turn.server.jobs.settle id turn.progress)
      rw [hjobs]
      refine h.handled.settle (h.handled.numbered.lt_of_at? hat) (h.handled.not_over hat) rfl ?_
      intro w hw
      rw [hlobby, hpairing.mem_members] at hw
      rcases hw with rfl | hw
      · exact .inr ⟨rfl, hcreates⟩
      · exact .inl ⟨hw, hfresh w hw⟩
    · rw [hlobby]
      refine hpairing.nodup h.once ?_
      rintro hmem
      obtain ⟨w, hw, heq⟩ := List.mem_map.1 hmem
      exact hfresh w hw heq
  | @goesOn id c reply draws ct hat hct =>
    refine h.of_same rfl rfl ?_
    refine h.handled.settle (h.handled.numbered.lt_of_at? hat) (h.handled.not_over hat) rfl ?_
    intro w hw
    by_cases hid : w.id = id
    · exact .inr ⟨hid, fun hd hhd => creating_of_creationTurn hhd⟩
    · exact .inl ⟨hw, hid⟩

end Lined

/-- **Invariant of every run.** -/
lemma lined {newUrl : NewUrl} (h : (serverLTS s newUrl).Run log t) : Lined log t := by
  refine h.invariant_of_step Lined ?_ ?_
  · rintro _ rfl
    exact ⟨⟨Jobs.numbered_empty, by simp [lobby, Pairing.members], by simp [Over]⟩, rfl,
      Nat.zero_le _, List.nodup_nil⟩
  · rintro log ⟨pre, act, out, post⟩ hlined hstep
    have hnext : pre.next s newUrl act = some (out, post) := hstep
    exact hlined.step (Server.queueStep hnext)

/-! ## Creations that do not fail -/

/-- The call is at work or has created a room. -/
def Turn.Fine {config : CapacityConfig} (ct : Turn config) : Prop :=
  (∃ c, ct.progress = .awaits c) ∨ ∃ room, ct.progress = .done (.created room)

lemma fine_commit {reg : Registry} {c : Creation s.capacity} {draws : Draws} {ggpoRelayOk : Bool}
    {ct : Turn s.capacity} (h : reg.commit s.toSettings c draws ggpoRelayOk = some ct) :
    ct.Fine := by
  obtain ⟨-, rfl⟩ := Registry.commit_eq_some h
  exact .inr ⟨_, rfl⟩

lemma fine_createRoomRecord {args : CreateArgs} {draws : Draws} {ct : Turn s.capacity}
    (hcreates : t.creates args = true)
    (h : t.registry.createRoomRecord s.toSettings args draws = some ct) : ct.Fine := by
  simp only [Server.creates, Bool.and_eq_true, Bool.or_eq_true, decide_eq_true_eq,
    Bool.not_eq_true'] at hcreates
  obtain ⟨⟨hrooms, hports⟩, hhash⟩ := hcreates
  obtain ⟨⟨ports, reserved⟩, halloc⟩ := Option.isSome_iff_exists.1 hports
  simp only [Registry.createRoomRecord, if_neg (Nat.not_le.2 hrooms), halloc] at h
  unfold Registry.start at h
  split at h
  · rename_i hforce
    have hvalid : isValidSidecarHash args.sidecarHash = true :=
      hhash.resolve_left (by simp [hforce])
    have hne : args.sidecarHash ≠ [] := by
      intro hempty
      rw [hempty] at hvalid
      cases hvalid
    rw [if_neg (by exact hne), if_pos (by exact hvalid)] at h
    obtain rfl := Option.some.inj h
    exact .inl ⟨_, rfl⟩
  · exact fine_commit h

lemma fine_resume {c : Creation s.capacity} {reply : Option HttpReply} {draws : Draws}
    {ct : Turn s.capacity} (hstarts : c.starts reply = true)
    (h : t.registry.resume s.toSettings c reply draws = some ct) : ct.Fine := by
  unfold Creation.starts at hstarts
  unfold Registry.resume at h
  split at h
  · rename_i hstage
    simp only [hstage] at hstarts
    split at h
    · split at h
      · obtain rfl := Option.some.inj h
        exact .inl ⟨_, rfl⟩
      · exact fine_commit h
    · rename_i message hfailed
      simp [hfailed] at hstarts
    · rename_i hthrown
      simp [hthrown] at hstarts
  · rename_i hstage
    simp only [hstage] at hstarts
    split at h
    · exact fine_commit h
    · rename_i message hfailed
      simp only [hfailed] at hstarts
      rw [if_pos hstarts] at h
      exact fine_commit h
    · rename_i hthrown
      simp [hthrown] at hstarts

/-- What such a turn of a creation for a pair leaves. -/
lemma Turn.Fine.progress {ct : Turn s.capacity} (h : ct.Fine) (t : Server s.capacity) :
    (∃ c, (t.creationTurn s true ct).progress = .inl (.creating c true)) ∨
      (t.creationTurn s true ct).progress = .inr (.answered ⟨200, none⟩) ∧
        ∃ room, ct.progress = .done (.created room) := by
  obtain ⟨registry, stops, progress⟩ := ct
  rcases h with ⟨c, hc⟩ | ⟨room, hroom⟩
  · obtain rfl : progress = .awaits c := hc
    exact .inl ⟨c, rfl⟩
  · obtain rfl : progress = .done (.created room) := hroom
    exact .inr ⟨rfl, room, rfl⟩

/-! ## Orderly runs -/

section

variable {κ : Type*} {client : ℕ → κ}

/-- What holds of the lobby in an orderly run. -/
structure Matched (client : ℕ → κ) (log : List (ServerEntry s)) (t : Server s.capacity) :
    Prop where
  differ : ∀ p ∈ (lobby log).pairs, client p.1.id ≠ client p.2.id
  second : ∀ p ∈ (lobby log).pairs, (∃ c, t.jobs.at? p.2.id = some (.creating c true)) ∨
    ∃ room, Gets log p.2.id room
  failed : ∀ e ∈ log, ∀ id ending, e.out.ended = some (id, ending) → ending.failed = true →
    ∀ w ∈ (lobby log).members, w.id ≠ id

namespace Matched

/-- Nothing comes into the lobby, and no request of it has its turn. -/
lemma of_same (h : Matched client log t) {t' : Server s.capacity}
    (hlobby : lobby (e :: log) = lobby log)
    (hat : ∀ w ∈ (lobby log).members, t'.jobs.at? w.id = t.jobs.at? w.id)
    (hended : ∀ id ending, e.out.ended = some (id, ending) →
      ∀ w ∈ (lobby log).members, w.id ≠ id) : Matched client (e :: log) t' where
  differ p hp := by
    rw [hlobby] at hp
    exact h.differ p hp
  second p hp := by
    rw [hlobby] at hp
    rw [hat p.2 (Pairing.snd_mem_members hp)]
    rcases h.second p hp with hcreating | ⟨room, hgets⟩
    · exact .inl hcreating
    · exact .inr ⟨room, hgets.cons e⟩
  failed e' he' id ending hend hfailed w hw := by
    rw [hlobby] at hw
    rcases List.mem_cons.1 he' with rfl | he'
    · exact hended id ending hend w hw
    · exact h.failed e' he' id ending hend hfailed w hw

/-- The handler of the second of a pair has a turn, which does not fail. -/
lemma of_fine (h : Matched client log t) (t' : Server s.capacity) {act : ServerAction} {id : ℕ}
    {ct : Turn s.capacity} (hct : ct.Fine) (hpair : t.pairTurn act = some (id, ct))
    (hjobs : t'.jobs = t.jobs)
    (hdiffer : ∀ p ∈ (lobby (⟨t, act, (Server.settle id (t'.creationTurn s true ct)).1,
      (Server.settle id (t'.creationTurn s true ct)).2⟩ :: log)).pairs,
        p ∈ (lobby log).pairs ∨ p.2.id = id ∧ client p.1.id ≠ client p.2.id)
    (hmembers : ∀ w ∈ (lobby (⟨t, act, (Server.settle id (t'.creationTurn s true ct)).1,
      (Server.settle id (t'.creationTurn s true ct)).2⟩ :: log)).members,
        w ∈ (lobby log).members ∨ ¬ Over log w.id) :
    Matched client (⟨t, act, (Server.settle id (t'.creationTurn s true ct)).1,
      (Server.settle id (t'.creationTurn s true ct)).2⟩ :: log)
      (Server.settle id (t'.creationTurn s true ct)).2 where
  differ p hp := by
    rcases hdiffer p hp with hold | ⟨-, hne⟩
    · exact h.differ p hold
    · exact hne
  second p hp := by
    show (∃ c, ((t'.creationTurn s true ct).server.jobs.settle id
      (t'.creationTurn s true ct).progress).at? p.2.id = some (.creating c true)) ∨ _
    have hserver : (t'.creationTurn s true ct).server.jobs = t.jobs := hjobs
    by_cases hid : p.2.id = id
    · rw [hid, Jobs.at?_settle_self]
      rcases hct.progress t' with ⟨c, hc⟩ | ⟨-, room, hroom⟩
      · rw [hc]
        exact .inl ⟨c, rfl⟩
      · refine .inr ⟨room, _, List.mem_cons_self, ?_⟩
        simp only [Server.obtained, hpair, Option.bind_some, hroom]
    · rw [Jobs.at?_settle_of_ne _ hid, hserver]
      rcases hdiffer p hp with hold | ⟨heq, -⟩
      · rcases h.second p hold with hcreating | ⟨room, hgets⟩
        · exact .inl hcreating
        · exact .inr ⟨room, hgets.cons _⟩
      · exact absurd heq hid
  failed e' he' id' ending hend hfailed w hw := by
    rcases List.mem_cons.1 he' with rfl | he'
    · -- the turn ends with a room, if it ends
      have hended : Jobs.ended id (t'.creationTurn s true ct).progress = some (id', ending) := hend
      rcases hct.progress t' with ⟨c, hc⟩ | ⟨hanswered, -⟩
      · rw [hc] at hended
        cases hended
      · rw [hanswered] at hended
        obtain ⟨-, hending⟩ := Jobs.of_ended hended
        obtain rfl := Sum.inr.inj hending
        cases hfailed
    · rcases hmembers w hw with hold | hnot
      · exact h.failed e' he' id' ending hend hfailed w hold
      · rintro rfl
        exact hnot ⟨e', he', ending, hend⟩

/-- The turn in which a request is put into the queue. -/
lemma joins (h : Matched client log t) (hlined : Lined log t) {id : ℕ} {body name : Value}
    {draws : Draws} {turn : HandlerTurn s.capacity}
    (hat : t.jobs.at? id = some (.reading .queueJoin))
    (hname : t.joining s (some body) = some name) (hturn : JoinTurn t body name draws turn)
    (hasks : AsksOnce client log ⟨t, .body id (some body) draws, (Server.settle id turn).1,
      (Server.settle id turn).2⟩)
    (hbegins : Begins ⟨t, .body id (some body) draws, (Server.settle id turn).1,
      (Server.settle id turn).2⟩) :
    Matched client (⟨t, .body id (some body) draws, (Server.settle id turn).1,
      (Server.settle id turn).2⟩ :: log) (Server.settle id turn).2 := by
  have hhandled := hlined.handled
  have hpolled := Server.polled_body id (some body) draws hat
  have hjoined := Server.joined_body draws hat hname
  have hnot : ¬ Over log id := hhandled.not_over hat
  have hpairing := Pairing.joined hlined.short ⟨id, name⟩
  have hlobby : lobby (⟨t, .body id (some body) draws, (Server.settle id turn).1,
      (Server.settle id turn).2⟩ :: log) = (lobby log).join ⟨id, name⟩ :=
    lobby_cons_of_some hjoined
  -- whoever has had to wait is another client
  have hclient : ∀ w ∈ (lobby log).firsts, client w.id ≠ client id := by
    intro w hw heq
    obtain ⟨hnone, -⟩ := hasks (id, some body) hpolled w hw heq
    rw [hjoined] at hnone
    cases hnone
  have hpairs : ∀ p ∈ ((lobby log).join ⟨id, name⟩).pairs,
      p ∈ (lobby log).pairs ∨ p.2.id = id ∧ client p.1.id ≠ client p.2.id := by
    intro p hp
    generalize (lobby log).join ⟨id, name⟩ = q at hpairing hp
    cases hpairing with
    | waits hnone => exact .inl hp
    | @pairs b hone =>
      rcases List.mem_cons.1 hp with rfl | hp
      · refine .inr ⟨rfl, hclient b (List.mem_append_left _ ?_)⟩
        rw [hone]
        exact List.mem_cons_self
      · exact .inl hp
  have hmembers : ∀ w ∈ ((lobby log).join ⟨id, name⟩).members,
      w ∈ (lobby log).members ∨ ¬ Over log w.id := by
    intro w hw
    rcases hpairing.mem_members.1 hw with rfl | hw
    · exact .inr hnot
    · exact .inl hw
  cases hturn with
  | waits hempty =>
    have hnone : (lobby log).waiting = [] := by
      have hqueue := hlined.queue
      rw [hempty] at hqueue
      simpa using hqueue.symm
    have hsame : ((lobby log).join ⟨id, name⟩).pairs = (lobby log).pairs := by
      simp [Pairing.join, hnone]
    refine ⟨fun p hp => ?_, fun p hp => ?_, fun e' he' id' ending hend hfailed w hw => ?_⟩
    · rw [hlobby, hsame] at hp
      exact h.differ p hp
    · rw [hlobby, hsame] at hp
      have hne : p.2.id ≠ id :=
        hhandled.ne_of_unpaired hat (by simp) (Pairing.snd_mem_members hp)
      show (∃ c, (t.jobs.settle id _).at? p.2.id = some (.creating c true)) ∨ _
      rw [Jobs.at?_settle_of_ne _ hne]
      rcases h.second p hp with hcreating | ⟨room, hgets⟩
      · exact .inl hcreating
      · exact .inr ⟨room, hgets.cons _⟩
    · rw [hlobby] at hw
      rcases List.mem_cons.1 he' with rfl | he'
      · have hended : Jobs.ended id (.inr (.answered ⟨202, none⟩) :
            Suspended s.capacity ⊕ Ending) = some (id', ending) := hend
        obtain ⟨-, hending⟩ := Jobs.of_ended hended
        obtain rfl := Sum.inr.inj hending
        cases hfailed
      · rcases hmembers w hw with hold | hnew
        · exact h.failed e' he' id' ending hend hfailed w hold
        · rintro rfl
          exact hnew ⟨e', he', ending, hend⟩
  | throws hpair hargs =>
    have hok := hbegins (id, some body) hpolled _ (Server.pairOf_eq hname hpair)
    rw [hargs] at hok
    cases hok
  | @creates a b rest args ct hpair hargs hct =>
    have hok := hbegins (id, some body) hpolled _ (Server.pairOf_eq hname hpair)
    rw [hargs] at hok
    have hturn : t.pairTurn (.body id (some body) draws) = some (id, ct) := by
      simp [Server.pairTurn, hpolled, Server.pairOf_eq hname hpair, hargs, hct]
    refine h.of_fine { t with queue := rest } (fine_createRoomRecord hok hct) hturn rfl
      ?_ ?_
    · rw [hlobby]
      exact hpairs
    · rw [hlobby]
      exact hmembers

/-- **Step lemma.** -/
lemma step (h : Matched client log t) (hlined : Lined log t) {act : ServerAction}
    {r : ServerOut × Server s.capacity} (hstep : QueueStep t act r)
    (hasks : AsksOnce client log ⟨t, act, r.1, r.2⟩) (hbegins : Begins ⟨t, act, r.1, r.2⟩)
    (hgoes : GoesOn ⟨t, act, r.1, r.2⟩) : Matched client (⟨t, act, r.1, r.2⟩ :: log) r.2 := by
  have hhandled := hlined.handled
  cases hstep with
  | @timer _ out t' hpolled hpair hended hqueue hjobs =>
    have hjoined : t.joined act = none := by simp [Server.joined, hpolled]
    refine h.of_same (lobby_cons_of_none hjoined) (fun w _ => by rw [hjobs]) ?_
    intro id ending hend
    rw [hended] at hend
    cases hend
  | @request req now turn hturn =>
    have hne : ∀ w ∈ (lobby log).members, w.id ≠ t.jobs.count := fun w hw =>
      Nat.ne_of_lt (hhandled.members w hw).1
    refine h.of_same (lobby_cons_of_none rfl) ?_ ?_
    · intro w hw
      have hjobs : turn.server.jobs = t.jobs.draw := hturn.jobs
      show (turn.server.jobs.settle t.jobs.count turn.progress).at? w.id = _
      rw [hjobs, Jobs.at?_settle_of_ne _ (hne w hw)]
      rfl
    · intro id ending hend w hw
      obtain ⟨rfl, -⟩ := Jobs.of_ended hend
      exact hne w hw
  | @aside _ id hd turn hat hunpaired hjoined hpair hturn =>
    refine h.of_same (lobby_cons_of_none hjoined) ?_ ?_
    · intro w hw
      show (turn.server.jobs.settle id turn.progress).at? w.id = _
      rw [hturn.jobs, Jobs.at?_settle_of_ne _ (hhandled.ne_of_unpaired hat hunpaired hw)]
    · intro id' ending hend w hw
      obtain ⟨rfl, -⟩ := Jobs.of_ended hend
      exact hhandled.ne_of_unpaired hat hunpaired hw
  | joins hat hname hturn => exact h.joins hlined hat hname hturn hasks hbegins
  | @goesOn id c reply draws ct hat hct =>
    have hok : c.starts reply = true := by
      refine hgoes (c, reply) ?_
      simp [answered, hat]
    exact h.of_fine t (fine_resume hok hct) (Server.pairTurn_reply hat hct) rfl
      (fun p hp => .inl hp) fun w hw => .inl hw

end Matched

lemma matched {newUrl : NewUrl} (h : (serverLTS s newUrl).Run log t)
    (hok : Orderly client log) : Matched client log t := by
  have hboth : Lined log t ∧ (Orderly client log → Matched client log t) := by
    refine h.invariant_of_step (fun log t => Lined log t ∧
      (Orderly client log → Matched client log t)) ?_ ?_
    · rintro _ rfl
      have hempty : (serverLTS s newUrl).Run [] {} := ⟨_, rfl, .refl⟩
      refine ⟨lined hempty, fun _ => ⟨?_, ?_, ?_⟩⟩
      · rintro p ⟨⟩
      · rintro p ⟨⟩
      · rintro e ⟨⟩
    · rintro log ⟨pre, act, out, post⟩ ⟨hlined, hmatched⟩ hstep
      have hnext : pre.next s newUrl act = some (out, post) := hstep
      have hqueue := Server.queueStep hnext
      refine ⟨hlined.step hqueue, ?_⟩
      rintro ⟨⟨hasks, hbegins, hgoes⟩, hrest⟩
      exact (hmatched hrest).step hlined hqueue hasks hbegins hgoes
  exact hboth.2 hok

/-- The lobby along a log. -/
lemma lobby_cons_cases (e : ServerEntry s) (log : List (ServerEntry s)) :
    lobby (e :: log) = lobby log ∨ ∃ w, lobby (e :: log) = (lobby log).join w := by
  cases hjoined : e.pre.joined e.act with
  | none => exact .inl (lobby_cons_of_none hjoined)
  | some w => exact .inr ⟨w, lobby_cons_of_some hjoined⟩

/-- A pair stays one. -/
lemma pairs_mono {p : Waiting × Waiting} (newer : List (ServerEntry s))
    (h : p ∈ (lobby log).pairs) : p ∈ (lobby (newer ++ log)).pairs := by
  induction newer with
  | nil => exact h
  | cons e newer ih =>
    rw [List.cons_append]
    rcases lobby_cons_cases e (newer ++ log) with heq | ⟨w, heq⟩
    · rwa [heq]
    · rw [heq]
      unfold Pairing.join
      split
      · exact List.mem_cons_of_mem _ ih
      · exact ih

lemma Orderly.of_append {newer : List (ServerEntry s)} (h : Orderly client (newer ++ log)) :
    Orderly client log := by
  induction newer with
  | nil => exact h
  | cons e newer ih => exact ih h.2

/-- **The client that has waited does not ask again.** -/
lemma not_nextPoll {newUrl : NewUrl} {newer : List (ServerEntry s)} {a b : Waiting} {id : ℕ}
    (h : (serverLTS s newUrl).Run (newer ++ log) t) (hok : Orderly client (newer ++ log))
    (hpair : (a, b) ∈ (lobby log).pairs) : ¬ NextPoll client (client a.id) newer id := by
  rintro ⟨later, e, earlier, body, rfl, hpolled, hclient, -⟩
  have hsplit : later ++ e :: earlier ++ log = later ++ e :: (earlier ++ log) := by simp
  rw [hsplit] at h hok
  obtain ⟨⟨hasks, -, -⟩, -⟩ := hok.of_append
  obtain ⟨hrun, -, -⟩ := h.at_entry
  have hpair' := pairs_mono earlier hpair
  have hfirst : a ∈ (lobby (earlier ++ log)).firsts :=
    List.mem_append_right _ (List.mem_map.2 ⟨(a, b), hpair', rfl⟩)
  obtain ⟨-, hwaiting⟩ := hasks (id, body) hpolled a hfirst hclient.symm
  -- it would be in the queue and in a pair
  have honce := (lined hrun).once
  rw [Pairing.members, List.map_append, List.nodup_append] at honce
  have hmem : a.id ∈ ((lobby (earlier ++ log)).pairs.flatMap fun q => [q.1, q.2]).map
      Waiting.id :=
    List.mem_map.2 ⟨a, List.mem_flatMap.2 ⟨(a, b), hpair', List.mem_cons_self⟩, rfl⟩
  exact honce.2.2 _ hwaiting _ hmem rfl

/-- **Orderly matchmaking is atomic.** In every run in which no client that has been told to wait
asks for a match again and in which no creation for a pair fails, the pairs are what they should
be. -/
theorem atomicMatches_of_orderly {newUrl : NewUrl} (h : (serverLTS s newUrl).Run log t)
    (hok : Orderly client log) : AtomicMatches client log := by
  have hlined := lined h
  have hmatched := matched h hok
  refine ⟨hlined.once, hmatched.differ, fun p hp hover => ?_, ?_, ?_⟩
  · rcases hmatched.second p hp with ⟨c, hcreating⟩ | hgets
    · exact absurd hover (hlined.handled.not_over hcreating)
    · exact hgets
  · rintro newer e older a b rfl hpairs id hnext -
    have hpair : (a, b) ∈ (lobby (e :: older)).pairs := by
      rw [hpairs]
      exact List.mem_cons_self
    exact absurd hnext (not_nextPoll h hok hpair)
  · intro e he id ending hend hfailed
    have hnone := hmatched.failed e he id ending hend hfailed
    constructor
    · rintro hmem
      obtain ⟨w, hw, rfl⟩ := List.mem_map.1 hmem
      exact hnone w (List.mem_append_left _ hw) rfl
    · rintro hmem
      obtain ⟨p, hp, rfl⟩ := List.mem_map.1 hmem
      exact hnone p.2 (Pairing.snd_mem_members hp) rfl

end

/-! ## Two clients -/

/-- A client asks for a match with request number `id`. -/
def askForMatch (id : ℕ) (name : String) : List ServerAction :=
  [.request ⟨"POST", "/v1/queue/join", none, none⟩ 0,
    .body id (some (.obj [("displayName", .str name),
      ("sidecarHash", .str (.ofList (.replicate 64 '1')))])) (.ofDigit 1)]

/-- Two clients that ask once, and whose room is created. -/
theorem atomicMatches_of_orderly_once :
    ∃ (log : List (ServerEntry .twoRooms)) (t : Server ServerSettings.twoRooms.capacity),
      (serverLTS .twoRooms plainUrl).Run log t ∧
        (lobby log).pairs.map (fun p => (p.1.id, p.2.id)) = [(0, 1)] ∧
        (log.findSome? fun e => (e.pre.obtained e.act).map fun r => (r.1, r.2.port)) =
          some (1, 23456) ∧
        AtomicMatches (fun id => id) log := by
  obtain ⟨log, t, hrun, hpairs, hroom, hok⟩ :
      ∃ (log : List (ServerEntry .twoRooms)) (t : Server ServerSettings.twoRooms.capacity),
        (serverLTS .twoRooms plainUrl).Run log t ∧
          (lobby log).pairs.map (fun p => (p.1.id, p.2.id)) = [(0, 1)] ∧
          (log.findSome? fun e => (e.pre.obtained e.act).map fun r => (r.1, r.2.port)) =
            some (1, 23456) ∧ Orderly (fun id => id) log :=
    exists_brokerRun_of_exec
      (askForMatch 0 "Ryu" ++ askForMatch 1 "Ken" ++
        [.reply 1 (some .created201) (.ofDigit 1), .reply 1 (some .created201) (.ofDigit 1)])
      (by decide +kernel)
  exact ⟨log, t, hrun, hpairs, hroom, atomicMatches_of_orderly hrun hok⟩

/-- **The client that has waited does not get the room**: when it asks again, it is told to wait
once more. -/
theorem not_atomicMatches_asks_again :
    ¬ ∀ (s : ServerSettings) (newUrl : NewUrl) (client : ℕ → ℕ) (log : List (ServerEntry s))
        (t : Server s.capacity), (serverLTS s newUrl).Run log t → AtomicMatches client log := by
  intro h
  obtain ⟨log, t, hrun, hlen, hpairs, hbefore, hpolled, hothers, hover, hgets⟩ :
      ∃ (log : List (ServerEntry .twoRooms)) (t : Server ServerSettings.twoRooms.capacity),
        (serverLTS .twoRooms plainUrl).Run log t ∧ 4 < log.length ∧
          (lobby (log.drop 4)).pairs.map (fun p => (p.1.id, p.2.id)) = [(0, 1)] ∧
          (lobby (log.drop 5)).pairs.length = 0 ∧
          ((log.take 4).head?.any fun e => (e.pre.polled e.act).any fun r => r.1 == 2) = true ∧
          (∀ e ∈ (log.take 4).tail, ∀ r ∈ e.pre.polled e.act, r.1 % 2 ≠ 0) ∧
          (log.any fun e => e.out.ended.any fun r => r.1 == 2) = true ∧
          ∀ e ∈ log, ∀ r ∈ e.pre.obtained e.act, r.1 ≠ 2 :=
    exists_brokerRun_of_exec
      (askForMatch 0 "Ryu" ++ askForMatch 1 "Ken" ++
        [.reply 1 (some .created201) (.ofDigit 1), .reply 1 (some .created201) (.ofDigit 1)] ++
        askForMatch 2 "Ryu")
      (by decide +kernel)
  have hatomic := h _ _ (· % 2) log t hrun
  -- the step that has made the pair, and those after it
  have hsplit : log = log.take 4 ++ log[4] :: log.drop 5 := by
    rw [← List.drop_eq_getElem_cons hlen, List.take_append_drop]
  obtain ⟨⟨a, b⟩, hone, hids⟩ := List.map_eq_singleton_iff.1 hpairs
  obtain ⟨ha, hb⟩ := Prod.mk.inj hids
  have hmade : (lobby (log[4] :: log.drop 5)).pairs = (a, b) :: (lobby (log.drop 5)).pairs := by
    rw [← List.drop_eq_getElem_cons hlen, hone, List.length_eq_zero_iff.1 hbefore]
  have hnext : NextPoll (· % 2) (a.id % 2) (log.take 4) 2 := by
    cases hnewer : log.take 4 with
    | nil => simp [hnewer] at hpolled
    | cons e earlier =>
      rw [hnewer] at hpolled hothers
      simp only [List.head?_cons, Option.any_some, Option.any_eq_true, beq_iff_eq] at hpolled
      obtain ⟨⟨id, body⟩, hbody, rfl⟩ := hpolled
      refine ⟨[], e, earlier, body, rfl, hbody, ?_, ?_⟩
      · rw [ha]
      · rw [ha]
        exact hothers
  have hended : Over log 2 := by
    simp only [List.any_eq_true, Option.any_eq_true, beq_iff_eq] at hover
    obtain ⟨e, he, ⟨id, ending⟩, hended, rfl⟩ := hover
    exact ⟨e, he, ending, hended⟩
  obtain ⟨room, ⟨e, he, hobtained⟩, -⟩ := hatomic.first _ _ _ a b hsplit hmade 2 hnext hended
  exact hgets e he _ hobtained rfl

end Broker
end Sf4e
