/-
# What holds of every broker

The rooms have different codes, the handlers at work different numbers, and the registry holds
the ports that the creations at work have reserved (`Server.Sound`).

`Registry.Grows` says what a creation does to the rooms: nothing, or it adds one with a new code.
The relays that a turn of a creation stops are those that it has reserved itself, and these
belong to no room.

`Server.Step` says once what a step of the broker does to its rooms and its handlers, and a
reachable broker is sound by induction on the run (`sound_of_run`).
-/
import Sf4e.Broker.Ports
import Sf4e.Broker.ServerRun

namespace Sf4e
namespace Broker

open Wire Trace

variable {s : ServerSettings}

/-! ## Rooms -/

/-- There are the same rooms, or one more. -/
def Registry.Grows (reg reg' : Registry) : Prop :=
  reg'.rooms = reg.rooms ∨ ∃ room, reg.find? room.code = none ∧ reg'.rooms = reg.rooms ++ [room]

namespace Registry

variable {reg reg' : Registry} {s : Settings} {c : Creation s.capacity} {draws : Draws}
  {turn : Turn s.capacity}

lemma Grows.codes (h : reg.Grows reg') (hcodes : reg.codes.Nodup) : reg'.codes.Nodup := by
  rcases h with h | ⟨room, hnone, h⟩
  · rwa [Registry.codes, h]
  · rw [Registry.codes, h, List.map_append, List.nodup_append]
    refine ⟨hcodes, by simp, ?_⟩
    rintro code hcode _ hnew rfl
    obtain ⟨room', hroom', rfl⟩ := List.mem_map.1 hcode
    exact mem_of_find?_none hnone hroom' (by simpa using hnew)

lemma Grows.find?_eq_some (h : reg.Grows reg') {code : Text} {room : RoomRecord}
    (hroom : reg.find? code = some room) : reg'.find? code = some room := by
  rcases h with h | ⟨room', -, h⟩
  · rwa [find?, h]
  · rw [find?, h, List.find?_append]
    simp only [find?] at hroom
    rw [hroom]
    rfl

lemma grows_commit {ggpoRelayOk : Bool} (h : reg.commit s c draws ggpoRelayOk = some turn) :
    reg.Grows turn.registry := by
  obtain ⟨hnone, rfl⟩ := commit_eq_some h
  exact .inr ⟨_, hnone, rfl⟩

/-- A call up to its first await stops no relays. -/
lemma grows_createRoomRecord {args : CreateArgs}
    (h : reg.createRoomRecord s args draws = some turn) :
    reg.Grows turn.registry ∧ turn.stops = [] := by
  cases begun h with
  | full => exact ⟨.inl rfl, rfl⟩
  | refused => exact ⟨.inl rfl, rfl⟩
  | await => exact ⟨.inl rfl, rfl⟩
  | commit halloc hforce hcommit =>
    have hgrows := grows_commit hcommit
    refine ⟨hgrows, ?_⟩
    obtain ⟨-, rfl⟩ := commit_eq_some hcommit
    rfl

/-- A call that goes on stops no relays but its own. -/
lemma grows_resume {reply : Option HttpReply} (h : reg.resume s c reply draws = some turn) :
    reg.Grows turn.registry ∧
      ∀ call ∈ turn.stops, call ∈ stopRelaySession c.ports.sessionPort c.ports.ggpoPort := by
  cases resumed h with
  | await => exact ⟨.inl rfl, by simp [Registry.await]⟩
  | commit hok hsession hcommit =>
    refine ⟨grows_commit hcommit, ?_⟩
    obtain ⟨-, rfl⟩ := commit_eq_some hcommit
    simp
  | failed => exact ⟨.inl rfl, by simp [abandon]⟩
  | thrown => exact ⟨.inl rfl, fun call hcall => hcall⟩

/-! ## Ports -/

/-- The request stops a relay of the room. -/
def StopsRelay (room : RoomRecord) (call : ManagerCall) : Prop :=
  call = .stopSession room.port ∨ room.ggpoPort ≠ 0 ∧ call = .stopGgpo room.ggpoPort

instance (room : RoomRecord) (call : ManagerCall) : Decidable (StopsRelay room call) :=
  inferInstanceAs (Decidable (_ ∨ _ ∧ _))

variable {held : List ℕ}

lemma Holds.port_mem (h : reg.Holds s held) {room : RoomRecord} (hroom : room ∈ reg.rooms) :
    room.port ∈ s.capacity.sessionPorts :=
  h.session_mem _ (List.mem_append_left _ (List.mem_map_of_mem hroom))

/-- The relays of a pair of ports are not those of a room with another session port. -/
lemma Holds.not_stopsRelay (h : reg.Holds s held) {room : RoomRecord} (hroom : room ∈ reg.rooms)
    {port ggpoPort : ℕ} (hport : port ∈ s.capacity.sessionPorts)
    (hggpo : ggpoPort = 0 ∨ ggpoPort = ggpoPortForSessionPort s.capacity port)
    (hne : room.port ≠ port) {call : ManagerCall}
    (hcall : call ∈ stopRelaySession port ggpoPort) : ¬ StopsRelay room call := by
  rcases List.mem_cons.1 hcall with rfl | hcall
  · rintro (heq | ⟨-, heq⟩)
    · exact hne (ManagerCall.stopSession.inj heq).symm
    · cases heq
  · split at hcall
    · cases hcall
    · rename_i hzero
      obtain rfl := List.mem_singleton.1 hcall
      rintro (heq | ⟨hzero', heq⟩)
      · cases heq
      · have hports := ManagerCall.stopGgpo.inj heq
        have h₁ := hggpo.resolve_left hzero
        have h₂ := (h.ggpo room hroom).resolve_left hzero'
        refine hne (ggpoPortForSessionPort_inj (h.port_mem hroom) hport ?_)
        rw [← h₁, ← h₂, hports]

/-- Two rooms have different ports. -/
lemma Holds.port_ne (h : reg.Holds s held) {room room' : RoomRecord} (hroom : room ∈ reg.rooms)
    (hroom' : room' ∈ reg.rooms) (hne : room ≠ room') : room.port ≠ room'.port := by
  intro heq
  exact hne (List.inj_on_of_nodup_map (List.nodup_append.1 h.distinct).1 hroom hroom' heq)

/-- The relays of a room are not those of another room. -/
lemma Holds.stops_other (h : reg.Holds s held) {room room' : RoomRecord} (hroom : room ∈ reg.rooms)
    (hroom' : room' ∈ reg.rooms) (hne : room ≠ room') {call : ManagerCall}
    (hcall : call ∈ stopRelaySession room'.port room'.ggpoPort) : ¬ StopsRelay room call :=
  h.not_stopsRelay hroom (h.port_mem hroom') (h.ggpo room' hroom') (h.port_ne hroom hroom' hne)
    hcall

/-- The relays of a call at work are not those of a room. -/
lemma Holds.stops_creation (h : reg.Holds s (c.ports.sessionPort :: held)) {room : RoomRecord}
    (hroom : room ∈ reg.rooms) {call : ManagerCall}
    (hcall : call ∈ stopRelaySession c.ports.sessionPort c.ports.ggpoPort) :
    ¬ StopsRelay room call := by
  refine h.not_stopsRelay hroom c.ports.session_mem (.inr c.ports.ggpo_eq) ?_ hcall
  have hdisjoint := (List.nodup_append.1 h.distinct).2.2
  exact hdisjoint _ (List.mem_map_of_mem hroom) _ List.mem_cons_self

/-- A change that leaves the rooms what they are. -/
lemma Holds.modify (h : reg.Holds s held) {code : Text} {f : RoomRecord → RoomRecord}
    (hsame : ∀ room, SameRoom room (f room)) : (reg.modify code f).Holds s held := by
  have hports : (reg.modify code f).roomPorts = reg.roomPorts :=
    map_modify (fun room => room.port) fun room => (hsame room).port
  refine ⟨hports ▸ h.distinct, hports ▸ h.session_mem, h.reserved, fun room hroom => ?_⟩
  obtain ⟨room', hroom', rfl⟩ := List.mem_map.1 hroom
  have hggpo := h.ggpo room' hroom'
  split
  · rwa [(hsame room').ggpoPort, (hsame room').port]
  · exact hggpo

/-- Rooms that are pruned go. -/
lemma Holds.prune {s : ServerSettings} (h : reg.Holds s.toSettings held) (now : ℕ) :
    (reg.prune s now).1.Holds s.toSettings held := by
  have hsub : ((reg.prune s now).1.roomPorts ++ held).Sublist (reg.roomPorts ++ held) :=
    (List.filter_sublist.map _).append_right held
  refine ⟨hsub.nodup h.distinct, fun p hp => h.session_mem p (hsub.mem hp), h.reserved, ?_⟩
  intro room hroom
  exact h.ggpo room (List.mem_of_mem_filter hroom)

/-- A room that stays is found by its code still. -/
lemma find?_prune {s : ServerSettings} (hcodes : reg.codes.Nodup) {room : RoomRecord}
    (hroom : room ∈ reg.rooms) {now : ℕ} (hkeep : shouldPruneRoom s room now = false) :
    (reg.prune s now).1.find? room.code = some room := by
  refine find?_of_mem ?_ (List.mem_filter.2 ⟨hroom, by simp [hkeep]⟩)
  exact (List.filter_sublist.map _).nodup hcodes

/-- A room is found by its code when another one is deleted. -/
lemma find?_delete (hcodes : reg.codes.Nodup) {room : RoomRecord} (hroom : room ∈ reg.rooms)
    {code : Text} (hne : room.code ≠ code) : (reg.delete code).find? room.code = some room := by
  refine find?_of_mem ?_ (List.mem_filter.2 ⟨hroom, by simpa using hne⟩)
  exact (List.filter_sublist.map _).nodup hcodes

end Registry

/-! ## Handlers -/

/-- The session port that a handler holds. -/
def heldBy (h : Suspended s.capacity) : List ℕ :=
  ((Server.creation? h).map fun c => c.ports.sessionPort).toList

/-- The session port that a handler holds after a turn. -/
def heldAfter (progress : Suspended s.capacity ⊕ Ending) : List ℕ :=
  progress.elim heldBy fun _ => []

/-- The session ports that the handlers at work hold. -/
def heldPorts (work : List (ℕ × Suspended s.capacity)) : List ℕ := work.flatMap fun j => heldBy j.2

lemma heldAfter_creationTurn (t : Server s.capacity) (queued : Bool) (ct : Turn s.capacity) :
    heldAfter (t.creationTurn s queued ct).progress = ct.held := by
  rw [Server.creationTurn, Turn.held]
  cases ct.progress with
  | awaits c => rfl
  | done result => rfl

lemma heldPorts_settle (jobs : Jobs (Suspended s.capacity)) (id : ℕ)
    (progress : Suspended s.capacity ⊕ Ending) : heldPorts (jobs.settle id progress).work =
      heldAfter progress ++ heldPorts (jobs.others id) := by
  cases progress with
  | inl h => rfl
  | inr ending => rfl

/-- A handler at work and the others. -/
lemma heldPorts_perm {jobs : Jobs (Suspended s.capacity)} (hjobs : jobs.Numbered) {id : ℕ}
    {h : Suspended s.capacity} (hat : jobs.at? id = some h) :
    (heldPorts jobs.work).Perm (heldBy h ++ heldPorts (jobs.others id)) :=
  (hjobs.perm hat).flatMap_right _

namespace Effect

variable {t : Server s.capacity} {turn : HandlerTurn s.capacity} {mark : Text → Option Text}
  {carries : Text → Prop} {own : Option (Creation s.capacity)} {rest : List ℕ}

/-- The ports of the call of `createRoomRecord` that a handler is at. -/
def ownPorts (own : Option (Creation s.capacity)) : List ℕ :=
  (own.map fun c => c.ports.sessionPort).toList

lemma jobs (h : Effect t mark carries own turn) : turn.server.jobs = t.jobs := by
  cases h with
  | gentle h => exact h.jobs
  | begins _ hjobs => exact hjobs
  | goesOn | deletes => rfl

lemma codes (h : Effect t mark carries own turn) (hcodes : t.registry.codes.Nodup) :
    turn.server.registry.codes.Nodup := by
  cases h with
  | gentle h =>
    obtain ⟨f, hregistry, hsame, -⟩ := h.registry
    rw [hregistry, Registry.codes, Registry.map_modify _ fun room => (hsame room).code]
    exact hcodes
  | begins _ _ hturn => exact (Registry.grows_createRoomRecord hturn).1.codes hcodes
  | goesOn hturn => exact (Registry.grows_resume hturn).1.codes hcodes
  | deletes => exact (List.filter_sublist.map _).nodup hcodes

/-- The registry holds what the handlers have reserved. -/
lemma holds (h : Effect t mark carries own turn)
    (hholds : t.registry.Holds s.toSettings (ownPorts own ++ rest)) :
    turn.server.registry.Holds s.toSettings (heldAfter turn.progress ++ rest) := by
  cases h with
  | gentle h =>
    obtain ⟨f, hregistry, hsame, -⟩ := h.registry
    have hnone : heldAfter turn.progress = [] := by
      rcases hprogress : turn.progress with (route | ⟨c, queued⟩ | ⟨room, purpose, stage⟩) | ending
      · rfl
      · exact absurd hprogress (h.quiet c queued)
      · rfl
      · rfl
    rw [hregistry, hnone]
    exact hholds.modify hsame
  | begins _ _ hturn =>
    rw [heldAfter_creationTurn]
    exact Registry.Holds.createRoomRecord hholds hturn
  | goesOn hturn =>
    rw [heldAfter_creationTurn]
    exact Registry.Holds.resume hholds hturn
  | deletes => exact hholds.delete _

end Effect

/-! ## Steps -/

/-- When a step prunes the rooms. -/
def ServerAction.prunesAt : ServerAction → Option ℕ
  | .request req now => if req.method = "OPTIONS" then none else some now
  | .prune now => some now
  | .body .. | .reply .. | .cleanRates _ | .probe .. => none

namespace Server

variable {t : Server s.capacity}

/-- The broker after a pruning, if there is one. -/
def pruned (t : Server s.capacity) : Option ℕ → Server s.capacity
  | none => t
  | some now => { t with registry := (t.registry.prune s now).1 }

/-- The stops of a pruning, if there is one. -/
def prunedStops (t : Server s.capacity) : Option ℕ → List ManagerCall
  | none => []
  | some now => (t.registry.prune s now).2

lemma jobs_pruned (time : Option ℕ) : (t.pruned time).jobs = t.jobs := by cases time <;> rfl

/-- A request prunes the rooms, and up to its first await it does little more. -/
lemma accept_eq (t : Server s.capacity) (newUrl : NewUrl) (req : HttpRequest) (now : ℕ) :
    ∃ turn, Effect (t.pruned (ServerAction.request req now).prunesAt) (fun _ => none)
        (fun _ => False) none turn ∧ turn.stops = [] ∧ t.accept s newUrl req now =
          { turn with stops := t.prunedStops (ServerAction.request req now).prunesAt } := by
  simp only [accept, ServerAction.prunesAt]
  split
  · exact ⟨_, effect_of_gentle_nil (.answer t 204 none), rfl, rfl⟩
  · split
    · exact ⟨_, effect_of_gentle_nil (.throw _), rfl, rfl⟩
    · rename_i url _
      obtain ⟨code, hgentle⟩ : ∃ code, Gentle (t.pruned (some now))
          ((t.pruned (some now)).dispatch s req url now) code none fun _ => False :=
        (t.pruned (some now)).gentle_dispatch req url now
      exact ⟨_, effect_of_gentle hgentle, hgentle.stops, rfl⟩

/-- What a step of a broker may be. -/
inductive Step (t : Server s.capacity) :
    ServerAction → ServerOut × Server s.capacity → Prop
  /-- A request comes in. -/
  | request {req : HttpRequest} {now : ℕ} {turn : HandlerTurn s.capacity}
      (heffect : Effect (pruned { t with jobs := t.jobs.draw }
        (ServerAction.request req now).prunesAt) (fun _ => none) (fun _ => False) none turn)
      (hstops : turn.stops = []) :
      Step t (.request req now) (settle t.jobs.count
        { turn with stops := t.prunedStops (ServerAction.request req now).prunesAt })
  /-- The body of a request is read. -/
  | body {id : ℕ} {route : BodyRoute} {body : Option Value} {draws : Draws}
      {turn : HandlerTurn s.capacity} (hat : t.jobs.at? id = some (.reading route))
      (heffect : Effect t (route.mark body) (BodyCarries body) none turn) :
      Step t (.body id body draws) (settle id turn)
  /-- The relay manager answers. -/
  | reply {id : ℕ} {reply : Option HttpReply} {draws : Draws} {h : Suspended s.capacity}
      {turn : HandlerTurn s.capacity} (hat : t.jobs.at? id = some h)
      (heffect : Effect t (fun _ => none) (fun _ => False) (creation? h) turn) :
      Step t (.reply id reply draws) (settle id turn)
  /-- The timer prunes the rooms. -/
  | prune (now : ℕ) :
      Step t (.prune now) (⟨none, t.prunedStops (some now)⟩, t.pruned (some now))
  /-- Nothing is done to rooms or handlers. -/
  | aside {act : ServerAction} {t' : Server s.capacity} (hregistry : t'.registry = t.registry)
      (hjobs : t'.jobs = t.jobs) : Step t act ({}, t')

/-- **The steps of a broker.** -/
lemma step_of_next {newUrl : NewUrl} {act : ServerAction} {r : ServerOut × Server s.capacity}
    (h : t.next s newUrl act = some r) : t.Step act r := by
  cases act with
  | request req now =>
    obtain rfl := Option.some.inj h
    obtain ⟨turn, heffect, hstops, hturn⟩ := accept_eq { t with jobs := t.jobs.draw } newUrl req now
    rw [hturn]
    exact .request heffect hstops
  | body id body draws =>
    simp only [next] at h
    split at h
    · rename_i route hat
      obtain ⟨turn, hturn, rfl⟩ := Option.map_eq_some_iff.1 h
      exact .body hat (effect_readBody hturn)
    · cases h
  | reply id reply draws =>
    obtain ⟨hd, hat, hmap⟩ := Option.bind_eq_some_iff.1 h
    obtain ⟨turn, hturn, rfl⟩ := Option.map_eq_some_iff.1 hmap
    exact .reply hat (effect_receive hturn)
  | prune now =>
    obtain rfl := Option.some.inj h
    exact .prune now
  | cleanRates now =>
    obtain rfl := Option.some.inj h
    exact .aside rfl rfl
  | probe address probe now =>
    obtain rfl := Option.some.inj h
    simp only
    split
    · exact .aside rfl rfl
    · exact .aside rfl rfl

/-- **Invariant.** -/
structure Sound (t : Server s.capacity) : Prop where
  /-- The rooms have different codes. -/
  codes : t.registry.codes.Nodup
  /-- The handlers have different numbers. -/
  numbered : t.jobs.Numbered
  /-- The registry holds the ports that the handlers have reserved. -/
  holds : t.registry.Holds s.toSettings (heldPorts t.jobs.work)

lemma sound_empty : ({} : Server s.capacity).Sound where
  codes := List.nodup_nil
  numbered := Jobs.numbered_empty
  holds := ⟨by simp [Registry.roomPorts, heldPorts], by simp [Registry.roomPorts, heldPorts],
    by simp [heldPorts], by simp⟩

namespace Sound

lemma pruned (h : t.Sound) (time : Option ℕ) : (t.pruned time).Sound := by
  cases time with
  | none => exact h
  | some now =>
    exact ⟨(List.filter_sublist.map _).nodup h.codes, h.numbered, h.holds.prune now⟩

/-- A number is given to a new handler. -/
lemma draw (h : t.Sound) : Sound { t with jobs := t.jobs.draw } :=
  ⟨h.codes, h.numbered.draw, h.holds⟩

/-- The ports of a handler at work, and those of the others. -/
lemma holds_others (h : t.Sound) {id : ℕ} {hd : Suspended s.capacity}
    (hat : t.jobs.at? id = some hd) :
    t.registry.Holds s.toSettings (heldBy hd ++ heldPorts (t.jobs.others id)) :=
  h.holds.perm (heldPorts_perm h.numbered hat)

/-- A turn of a handler is over. -/
lemma settle {mark : Text → Option Text} {carries : Text → Prop}
    {own : Option (Creation s.capacity)} {turn : HandlerTurn s.capacity} {id : ℕ}
    {stops : List ManagerCall} (h : t.Sound) (hid : id < t.jobs.count)
    (hholds : t.registry.Holds s.toSettings
      (Effect.ownPorts own ++ heldPorts (t.jobs.others id)))
    (heffect : Effect t mark carries own turn) :
    (Server.settle id { turn with stops }).2.Sound where
  codes := heffect.codes h.codes
  numbered := by
    show (turn.server.jobs.settle id turn.progress).Numbered
    rw [heffect.jobs]
    exact h.numbered.settle hid _
  holds := by
    show turn.server.registry.Holds s.toSettings
      (heldPorts (turn.server.jobs.settle id turn.progress).work)
    rw [heffect.jobs, heldPorts_settle]
    exact heffect.holds hholds

/-- **Step lemma.** -/
lemma step (h : t.Sound) {act : ServerAction} {r : ServerOut × Server s.capacity}
    (hstep : t.Step act r) : r.2.Sound := by
  cases hstep with
  | @request req now turn heffect hstops =>
    have hpruned := h.draw.pruned (ServerAction.request req now).prunesAt
    refine hpruned.settle ?_ ?_ heffect
    · rw [jobs_pruned]
      exact Nat.lt_succ_self _
    · have hothers : (Server.pruned { t with jobs := t.jobs.draw }
          (ServerAction.request req now).prunesAt).jobs.others t.jobs.count = t.jobs.work := by
        rw [jobs_pruned]
        exact h.numbered.others_count
      rw [hothers]
      have hholds := hpruned.holds
      rwa [jobs_pruned] at hholds
  | body hat heffect =>
    exact h.settle (h.numbered.lt_of_at? hat) (h.holds_others hat) heffect
  | reply hat heffect =>
    exact h.settle (h.numbered.lt_of_at? hat) (h.holds_others hat) heffect
  | prune now => exact h.pruned (some now)
  | aside hregistry hjobs => exact ⟨hregistry ▸ h.codes, hjobs ▸ h.numbered, by
      rw [hregistry, hjobs]
      exact h.holds⟩

end Sound

end Server

/-- **Every broker is sound.** -/
lemma sound_of_run {newUrl : NewUrl} {log : List (ServerEntry s)} {t : Server s.capacity}
    (h : (serverLTS s newUrl).Run log t) : t.Sound := by
  refine h.invariant_of_step (fun _ t => t.Sound) ?_ fun _ e hsound hstep =>
    hsound.step (Server.step_of_next hstep)
  rintro _ rfl
  exact Server.sound_empty

/-! ## A broker for two rooms -/

/-- A broker for two rooms. -/
def ServerSettings.twoRooms : ServerSettings :=
  { Settings.twoRooms with
    trustProxy := true
    enableRoomList := false
    maxQueue := some 50
    natProbeTtlMs := some 120000 }

/-- A target that is a path and nothing else. -/
def plainUrl : NewUrl := fun target => some ⟨target, none⟩

/-- A list of actions that a new broker can carry out, and whose log passes a test. -/
lemma exists_brokerRun_of_exec (acts : List ServerAction)
    {p : List (ServerEntry s) → Server s.capacity → Prop} {newUrl : NewUrl}
    [∀ log t, Decidable (p log t)]
    (h : (LTS.exec (Server.next s newUrl) {} [] acts).any
      (fun r => decide (p r.1 r.2)) = true) :
    ∃ log t, (serverLTS s newUrl).Run log t ∧ p log t := by
  obtain ⟨log, t, hpath, hp⟩ := LTS.exists_path_of_exec acts h
  exact ⟨log, t, ⟨_, rfl, hpath⟩, hp⟩

/-- Two lists of actions, carried out one after the other. -/
lemma exists_brokerPath_of_exec (acts acts' : List ServerAction)
    {p : Server s.capacity → List (ServerEntry s) → Server s.capacity → Prop} {newUrl : NewUrl}
    [∀ t log t', Decidable (p t log t')]
    (h : (LTS.exec (Server.next s newUrl) {} [] acts).any (fun r =>
      (LTS.exec (Server.next s newUrl) r.2 [] acts').any
        (fun r' => decide (p r.2 r'.1 r'.2))) = true) :
    ∃ older t log t', (serverLTS s newUrl).Run older t ∧ (serverLTS s newUrl).Path t log t' ∧
      p t log t' := by
  obtain ⟨older, t, log, t', hfirst, hpath, hp⟩ := LTS.exists_path_path_of_exec acts acts' h
  exact ⟨older, t, log, t', ⟨_, rfl, hfirst⟩, hpath, hp⟩

end Broker
end Sf4e
