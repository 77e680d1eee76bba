/-
# What the host of a room is promised

Requests without the host's secret leave the host's part of a room alone: its endpoint, the start
of the battle and the mark of the transport stay what they are, and nobody removes the room or
stops its relays before it has been idle for too long (`Integrity`).

All handlers keep this promise but one: an event of a type that anyone may post brings a mark of
the transport along, and the mark is taken without the secret (`Unmarked`).
-/
import Sf4e.Broker.ServerSound

namespace Sf4e
namespace Broker

open Wire Trace
open Registry (StopsRelay)

variable {s : ServerSettings}

/-! ## The promise -/

/-- The room is still this room, and what belongs to the host is what it was. -/
structure Intact (room room' : RoomRecord) : Prop where
  same : SameRoom room room'
  hostEndpoint : room'.hostEndpoint = room.hostEndpoint
  startedAt : room'.startedAt = room.startedAt
  transportActive : room'.transportActive = room.transportActive

lemma Intact.refl (room : RoomRecord) : Intact room room := ⟨.refl room, rfl, rfl, rfl⟩

lemma Intact.trans {room room' room'' : RoomRecord} (h : Intact room room')
    (h' : Intact room' room'') : Intact room room'' where
  same := h.same.trans h'.same
  hostEndpoint := h'.hostEndpoint.trans h.hostEndpoint
  startedAt := h'.startedAt.trans h.startedAt
  transportActive := h'.transportActive.trans h.transportActive

/-- The room is there as it was. -/
def Server.HasIntact (t : Server s.capacity) (room : RoomRecord) : Prop :=
  ∃ room', t.registry.find? room.code = some room' ∧ Intact room room'

/-- None of the requests stops a relay of the room. -/
def Spares (stops : List ManagerCall) (room : RoomRecord) : Prop :=
  ∀ call ∈ stops, ¬ StopsRelay room call

/-- The room is there as it was, and along the log nobody has stopped its relays. -/
structure Stands (room : RoomRecord) (log : List (ServerEntry s)) (t : Server s.capacity) :
    Prop where
  intact : t.HasIntact room
  relays : ∀ e ∈ log, Spares e.out.stops room

/-- The step prunes the rooms, and the one with the code has exceeded its idle limit. -/
def ExceedsIdleLimit (code : Text) (e : ServerEntry s) : Prop :=
  ∃ now room, e.act.prunesAt = some now ∧ e.pre.registry.find? code = some room ∧
    shouldPruneRoom s room now = true

/-- **Host integrity**: the room stands, at least until it has exceeded its idle limit. -/
def Integrity (room : RoomRecord) (log : List (ServerEntry s)) (t : Server s.capacity) : Prop :=
  Stands room log t ∨ ∃ newer e older, log = newer ++ e :: older ∧ Stands room older e.pre ∧
    ExceedsIdleLimit room.code e

/-- The body that is read in a step. -/
def ServerAction.body? : ServerAction → Option Value
  | .body _ value _ => value
  | .request .. | .reply .. | .prune _ | .cleanRates _ | .probe .. => none

/-- No body that is read has the secret. -/
def Secretless (secret : Text) (e : ServerEntry s) : Prop :=
  ∀ body ∈ e.act.body?, ¬ CarriesSecret body secret

/-- The mark of the transport that a step leaves on the room with the code, without its secret. -/
def Server.markAt (t : Server s.capacity) (code : Text) : ServerAction → Option Text
  | .body id value _ =>
    match t.jobs.at? id with
    | some (.reading route) => route.mark value code
    | _ => none
  | .request .. | .reply .. | .prune _ | .cleanRates _ | .probe .. => none

/-- The step posts no event that leaves another mark of the transport on the room. -/
def Unmarked (room : RoomRecord) (e : ServerEntry s) : Prop :=
  ∀ mark ∈ e.pre.markAt room.code e.act, room.transportActive = some mark

/-! ## Turns -/

namespace Effect

variable {t : Server s.capacity} {turn : HandlerTurn s.capacity} {mark : Text → Option Text}
  {carries : Text → Prop} {own : Option (Creation s.capacity)} {rest : List ℕ}
  {room : RoomRecord}

/-- A turn that changes one room keeps what belongs to the host. -/
lemma intact_of_gentle {code : Text} (h : Gentle t turn code (mark code) carries)
    (hroom : t.registry.find? room.code = some room) (hsecret : ¬ carries room.hostSecret)
    (hmark : mark room.code = none ∨ mark room.code = room.transportActive) :
    turn.server.HasIntact room := by
  obtain ⟨f, hregistry, hsame, hkept⟩ := h.registry
  rw [Server.HasIntact, hregistry, Registry.find?_modify hsame, hroom, Option.map_some]
  by_cases hcode : room.code = code
  · subst hcode
    rw [if_pos rfl]
    obtain ⟨hhost, hstarted, htransport⟩ := hkept room hroom hsecret
    refine ⟨_, rfl, hsame room, hhost, hstarted, ?_⟩
    rw [htransport]
    rcases hmark with hnone | hsome
    · rw [hnone]
      rfl
    · rw [hsome]
      cases room.transportActive <;> rfl
  · rw [if_neg hcode]
    exact ⟨_, rfl, .refl room⟩

/-- **A turn without the secret keeps what belongs to the host, but for the mark.** -/
lemma keeps (h : Effect t mark carries own turn) (hcodes : t.registry.codes.Nodup)
    (hholds : t.registry.Holds s.toSettings (ownPorts own ++ rest))
    (hroom : t.registry.find? room.code = some room) (hsecret : ¬ carries room.hostSecret)
    (hmark : mark room.code = none ∨ mark room.code = room.transportActive) :
    turn.server.HasIntact room ∧ Spares turn.stops room := by
  obtain ⟨hmem, -⟩ := Registry.find?_some hroom
  cases h with
  | gentle h =>
    refine ⟨intact_of_gentle h hroom hsecret hmark, ?_⟩
    rw [h.stops]
    exact fun call hcall => absurd hcall List.not_mem_nil
  | begins _ _ hturn =>
    obtain ⟨hgrows, hstops⟩ := Registry.grows_createRoomRecord hturn
    refine ⟨⟨room, hgrows.find?_eq_some hroom, .refl room⟩, ?_⟩
    show Spares _ room
    rw [Server.creationTurn, hstops]
    exact fun call hcall => absurd hcall List.not_mem_nil
  | goesOn hturn =>
    obtain ⟨hgrows, hstops⟩ := Registry.grows_resume hturn
    exact ⟨⟨room, hgrows.find?_eq_some hroom, .refl room⟩, fun call hcall =>
      hholds.stops_creation hmem (hstops call hcall)⟩
  | @deletes room' code status hroom' hcarries =>
    -- who deletes a room has its secret
    have hne : room ≠ room' := by
      rintro rfl
      exact hsecret hcarries
    obtain ⟨hmem', hcode'⟩ := Registry.find?_some hroom'
    have hcode : room.code ≠ code := by
      rw [← hcode']
      exact fun heq => hne (List.inj_on_of_nodup_map hcodes hmem hmem' heq)
    exact ⟨⟨room, Registry.find?_delete hcodes hmem hcode, .refl room⟩, fun call hcall =>
      hholds.stops_other hmem hmem' hne hcall⟩

end Effect

/-! ## Steps -/

namespace Server

variable {t : Server s.capacity} {room : RoomRecord}

lemma HasIntact.trans {room' : RoomRecord} (h : t.HasIntact room') (hroom : Intact room room') :
    t.HasIntact room := by
  obtain ⟨room'', hfind, hintact⟩ := h
  rw [hroom.same.code] at hfind
  exact ⟨room'', hfind, hroom.trans hintact⟩

/-- A pruning spares a room that is not idle for too long. -/
lemma Sound.pruned_keeps (h : t.Sound) (hroom : t.registry.find? room.code = some room)
    {time : Option ℕ} (hidle : ∀ now, time = some now → shouldPruneRoom s room now = false) :
    (t.pruned time).registry.find? room.code = some room ∧ Spares (t.prunedStops time) room := by
  obtain ⟨hmem, -⟩ := Registry.find?_some hroom
  cases time with
  | none => exact ⟨hroom, fun call hcall => absurd hcall List.not_mem_nil⟩
  | some now =>
    refine ⟨Registry.find?_prune h.codes hmem (hidle now rfl), fun call hcall => ?_⟩
    obtain ⟨room', hroom', hstop⟩ := List.mem_flatMap.1 hcall
    obtain ⟨hmem', hpruned⟩ := List.mem_filter.1 hroom'
    refine h.holds.stops_other hmem hmem' ?_ hstop
    rintro rfl
    rw [hidle now rfl] at hpruned
    exact absurd hpruned Bool.false_ne_true

end Server

/-- **Step lemma.** A step without the secret keeps the room, or it is idle for too long. -/
lemma keeps_of_step {newUrl : NewUrl} {room : RoomRecord} {e : ServerEntry s}
    (hsound : e.pre.Sound) (hstep : (serverLTS s newUrl).Steps e)
    (hroom : e.pre.registry.find? room.code = some room) (hsecret : Secretless room.hostSecret e)
    (hmark : Unmarked room e) :
    e.post.HasIntact room ∧ Spares e.out.stops room ∨ ExceedsIdleLimit room.code e := by
  -- a pruning comes before the turn
  by_cases hidle : ∃ now, e.act.prunesAt = some now ∧ shouldPruneRoom s room now = true
  · obtain ⟨now, hnow, hexceeds⟩ := hidle
    exact .inr ⟨now, room, hnow, hroom, hexceeds⟩
  refine .inl ?_
  have hkeep : ∀ now, e.act.prunesAt = some now → shouldPruneRoom s room now = false := by
    intro now hnow
    by_contra hexceeds
    exact hidle ⟨now, hnow, by simpa using hexceeds⟩
  obtain ⟨pre, act, out, post⟩ := e
  have hcases : pre.Step act (out, post) := Server.step_of_next hstep
  dsimp only at *
  cases hcases with
  | @request req now turn heffect hstops =>
    obtain ⟨hpruned, hspares⟩ := hsound.draw.pruned_keeps hroom hkeep
    have hholds := (hsound.draw.pruned (ServerAction.request req now).prunesAt).holds
    rw [Server.jobs_pruned] at hholds
    obtain ⟨hintact, -⟩ := heffect.keeps (hsound.draw.pruned _).codes hholds hpruned id (.inl rfl)
    exact ⟨hintact, hspares⟩
  | @body id route body draws turn hat heffect =>
    refine heffect.keeps hsound.codes (hsound.holds_others hat) hroom ?_ ?_
    · rintro ⟨value, rfl, hcarries⟩
      exact hsecret value rfl hcarries
    · have hat' : pre.markAt room.code (.body id body draws) = route.mark body room.code := by
        rw [Server.markAt, hat]
      cases hroute : route.mark body room.code with
      | none => exact .inl rfl
      | some mark => exact .inr (hmark mark (hat'.trans hroute)).symm
  | reply hat heffect =>
    exact heffect.keeps hsound.codes (hsound.holds_others hat) hroom id (.inl rfl)
  | prune now =>
    obtain ⟨hfind, hspares⟩ := hsound.pruned_keeps hroom hkeep
    exact ⟨⟨room, hfind, .refl room⟩, hspares⟩
  | aside hregistry hjobs =>
    refine ⟨⟨room, ?_, .refl room⟩, fun call hcall => absurd hcall List.not_mem_nil⟩
    rw [hregistry]
    exact hroom

/-! ## Runs -/

namespace Stands

variable {room room' : RoomRecord}

/-- The room as it is now has the same relays. -/
lemma spares_of_intact {stops : List ManagerCall} (h : Spares stops room')
    (hroom : Intact room room') : Spares stops room := by
  intro call hcall hstops
  refine h call hcall ?_
  rwa [StopsRelay, hroom.same.port, hroom.same.ggpoPort]

end Stands

/-- **Host integrity.** From any state that a broker can reach, steps that do not carry the secret
of a room, and that do not leave another mark of the transport on it, keep what belongs to its
host. -/
theorem integrity_of_unmarked {newUrl : NewUrl} {older log : List (ServerEntry s)}
    {t t' : Server s.capacity} {code : Text} {room : RoomRecord}
    (hrun : (serverLTS s newUrl).Run older t) (hroom : t.registry.find? code = some room)
    (hpath : (serverLTS s newUrl).Path t log t')
    (hsecret : ∀ e ∈ log, Secretless room.hostSecret e) (hmark : ∀ e ∈ log, Unmarked room e) :
    Integrity room log t' := by
  obtain ⟨-, rfl⟩ := Registry.find?_some hroom
  have hboth : t'.Sound ∧ Integrity room log t' := by
    refine hpath.invariant (fun log t => t.Sound ∧ Integrity room log t)
      ⟨sound_of_run hrun, .inl ⟨⟨room, hroom, .refl room⟩, by simp⟩⟩ ?_
      (fun e he => And.intro (hsecret e he) (hmark e he))
    rintro log e ⟨hsound, hintegrity⟩ hstep ⟨hsecret, hmark⟩
    refine ⟨hsound.step (Server.step_of_next hstep), ?_⟩
    rcases hintegrity with hstands | ⟨newer, e', older, rfl, hstands, hidle⟩
    · obtain ⟨room', hfind, hintact⟩ := hstands.intact
      have hsecret' : Secretless room'.hostSecret e := by
        rwa [hintact.same.hostSecret]
      have hmark' : Unmarked room' e := by
        rwa [Unmarked, hintact.same.code, hintact.transportActive]
      have hfind' : e.pre.registry.find? room'.code = some room' := by
        rwa [hintact.same.code]
      -- the room has the same code and secret as at the start
      rcases keeps_of_step hsound hstep hfind' hsecret' hmark' with ⟨hkept, hspares⟩ | hidle
      · refine .inl ⟨hkept.trans hintact, ?_⟩
        intro e' he'
        rcases List.mem_cons.1 he' with rfl | he'
        · exact Stands.spares_of_intact hspares hintact
        · exact hstands.relays e' he'
      · rw [hintact.same.code] at hidle
        exact .inr ⟨[], e, log, rfl, hstands, hidle⟩
    · exact .inr ⟨e :: newer, e', older, rfl, hstands, hidle⟩
  exact hboth.2

/-! ## A mark without the secret -/

lemma carriesSecret_iff {body : Value} {secret : Text} : CarriesSecret body secret ↔
    (((body.get "hostSecret").bind Value.str?).any fun text => utf8 text = secret) = true := by
  rw [CarriesSecret]
  rcases hmember : body.get "hostSecret" with _ | _ | _ | _ | _ | _ | _
  all_goals simp [Value.str?]

instance (body : Value) (secret : Text) : Decidable (CarriesSecret body secret) :=
  decidable_of_iff _ carriesSecret_iff.symm

instance (secret : Text) (e : ServerEntry s) : Decidable (Secretless secret e) :=
  inferInstanceAs (Decidable (∀ body ∈ e.act.body?, ¬ CarriesSecret body secret))

instance (room : RoomRecord) (e : ServerEntry s) : Decidable (Unmarked room e) :=
  inferInstanceAs (Decidable (∀ mark ∈ e.pre.markAt room.code e.act,
    room.transportActive = some mark))

lemma exceedsIdleLimit_iff {code : Text} {e : ServerEntry s} : ExceedsIdleLimit code e ↔
    (e.act.prunesAt.any fun now => (e.pre.registry.find? code).any fun room =>
      shouldPruneRoom s room now) = true := by
  simp only [ExceedsIdleLimit, Option.any_eq_true]
  constructor
  · rintro ⟨now, room, hnow, hroom, hexceeds⟩
    exact ⟨now, hnow, room, hroom, hexceeds⟩
  · rintro ⟨now, hnow, room, hroom, hexceeds⟩
    exact ⟨now, room, hnow, hroom, hexceeds⟩

instance (code : Text) (e : ServerEntry s) : Decidable (ExceedsIdleLimit code e) :=
  decidable_of_iff _ exceedsIdleLimit_iff.symm

/-- A room is created for a launcher. -/
def openRoom (draws : Draws) : List ServerAction :=
  [.request ⟨"POST", "/v1/rooms", none, none⟩ 0,
    .body 0 (some (.obj [("sidecarHash", .str (.ofList (.replicate 64 '1')))])) draws,
    .reply 0 (some .created201) draws, .reply 0 (some .created201) draws]

/-- Request number 1 posts an event to the room. -/
def postEvent (draws : Draws) (members : List (String × Value)) : List ServerAction :=
  [.request ⟨"POST", "/v1/rooms/SF4-1111111111111111/events", none, none⟩ 1,
    .body 1 (some (.obj members)) draws]

/-- The code of the room. -/
def openCode : Text := roomCode (.replicate 16 49)

/-- A guest that posts an event without a mark. -/
theorem integrity_of_unmarked_plain :
    ∃ (older : List (ServerEntry .twoRooms)) (t : Server ServerSettings.twoRooms.capacity)
      (log : List (ServerEntry .twoRooms)) (t' : Server ServerSettings.twoRooms.capacity),
      (serverLTS .twoRooms plainUrl).Run older t ∧ (serverLTS .twoRooms plainUrl).Path t log t' ∧
        log.length = 2 ∧ ∃ room ∈ t.registry.find? openCode, Integrity room log t' := by
  obtain ⟨older, t, log, t', hrun, hpath, hlength, room, hroom, hsecret, hmark⟩ :
      ∃ (older : List (ServerEntry .twoRooms)) (t : Server ServerSettings.twoRooms.capacity)
        (log : List (ServerEntry .twoRooms)) (t' : Server ServerSettings.twoRooms.capacity),
        (serverLTS .twoRooms plainUrl).Run older t ∧
          (serverLTS .twoRooms plainUrl).Path t log t' ∧ log.length = 2 ∧
            ∃ room ∈ t.registry.find? openCode, (∀ e ∈ log, Secretless room.hostSecret e) ∧
              ∀ e ∈ log, Unmarked room e :=
    exists_brokerPath_of_exec (openRoom (.ofDigit 1))
      (postEvent (.ofDigit 2) [("type", .str "match_ended")])
      (by decide +kernel)
  exact ⟨older, t, log, t', hrun, hpath, hlength, room, hroom,
    integrity_of_unmarked hrun hroom hpath hsecret hmark⟩

/-- **Anyone can change the mark of the transport.** -/
theorem not_integrity_guest_mark :
    ¬ ∀ (s : ServerSettings) (newUrl : NewUrl) (older log : List (ServerEntry s))
        (t t' : Server s.capacity) (code : Text) (room : RoomRecord),
        (serverLTS s newUrl).Run older t → t.registry.find? code = some room →
          (serverLTS s newUrl).Path t log t' → (∀ e ∈ log, Secretless room.hostSecret e) →
            Integrity room log t' := by
  intro h
  obtain ⟨older, t, log, t', hrun, hpath, room, hroom, hsecret, hidle, room', hroom', hmark⟩ :
      ∃ (older : List (ServerEntry .twoRooms)) (t : Server ServerSettings.twoRooms.capacity)
        (log : List (ServerEntry .twoRooms)) (t' : Server ServerSettings.twoRooms.capacity),
        (serverLTS .twoRooms plainUrl).Run older t ∧
          (serverLTS .twoRooms plainUrl).Path t log t' ∧
            ∃ room ∈ t.registry.find? openCode, (∀ e ∈ log, Secretless room.hostSecret e) ∧
              (∀ e ∈ log, ¬ ExceedsIdleLimit openCode e) ∧
                ∃ room' ∈ t'.registry.find? openCode,
                  room'.transportActive ≠ room.transportActive :=
    exists_brokerPath_of_exec (openRoom (.ofDigit 1))
      (postEvent (.ofDigit 2) [("type", .str "match_ended"), ("transportActive", .str "p2p")])
      (by decide +kernel)
  obtain ⟨-, hcode⟩ := Registry.find?_some hroom
  rcases h _ _ older log t t' openCode room hrun hroom hpath hsecret with
    hstands | ⟨newer, e, rest, rfl, -, hexceeds⟩
  · obtain ⟨room'', hfind, hintact⟩ := hstands.intact
    rw [hcode, hroom'] at hfind
    obtain rfl := Option.some.inj hfind
    exact hmark hintact.transportActive
  · rw [hcode] at hexceeds
    exact hidle e (List.mem_append_right _ List.mem_cons_self) hexceeds

end Broker
end Sf4e
