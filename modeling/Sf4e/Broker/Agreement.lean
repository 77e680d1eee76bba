/-
# Do the two sides of a room get the same transport?

Either side asks the broker for a plan, registers an endpoint and takes the plan in the answer
in place of the first one; this is `FetchConnectPlan`.  The requests of the two sides reach the
broker in any order and any number of times, the relay's health changes in between, and
answers are lost.

The plan a side acts on is settled by one request of its own, and by what that request found:
a connect-plan request finds the relay up or down, and both requests find the endpoints that
are registered by then.  `agrees_iff` says that the two sides act on the same transport exactly
when the broker offers nothing but the session tunnel or the two requests found the same.
-/
import Sf4e.Broker.Decode
import Sf4e.Trace.LTS

namespace Sf4e
namespace Broker

open Wire Transport Trace
open Relay (ascii)

/-! ## Runs -/

/-- The broker's room and the `FetchConnectPlan` calls of the two sides. -/
structure Fetching where
  room : Room
  /-- What a call in progress has got so far. -/
  fetch : Role → Option ConnectPlanResult
  /-- What the last call has returned. -/
  acted : Role → Option ConnectPlanResult

/-- What happens to a room. -/
inductive RoomAction
  /-- A connect-plan request reaches the broker, which finds the relay in the given health,
  and the answer reaches the side.  A request without an answer leaves nothing behind. -/
  | connectPlan (role : Role) (relay : RelayHealth)
  /-- A registration reaches the broker.  It is `heard` if the call that sent it is still
  waiting for the answer and gets it. -/
  | register (role : Role) (hostSecret : Text) (ggpoPort : ℤ) (natType : Text)
      (probe : Option NatProbe) (heard : Bool)
  /-- The call of a side returns: it has no port to register, its probe could not be sent, or
  its registration is not answered. -/
  | giveUp (role : Role)
deriving DecidableEq

/-- The call of a side returns its result. -/
def Fetching.finish (s : Fetching) (role : Role) (r : ConnectPlanResult) : Fetching :=
  { s with
    fetch := Function.update s.fetch role none,
    acted := Function.update s.acted role (some r) }

@[simp] lemma Fetching.finish_room (s : Fetching) (role : Role) (r : ConnectPlanResult) :
    (s.finish role r).room = s.room := rfl

@[simp] lemma Fetching.finish_fetch (s : Fetching) (role : Role) (r : ConnectPlanResult) :
    (s.finish role r).fetch = Function.update s.fetch role none := rfl

@[simp] lemma Fetching.finish_acted (s : Fetching) (role : Role) (r : ConnectPlanResult) :
    (s.finish role r).acted = Function.update s.acted role (some r) := rfl

/-- The room and the plan after a registration; one that is refused has neither effect nor
plan. -/
def registered (config : Config) (room : Room) (req : RegisterRequest) (probe : Option NatProbe) :
    Room × Option Object :=
  match registerEndpoint config room req probe with
  | .ok (room', plan) => (room', some plan)
  | .error _ => (room, none)

/-- One step. -/
def Fetching.next (config : Config) (code : Text) (s : Fetching) :
    RoomAction → Option (Unit × Fetching)
  | .connectPlan role relay =>
    let plan := getConnectPlan config s.room code role.name relay
    some ((), { s with
      fetch := Function.update s.fetch role (applyConnectPlanJson plan .new) })
  | .register role hostSecret ggpoPort natType probe heard =>
    let req : RegisterRequest := ⟨role.name, hostSecret, ggpoPort, natType⟩
    let (room', plan) := registered config s.room req probe
    if heard then
      -- without a plan the call keeps the plan of its connect-plan request
      (s.fetch role).map fun r => ((), { s with room := room' }.finish role
        ((plan.bind fun j => applyConnectPlanJson j r).getD r))
    else some ((), { s with room := room' })
  | .giveUp role => (s.fetch role).map fun r => ((), s.finish role r)

/-- A new room, in which nobody has registered and nobody has called. -/
def Fetching.New (s : Fetching) : Prop :=
  s.room.hostEndpoint = none ∧ s.room.guestEndpoint = none ∧
    (∀ role, s.fetch role = none) ∧ ∀ role, s.acted role = none

/-- The room of a broker, with everything its two sides may do. -/
def roomLTS (config : Config) (code : Text) : LTS Fetching RoomAction Unit :=
  LTS.ofFun Fetching.New (Fetching.next config code)

/-- The two sides do not act on different transports. -/
def Agrees (s : Fetching) : Prop :=
  ∀ host ∈ s.acted .host, ∀ guest ∈ s.acted .guest, host.ggpoTransport = guest.ggpoTransport

/-! ## What the requests have found -/

/-- What a request found when its plan was made. -/
structure Finding where
  /-- The relay was not known to be down; a registration does not ask. -/
  relayOk : Bool
  /-- The room, with the endpoints registered by then. -/
  room : Room

/-- Two requests found the same: the relay down, or the relay up and endpoints between which
P2P is equally possible. -/
def Finding.SameAs (f g : Finding) : Prop :=
  f.relayOk = g.relayOk ∧
    (f.relayOk = true → predictP2pPossible f.room = predictP2pPossible g.room)

instance (f g : Finding) : Decidable (f.SameAs g) :=
  inferInstanceAs (Decidable (_ ∧ _))

/-- A log of a room. -/
abbrev RoomLog := List (Entry Fetching RoomAction Unit)

/-- What the connect-plan request of the call in progress has found. -/
def underway (role : Role) : RoomLog → Option Finding
  | [] => none
  | e :: log =>
    match e.act with
    | .connectPlan role' relay =>
      if role' = role then some ⟨relay.ok, e.pre.room⟩ else underway role log
    | .register role' _ _ _ _ heard =>
      if role' = role ∧ heard = true then none else underway role log
    | .giveUp role' => if role' = role then none else underway role log

/-- What the request that settled the last plan of a side has found: the registration, if it
was accepted and its answer heard, else the connect-plan request before it. -/
def settled (config : Config) (role : Role) : RoomLog → Option Finding
  | [] => none
  | e :: log =>
    match e.act with
    | .connectPlan _ _ => settled config role log
    | .register role' hostSecret ggpoPort natType probe heard =>
      if role' = role ∧ heard = true then
        if (registerEndpoint config e.pre.room ⟨role'.name, hostSecret, ggpoPort, natType⟩
            probe).isOk then some ⟨true, e.post.room⟩
        else underway role log
      else settled config role log
    | .giveUp role' => if role' = role then underway role log else settled config role log

/-- The last plans of the two sides are settled by requests that found the same. -/
def FoundSame (config : Config) (log : RoomLog) : Prop :=
  ∀ f ∈ settled config .host log, ∀ g ∈ settled config .guest log, f.SameAs g

instance (config : Config) (log : RoomLog) : Decidable (FoundSame config log) :=
  inferInstanceAs (Decidable (∀ f ∈ settled config .host log, ∀ g ∈ settled config .guest log, _))

/-! ## A plan shows what its request has found -/

/-- The transport that a request is to be answered with. -/
def Finding.transport (config : Config) (f : Finding) : GgpoTransportMode :=
  if f.relayOk then intendedTransport config f.room else .legacySessionTunnel

/-- The result comes from a request with that finding, in the room as it is. -/
structure Shows (config : Config) (room : Room) (r : ConnectPlanResult) (f : Finding) : Prop where
  transport : r.ggpoTransport = (f.transport config).code
  /-- Endpoints come and go, the port of the relay stays. -/
  ggpoPort : f.room.ggpoPort = room.ggpoPort

lemma Shows.of_ggpoPort {config : Config} {room room' : Room} {r : ConnectPlanResult} {f : Finding}
    (h : Shows config room r f) (hport : room'.ggpoPort = room.ggpoPort) :
    Shows config room' r f :=
  ⟨h.transport, h.ggpoPort.trans hport.symm⟩

@[simp] lemma setEndpoint_ggpoPort (room : Room) (role : Role) (e : Endpoint) :
    (room.setEndpoint role e).ggpoPort = room.ggpoPort := by
  cases role <;> rfl

/-- A connect-plan request is answered with the plan of the room, or, while the relay is down,
of the room without its relay. -/
lemma connectPlan_shows (config : Config) (room : Room) (code : Text) (role : String)
    (relay : RelayHealth) :
    ∃ r, applyConnectPlanJson (getConnectPlan config room code role relay) .new = some r ∧
      Shows config room r ⟨relay.ok, room⟩ := by
  unfold getConnectPlan
  have hread (planRoom : Room) (ggpoRelayOk : Bool) :
      applyConnectPlanJson ([("ok", .bool true), ("code", .str code),
          ("relayOk", .bool relay.ok), ("ggpoRelayOk", .bool ggpoRelayOk)] ++
        buildConnectPlan config planRoom role.toLower true) .new =
      some (decoded config planRoom .new) :=
    applyConnectPlanJson_plan
      ((holdsPlan_buildConnectPlan config planRoom role.toLower).append (by simp)) .new
  refine ⟨_, hread _ _, ?_, rfl⟩
  cases hok : relay.ok with
  | true => simp [decoded, Finding.transport]
  | false =>
    -- with or without a port of its own, the room comes out without one
    by_cases hport : room.ggpoPort = 0
    · simp [decoded, Finding.transport, hport, intendedTransport, legacyOnly]
    · simp [decoded, Finding.transport, hport, intendedTransport, legacyOnly]

/-- What a registration comes to. -/
lemma registered_cases (config : Config) (room : Room) (req : RegisterRequest)
    (probe : Option NatProbe) :
    ((registerEndpoint config room req probe).isOk = false ∧
        registered config room req probe = (room, none)) ∨
      ∃ role e, (registerEndpoint config room req probe).isOk = true ∧
        registered config room req probe = (room.setEndpoint role e,
          some (buildConnectPlan config (room.setEndpoint role e) role.name true)) := by
  unfold registered registerEndpoint
  cases Role.parse req.role with
  | none => exact .inl ⟨rfl, rfl⟩
  | some role =>
    dsimp only
    split_ifs
    · exact .inl ⟨rfl, rfl⟩
    · cases probe with
      | none => exact .inl ⟨rfl, rfl⟩
      | some probe => exact .inr ⟨role, _, rfl, rfl⟩
    · exact .inl ⟨rfl, rfl⟩

/-- The results of the two sides come from the requests of the log. -/
structure Tracks (config : Config) (log : RoomLog) (s : Fetching) : Prop where
  fetch : ∀ role, Option.Rel (Shows config s.room) (s.fetch role) (underway role log)
  acted : ∀ role, Option.Rel (Shows config s.room) (s.acted role) (settled config role log)

lemma rel_of_ggpoPort {config : Config} {room room' : Room} {r : Option ConnectPlanResult}
    {f : Option Finding} (h : Option.Rel (Shows config room) r f)
    (hport : room'.ggpoPort = room.ggpoPort) : Option.Rel (Shows config room') r f := by
  cases h with
  | none => exact .none
  | some h => exact .some (h.of_ggpoPort hport)

lemma tracks_of_new {config : Config} {s : Fetching} (h : s.New) : Tracks config [] s := by
  obtain ⟨-, -, hfetch, hacted⟩ := h
  refine ⟨fun role => ?_, fun role => ?_⟩
  · rw [hfetch]
    exact .none
  · rw [hacted]
    exact .none

/-- What holds of every side still holds when one side's entry is replaced on both sides. -/
lemma rel_update {α β : Type} {R : α → β → Prop} {f : Role → Option α} {x : Option α}
    {g y : Role → Option β} (role : Role) (hxy : Option.Rel R x (y role))
    (h : ∀ role', Option.Rel R (f role') (g role')) (role' : Role) :
    Option.Rel R (Function.update f role x role') (if role = role' then y role' else g role') := by
  by_cases hr : role = role'
  · subst hr
    simpa using hxy
  · simpa [hr, Function.update_of_ne (Ne.symm hr)] using h role'

lemma tracks_connectPlan {config : Config} {code : Text} {log : RoomLog} {s t : Fetching}
    {role : Role} {relay : RelayHealth} (h : Tracks config log s)
    (hs : s.next config code (.connectPlan role relay) = some ((), t)) :
    Tracks config (⟨s, .connectPlan role relay, (), t⟩ :: log) t := by
  obtain ⟨r, hr, hshows⟩ := connectPlan_shows config s.room code role.name relay
  obtain rfl : _ = t := by simpa [Fetching.next, hr] using hs
  exact ⟨rel_update (y := fun _ => _) role (.some hshows) h.fetch, h.acted⟩

lemma tracks_giveUp {config : Config} {code : Text} {log : RoomLog} {s t : Fetching}
    {role : Role} (h : Tracks config log s)
    (hs : s.next config code (.giveUp role) = some ((), t)) :
    Tracks config (⟨s, .giveUp role, (), t⟩ :: log) t := by
  obtain ⟨r, hr, rfl⟩ : ∃ r, s.fetch role = some r ∧ s.finish role r = t := by
    simpa [Fetching.next] using hs
  exact ⟨rel_update (y := fun _ => none) role .none h.fetch,
    rel_update (y := (underway · log)) role (hr ▸ h.fetch role) h.acted⟩

/-- A registration changes the endpoints at most, and settles the plan of the side whose call
hears of it. -/
lemma tracks_register {config : Config} {code : Text} {log : RoomLog} {s t : Fetching}
    {role : Role} {hostSecret natType : Text} {ggpoPort : ℤ} {probe : Option NatProbe}
    {heard : Bool} (h : Tracks config log s)
    (hs : s.next config code (.register role hostSecret ggpoPort natType probe heard) =
      some ((), t)) :
    Tracks config (⟨s, .register role hostSecret ggpoPort natType probe heard, (), t⟩ :: log)
      t := by
  unfold Fetching.next at hs
  dsimp only at hs
  cases heard with
  | false =>
    rcases registered_cases config s.room ⟨role.name, hostSecret, ggpoPort, natType⟩ probe with
      ⟨-, hreg⟩ | ⟨role', e, -, hreg⟩
    all_goals
      obtain rfl : _ = t := by simpa [hreg] using hs
      refine ⟨fun role₂ => ?_, fun role₂ => ?_⟩
      · simpa [underway] using rel_of_ggpoPort (h.fetch role₂) (by simp)
      · simpa [settled] using rel_of_ggpoPort (h.acted role₂) (by simp)
  | true =>
    obtain ⟨r, hr⟩ : ∃ r, s.fetch role = some r := by
      cases hr : s.fetch role with
      | none => simp [hr] at hs
      | some r => exact ⟨r, rfl⟩
    have hfetch : Option.Rel (Shows config s.room) (some r) (underway role log) := hr ▸ h.fetch role
    rcases registered_cases config s.room ⟨role.name, hostSecret, ggpoPort, natType⟩ probe with
      ⟨hok, hreg⟩ | ⟨role', e, hok, hreg⟩
    · obtain rfl : _ = t := by simpa [hreg, hr] using hs
      refine ⟨fun role₂ => ?_, fun role₂ => ?_⟩
      · simpa [underway] using rel_update (y := fun _ => none) role .none h.fetch role₂
      · simpa [settled, hok] using rel_update (y := (underway · log)) role hfetch h.acted role₂
    · -- the answer replaces the plan, and is a plan of the room with the new endpoint
      have hplan := applyConnectPlanJson_plan
        (holdsPlan_buildConnectPlan config (s.room.setEndpoint role' e) role'.name) r
      obtain rfl : _ = t := by simpa [hreg, hr, hplan] using hs
      have hport : (s.room.setEndpoint role' e).ggpoPort = s.room.ggpoPort := by simp
      have hfetch₂ (role₂ : Role) := rel_of_ggpoPort (h.fetch role₂) hport
      have hacted₂ (role₂ : Role) := rel_of_ggpoPort (h.acted role₂) hport
      have hshows : Shows config (s.room.setEndpoint role' e)
          (decoded config (s.room.setEndpoint role' e) r) ⟨true, s.room.setEndpoint role' e⟩ :=
        ⟨rfl, rfl⟩
      refine ⟨fun role₂ => ?_, fun role₂ => ?_⟩
      · simpa [underway] using rel_update (y := fun _ => none) role .none hfetch₂ role₂
      · simpa [settled, hok] using
          rel_update (y := fun _ => some _) role (.some hshows) hacted₂ role₂

/-- One step keeps the account of the requests. -/
lemma tracks_step {config : Config} {code : Text} {log : RoomLog}
    {e : Entry Fetching RoomAction Unit} (h : Tracks config log e.pre)
    (hs : (roomLTS config code).Steps e) : Tracks config (e :: log) e.post := by
  obtain ⟨s, a, ⟨⟩, t⟩ := e
  cases a with
  | connectPlan role relay => exact tracks_connectPlan h hs
  | register role hostSecret ggpoPort natType probe heard => exact tracks_register h hs
  | giveUp role => exact tracks_giveUp h hs

/-- In every run the results come from the requests of its log. -/
lemma tracksRoom_of_run {config : Config} {code : Text} {log : RoomLog} {t : Fetching}
    (h : (roomLTS config code).Run log t) : Tracks config log t :=
  h.invariant_of_step (Tracks config) (fun _ hs => tracks_of_new hs)
    fun _ _ hinv hs => tracks_step hinv hs

/-! ## Agreement -/

lemma code_eq_iff {m m' : GgpoTransportMode} : m.code = m'.code ↔ m = m' := by
  cases m <;> cases m' <;> decide

/-- Two requests in a room are meant to be answered alike if they have found the same, or the
room has no relay. -/
lemma transport_eq_iff {config : Config} {f g : Finding}
    (hport : f.room.ggpoPort = g.room.ggpoPort) :
    f.transport config = g.transport config ↔ legacyOnly config g.room = true ∨ f.SameAs g := by
  have hlegacy : legacyOnly config f.room = legacyOnly config g.room := by
    unfold legacyOnly
    rw [hport]
  obtain ⟨fok, froom⟩ := f
  obtain ⟨gok, groom⟩ := g
  unfold Finding.transport Finding.SameAs intendedTransport
  dsimp only at hlegacy ⊢
  rw [hlegacy]
  by_cases hl : legacyOnly config groom = true
  · simp [hl]
  · cases hf : predictP2pPossible froom <;> cases hg : predictP2pPossible groom <;>
      cases fok <;> cases gok <;> simp [hl]

/-- **The sides agree** at the end of a run exactly when the broker offers the room nothing but
the session tunnel, or the requests that settled their last plans have found the same. -/
theorem agrees_iff {config : Config} {code : Text} {log : RoomLog} {t : Fetching}
    (h : (roomLTS config code).Run log t) :
    Agrees t ↔ legacyOnly config t.room = true ∨ FoundSame config log := by
  have htracks := tracksRoom_of_run h
  have hhost := htracks.acted .host
  have hguest := htracks.acted .guest
  unfold Agrees FoundSame
  generalize t.acted .host = host, settled config .host log = f at hhost
  generalize t.acted .guest = guest, settled config .guest log = g at hguest
  cases hhost with
  | none => simp
  | some hhost =>
    cases hguest with
    | none => simp
    | @some guest g hguest =>
      have hport : legacyOnly config g.room = legacyOnly config t.room := by
        unfold legacyOnly
        rw [hguest.ggpoPort]
      simp only [Option.mem_def, Option.some.injEq, forall_eq', hhost.transport, hguest.transport,
        code_eq_iff, transport_eq_iff (hhost.ggpoPort.trans hguest.ggpoPort.symm), hport]

/-! ## Two players behind one address -/

/-- The room of the example before anybody has called. -/
def Fetching.start : Fetching := ⟨.example, fun _ => none, fun _ => none⟩

lemma new_start : Fetching.start.New := ⟨rfl, rfl, fun _ => rfl, fun _ => rfl⟩

/-- A list of actions in that room whose log passes a test. -/
lemma exists_roomRun_of_exec (acts : List RoomAction) {p : RoomLog → Fetching → Prop}
    [∀ log t, Decidable (p log t)]
    (h : (LTS.exec (Fetching.next .example (ascii "SF4-ABCD")) .start [] acts).any
      (fun r => decide (p r.1 r.2)) = true) :
    ∃ log t, (roomLTS .example (ascii "SF4-ABCD")).Run log t ∧ p log t := by
  obtain ⟨log, t, hpath, hp⟩ := LTS.exists_path_of_exec acts h
  exact ⟨log, t, ⟨.start, new_start, hpath⟩, hp⟩

lemma publicIp_ne : ascii "203.0.113.7" ≠ [] := by decide

/-- The calls of the two sides from the address `203.0.113.7`, with the relay up. -/
def callOf (role : Role) (port : ℕ) : List RoomAction :=
  [.connectPlan role ⟨true, true⟩,
    .register role (ascii "secret") (Int.ofNat port) (ascii "unknown")
      (some ⟨ascii "203.0.113.7", port, publicIp_ne⟩) true]

/-- The transport that a side acts on. -/
def Fetching.transport (s : Fetching) (role : Role) : Option UInt8 :=
  (s.acted role).map (·.ggpoTransport)

/-- A guest that calls once more gets the transport that the host has got. -/
theorem agrees_after_second_call :
    ∃ log t, (roomLTS .example (ascii "SF4-ABCD")).Run log t ∧
      t.transport .host = some GgpoTransportMode.p2p.code ∧ FoundSame .example log ∧
        Agrees t := by
  obtain ⟨log, t, hrun, hhost, hfound⟩ :=
    exists_roomRun_of_exec (callOf .guest 23458 ++ callOf .host 23457 ++ callOf .guest 23458)
      (p := fun log t => t.transport .host = some GgpoTransportMode.p2p.code ∧
        FoundSame .example log) (by decide +kernel)
  exact ⟨log, t, hrun, hhost, hfound, (agrees_iff hrun).2 (.inr hfound)⟩

/-- **The first caller is told to use the relay, the second to use P2P**: when the host
registers, the guest has not. -/
theorem not_agrees_second_caller :
    ¬ ∀ (config : Config) (code : Text) (log : RoomLog) (t : Fetching),
        (roomLTS config code).Run log t → Agrees t := by
  intro h
  obtain ⟨log, t, hrun, hhost, hguest⟩ :=
    exists_roomRun_of_exec (callOf .host 23457 ++ callOf .guest 23458)
      (p := fun _ t => t.transport .host = some GgpoTransportMode.udpRelay.code ∧
        t.transport .guest = some GgpoTransportMode.p2p.code) (by decide +kernel)
  have hagrees := h _ _ log t hrun
  obtain ⟨host, hhost, hudp⟩ := Option.map_eq_some_iff.1 hhost
  obtain ⟨guest, hguest, hp2p⟩ := Option.map_eq_some_iff.1 hguest
  have hsame := hagrees host hhost guest hguest
  rw [hudp, hp2p, code_eq_iff] at hsame
  exact absurd hsame (by decide)

end Broker
end Sf4e
