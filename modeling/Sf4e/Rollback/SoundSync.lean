/-
# Sounds after a rollback

The game plays its sounds on a stub manager, which plays nothing and is rolled back with the
battle, while a real manager with as many adapters is heard.  `SyncState` brings the real one into
line: it carries out the stops that were queued, stops what the stub does not play, and for each
sound of the stub takes an adapter that plays it and is not claimed yet, or plays it.

A real adapter that plays too many copies of a sound is not stopped, and one that has just been
given a sound is not claimed, so that a second copy of the sound takes the same adapter.  The
sounds agree afterwards exactly when each sound of the stub is played by as many real adapters, or
by one less, once the queued stops are taken off (`Balanced`).

`SyncState` does this for every pair of managers; here it is one pair.
-/
import Mathlib.Data.List.FinRange
import Mathlib.Data.Multiset.AddSub
import Sf4e.Data.Reuse
import Sf4e.Rollback.Sound
import Sf4e.Trace.LTS

namespace Sf4e
namespace Rollback

open Trace

/-! ## Managers -/

/-- The arguments of a request for a sound. -/
structure PlayArgs where
  cueSheetHandle : UInt32
  cueIdx : UInt32
  type : UInt32
  flags : UInt32
  position : Addr
deriving DecidableEq

/-- The arguments that a sound was requested with. -/
def DeferredSoundRequest.args (s : DeferredSoundRequest) : PlayArgs :=
  ⟨s.cueSheetHandle, s.cueIdx, s.type, s.flags, s.position⟩

/-- `IsEqual`. -/
def DeferredSoundRequest.isEqual (lhs rhs : DeferredSoundRequest) : Bool :=
  lhs.cueIdx == rhs.cueIdx && lhs.cueSheetHandle == rhs.cueSheetHandle && lhs.flags == rhs.flags &&
    lhs.type == rhs.type && lhs.position == rhs.position

/-- `CriPlayerAdapter` with its entry of `adapterToCurrentSound`. -/
structure Adapter (P : Type) where
  sound : DeferredSoundRequest := {}
  /-- The fields that say how the sound is played. -/
  params : P

/-- A call of the engine. -/
inductive SoundCall
  | play (args : PlayArgs)
  | stop (handle : UInt32)
deriving DecidableEq

/-- The engine's own methods of a manager with `n` adapters, which has some state besides.  Playing
may look at what the adapters play. -/
structure SoundEngine (E : Type) (n : ℕ) where
  playSound : E → (Fin n → DeferredSoundRequest) → PlayArgs → UInt32 × E
  stopSound : E → UInt32 → E
  update : E → E

/-- A handle of no sound. -/
def failed : UInt32 := 0xffffffff

/-- `SoundReference::FromHandle(handle).index`. -/
def handleIndex (handle : UInt32) : ℕ := (handle >>> 16).toNat

/-- A sound is played on a free adapter whenever there is one. -/
def SoundEngine.FreeFirst {E : Type} {n : ℕ} (eng : SoundEngine E n) : Prop :=
  ∀ e sounds args, (∃ j, (sounds j).bLive = false) →
    (eng.playSound e sounds args).1 ≠ failed ∧
      ∃ j : Fin n, handleIndex (eng.playSound e sounds args).1 = j ∧ (sounds j).bLive = false

/-- `SoundPlayerManager`, and what the engine has been asked, the latest first. -/
structure PlayerManager (E P : Type) (n : ℕ) where
  adapters : Fin n → Adapter P
  engine : E
  calls : List SoundCall := []

/-- A stub with its real manager, as in `shadowManagerMap`. -/
structure ShadowedManager (E P : Type) (n : ℕ) where
  stub : PlayerManager E P n
  real : PlayerManager E P n
  /-- `queuedStops` of the stub. -/
  queuedStops : List DeferredSoundRequest := []

variable {E P : Type} {n : ℕ} (eng : SoundEngine E n)

namespace PlayerManager

variable (m : PlayerManager E P n)

/-- The sound of an adapter. -/
def sound (j : Fin n) : DeferredSoundRequest := (m.adapters j).sound

/-- The sound of an adapter is changed. -/
def setSound (j : Fin n) (s : DeferredSoundRequest) : PlayerManager E P n :=
  { m with adapters := Function.update m.adapters j { m.adapters j with sound := s } }

/-- `StopSound`: the manager, and the stop that is queued when it is a stub.  The handle is that of
an adapter. -/
def stopSound (handle : UInt32) : PlayerManager E P n × List DeferredSoundRequest :=
  let r := if h : handleIndex handle < n then
      let sound := { m.sound ⟨_, h⟩ with bLive := false }
      (m.setSound ⟨_, h⟩ sound, [sound])
    else (m, [])
  ({ r.1 with engine := eng.stopSound m.engine handle, calls := .stop handle :: m.calls }, r.2)

/-- The live sound that was started first. -/
def oldest : Option DeferredSoundRequest :=
  (List.finRange n).foldl (fun oldestReq i =>
    let req := m.sound i
    if req.bLive = false then oldestReq
    else match oldestReq with
      | none => some req
      | some old => if req.nFrame < old.nFrame then some req else some old) none

/-- The engine's `PlaySound`. -/
def enginePlay (args : PlayArgs) : UInt32 × PlayerManager E P n :=
  let r := eng.playSound m.engine m.sound args
  (r.1, { m with engine := r.2, calls := .play args :: m.calls })

/-- The first part of `PlaySound`: when there is no player for a sound, the oldest one is stopped
and the sound is tried again. -/
def playOver (args : PlayArgs) : UInt32 × PlayerManager E P n × List DeferredSoundRequest :=
  let r := m.enginePlay eng args
  if r.1 = failed then
    match r.2.oldest with
    | none => (r.1, r.2, [])
    | some oldestReq =>
      let (m, stops) := r.2.stopSound eng oldestReq.currentAdapterHandle
      let r := m.enginePlay eng args
      (r.1, r.2, stops)
  else (r.1, r.2, [])

/-- `PlaySound`: the handle, the manager, and the stops that are queued when it is a stub. -/
def playSound (frame : Int32) (args : PlayArgs) :
    UInt32 × PlayerManager E P n × List DeferredSoundRequest :=
  let (out, m, stops) := m.playOver eng args
  if out = failed then (out, m, stops)
  else if h : handleIndex out < n then
    let sound := m.sound ⟨_, h⟩
    -- the sound of a live adapter has been interrupted
    let stops := if sound.bLive then stops ++ [sound] else stops
    (out, m.setSound ⟨_, h⟩ ⟨true, frame, out, args.cueSheetHandle, args.cueIdx, args.type,
      args.flags, args.position⟩, stops)
  else (out, m, stops)

/-- `StopAll`: nothing but the metadata is changed. -/
def stopAll : PlayerManager E P n × List DeferredSoundRequest :=
  ({ m with
      adapters := fun j => { m.adapters j with sound := { m.sound j with bLive := false } } },
    (List.finRange n).map fun j => { m.sound j with bLive := false })

end PlayerManager

/-! ## Synchronising -/

/-- The first adapter with a property. -/
def firstAdapter (p : Fin n → Bool) : Option (Fin n) := (List.finRange n).find? p

/-- A queued stop is carried out on the instance of the sound that it names. -/
def stopQueued (real : PlayerManager E P n) (stoppedSound : DeferredSoundRequest) :
    PlayerManager E P n :=
  match firstAdapter fun j => (real.sound j).bLive && stoppedSound.isEqual (real.sound j) &&
      (real.sound j).nFrame == stoppedSound.nFrame with
  | none => real
  | some j => (real.stopSound eng (real.sound j).currentAdapterHandle).1

/-- A real adapter is stopped when its sound is not supposed to be playing. -/
def stopStale (stub real : PlayerManager E P n) (i : Fin n) : PlayerManager E P n :=
  if (real.sound i).bLive && !(List.finRange n).any fun j =>
      (stub.sound j).bLive && (stub.sound j).isEqual (real.sound i) then
    (real.stopSound eng (real.sound i).currentAdapterHandle).1
  else real

/-- The real manager while the playing sounds are reconciled, the adapters that are claimed, and
the adapters of the stub that are done with their real ones, the latest first. -/
structure Reconciling (E P : Type) (n : ℕ) where
  real : PlayerManager E P n
  claimedAdapters : Finset (Fin n) := ∅
  targets : List (Fin n × Fin n) := []

namespace Reconciling

/-- The frame and the parameters of a stub adapter are those of its real one. -/
def mirror (st : Reconciling E P n) (stub : PlayerManager E P n) (i j : Fin n) :
    Reconciling E P n where
  real := { st.real with
    adapters := Function.update st.real.adapters j
      ⟨{ st.real.sound j with nFrame := (stub.sound i).nFrame }, (stub.adapters i).params⟩ }
  claimedAdapters := st.claimedAdapters
  targets := (i, j) :: st.targets

/-- The adapter that a sound of the stub claims. -/
def target? (st : Reconciling E P n) (stubSound : DeferredSoundRequest) : Option (Fin n) :=
  firstAdapter fun j => (st.real.sound j).bLive && stubSound.isEqual (st.real.sound j) &&
    !decide (j ∈ st.claimedAdapters)

/-- A sound of the stub is reconciled. -/
def reconcile (stub : PlayerManager E P n) (frame : Int32) (st : Reconciling E P n) (i : Fin n) :
    Reconciling E P n :=
  if (stub.sound i).bLive = false then st
  else match st.target? (stub.sound i) with
    | some j => { st with claimedAdapters := insert j st.claimedAdapters }.mirror stub i j
    | none =>
      let (playerHandle, real, _) := st.real.playSound eng frame (stub.sound i).args
      if playerHandle = failed then { st with real := real }
      else if h : handleIndex playerHandle < n then
        { st with real := real }.mirror stub i ⟨_, h⟩
      else { st with real := real }

end Reconciling

namespace ShadowedManager

variable (m : ShadowedManager E P n) (frame : Int32)

/-- The real manager once the queued stops are carried out. -/
def stopped : PlayerManager E P n := m.queuedStops.foldl (stopQueued eng) m.real

/-- The real manager once nothing plays that should not. -/
def pruned : PlayerManager E P n := (List.finRange n).foldl (stopStale eng m.stub) (m.stopped eng)

/-- The sounds of the first adapters of the stub are reconciled. -/
def reconciled (done : ℕ) : Reconciling E P n :=
  ((List.finRange n).take done).foldl (Reconciling.reconcile eng m.stub frame)
    { real := m.pruned eng }

/-- `SyncState`. -/
def syncState : ShadowedManager E P n :=
  let real := (m.reconciled eng frame n).real
  { m with real := { real with engine := eng.update real.engine }, queuedStops := [] }

end ShadowedManager

/-! ## Runs -/

/-- What happens to a stub and its real manager. -/
inductive SoundAction (P : Type) (n : ℕ)
  /-- The game plays a sound. -/
  | play (args : PlayArgs) (frame : Int32)
  /-- The game stops a sound. -/
  | stop (handle : UInt32)
  | stopAll
  /-- A saved state is loaded: the sounds of the stub are those that were saved. -/
  | restore (sounds : Fin n → DeferredSoundRequest)
  /-- The game changes how the sounds of the stub are played. -/
  | adjust (params : Fin n → P)
  | sync (frame : Int32)

/-- One step. -/
def ShadowedManager.next (m : ShadowedManager E P n) :
    SoundAction P n → Option (Unit × ShadowedManager E P n)
  | .play args frame =>
    let (_, stub, stops) := m.stub.playSound eng frame args
    some ((), { m with stub := stub, queuedStops := m.queuedStops ++ stops })
  | .stop handle =>
    let (stub, stops) := m.stub.stopSound eng handle
    some ((), { m with stub := stub, queuedStops := m.queuedStops ++ stops })
  | .stopAll =>
    let (stub, stops) := m.stub.stopAll
    some ((), { m with stub := stub, queuedStops := m.queuedStops ++ stops })
  | .restore sounds =>
    let adapters := fun j => { m.stub.adapters j with sound := sounds j }
    some ((), { m with stub := { m.stub with adapters := adapters }, queuedStops := [] })
  | .adjust params =>
    let adapters := fun j => { m.stub.adapters j with params := params j }
    some ((), { m with stub := { m.stub with adapters := adapters } })
  | .sync frame => some ((), m.syncState eng frame)

/-- The runs of a stub and its real manager, from their creation. -/
def soundLTS : LTS (ShadowedManager E P n) (SoundAction P n) Unit :=
  .ofFun (fun m => m.queuedStops = [] ∧ ∀ j, m.stub.sound j = {} ∧ m.real.sound j = {})
    (ShadowedManager.next eng)

/-! ## What is to be shown -/

/-- What an adapter plays. -/
def PlayerManager.plays (m : PlayerManager E P n) (j : Fin n) : Option PlayArgs :=
  if (m.sound j).bLive then some (m.sound j).args else none

/-- An occurrence of a sound: what was requested, and in which frame it was started. -/
def DeferredSoundRequest.occurrence (s : DeferredSoundRequest) : PlayArgs × Int32 :=
  (s.args, s.nFrame)

/-- The sounds that are playing. -/
def PlayerManager.occurrences (m : PlayerManager E P n) : Multiset (PlayArgs × Int32) :=
  (Finset.univ.filter fun j => (m.sound j).bLive = true).val.map fun j => (m.sound j).occurrence

namespace ShadowedManager

section

variable (m : ShadowedManager E P n)

/-- How many copies of a sound the real manager plays that no queued stop names. -/
def left (k : PlayArgs) : ℕ :=
  (m.real.occurrences -
    (m.queuedStops.map DeferredSoundRequest.occurrence : Multiset (PlayArgs × Int32))).countP
      fun o => o.1 = k

/-- Every sound of the stub is played as often by the real manager, or one time less. -/
def Balanced : Prop :=
  ∀ i, (m.stub.sound i).bLive = true →
    m.left (m.stub.sound i).args ≤ Reuse.copies m.stub.plays (m.stub.sound i).args ∧
      Reuse.copies m.stub.plays (m.stub.sound i).args ≤ m.left (m.stub.sound i).args + 1

instance : Decidable m.Balanced := Nat.decidableForallFin _

variable (frame : Int32)

/-- A sound is to be played when all real adapters are taken. -/
def MakesRoom : Prop :=
  ∃ i : Fin n, (m.stub.sound i).bLive = true ∧
    (m.reconciled eng frame i).target? (m.stub.sound i) = none ∧
    ∀ j, ((m.reconciled eng frame i).real.sound j).bLive = true

/-- `SyncState` brings the real manager into line. -/
structure SyncWorks : Prop where
  /-- Every sound of the stub has a real adapter. -/
  mapped : (m.reconciled eng frame n).targets.reverse.map Prod.fst =
    (List.finRange n).filter fun i => (m.stub.sound i).bLive
  /-- No two have the same one. -/
  distinct : ((m.reconciled eng frame n).targets.map Prod.snd).Nodup
  /-- It plays the sound. -/
  same : ∀ p ∈ (m.reconciled eng frame n).targets,
    (m.syncState eng frame).real.plays p.2 = some (m.stub.sound p.1).args
  /-- As many copies of a sound are played by the real manager as by the stub. -/
  agree : ∀ k, Reuse.copies (m.syncState eng frame).real.plays k = Reuse.copies m.stub.plays k
  /-- A sound that is playing and that no queued stop names goes on, or it is not played. -/
  unbroken : ∃ calls, (m.syncState eng frame).real.calls = calls ++ m.real.calls ∧
    ∀ j, (m.real.sound j).bLive = true →
      (m.real.sound j).occurrence ∉ m.queuedStops.map DeferredSoundRequest.occurrence →
      ((m.syncState eng frame).real.plays j = some (m.real.sound j).args ∧
          ((m.syncState eng frame).real.sound j).currentAdapterHandle =
            (m.real.sound j).currentAdapterHandle) ∨
        .play (m.real.sound j).args ∉ calls
  /-- A call that follows at once asks the engine for nothing. -/
  still : ∀ frame', ((m.syncState eng frame).syncState eng frame').real.calls =
    (m.syncState eng frame).real.calls

end

end ShadowedManager

/-! ## One adapter -/

lemma DeferredSoundRequest.isEqual_iff {lhs rhs : DeferredSoundRequest} :
    lhs.isEqual rhs = true ↔ lhs.args = rhs.args := by
  simp only [isEqual, Bool.and_eq_true, beq_iff_eq, args, PlayArgs.mk.injEq]
  tauto

namespace PlayerManager

variable {eng} {m m' m'' : PlayerManager E P n} {j : Fin n} {k : PlayArgs}

lemma plays_eq_some_iff :
    m.plays j = some k ↔ (m.sound j).bLive = true ∧ (m.sound j).args = k := by
  by_cases h : (m.sound j).bLive = true <;> simp [plays, h]

lemma plays_eq_none_iff : m.plays j = none ↔ (m.sound j).bLive = false := by
  by_cases h : (m.sound j).bLive = true <;> simp [plays, h]

lemma sound_setSound (s : DeferredSoundRequest) :
    (m.setSound j s).sound = Function.update m.sound j s := by
  funext i
  by_cases hi : i = j
  · subst hi
    simp [sound, setSound]
  · simp [sound, setSound, hi]

/-- The handle of a live sound is that of its adapter. -/
def HandlesOk (m : PlayerManager E P n) : Prop :=
  ∀ j, (m.sound j).bLive = true → handleIndex (m.sound j).currentAdapterHandle = j

/-- Some sounds have been stopped, and nothing else has happened. -/
structure Quiets (m m' : PlayerManager E P n) : Prop where
  sound : ∀ j, m'.sound j = m.sound j ∨ m'.sound j = { m.sound j with bLive := false }
  calls : ∃ calls, m'.calls = calls ++ m.calls ∧ ∀ c ∈ calls, ∃ handle, c = .stop handle

lemma Quiets.refl (m : PlayerManager E P n) : m.Quiets m := ⟨fun _ => .inl rfl, [], rfl, by simp⟩

lemma Quiets.trans (h : m.Quiets m') (h' : m'.Quiets m'') : m.Quiets m'' := by
  obtain ⟨calls, hcalls, hstops⟩ := h.calls
  obtain ⟨calls', hcalls', hstops'⟩ := h'.calls
  refine ⟨fun j => ?_, calls' ++ calls, by rw [hcalls', hcalls, List.append_assoc], ?_⟩
  · rcases h.sound j with hj | hj <;> rcases h'.sound j with hj' | hj'
    · exact .inl (hj'.trans hj)
    · exact .inr (by rw [hj', hj])
    · exact .inr (hj'.trans hj)
    · exact .inr (by rw [hj', hj])
  · intro c hc
    rcases List.mem_append.1 hc with hc | hc
    · exact hstops' c hc
    · exact hstops c hc

lemma Quiets.handlesOk (h : m.Quiets m') (hok : m.HandlesOk) : m'.HandlesOk := by
  intro j hj
  rcases h.sound j with hs | hs
  · rw [hs] at hj ⊢
    exact hok j hj
  · rw [hs] at hj
    cases hj

/-- A live sound is stopped. -/
lemma sound_stopSound (hok : m.HandlesOk) (hj : (m.sound j).bLive = true) :
    (m.stopSound eng (m.sound j).currentAdapterHandle).1.sound =
      Function.update m.sound j { m.sound j with bLive := false } := by
  have hindex := hok j hj
  have hlt : handleIndex (m.sound j).currentAdapterHandle < n := hindex ▸ j.isLt
  have hfin : (⟨handleIndex (m.sound j).currentAdapterHandle, hlt⟩ : Fin n) = j :=
    Fin.ext hindex
  have hset : (m.stopSound eng (m.sound j).currentAdapterHandle).1.sound =
      (m.setSound ⟨_, hlt⟩ { m.sound ⟨_, hlt⟩ with bLive := false }).sound := by
    rw [stopSound, dif_pos hlt]
    rfl
  rw [hset, sound_setSound, hfin]

lemma quiets_stopSound (hok : m.HandlesOk) (hj : (m.sound j).bLive = true) :
    m.Quiets (m.stopSound eng (m.sound j).currentAdapterHandle).1 := by
  refine ⟨fun i => ?_, [.stop (m.sound j).currentAdapterHandle], rfl, by simp⟩
  rw [sound_stopSound hok hj]
  by_cases hi : i = j
  · subst hi
    exact .inr (Function.update_self ..)
  · exact .inl (Function.update_of_ne hi ..)

/-- A live sound is one of those that play. -/
lemma occurrences_of_stop (hj : (m.sound j).bLive = true)
    (hm' : m'.sound = Function.update m.sound j { m.sound j with bLive := false }) :
    m.occurrences = (m.sound j).occurrence ::ₘ m'.occurrences := by
  have hnot : j ∉ Finset.univ.filter fun i => (m'.sound i).bLive = true := by
    simp [hm']
  have hinsert : (Finset.univ.filter fun i => (m.sound i).bLive = true) =
      insert j (Finset.univ.filter fun i => (m'.sound i).bLive = true) := by
    refine Finset.ext fun i => ?_
    by_cases hi : i = j
    · subst hi
      simp [hj]
    · simp [hi, hm']
  rw [occurrences, hinsert, Finset.insert_val_of_notMem hnot, Multiset.map_cons, occurrences]
  refine congrArg _ (Multiset.map_congr rfl fun i hi => ?_)
  have hne : i ≠ j := by
    rintro rfl
    exact hnot hi
  rw [hm', Function.update_of_ne hne]

lemma copies_eq_countP (m : PlayerManager E P n) (k : PlayArgs) :
    Reuse.copies m.plays k = m.occurrences.countP fun o => o.1 = k := by
  rw [occurrences, Multiset.countP_map, Reuse.copies, Finset.card_def]
  refine congrArg Multiset.card ?_
  rw [← Finset.filter_val, Finset.filter_filter]
  refine congrArg Finset.val (Finset.filter_congr fun i _ => ?_)
  exact plays_eq_some_iff

end PlayerManager

lemma firstAdapter_eq_none_iff {p : Fin n → Bool} :
    firstAdapter p = none ↔ ∀ j, p j = false := by
  simp [firstAdapter, List.find?_eq_none]

lemma of_firstAdapter {p : Fin n → Bool} {j : Fin n} (h : firstAdapter p = some j) : p j = true :=
  List.find?_some h

/-! ## The queued stops -/

section

variable {eng} {m : PlayerManager E P n} {s : DeferredSoundRequest}
  {queue : List DeferredSoundRequest}

open DeferredSoundRequest PlayerManager

/-- The adapter that a queued stop is carried out on. -/
lemma stopQueued_cases (eng : SoundEngine E n) (m : PlayerManager E P n)
    (s : DeferredSoundRequest) :
    (stopQueued eng m s = m ∧ s.occurrence ∉ m.occurrences) ∨
      ∃ j, (m.sound j).bLive = true ∧ (m.sound j).occurrence = s.occurrence ∧
        stopQueued eng m s = (m.stopSound eng (m.sound j).currentAdapterHandle).1 := by
  have hoccurrence : ∀ j, ((m.sound j).bLive && s.isEqual (m.sound j) &&
      (m.sound j).nFrame == s.nFrame) = true ↔
      (m.sound j).bLive = true ∧ (m.sound j).occurrence = s.occurrence := by
    intro j
    rw [Bool.and_eq_true, Bool.and_eq_true, isEqual_iff, beq_iff_eq, occurrence, occurrence,
      Prod.mk.injEq, and_assoc, eq_comm (a := s.args)]
  rw [stopQueued]
  split
  · rename_i hnone
    refine .inl ⟨rfl, fun hmem => ?_⟩
    obtain ⟨j, hj, heq⟩ := Multiset.mem_map.1 hmem
    have hj' : j ∈ Finset.univ.filter fun j => (m.sound j).bLive = true := hj
    have hlive := (Finset.mem_filter.1 hj').2
    have hfalse := firstAdapter_eq_none_iff.1 hnone j
    rw [(hoccurrence j).2 ⟨hlive, heq⟩] at hfalse
    cases hfalse
  · rename_i j hsome
    obtain ⟨hlive, heq⟩ := (hoccurrence j).1 (of_firstAdapter hsome)
    exact .inr ⟨j, hlive, heq, rfl⟩

lemma quiets_stopQueued (hok : m.HandlesOk) (s : DeferredSoundRequest) :
    m.Quiets (stopQueued eng m s) := by
  rcases stopQueued_cases eng m s with ⟨heq, -⟩ | ⟨j, hj, -, heq⟩
  · rw [heq]
    exact .refl m
  · rw [heq]
    exact quiets_stopSound hok hj

lemma quiets_stopped (hok : m.HandlesOk) (queue : List DeferredSoundRequest) :
    m.Quiets (queue.foldl (stopQueued eng) m) := by
  induction queue generalizing m with
  | nil => exact .refl m
  | cons s queue ih =>
    have hone : m.Quiets (stopQueued eng m s) := quiets_stopQueued hok s
    exact hone.trans (ih (hone.handlesOk hok))

/-- **The queued stops.** Each takes away the occurrence that it names. -/
lemma occurrences_stopped (hok : m.HandlesOk) (queue : List DeferredSoundRequest) :
    (queue.foldl (stopQueued eng) m).occurrences =
      m.occurrences - (queue.map occurrence : Multiset (PlayArgs × Int32)) := by
  induction queue generalizing m with
  | nil => exact (tsub_zero _).symm
  | cons s queue ih =>
    have hone : (stopQueued eng m s).occurrences = m.occurrences.erase s.occurrence := by
      rcases stopQueued_cases eng m s with ⟨heq, hnot⟩ | ⟨j, hj, hname, heq⟩
      · rw [heq, Multiset.erase_of_notMem hnot]
      · rw [heq, occurrences_of_stop hj (sound_stopSound hok hj), hname, Multiset.erase_cons_head]
    rw [List.foldl_cons, ih ((quiets_stopQueued hok s).handlesOk hok), hone, List.map_cons,
      ← Multiset.cons_coe, Multiset.sub_cons]

/-- A sound that no queued stop names goes on. -/
lemma sound_stopped (hok : m.HandlesOk) {j : Fin n} (hj : (m.sound j).bLive = true)
    (hnot : (m.sound j).occurrence ∉ queue.map occurrence) :
    (queue.foldl (stopQueued eng) m).sound j = m.sound j := by
  induction queue generalizing m with
  | nil => rfl
  | cons s queue ih =>
    rw [List.map_cons, List.mem_cons, not_or] at hnot
    have hone : (stopQueued eng m s).sound j = m.sound j := by
      rcases stopQueued_cases eng m s with ⟨heq, -⟩ | ⟨i, hi, hname, heq⟩
      · rw [heq]
      · have hne : j ≠ i := by
          rintro rfl
          exact hnot.1 hname
        rw [heq, sound_stopSound hok hi, Function.update_of_ne hne]
    rw [List.foldl_cons, ih ((quiets_stopQueued hok s).handlesOk hok) (hone ▸ hj)
      (hone.symm ▸ hnot.2), hone]

end

/-! ## What should not be playing -/

section

variable {eng} {stub real : PlayerManager E P n} {k : PlayArgs}

open PlayerManager

/-- The stub plays the sound. -/
def Wanted (stub : PlayerManager E P n) (k : PlayArgs) : Prop := ∃ i, stub.plays i = some k

instance : DecidablePred (Wanted stub) := fun k =>
  inferInstanceAs (Decidable (∃ i, stub.plays i = some k))

lemma not_wanted_iff (s : DeferredSoundRequest) :
    (!(List.finRange n).any fun j => (stub.sound j).bLive && (stub.sound j).isEqual s) = true ↔
      ¬ Wanted stub s.args := by
  rw [Bool.not_eq_true', List.any_eq_false, Wanted, not_exists]
  refine forall_congr' fun j => ?_
  rw [plays_eq_some_iff, Bool.and_eq_true, DeferredSoundRequest.isEqual_iff]
  simp

lemma quiets_stopStale (hok : real.HandlesOk) (i : Fin n) :
    real.Quiets (stopStale eng stub real i) := by
  rw [stopStale]
  split
  · rename_i h
    exact quiets_stopSound hok (Bool.and_eq_true _ _ ▸ h).1
  · exact .refl real

/-- A pass over one adapter. -/
lemma plays_stopStale (hok : real.HandlesOk) (i j : Fin n) (hk : real.plays j = some k) :
    (stopStale eng stub real i).plays j = if i = j ∧ ¬ Wanted stub k then none else some k := by
  obtain ⟨hlive, hargs⟩ := plays_eq_some_iff.1 hk
  rw [stopStale]
  split
  · rename_i h
    rw [Bool.and_eq_true, not_wanted_iff] at h
    by_cases hij : i = j
    · subst hij
      rw [if_pos ⟨rfl, hargs ▸ h.2⟩, plays_eq_none_iff, sound_stopSound hok hlive,
        Function.update_self]
    · rw [if_neg fun hnot => hij hnot.1, plays, sound_stopSound hok h.1,
        Function.update_of_ne (Ne.symm hij)]
      exact hk
  · rename_i h
    rw [Bool.and_eq_true, not_wanted_iff] at h
    rw [if_neg, hk]
    rintro ⟨rfl, hnot⟩
    exact h ⟨hlive, hargs.symm ▸ hnot⟩

lemma plays_stopStale_of_none (hok : real.HandlesOk) (i j : Fin n) (hk : real.plays j = none) :
    (stopStale eng stub real i).plays j = none := by
  rw [plays_eq_none_iff] at hk ⊢
  have hquiets : real.Quiets (stopStale eng stub real i) := quiets_stopStale hok i
  rcases hquiets.sound j with hj | hj
  · rw [hj, hk]
  · rw [hj]

lemma quiets_pruned (hok : real.HandlesOk) (l : List (Fin n)) :
    real.Quiets (l.foldl (stopStale eng stub) real) := by
  induction l generalizing real with
  | nil => exact .refl real
  | cons i l ih =>
    have hone : real.Quiets (stopStale eng stub real i) := quiets_stopStale hok i
    exact hone.trans (ih (hone.handlesOk hok))

/-- **What should not be playing.** Nothing goes on that the stub does not play. -/
lemma plays_pruned (hok : real.HandlesOk) (l : List (Fin n)) (j : Fin n) :
    (l.foldl (stopStale eng stub) real).plays j = some k ↔
      real.plays j = some k ∧ (j ∈ l → Wanted stub k) := by
  induction l generalizing real with
  | nil => simp
  | cons i l ih =>
    rw [List.foldl_cons, ih ((quiets_stopStale hok i).handlesOk hok)]
    cases hj : real.plays j with
    | none => simp [plays_stopStale_of_none hok i j hj]
    | some k' =>
      rw [plays_stopStale hok i j hj, List.mem_cons]
      by_cases hk : k' = k
      · subst hk
        by_cases hij : j = i
        · subst hij
          by_cases hw : Wanted stub k' <;> simp [hw]
        · simp [hij, Ne.symm hij]
      · split <;> simp [hk]

lemma copies_pruned (hok : real.HandlesOk) (hk : Wanted stub k) :
    Reuse.copies ((List.finRange n).foldl (stopStale eng stub) real).plays k =
      Reuse.copies real.plays k := by
  refine congrArg Finset.card (Finset.filter_congr fun j _ => ?_)
  rw [plays_pruned hok]
  exact ⟨fun h => h.1, fun h => ⟨h, fun _ => hk⟩⟩

lemma copies_pruned_of_not (hok : real.HandlesOk) (hk : ¬ Wanted stub k) :
    Reuse.copies ((List.finRange n).foldl (stopStale eng stub) real).plays k = 0 := by
  rw [Reuse.copies, Finset.card_eq_zero, Finset.filter_eq_empty_iff]
  intro j _ hj
  rw [plays_pruned hok] at hj
  exact hk (hj.2 (List.mem_finRange j))

end

end Rollback
end Sf4e
