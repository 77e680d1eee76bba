/-
# Who owns a save slot

GGPO holds a pointer to a slot for every state it has saved, and gives it back through the
free callback, once.  `CloseBattle` frees the slots on its own.  This file has the three
callbacks, the close of a battle, and everything that retires a session, over the same world
as the save states; the calls into the slots are put out, and `holder` reads off them which
buffer a slot belongs to.

When a close retires the session first, GGPO has given back all buffers before the loop of
`CloseBattle` looks at the slots.  A deferred close frees the slots under GGPO's buffers, and
when the session is retired later they are freed a second time.  The calls are in order
exactly as long as no close is deferred while GGPO holds buffers
(`slotOwnership_of_buffersReturned`, `not_slotOwnership_deferred`).
-/
import Mathlib.Data.List.FinRange
import Sf4e.Netplay.Facade
import Sf4e.Rollback.SaveState
import Sf4e.Trace.LTS

namespace Sf4e
namespace Rollback

open Trace NetplayFacade

variable {U B : Type} {E : Engine U B}

/-! ## Sessions and slots -/

/-- A state that GGPO has saved.  GGPO tells its buffers apart by their places in its ring;
here they are numbered. -/
structure Buffer where
  slot : SlotIndex
  number : ℕ
deriving DecidableEq

/-- The world with a GGPO session. -/
structure Host (U B : Type) where
  world : World U B
  /-- `ggpo`: the buffers that the session holds; `none` is the null pointer. -/
  ggpo : Option (List Buffer) := none
  defer : DeferState := {}
  /-- The number of saves so far. -/
  saves : ℕ := 0

/-- A call into the slots.  Loads and frees of a buffer note whether its slot was in use. -/
inductive Call
  /-- The save callback has handed out a slot. -/
  | save (b : Buffer)
  /-- The save callback has found no slot. -/
  | saveFailed
  /-- The load callback. -/
  | load (b : Buffer) (inUse : Bool)
  /-- The free callback. -/
  | free (b : Buffer) (inUse : Bool)
  /-- `CloseBattle` frees a slot. -/
  | release (i : SlotIndex)
deriving DecidableEq

/-- A function that changes the host and calls into the slots; the calls are put out newest
first.  `none` is a crash. -/
abbrev HostFun (U B : Type) := Host U B → Option (List Call × Host U B)

/-- One function after another. -/
def HostFun.andThen (f g : HostFun U B) : HostFun U B := fun h =>
  match f h with
  | none => none
  | some (cs, h') =>
    match g h' with
    | none => none
    | some (cs', h'') => some (cs' ++ cs, h'')

namespace Host

/-- The buffers of the session. -/
def buffers (h : Host U B) : List Buffer := h.ggpo.getD []

/-- Update the variables of the deferred close. -/
def setDefer (f : DeferState → DeferState) : HostFun U B := fun h =>
  some ([], { h with defer := f h.defer })

variable (E)

/-- `ggpo_free_buffer`. -/
def ggpo_free_buffer (b : Buffer) : HostFun U B := fun h =>
  (h.world.freeSlot E b.slot).map fun w =>
    ([.free b (h.world.saveStates b.slot).used],
      { h with world := w, ggpo := h.ggpo.map fun bs => bs.erase b })

/-- GGPO frees buffers in order. -/
def freeBuffers : List Buffer → HostFun U B
  | [] => fun h => some ([], h)
  | b :: bs => (ggpo_free_buffer E b).andThen (freeBuffers bs)

/-- `RetireGgpoSession`: closing the session makes GGPO free what it holds. -/
def retireGgpoSession : HostFun U B := fun h =>
  match h.ggpo with
  | none => some ([], h)
  | some bs =>
    (freeBuffers E bs).andThen (fun h => some ([], { h with ggpo := none })) h

/-- `ggpo_load_game_state_callback`. -/
def ggpo_load_game_state_callback (b : Buffer) : HostFun U B := fun h =>
  (h.world.loadSlot E b.slot).map fun w =>
    ([.load b (h.world.saveStates b.slot).used], { h with world := w })

/-- The frames that the save callback notes in its slot. -/
def noteFrames (i : SlotIndex) (simulationFrame ggpoFrame : ℤ) (w : World U B) : World U B :=
  { w with
    saveStates := Function.update w.saveStates i
      { w.saveStates i with simulationFrame := simulationFrame, ggpoFrame := ggpoFrame } }

/-- The first slot that is not in use. -/
def emptySlot (w : World U B) : Option SlotIndex :=
  (List.finRange NUM_SAVE_STATES).find? fun i => !(w.saveStates i).used

/-- `ggpo_save_game_state_callback`.  When all slots are in use it aborts the match. -/
def ggpo_save_game_state_callback (simulationFrame ggpoFrame : ℤ) : HostFun U B := fun h =>
  match emptySlot h.world with
  | some i =>
    some ([.save ⟨i, h.saves⟩],
      { h with
        world := noteFrames i simulationFrame ggpoFrame (h.world.saveSlot E i)
        ggpo := h.ggpo.map (⟨i, h.saves⟩ :: ·)
        saves := h.saves + 1 })
  | none => HostFun.andThen (fun h => some ([.saveFailed], h)) (retireGgpoSession E) h

/-- `StartGGPO` and `StartSpectating`: both retire a leftover session.  `ok` says whether the
new session could be started; a start that fails on the way retires it again. -/
def startGGPO (ok : Bool) : HostFun U B :=
  ((setDefer DeferState.cancelDeferredGgpoClose).andThen (retireGgpoSession E)).andThen
    fun h => some ([], { h with ggpo := if ok then some [] else none })

/-- `ShutdownNetplay`. -/
def shutdownNetplay (closeGgpo : Bool) : HostFun U B :=
  HostFun.andThen (fun h => if closeGgpo then retireGgpoSession E h else some ([], h))
    (setDefer DeferState.clearFlags)

/-- `TickFrame`, as far as a deferred close is concerned. -/
def tickFrame (now : UInt32) : HostFun U B := fun h =>
  if h.defer.deferredGgpoPending && h.ggpo.isSome then
    let (defers, defer) := h.defer.shouldDeferGgpoClose now
    if defers then some ([], { h with defer := defer })
    else (retireGgpoSession E).andThen (setDefer DeferState.clearFlags) { h with defer := defer }
  else some ([], h)

/-- The loop of `CloseBattle` over the slots. -/
def releaseSlots : List SlotIndex → HostFun U B
  | [] => fun h => some ([], h)
  | i :: is =>
    HostFun.andThen (fun h =>
      if (h.world.saveStates i).used then
        (h.world.freeSlot E i).map fun w => ([.release i], { h with world := w })
      else some ([], h)) (releaseSlots is)

/-- What `CloseBattle` does with a session: the facade is notified at one tick and asked at
a later one. -/
def closeSession (room : Room) (now later : UInt32) : HostFun U B := fun h =>
  if h.ggpo.isSome then
    let (defers, defer) := (h.defer.notifyMatchEnded room now).shouldDeferGgpoClose later
    if defers then some ([], { h with defer := defer })
    else retireGgpoSession E { h with defer := defer }
  else some ([], h)

/-- `CloseBattle`.  A match that lost the room is finalized at the end. -/
def closeBattle (room : Room) (now later : UInt32) : HostFun U B :=
  ((closeSession E room now later).andThen
    (releaseSlots E (List.finRange NUM_SAVE_STATES))).andThen
    fun h => if room.controlPlaneLost then shutdownNetplay E true h else some ([], h)

end Host

/-! ## Runs -/

/-- What may happen next. -/
inductive Event (U B : Type)
  | startGGPO (ok : Bool)
  /-- GGPO has a state saved. -/
  | save (simulationFrame ggpoFrame : ℤ)
  /-- GGPO has a buffer loaded. -/
  | load (b : Buffer)
  /-- GGPO overwrites a buffer. -/
  | free (b : Buffer)
  /-- GGPO's ring is in no particular order. -/
  | reorder (bs : List Buffer)
  /-- The engine runs. -/
  | run (mem : Mem U B) (global : GlobalData) (sounds : Sounds)
  | closeBattle (room : Room) (now later : UInt32)
  | tickFrame (now : UInt32)
  /-- Everything else that retires the session, such as `AbortGgpoMatch`. -/
  | retire
  | shutdownNetplay (closeGgpo : Bool)

variable (E) in
/-- One event.  The callbacks are called by a session, for buffers that it holds. -/
def Host.next (h : Host U B) : Event U B → Option (List Call × Host U B)
  | .startGGPO ok => h.startGGPO E ok
  | .save simulationFrame ggpoFrame =>
    if h.ggpo.isSome then h.ggpo_save_game_state_callback E simulationFrame ggpoFrame else none
  | .load b => if b ∈ h.buffers then h.ggpo_load_game_state_callback E b else none
  | .free b => if b ∈ h.buffers then h.ggpo_free_buffer E b else none
  | .reorder bs =>
    if h.ggpo.isSome ∧ bs.Perm h.buffers then some ([], { h with ggpo := some bs }) else none
  | .run mem global sounds =>
    some ([], { h with world := { h.world with mem := mem, global := global, sounds := sounds } })
  | .closeBattle room now later => h.closeBattle E room now later
  | .tickFrame now => h.tickFrame E now
  | .retire => h.retireGgpoSession E
  | .shutdownNetplay closeGgpo => h.shutdownNetplay E closeGgpo

variable (E) in
/-- The program starts without a session and with all slots empty. -/
def hostLTS : LTS (Host U B) (Event U B) (List Call) :=
  .ofFun (fun h => h.ggpo = none ∧ ∀ i, h.world.saveStates i = {}) (Host.next E)

/-- A log of such a run. -/
abbrev HostLog (U B : Type) := List (Entry (Host U B) (Event U B) (List Call))

/-- All calls of a run, newest first. -/
def calls (log : HostLog U B) : List Call := log.flatMap (·.out)

/-! ## Ownership -/

/-- The number of the buffer that a slot is in use by: the last save to the slot, unless the
slot has been freed since. -/
def holder (i : SlotIndex) : List Call → Option ℕ
  | [] => none
  | .save b :: cs => if b.slot = i then some b.number else holder i cs
  | .free b _ :: cs => if b.slot = i then none else holder i cs
  | .release j :: cs => if j = i then none else holder i cs
  | .saveFailed :: cs => holder i cs
  | .load _ _ :: cs => holder i cs

/-- A buffer owns its slot from its save on until GGPO gives it back. -/
def Owns (b : Buffer) (cs : List Call) : Prop :=
  Call.save b ∈ cs ∧ ∀ inUse, Call.free b inUse ∉ cs

/-- A call is in order after the earlier calls: a slot that is handed out is not owned, and
one that is loaded or freed is in use by the buffer. -/
def Call.InOrder (cs : List Call) : Call → Prop
  | .save b => ∀ b', Owns b' cs → b'.slot ≠ b.slot
  | .load b inUse => inUse = true ∧ holder b.slot cs = some b.number
  | .free b inUse => inUse = true ∧ holder b.slot cs = some b.number
  | .saveFailed => True
  | .release _ => True

/-- All calls are in order. -/
def AllInOrder : List Call → Prop
  | [] => True
  | c :: cs => c.InOrder cs ∧ AllInOrder cs

/-- The ownership of save slots over a run. -/
structure SlotOwnership (log : HostLog U B) : Prop where
  allInOrder : AllInOrder (calls log)
  /-- A save fails when all slots are in use, and only then. -/
  saveFailed_iff : ∀ e ∈ log, ∀ simulationFrame ggpoFrame,
    e.act = .save simulationFrame ggpoFrame →
      (Call.saveFailed ∈ e.out ↔ ∀ i, (e.pre.world.saveStates i).used = true)

/-- The event closes a battle whose session is left open. -/
def Event.defers : Event U B → Bool
  | .closeBattle room now later => room.Defers now later
  | _ => false

/-- The close of a battle is not deferred while the session holds buffers. -/
def BuffersReturned (e : Entry (Host U B) (Event U B) (List Call)) : Prop :=
  e.act.defers = true → e.pre.buffers = []

instance : DecidablePred (BuffersReturned (U := U) (B := B)) := fun e =>
  inferInstanceAs (Decidable (e.act.defers = true → e.pre.buffers = []))

/-! ## The invariant -/

/-- The slots, the session's buffers and the calls so far agree. -/
structure HostInv (cs : List Call) (h : Host U B) : Prop where
  /-- A slot is in use as long as some buffer holds it. -/
  used : ∀ i, (h.world.saveStates i).used = (holder i cs).isSome
  /-- The session's buffers hold their slots. -/
  held : ∀ b ∈ h.buffers, holder b.slot cs = some b.number
  nodup : h.buffers.Nodup
  /-- What owns a slot is one of the session's buffers. -/
  owned : ∀ b, Owns b cs → b ∈ h.buffers
  allInOrder : AllInOrder cs

/-- The function keeps the invariant when it starts from `p`, and then ends in `q`. -/
def HostFun.Keeps (f : HostFun U B) (p q : Host U B → Prop) : Prop :=
  ∀ cs h cs' h', HostInv cs h → p h → f h = some (cs', h') → HostInv (cs' ++ cs) h' ∧ q h'

/-- Any host. -/
abbrev anyHost (_ : Host U B) : Prop := True

/-- A host whose session, if any, holds nothing. -/
abbrev NoBuffers (h : Host U B) : Prop := h.buffers = []

lemma HostFun.andThen_eq_some {f g : HostFun U B} {h h'' : Host U B} {cs : List Call}
    (hfun : f.andThen g h = some (cs, h'')) :
    ∃ cs₁ h' cs₂, f h = some (cs₁, h') ∧ g h' = some (cs₂, h'') ∧ cs = cs₂ ++ cs₁ := by
  unfold HostFun.andThen at hfun
  split at hfun
  · simp at hfun
  · rename_i cs₁ h' hf
    split at hfun
    · simp at hfun
    · rename_i cs₂ h₂ hg
      simp only [Option.some.injEq, Prod.mk.injEq] at hfun
      obtain ⟨rfl, rfl⟩ := hfun
      exact ⟨cs₁, h', cs₂, hf, hg, rfl⟩

lemma HostFun.Keeps.andThen {f g : HostFun U B} {p q r : Host U B → Prop} (hf : f.Keeps p q)
    (hg : g.Keeps q r) : (f.andThen g).Keeps p r := by
  intro cs h cs' h' hinv hp hfun
  obtain ⟨cs₁, h₁, cs₂, hf₁, hg₂, rfl⟩ := HostFun.andThen_eq_some hfun
  obtain ⟨hinv₁, hq⟩ := hf cs h cs₁ h₁ hinv hp hf₁
  rw [List.append_assoc]
  exact hg (cs₁ ++ cs) h₁ cs₂ h' hinv₁ hq hg₂

/-- What neither calls into the slots nor changes them or the buffers. -/
lemma HostInv.of_same {cs : List Call} {h h' : Host U B} (hinv : HostInv cs h)
    (hslots : h'.world.saveStates = h.world.saveStates) (hbuffers : h'.buffers = h.buffers) :
    HostInv cs h' :=
  ⟨hslots ▸ hinv.used, hbuffers ▸ hinv.held, hbuffers ▸ hinv.nodup, hbuffers ▸ hinv.owned,
    hinv.allInOrder⟩

lemma keeps_setDefer (f : DeferState → DeferState) (p : Host U B → Prop)
    (hp : ∀ h d, p h → p { h with defer := d }) : (Host.setDefer f).Keeps p p := by
  intro cs h cs' h' hinv hph hfun
  simp only [Host.setDefer, Option.some.injEq, Prod.mk.injEq] at hfun
  obtain ⟨rfl, rfl⟩ := hfun
  exact ⟨hinv.of_same rfl rfl, hp h _ hph⟩

/-! ### Giving buffers back -/

/-- Freeing a slot, by a free callback or by `CloseBattle`. -/
lemma used_free {w w' : World U B} {i j : SlotIndex} (h : w.freeSlot E i = some w') :
    (w'.saveStates j).used = if i = j then false else (w.saveStates j).used := by
  rw [freeSlot_saveStates h]
  by_cases hij : i = j
  · subst hij
    simp [SaveState.cleared]
  · rw [Function.update_of_ne (Ne.symm hij), if_neg hij]

lemma buffers_free {h : Host U B} {w : World U B} {b : Buffer} :
    ({ h with world := w, ggpo := h.ggpo.map fun bs => bs.erase b } : Host U B).buffers =
      h.buffers.erase b := by
  obtain ⟨_, ggpo, _, _⟩ := h
  cases ggpo <;> simp [Host.buffers]

/-- The free callback keeps the invariant, for a buffer of the session. -/
lemma hostInv_free {cs cs' : List Call} {h h' : Host U B} {b : Buffer} (hinv : HostInv cs h)
    (hb : b ∈ h.buffers) (hfun : h.ggpo_free_buffer E b = some (cs', h')) :
    HostInv (cs' ++ cs) h' ∧ h'.buffers = h.buffers.erase b := by
  unfold Host.ggpo_free_buffer at hfun
  obtain ⟨w, hw, hr⟩ := Option.map_eq_some_iff.1 hfun
  simp only [Prod.mk.injEq] at hr
  obtain ⟨rfl, rfl⟩ := hr
  have hheld := hinv.held b hb
  have huse : (h.world.saveStates b.slot).used = true := by
    rw [hinv.used, hheld]
    rfl
  refine ⟨⟨fun i => ?_, fun b' hb' => ?_, ?_, fun b' hb' => ?_, ⟨⟨huse, hheld⟩, hinv.allInOrder⟩⟩,
    buffers_free⟩
  · simp only [used_free hw, List.singleton_append, holder]
    split
    · rfl
    · exact hinv.used i
  · rw [buffers_free, hinv.nodup.mem_erase_iff] at hb'
    -- two buffers of the session do not share a slot
    have hslot : b.slot ≠ b'.slot := by
      intro hslot
      have hnumber := hinv.held b' hb'.2
      rw [← hslot, hheld, Option.some.injEq] at hnumber
      obtain ⟨i, n⟩ := b
      obtain ⟨i', n'⟩ := b'
      exact hb'.1 (by simp_all)
    simp only [List.singleton_append, holder, if_neg hslot]
    exact hinv.held b' hb'.2
  · rw [buffers_free]
    exact hinv.nodup.erase b
  · obtain ⟨hsave, hfree⟩ := hb'
    rw [buffers_free, hinv.nodup.mem_erase_iff]
    refine ⟨?_, hinv.owned b' ⟨by simpa using hsave, fun inUse hmem => ?_⟩⟩
    · rintro rfl
      exact hfree _ (List.mem_cons_self)
    · exact hfree inUse (List.mem_cons_of_mem _ hmem)

/-- Giving all buffers back. -/
lemma hostInv_freeBuffers {bs : List Buffer} {cs cs' : List Call} {h h' : Host U B}
    (hinv : HostInv cs h) (hbs : h.buffers = bs)
    (hfun : Host.freeBuffers E bs h = some (cs', h')) :
    HostInv (cs' ++ cs) h' ∧ h'.buffers = [] := by
  induction bs generalizing cs cs' h with
  | nil =>
    simp only [Host.freeBuffers, Option.some.injEq, Prod.mk.injEq] at hfun
    obtain ⟨rfl, rfl⟩ := hfun
    exact ⟨hinv, hbs⟩
  | cons b bs ih =>
    obtain ⟨cs₁, h₁, cs₂, hb, hrest, rfl⟩ := HostFun.andThen_eq_some hfun
    obtain ⟨hinv₁, hbuffers⟩ := hostInv_free hinv (by simp [hbs]) hb
    rw [List.append_assoc]
    exact ih hinv₁ (by rw [hbuffers, hbs, List.erase_cons_head]) hrest

/-- Retiring the session keeps the invariant, and no buffer is left. -/
lemma keeps_retire : (Host.retireGgpoSession (U := U) E).Keeps anyHost NoBuffers := by
  intro cs h cs' h' hinv _ hfun
  unfold Host.retireGgpoSession at hfun
  split at hfun
  · rename_i hnone
    simp only [Option.some.injEq, Prod.mk.injEq] at hfun
    obtain ⟨rfl, rfl⟩ := hfun
    have hbuffers : h.buffers = [] := by simp [Host.buffers, hnone]
    exact ⟨hinv, hbuffers⟩
  · rename_i bs hbs
    obtain ⟨cs₁, h₁, cs₂, hfree, hclose, rfl⟩ := HostFun.andThen_eq_some hfun
    obtain ⟨hinv₁, hnone⟩ := hostInv_freeBuffers hinv (by simp [Host.buffers, hbs]) hfree
    simp only [Option.some.injEq, Prod.mk.injEq] at hclose
    obtain ⟨rfl, rfl⟩ := hclose
    exact ⟨hinv₁.of_same rfl hnone.symm, rfl⟩

/-! ### The other functions -/

lemma emptySlot_eq_none_iff {w : World U B} :
    Host.emptySlot w = none ↔ ∀ i, (w.saveStates i).used = true := by
  simp [Host.emptySlot, List.find?_eq_none]

/-- The save callback keeps the invariant. -/
lemma keeps_save (simulationFrame ggpoFrame : ℤ) :
    HostFun.Keeps (fun h => h.ggpo_save_game_state_callback E simulationFrame ggpoFrame)
      (fun h : Host U B => h.ggpo.isSome) anyHost := by
  intro cs h cs' h' hinv hsome hfun
  refine ⟨?_, trivial⟩
  simp only [Host.ggpo_save_game_state_callback] at hfun
  split at hfun
  · rename_i i hslot
    have hunused : (h.world.saveStates i).used = false := by simpa using List.find?_some hslot
    have hfree : holder i cs = none := by
      have hused := hinv.used i
      rw [hunused] at hused
      simpa using hused.symm
    -- the slot that is found is free, so no buffer is in it
    have hother : ∀ b ∈ h.buffers, i ≠ b.slot := by
      rintro b hb rfl
      have hheld := hinv.held b hb
      rw [hfree] at hheld
      simp at hheld
    simp only [Option.some.injEq, Prod.mk.injEq] at hfun
    obtain ⟨rfl, rfl⟩ := hfun
    obtain ⟨bs, hbs⟩ := Option.isSome_iff_exists.1 hsome
    have hbuffers : h.buffers = bs := by simp [Host.buffers, hbs]
    rw [hbuffers] at hother
    refine ⟨fun j => ?_, fun b hb => ?_, ?_, fun b hb => ?_, ?_, hinv.allInOrder⟩
    · by_cases hij : i = j
      · subst hij
        simp [Host.noteFrames, saveSlot_saveStates, SaveState.save, Sounds.saveTo, holder]
      · simp [Host.noteFrames, saveSlot_saveStates, Function.update_of_ne (Ne.symm hij), holder,
          hij, hinv.used j]
    · simp only [Host.buffers, hbs, Option.map_some, Option.getD_some, List.mem_cons] at hb
      rcases hb with rfl | hb
      · simp [holder]
      · simp only [List.singleton_append, holder, if_neg (hother b hb)]
        exact hinv.held b (hbuffers ▸ hb)
    · simp only [Host.buffers, hbs, Option.map_some, Option.getD_some, List.nodup_cons]
      exact ⟨fun hmem => hother _ hmem rfl, hbuffers ▸ hinv.nodup⟩
    · simp only [Host.buffers, hbs, Option.map_some, Option.getD_some, List.mem_cons]
      obtain ⟨hsave, hnot⟩ := hb
      rcases List.mem_cons.1 hsave with heq | hold
      · exact Or.inl (Call.save.inj heq)
      · refine Or.inr (hbuffers ▸ hinv.owned b ⟨hold, fun inUse hmem => ?_⟩)
        exact hnot inUse (List.mem_cons_of_mem _ hmem)
    · intro b hb
      exact (hother b (hbuffers ▸ hinv.owned b hb)).symm
  · -- no slot is free: the session is retired
    have hfailed : HostFun.Keeps (fun h : Host U B => some ([.saveFailed], h)) anyHost anyHost := by
      intro cs h cs' h' hinv _ hfun
      simp only [Option.some.injEq, Prod.mk.injEq] at hfun
      obtain ⟨rfl, rfl⟩ := hfun
      refine ⟨⟨hinv.used, hinv.held, hinv.nodup, fun b hb => hinv.owned b ?_, trivial,
        hinv.allInOrder⟩, trivial⟩
      exact ⟨by simpa using hb.1, fun inUse hmem => hb.2 inUse (List.mem_cons_of_mem _ hmem)⟩
    exact (hfailed.andThen keeps_retire cs h cs' h' hinv trivial hfun).1

/-- `CloseBattle` frees slots that no buffer of the session is in. -/
lemma keeps_releaseSlots (is : List SlotIndex) :
    (Host.releaseSlots (U := U) E is).Keeps NoBuffers NoBuffers := by
  induction is with
  | nil =>
    intro cs h cs' h' hinv hnone hfun
    simp only [Host.releaseSlots, Option.some.injEq, Prod.mk.injEq] at hfun
    obtain ⟨rfl, rfl⟩ := hfun
    exact ⟨hinv, hnone⟩
  | cons i is ih =>
    refine HostFun.Keeps.andThen (fun cs h cs' h' hinv hnone hfun => ?_) ih
    split at hfun
    · obtain ⟨w, hw, hr⟩ := Option.map_eq_some_iff.1 hfun
      simp only [Prod.mk.injEq] at hr
      obtain ⟨rfl, rfl⟩ := hr
      refine ⟨⟨fun j => ?_, fun b hb => ?_, hinv.nodup, fun b hb => hinv.owned b ?_, trivial,
        hinv.allInOrder⟩, hnone⟩
      · simp only [used_free hw, List.singleton_append, holder]
        split
        · rfl
        · exact hinv.used j
      · have hmem : b ∈ h.buffers := hb
        rw [hnone] at hmem
        simp at hmem
      · exact ⟨by simpa using hb.1, fun inUse hmem => hb.2 inUse (List.mem_cons_of_mem _ hmem)⟩
    · simp only [Option.some.injEq, Prod.mk.injEq] at hfun
      obtain ⟨rfl, rfl⟩ := hfun
      exact ⟨hinv, hnone⟩

/-- `CloseBattle` closes the session unless it defers that. -/
lemma keeps_closeSession (room : Room) (now later : UInt32) :
    (Host.closeSession (U := U) E room now later).Keeps
      (fun h => room.Defers now later → NoBuffers h) NoBuffers := by
  intro cs h cs' h' hinv hdefers hfun
  have hsame : ∀ d : DeferState, HostInv cs { h with defer := d } := fun d =>
    hinv.of_same rfl rfl
  simp only [Host.closeSession] at hfun
  split at hfun
  · split at hfun
    · rename_i hdefer
      simp only [Option.some.injEq, Prod.mk.injEq] at hfun
      obtain ⟨rfl, rfl⟩ := hfun
      exact ⟨hsame _, hdefers ((shouldDefer_notifyMatchEnded ..).1 hdefer)⟩
    · exact keeps_retire cs _ cs' h' (hsame _) trivial hfun
  · rename_i hnone
    simp only [Option.some.injEq, Prod.mk.injEq] at hfun
    obtain ⟨rfl, rfl⟩ := hfun
    have hbuffers : h.buffers = [] := by
      rw [Bool.not_eq_true, Option.isSome_eq_false_iff, Option.isNone_iff_eq_none] at hnone
      simp [Host.buffers, hnone]
    exact ⟨hinv, hbuffers⟩

lemma keeps_shutdownNetplay (closeGgpo : Bool) :
    (Host.shutdownNetplay (U := U) E closeGgpo).Keeps anyHost anyHost := by
  refine HostFun.Keeps.andThen (q := anyHost) (fun cs h cs' h' hinv _ hfun => ⟨?_, trivial⟩)
    (keeps_setDefer _ _ fun _ _ h => h)
  split at hfun
  · exact (keeps_retire cs h cs' h' hinv trivial hfun).1
  · simp only [Option.some.injEq, Prod.mk.injEq] at hfun
    obtain ⟨rfl, rfl⟩ := hfun
    exact hinv

lemma keeps_closeBattle (room : Room) (now later : UInt32) :
    (Host.closeBattle (U := U) E room now later).Keeps
      (fun h => room.Defers now later → NoBuffers h) anyHost := by
  refine ((keeps_closeSession room now later).andThen (keeps_releaseSlots _)).andThen
    fun cs h cs' h' hinv _ hfun => ⟨?_, trivial⟩
  split at hfun
  · exact (keeps_shutdownNetplay true cs h cs' h' hinv trivial hfun).1
  · simp only [Option.some.injEq, Prod.mk.injEq] at hfun
    obtain ⟨rfl, rfl⟩ := hfun
    exact hinv

lemma keeps_startGGPO (ok : Bool) :
    (Host.startGGPO (U := U) E ok).Keeps anyHost anyHost := by
  refine ((keeps_setDefer _ anyHost fun _ _ h => h).andThen keeps_retire).andThen
    fun cs h cs' h' hinv hnone hfun => ⟨?_, trivial⟩
  simp only [Option.some.injEq, Prod.mk.injEq] at hfun
  obtain ⟨rfl, rfl⟩ := hfun
  refine hinv.of_same rfl ?_
  rw [show h.buffers = [] from hnone]
  cases ok <;> rfl

lemma keeps_tickFrame (now : UInt32) :
    (Host.tickFrame (U := U) E now).Keeps anyHost anyHost := by
  intro cs h cs' h' hinv _ hfun
  refine ⟨?_, trivial⟩
  simp only [Host.tickFrame] at hfun
  have hsame : ∀ d : DeferState, HostInv cs { h with defer := d } := fun d =>
    hinv.of_same rfl rfl
  split at hfun
  · split at hfun
    · simp only [Option.some.injEq, Prod.mk.injEq] at hfun
      obtain ⟨rfl, rfl⟩ := hfun
      exact hsame _
    · have hretire := keeps_retire (U := U) (E := E)
      exact (hretire.andThen (keeps_setDefer _ NoBuffers fun _ _ h => h) cs _ cs' h' (hsame _)
        trivial hfun).1
  · simp only [Option.some.injEq, Prod.mk.injEq] at hfun
    obtain ⟨rfl, rfl⟩ := hfun
    exact hinv

/-- **The step lemma.**  Every event keeps the invariant, unless it defers a close while the
session holds buffers. -/
lemma hostInv_of_next {cs : List Call} {e : Entry (Host U B) (Event U B) (List Call)}
    (hinv : HostInv cs e.pre) (hstep : e.pre.next E e.act = some (e.out, e.post))
    (hok : BuffersReturned e) : HostInv (e.out ++ cs) e.post := by
  obtain ⟨h, act, cs', h'⟩ := e
  simp only at hinv hstep ⊢
  cases act with
  | startGGPO ok => exact (keeps_startGGPO ok cs h cs' h' hinv trivial hstep).1
  | save simulationFrame ggpoFrame =>
    simp only [Host.next] at hstep
    split at hstep
    · rename_i hsome
      exact (keeps_save simulationFrame ggpoFrame cs h cs' h' hinv hsome hstep).1
    · simp at hstep
  | load b =>
    simp only [Host.next] at hstep
    split at hstep
    · rename_i hb
      obtain ⟨w, hw, hr⟩ := Option.map_eq_some_iff.1 hstep
      simp only [Prod.mk.injEq] at hr
      obtain ⟨rfl, rfl⟩ := hr
      -- the buffer is held, so its slot is in use
      have hheld := hinv.held b hb
      have hused : (h.world.saveStates b.slot).used = true := by
        rw [hinv.used, hheld]
        rfl
      refine ⟨fun i => ?_, hinv.held, hinv.nodup, fun b' hb' => hinv.owned b' ?_,
        ⟨hused, hheld⟩, hinv.allInOrder⟩
      · rw [loadSlot_saveStates hw]
        exact hinv.used i
      · exact ⟨by simpa using hb'.1, fun inUse hmem =>
          hb'.2 inUse (List.mem_cons_of_mem _ hmem)⟩
    · simp at hstep
  | free b =>
    simp only [Host.next] at hstep
    split at hstep
    · rename_i hb
      exact (hostInv_free hinv hb hstep).1
    · simp at hstep
  | reorder bs =>
    simp only [Host.next] at hstep
    split at hstep
    · rename_i hperm
      simp only [Option.some.injEq, Prod.mk.injEq] at hstep
      obtain ⟨rfl, rfl⟩ := hstep
      refine ⟨hinv.used, fun b hb => hinv.held b (hperm.2.mem_iff.1 hb),
        hperm.2.nodup_iff.2 hinv.nodup, fun b hb => hperm.2.mem_iff.2 (hinv.owned b hb),
        hinv.allInOrder⟩
    · simp at hstep
  | run mem global sounds =>
    simp only [Host.next, Option.some.injEq, Prod.mk.injEq] at hstep
    obtain ⟨rfl, rfl⟩ := hstep
    exact hinv.of_same rfl rfl
  | closeBattle room now later =>
    exact (keeps_closeBattle room now later cs h cs' h' hinv
      (fun hdefers => hok (decide_eq_true hdefers)) hstep).1
  | tickFrame now => exact (keeps_tickFrame now cs h cs' h' hinv trivial hstep).1
  | retire => exact (keeps_retire cs h cs' h' hinv trivial hstep).1
  | shutdownNetplay closeGgpo =>
    exact (keeps_shutdownNetplay closeGgpo cs h cs' h' hinv trivial hstep).1

/-- A save fails when all slots are in use, and only then. -/
lemma saveFailed_iff {simulationFrame ggpoFrame : ℤ} {h h' : Host U B} {cs : List Call}
    (hsave : h.next E (.save simulationFrame ggpoFrame) = some (cs, h')) :
    Call.saveFailed ∈ cs ↔ ∀ i, (h.world.saveStates i).used = true := by
  rw [← emptySlot_eq_none_iff]
  simp only [Host.next] at hsave
  split at hsave
  · simp only [Host.ggpo_save_game_state_callback] at hsave
    split at hsave
    · rename_i i hslot
      simp only [Option.some.injEq, Prod.mk.injEq] at hsave
      obtain ⟨rfl, rfl⟩ := hsave
      simp [hslot]
    · rename_i hslot
      obtain ⟨cs₁, h₁, cs₂, hfailed, -, rfl⟩ := HostFun.andThen_eq_some hsave
      simp only [Option.some.injEq, Prod.mk.injEq] at hfailed
      obtain ⟨rfl, rfl⟩ := hfailed
      simp [hslot]
  · simp at hsave

/-- **Ownership of save slots.**  In every run in which no close is deferred while the session
holds buffers, a slot is handed out only when no buffer owns it, and it is loaded and freed
only for the buffer that it is in use by; and a save fails exactly when all slots are in
use. -/
theorem slotOwnership_of_buffersReturned {log : HostLog U B} {h : Host U B}
    (hrun : (hostLTS E).Run log h) (hok : ∀ e ∈ log, BuffersReturned e) :
    SlotOwnership log := by
  have hinv : HostInv (calls log) h := by
    refine hrun.invariant (fun log h => HostInv (calls log) h) (fun h hinit => ?_)
      (fun log e hinv hstep hok => hostInv_of_next hinv hstep hok) hok
    obtain ⟨hnone, hslots⟩ := hinit
    have hbuffers : h.buffers = [] := by simp [Host.buffers, hnone]
    refine ⟨fun i => ?_, ?_, ?_, fun b hb => ?_, trivial⟩
    · simp [hslots i, calls, holder]
    · simp [hbuffers]
    · simp [hbuffers]
    · simp [calls, Owns] at hb
  refine ⟨hinv.allInOrder, fun e he simulationFrame ggpoFrame hact => ?_⟩
  obtain ⟨s, -, hpath⟩ := hrun
  have hstep : e.pre.next E e.act = some (e.out, e.post) := hpath.steps_of_mem he
  rw [hact] at hstep
  exact saveFailed_iff hstep

/-- A host with one unit and no session. -/
def oneUnitHost : Host UInt32 UInt32 where
  world :=
    { mem := { units := 5, keys := fun _ => {}, heap := fun _ => none, trackedKeys := [] }
      global := {}
      sounds :=
        { managers := []
          adapters := fun _ => []
          pool := fun _ => {}
          adapterToCurrentSound := fun _ => {}
          queuedStops := fun _ => []
          bUsePureSounds := true }
      saveStates := fun _ => {} }

lemma oneUnitHost_init : oneUnitHost.ggpo = none ∧ ∀ i, oneUnitHost.world.saveStates i = {} :=
  ⟨rfl, fun _ => rfl⟩

/-- A list of events that can be carried out, and whose log passes a test, gives a run. -/
lemma exists_hostRun_of_exec (events : List (Event UInt32 UInt32))
    {p : HostLog UInt32 UInt32 → Prop} [DecidablePred p]
    (h : (LTS.exec (Host.next OneUnit.engine) oneUnitHost [] events).any
      (fun r => decide (p r.1)) = true) :
    ∃ log host, (hostLTS OneUnit.engine).Run log host ∧ p log := by
  obtain ⟨log, host, hpath, hp⟩ := LTS.exists_path_of_exec events (p := fun log _ => p log) h
  exact ⟨log, host, ⟨oneUnitHost, oneUnitHost_init, hpath⟩, hp⟩

/-- Two saves, a load, a buffer that is overwritten, and a close that is not deferred. -/
theorem slotOwnership_two_players : ∃ log : HostLog UInt32 UInt32,
    calls log = [.free ⟨1, 1⟩ true, .free ⟨0, 0⟩ true, .load ⟨0, 0⟩ true, .save ⟨1, 1⟩,
      .save ⟨0, 0⟩] ∧ SlotOwnership log := by
  obtain ⟨log, host, hrun, hcalls, hok⟩ := exists_hostRun_of_exec
    [.startGGPO true, .save 1 0, .save 2 1, .load ⟨0, 0⟩, .free ⟨0, 0⟩,
      .closeBattle ⟨false, some 2⟩ 1000 1000]
    (p := fun log => calls log = [.free ⟨1, 1⟩ true, .free ⟨0, 0⟩ true, .load ⟨0, 0⟩ true,
      .save ⟨1, 1⟩, .save ⟨0, 0⟩] ∧ ∀ e ∈ log, BuffersReturned e) (by decide +kernel)
  exact ⟨log, hcalls, slotOwnership_of_buffersReturned hrun hok⟩

/-- With a spectator the close is deferred and frees the slot of a buffer that GGPO keeps;
when the next battle starts, GGPO gives the buffer back and its slot is freed again. -/
theorem not_slotOwnership_deferred :
    ¬ ∀ (log : HostLog UInt32 UInt32) (host : Host UInt32 UInt32),
      (hostLTS OneUnit.engine).Run log host → SlotOwnership log := by
  intro h
  obtain ⟨log, host, hrun, hcalls⟩ := exists_hostRun_of_exec
    [.startGGPO true, .save 1 0, .closeBattle ⟨false, some 3⟩ 1000 1000, .startGGPO true]
    (p := fun log => (calls log).head? = some (.free ⟨0, 0⟩ false)) (by decide +kernel)
  have hall := (h log host hrun).allInOrder
  cases hcs : calls log with
  | nil => simp [hcs] at hcalls
  | cons c cs =>
    rw [hcs] at hcalls hall
    obtain rfl : c = .free ⟨0, 0⟩ false := by simpa using hcalls
    exact absurd hall.1.1 (by decide)

end Rollback
end Sf4e
