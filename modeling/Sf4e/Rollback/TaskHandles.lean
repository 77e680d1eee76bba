/-
# Task handles after a rollback

Units of a battle keep handles of the tasks that update them.  When a battle is restored from a
memento, its tasks are cancelled and allocated again, so that `System::RestoreFromMemento` clears
the handles and looks for the task of each unit by its name.

Four units of the HUD may be missing.  Their handles are cleared only where the unit exists.  A
handle is then set without that look, but for the training unit, whose handle is looked at and
cleared again.

The tasks are the engine's.  Its operations on them are a parameter (`TaskEngine`), and so is the
rest of what the engine restores.
-/
import Mathlib.Data.List.Basic
import Mathlib.Data.List.Nodup
import Mathlib.Logic.Function.Basic
import Sf4e.Data.LinkedList
import Sf4e.Rollback.Memento

namespace Sf4e
namespace Rollback

/-! ## Units -/

/-- The units with a task handle that is restored. -/
inductive TaskUnit
  | pause
  | camera
  | announce
  | cockpit
  | «continue»
  | cursor
  | notice
  | result
  | subtitle
  | training
deriving DecidableEq

namespace TaskUnit

/-- The name of the task of a unit. -/
def taskName : TaskUnit → String
  | pause => "PAUSE"
  | camera => "CAM SHAKE"
  | announce => "HUD ANNOUNCE"
  | cockpit => "HUD COCKPIT"
  | «continue» => "HUD CONTINUE"
  | cursor => "HUD CURSOR"
  | notice => "HUD NOTICE"
  | result => "HUD RESULT"
  | subtitle => "HUD SUBTITLE"
  | training => "HUD TRAINING"

/-- The unit may be missing. -/
def optional : TaskUnit → Bool
  | «continue» | result | subtitle | training => true
  | _ => false

/-- The units in the order in which their handles are cleared. -/
def all : List TaskUnit :=
  [pause, camera, announce, cockpit, «continue», cursor, notice, result, subtitle, training]

lemma taskName_injective : Function.Injective taskName := by
  intro u v
  cases u <;> cases v <;> decide

lemma mem_all (u : TaskUnit) : u ∈ all := by cases u <;> decide

end TaskUnit

/-- The units of a battle. -/
structure BattleUnits where
  present : TaskUnit → Bool
  present_of_not_optional : ∀ u, u.optional = false → present u = true

/-- The handles of the units; `none` is a null pointer. -/
abbrev Handles := TaskUnit → Option Addr

/-! ## Tasks -/

/-- The engine's operations on a task core of the type `C`, with saved tasks of the type `T`. -/
structure TaskEngine (C T : Type) where
  getTaskHead : C → Option Addr
  getNext : C → Addr → Option Addr
  getTaskName : C → Addr → String
  cancelTask : C → Addr → C
  reclaimCancelledTasks : C → C
  /-- A task with the priority of a saved one. -/
  allocateNewTask : C → T → C × Addr
  /-- `Task::RestoreFromAdditionalMemento`, and the copy of the task's data. -/
  restoreTask : C → Addr → T → C

namespace TaskEngine

variable {C T : Type} (E : TaskEngine C T)

/-- Every task is cancelled, from one on. -/
def cancelAll : ℕ → C → Option Addr → Option C
  | _, core, none => some core
  | 0, _, some _ => none
  | fuel + 1, core, some cursor =>
    let core := E.cancelTask core cursor
    cancelAll fuel core (E.getNext core cursor)

/-- `TaskCore::RestoreFromAdditionalMemento`; `none` when the first loop is not over after `fuel`
passes. -/
def restoreTaskCore (fuel : ℕ) (core : C) (saved : List T) : Option C :=
  (E.cancelAll fuel core (E.getTaskHead core)).map fun core =>
    saved.foldl (fun core m =>
      let (core, newTask) := E.allocateNewTask core m
      E.restoreTask core newTask m) (E.reclaimCancelledTasks core)

end TaskEngine

/-! ## Restoring -/

/-- A battle: its update core, its units with their handles, and the rest of its state. -/
structure BattleSystem (S C : Type) where
  state : S
  core : C
  units : BattleUnits
  handles : Handles

/-- What is restored besides. -/
structure SystemEngine (M S C : Type) where
  /-- The additional mementos of the system and the units. -/
  restoreAdditional : M → S → S
  /-- The engine's own `RestoreFromMemento`, at the end. -/
  restoreFromMemento : M → BattleSystem S C → BattleSystem S C

/-- The engine's own restoring leaves the tasks and their handles alone. -/
structure SystemEngine.Lawful {M S C : Type} (E : SystemEngine M S C) : Prop where
  core : ∀ m b, (E.restoreFromMemento m b).core = b.core
  units : ∀ m b, (E.restoreFromMemento m b).units = b.units
  handles : ∀ m b, (E.restoreFromMemento m b).handles = b.handles

section

variable (units : BattleUnits)

/-- `*GetTask(unit) = task`, which needs the unit. -/
def setHandle (u : TaskUnit) (task : Option Addr) (handles : Handles) : Option Handles :=
  if units.present u then some (Function.update handles u task) else none

/-- The handle of a unit is cleared, if there is one. -/
def clearHandle (handles : Handles) (u : TaskUnit) : Option Handles :=
  if u.optional ∧ units.present u = false then some handles else setHandle units u none handles

/-- A pass of the loop over the tasks. -/
def noteTask (name : String) (cursor : Addr) (handles : Handles) : Option Handles :=
  if name = "PAUSE" then setHandle units .pause cursor handles
  else if name = "CAM SHAKE" then setHandle units .camera cursor handles
  else if name = "HUD ANNOUNCE" then setHandle units .announce cursor handles
  else if name = "HUD COCKPIT" then setHandle units .cockpit cursor handles
  else if name = "HUD CONTINUE" then setHandle units .continue cursor handles
  else if name = "HUD CURSOR" then setHandle units .cursor cursor handles
  else if name = "HUD NOTICE" then setHandle units .notice cursor handles
  else if name = "HUD RESULT" then setHandle units .result cursor handles
  else if name = "HUD SUBTITLE" then setHandle units .subtitle cursor handles
  else if name = "HUD TRAINING" then
    if units.present .training then setHandle units .training none handles else some handles
  else some handles

/-- The loop over the tasks. -/
def noteTasks (nameOf : Addr → String) : List Addr → Handles → Option Handles
  | [], handles => some handles
  | cursor :: tasks, handles =>
    (noteTask units (nameOf cursor) cursor handles).bind (noteTasks nameOf tasks)

end

variable {M S C T : Type}

/-- `System::RestoreFromMemento`, with the saved tasks of the memento; `none` when it writes through
a null pointer, or when a loop is not over after `fuel` passes. -/
def BattleSystem.restoreFromMemento (E : SystemEngine M S C) (tasks : TaskEngine C T) (fuel : ℕ)
    (m : M) (saved : List T) (b : BattleSystem S C) : Option (BattleSystem S C) := do
  let state := E.restoreAdditional m b.state
  let core ← tasks.restoreTaskCore fuel b.core saved
  -- now that the task core is restored, update all the handles
  let handles ← TaskUnit.all.foldlM (clearHandle b.units) b.handles
  let live ← LinkedList.walk (tasks.getNext core) fuel (tasks.getTaskHead core)
  let handles ← noteTasks b.units (tasks.getTaskName core) live handles
  return E.restoreFromMemento m { b with state := state, core := core, handles := handles }

/-- The handles are those of the live tasks with their names. -/
structure HandlesRight (units : BattleUnits) (nameOf : Addr → String) (live : List Addr)
    (before after : Handles) : Prop where
  /-- The handle of a unit is that of the task with its name, or null if there is none. -/
  resolved : ∀ u, units.present u = true →
    after u = live.find? fun task => nameOf task = u.taskName
  /-- No handle is left of a task that is not there. -/
  live : ∀ u task, units.present u = true → after u = some task → task ∈ live
  /-- The handle of a missing unit is not written. -/
  absent : ∀ u, units.present u = false → after u = before u

/-- Restoring succeeds and leaves the handles right. -/
def BattleSystem.RestoresWell (E : SystemEngine M S C) (tasks : TaskEngine C T) (fuel : ℕ)
    (m : M) (saved : List T) (live : List Addr) (b : BattleSystem S C) : Prop :=
  ∃ b', b.restoreFromMemento E tasks fuel m saved = some b' ∧ b'.units = b.units ∧
    HandlesRight b.units (tasks.getTaskName b'.core) live b.handles b'.handles

/-- No task is looked for in vain, and none is found for a unit that is missing. -/
structure Resolvable (units : BattleUnits) (nameOf : Addr → String) (live : List Addr) :
    Prop where
  training : ∀ task ∈ live, nameOf task = "HUD TRAINING" → units.present .training = false
  others : ∀ task ∈ live, ∀ u, u ≠ .training → nameOf task = u.taskName → units.present u = true

/-! ## The two passes over the handles -/

section

variable {units : BattleUnits} {nameOf : Addr → String} {live : List Addr} {handles : Handles}
  {u : TaskUnit} {cursor : Addr}

lemma clearHandle_eq (handles : Handles) (u : TaskUnit) :
    clearHandle units handles u =
      some (if units.present u then Function.update handles u none else handles) := by
  cases hpresent : units.present u with
  | true => simp [clearHandle, setHandle, hpresent]
  | false =>
    have hoptional : u.optional = true := by
      by_contra hnot
      rw [units.present_of_not_optional u (by simpa using hnot)] at hpresent
      cases hpresent
    simp [clearHandle, hoptional, hpresent]

/-- The handles once those of the units that exist are cleared. -/
def cleared (units : BattleUnits) (handles : Handles) : Handles :=
  fun u => if units.present u then none else handles u

/-- The clearing of some units. -/
lemma foldlM_clearHandle (us : List TaskUnit) (handles : Handles) :
    us.foldlM (clearHandle units) handles =
      some fun u => if u ∈ us ∧ units.present u = true then none else handles u := by
  induction us generalizing handles with
  | nil => simp
  | cons v us ih =>
    rw [List.foldlM_cons, clearHandle_eq]
    refine (ih _).trans (congrArg some (funext fun u => ?_))
    by_cases hu : u = v
    · subst hu
      by_cases hpresent : units.present u = true <;> simp [hpresent]
    · by_cases hpresent : units.present v = true <;> simp [hu, hpresent]

lemma clear_all (handles : Handles) :
    TaskUnit.all.foldlM (clearHandle units) handles = some (cleared units handles) := by
  rw [foldlM_clearHandle]
  refine congrArg some (funext fun u => ?_)
  simp only [TaskUnit.mem_all, true_and, cleared]

/-- A pass of the second loop, for the task of a unit. -/
lemma noteTask_taskName (u : TaskUnit) :
    noteTask units u.taskName cursor handles =
      if u = .training then
        some (if units.present .training then Function.update handles .training none else handles)
      else setHandle units u cursor handles := by
  cases u
  case training =>
    by_cases h : units.present .training = true <;>
      simp [noteTask, TaskUnit.taskName, setHandle, h]
  all_goals simp [noteTask, TaskUnit.taskName]

lemma noteTask_of_ne {name : String} (h : ∀ u : TaskUnit, name ≠ u.taskName) :
    noteTask units name cursor handles = some handles := by
  -- the name is none of the ten
  refine (if_neg (h .pause)).trans <| (if_neg (h .camera)).trans <| (if_neg (h .announce)).trans <|
    (if_neg (h .cockpit)).trans <| (if_neg (h .continue)).trans <| (if_neg (h .cursor)).trans <|
    (if_neg (h .notice)).trans <| (if_neg (h .result)).trans <| (if_neg (h .subtitle)).trans <|
    if_neg (h .training)

/-- What a pass that succeeds does to the handle of a unit that is not the training unit. -/
lemma noteTask_spec (hok : ∀ u, u ≠ .training → nameOf cursor = u.taskName → units.present u = true)
    (htraining : units.present .training = true → handles .training = none) :
    ∃ handles', noteTask units (nameOf cursor) cursor handles = some handles' ∧
      handles' .training = handles .training ∧
      ∀ u, u ≠ .training → handles' u =
        if nameOf cursor = u.taskName then some cursor else handles u := by
  by_cases hname : ∃ v : TaskUnit, nameOf cursor = v.taskName
  · obtain ⟨v, hv⟩ := hname
    have hother : ∀ u : TaskUnit, u ≠ v → nameOf cursor ≠ u.taskName := fun u hu heq =>
      hu (TaskUnit.taskName_injective (heq.symm.trans hv))
    rw [hv, noteTask_taskName]
    by_cases ht : v = .training
    · subst ht
      rw [if_pos rfl]
      refine ⟨_, rfl, ?_, fun u hu => ?_⟩
      · by_cases hpresent : units.present .training = true
        · simp [hpresent, htraining hpresent]
        · simp [hpresent]
      · rw [if_neg fun heq => hother u hu (hv.trans heq)]
        by_cases hpresent : units.present .training = true <;> simp [hpresent, hu]
    · rw [if_neg ht, setHandle, if_pos (hok v ht hv)]
      refine ⟨_, rfl, Function.update_of_ne (Ne.symm ht) _ _, fun u hu => ?_⟩
      by_cases huv : u = v
      · subst huv
        rw [if_pos rfl, Function.update_self]
      · rw [if_neg fun heq => hother u huv (hv.trans heq), Function.update_of_ne huv]
  · rw [not_exists] at hname
    rw [noteTask_of_ne hname]
    exact ⟨handles, rfl, rfl, fun u _ => (if_neg (hname u)).symm⟩

/-- The second loop sets every handle but that of the training unit to the task with its name. -/
lemma noteTasks_spec (hnames : (live.map nameOf).Nodup)
    (hok : ∀ task ∈ live, ∀ u, u ≠ .training → nameOf task = u.taskName → units.present u = true)
    (htraining : units.present .training = true → handles .training = none) :
    ∃ handles', noteTasks units nameOf live handles = some handles' ∧
      handles' .training = handles .training ∧
      ∀ u, u ≠ .training →
        handles' u = (live.find? fun task => nameOf task = u.taskName).or (handles u) := by
  induction live generalizing handles with
  | nil => exact ⟨handles, rfl, rfl, fun u _ => rfl⟩
  | cons cursor live ih =>
    rw [List.map_cons, List.nodup_cons] at hnames
    obtain ⟨hnot, hnames⟩ := hnames
    obtain ⟨handles₁, hnote, ht₁, hothers₁⟩ :=
      noteTask_spec (hok cursor List.mem_cons_self) htraining
    obtain ⟨handles', hrest, ht, hothers⟩ :=
      ih hnames (fun task htask => hok task (List.mem_cons_of_mem _ htask)) (ht₁ ▸ htraining)
    refine ⟨handles', ?_, ht.trans ht₁, fun u hu => ?_⟩
    · rw [noteTasks, hnote]
      exact hrest
    · rw [hothers u hu, hothers₁ u hu, List.find?_cons]
      by_cases hname : nameOf cursor = u.taskName
      · -- the name is not found again
        have hnone : (live.find? fun task => nameOf task = u.taskName) = none := by
          rw [List.find?_eq_none]
          intro task htask heq
          have hmem : nameOf task ∈ live.map nameOf := List.mem_map_of_mem htask
          rw [hname] at hnot
          exact hnot ((of_decide_eq_true heq) ▸ hmem)
        simp [hname, hnone]
      · simp [hname]

/-- The second loop fails when a unit with a task is missing. -/
lemma noteTasks_eq_none {task : Addr} (htask : task ∈ live) (hu : u ≠ .training)
    (hname : nameOf task = u.taskName) (habsent : units.present u = false) :
    noteTasks units nameOf live handles = none := by
  induction live generalizing handles with
  | nil => cases htask
  | cons cursor live ih =>
    rw [noteTasks, Option.bind_eq_none_iff]
    intro handles' hnote
    rcases List.mem_cons.1 htask with rfl | htask
    · rw [hname, noteTask_taskName, if_neg hu, setHandle, habsent] at hnote
      cases hnote
    · exact ih htask

end

/-! ## The property -/

section

variable {E : SystemEngine M S C} {tasks : TaskEngine C T} {fuel : ℕ} {m : M} {saved : List T}
  {b : BattleSystem S C} {core : C} {live : List Addr}

/-- Restoring, once the tasks are there. -/
lemma restoreFromMemento_eq (hcore : tasks.restoreTaskCore fuel b.core saved = some core)
    (hlive : LinkedList.walk (tasks.getNext core) fuel (tasks.getTaskHead core) = some live) :
    b.restoreFromMemento E tasks fuel m saved =
      (noteTasks b.units (tasks.getTaskName core) live (cleared b.units b.handles)).map
        fun handles => E.restoreFromMemento m
          { b with state := E.restoreAdditional m b.state, core := core, handles := handles } := by
  rw [BattleSystem.restoreFromMemento, hcore, clear_all]
  show (LinkedList.walk (tasks.getNext core) fuel (tasks.getTaskHead core)).bind _ = _
  rw [hlive]
  show (noteTasks b.units (tasks.getTaskName core) live (cleared b.units b.handles)).bind _ = _
  rw [Option.map_eq_bind]
  rfl

/-- **Task handles after a rollback.** When the tasks that a memento brings back have different
names, restoring succeeds and leaves every handle right exactly when there is no task of the
training unit, or no such unit, and no task of another unit that is missing. -/
theorem restoresWell_iff (hE : E.Lawful)
    (hcore : tasks.restoreTaskCore fuel b.core saved = some core)
    (hlive : LinkedList.walk (tasks.getNext core) fuel (tasks.getTaskHead core) = some live)
    (hnames : (live.map (tasks.getTaskName core)).Nodup) :
    b.RestoresWell E tasks fuel m saved live ↔
      Resolvable b.units (tasks.getTaskName core) live := by
  have hcleared : ∀ u, b.units.present u = true → cleared b.units b.handles u = none :=
    fun u hu => if_pos hu
  constructor
  · rintro ⟨b', hrun, -, hright⟩
    rw [restoreFromMemento_eq hcore hlive, Option.map_eq_some_iff] at hrun
    obtain ⟨handles, hnote, rfl⟩ := hrun
    rw [hE.core, hE.handles] at hright
    have hothers : ∀ task ∈ live, ∀ u, u ≠ .training →
        tasks.getTaskName core task = u.taskName → b.units.present u = true := by
      intro task htask u hu hname
      by_contra habsent
      rw [noteTasks_eq_none htask hu hname (by simpa using habsent)] at hnote
      cases hnote
    refine ⟨fun task htask hname => ?_, hothers⟩
    by_contra hpresent
    rw [Bool.not_eq_false] at hpresent
    -- the handle of the training unit stays null
    obtain ⟨handles', hnote', ht, -⟩ := noteTasks_spec hnames hothers (hcleared .training)
    obtain rfl := Option.some.inj (hnote.symm.trans hnote')
    have hnone := (hright.resolved .training hpresent).symm.trans
      (ht.trans (hcleared .training hpresent))
    exact List.find?_eq_none.1 hnone task htask (decide_eq_true hname)
  · rintro ⟨htraining, hothers⟩
    obtain ⟨handles, hnote, ht, hall⟩ := noteTasks_spec hnames hothers (hcleared .training)
    have hresolved : ∀ u, b.units.present u = true →
        handles u = live.find? fun task => tasks.getTaskName core task = u.taskName := by
      intro u hu
      by_cases hut : u = .training
      · subst hut
        rw [ht, hcleared _ hu, eq_comm, List.find?_eq_none]
        intro task htask hname
        rw [htraining task htask (of_decide_eq_true hname)] at hu
        cases hu
      · rw [hall u hut, hcleared u hu, Option.or_none]
    have hrun := @restoreFromMemento_eq _ _ _ _ E tasks fuel m saved b core live hcore hlive
    rw [hnote] at hrun
    refine ⟨_, hrun, hE.units _ _, ?_⟩
    rw [hE.core, hE.handles]
    show HandlesRight b.units (tasks.getTaskName core) live b.handles handles
    refine ⟨hresolved, fun u task hu htask => ?_, fun u hu => ?_⟩
    · rw [hresolved u hu] at htask
      exact List.mem_of_find?_eq_some htask
    · have hkept : cleared b.units b.handles u = b.handles u := if_neg (by simp [hu])
      by_cases hut : u = .training
      · rw [hut] at hkept ⊢
        exact ht.trans hkept
      · rw [hall u hut, hkept]
        have hnone : (live.find? fun task => tasks.getTaskName core task = u.taskName) = none := by
          rw [List.find?_eq_none]
          intro task htask hname
          rw [hothers task htask u hut (of_decide_eq_true hname)] at hu
          cases hu
        rw [hnone, Option.none_or]

end

/-! ## Runs -/

/-- A task: its address, its name, and whether it is cancelled. -/
structure PlainTask where
  addr : Addr
  name : String
  cancelled : Bool

/-- Tasks in a list, without priorities. -/
def plainTasks : TaskEngine (List PlainTask) String where
  getTaskHead core := core.head?.map (·.addr)
  getNext core task := (core.tail.find? fun t => t.addr = task + 1).map (·.addr)
  getTaskName core task := ((core.find? fun t => t.addr = task).map (·.name)).getD ""
  cancelTask core task :=
    core.map fun t => if t.addr = task then { t with cancelled := true } else t
  reclaimCancelledTasks core := core.filter fun t => !t.cancelled
  allocateNewTask core _ :=
    (core ++ [⟨.ofNat (core.length + 1), "", false⟩], .ofNat (core.length + 1))
  restoreTask core task name :=
    core.map fun t => if t.addr = task then { t with name := name } else t

/-- Nothing else is restored. -/
def plainSystem : SystemEngine Unit Unit (List PlainTask) := ⟨fun _ b => b, fun _ b => b⟩

/-- A battle with one task, whose optional units are those of a list. -/
def plainBattle (units : List TaskUnit) : BattleSystem Unit (List PlainTask) where
  state := ()
  core := [⟨1, "PAUSE", false⟩]
  units := ⟨fun u => !u.optional || u ∈ units, fun u hu => by simp [hu]⟩
  handles := fun u => if u = .pause then some 1 else none

/-- The tasks of the camera and of the result, which there is. -/
theorem restoresWell_iff_result :
    (plainBattle [.result]).RestoresWell plainSystem plainTasks 9 ()
      ["CAM SHAKE", "SOUND", "HUD RESULT"] [1, 2, 3] := by
  have hcore : plainTasks.restoreTaskCore 9 (plainBattle [.result]).core
      ["CAM SHAKE", "SOUND", "HUD RESULT"] =
        some [⟨1, "CAM SHAKE", false⟩, ⟨2, "SOUND", false⟩, ⟨3, "HUD RESULT", false⟩] := rfl
  have hnames : [1, 2, 3].map (plainTasks.getTaskName
      [⟨1, "CAM SHAKE", false⟩, ⟨2, "SOUND", false⟩, ⟨3, "HUD RESULT", false⟩]) =
        ["CAM SHAKE", "SOUND", "HUD RESULT"] := rfl
  have hcamera : plainTasks.getTaskName [⟨1, "CAM SHAKE", false⟩, ⟨2, "SOUND", false⟩,
      ⟨3, "HUD RESULT", false⟩] 1 = "CAM SHAKE" := rfl
  have hsound : plainTasks.getTaskName [⟨1, "CAM SHAKE", false⟩, ⟨2, "SOUND", false⟩,
      ⟨3, "HUD RESULT", false⟩] 2 = "SOUND" := rfl
  have hresult : plainTasks.getTaskName [⟨1, "CAM SHAKE", false⟩, ⟨2, "SOUND", false⟩,
      ⟨3, "HUD RESULT", false⟩] 3 = "HUD RESULT" := rfl
  refine (restoresWell_iff ⟨fun _ _ => rfl, fun _ _ => rfl, fun _ _ => rfl⟩ hcore rfl
    (by rw [hnames]; simp)).2 ⟨fun _ _ _ => rfl, ?_⟩
  intro task htask u hu hname
  -- Only the camera and the result have a task with their name; both are there.
  simp only [List.mem_cons, List.not_mem_nil, or_false] at htask
  rcases htask with rfl | rfl | rfl
  · rw [hcamera] at hname
    obtain rfl : TaskUnit.camera = u := TaskUnit.taskName_injective hname
    rfl
  · rw [hsound] at hname
    cases u <;> exact absurd hname (by decide)
  · rw [hresult] at hname
    obtain rfl : TaskUnit.result = u := TaskUnit.taskName_injective hname
    rfl

/-- The handle of the training unit is not set, and a task of a unit that is missing is not dealt
with. -/
theorem not_restoresWell_training :
    ¬ (plainBattle [.training]).RestoresWell plainSystem plainTasks 9 () ["HUD TRAINING"] [1] ∧
      (plainBattle []).restoreFromMemento plainSystem plainTasks 9 () ["HUD CONTINUE"] = none := by
  refine ⟨?_, rfl⟩
  rintro ⟨b', hrun, -, hright⟩
  obtain rfl := Option.some.inj hrun
  have hresolved := hright.resolved .training rfl
  exact absurd hresolved (by decide)

end Rollback
end Sf4e
