/-
# Sound pools in memory

The entries of a sound pool lie in memory, on two doubly linked lists.  `Load` moves the active
entries to the end of the inactive list, takes as many from its front as a memento has active
ones, and writes the saved contents into both lists in order; `Save` walks over both lists.

An entry that is taken from the front of the inactive list is still the predecessor of the next
one, which is the front then: `Load` does not clear that link.  So what it leaves behind is a pool
only when it takes no entries or all of them.
-/
import Mathlib.Data.Vector.Basic
import Mathlib.Logic.Function.Basic
import Sf4e.Data.LinkedList
import Sf4e.Rollback.Sound

namespace Sf4e
namespace Platform

open LinkedList

/-! ## Pools -/

/-- `SoundObjectPoolEntry::SaveState`: what is saved of an entry. -/
structure EntryState (N : ℕ) where
  handle : UInt32
  field_0x4 : UInt32
  data : Vector UInt8 N
deriving DecidableEq

/-- `SoundObjectPoolEntry`, at an address of the type `ι`. -/
structure SoundObjectPoolEntry (N : ℕ) (ι : Type) extends EntryState N where
  prev : Option ι
  next : Option ι

/-- `SoundObjectPool`, and the memory that its entries lie in. -/
structure SoundObjectPool (N : ℕ) (ι : Type) where
  inactiveHead : Option ι
  inactiveTail : Option ι
  activeHead : Option ι
  activeTail : Option ι
  entries : ι → SoundObjectPoolEntry N ι

/-- `SoundObjectPool::SaveState`. -/
structure SaveState (N : ℕ) where
  inactive : List (EntryState N) := []
  active : List (EntryState N) := []
deriving DecidableEq

/-- A pointer, from its bytes in memory. -/
def toAddr (data : Vector UInt8 4) : Rollback.Addr :=
  data[0].toUInt32 ||| data[1].toUInt32 <<< 8 ||| data[2].toUInt32 <<< 16 |||
    data[3].toUInt32 <<< 24

/-- An entry of a pool of adapters. -/
def EntryState.toPoolEntry (e : EntryState 4) : Rollback.PoolEntry :=
  ⟨e.handle, e.field_0x4, toAddr e.data⟩

/-- A memento of a pool of adapters. -/
def SaveState.toLists (src : SaveState 4) : Rollback.SoundObjectPool :=
  ⟨src.inactive.map EntryState.toPoolEntry, src.active.map EntryState.toPoolEntry⟩

namespace SoundObjectPool

variable {N : ℕ} {ι : Type} [DecidableEq ι]

section

variable (pool : SoundObjectPool N ι)

/-- `entry->prev`. -/
def prev (i : ι) : Option ι := (pool.entries i).prev

/-- `entry->next`. -/
def next (i : ι) : Option ι := (pool.entries i).next

/-- The contents of an entry. -/
def state (i : ι) : EntryState N := (pool.entries i).toEntryState

/-- A change of an entry. -/
def write (i : ι) (f : SoundObjectPoolEntry N ι → SoundObjectPoolEntry N ι) :
    SoundObjectPool N ι :=
  { pool with entries := Function.update pool.entries i (f (pool.entries i)) }

/-- `entry->next = next`, if there is an entry. -/
def setNext (entry : Option ι) (next : Option ι) : SoundObjectPool N ι :=
  { pool with
    entries :=
      match entry with
      | none => pool.entries
      | some i => Function.update pool.entries i { pool.entries i with next := next } }

/-- A pass of the first loop of `Load`: the first active entry goes to the end of the inactive
list. -/
def retire (cursor : ι) : SoundObjectPool N ι :=
  let pool := { pool with activeHead := pool.next cursor }
  let pool := pool.write cursor fun entry => { entry with prev := pool.inactiveTail, next := none }
  let pool := { pool with inactiveHead := pool.inactiveHead.or (some cursor) }
  let pool := pool.setNext pool.inactiveTail (some cursor)
  { pool with inactiveTail := some cursor }

/-- The first loop of `Load`, for a number of passes at most. -/
def retireAll (pool : SoundObjectPool N ι) : ℕ → Option (SoundObjectPool N ι)
  | 0 =>
    match pool.activeHead with
    | none => some { pool with activeTail := none }
    | some _ => none
  | fuel + 1 =>
    match pool.activeHead with
    | none => some { pool with activeTail := none }
    | some cursor => (pool.retire cursor).retireAll fuel

/-- A pass of the second loop of `Load`: the first inactive entry becomes the last active one.
There has to be one. -/
def activate (saved : EntryState N) : Option (SoundObjectPool N ι) :=
  pool.inactiveHead.map fun newActiveEntry =>
    let pool := { pool with inactiveHead := pool.next newActiveEntry }
    let pool := { pool with
      inactiveTail := if pool.inactiveHead = none then none else pool.inactiveTail }
    let pool := pool.write newActiveEntry fun _ => ⟨saved, pool.activeTail, none⟩
    let pool := { pool with activeHead := pool.activeHead.or (some newActiveEntry) }
    let pool := pool.setNext pool.activeTail (some newActiveEntry)
    { pool with activeTail := some newActiveEntry }

/-- The second loop of `Load`. -/
def activateAll (pool : SoundObjectPool N ι) :
    List (EntryState N) → Option (SoundObjectPool N ι)
  | [] => some pool
  | saved :: rest => (pool.activate saved).bind fun pool => pool.activateAll rest

/-- The third loop of `Load`, from an entry on. -/
def overwrite (pool : SoundObjectPool N ι) :
    Option ι → List (EntryState N) → Option (SoundObjectPool N ι)
  | _, [] => some pool
  | none, _ :: _ => none
  | some cursor, saved :: rest =>
    let pool := pool.write cursor fun entry => { entry with toEntryState := saved }
    pool.overwrite (pool.next cursor) rest

/-- `Load`; `none` when it follows a null pointer, or when the first loop is not over after
`fuel` passes. -/
def load (fuel : ℕ) (src : SaveState N) : Option (SoundObjectPool N ι) := do
  let pool ← pool.retireAll fuel
  let pool ← pool.activateAll src.active
  pool.overwrite pool.inactiveHead src.inactive

/-- `Save`; `none` when a loop is not over after `fuel` passes. -/
def save (fuel : ℕ) (dst : SaveState N) : Option (SaveState N) := do
  let inactive ← walk pool.next fuel pool.inactiveHead
  let active ← walk pool.next fuel pool.activeHead
  return ⟨dst.inactive ++ inactive.map pool.state, dst.active ++ active.map pool.state⟩

end

/-- The entries are on two lists, each of them on one and there once. -/
def WellFormed (pool : SoundObjectPool N ι) (entries : List ι) : Prop :=
  ∃ inactive active,
    IsList pool.prev pool.next pool.inactiveHead pool.inactiveTail inactive ∧
    IsList pool.prev pool.next pool.activeHead pool.activeTail active ∧
    (inactive ++ active).Nodup ∧ (inactive ++ active).Perm entries

/-- Loading succeeds and leaves a pool of the same entries, and what is saved then is what has
been loaded. -/
def LoadsWell (pool : SoundObjectPool N ι) (fuel : ℕ) (entries : List ι) (src : SaveState N) :
    Prop :=
  ∃ pool', pool.load fuel src = some pool' ∧ pool'.save fuel {} = some src ∧
    pool'.WellFormed entries

/-! ## Writes -/

section

variable (pool : SoundObjectPool N ι) (entry link : Option ι) (i j : ι) (saved : EntryState N)

lemma entries_write (f : SoundObjectPoolEntry N ι → SoundObjectPoolEntry N ι) :
    (pool.write i f).entries j = if j = i then f (pool.entries j) else pool.entries j := by
  by_cases h : j = i
  · rw [if_pos h, h]
    exact Function.update_self ..
  · rw [if_neg h]
    exact Function.update_of_ne h ..

lemma entries_setNext :
    (pool.setNext entry link).entries j =
      if entry = some j then { pool.entries j with next := link } else pool.entries j := by
  cases entry with
  | none => rfl
  | some i =>
    by_cases h : j = i
    · rw [if_pos (congrArg some h.symm), h]
      exact Function.update_self ..
    · rw [if_neg fun heq => h (Option.some.inj heq).symm]
      exact Function.update_of_ne h ..

/-- The entries after one has been moved to the inactive list. -/
lemma entries_retire :
    (pool.retire i).entries j =
      let entry :=
        if j = i then { pool.entries j with prev := pool.inactiveTail, next := none }
        else pool.entries j
      if pool.inactiveTail = some j then { entry with next := some i } else entry := by
  simp only [retire, entries_setNext, entries_write]
  rfl

/-- The pool after the first inactive entry has been taken. -/
lemma activate_eq_some (hhead : pool.inactiveHead = some i) :
    ∃ pool', pool.activate saved = some pool' ∧
      pool'.inactiveHead = pool.next i ∧
      pool'.inactiveTail = (if pool.next i = none then none else pool.inactiveTail) ∧
      pool'.activeHead = pool.activeHead.or (some i) ∧ pool'.activeTail = some i ∧
      ∀ j, pool'.entries j =
        let entry := if j = i then ⟨saved, pool.activeTail, none⟩ else pool.entries j
        if pool.activeTail = some j then { entry with next := some i } else entry := by
  rw [activate, hhead]
  refine ⟨_, rfl, rfl, rfl, rfl, rfl, fun j => ?_⟩
  simp only [entries_setNext, entries_write]
  rfl

end

/-! ## The loops -/

section

variable {pool : SoundObjectPool N ι} {inactive active : List ι} {i : ι}

/-- The first loop: the entries that are still active have only their successors in order, and the
end of their list is not looked at. -/
structure Retiring (pool : SoundObjectPool N ι) (inactive active : List ι) : Prop where
  isList : IsList pool.prev pool.next pool.inactiveHead pool.inactiveTail inactive
  head_eq : pool.activeHead = active.head?
  linked : ∃ p, Linked pool.prev pool.next p active
  nodup : (inactive ++ active).Nodup

lemma Retiring.retire (h : Retiring pool inactive (i :: active)) :
    Retiring (pool.retire i) (inactive ++ [i]) active := by
  obtain ⟨⟨hhead, htail, hinactive⟩, -, ⟨p, -, hnext, hactive⟩, hnodup⟩ := h
  -- the entry that is retired is on one list only
  have hnot : i ∉ inactive := fun hmem =>
    (List.nodup_append.1 hnodup).2.2 i hmem i List.mem_cons_self rfl
  have hnot' : ∀ j ∈ active, j ≠ i ∧ j ∉ inactive := by
    intro j hj
    have hcons := (List.nodup_append.1 hnodup).2.1
    refine ⟨?_, fun hmem => ?_⟩
    · rintro rfl
      exact (List.nodup_cons.1 hcons).1 hj
    · exact (List.nodup_append.1 hnodup).2.2 j hmem j (List.mem_cons_of_mem _ hj) rfl
  have hlast : ∀ j, pool.inactiveTail = some j → j ∈ inactive := fun j hj =>
    List.mem_of_getLast? (htail.symm.trans hj)
  have hself : pool.inactiveTail ≠ some i := fun hi => hnot (hlast i hi)
  refine ⟨⟨?_, ?_, ?_⟩, hnext, ⟨some i, ?_⟩, ?_⟩
  · show pool.inactiveHead.or (some i) = (inactive ++ [i]).head?
    rw [hhead, List.head?_append]
    rfl
  · show some i = (inactive ++ [i]).getLast?
    rw [List.getLast?_concat]
  · refine hinactive.concat ?_ ?_ ?_ ?_ ?_ (List.nodup_append.1 hnodup).1
    · rw [prev, entries_retire]
      simpa [hself] using htail
    · rw [next, entries_retire]
      simp [hself]
    · intro j hj
      have hne : j ≠ i := fun hji => hnot (hji ▸ hj)
      rw [prev, entries_retire]
      simp only [hne, if_false]
      split <;> rfl
    · intro j hj
      rw [next, entries_retire]
      simp [htail, hj]
    · intro j hj hne
      have hne' : j ≠ i := fun hji => hnot (hji ▸ hj)
      rw [next, entries_retire, htail]
      simp [hne, hne', next]
  · -- the links of the other active entries are left alone
    refine hactive.congr ?_ ?_
    · intro j hj
      rw [prev, entries_retire]
      have hne : pool.inactiveTail ≠ some j := fun hj' => (hnot' j hj).2 (hlast j hj')
      simp [hne, (hnot' j hj).1, prev]
    · intro j hj
      rw [next, entries_retire]
      have hne : pool.inactiveTail ≠ some j := fun hj' => (hnot' j hj).2 (hlast j hj')
      simp [hne, (hnot' j hj).1, next]
  · rw [List.append_assoc]
    exact hnodup

lemma state_retire (j : ι) : (pool.retire i).state j = pool.state j := by
  rw [state, entries_retire]
  by_cases h : j = i
  · subst h
    by_cases h' : pool.inactiveTail = some j <;> simp [h', state]
  · by_cases h' : pool.inactiveTail = some j <;> simp [h, h', state]

/-- The first loop leaves all entries on the inactive list. -/
lemma Retiring.retireAll {fuel : ℕ} (h : Retiring pool inactive active)
    (hfuel : active.length ≤ fuel) :
    ∃ pool', pool.retireAll fuel = some pool' ∧ Retiring pool' (inactive ++ active) [] ∧
      pool'.activeTail = none ∧ pool'.state = pool.state := by
  induction active generalizing pool inactive fuel with
  | nil =>
    have hhead : pool.activeHead = none := h.head_eq
    refine ⟨{ pool with activeTail := none }, ?_, ?_, rfl, rfl⟩
    · cases fuel <;> simp [SoundObjectPool.retireAll, hhead]
    · rw [List.append_nil]
      exact ⟨h.isList, h.head_eq, h.linked, h.nodup⟩
  | cons i active ih =>
    cases fuel with
    | zero => simp at hfuel
    | succ fuel =>
      obtain ⟨pool', hpool', hretiring, htail, hstate⟩ :=
        ih h.retire (Nat.le_of_succ_le_succ hfuel)
      have hhead : pool.activeHead = some i := h.head_eq
      refine ⟨pool', ?_, ?_, htail, ?_⟩
      · rw [SoundObjectPool.retireAll, hhead]
        exact hpool'
      · rw [List.append_assoc] at hretiring
        exact hretiring
      · rw [hstate]
        exact funext fun j => state_retire j

/-- The second loop: the first inactive entry may have a predecessor, which is the last entry that
has been taken. -/
structure Activating (pool : SoundObjectPool N ι) (inactive active : List ι) : Prop where
  head_eq : pool.inactiveHead = inactive.head?
  tail_eq : pool.inactiveTail = inactive.getLast?
  linked : Linked pool.prev pool.next active.getLast? inactive
  isList : IsList pool.prev pool.next pool.activeHead pool.activeTail active
  nodup : (inactive ++ active).Nodup

omit [DecidableEq ι] in
/-- The first loop is over. -/
lemma Retiring.activating (h : Retiring pool inactive []) (htail : pool.activeTail = none) :
    Activating pool inactive [] :=
  ⟨h.isList.head_eq, h.isList.tail_eq, h.isList.linked, ⟨h.head_eq, htail, linked_nil⟩, h.nodup⟩

lemma Activating.activate (h : Activating pool (i :: inactive) active) (saved : EntryState N) :
    ∃ pool', pool.activate saved = some pool' ∧ Activating pool' inactive (active ++ [i]) ∧
      pool'.state = Function.update pool.state i saved := by
  obtain ⟨hhead, htail, ⟨-, hnext, hinactive⟩, ⟨hactiveHead, hactiveTail, hactive⟩, hnodup⟩ := h
  rw [List.cons_append, List.nodup_cons, List.mem_append, not_or] at hnodup
  obtain ⟨⟨hnot, hnot'⟩, hnodup⟩ := hnodup
  have hlast : ∀ j, pool.activeTail = some j → j ∈ active := fun j hj =>
    List.mem_of_getLast? (hactiveTail.symm.trans hj)
  -- the entry that is taken is not the last active one
  have hself : pool.activeTail ≠ some i := fun hi => hnot' (hlast i hi)
  have hother : ∀ j ∈ inactive, j ≠ i ∧ pool.activeTail ≠ some j := by
    intro j hj
    refine ⟨fun hji => hnot (hji ▸ hj), fun htail' => ?_⟩
    exact (List.nodup_append.1 hnodup).2.2 j hj j (hlast j htail') rfl
  obtain ⟨pool', hpool', hih, hit, hah, hat, hentries⟩ := pool.activate_eq_some i saved hhead
  refine ⟨pool', hpool', ⟨?_, ?_, ?_, ⟨?_, ?_, ?_⟩, ?_⟩, ?_⟩
  · rw [hih, hnext]
  · rw [hit, hnext, htail]
    cases inactive with
    | nil => rfl
    | cons j inactive => rw [List.getLast?_cons_cons, List.head?_cons, if_neg (by simp)]
  · rw [List.getLast?_concat]
    refine hinactive.congr ?_ ?_
    · intro j hj
      simp [prev, hentries, hother j hj]
    · intro j hj
      simp [next, hentries, hother j hj]
  · rw [hah, hactiveHead, List.head?_append]
    rfl
  · rw [hat, List.getLast?_concat]
  · refine hactive.concat ?_ ?_ ?_ ?_ ?_ (List.nodup_append.1 hnodup).2.1
    · simpa [prev, hentries, hself] using hactiveTail
    · simp [next, hentries, hself]
    · intro j hj
      have hne : j ≠ i := fun hji => hnot' (hji ▸ hj)
      simp only [prev, hentries, hne, if_false]
      split <;> rfl
    · intro j hj
      simp [next, hentries, hactiveTail, hj]
    · intro j hj hne
      have hne' : j ≠ i := fun hji => hnot' (hji ▸ hj)
      simp [next, hentries, hactiveTail, hne, hne']
  · rw [← List.append_assoc]
    refine List.Perm.nodup_iff (List.perm_append_singleton _ _) |>.2 ?_
    rw [List.nodup_cons, List.mem_append, not_or]
    exact ⟨⟨hnot, hnot'⟩, hnodup⟩
  · funext j
    by_cases hj : j = i
    · subst hj
      simp [state, hentries, hself]
    · rw [Function.update_of_ne hj]
      simp only [state, hentries, hj, if_false]
      split <;> rfl

/-- The second loop takes as many entries as there are active ones in the memento. -/
lemma Activating.activateAll {saved : List (EntryState N)} {taken : List ι}
    (h : Activating pool (taken ++ inactive) active) (hlen : taken.length = saved.length) :
    ∃ pool', pool.activateAll saved = some pool' ∧ Activating pool' inactive (active ++ taken) ∧
      taken.map pool'.state = saved ∧ ∀ j ∉ taken, pool'.state j = pool.state j := by
  induction taken generalizing pool active saved with
  | nil =>
    obtain rfl := List.length_eq_zero_iff.1 hlen.symm
    rw [List.append_nil]
    exact ⟨pool, rfl, h, rfl, fun _ _ => rfl⟩
  | cons i taken ih =>
    cases saved with
    | nil => cases hlen
    | cons e saved =>
      obtain ⟨pool₁, hpool₁, hactivating, hstate₁⟩ := h.activate e
      obtain ⟨pool', hpool', hactivating', hsaved, hothers⟩ :=
        ih hactivating (Nat.succ.inj hlen)
      have hnot : i ∉ taken := by
        have hnodup := (List.nodup_append.1 h.nodup).1
        exact (List.nodup_cons.1 (List.nodup_append.1 hnodup).1).1
      refine ⟨pool', ?_, ?_, ?_, ?_⟩
      · rw [SoundObjectPool.activateAll, hpool₁]
        exact hpool'
      · rw [List.append_assoc] at hactivating'
        exact hactivating'
      · rw [List.map_cons, hsaved, hothers i hnot, hstate₁, Function.update_self]
      · intro j hj
        rw [List.mem_cons, not_or] at hj
        rw [hothers j hj.2, hstate₁, Function.update_of_ne hj.1]

/-- The third loop writes contents only. -/
lemma overwrite_spec {saved : List (EntryState N)} {cursor p : Option ι} {rest : List ι}
    (h : Linked pool.prev pool.next p (inactive ++ rest))
    (hcursor : cursor = (inactive ++ rest).head?) (hnodup : (inactive ++ rest).Nodup)
    (hlen : inactive.length = saved.length) :
    ∃ pool', pool.overwrite cursor saved = some pool' ∧ pool'.prev = pool.prev ∧
      pool'.next = pool.next ∧ pool'.inactiveHead = pool.inactiveHead ∧
      pool'.inactiveTail = pool.inactiveTail ∧ pool'.activeHead = pool.activeHead ∧
      pool'.activeTail = pool.activeTail ∧ inactive.map pool'.state = saved ∧
      ∀ j ∉ inactive, pool'.state j = pool.state j := by
  induction inactive generalizing pool cursor p saved with
  | nil =>
    obtain rfl := List.length_eq_zero_iff.1 hlen.symm
    refine ⟨pool, ?_, rfl, rfl, rfl, rfl, rfl, rfl, rfl, fun _ _ => rfl⟩
    cases cursor <;> rfl
  | cons i inactive ih =>
    cases saved with
    | nil => cases hlen
    | cons e saved =>
      obtain rfl : cursor = some i := hcursor
      obtain ⟨hnot, hnodup⟩ := List.nodup_cons.1 hnodup
      set pool₁ := pool.write i fun entry => { entry with toEntryState := e } with hpool₁
      have hprev : pool₁.prev = pool.prev := by
        funext j
        by_cases hj : j = i <;> simp [prev, hpool₁, entries_write, hj]
      have hnext : pool₁.next = pool.next := by
        funext j
        by_cases hj : j = i <;> simp [next, hpool₁, entries_write, hj]
      have hstate : pool₁.state = Function.update pool.state i e := by
        funext j
        by_cases hj : j = i
        · subst hj
          simp [state, hpool₁, entries_write]
        · rw [Function.update_of_ne hj]
          simp [state, hpool₁, entries_write, hj]
      obtain ⟨-, hhead, hrest⟩ := h
      have hrest' : Linked pool₁.prev pool₁.next (some i) (inactive ++ rest) := by
        rw [hprev, hnext]
        exact hrest
      have hhead' : pool₁.next i = (inactive ++ rest).head? := by
        rw [hnext]
        exact hhead
      obtain ⟨pool', hpool', hprev', hnext', hih, hit, hah, hat, hsaved, hothers⟩ :=
        ih hrest' hhead' hnodup (Nat.succ.inj hlen)
      have hnot' : i ∉ inactive := fun hmem => hnot (List.mem_append_left _ hmem)
      refine ⟨pool', hpool', hprev'.trans hprev, hnext'.trans hnext, hih, hit, hah, hat, ?_, ?_⟩
      · rw [List.map_cons, hsaved, hothers i hnot', hstate, Function.update_self]
      · intro j hj
        rw [List.mem_cons, not_or] at hj
        rw [hothers j hj.2, hstate, Function.update_of_ne hj.1]

end

/-! ## Loading -/

section

variable {pool : SoundObjectPool N ι} {entries : List ι} {fuel : ℕ} {src : SaveState N}

/-- **What `Load` does.** The entries go to the active list in the order in which they were on the
inactive and the active list, as many as the memento has; the rest is inactive.  The contents are
written in that order. -/
lemma load_spec {inactive active : List ι}
    (hinactive : IsList pool.prev pool.next pool.inactiveHead pool.inactiveTail inactive)
    (hactive : IsList pool.prev pool.next pool.activeHead pool.activeTail active)
    (hnodup : (inactive ++ active).Nodup) (hfuel : active.length ≤ fuel)
    (hsize : src.active.length + src.inactive.length ≤ (inactive ++ active).length) :
    ∃ taken written rest pool', taken ++ (written ++ rest) = inactive ++ active ∧
      pool.load fuel src = some pool' ∧ Activating pool' (written ++ rest) taken ∧
      taken.map pool'.state = src.active ∧ written.map pool'.state = src.inactive ∧
      rest.map pool'.state = rest.map pool.state := by
  have hretiring : Retiring pool inactive active :=
    ⟨hinactive, hactive.head_eq, ⟨none, hactive.linked⟩, hnodup⟩
  obtain ⟨pool₁, hpool₁, hretired, htail, hstate₁⟩ := hretiring.retireAll hfuel
  have hactivating := hretired.activating htail
  -- the entries by what becomes of them
  obtain ⟨taken, others, hothers, htaken⟩ : ∃ taken others,
      inactive ++ active = taken ++ others ∧ taken.length = src.active.length :=
    ⟨_, _, (List.take_append_drop src.active.length _).symm, by rw [List.length_take]; omega⟩
  have hlen : taken.length + others.length = (inactive ++ active).length := by
    rw [hothers, List.length_append]
  obtain ⟨written, rest, rfl, hwritten⟩ : ∃ written rest,
      others = written ++ rest ∧ written.length = src.inactive.length :=
    ⟨_, _, (List.take_append_drop src.inactive.length _).symm, by rw [List.length_take]; omega⟩
  rw [hothers] at hactivating hnodup
  obtain ⟨pool₂, hpool₂, hactivated, hsaved, hkept⟩ := hactivating.activateAll htaken
  rw [List.nil_append] at hactivated
  have hnodup₂ := (List.nodup_append.1 hnodup).2.1
  obtain ⟨pool', hpool', hprev, hnext, hih, hit, hah, hat, hsaved', hkept'⟩ :=
    overwrite_spec hactivated.linked hactivated.head_eq hnodup₂ hwritten
  have hseparate : ∀ i ∈ taken, i ∉ written ++ rest := fun i hi hmem =>
    (List.nodup_append.1 hnodup).2.2 i hi i hmem rfl
  refine ⟨taken, written, rest, pool', hothers.symm, ?_, ?_, ?_, hsaved', ?_⟩
  · rw [load, hpool₁]
    show (pool₁.activateAll src.active).bind _ = _
    rw [hpool₂]
    exact hpool'
  · obtain ⟨hhead, htail', hlinked, hlist, hnodup'⟩ := hactivated
    exact ⟨hih.trans hhead, hit.trans htail', hprev.symm ▸ hnext.symm ▸ hlinked,
      hprev.symm ▸ hnext.symm ▸ ⟨hah.trans hlist.head_eq, hat.trans hlist.tail_eq, hlist.linked⟩,
      hnodup'⟩
  · rw [← hsaved]
    refine List.map_congr_left fun i hi => hkept' i fun hmem => ?_
    exact hseparate i hi (List.mem_append_left _ hmem)
  · refine List.map_congr_left fun i hi => ?_
    have hnot : i ∉ written := fun hmem => (List.nodup_append.1 hnodup₂).2.2 i hmem i hi rfl
    have hnot' : i ∉ taken := fun hmem => hseparate i hmem (List.mem_append_right _ hi)
    rw [hkept' i hnot, hkept i hnot', hstate₁]

omit [DecidableEq ι] in
/-- **What `Save` does.** -/
lemma save_eq {inactive active : List ι} {p q : Option ι}
    (hinactive : Linked pool.prev pool.next p inactive) (hih : pool.inactiveHead = inactive.head?)
    (hactive : Linked pool.prev pool.next q active) (hah : pool.activeHead = active.head?)
    (hfuel : (inactive ++ active).length ≤ fuel) :
    pool.save fuel {} = some ⟨inactive.map pool.state, active.map pool.state⟩ := by
  rw [List.length_append] at hfuel
  rw [save, hih, hinactive.walk_eq (by omega), hah, hactive.walk_eq (by omega)]
  rfl

omit [DecidableEq ι] in
/-- What is saved of a pool has one state for each of its entries. -/
lemma size_of_save (h : pool.WellFormed entries) (hsave : pool.save fuel {} = some src) :
    src.active.length + src.inactive.length = entries.length := by
  obtain ⟨inactive, active, hinactive, hactive, -, hperm⟩ := h
  rw [save, hinactive.head_eq, hactive.head_eq] at hsave
  obtain ⟨inactive', hinactive', active', hactive', hsrc⟩ :
      ∃ inactive', walk pool.next fuel inactive.head? = some inactive' ∧ ∃ active',
        walk pool.next fuel active.head? = some active' ∧
          some ⟨inactive'.map pool.state, active'.map pool.state⟩ = some src := by
    simpa [Option.bind_eq_some_iff] using hsave
  obtain rfl := hinactive.linked.eq_of_walk hinactive'
  obtain rfl := hactive.linked.eq_of_walk hactive'
  obtain rfl := Option.some.inj hsrc
  have hlen := hperm.length_eq
  rw [List.length_append] at hlen
  simp only [List.length_map]
  omega

/-- **Saving and loading a sound pool.** For every pool, and every memento of a pool with as many
entries, `Load` and then `Save` give the memento again and leave a pool of the same entries
exactly when the memento has no active entries or no inactive ones. -/
theorem loadsWell_iff {κ : Type} {pool₀ : SoundObjectPool N κ} {entries₀ : List κ}
    {fuel₀ : ℕ} (h : pool.WellFormed entries) (h₀ : pool₀.WellFormed entries₀)
    (hsize : entries₀.length = entries.length) (hsave : pool₀.save fuel₀ {} = some src)
    (hfuel : entries.length ≤ fuel) :
    pool.LoadsWell fuel entries src ↔ src.active = [] ∨ src.inactive = [] := by
  have hsrc := size_of_save h₀ hsave
  obtain ⟨inactive, active, hinactive, hactive, hnodup, hperm⟩ := h
  have hlen := hperm.length_eq
  have hlen' : (inactive ++ active).length = inactive.length + active.length := List.length_append
  have hfuel' : active.length ≤ fuel := by omega
  have hsize' : src.active.length + src.inactive.length ≤ (inactive ++ active).length := by omega
  obtain ⟨taken, rest, more, pool', hsplit, hload, hpool', htaken, hrest, -⟩ :=
    load_spec hinactive hactive hnodup hfuel' hsize'
  -- no entry is left over
  obtain rfl : more = [] := by
    have hsum := congrArg List.length hsplit
    have hlen₁ := congrArg List.length htaken
    have hlen₂ := congrArg List.length hrest
    simp only [List.length_append, List.length_map] at hsum hlen₁ hlen₂
    exact List.length_eq_zero_iff.1 (by omega)
  rw [List.append_nil] at hsplit hpool'
  have hsave' : pool'.save fuel {} = some src := by
    have hfuel' : (rest ++ taken).length ≤ fuel := by
      have := congrArg List.length hsplit
      rw [List.length_append] at this ⊢
      omega
    rw [save_eq hpool'.linked hpool'.head_eq hpool'.isList.linked hpool'.isList.head_eq hfuel',
      htaken, hrest]
  have hwell : pool'.WellFormed entries ↔ taken = [] ∨ rest = [] := by
    constructor
    · rintro ⟨inactive', active', hinactive', -⟩
      cases rest with
      | nil => exact .inr rfl
      | cons i rest =>
        -- the first inactive entry is the one behind the last that has been taken
        have hprev : pool'.prev i = none := hinactive'.prev_head hpool'.head_eq
        have hlast : pool'.prev i = taken.getLast? := hpool'.linked.1
        rw [hprev] at hlast
        exact .inl (List.getLast?_eq_none_iff.1 hlast.symm)
    · intro hempty
      refine ⟨rest, taken, ⟨hpool'.head_eq, hpool'.tail_eq, ?_⟩, hpool'.isList, hpool'.nodup, ?_⟩
      · rcases hempty with rfl | rfl
        · exact hpool'.linked
        · exact linked_nil
      · exact (List.perm_append_comm.trans (.of_eq hsplit)).trans hperm
  have hactive' : src.active = [] ↔ taken = [] := by rw [← htaken, List.map_eq_nil_iff]
  have hinactive' : src.inactive = [] ↔ rest = [] := by rw [← hrest, List.map_eq_nil_iff]
  rw [hactive', hinactive', ← hwell]
  constructor
  · rintro ⟨pool'', hload', -, hwell'⟩
    obtain rfl := Option.some.inj (hload.symm.trans hload')
    exact hwell'
  · exact fun hwell' => ⟨pool', hload, hsave', hwell'⟩

/-- A pool of two entries, with the ends of its lists and their links. -/
def pair (inactiveHead inactiveTail activeHead activeTail : Option Bool)
    (links : Bool → Option Bool × Option Bool) : SoundObjectPool 4 Bool where
  inactiveHead := inactiveHead
  inactiveTail := inactiveTail
  activeHead := activeHead
  activeTail := activeTail
  entries i := ⟨⟨if i then 2 else 1, 0, .replicate 4 0⟩, (links i).1, (links i).2⟩

/-- `false` before `true`. -/
def inOrder (i : Bool) : Option Bool × Option Bool :=
  if i then (some false, none) else (none, some true)

/-- Both entries are active in a memento. -/
theorem loadsWell_iff_both_active :
    (pair (some false) (some true) none none inOrder).LoadsWell 2 [false, true]
      ⟨[], [⟨1, 0, .replicate 4 0⟩, ⟨2, 0, .replicate 4 0⟩]⟩ := by
  have hinactive : (pair (some false) (some true) none none inOrder).WellFormed [false, true] :=
    ⟨[false, true], [], ⟨rfl, rfl, rfl, rfl, rfl, rfl, trivial⟩, ⟨rfl, rfl, trivial⟩, by decide,
      .refl _⟩
  have hactive : (pair none none (some false) (some true) inOrder).WellFormed [false, true] :=
    ⟨[], [false, true], ⟨rfl, rfl, trivial⟩, ⟨rfl, rfl, rfl, rfl, rfl, rfl, trivial⟩, by decide,
      .refl _⟩
  have hsave : (pair none none (some false) (some true) inOrder).save 2 {} =
      some ⟨[], [⟨1, 0, .replicate 4 0⟩, ⟨2, 0, .replicate 4 0⟩]⟩ := by decide
  exact (loadsWell_iff hinactive hactive rfl hsave (Nat.le_refl 2)).2 (.inr rfl)

/-- One entry is active and one is not, in a pool and in its own memento: the predecessor of the
entry that stays inactive is then the active one. -/
theorem not_loadsWell_one_active :
    (pair (some false) (some false) (some true) (some true) fun _ => (none, none)).WellFormed
        [false, true] ∧
      (pair (some false) (some false) (some true) (some true) fun _ => (none, none)).save 2 {} =
        some ⟨[⟨1, 0, .replicate 4 0⟩], [⟨2, 0, .replicate 4 0⟩]⟩ ∧
      ¬ (pair (some false) (some false) (some true) (some true) fun _ => (none, none)).LoadsWell 2
        [false, true] ⟨[⟨1, 0, .replicate 4 0⟩], [⟨2, 0, .replicate 4 0⟩]⟩ := by
  refine ⟨⟨[false], [true], ⟨rfl, rfl, rfl, rfl, trivial⟩, ⟨rfl, rfl, rfl, rfl, trivial⟩, by decide,
    .refl _⟩, by decide, ?_⟩
  rintro ⟨pool', hload, -, inactive', -, hinactive', -⟩
  obtain rfl := Option.some.inj hload
  have hprev := hinactive'.prev_head rfl
  exact absurd hprev (by decide)

/-! ## The lists of a pool -/

/-- The lists of a pool of adapters. -/
def lists (pool : SoundObjectPool 4 ι) (inactive active : List ι) : Rollback.SoundObjectPool :=
  SaveState.toLists ⟨inactive.map pool.state, active.map pool.state⟩

/-- **Refinement.** A load that finds enough entries does to the lists of a pool what the loading
of lists does. -/
theorem load_refines {pool : SoundObjectPool 4 ι} {src : SaveState 4} {inactive active : List ι}
    (hinactive : IsList pool.prev pool.next pool.inactiveHead pool.inactiveTail inactive)
    (hactive : IsList pool.prev pool.next pool.activeHead pool.activeTail active)
    (hnodup : (inactive ++ active).Nodup) (hfuel : active.length ≤ fuel)
    (hsize : src.active.length + src.inactive.length ≤ (inactive ++ active).length) :
    ∃ pool' inactive' active', pool.load fuel src = some pool' ∧
      Activating pool' inactive' active' ∧
      (pool.lists inactive active).load src.toLists = some (pool'.lists inactive' active') := by
  obtain ⟨taken, written, rest, pool', hsplit, hload, hpool', htaken, hwritten, hrest⟩ :=
    load_spec hinactive hactive hnodup hfuel hsize
  refine ⟨pool', written ++ rest, taken, hload, hpool', ?_⟩
  have hall : (pool.lists inactive active).inactive ++ (pool.lists inactive active).active =
      (taken ++ (written ++ rest)).map fun i => (pool.state i).toPoolEntry := by
    rw [hsplit, List.map_append]
    simp only [lists, SaveState.toLists, List.map_map]
    rfl
  have hlen : src.toLists.active.length = taken.length := by
    rw [← List.length_map pool'.state, htaken]
    exact List.length_map _
  have hlen' : src.toLists.inactive.length = written.length := by
    rw [← List.length_map pool'.state, hwritten]
    exact List.length_map _
  rw [Rollback.SoundObjectPool.load, hall, List.map_append, List.map_append,
    Rollback.SoundObjectPool.overwrite_eq_some (by simp [hlen]), List.drop_left' (by simp [hlen])]
  simp only
  rw [Rollback.SoundObjectPool.overwrite_eq_some (by simp [hlen']),
    List.drop_left' (by simp [hlen'])]
  simp only [lists, SaveState.toLists, List.map_append, hwritten, htaken, hrest, List.map_map]
  rfl

end

end SoundObjectPool

end Platform
end Sf4e
