/-
# Reconciling the sounds of a stub

What the last part of `SyncState` does: the sounds of the stub are served, one after the other, by
the adapters of the real manager (`Reuse`), as long as there is a free adapter for each sound that
has to be played.  When each sound of the stub is played as often by the real manager, or one time
less, there always is one, and the sounds agree afterwards; otherwise they do not, unless a sound
has been stopped to make room for another.
-/
import Sf4e.Rollback.SoundSync

namespace Sf4e
namespace Rollback

open Trace

variable {E P : Type} {n : ℕ}

/-! ## Reconciling -/

section

variable {eng} {stub : PlayerManager E P n} {m : PlayerManager E P n} {st st' : Reconciling E P n}
  {frame : Int32} {i : Fin n} {k : PlayArgs}

open PlayerManager

/-- A sound is played on a free adapter. -/
lemma playSound_of_free (hfree : eng.FreeFirst) (hroom : ∃ j, (m.sound j).bLive = false)
    (frame : Int32) (args : PlayArgs) :
    ∃ (j : Fin n) (out : UInt32) (m' : PlayerManager E P n) (stops : List DeferredSoundRequest),
      m.playSound eng frame args = (out, m', stops) ∧ out ≠ failed ∧ handleIndex out = j ∧
      (m.sound j).bLive = false ∧
      m'.sound = Function.update m.sound j ⟨true, frame, out, args.cueSheetHandle, args.cueIdx,
        args.type, args.flags, args.position⟩ ∧
      m'.calls = .play args :: m.calls := by
  obtain ⟨hne, j, hindex, hj⟩ := hfree m.engine m.sound args hroom
  have hindex' : handleIndex (m.enginePlay eng args).1 = j := hindex
  have hlt : handleIndex (m.enginePlay eng args).1 < n := hindex' ▸ j.isLt
  have hfin : (⟨handleIndex (m.enginePlay eng args).1, hlt⟩ : Fin n) = j := Fin.ext hindex'
  refine ⟨j, (m.enginePlay eng args).1,
    (m.enginePlay eng args).2.setSound j ⟨true, frame, _, args.cueSheetHandle, args.cueIdx,
      args.type, args.flags, args.position⟩, [], ?_, hne, hindex, hj, sound_setSound _, rfl⟩
  have hover : m.playOver eng args =
      ((m.enginePlay eng args).1, (m.enginePlay eng args).2, []) := if_neg hne
  have hj' : ((m.enginePlay eng args).2.sound j).bLive = false := hj
  rw [playSound, hover]
  refine (if_neg hne).trans ((dif_pos hlt).trans ?_)
  simp only [hfin, hj']
  rfl

/-- What becomes of a sound of the stub. -/
inductive Reconciled (st : Reconciling E P n) (i : Fin n) (k : PlayArgs) :
    Reconciling E P n → Prop
  | claim {st' : Reconciling E P n} {j : Fin n} (hj : st.real.plays j = some k)
      (hnot : j ∉ st.claimedAdapters) (htargets : st'.targets = (i, j) :: st.targets)
      (hclaimed : st'.claimedAdapters = insert j st.claimedAdapters)
      (hplays : st'.real.plays = st.real.plays) (hcalls : st'.real.calls = st.real.calls)
      (hhandles : ∀ j, (st'.real.sound j).currentAdapterHandle =
        (st.real.sound j).currentAdapterHandle) : Reconciled st i k st'
  | start {st' : Reconciling E P n} {j : Fin n} (hj : st.real.plays j = none)
      (hnone : ∀ j, st.real.plays j = some k → j ∈ st.claimedAdapters)
      (htargets : st'.targets = (i, j) :: st.targets)
      (hclaimed : st'.claimedAdapters = st.claimedAdapters)
      (hplays : st'.real.plays = Function.update st.real.plays j (some k))
      (hcalls : st'.real.calls = .play k :: st.real.calls)
      (hhandles : ∀ j' ≠ j, (st'.real.sound j').currentAdapterHandle =
        (st.real.sound j').currentAdapterHandle)
      (hhandle : handleIndex (st'.real.sound j).currentAdapterHandle = j) : Reconciled st i k st'

lemma target?_eq_none_iff {s : DeferredSoundRequest} :
    st.target? s = none ↔ ∀ j, st.real.plays j = some s.args → j ∈ st.claimedAdapters := by
  rw [Reconciling.target?, firstAdapter_eq_none_iff]
  refine forall_congr' fun j => ?_
  have hequal : (st.real.sound j).args = s.args ↔ s.isEqual (st.real.sound j) = true := by
    rw [DeferredSoundRequest.isEqual_iff]
    exact eq_comm
  rw [plays_eq_some_iff, hequal]
  by_cases hlive : (st.real.sound j).bLive = true <;>
    by_cases heq : s.isEqual (st.real.sound j) = true <;> simp [hlive, heq]

lemma of_target? {s : DeferredSoundRequest} {j : Fin n} (h : st.target? s = some j) :
    st.real.plays j = some s.args ∧ j ∉ st.claimedAdapters := by
  have hj := of_firstAdapter h
  rw [Bool.and_eq_true, Bool.and_eq_true, DeferredSoundRequest.isEqual_iff] at hj
  exact ⟨plays_eq_some_iff.2 ⟨hj.1.1, hj.1.2.symm⟩, by simpa using hj.2⟩

lemma sound_mirror (i j j' : Fin n) :
    (st.mirror stub i j).real.sound j' =
      if j' = j then { st.real.sound j with nFrame := (stub.sound i).nFrame }
      else st.real.sound j' := by
  by_cases hj : j' = j
  · subst hj
    simp [Reconciling.mirror, sound]
  · simp [Reconciling.mirror, sound, hj]

lemma plays_mirror (i j : Fin n) : (st.mirror stub i j).real.plays = st.real.plays := by
  funext j'
  rw [plays, plays, sound_mirror]
  by_cases hj : j' = j
  · subst hj
    rw [if_pos rfl]
    rfl
  · rw [if_neg hj]

lemma handle_mirror (i j j' : Fin n) :
    ((st.mirror stub i j).real.sound j').currentAdapterHandle =
      (st.real.sound j').currentAdapterHandle := by
  rw [sound_mirror]
  split
  · rename_i hj
    rw [hj]
  · rfl

/-- A sound of the stub, when there is an adapter for it. -/
lemma reconciled_of_room (hfree : eng.FreeFirst) (hlive : (stub.sound i).bLive = true)
    (hroom : st.target? (stub.sound i) = none → ∃ j, (st.real.sound j).bLive = false) :
    Reconciled st i (stub.sound i).args (st.reconcile eng stub frame i) := by
  rw [Reconciling.reconcile, if_neg (by simp [hlive])]
  cases htarget : st.target? (stub.sound i) with
  | some j =>
    obtain ⟨hj, hnot⟩ := of_target? htarget
    exact .claim hj hnot rfl rfl (plays_mirror i j) rfl fun j' => handle_mirror i j j'
  | none =>
    obtain ⟨j, out, real, stops, hplay, hne, hindex, hj, hsound, hcalls⟩ :=
      playSound_of_free hfree (hroom htarget) frame (stub.sound i).args
    have hlt : handleIndex out < n := hindex ▸ j.isLt
    have hfin : (⟨handleIndex out, hlt⟩ : Fin n) = j := Fin.ext hindex
    simp only [hplay, if_neg hne, dif_pos hlt, hfin]
    refine .start (plays_eq_none_iff.2 hj) (target?_eq_none_iff.1 htarget) rfl rfl ?_ hcalls ?_ ?_
    · rw [plays_mirror]
      funext j'
      by_cases hj' : j' = j
      · subst hj'
        rw [Function.update_self, plays_eq_some_iff, hsound, Function.update_self]
        exact ⟨rfl, rfl⟩
      · rw [Function.update_of_ne hj', plays, hsound, Function.update_of_ne hj']
        rfl
    · intro j' hj'
      rw [handle_mirror, hsound, Function.update_of_ne hj']
    · rw [handle_mirror, hsound, Function.update_self]
      exact hindex

end

namespace ShadowedManager

section

variable {eng} {m : ShadowedManager E P n} {frame : Int32} {d : ℕ}

open PlayerManager

/-- The adapters of the stub that are live, among the first ones. -/
def liveStubs (m : ShadowedManager E P n) (d : ℕ) : List (Fin n) :=
  ((List.finRange n).take d).filter fun i => (m.stub.sound i).bLive

/-- The sounds of the first adapters of the stub, the latest first. -/
def requests (m : ShadowedManager E P n) (d : ℕ) : List PlayArgs :=
  ((m.liveStubs d).map fun i => (m.stub.sound i).args).reverse

lemma take_succ (hd : d < n) :
    (List.finRange n).take (d + 1) = (List.finRange n).take d ++ [⟨d, hd⟩] := by
  rw [List.take_succ_eq_append_getElem (by simpa using hd), List.getElem_finRange]
  rfl

lemma reconciled_succ (hd : d < n) :
    m.reconciled eng frame (d + 1) =
      (m.reconciled eng frame d).reconcile eng m.stub frame ⟨d, hd⟩ := by
  rw [reconciled, take_succ hd, List.foldl_append]
  rfl

lemma liveStubs_succ (hd : d < n) :
    m.liveStubs (d + 1) =
      if (m.stub.sound ⟨d, hd⟩).bLive then m.liveStubs d ++ [⟨d, hd⟩] else m.liveStubs d := by
  rw [liveStubs, take_succ hd, List.filter_append, List.filter_singleton]
  cases (m.stub.sound ⟨d, hd⟩).bLive with
  | true => rfl
  | false => exact List.append_nil _

lemma requests_succ_of_live (hd : d < n) (hlive : (m.stub.sound ⟨d, hd⟩).bLive = true) :
    m.requests (d + 1) = (m.stub.sound ⟨d, hd⟩).args :: m.requests d := by
  rw [requests, liveStubs_succ hd, if_pos hlive, List.map_append, List.reverse_append]
  rfl

lemma requests_succ_of_dead (hd : d < n) (hdead : (m.stub.sound ⟨d, hd⟩).bLive = false) :
    m.requests (d + 1) = m.requests d := by
  rw [requests, liveStubs_succ hd, if_neg (by simp [hdead])]
  rfl

/-- All sounds of the stub. -/
lemma count_requests (k : PlayArgs) : (m.requests n).count k = Reuse.copies m.stub.plays k := by
  have hall : (List.finRange n).take n = List.finRange n :=
    List.take_of_length_le (List.length_finRange).le
  have hfilter : ((m.liveStubs n).filter fun i => (m.stub.sound i).args == k) =
      (List.finRange n).filter fun i => decide (m.stub.plays i = some k) := by
    rw [liveStubs, hall, List.filter_filter]
    refine List.filter_congr fun i _ => ?_
    rw [Bool.eq_iff_iff, Bool.and_eq_true, beq_iff_eq, decide_eq_true_eq, plays_eq_some_iff,
      and_comm]
  rw [requests, List.count_reverse, List.count_eq_countP, List.countP_map,
    List.countP_eq_length_filter]
  exact congrArg List.length hfilter

/-- The requests that are still to come are among all. -/
lemma exists_requests_append (hd : d ≤ n) : ∃ rest, m.requests n = rest ++ m.requests d := by
  have hsplit := List.take_append_drop d ((List.finRange n).take n)
  rw [List.take_take, Nat.min_eq_left hd] at hsplit
  refine ⟨((((List.finRange n).take n).drop d).filter fun i => (m.stub.sound i).bLive).map
    (fun i => (m.stub.sound i).args) |>.reverse, ?_⟩
  rw [requests, requests, liveStubs, liveStubs, ← List.reverse_append, ← List.map_append,
    ← List.filter_append, hsplit]

lemma length_requests_le : (m.requests n).length ≤ Fintype.card (Fin n) := by
  rw [requests, List.length_reverse, List.length_map, Fintype.card_fin]
  refine (List.length_filter_le _ _).trans ?_
  rw [List.length_take]
  exact Nat.min_le_left _ _

/-- There is an adapter for every sound of the first adapters of the stub that is to be played. -/
def Roomy (eng : SoundEngine E n) (frame : Int32) (m : ShadowedManager E P n) (d : ℕ) : Prop :=
  ∀ i : Fin n, i < d → (m.stub.sound i).bLive = true →
    (m.reconciled eng frame i).target? (m.stub.sound i) = none →
    ∃ j, ((m.reconciled eng frame i).real.sound j).bLive = false

lemma roomy_iff : m.Roomy eng frame n ↔ ¬ m.MakesRoom eng frame := by
  rw [Roomy, MakesRoom, not_exists]
  refine forall_congr' fun i => ?_
  constructor
  · rintro h ⟨hlive, hnone, hall⟩
    obtain ⟨j, hj⟩ := h i.isLt hlive hnone
    rw [hall j] at hj
    cases hj
  · intro h _ hlive hnone
    by_contra hall
    rw [not_exists] at hall
    exact h ⟨hlive, hnone, fun j => by simpa using hall j⟩

/-- What the reconciling of the first adapters has come to. -/
structure Progress (eng : SoundEngine E n) (frame : Int32) (m : ShadowedManager E P n) (d : ℕ) :
    Prop where
  serves : Reuse.Serves (m.pruned eng).plays (m.requests d)
    ⟨(m.reconciled eng frame d).real.plays, (m.reconciled eng frame d).claimedAdapters,
      (m.reconciled eng frame d).targets.map Prod.snd⟩
  mapped : (m.reconciled eng frame d).targets.reverse.map Prod.fst = m.liveStubs d
  handles : ∀ j, (m.pruned eng).plays j ≠ none →
    ((m.reconciled eng frame d).real.sound j).currentAdapterHandle =
      ((m.pruned eng).sound j).currentAdapterHandle
  calls : ∃ calls, (m.reconciled eng frame d).real.calls = calls ++ (m.pruned eng).calls ∧
    ∀ c ∈ calls, ∃ k, Wanted m.stub k ∧ c = .play k

lemma progress_zero : m.Progress eng frame 0 :=
  ⟨.nil, rfl, fun _ _ => rfl, [], rfl, by simp⟩

/-- **Step lemma.** -/
lemma Progress.succ (hfree : eng.FreeFirst) (h : m.Progress eng frame d) (hd : d < n)
    (hroom : (m.stub.sound ⟨d, hd⟩).bLive = true →
      (m.reconciled eng frame d).target? (m.stub.sound ⟨d, hd⟩) = none →
      ∃ j, ((m.reconciled eng frame d).real.sound j).bLive = false) :
    m.Progress eng frame (d + 1) := by
  obtain ⟨hserves, hmapped, hhandles, calls, hcalls, hwanted⟩ := h
  by_cases hlive : (m.stub.sound ⟨d, hd⟩).bLive = true
  · have hstub : m.stub.plays ⟨d, hd⟩ = some (m.stub.sound ⟨d, hd⟩).args :=
      plays_eq_some_iff.2 ⟨hlive, rfl⟩
    -- whether it is claimed or started, the sound has got a target
    have hmapped' : ∀ {j : Fin n} {st' : Reconciling E P n},
        st'.targets = (⟨d, hd⟩, j) :: (m.reconciled eng frame d).targets →
        st'.targets.reverse.map Prod.fst = m.liveStubs (d + 1) := by
      intro j st' htargets
      rw [liveStubs_succ hd, if_pos hlive, htargets, List.reverse_cons, List.map_append, hmapped]
      rfl
    have hstep : Reconciled (m.reconciled eng frame d) ⟨d, hd⟩ (m.stub.sound ⟨d, hd⟩).args
        (m.reconciled eng frame (d + 1)) := by
      rw [reconciled_succ hd]
      exact reconciled_of_room hfree hlive (hroom hlive)
    cases hstep with
    | claim hj hnot htargets hclaimed hplays hcalls' hhandles' =>
      refine ⟨?_, hmapped' htargets, fun j hj' => (hhandles' j).trans (hhandles j hj'), calls,
        hcalls'.trans hcalls, hwanted⟩
      rw [requests_succ_of_live hd hlive, hplays, hclaimed, htargets]
      exact .cons hserves (.claim hj hnot)
    | @start j hj hnone htargets hclaimed hplays hcalls' hhandles' hhandle =>
      refine ⟨?_, hmapped' htargets, fun j' hj' => ?_, .play (m.stub.sound ⟨d, hd⟩).args :: calls,
        ?_, ?_⟩
      · rw [requests_succ_of_live hd hlive, hplays, hclaimed, htargets]
        exact .cons hserves (.start hj hnone)
      · -- a sound that is kept was not stopped
        have hne : j' ≠ j := by
          rintro rfl
          obtain ⟨k, hk⟩ := Option.ne_none_iff_exists'.1 hj'
          have hkept : (m.reconciled eng frame d).real.plays j' = some k := hserves.kept hk
          rw [hj] at hkept
          cases hkept
        rw [hhandles' j' hne, hhandles j' hj']
      · rw [hcalls', hcalls]
        rfl
      · intro c hc
        rcases List.mem_cons.1 hc with rfl | hc
        · exact ⟨_, ⟨_, hstub⟩, rfl⟩
        · exact hwanted c hc
  · -- a stub that plays nothing is passed over
    have hdead : (m.stub.sound ⟨d, hd⟩).bLive = false := by simpa using hlive
    have hsame : m.reconciled eng frame (d + 1) = m.reconciled eng frame d := by
      rw [reconciled_succ hd, Reconciling.reconcile, if_pos hdead]
    have hstubs : m.liveStubs (d + 1) = m.liveStubs d := by
      rw [liveStubs_succ hd, if_neg hlive]
    refine ⟨?_, ?_, ?_, ?_⟩
    · rw [hsame, requests_succ_of_dead hd hdead]
      exact hserves
    · rw [hsame, hstubs]
      exact hmapped
    · rw [hsame]
      exact hhandles
    · rw [hsame]
      exact ⟨calls, hcalls, hwanted⟩

/-- **Run lemma.** -/
lemma Roomy.progress (hfree : eng.FreeFirst) (h : m.Roomy eng frame d) (hd : d ≤ n) :
    m.Progress eng frame d := by
  induction d with
  | zero => exact progress_zero
  | succ d ih =>
    have hprogress := ih (fun i hi => h i (Nat.lt_succ_of_lt hi)) (Nat.le_of_succ_le hd)
    exact hprogress.succ hfree hd (h ⟨d, hd⟩ (Nat.lt_succ_self d))

/-! ## The property -/

lemma copies_pruned_eq (hok : m.real.HandlesOk) (k : PlayArgs) :
    Reuse.copies (m.pruned eng).plays k = if Wanted m.stub k then m.left k else 0 := by
  have hstopped : (m.stopped eng).HandlesOk := (quiets_stopped hok m.queuedStops).handlesOk hok
  split
  · rename_i hk
    rw [pruned, copies_pruned hstopped hk, copies_eq_countP, stopped, occurrences_stopped hok, left]
  · rename_i hk
    exact copies_pruned_of_not hstopped hk

/-- What is asked for, against what there is, in terms of the condition. -/
lemma balanced_iff (eng : SoundEngine E n) (hok : m.real.HandlesOk) :
    m.Balanced ↔ ∀ k, Reuse.copies (m.pruned eng).plays k ≤ (m.requests n).count k ∧
      (m.requests n).count k ≤ Reuse.copies (m.pruned eng).plays k + 1 := by
  have hnone : ∀ k, ¬ Wanted m.stub k → Reuse.copies m.stub.plays k = 0 := by
    intro k hk
    rw [Reuse.copies, Finset.card_eq_zero, Finset.filter_eq_empty_iff]
    exact fun i _ hi => hk ⟨i, hi⟩
  constructor
  · intro h k
    rw [count_requests, copies_pruned_eq hok]
    by_cases hk : Wanted m.stub k
    · obtain ⟨i, hi⟩ := hk
      obtain ⟨hlive, rfl⟩ := plays_eq_some_iff.1 hi
      rw [if_pos ⟨i, hi⟩]
      exact h i hlive
    · rw [if_neg hk, hnone k hk]
      omega
  · intro h i hlive
    have hi := h (m.stub.sound i).args
    rw [count_requests, copies_pruned_eq hok,
      if_pos ⟨i, plays_eq_some_iff.2 ⟨hlive, rfl⟩⟩] at hi
    exact hi

lemma Progress.agree_iff (h : m.Progress eng frame n) (hok : m.real.HandlesOk) :
    (∀ k, Reuse.copies (m.syncState eng frame).real.plays k = Reuse.copies m.stub.plays k) ↔
      m.Balanced := by
  rw [balanced_iff eng hok]
  refine forall_congr' fun k => ?_
  rw [← count_requests]
  exact h.serves.copies_eq_count_iff k

/-- Under the condition there is always a free adapter. -/
lemma Balanced.roomy (h : m.Balanced) (hfree : eng.FreeFirst) (hok : m.real.HandlesOk)
    (hd : d ≤ n) : m.Roomy eng frame d := by
  induction d with
  | zero => exact fun i hi => absurd hi (Nat.not_lt_zero _)
  | succ d ih =>
    have hroomy := ih (Nat.le_of_succ_le hd)
    intro i hi hlive hnone
    rcases Nat.lt_succ_iff_lt_or_eq.1 hi with hlt | heq
    · exact hroomy i hlt hlive hnone
    · obtain rfl : i = ⟨d, hd⟩ := Fin.ext heq
      have hprogress := hroomy.progress hfree (Nat.le_of_succ_le hd)
      obtain ⟨rest, hrest⟩ := exists_requests_append hd (m := m)
      rw [requests_succ_of_live hd hlive] at hrest
      have hbal := (balanced_iff eng hok).1 h
      have hlen := length_requests_le (m := m)
      rw [hrest] at hlen
      simp only [hrest] at hbal
      obtain ⟨j, hj⟩ := hprogress.serves.exists_free hbal hlen (target?_eq_none_iff.1 hnone)
      exact ⟨j, plays_eq_none_iff.1 hj⟩

/-- Nothing is stopped when everything that plays is wanted. -/
lemma foldl_stopStale_eq {stub real : PlayerManager E P n}
    (h : ∀ j k, real.plays j = some k → Wanted stub k) (l : List (Fin n)) :
    l.foldl (stopStale eng stub) real = real := by
  induction l with
  | nil => rfl
  | cons i l ih =>
    have hone : stopStale eng stub real i = real := by
      rw [stopStale, if_neg]
      rw [Bool.and_eq_true, not_wanted_iff]
      rintro ⟨hlive, hnot⟩
      exact hnot (h i _ (plays_eq_some_iff.2 ⟨hlive, rfl⟩))
    rw [List.foldl_cons, hone, ih]

/-- When the sounds agree, a call asks the engine for nothing. -/
lemma calls_of_agree (hfree : eng.FreeFirst) (hqueue : m.queuedStops = [])
    (h : ∀ k, Reuse.copies m.real.plays k = Reuse.copies m.stub.plays k) :
    (m.syncState eng frame).real.calls = m.real.calls := by
  have hwanted : ∀ j k, m.real.plays j = some k → Wanted m.stub k := by
    intro j k hj
    have hpos : 0 < Reuse.copies m.stub.plays k := by
      rw [← h k]
      exact Finset.card_pos.2 ⟨j, Finset.mem_filter.2 ⟨Finset.mem_univ j, hj⟩⟩
    obtain ⟨i, hi⟩ := Finset.card_pos.1 hpos
    exact ⟨i, (Finset.mem_filter.1 hi).2⟩
  have hpruned : m.pruned eng = m.real := by
    rw [pruned, stopped, hqueue]
    exact foldl_stopStale_eq hwanted _
  -- every sound of the stub finds an adapter to claim
  have hclaims : ∀ d, d ≤ n → m.Progress eng frame d ∧
      (m.reconciled eng frame d).real.calls = m.real.calls := by
    intro d
    induction d with
    | zero => exact fun _ => ⟨progress_zero, congrArg PlayerManager.calls hpruned⟩
    | succ d ih =>
      intro hd
      obtain ⟨hprogress, hcalls⟩ := ih (Nat.le_of_succ_le hd)
      have hsome : (m.stub.sound ⟨d, hd⟩).bLive = true → ∃ j,
          (m.reconciled eng frame d).real.plays j = some (m.stub.sound ⟨d, hd⟩).args ∧
            j ∉ (m.reconciled eng frame d).claimedAdapters := by
        intro hlive
        refine hprogress.serves.exists_unclaimed ?_
        obtain ⟨rest, hrest⟩ := exists_requests_append hd (m := m)
        have hcount := count_requests (m := m) (m.stub.sound ⟨d, hd⟩).args
        rw [hrest, requests_succ_of_live hd hlive, List.count_append, List.count_cons_self]
          at hcount
        rw [hpruned, h]
        omega
      refine ⟨hprogress.succ hfree hd fun hlive hnone => ?_, ?_⟩
      · obtain ⟨j, hj, hnot⟩ := hsome hlive
        exact absurd (target?_eq_none_iff.1 hnone j hj) hnot
      · rw [reconciled_succ hd, Reconciling.reconcile]
        split
        · exact hcalls
        · rename_i hlive
          obtain ⟨j, hj, hnot⟩ := hsome (by simpa using hlive)
          cases htarget : (m.reconciled eng frame d).target? (m.stub.sound ⟨d, hd⟩) with
          | none => exact absurd (target?_eq_none_iff.1 htarget j hj) hnot
          | some j => exact hcalls
  exact (hclaims n (Nat.le_refl n)).2

lemma liveStubs_self :
    m.liveStubs n = (List.finRange n).filter fun i => (m.stub.sound i).bLive := by
  rw [liveStubs, List.take_of_length_le (List.length_finRange).le]

/-- Every sound of the stub has an adapter that plays it. -/
lemma Progress.same (h : m.Progress eng frame n) :
    ∀ p ∈ (m.reconciled eng frame n).targets,
      (m.syncState eng frame).real.plays p.2 = some (m.stub.sound p.1).args := by
  have hrequests : m.requests n =
      (m.reconciled eng frame n).targets.map fun p => (m.stub.sound p.1).args := by
    rw [requests, ← h.mapped, List.map_map, ← List.map_reverse, List.reverse_reverse]
    rfl
  have htargets := h.serves.targets_spec
  rw [hrequests] at htargets
  exact List.forall₂_same.1 (List.forall₂_map_left_iff.1 (List.forall₂_map_right_iff.1 htargets))

/-- No sound is started again. -/
lemma Progress.unbroken (h : m.Progress eng frame n) (hok : m.real.HandlesOk) :
    ∃ calls, (m.syncState eng frame).real.calls = calls ++ m.real.calls ∧
      ∀ j, (m.real.sound j).bLive = true →
        (m.real.sound j).occurrence ∉ m.queuedStops.map DeferredSoundRequest.occurrence →
        ((m.syncState eng frame).real.plays j = some (m.real.sound j).args ∧
            ((m.syncState eng frame).real.sound j).currentAdapterHandle =
              (m.real.sound j).currentAdapterHandle) ∨
          .play (m.real.sound j).args ∉ calls := by
  have hquiets : m.real.Quiets (m.stopped eng) := quiets_stopped hok m.queuedStops
  have hok' := hquiets.handlesOk hok
  have hpruned : (m.stopped eng).Quiets (m.pruned eng) := quiets_pruned hok' _
  obtain ⟨stops, hstops, hstop⟩ := (hquiets.trans hpruned).calls
  obtain ⟨plays, hplays, hplay⟩ := h.calls
  refine ⟨plays ++ stops, ?_, fun j hlive hnot => ?_⟩
  · show (m.reconciled eng frame n).real.calls = _
    rw [hplays, hstops, List.append_assoc]
  · have hstopped : (m.stopped eng).sound j = m.real.sound j := sound_stopped hok hlive hnot
    by_cases hwanted : Wanted m.stub (m.real.sound j).args
    · have hsome : (m.pruned eng).plays j = some (m.real.sound j).args := by
        rw [pruned, plays_pruned hok', plays_eq_some_iff, hstopped]
        exact ⟨⟨hlive, rfl⟩, fun _ => hwanted⟩
      have hhandle : ((m.pruned eng).sound j).currentAdapterHandle =
          (m.real.sound j).currentAdapterHandle := by
        rcases hpruned.sound j with hj | hj <;> rw [hj, hstopped]
      refine .inl ⟨h.serves.kept hsome, ?_⟩
      exact (h.handles j (by simp [hsome])).trans hhandle
    · refine .inr fun hmem => ?_
      rcases List.mem_append.1 hmem with hmem | hmem
      · obtain ⟨k, hk, heq⟩ := hplay _ hmem
        exact hwanted ((SoundCall.play.inj heq) ▸ hk)
      · obtain ⟨handle, heq⟩ := hstop _ hmem
        cases heq

/-- A call brings the real manager into line without making room for a sound exactly under the
condition. -/
lemma syncWorks_iff_of_handlesOk (hfree : eng.FreeFirst) (hok : m.real.HandlesOk) :
    m.SyncWorks eng frame ∧ ¬ m.MakesRoom eng frame ↔ m.Balanced := by
  constructor
  · rintro ⟨hworks, hroom⟩
    have hprogress := (roomy_iff.2 hroom).progress hfree (Nat.le_refl n)
    exact (hprogress.agree_iff hok).1 hworks.agree
  · intro hbalanced
    have hroomy : m.Roomy eng frame n := hbalanced.roomy hfree hok (Nat.le_refl n)
    have hprogress := hroomy.progress hfree (Nat.le_refl n)
    have hagree := (hprogress.agree_iff hok).2 hbalanced
    refine ⟨⟨?_, ?_, hprogress.same, hagree, hprogress.unbroken hok, fun frame' => ?_⟩,
      roomy_iff.1 hroomy⟩
    · rw [hprogress.mapped, liveStubs_self]
    · refine (hprogress.serves.nodup_targets fun k => ?_).1
      exact ((balanced_iff eng hok).1 hbalanced k).2
    · exact calls_of_agree hfree rfl hagree

end

end ShadowedManager

/-! ## Every state reached -/

section

variable {eng} {m : PlayerManager E P n} {st : Reconciling E P n} {stub : PlayerManager E P n}

namespace PlayerManager

lemma HandlesOk.setSound (h : m.HandlesOk) {j : Fin n} {s : DeferredSoundRequest}
    (hs : s.bLive = true → handleIndex s.currentAdapterHandle = j) :
    (m.setSound j s).HandlesOk := by
  intro i hi
  rw [sound_setSound] at hi ⊢
  by_cases hij : i = j
  · subst hij
    rw [Function.update_self] at hi ⊢
    exact hs hi
  · rw [Function.update_of_ne hij] at hi ⊢
    exact h i hi

lemma HandlesOk.stopSound (h : m.HandlesOk) (handle : UInt32) :
    (m.stopSound eng handle).1.HandlesOk := by
  by_cases hlt : handleIndex handle < n
  · have hset : (m.stopSound eng handle).1.sound =
        (m.setSound ⟨_, hlt⟩ { m.sound ⟨_, hlt⟩ with bLive := false }).sound := by
      rw [PlayerManager.stopSound, dif_pos hlt]
      rfl
    intro j hj
    rw [hset] at hj ⊢
    exact h.setSound (by simp) j hj
  · have hset : (m.stopSound eng handle).1.sound = m.sound := by
      rw [PlayerManager.stopSound, dif_neg hlt]
      rfl
    intro j hj
    rw [hset] at hj ⊢
    exact h j hj

lemma HandlesOk.playOver (h : m.HandlesOk) (args : PlayArgs) :
    (m.playOver eng args).2.1.HandlesOk := by
  rw [PlayerManager.playOver]
  dsimp only
  split
  · split
    · exact h
    · rename_i oldestReq _
      have hplayed : (m.enginePlay eng args).2.HandlesOk := h
      have hstopped : ((m.enginePlay eng args).2.stopSound eng
          oldestReq.currentAdapterHandle).1.HandlesOk := hplayed.stopSound _
      exact hstopped
  · exact h

lemma HandlesOk.playSound (h : m.HandlesOk) (frame : Int32) (args : PlayArgs) :
    (m.playSound eng frame args).2.1.HandlesOk := by
  rw [PlayerManager.playSound]
  dsimp only
  split
  · exact h.playOver args
  · split
    · exact (h.playOver args).setSound fun _ => rfl
    · exact h.playOver args

end PlayerManager

open PlayerManager

lemma handlesOk_mirror (h : st.real.HandlesOk) (i j : Fin n) :
    (st.mirror stub i j).real.HandlesOk := by
  intro j' hj'
  rw [handle_mirror]
  refine h j' ?_
  rw [sound_mirror] at hj'
  split at hj'
  · rename_i heq
    rw [heq]
    exact hj'
  · exact hj'

lemma handlesOk_reconcile (h : st.real.HandlesOk) (frame : Int32) (i : Fin n) :
    (st.reconcile eng stub frame i).real.HandlesOk := by
  rw [Reconciling.reconcile]
  split
  · exact h
  · split
    · exact handlesOk_mirror h i _
    · have hplayed : (st.real.playSound eng frame (stub.sound i).args).2.1.HandlesOk :=
        h.playSound frame _
      dsimp only
      split
      · exact hplayed
      · split
        · exact handlesOk_mirror hplayed i _
        · exact hplayed

lemma handlesOk_syncState {m : ShadowedManager E P n} (h : m.real.HandlesOk) (frame : Int32) :
    (m.syncState eng frame).real.HandlesOk := by
  have hpruned : (m.pruned eng).HandlesOk := by
    have hstopped : (m.stopped eng).HandlesOk := (quiets_stopped h m.queuedStops).handlesOk h
    exact (quiets_pruned hstopped _).handlesOk hstopped
  have hall : ∀ (l : List (Fin n)) (st : Reconciling E P n), st.real.HandlesOk →
      (l.foldl (Reconciling.reconcile eng m.stub frame) st).real.HandlesOk := by
    intro l
    induction l with
    | nil => exact fun _ hst => hst
    | cons i l ih => exact fun st hst => ih _ (handlesOk_reconcile hst frame i)
  exact hall _ _ hpruned

/-- The handles of the real manager are right in every state reached. -/
lemma handlesOk_of_run {log : List (Entry (ShadowedManager E P n) (SoundAction P n) Unit)}
    {m : ShadowedManager E P n} (h : (soundLTS eng).Run log m) : m.real.HandlesOk := by
  refine h.invariant_of_step (fun _ m => m.real.HandlesOk) ?_ ?_
  · rintro m ⟨-, hdead⟩ j hj
    rw [(hdead j).2] at hj
    cases hj
  · rintro log ⟨pre, act, out, post⟩ hok hstep
    have hnext : pre.next eng act = some (out, post) := hstep
    have hok' : pre.real.HandlesOk := hok
    show post.real.HandlesOk
    cases act with
    | sync frame =>
      obtain ⟨-, rfl⟩ := Prod.mk.inj (Option.some.inj hnext)
      exact handlesOk_syncState hok' frame
    | play | stop | stopAll | restore | adjust =>
      obtain ⟨-, rfl⟩ := Prod.mk.inj (Option.some.inj hnext)
      exact hok'

/-- **Sounds after a rollback.** In every state that is reached, a call of `SyncState` gives every
sound of the stub a real adapter of its own, leaves the real manager with exactly the sounds of the
stub, starts none again that is playing and leaves nothing to be done, without making room for one
sound by stopping another, if and only if each sound of the stub is played by as many real adapters
as stub adapters or by one less, the queued stops being taken off. -/
theorem syncWorks_iff (hfree : eng.FreeFirst)
    {log : List (Entry (ShadowedManager E P n) (SoundAction P n) Unit)}
    {m : ShadowedManager E P n} (h : (soundLTS eng).Run log m) (frame : Int32) :
    m.SyncWorks eng frame ∧ ¬ m.MakesRoom eng frame ↔ m.Balanced :=
  m.syncWorks_iff_of_handlesOk hfree (handlesOk_of_run h)

end

/-- An engine that plays a sound on the first free adapter. -/
def firstFree : SoundEngine Unit 2 where
  playSound _ sounds _ :=
    (match firstAdapter fun j => !(sounds j).bLive with
      | none => failed
      | some j => if j.val = 0 then 0 else 0x10000, ())
  stopSound _ _ := ()
  update _ := ()

lemma firstFree_freeFirst : firstFree.FreeFirst := by
  rintro e sounds args ⟨i, hi⟩
  cases hfirst : firstAdapter fun j => !(sounds j).bLive with
  | none =>
    have hnot := firstAdapter_eq_none_iff.1 hfirst i
    simp [hi] at hnot
  | some j =>
    have hj : (sounds j).bLive = false := by simpa using of_firstAdapter hfirst
    have hplay : (firstFree.playSound e sounds args).1 = if j.val = 0 then 0 else 0x10000 := by
      simp only [firstFree, hfirst]
    have hhandle : ∀ j : Fin 2, (if j.val = 0 then 0 else 0x10000 : UInt32) ≠ failed ∧
        handleIndex (if j.val = 0 then 0 else 0x10000) = j := by decide
    rw [hplay]
    exact ⟨(hhandle j).1, j, (hhandle j).2, hj⟩

/-- A stub and its real manager with two adapters each, at their creation. -/
def twoAdapters : ShadowedManager Unit Unit 2 := ⟨⟨fun _ => ⟨{}, ()⟩, (), []⟩,
  ⟨fun _ => ⟨{}, ()⟩, (), []⟩, []⟩

/-- A sound. -/
def aCue (cueIdx : UInt32) : PlayArgs := ⟨1, cueIdx, 0, 0, 0⟩

/-- A sound goes on, a second one has been stopped and another copy of it started. -/
theorem syncWorks_iff_retriggered :
    ∃ (log : List (Entry _ _ _)) (m : ShadowedManager Unit Unit 2),
      (soundLTS firstFree).Run log m ∧ m.queuedStops ≠ [] ∧
      m.SyncWorks firstFree 7 ∧ ¬ m.MakesRoom firstFree 7 := by
  obtain ⟨log, m, hpath, hqueue, hbalanced⟩ : ∃ log m,
      (soundLTS firstFree).Path twoAdapters log m ∧
      m.queuedStops ≠ [] ∧ m.Balanced :=
    LTS.exists_path_of_exec [.play (aCue 1) 1, .play (aCue 2) 2, .sync 2, .stop 0x10000,
      .play (aCue 2) 5] (by decide +kernel)
  have hrun : (soundLTS firstFree).Run log m := ⟨_, ⟨rfl, fun _ => ⟨rfl, rfl⟩⟩, hpath⟩
  exact ⟨log, m, hrun, hqueue, (syncWorks_iff firstFree_freeFirst hrun 7).2 hbalanced⟩

/-- Two copies of a sound that are to be played share an adapter; and when one of two copies is
gone after a rollback, both go on. -/
theorem not_syncWorks_two_copies :
    (∃ (log : List (Entry _ _ _)) (m : ShadowedManager Unit Unit 2),
        (soundLTS firstFree).Run log m ∧ ¬ m.SyncWorks firstFree 7) ∧
      ∃ (log : List (Entry _ _ _)) (m : ShadowedManager Unit Unit 2),
        (soundLTS firstFree).Run log m ∧ ¬ m.SyncWorks firstFree 7 ∧
        Reuse.copies m.stub.plays (aCue 1) = 1 ∧
        Reuse.copies (m.syncState firstFree 7).real.plays (aCue 1) = 2 := by
  constructor
  · obtain ⟨log, m, hpath, hcopies⟩ : ∃ log m,
      (soundLTS firstFree).Path twoAdapters log m ∧
        Reuse.copies (m.syncState firstFree 7).real.plays (aCue 1) ≠
          Reuse.copies m.stub.plays (aCue 1) :=
      LTS.exists_path_of_exec [.play (aCue 1) 1, .play (aCue 1) 2] (by decide +kernel)
    exact ⟨log, m, ⟨_, ⟨rfl, fun _ => ⟨rfl, rfl⟩⟩, hpath⟩, fun h => hcopies (h.agree _)⟩
  · obtain ⟨log, m, hpath, hone, htwo⟩ : ∃ log m,
      (soundLTS firstFree).Path twoAdapters log m ∧
        Reuse.copies m.stub.plays (aCue 1) = 1 ∧
        Reuse.copies (m.syncState firstFree 7).real.plays (aCue 1) = 2 :=
      LTS.exists_path_of_exec [.play (aCue 1) 1, .sync 1, .play (aCue 1) 2, .sync 2,
        .restore fun j => if j = 0 then ⟨true, 1, 0, 1, 1, 0, 0, 0⟩ else {}] (by decide +kernel)
    refine ⟨log, m, ⟨_, ⟨rfl, fun _ => ⟨rfl, rfl⟩⟩, hpath⟩, fun h => ?_, hone, htwo⟩
    have hagree := h.agree (aCue 1)
    rw [hone, htwo] at hagree
    cases hagree

end Rollback
end Sf4e
