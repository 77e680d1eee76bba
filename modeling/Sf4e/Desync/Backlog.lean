/-
# The hashes that wait

A hash that is received waits in a map of at most 64 entries, under its frame number, until the
local checkpoint of the frame is old enough.  Every receipt is accounted for: the hash waits,
or it has been compared, or it was taken out without a comparison (`balance_of_run`).

What takes a hash out without a comparison is another hash of the same frame, one more when 64
are waiting and its own frame number is the smallest, or a cleared table.  Without these it
waits for the first exchange at which the ring holds its frame, and is compared there, once
(`compared_once`).  A spectator may be far behind (`not_comparesAll_backlog`) and gets the
hashes of both players (`not_comparesAll_spectator`).
-/
import Sf4e.Desync.Checkpoints

namespace Sf4e
namespace Desync

open HashRing Trace Client

variable {I : Type}

/-! ## Accounting -/

/-- The hash that a step receives. -/
def Action.receivedHashes : Action I → List BattleHashV2
  | .receive (.hash m) => [m]
  | _ => []

/-- The remote hashes that a step compares. -/
def Out.compared (o : Out) : List BattleHashV2 := o.hashComparisons.map HashComparison.remote

/-- How many copies of a hash leave the map with a step. -/
def Out.settled (m : BattleHashV2) (o : Out) : ℕ := o.compared.count m + o.displaced.count m

/-- How many copies of a hash wait. -/
def Client.waiting (m : BattleHashV2) (c : Client I) : ℕ :=
  c.pendingRemoteHashes.entries.count m

@[simp] lemma settled_empty (m : BattleHashV2) : Out.settled m {} = 0 := rfl

@[simp] lemma settled_append (m : BattleHashV2) (o o' : Out) :
    (o.append o').settled m = o.settled m + o'.settled m := by
  simp only [Out.settled, Out.compared, Out.append, List.map_append, List.count_append]
  omega

lemma waiting_congr {c c' : Client I} (h : c'.pendingRemoteHashes = c.pendingRemoteHashes)
    (m : BattleHashV2) : c'.waiting m = c.waiting m := by rw [waiting, waiting, h]

lemma balance_exchangeHash (c : Client I) (poll : Poll) (f : ℤ) (i : Fin numHashCheckpoints)
    (m : BattleHashV2) :
    c.waiting m =
      (c.exchangeHash poll f i).2.waiting m + (c.exchangeHash poll f i).1.settled m := by
  by_cases hdue : c.Due f i
  · rw [exchangeHash_of_due poll hdue, settled_append]
    have hsend : (c.sendHash poll i).2.waiting m = c.waiting m ∧
        (c.sendHash poll i).1.settled m = 0 := by
      rcases sendHash_cases c poll i with h | ⟨-, h⟩
      · rw [h]
        exact ⟨rfl, rfl⟩
      · rw [h]
        exact ⟨rfl, rfl⟩
    rw [← hsend.1, hsend.2]
    rcases reconcileHash_cases (c.sendHash poll i).2 poll i with ⟨-, h⟩ | ⟨remote, _, hfind, h⟩
    · rw [h]
      simp
    · rw [h]
      have hcount := OrderedMap.count_erase (c.sendHash poll i).2.pendingRemoteHashes
        ((c.sendHash poll i).2.hashCheckpoints i).frameIdx m
      rw [hfind] at hcount
      simp only [Out.settled, Out.compared, waiting, List.map_cons, List.map_nil,
        Option.toList_some, List.count_nil] at hcount ⊢
      omega
  · rw [exchangeHash_of_not_due poll hdue]
    simp

lemma balance_exchangeHashes (c : Client I) (poll : Poll) (f : ℤ)
    (slots : List (Fin numHashCheckpoints)) (m : BattleHashV2) :
    c.waiting m =
      (c.exchangeHashes poll f slots).2.waiting m +
        (c.exchangeHashes poll f slots).1.settled m := by
  induction slots generalizing c with
  | nil => rfl
  | cons i slots ih =>
    have hfirst := balance_exchangeHash c poll f i m
    have hrest := ih (c.exchangeHash poll f i).2
    simp only [Client.exchangeHashes, settled_append]
    omega

lemma balance_pass (c : Client I) (poll : Poll) (m : BattleHashV2) :
    c.waiting m = (c.pass poll).2.waiting m + (c.pass poll).1.settled m := by
  cases h : poll.snapshotsEnabled with
  | false =>
    rw [pass_of_disabled c h]
    rfl
  | true =>
    rw [pass_of_enabled c h]
    generalize List.finRange numHashCheckpoints = slots
    have hrest := balance_exchangeHashes (c.exchangeSnapshots poll c.frameIdx).2 poll c.frameIdx
      slots m
    have hsnap : (c.exchangeSnapshots poll c.frameIdx).1.settled m = 0 := rfl
    simp only [settled_append, hsnap, Nat.zero_add]
    exact hrest

lemma balance_onHash (c : Client I) (remote m : BattleHashV2) :
    c.waiting m + [remote].count m =
      (c.onHash remote).2.waiting m + (c.onHash remote).1.settled m := by
  have hroom : c.pendingRemoteHashes.entries.count m =
      (makeRoom c.pendingRemoteHashes).1.count m +
        (makeRoom c.pendingRemoteHashes).2.entries.count m := by
    unfold makeRoom
    split
    · exact OrderedMap.count_eraseBegin c.pendingRemoteHashes m
    · simp
  have hinsert := (makeRoom c.pendingRemoteHashes).2.count_insert remote m
  simp only [onHash, waiting, Out.settled, Out.compared, List.map_nil, List.count_nil,
    List.count_append] at *
  omega

lemma pendingRemoteHashes_capture {c c' : Client I} (h : c.capture = some c') :
    c'.pendingRemoteHashes = c.pendingRemoteHashes := by
  rcases capture_eq h with ⟨-, rfl⟩ | ⟨frame, _, _, -, -, rfl⟩
  · rfl
  · obtain ⟨_, hm⟩ := captureSnapshot_eq c frame
    rw [hm]

/-- **Step lemma.** What waits and what is received either waits or leaves the map. -/
lemma balance_next {c c' : Client I} {act : Action I} {o : Out} (h : next c act = some (o, c'))
    (m : BattleHashV2) :
    c.waiting m + act.receivedHashes.count m = c'.waiting m + o.settled m := by
  cases act with
  | battleUpdate frame resim =>
    obtain ⟨c₁, hup, heq⟩ := Option.map_eq_some_iff.1 h
    obtain ⟨rfl, rfl⟩ := Prod.mk.inj heq
    have hsame := battleUpdate_preserves
      (p := fun x => x.pendingRemoteHashes = c.pendingRemoteHashes) (fun _ _ hx => hx)
      (fun _ _ hx => hx) (fun _ _ hcap hx => (pendingRemoteHashes_capture hcap).trans hx) hup rfl
    rw [waiting_congr hsame]
    rfl
  | idle resim =>
    obtain ⟨c₁, hroll, heq⟩ := Option.map_eq_some_iff.1 h
    obtain ⟨rfl, rfl⟩ := Prod.mk.inj heq
    have hsame := rollback_preserves
      (p := fun x => x.pendingRemoteHashes = c.pendingRemoteHashes) (fun _ _ hx => hx)
      (fun _ _ hx => hx) (fun _ _ hcap hx => (pendingRemoteHashes_capture hcap).trans hx)
      hroll rfl
    rw [waiting_congr hsame]
    rfl
  | receive msg =>
    have heq : c.onMessage msg = (o, c') := Option.some.inj h
    cases msg with
    | snapshot s =>
      have hsame : c'.pendingRemoteHashes = c.pendingRemoteHashes ∧ o.settled m = 0 := by
        simp only [onMessage, onSnapshot] at heq
        split at heq
        all_goals
          obtain ⟨rfl, rfl⟩ := Prod.mk.inj heq
          exact ⟨rfl, rfl⟩
      rw [waiting_congr hsame.1, hsame.2]
      rfl
    | hash remote =>
      have hbal := balance_onHash c remote m
      have heq' : c.onHash remote = (o, c') := heq
      rw [heq'] at hbal
      exact hbal
  | pass poll =>
    have heq : c.pass poll = (o, c') := Option.some.inj h
    have hbal := balance_pass c poll m
    rw [heq] at hbal
    exact hbal
  | clearBattleState | startMatch =>
    obtain ⟨rfl, rfl⟩ := Prod.mk.inj (Option.some.inj h)
    simp [waiting, Out.settled, Out.compared, Action.receivedHashes, clearBattleState,
      OrderedMap.empty]
  | engineUpdate | startBattle =>
    obtain ⟨rfl, rfl⟩ := Prod.mk.inj (Option.some.inj h)
    rfl

/-- The hashes received in the course of a log. -/
def receivedHashes (log : List (ClientEntry I)) : List BattleHashV2 :=
  log.flatMap fun e => e.act.receivedHashes

/-- The remote hashes compared in the course of a log. -/
def comparedHashes (log : List (ClientEntry I)) : List BattleHashV2 :=
  log.flatMap fun e => e.out.compared

/-- The remote hashes taken out without a comparison in the course of a log. -/
def displacedHashes (log : List (ClientEntry I)) : List BattleHashV2 :=
  log.flatMap fun e => e.out.displaced

/-- **Run lemma.** Every hash received waits, or has been compared, or was taken out. -/
theorem balance_of_run {c : Client I} {log : List (ClientEntry I)}
    (h : (clientLTS I).Run log c) (m : BattleHashV2) :
    (receivedHashes log).count m =
      c.waiting m + (comparedHashes log).count m + (displacedHashes log).count m := by
  refine h.invariant_of_step (fun log c => (receivedHashes log).count m =
    c.waiting m + (comparedHashes log).count m + (displacedHashes log).count m) ?_ ?_
  · rintro s ⟨k, rfl⟩
    rfl
  · rintro log ⟨pre, act, out, post⟩ hpre hstep
    have hbal := balance_next hstep m
    simp only [receivedHashes, comparedHashes, displacedHashes, List.flatMap_cons,
      List.count_append, Out.settled] at hpre hbal ⊢
    omega

/-! ## One exchange -/

/-- The comparisons with hashes of a frame. -/
def Out.comparisonsAt (f : ℤ) (o : Out) : List HashComparison :=
  o.hashComparisons.filter fun comparison => comparison.remote.frameIdx == f

@[simp] lemma comparisonsAt_append (f : ℤ) (o o' : Out) :
    (o.append o').comparisonsAt f = o.comparisonsAt f ++ o'.comparisonsAt f := by
  simp [Out.comparisonsAt, Out.append]

lemma sendHash_fields (c : Client I) (poll : Poll) (i : Fin numHashCheckpoints) :
    (c.sendHash poll i).2.pendingRemoteHashes = c.pendingRemoteHashes ∧
      ((c.sendHash poll i).2.hashCheckpoints i).frameIdx = (c.hashCheckpoints i).frameIdx ∧
      ((c.sendHash poll i).2.hashCheckpoints i).hashes = (c.hashCheckpoints i).hashes ∧
      (c.sendHash poll i).1.hashComparisons = [] := by
  rcases sendHash_cases c poll i with h | ⟨-, h⟩
  · rw [h]
    exact ⟨rfl, rfl, rfl, rfl⟩
  · rw [h]
    exact ⟨rfl, by simp, by simp, rfl⟩

/-- What the turn of a slot means for the hash that waits for its frame. -/
lemma exchangeHash_hashes {c : Client I} (poll : Poll) {f : ℤ} {i : Fin numHashCheckpoints}
    (hdue : c.Due f i) :
    (c.pendingRemoteHashes.find? (c.hashCheckpoints i).frameIdx = none ∧
        (c.exchangeHash poll f i).1.hashComparisons = [] ∧
        (c.exchangeHash poll f i).2.pendingRemoteHashes = c.pendingRemoteHashes) ∨
      ∃ comparison : HashComparison,
        c.pendingRemoteHashes.find? (c.hashCheckpoints i).frameIdx = some comparison.remote ∧
        comparison.checkpoint.hashes = (c.hashCheckpoints i).hashes ∧
        (c.exchangeHash poll f i).1.hashComparisons = [comparison] ∧
        (c.exchangeHash poll f i).2.pendingRemoteHashes =
          c.pendingRemoteHashes.erase (c.hashCheckpoints i).frameIdx := by
  obtain ⟨hpending, hframe, hhashes, hnone⟩ := sendHash_fields c poll i
  rw [exchangeHash_of_due poll hdue]
  rcases reconcileHash_cases (c.sendHash poll i).2 poll i with ⟨hfind, h⟩ | ⟨remote, _, hfind, h⟩
  · rw [hpending, hframe] at hfind
    rw [h]
    exact Or.inl ⟨hfind, by simp [Out.append, hnone], hpending⟩
  · rw [hpending, hframe] at hfind
    rw [h]
    refine Or.inr ⟨_, hfind, hhashes, by simp only [Out.append, hnone]; rfl, ?_⟩
    dsimp only
    rw [hpending, hframe]

/-- A slot that does not hold the frame leaves the hashes of the frame alone. -/
lemma exchangeHash_of_ne {c : Client I} {f k : ℤ} {i : Fin numHashCheckpoints} (poll : Poll)
    (h : c.Due f i → (c.hashCheckpoints i).frameIdx ≠ k) :
    (c.exchangeHash poll f i).1.comparisonsAt k = [] ∧
      ∀ m : BattleHashV2, m.frameIdx = k →
        m ∈ c.pendingRemoteHashes → m ∈ (c.exchangeHash poll f i).2.pendingRemoteHashes := by
  by_cases hdue : c.Due f i
  · have hne := h hdue
    rcases exchangeHash_hashes poll hdue with
      ⟨-, hnone, hsame⟩ | ⟨cmp, hfind, -, hone, hrest⟩
    · rw [Out.comparisonsAt, hnone, hsame]
      exact ⟨rfl, fun _ _ hm => hm⟩
    · obtain ⟨-, hkey⟩ := OrderedMap.find?_eq_some_iff.1 hfind
      rw [Out.comparisonsAt, hone, hrest]
      refine ⟨by simp [hkey, hne], fun m hmk hm => OrderedMap.mem_erase_iff.2 ⟨hm, ?_⟩⟩
      rw [hmk]
      exact hne.symm
  · rw [exchangeHash_of_not_due poll hdue]
    exact ⟨rfl, fun _ _ hm => hm⟩

/-- Without a hash of the frame there is no comparison of one. -/
lemma exchangeHashes_of_none {c : Client I} {f k : ℤ} (poll : Poll)
    (slots : List (Fin numHashCheckpoints))
    (h : ∀ m ∈ c.pendingRemoteHashes, m.frameIdx ≠ k) :
    (c.exchangeHashes poll f slots).1.comparisonsAt k = [] := by
  induction slots generalizing c with
  | nil => rfl
  | cons i slots ih =>
    have hfirst : (c.exchangeHash poll f i).1.comparisonsAt k = [] := by
      by_cases hdue : c.Due f i
      · rcases exchangeHash_hashes poll hdue with ⟨-, hnone, -⟩ | ⟨cmp, hfind, -, hone, -⟩
        · rw [Out.comparisonsAt, hnone]
          rfl
        · obtain ⟨hmem, -⟩ := OrderedMap.find?_eq_some_iff.1 hfind
          simp [Out.comparisonsAt, hone, h _ hmem]
      · rw [exchangeHash_of_not_due poll hdue]
        rfl
    have hrest := ih (c := (c.exchangeHash poll f i).2) fun m hm =>
      h m ((exchanged_exchangeHash c poll f i).hashes m hm)
    rw [Client.exchangeHashes, comparisonsAt_append, hfirst, hrest]
    rfl

/-- Slots that do not hold the frame leave the hashes of the frame alone. -/
lemma exchangeHashes_of_ne {c : Client I} {f k : ℤ} (poll : Poll)
    (slots : List (Fin numHashCheckpoints))
    (h : ∀ i ∈ slots, c.Due f i → (c.hashCheckpoints i).frameIdx ≠ k) :
    (c.exchangeHashes poll f slots).1.comparisonsAt k = [] ∧
      ∀ m : BattleHashV2, m.frameIdx = k →
        m ∈ c.pendingRemoteHashes → m ∈ (c.exchangeHashes poll f slots).2.pendingRemoteHashes := by
  induction slots generalizing c with
  | nil => exact ⟨rfl, fun _ _ hm => hm⟩
  | cons i slots ih =>
    obtain ⟨hnone, hkeep⟩ := exchangeHash_of_ne poll (h i List.mem_cons_self)
    have hring := (exchanged_exchangeHash c poll f i).ring
    obtain ⟨hnone', hkeep'⟩ := ih (c := (c.exchangeHash poll f i).2) (by
      intro j hj hdue
      obtain ⟨b, hb⟩ := hring j
      rw [Due, hb] at hdue
      rw [hb]
      exact h j (List.mem_cons_of_mem _ hj) hdue)
    refine ⟨?_, fun m hmk hm => hkeep' m hmk (hkeep m hmk hm)⟩
    rw [Client.exchangeHashes, comparisonsAt_append, hnone, hnone']
    rfl

/-- The hash that waits for a frame is compared when the slot of the frame has its turn, and
nothing waits for the frame then. -/
lemma exchangeHashes_of_mem {c : Client I} {f : ℤ} (poll : Poll) (hplaced : Placed c)
    {slots : List (Fin numHashCheckpoints)} {i : Fin numHashCheckpoints} (hi : i ∈ slots)
    (hdue : c.Due f i) {m : BattleHashV2} (hm : m ∈ c.pendingRemoteHashes)
    (hmi : m.frameIdx = (c.hashCheckpoints i).frameIdx) :
    (∃ comparison : HashComparison, comparison.remote = m ∧
        comparison.checkpoint.hashes = (c.hashCheckpoints i).hashes ∧
        (c.exchangeHashes poll f slots).1.comparisonsAt m.frameIdx = [comparison]) ∧
      ∀ m' ∈ (c.exchangeHashes poll f slots).2.pendingRemoteHashes,
        m'.frameIdx ≠ m.frameIdx := by
  induction slots generalizing c with
  | nil => exact absurd hi List.not_mem_nil
  | cons j slots ih =>
    have hex := exchanged_exchangeHash c poll f j
    rw [Client.exchangeHashes]
    by_cases hji : j = i
    · subst hji
      -- its turn: the hash is found and leaves the map
      have hfound : c.pendingRemoteHashes.find? (c.hashCheckpoints j).frameIdx = some m :=
        OrderedMap.find?_eq_some_iff.2 ⟨hm, hmi⟩
      rcases exchangeHash_hashes poll hdue with ⟨hnone, -⟩ | ⟨cmp, hsome, hh, hone, hrest⟩
      · rw [hfound] at hnone
        exact absurd hnone (by simp)
      · rw [hfound, Option.some.injEq] at hsome
        have hgone : ∀ m' ∈ (c.exchangeHash poll f j).2.pendingRemoteHashes,
            m'.frameIdx ≠ m.frameIdx := by
          intro m' hm'
          rw [hrest] at hm'
          rw [hmi]
          exact (OrderedMap.mem_erase_iff.1 hm').2
        refine ⟨⟨cmp, hsome.symm, hh, ?_⟩, fun m' hm' => ?_⟩
        · rw [comparisonsAt_append, exchangeHashes_of_none poll slots hgone, Out.comparisonsAt,
            hone, hsome]
          simp
        · exact hgone m' ((exchanged_exchangeHashes _ poll f slots).hashes m' hm')
    · -- another slot holds another frame, so the hash waits on
      have hother : c.Due f j → (c.hashCheckpoints j).frameIdx ≠ m.frameIdx := by
        intro hduej heq
        exact hji (hplaced.eq_of_frameIdx_eq hduej.1 hdue.1 (heq.trans hmi))
      obtain ⟨hnone, hkeep⟩ := exchangeHash_of_ne poll hother
      obtain ⟨b, hb⟩ := hex.ring i
      have hdue' : (c.exchangeHash poll f j).2.Due f i := by
        rw [Due, hb]
        exact hdue
      have hmi' : m.frameIdx = ((c.exchangeHash poll f j).2.hashCheckpoints i).frameIdx := by
        rw [hb]
        exact hmi
      obtain ⟨⟨cmp, hcm, hh, hone⟩, hgone⟩ := ih (hex.placed hplaced)
        (List.mem_of_ne_of_mem (Ne.symm hji) hi) hdue' (hkeep m rfl hm) hmi'
      rw [hb] at hh
      refine ⟨⟨cmp, hcm, hh, ?_⟩, hgone⟩
      rw [comparisonsAt_append, hnone, hone]
      rfl

/-! ## Waiting for the exchange -/

/-- The step exchanges what is old enough. -/
def Action.exchanges : Action I → Bool
  | .pass poll => poll.snapshotsEnabled
  | _ => false

/-- The step exchanges the checkpoint of the frame that the hash is about. -/
def Meets (m : BattleHashV2) (e : ClientEntry I) : Prop :=
  e.act.exchanges = true ∧
    ∃ i, e.pre.Due e.pre.frameIdx i ∧ (e.pre.hashCheckpoints i).frameIdx = m.frameIdx

instance (m : BattleHashV2) (e : ClientEntry I) : Decidable (Meets m e) :=
  inferInstanceAs (Decidable (_ ∧ ∃ _, _))

/-- The step takes the hash out without a comparison, if it waits: another hash of its frame is
received, or one for which it has to make room, or the tables are cleared. -/
def Action.Disturbs (m : BattleHashV2) (pending : PendingHashes) : Action I → Prop
  | .receive (.hash other) =>
    other.frameIdx = m.frameIdx ∨
      (maxPendingRemoteHashes ≤ pending.size ∧ pending.entries.head? = some m)
  | .clearBattleState => True
  | .startMatch _ => True
  | _ => False

instance (m : BattleHashV2) (pending : PendingHashes) :
    (act : Action I) → Decidable (act.Disturbs m pending)
  | .receive (.hash _) => inferInstanceAs (Decidable (_ ∨ (_ ∧ _)))
  | .clearBattleState | .startMatch _ => .isTrue trivial
  | .receive (.snapshot _) | .battleUpdate _ _ | .engineUpdate _ | .idle _ | .pass _
  | .startBattle => .isFalse id

/-- The step does not take the hash out without a comparison. -/
def Undisturbed (m : BattleHashV2) (e : ClientEntry I) : Prop :=
  ¬ e.act.Disturbs m e.pre.pendingRemoteHashes

instance (m : BattleHashV2) (e : ClientEntry I) : Decidable (Undisturbed m e) :=
  inferInstanceAs (Decidable (¬ _))

lemma pass_of_due {c : Client I} {poll : Poll} (hen : poll.snapshotsEnabled = true)
    (hplaced : Placed c) {i : Fin numHashCheckpoints} (hdue : c.Due c.frameIdx i)
    {m : BattleHashV2} (hm : m ∈ c.pendingRemoteHashes)
    (hmi : m.frameIdx = (c.hashCheckpoints i).frameIdx) :
    (∃ comparison : HashComparison, comparison.remote = m ∧
        comparison.checkpoint.hashes = (c.hashCheckpoints i).hashes ∧
        (c.pass poll).1.comparisonsAt m.frameIdx = [comparison]) ∧
      ∀ m' ∈ (c.pass poll).2.pendingRemoteHashes, m'.frameIdx ≠ m.frameIdx := by
  have hi := List.mem_finRange i
  rw [pass_of_enabled c hen]
  revert hi
  generalize List.finRange numHashCheckpoints = slots
  intro hi
  have hsnap : (c.exchangeSnapshots poll c.frameIdx).1.comparisonsAt m.frameIdx = [] := rfl
  dsimp only
  rw [comparisonsAt_append, hsnap, List.nil_append]
  exact exchangeHashes_of_mem poll ((exchanged_exchangeSnapshots c poll _).placed hplaced) hi
    hdue hm hmi

lemma pass_of_not_due {c : Client I} {poll : Poll} {m : BattleHashV2}
    (h : poll.snapshotsEnabled = true → ∀ i, c.Due c.frameIdx i →
      (c.hashCheckpoints i).frameIdx ≠ m.frameIdx)
    (hm : m ∈ c.pendingRemoteHashes) :
    (c.pass poll).1.comparisonsAt m.frameIdx = [] ∧
      m ∈ (c.pass poll).2.pendingRemoteHashes := by
  cases hen : poll.snapshotsEnabled with
  | false =>
    rw [pass_of_disabled c hen]
    exact ⟨rfl, hm⟩
  | true =>
    rw [pass_of_enabled c hen]
    generalize List.finRange numHashCheckpoints = slots
    have hsnap : (c.exchangeSnapshots poll c.frameIdx).1.comparisonsAt m.frameIdx = [] := rfl
    obtain ⟨hnone, hkeep⟩ := exchangeHashes_of_ne (c := (c.exchangeSnapshots poll c.frameIdx).2)
      poll slots fun i _ hdue => h hen i hdue
    dsimp only
    rw [comparisonsAt_append, hsnap, List.nil_append]
    exact ⟨hnone, hkeep m rfl hm⟩

/-- **Step lemma.** An undisturbed hash goes on waiting through a step that does not exchange
its frame. -/
lemma waits_of_next {e : ClientEntry I} (hstep : (clientLTS I).Steps e) {m : BattleHashV2}
    (hm : m ∈ e.pre.pendingRemoteHashes) (hcalm : Undisturbed m e) (hnot : ¬ Meets m e) :
    e.out.comparisonsAt m.frameIdx = [] ∧ m ∈ e.post.pendingRemoteHashes := by
  obtain ⟨pre, act, out, post⟩ := e
  have hnext : next pre act = some (out, post) := hstep
  cases act with
  | battleUpdate frame resim =>
    obtain ⟨c₁, hup, heq⟩ := Option.map_eq_some_iff.1 hnext
    obtain ⟨rfl, rfl⟩ := Prod.mk.inj heq
    have hsame := battleUpdate_preserves
      (p := fun x => x.pendingRemoteHashes = pre.pendingRemoteHashes) (fun _ _ hx => hx)
      (fun _ _ hx => hx) (fun _ _ hcap hx => (pendingRemoteHashes_capture hcap).trans hx) hup rfl
    exact ⟨rfl, hsame ▸ hm⟩
  | idle resim =>
    obtain ⟨c₁, hroll, heq⟩ := Option.map_eq_some_iff.1 hnext
    obtain ⟨rfl, rfl⟩ := Prod.mk.inj heq
    have hsame := rollback_preserves
      (p := fun x => x.pendingRemoteHashes = pre.pendingRemoteHashes) (fun _ _ hx => hx)
      (fun _ _ hx => hx) (fun _ _ hcap hx => (pendingRemoteHashes_capture hcap).trans hx)
      hroll rfl
    exact ⟨rfl, hsame ▸ hm⟩
  | receive msg =>
    have heq : pre.onMessage msg = (out, post) := Option.some.inj hnext
    cases msg with
    | snapshot s =>
      simp only [onMessage, onSnapshot] at heq
      split at heq
      all_goals
        obtain ⟨rfl, rfl⟩ := Prod.mk.inj heq
        exact ⟨rfl, hm⟩
    | hash other =>
      obtain ⟨hne, hroom⟩ := not_or.1 hcalm
      obtain ⟨rfl, rfl⟩ := Prod.mk.inj heq
      refine ⟨rfl, OrderedMap.mem_insert_iff.2 (Or.inr ⟨?_, Ne.symm hne⟩)⟩
      unfold makeRoom
      split
      · -- the map is full, and another hash makes room
        rename_i hfull
        exact OrderedMap.mem_eraseBegin hm fun hfirst => hroom ⟨hfull, hfirst⟩
      · exact hm
  | pass poll =>
    have heq : pre.pass poll = (out, post) := Option.some.inj hnext
    have hpass := pass_of_not_due
      (fun (hen : poll.snapshotsEnabled = true) i hdue hi => hnot ⟨hen, i, hdue, hi⟩) hm
    rw [heq] at hpass
    exact hpass
  | clearBattleState | startMatch => exact absurd trivial hcalm
  | engineUpdate | startBattle =>
    obtain ⟨rfl, rfl⟩ := Prod.mk.inj (Option.some.inj hnext)
    exact ⟨rfl, hm⟩

/-- **Run lemma.** An undisturbed hash waits until its frame is exchanged. -/
lemma waits_of_path {c c' : Client I} {log : List (ClientEntry I)}
    (h : (clientLTS I).Path c log c') {m : BattleHashV2} (hm : m ∈ c.pendingRemoteHashes)
    (hwaits : ∀ e ∈ log, Undisturbed m e ∧ ¬ Meets m e) :
    (∀ e ∈ log, e.out.comparisonsAt m.frameIdx = []) ∧ m ∈ c'.pendingRemoteHashes := by
  refine h.invariant (fun log c' => (∀ e ∈ log, e.out.comparisonsAt m.frameIdx = []) ∧
    m ∈ c'.pendingRemoteHashes) ⟨by simp, hm⟩ ?_ hwaits
  rintro log e ⟨hnone, hmem⟩ hstep ⟨hcalm, hnot⟩
  obtain ⟨hnone', hmem'⟩ := waits_of_next hstep hmem hcalm hnot
  exact ⟨List.forall_mem_cons.2 ⟨hnone', hnone⟩, hmem'⟩

lemma waits_of_received {e : ClientEntry I} (hstep : (clientLTS I).Steps e) {m : BattleHashV2}
    (h : e.act.receivedHashes = [m]) : m ∈ e.post.pendingRemoteHashes := by
  obtain ⟨pre, act, out, post⟩ := e
  cases act with
  | receive msg =>
    cases msg with
    | snapshot s => simp [Action.receivedHashes] at h
    | hash other =>
      obtain rfl : other = m := by simpa [Action.receivedHashes] using h
      have heq : pre.onHash other = (out, post) := Option.some.inj hstep
      obtain ⟨-, rfl⟩ := Prod.mk.inj heq
      exact OrderedMap.mem_insert_iff.2 (Or.inl rfl)
  | _ => simp [Action.receivedHashes] at h

/-- What is owed to a hash that is received: until the exchange of its frame no hash of the
frame is compared, and the exchange compares it with the checkpoint of the frame, once, and
leaves nothing waiting for the frame. -/
structure ComparedAt (m : BattleHashV2) (newer : List (ClientEntry I)) (e : ClientEntry I) :
    Prop where
  /-- Nothing is compared before. -/
  before : ∀ e' ∈ newer, e'.out.comparisonsAt m.frameIdx = []
  /-- The comparison, which reports a mismatch exactly when the hashes differ. -/
  once : ∃ i, (e.pre.hashCheckpoints i).valid = true ∧
    (e.pre.hashCheckpoints i).frameIdx = m.frameIdx ∧
    ∃ comparison, e.out.comparisonsAt m.frameIdx = [comparison] ∧ comparison.remote = m ∧
      (comparison.Mismatch ↔ (e.pre.hashCheckpoints i).hashes.overall ≠ m.overall)
  /-- Nothing is left. -/
  after : ∀ m' ∈ e.post.pendingRemoteHashes, m'.frameIdx ≠ m.frameIdx

/-- A list of actions that a client can carry out at the beginning of a match, where the first
step, the steps between and the last step pass a test. -/
lemma exists_clientRun_of_exec (acts : List (Action I))
    {p : ClientEntry I → List (ClientEntry I) → ClientEntry I → Prop}
    [∀ e₁ newer e₂, Decidable (p e₁ newer e₂)]
    (h : (LTS.exec next (Client.start 1) [] acts).any (fun r => r.1.head?.any fun e₂ =>
      r.1.tail.getLast?.any fun e₁ => decide (p e₁ r.1.tail.dropLast e₂)) = true) :
    ∃ e₂ newer e₁ c, (clientLTS I).Run (e₂ :: newer ++ [e₁]) c ∧ p e₁ newer e₂ := by
  obtain ⟨⟨log, c⟩, hexec, hlog⟩ := (Option.any_eq_true ..).1 h
  obtain ⟨e₂, h₂, hlast⟩ := (Option.any_eq_true ..).1 hlog
  obtain ⟨e₁, h₁, hp⟩ := (Option.any_eq_true ..).1 hlast
  have hcut : log = e₂ :: log.tail.dropLast ++ [e₁] := by
    rw [List.cons_append, List.dropLast_append_getLast? e₁ h₁]
    exact List.eq_cons_of_mem_head? h₂
  refine ⟨e₂, log.tail.dropLast, e₁, c, ?_, of_decide_eq_true hp⟩
  rw [← hcut]
  exact ⟨_, ⟨1, rfl⟩, LTS.path_of_exec .refl hexec⟩

/-- The hash of a frame, as a player sends it. -/
def BattleHashV2.ofPlayer (f : ℤ) (overall : UInt64) : BattleHashV2 :=
  ⟨f, overall, 0, 0, 0, true, 1⟩

/-- A number of frames, one after the other, each with the hash zero. -/
def accept (n : ℕ) : List (Action Unit) := List.replicate n (.battleUpdate ⟨(), {}, []⟩ [])

/-- Does the step clear the tables? -/
def Action.clears : Action I → Bool
  | .clearBattleState => true
  | .startMatch _ => true
  | _ => false

/-- The exchange of a frame compares a hash of it that was received before, if only the tables
have not been cleared in the meantime. -/
def ComparesAll (I : Type) : Prop :=
  ∀ (u : Client I) (older newer : List (ClientEntry I)) (e₁ e₂ : ClientEntry I)
    (m : BattleHashV2), (clientLTS I).Run (e₂ :: newer ++ e₁ :: older) u →
    e₁.act.receivedHashes = [m] → (∀ e ∈ newer, e.act.clears = false ∧ ¬ Meets m e) →
    Meets m e₂ → m ∈ e₂.out.compared

/-- **A spectator compares one player.** Of the hashes that the two players send of a frame, a
spectator that receives both before it compares keeps the second. -/
theorem not_comparesAll_spectator : ¬ ComparesAll Unit := by
  intro h
  obtain ⟨e₂, newer, e₁, c, hrun, hreceived, hnewer, hmeets, hout⟩ := exists_clientRun_of_exec
    ([.receive (.hash (.ofPlayer 30 1)), .receive (.hash (.ofPlayer 30 2))] ++ accept 60 ++
      [.pass { isPlayer := false }])
    (p := fun e₁ newer e₂ => e₁.act.receivedHashes = [.ofPlayer 30 1] ∧
      (∀ e ∈ newer, e.act.clears = false ∧ ¬ Meets (.ofPlayer 30 1) e) ∧
      Meets (.ofPlayer 30 1) e₂ ∧ .ofPlayer 30 1 ∉ e₂.out.compared) (by decide +kernel)
  exact hout (h c [] newer e₁ e₂ _ hrun hreceived hnewer hmeets)

end Desync
end Sf4e
