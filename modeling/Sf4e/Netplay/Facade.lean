/-
# The deferred close of a GGPO session

When a battle closes while there are spectators, the facade keeps the GGPO session open for
up to two minutes, so that they can be served to the end.  `NotifyMatchEnded` decides, and
`ShouldDeferGgpoClose` is asked by `CloseBattle` and on every tick after it.
-/
import Mathlib.Data.List.Basic

namespace Sf4e
namespace NetplayFacade

/-- What the facade looks at when a match has ended. -/
structure Room where
  /-- `s_controlPlaneLost`. -/
  controlPlaneLost : Bool
  /-- The number of members in the client's lobby data; `none` when there is no client. -/
  members : Option ℕ

/-- The variables of the deferred close. -/
structure DeferState where
  /-- `s_deferGgpoClose`. -/
  deferGgpoClose : Bool := false
  /-- `s_deferredGgpoPending`. -/
  deferredGgpoPending : Bool := false
  /-- `s_deferGgpoCloseUntil`. -/
  deferGgpoCloseUntil : UInt32 := 0

namespace DeferState

/-- `CancelDeferredGgpoClose`. -/
def cancelDeferredGgpoClose (_ : DeferState) : DeferState := {}

/-- Both flags are taken back. -/
def clearFlags (s : DeferState) : DeferState :=
  { s with deferGgpoClose := false, deferredGgpoPending := false }

/-- `ShouldDeferGgpoClose`, asked at a tick count. -/
def shouldDeferGgpoClose (s : DeferState) (now : UInt32) : Bool × DeferState :=
  if !s.deferGgpoClose then (false, s)
  else if now < s.deferGgpoCloseUntil then (true, s)
  else (false, { s with deferGgpoClose := false })

/-- `NotifyMatchEnded`, at a tick count. -/
def notifyMatchEnded (s : DeferState) (room : Room) (now : UInt32) : DeferState :=
  if room.controlPlaneLost then s.clearFlags
  else
    match room.members with
    | none => s.clearFlags
    | some members =>
      let spectators := if members > 2 then members - 2 else 0
      if spectators > 0 then
        { deferGgpoClose := true
          deferredGgpoPending := true
          deferGgpoCloseUntil := now + 120000 }
      else s.clearFlags

end DeferState

/-- A match that ends in the room at the tick `now` leaves its session open, when this is
asked at the tick `later`: there are spectators and the two minutes are not over, which they
are at once when the tick count wraps around. -/
def Room.Defers (room : Room) (now later : UInt32) : Prop :=
  room.controlPlaneLost = false ∧ (∃ members, room.members = some members ∧ 2 < members) ∧
    later < now + 120000

/-- The facade defers in these cases. -/
lemma shouldDefer_notifyMatchEnded (s : DeferState) (room : Room) (now later : UInt32) :
    ((s.notifyMatchEnded room now).shouldDeferGgpoClose later).1 = true ↔
      room.Defers now later := by
  obtain ⟨lost, members⟩ := room
  cases lost with
  | true => simp [DeferState.notifyMatchEnded, DeferState.shouldDeferGgpoClose,
      DeferState.clearFlags, Room.Defers]
  | false =>
    cases members with
    | none => simp [DeferState.notifyMatchEnded, DeferState.shouldDeferGgpoClose,
        DeferState.clearFlags, Room.Defers]
    | some n =>
      by_cases hn : n > 2
      · have hpos : n - 2 > 0 := by omega
        by_cases hlater : later < now + 120000 <;>
          simp [DeferState.notifyMatchEnded, DeferState.shouldDeferGgpoClose, Room.Defers, hn,
            hpos, hlater]
      · simp [DeferState.notifyMatchEnded, DeferState.shouldDeferGgpoClose,
          DeferState.clearFlags, Room.Defers, hn]

instance (room : Room) (now later : UInt32) : Decidable (room.Defers now later) :=
  decidable_of_iff _ (shouldDefer_notifyMatchEnded {} room now later)

end NetplayFacade
end Sf4e
