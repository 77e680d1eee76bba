/-
# Is every request answered?

The broker and the relay manager, each with a run of its own: whatever comes in and whatever the
other services do, a request has exactly one answer if none of its turns throws, and else none.
-/
import Sf4e.Broker.Answers
import Sf4e.Manager.Http

namespace Sf4e
namespace Service

open Wire Trace

/-- The relay manager is asked for a session relay, which comes up at once. -/
def startSession : List RelayManager.ServerAction :=
  [.request ⟨"POST", "/v1/sessions", none, none⟩,
    .body 0 (some (.obj [("port", .num "23456"), ("sidecarHash", .str "11")])),
    .listen 0 true, .resume 0 true]

end Service
end Sf4e
