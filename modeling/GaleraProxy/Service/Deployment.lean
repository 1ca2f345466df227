import GaleraProxy.Service.Step

/-!
# The service among its agents

Here the service runs before any request to shut down, and its agents answer whenever they are
asked. What they answer may change at any time. `Deployment.step` says what an atomic step of the
service or such a change leads to; a run is any sequence of them, each at any moment.
-/

namespace GaleraProxy

/-- The service with what its agents answer now. For each port `asking` tells whether the polls of
the cycle on its way began after the latest change of the answers, and `polled` whether those of the
latest complete cycle did. -/
structure Deployment where
  service : Service
  replies : Replies
  asking : ProxyPort → Bool
  polled : ProxyPort → Bool

namespace Deployment

/-- The service of a configuration as it starts. -/
def start (c : Config) (now : Moment) (replies : Replies) : Deployment :=
  { service := .create c now, replies, asking := fun _ => false, polled := fun _ => false }

/-- What can happen: the answers of the agents change, an agent answers the poll of a backend, or
the service takes a step. -/
inductive Action where
  | change (replies : Replies)
  | ask (port : ProxyPort) (backend : Nat)
  | serve (action : Service.Action)

/-- Whether the service takes a step by itself: agents answer as they do, and shutdown is not
requested. -/
def isOrdinary : Service.Action → Bool
  | .answer .. | .requestShutdown => false
  | _ => true

/-- Note which cycles know the answers of the agents. A poll that crashes knows nothing. -/
def note (d : Deployment) : Service.Action → Deployment
  | .beginCycle port => { d with asking := fun p => if p = port then true else d.asking p }
  | .crash port .. => { d with asking := fun p => if p = port then false else d.asking p }
  | .finishCycle port =>
      { d with polled := fun p => if p = port then d.asking port else d.polled p }
  | _ => d

/-- What happens at a moment, or `none` if it cannot. -/
def step (d : Deployment) (now : Moment) (time : Timestamp) : Action → Option Deployment
  | .change replies =>
      some { d with replies, asking := fun _ => false, polled := fun _ => false }
  | .ask port i => do
      let lane ← d.service.lane? port
      let url ← lane.monitor.pollUrl? i
      let (service, _) ← d.service.step now time (.answer port i (d.replies url))
      pure { d with service }
  | .serve action =>
      if isOrdinary action then
        (d.service.step now time action).map fun (service, _) => { d.note action with service }
      else none

/-- What a run leads to, or `none` if something cannot happen. -/
def run (d : Deployment) : List (Moment × Timestamp × Action) → Option Deployment
  | [] => some d
  | (now, time, action) :: rest => (d.step now time action).bind fun next => run next rest

end Deployment

end GaleraProxy
