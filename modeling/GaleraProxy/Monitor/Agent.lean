import GaleraProxy.Http.Exchange
import GaleraProxy.Monitor.Reply
import GaleraProxy.Time.Duration

/-!
# Asking an agent

An agent is asked for its status over HTTP. Whatever it responds is its answer, even if the body
breaks off: the body then counts as empty. Only where there is no response at all is there an error.
-/

namespace GaleraProxy

/-- Ask an agent for its status at a URL, waiting no longer than `timeout`. -/
def askAgent (network : Http.Uri → Http.Exchange) (timeout : Duration) (url : String) :
    Except ProxyError AgentReply :=
  match Http.exchange network url with
  | .error fault => .error (fault.toError url timeout.millis)
  | .ok answer =>
      match answer.body with
      | .ok body => .ok ⟨answer.status, body⟩
      | .error _ => .ok ⟨answer.status, []⟩

end GaleraProxy
