import GaleraProxy.Error
import GaleraProxy.Http.Status
import GaleraProxy.Json.Document

/-!
# Answers of an agent

An agent reports its status as a JSON record: whether the node is healthy, and its index in the
cluster. Only an answer with status 200 whose body is one such record is believed; `decodeReply`
tells everything else apart from it.
-/

namespace GaleraProxy

open Document

/-- An HTTP answer of any kind. -/
structure AgentReply where
  status : Nat
  body : List UInt8
  deriving DecidableEq, Repr

/-- What the agents answer at each URL. -/
abbrev Replies := String → Except ProxyError AgentReply

/-- What an agent says of its node. -/
structure AgentStatus where
  healthy : Bool
  index : UInt64
  deriving DecidableEq, Repr

/-- The record of an agent's status. Both fields may be absent, and others are passed over. -/
def AgentStatus.shape {ε : Type} (dialect : Dialect) : Shape ε AgentStatus AgentStatus where
  name := "AgentStatus"
  strict := false
  fields :=
    [⟨"healthy", fun path n d => do pure { d with healthy := ← readFlag path n }⟩,
     ⟨"wsrep_local_index", fun path n d => do pure { d with index := ← readWord64 dialect path n }⟩]
  empty := ⟨false, 0⟩
  finish := .ok

/-- Only the fields of the record are looked at. -/
def AgentStatus.plan : Plan :=
  .members [("healthy", .whole), ("wsrep_local_index", .whole)]

/-- Read an agent's status; a failure is described in words. -/
def AgentStatus.parse (body : List UInt8) : Except String AgentStatus :=
  Json.readRecord AgentStatus.shape AgentStatus.plan body

/-- The result of a poll: the agent answered, its answer cannot be believed, or there was no answer.
-/
inductive PollOutcome where
  | answered (healthy : Bool) (index : Nat)
  | rejected (url reason : String)
  | unreachable (errors : List String)
  deriving DecidableEq, Repr

/-- What an answer says. -/
def decodeReply (url : String) (reply : AgentReply) : PollOutcome :=
  if reply.status = 200 then
    match AgentStatus.parse reply.body with
    | .ok s => .answered s.healthy s.index.toNat
    | .error detail => .rejected url ("malformed status body: " ++ detail)
  else .rejected url ("unexpected status " ++ Http.statusText reply.status)

/-- A poll on its way: a URL is being asked and others come after it if there is no answer, or the
poll is over. -/
inductive Poll where
  | asking (url : String) (others : List String) (errors : List String)
  | finished (outcome : PollOutcome)
  | crashed
  deriving DecidableEq, Repr

namespace Poll

/-- Ask the next URL, or give up after the last one. -/
def ask (errors : List String) : List String → Poll
  | [] => finished (.unreachable errors)
  | url :: others => asking url others errors

/-- Begin to ask URLs in their order. -/
def start (urls : List String) : Poll := ask [] urls

/-- Take in what asking a URL has come to: an answer decides, an error leads on to the next URL. -/
def receive (result : Except ProxyError AgentReply) : Poll → Poll
  | asking url others errors =>
      match result with
      | .ok reply => finished (decodeReply url reply)
      | .error e => ask (errors ++ [url ++ ": " ++ e.message]) others
  | ended => ended

/-- The URL that is being asked. -/
def url? : Poll → Option String
  | asking url _ _ => some url
  | finished _ | crashed => none

/-- The outcome of a poll that is over. A crash counts as no answer. -/
def outcome? : Poll → Option PollOutcome
  | asking .. => none
  | finished outcome => some outcome
  | crashed => some (.unreachable ["health poll task failed"])

end Poll

/-- Poll by asking URLs in turn until one answers: the outcome and the URLs that were asked. -/
def pollUrls (get : Replies) (errors : List String) :
    List String → PollOutcome × List String
  | [] => (.unreachable errors, [])
  | url :: others =>
      match get url with
      | .ok reply => (decodeReply url reply, [url])
      | .error e =>
          let (outcome, asked) := pollUrls get (errors ++ [url ++ ": " ++ e.message]) others
          (outcome, url :: asked)

end GaleraProxy
