import GaleraProxy.Monitor.Basic

/-!
# Polling agents

Here a monitor asks agents that answer at once, crash, or let their poll hang. `askBackend` goes
through the URLs of one backend.
-/

namespace GaleraProxy

/-- What asking a URL comes to: nothing for now, a crash of the poll, or a result. -/
inductive AgentTurn where
  | hang
  | crash (error : String)
  | result (r : Except ProxyError AgentReply)

namespace Monitor

/-- What asking an agent leads to: the monitor and its effects, the URLs that were asked, and
whether the poll hangs. -/
structure Asking where
  monitor : Monitor
  effects : List Effect
  asked : List String
  hangs : Bool

/-- Ask the agent of a backend until its poll is over or hangs, at most `n` times. -/
def askBackend (turn : String → AgentTurn) (i : Nat) : Nat → Monitor → Asking
  | 0, m => ⟨m, [], [], false⟩
  | n + 1, m =>
      match m.pollUrl? i with
      | none => ⟨m, [], [], false⟩
      | some url =>
          match turn url with
          | .hang => ⟨m, [], [url], true⟩
          | .crash error =>
              let (m, effects) := m.crash i error
              ⟨m, effects, [url], false⟩
          | .result r =>
              let rest := askBackend turn i n (m.receive i r)
              { rest with asked := url :: rest.asked }

/-- The most URLs that the agent of a backend has. -/
def maxUrls : Nat := 2

/-- Ask the agent of a backend. -/
def ask (m : Monitor) (turn : String → AgentTurn) (i : Nat) : Asking := askBackend turn i maxUrls m

end Monitor

end GaleraProxy
