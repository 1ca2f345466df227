import GaleraProxy.Monitor.Agent
import GaleraProxy.Monitor.Basic

/-!
# Asking URLs in turn

A poll asks the URLs of a backend in their order. Whatever answers first decides, however bad the
answer is, and only where there is no answer the next URL is asked. `waterfall` says so for every
client, also for one whose answers change from one request to the next.
-/

namespace GaleraProxy

/-- Whoever is asked for URLs. What comes of a URL may depend on those that were asked before. -/
abbrev StatusClient := List String → String → Except ProxyError AgentReply

/-- A client that has already been asked some URLs. -/
def StatusClient.after (client : StatusClient) (asked : List String) : StatusClient :=
  fun before => client (asked ++ before)

theorem StatusClient.after_append (client : StatusClient) (first others : List String) :
    client.after (first ++ others) = (client.after first).after others := by
  funext before
  exact congrArg client (List.append_assoc first others before)

namespace Poll

/-- The number of URLs that a poll may still ask. -/
def left : Poll → Nat
  | asking _ others _ => others.length + 1
  | finished _ | crashed => 0

theorem left_ask (errors urls : List String) : (ask errors urls).left = urls.length := by
  cases urls <;> rfl

/-- Taking in what a URL has come to leaves fewer URLs. -/
theorem left_receive_lt (result : Except ProxyError AgentReply) (url : String)
    (others errors : List String) :
    ((asking url others errors).receive result).left < others.length + 1 := by
  cases result with
  | ok reply => exact Nat.succ_pos _
  | error e =>
      rw [receive, left_ask]
      exact Nat.lt_succ_self _

/-- Let a poll ask a client until it is over: the poll in the end, and the URLs that were asked,
after those that were asked before. -/
def pursue (client : StatusClient) (asked : List String) : Poll → Poll × List String
  | asking url others errors =>
      ((asking url others errors).receive (client asked url)).pursue client (asked ++ [url])
  | finished outcome => (finished outcome, asked)
  | crashed => (crashed, asked)
termination_by poll => poll.left
decreasing_by exact left_receive_lt _ url others errors

/-- What is noted of a URL that did not answer. -/
def note (url : String) (e : ProxyError) : String := url ++ ": " ++ e.message

end Poll

/-- The first of the URLs that a client answers, its place and the answer. -/
structure FirstAnswer (client : StatusClient) (urls : List String) (n : Nat) (url : String)
    (reply : AgentReply) : Prop where
  stands : urls[n]? = some url
  answers : client (urls.take n) url = .ok reply
  earlier : ∀ ⦃k : Nat⦄ ⦃other : String⦄, k < n → urls[k]? = some other →
    ∃ e, client (urls.take k) other = .error e

/-- A client answers none of the URLs, and these are the reasons. -/
structure NoAnswer (client : StatusClient) (urls : List String) (faults : List ProxyError) :
    Prop where
  length_eq : faults.length = urls.length
  fails : ∀ ⦃k : Nat⦄ ⦃url : String⦄ ⦃e : ProxyError⦄, urls[k]? = some url → faults[k]? = some e →
    client (urls.take k) url = .error e

section

variable {client : StatusClient} {url : String} {e : ProxyError} {others : List String}

/-- Behind a URL that fails the first answer is that of the others. -/
theorem FirstAnswer.behind (hfails : client [] url = .error e) {n : Nat} {other : String}
    {reply : AgentReply} (h : FirstAnswer (client.after [url]) others n other reply) :
    FirstAnswer client (url :: others) (n + 1) other reply where
  stands := h.stands
  answers := h.answers
  earlier := by
    intro k earlier hlt hk
    cases k with
    | zero =>
        obtain rfl := Option.some.inj hk
        exact ⟨e, hfails⟩
    | succ k => exact h.earlier (Nat.lt_of_succ_lt_succ hlt) hk

/-- Behind a URL that fails the others may fail as well. -/
theorem NoAnswer.behind (hfails : client [] url = .error e) {faults : List ProxyError}
    (h : NoAnswer (client.after [url]) others faults) :
    NoAnswer client (url :: others) (e :: faults) where
  length_eq := congrArg Nat.succ h.length_eq
  fails := by
    intro k earlier fault hk hfault
    cases k with
    | zero =>
        obtain rfl := Option.some.inj hk
        obtain rfl := Option.some.inj hfault
        exact hfails
    | succ k => exact h.fails hk hfault

end

namespace Poll

/-- What a poll comes to that has asked some URLs, which did not answer, and has others left. -/
theorem pursue_ask (client : StatusClient) (asked errors urls : List String) :
    (∃ n url reply, FirstAnswer (client.after asked) urls n url reply ∧
      (ask errors urls).pursue client asked =
        (finished (decodeReply url reply), asked ++ urls.take (n + 1))) ∨
    ∃ faults, NoAnswer (client.after asked) urls faults ∧
      (ask errors urls).pursue client asked =
        (finished (.unreachable (errors ++ List.zipWith note urls faults)), asked ++ urls) := by
  -- along the URLs that are left; each that fails becomes one of those that have been asked
  induction urls generalizing asked errors with
  | nil =>
      refine .inr ⟨[], ⟨rfl, nofun⟩, ?_⟩
      rw [ask, pursue, List.zipWith_nil_left, List.append_nil, List.append_nil]
  | cons url others ih =>
      rw [ask, pursue]
      have hasked : client.after asked [] url = client asked url := by
        rw [StatusClient.after, List.append_nil]
      cases hresult : client asked url with
      | ok reply =>
          refine .inl ⟨0, url, reply, ⟨rfl, hasked.trans hresult, nofun⟩, ?_⟩
          rw [receive, pursue, List.take_succ_cons, List.take_zero]
      | error e =>
          have hrest := ih (asked ++ [url]) (errors ++ [note url e])
          simp only [client.after_append, ← List.append_cons] at hrest
          rcases hrest with ⟨n, other, reply, h, hpursue⟩ | ⟨faults, h, hpursue⟩
          · exact .inl ⟨n + 1, other, reply, h.behind (hasked.trans hresult), hpursue⟩
          · exact .inr ⟨e :: faults, h.behind (hasked.trans hresult), hpursue⟩

/-- What a poll of URLs comes to. -/
theorem pursue_start (client : StatusClient) (urls : List String) :
    (∃ n url reply, FirstAnswer client urls n url reply ∧
      (start urls).pursue client [] = (finished (decodeReply url reply), urls.take (n + 1))) ∨
    ∃ faults, NoAnswer client urls faults ∧
      (start urls).pursue client [] =
        (finished (.unreachable (List.zipWith note urls faults)), urls) :=
  pursue_ask client [] [] urls

/-- Where every URL has an answer of its own, a poll comes to what asking the URLs in turn comes to.
-/
theorem pursue_ask_replies (replies : Replies) (asked errors urls : List String) :
    (ask errors urls).pursue (fun _ => replies) asked =
      (finished (pollUrls replies errors urls).1, asked ++ (pollUrls replies errors urls).2) := by
  induction urls generalizing asked errors with
  | nil => rw [ask, pursue, pollUrls, List.append_nil]
  | cons url others ih =>
      rw [ask, pursue, pollUrls]
      cases hreply : replies url with
      | ok reply => rw [receive, pursue]
      | error e =>
          rw [receive, ih, List.append_assoc]
          rfl

end Poll

section

variable {client : StatusClient} {urls : List String} {n k : Nat} {url other : String}
  {reply reply' : AgentReply}

/-- No URL answers before the first one that does. -/
theorem FirstAnswer.le (h : FirstAnswer client urls n url reply)
    (h' : FirstAnswer client urls k other reply') : n ≤ k := by
  refine Nat.le_of_not_lt fun hlt => ?_
  obtain ⟨e, he⟩ := h.earlier hlt h'.stands
  cases he.symm.trans h'.answers

/-- There is one first answer. -/
theorem FirstAnswer.unique (h : FirstAnswer client urls n url reply)
    (h' : FirstAnswer client urls k other reply') : url = other ∧ reply = reply' := by
  obtain rfl := Nat.le_antisymm (h.le h') (h'.le h)
  obtain rfl := Option.some.inj (h.stands.symm.trans h'.stands)
  exact ⟨rfl, Except.ok.inj (h.answers.symm.trans h'.answers)⟩

/-- Where no URL answers there is no first answer. -/
theorem NoAnswer.not_first {faults : List ProxyError} (h : NoAnswer client urls faults) :
    ¬ FirstAnswer client urls n url reply := by
  intro hfirst
  have hlt : n < faults.length := h.length_eq ▸ (List.getElem?_eq_some_iff.mp hfirst.stands).1
  have hfails := h.fails hfirst.stands (List.getElem?_eq_getElem hlt)
  cases hfails.symm.trans hfirst.answers

end

/-! ## What makes a backend healthy -/

/-- An agent says that its node is healthy: with status 200 and a body that says so. -/
def AgentReply.SaysHealthy (reply : AgentReply) : Prop :=
  reply.status = 200 ∧ ∃ status, AgentStatus.parse reply.body = .ok status ∧ status.healthy = true

/-- Only an answer that says so makes a backend healthy. -/
theorem healthy_of_decode_iff (b : Backend) (s : BackendStatus) (url : String)
    (reply : AgentReply) :
    (Monitor.applyOutcome b s (decodeReply url reply)).1.healthy = true ↔ reply.SaysHealthy := by
  unfold decodeReply AgentReply.SaysHealthy
  by_cases hstatus : reply.status = 200
  · rw [if_pos hstatus]
    cases hparse : AgentStatus.parse reply.body with
    | ok status =>
        show status.healthy = true ↔ _
        constructor
        · exact fun h => ⟨hstatus, status, rfl, h⟩
        · rintro ⟨-, other, hother, h⟩
          exact Except.ok.inj hother ▸ h
    | error detail =>
        show false = true ↔ _
        constructor
        · nofun
        · rintro ⟨-, other, hother, -⟩
          cases hother
  · rw [if_neg hstatus]
    show false = true ↔ _
    exact ⟨nofun, fun h => absurd h.1 hstatus⟩

/-- A URL has a response exactly where it names a server that responds. -/
theorem exchange_eq_ok_iff (network : Http.Uri → Http.Exchange) (url : String)
    (answer : Http.Answer) :
    Http.exchange network url = .ok answer ↔
      ∃ uri, Http.Uri.parse url = .ok uri ∧ uri.isAbsolute = true ∧
        network uri = .answered answer.status answer.body := by
  unfold Http.exchange
  cases hparse : Http.Uri.parse url with
  | error reason => simp
  | ok uri =>
      by_cases habsolute : uri.isAbsolute = true
      · cases hnetwork : network uri with
        | unreachable => simp [habsolute, hnetwork]
        | lost => simp [habsolute, hnetwork]
        | silent => simp [habsolute, hnetwork]
        | answered status body =>
            obtain ⟨status', body'⟩ := answer
            simp [habsolute, hnetwork]
      · simp [habsolute]

/-- Where a response begins there is an answer, even if its body breaks off: the body is then empty.
-/
theorem askAgent_eq_ok_iff (network : Http.Uri → Http.Exchange) (timeout : Duration)
    (url : String) (reply : AgentReply) :
    askAgent network timeout url = .ok reply ↔
      ∃ uri status body, Http.Uri.parse url = .ok uri ∧ uri.isAbsolute = true ∧
        network uri = .answered status body ∧ reply = ⟨status, body.toOption.getD []⟩ := by
  constructor
  · intro h
    unfold askAgent at h
    split at h
    · cases h
    · rename_i answer hexchange
      obtain ⟨uri, hparse, habsolute, hnetwork⟩ := (exchange_eq_ok_iff ..).mp hexchange
      refine ⟨uri, answer.status, answer.body, hparse, habsolute, hnetwork, ?_⟩
      split at h
      · rename_i body hbody
        rw [hbody]
        exact (Except.ok.inj h).symm
      · rename_i reason hbody
        rw [hbody]
        exact (Except.ok.inj h).symm
  · rintro ⟨uri, status, body, hparse, habsolute, hnetwork, rfl⟩
    have hexchange : Http.exchange network url = .ok ⟨status, body⟩ :=
      (exchange_eq_ok_iff ..).mpr ⟨uri, hparse, habsolute, hnetwork⟩
    rw [askAgent, hexchange]
    cases body with
    | ok bytes => rfl
    | error reason => rfl

/-- For every client and every list of URLs. If one of them answers, those up to the first that does
are asked, in their order and each once, and this answer alone decides. If none does, all are asked
and the poll ends with an error of each. So a poll makes a backend healthy exactly if the first URL
that answers says that it is. A URL answers whenever a response to it begins. -/
theorem waterfall (client : StatusClient) :
    (∀ urls, (∃ n url reply, FirstAnswer client urls n url reply ∧
        (Poll.start urls).pursue client [] =
          (.finished (decodeReply url reply), urls.take (n + 1))) ∨
      ∃ faults, NoAnswer client urls faults ∧
        (Poll.start urls).pursue client [] =
          (.finished (.unreachable (List.zipWith Poll.note urls faults)), urls)) ∧
    (∀ (b : Backend) (s : BackendStatus) (tls : Bool), ∃ outcome,
      ((Poll.start (b.statusUrls tls)).pursue client []).1 = .finished outcome ∧
      ((Monitor.applyOutcome b s outcome).1.healthy = true ↔
        ∃ n url reply, FirstAnswer client (b.statusUrls tls) n url reply ∧ reply.SaysHealthy)) ∧
    ∀ network timeout url reply, askAgent network timeout url = .ok reply ↔
      ∃ uri status body, Http.Uri.parse url = .ok uri ∧ uri.isAbsolute = true ∧
        network uri = .answered status body ∧ reply = ⟨status, body.toOption.getD []⟩ := by
  refine ⟨Poll.pursue_start client, fun b s tls => ?_, askAgent_eq_ok_iff⟩
  rcases Poll.pursue_start client (b.statusUrls tls) with
    ⟨n, url, reply, h, hpursue⟩ | ⟨faults, h, hpursue⟩
  · refine ⟨decodeReply url reply, by rw [hpursue], ?_⟩
    rw [healthy_of_decode_iff]
    constructor
    · exact fun hsays => ⟨n, url, reply, h, hsays⟩
    · rintro ⟨k, other, reply', h', hsays⟩
      exact (h.unique h').2 ▸ hsays
  · refine ⟨.unreachable _, by rw [hpursue], ?_⟩
    show false = true ↔ _
    constructor
    · nofun
    · rintro ⟨n, url, reply, hfirst, -⟩
      exact absurd hfirst h.not_first

end GaleraProxy
