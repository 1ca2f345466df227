import GaleraProxy.Session.Pipe

/-!
# Bridges

A bridge copies bytes between a client and a server in both directions at once. The direction that
finishes first, or a call of `close`, ends the bridge and lets go of both connections. `connect` may
be called any number of times; only the first call on a bridge that still holds its connections
copies.
-/

namespace GaleraProxy

/-- A direction of copying: bytes read and not yet written, and whether the source has come to its
end. -/
structure Copy where
  pending : List UInt8
  sourceEnded : Bool
  deriving Repr, DecidableEq

/-- The outcome of a step of copying. -/
inductive Copy.Progress where
  | blocked
  | moved (source sink : Pipe) (copy : Copy)
  | finished
  deriving Repr, DecidableEq

namespace Copy

/-- Nothing copied yet. -/
def start : Copy := ⟨[], false⟩

/-- A copy reads at most this many bytes ahead. -/
def chunk : Nat := 8192

/-- One step of copying: write what is pending, else read on. Writing into a closed pipe fails,
which finishes the direction as the end of its source does. -/
def step (c : Copy) (source sink : Pipe) : Progress :=
  match c.pending with
  | _ :: _ =>
      if sink.closed then .finished
      else if sink.room = 0 then .blocked
      else
        let (sink, pending) := sink.put c.pending
        .moved source sink { c with pending }
  | [] =>
      if c.sourceEnded then .finished
      else if source.atEnd then .moved source sink { c with sourceEnded := true }
      else if source.bytes.isEmpty then .blocked
      else
        let (pending, source) := source.take chunk
        .moved source sink { c with pending }

end Copy

/-- The stages of a bridge: it holds its connections, the `call`th call of `connect` is copying, or
it has let go of them. -/
inductive Bridge.Phase where
  | fresh
  | running (call : Nat) (upload download : Copy)
  | released
  deriving Repr, DecidableEq

/-- A bridge between a client and a server. `closed` is the wish or the fact that it has ended, and
`calls` counts the calls of `connect`. -/
structure Bridge where
  client : Duplex
  server : Duplex
  phase : Bridge.Phase
  closed : Bool
  calls : Nat
  deriving Repr, DecidableEq

namespace Bridge

/-- A bridge that has not been started. -/
def create (client server : Duplex) : Bridge :=
  { client, server, phase := .fresh, closed := false, calls := 0 }

/-- Let go of both connections. -/
def release (b : Bridge) : Bridge :=
  { b with client := b.client.drop, server := b.server.drop, phase := .released, closed := true }

/-- Call `connect`. It returns at once unless the bridge still holds its connections. -/
def connect (b : Bridge) : Bridge :=
  match b.phase with
  | .fresh => { b with phase := .running b.calls .start .start, calls := b.calls + 1 }
  | .running .. | .released => { b with calls := b.calls + 1 }

/-- Close the bridge. A bridge that is copying ends as soon as it notices. -/
def close (b : Bridge) : Bridge :=
  match b.phase with
  | .fresh => b.release
  | .running .. | .released => { b with closed := true }

/-- Whether the `i`th call of `connect` has not returned. -/
def isRunning (b : Bridge) (i : Nat) : Bool :=
  match b.phase with
  | .running call _ _ => call == i
  | .fresh | .released => false

/-- End a bridge that is copying and was closed. -/
def noticeClose (b : Bridge) : Option Bridge :=
  match b.phase with
  | .running .. => if b.closed then some b.release else none
  | .fresh | .released => none

/-- Copy a step from the client to the server. -/
def stepUpload (b : Bridge) : Option Bridge :=
  match b.phase with
  | .running call upload download =>
      match upload.step b.client.fromFar b.server.toFar with
      | .blocked => none
      | .finished => some b.release
      | .moved source sink upload =>
          some { b with
            client := { b.client with fromFar := source }
            server := { b.server with toFar := sink }
            phase := .running call upload download }
  | .fresh | .released => none

/-- Copy a step from the server to the client. -/
def stepDownload (b : Bridge) : Option Bridge :=
  match b.phase with
  | .running call upload download =>
      match download.step b.server.fromFar b.client.toFar with
      | .blocked => none
      | .finished => some b.release
      | .moved source sink download =>
          some { b with
            server := { b.server with fromFar := source }
            client := { b.client with toFar := sink }
            phase := .running call upload download }
  | .fresh | .released => none

/-- The first step that a bridge can take, or `none` if it has to wait. -/
def step (b : Bridge) : Option Bridge :=
  b.noticeClose <|> b.stepUpload <|> b.stepDownload

/-- How much there is left to move: every step makes it smaller. -/
def work (b : Bridge) : Nat :=
  match b.phase with
  | .fresh | .released => 0
  | .running _ upload download =>
      let direction (source : Pipe) (c : Copy) : Nat :=
        2 * source.bytes.length + c.pending.length + (if c.sourceEnded then 0 else 1)
      direction b.client.fromFar upload + direction b.server.fromFar download + 1

/-- Take steps until the bridge has to wait, at most as many as given. -/
def runFor : Nat → Bridge → Bridge
  | 0, b => b
  | n + 1, b =>
      match b.step with
      | some b => runFor n b
      | none => b

/-- Take steps until the bridge has to wait. -/
def settle (b : Bridge) : Bridge := b.runFor b.work

end Bridge

end GaleraProxy
