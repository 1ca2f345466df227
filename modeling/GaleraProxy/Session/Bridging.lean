import GaleraProxy.Session.Bridge
import GaleraProxy.Steps

/-!
# A bridge at work

Here any number of calls of `connect` and `close` use one bridge, while its far ends write, read,
end their output and go away. A call of `connect` has begun before it comes to the connections, and
a call of `close` sets the flag before it does. `Bridging.step` says what an atomic step leads to
and what is to be seen of it: the bytes that far ends write and read, and how the bridge ended. A
run is any sequence of steps.
-/

namespace GaleraProxy

/-- The two sides of a bridge. -/
inductive Side where
  | client
  | server
  deriving DecidableEq, Repr

/-- The other side. -/
def Side.other : Side → Side
  | .client => .server
  | .server => .client

namespace Duplex

/-- An open connection without bytes on their way, with the capacities of its two pipes. -/
def between (fromFar toFar : Nat) : Duplex := ⟨.empty fromFar, .empty toFar⟩

/-- The bytes that a write at the far end puts into the pipe: as many as there is room for, and none
into a closed pipe. -/
def written (d : Duplex) (bytes : List UInt8) : List UInt8 :=
  if d.fromFar.accepts bytes then bytes.take d.fromFar.room else []

/-- Read at most `n` bytes at the far end. -/
def farReadSome (d : Duplex) (n : Nat) : List UInt8 × Duplex :=
  let (bytes, pipe) := d.toFar.take n
  (bytes, { d with toFar := pipe })

end Duplex

/-- Read on, at most `n` bytes, while bytes that were read before wait for room, or note that the
source has come to its end. `none` if there is nothing to read or no place for it. -/
def Copy.readAhead (c : Copy) (source : Pipe) (n : Nat) : Option (Pipe × Copy) :=
  if c.sourceEnded = true ∨ n = 0 ∨ chunk < c.pending.length + n then none
  else if source.atEnd then some (source, { c with sourceEnded := true })
  else if source.bytes.isEmpty then none
  else
    let (bytes, source) := source.take n
    some (source, { c with pending := c.pending ++ bytes })

namespace Bridge

/-- How copying ends: the output of a side came to its end and all of it was passed on, some of it
could not be passed on, or the bridge was closed. -/
inductive Ending where
  | finished (side : Side)
  | failed (side : Side)
  | closed
  deriving DecidableEq, Repr

/-- The connection to a side. -/
def connection (b : Bridge) : Side → Duplex
  | .client => b.client
  | .server => b.server

/-- Replace the connection to a side. -/
def withConnection (b : Bridge) (side : Side) (d : Duplex) : Bridge :=
  match side with
  | .client => { b with client := d }
  | .server => { b with server := d }

/-- Where the output of a side comes from. -/
def source (b : Bridge) (side : Side) : Pipe := (b.connection side).fromFar

/-- Where the output of a side is passed on to. -/
def sink (b : Bridge) (side : Side) : Pipe := (b.connection side.other).toFar

/-- The direction that copies the output of a side, while the bridge is copying. -/
def copy? (b : Bridge) (side : Side) : Option Copy :=
  match b.phase with
  | .running _ upload download =>
      match side with
      | .client => some upload
      | .server => some download
  | .fresh | .released => none

/-- Copy a step of the output of a side. -/
def copyFrom (b : Bridge) : Side → Option Bridge
  | .client => b.stepUpload
  | .server => b.stepDownload

/-- How the next step that copies the output of a side ends the bridge, if it does. -/
def ending? (b : Bridge) (side : Side) : Option Ending :=
  (b.copy? side).bind fun c =>
    match c.step (b.source side) (b.sink side) with
    | .finished => some (if c.pending.isEmpty then .finished side else .failed side)
    | .blocked | .moved .. => none

/-- Read on in the direction that copies the output of a side. -/
def readAheadFrom (b : Bridge) (side : Side) (n : Nat) : Option Bridge :=
  match b.phase with
  | .running call upload download =>
      match side with
      | .client =>
          (upload.readAhead b.client.fromFar n).map fun (source, upload) =>
            { b with
              client := { b.client with fromFar := source }
              phase := .running call upload download }
      | .server =>
          (download.readAhead b.server.fromFar n).map fun (source, download) =>
            { b with
              server := { b.server with fromFar := source }
              phase := .running call upload download }
  | .fresh | .released => none

/-- Set the flag. -/
def flag (b : Bridge) : Bridge := { b with closed := true }

/-- Let go of the connections unless a call of `connect` has taken them. -/
def letGo (b : Bridge) : Bridge :=
  match b.phase with
  | .fresh => b.release
  | .running .. | .released => b

/-- A call of `close` sets the flag and then lets go. -/
theorem close_eq (b : Bridge) : b.close = b.flag.letGo := by
  cases h : b.phase <;> simp [close, flag, letGo, release, h]

end Bridge

/-- A call of `connect`: it has begun, or it was the one with a number to come to the connections.
-/
inductive Connecting where
  | begun
  | arrived (number : Nat)
  deriving DecidableEq, Repr

/-- A call of `close`: it has set the flag, or it has returned. -/
inductive Closing where
  | flagged
  | returned
  deriving DecidableEq, Repr

/-- A bridge with the calls of `connect` and of `close` so far. -/
structure Bridging where
  bridge : Bridge
  connects : List Connecting
  closes : List Closing
  deriving DecidableEq, Repr

namespace Bridging

/-- A bridge that nobody has used, between two connections. -/
def start (client server : Duplex) : Bridging :=
  { bridge := .create client server, connects := [], closes := [] }

/-- What is to be seen: bytes that a far end wrote or read, and the end of copying. -/
inductive Sign where
  | wrote (side : Side) (bytes : List UInt8)
  | got (side : Side) (bytes : List UInt8)
  | ended (ending : Bridge.Ending)
  deriving DecidableEq, Repr

/-- The bytes that the far end of a side wrote. -/
def wroteAt (side : Side) (signs : List Sign) : List UInt8 :=
  signs.flatMap fun
    | .wrote own bytes => if own = side then bytes else []
    | .got .. | .ended _ => []

/-- The bytes that the far end of a side read. -/
def gotAt (side : Side) (signs : List Sign) : List UInt8 :=
  signs.flatMap fun
    | .got own bytes => if own = side then bytes else []
    | .wrote .. | .ended _ => []

/-- The atomic steps: those of the calls and of copying, and what happens at the far ends. -/
inductive Action where
  | beginConnect
  | arrive (connect : Nat)
  | beginClose
  | finishClose (close : Nat)
  | copy (side : Side)
  | readAhead (side : Side) (n : Nat)
  | noticeClose
  | write (side : Side) (bytes : List UInt8)
  | read (side : Side) (n : Nat)
  | shutdown (side : Side)
  | drop (side : Side)
  deriving DecidableEq, Repr

/-- Whether a step goes on with what has begun, so that nobody has to do anything for it. -/
def Action.isOwn : Action → Bool
  | arrive _ | finishClose _ | copy _ | readAhead .. | noticeClose => true
  | beginConnect | beginClose | write .. | read .. | shutdown _ | drop _ => false

/-- What an action leads to and what is to be seen of it, or `none` if it cannot be taken. -/
def step (s : Bridging) : Action → Option (Bridging × List Sign)
  | .beginConnect => some ({ s with connects := s.connects ++ [.begun] }, [])
  | .arrive i =>
      match s.connects[i]? with
      | some .begun =>
          some ({ s with
            bridge := s.bridge.connect
            connects := s.connects.set i (.arrived s.bridge.calls) }, [])
      | some (.arrived _) | none => none
  | .beginClose =>
      some ({ s with bridge := s.bridge.flag, closes := s.closes ++ [.flagged] }, [])
  | .finishClose k =>
      match s.closes[k]? with
      | some .flagged =>
          some ({ s with bridge := s.bridge.letGo, closes := s.closes.set k .returned }, [])
      | some .returned | none => none
  | .copy side =>
      (s.bridge.copyFrom side).map fun bridge =>
        ({ s with bridge }, (s.bridge.ending? side).toList.map .ended)
  | .readAhead side n => (s.bridge.readAheadFrom side n).map fun bridge => ({ s with bridge }, [])
  | .noticeClose => s.bridge.noticeClose.map fun bridge => ({ s with bridge }, [.ended .closed])
  | .write side bytes =>
      let d := s.bridge.connection side
      some ({ s with bridge := s.bridge.withConnection side (d.afterFar (.write bytes)) },
        [.wrote side (d.written bytes)])
  | .read side n =>
      let (bytes, d) := (s.bridge.connection side).farReadSome n
      some ({ s with bridge := s.bridge.withConnection side d }, [.got side bytes])
  | .shutdown side =>
      let d := s.bridge.connection side
      some ({ s with bridge := s.bridge.withConnection side (d.afterFar .shutdown) }, [])
  | .drop side =>
      let d := s.bridge.connection side
      some ({ s with bridge := s.bridge.withConnection side (d.afterFar .drop) }, [])

/-- The state after a run and all that was to be seen of it, or `none` if an action cannot be taken.
-/
def run (s : Bridging) (actions : List Action) : Option (Bridging × List Sign) :=
  runSteps step s actions

end Bridging

end GaleraProxy
