/-!
# Byte pipes

A pipe carries bytes from a writer to a reader, in order and at most `capacity` at a time. Closing
it from either end stops the writer; the reader still gets what was written before.
-/

namespace GaleraProxy

/-- Bytes on their way, and whether an end has been closed. -/
structure Pipe where
  capacity : Nat
  bytes : List UInt8
  closed : Bool
  deriving Repr, DecidableEq

namespace Pipe

/-- An empty pipe. -/
def empty (capacity : Nat) : Pipe := { capacity, bytes := [], closed := false }

/-- How many more bytes the pipe holds. -/
def room (p : Pipe) : Nat := p.capacity - p.bytes.length

/-- Whether a writer may write: a closed pipe is broken for every writer who has something to write.
-/
def accepts (p : Pipe) (bytes : List UInt8) : Bool := bytes.isEmpty || !p.closed

/-- Put in as many bytes as there is room for. The second component is what is left. -/
def put (p : Pipe) (bytes : List UInt8) : Pipe × List UInt8 :=
  ({ p with bytes := p.bytes ++ bytes.take p.room }, bytes.drop p.room)

/-- Take out at most `n` bytes. -/
def take (p : Pipe) (n : Nat) : List UInt8 × Pipe :=
  (p.bytes.take n, { p with bytes := p.bytes.drop n })

/-- Close the pipe. -/
def close (p : Pipe) : Pipe := { p with closed := true }

/-- Whether the reader has come to the end. -/
def atEnd (p : Pipe) : Bool := p.closed && p.bytes.isEmpty

end Pipe

/-- A connection between a far end and the proxy: a pipe for each direction. -/
structure Duplex where
  fromFar : Pipe
  toFar : Pipe
  deriving Repr, DecidableEq

namespace Duplex

/-- A connection without bytes on their way. -/
def empty (capacity : Nat) : Duplex := ⟨.empty capacity, .empty capacity⟩

/-- Let go of one end of the connection: nothing can be written from either end any more. -/
def drop (d : Duplex) : Duplex := ⟨d.fromFar.close, d.toFar.close⟩

/-- Write at the far end. -/
def farWrite (d : Duplex) (bytes : List UInt8) : Duplex × List UInt8 :=
  let (pipe, left) := d.fromFar.put bytes
  ({ d with fromFar := pipe }, left)

/-- End the output of the far end. -/
def farShutdown (d : Duplex) : Duplex := { d with fromFar := d.fromFar.close }

/-- Read everything that has arrived at the far end. -/
def farRead (d : Duplex) : List UInt8 × Duplex :=
  let (bytes, pipe) := d.toFar.take d.toFar.bytes.length
  (bytes, { d with toFar := pipe })

/-- What may happen at the far end of a connection. -/
inductive FarEvent where
  | write (bytes : List UInt8)
  | shutdown
  | drop
  | read
  deriving DecidableEq, Repr

/-- The connection after an event at its far end. -/
def afterFar (d : Duplex) : FarEvent → Duplex
  | .write bytes => if d.fromFar.accepts bytes then (d.farWrite bytes).1 else d
  | .shutdown => d.farShutdown
  | .drop => d.drop
  | .read => d.farRead.2

end Duplex

end GaleraProxy
