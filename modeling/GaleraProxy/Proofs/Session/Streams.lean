import GaleraProxy.Proofs.Session.Turns

/-!
# What a bridge passes on

Each direction of a bridge is a way from a source to a sink. `Way.Step` lists what can happen on a
way, and `Move.way` says that whatever happens to a bridge is one of these on both of its ways.
`Way.Carries` accounts for all bytes: those that were written at the one end are those that were
read at the other, then those in the sink, those that are being copied and those in the source, in
this order. A bridge that has ended has dropped what was being copied, but not of the direction that
came to its end.
-/

namespace GaleraProxy

/-- One direction of a bridge: where bytes come from, where they go to, what is copying them, and
whether the bridge has let go of both. -/
structure Way where
  source : Pipe
  sink : Pipe
  copy : Option Copy
  released : Bool

namespace Way

/-- The bytes that have been read from the source and not been written into the sink. -/
def inCopy (w : Way) : List UInt8 := (w.copy.map Copy.pending).getD []

/-- What can happen on a way, with the bytes that it takes in and gives out. -/
inductive Step : Way → Way → List UInt8 → List UInt8 → Prop where
  | stay (w : Way) : Step w w [] []
  | write (w : Way) (bytes : List UInt8) (h : w.source.closed = false) :
      Step w { w with source := (w.source.put bytes).1 } (bytes.take w.source.room) []
  | read (w : Way) (n : Nat) :
      Step w { w with sink := (w.sink.take n).2 } [] (w.sink.take n).1
  | endSource (w : Way) : Step w { w with source := w.source.close } [] []
  | endSink (w : Way) : Step w { w with sink := w.sink.close } [] []
  | start (w : Way) (hcopy : w.copy = none) (hover : w.released = false) :
      Step w { w with copy := some .start } [] []
  | copy (w : Way) {c next : Copy} {source sink : Pipe} (hcopy : w.copy = some c)
      (h : c.step w.source w.sink = .moved source sink next) :
      Step w { w with source, sink, copy := some next } [] []
  | readAhead (w : Way) {c next : Copy} {source : Pipe} {n : Nat} (hcopy : w.copy = some c)
      (h : c.readAhead w.source n = some (source, next)) :
      Step w { w with source, copy := some next } [] []
  | release (w : Way) : Step w ⟨w.source.close, w.sink.close, none, true⟩ [] []

/-- The bridge has let go of both ends: they are closed, and nothing copies any more. -/
structure IsOver (w : Way) : Prop where
  released : w.released = true
  source : w.source.closed = true
  sink : w.sink.closed = true
  copy : w.copy = none

/-- Where the bytes are that have been sent. -/
structure Carries (w : Way) (sent got : List UInt8) : Prop where
  whole : w.released = false → sent = got ++ w.sink.bytes ++ w.inCopy ++ w.source.bytes
  part : got ++ w.sink.bytes <+: sent
  noted : ∀ c, w.copy = some c → c.EndNoted w.source
  shut : w.released = true → w.IsOver

/-- All that has been sent has been passed on, and no more can be. -/
def Delivered (w : Way) (sent got : List UInt8) : Prop :=
  w.released = true ∧ sent = got ++ w.sink.bytes

variable {w w' : Way} {sent got more out : List UInt8}

/-- On a way that is over nothing more can be sent, and what is read was in the sink. -/
theorem IsOver.step (h : w.IsOver) (hstep : Step w w' more out) :
    w'.IsOver ∧ more = [] ∧ w.sink.bytes = out ++ w'.sink.bytes := by
  cases hstep with
  | stay => exact ⟨h, rfl, rfl⟩
  | write bytes hopen => cases hopen.symm.trans h.source
  | read n => exact ⟨⟨h.released, h.source, h.sink, h.copy⟩, rfl, (Copy.take_append w.sink n).symm⟩
  | endSource => exact ⟨⟨h.released, rfl, h.sink, h.copy⟩, rfl, rfl⟩
  | endSink => exact ⟨⟨h.released, h.source, rfl, h.copy⟩, rfl, rfl⟩
  | start hcopy hopen => cases hopen.symm.trans h.released
  | copy hcopy => cases h.copy.symm.trans hcopy
  | readAhead hcopy => cases h.copy.symm.trans hcopy
  | release => exact ⟨⟨rfl, rfl, rfl, rfl⟩, rfl, rfl⟩

/-- As long as a way is in use, all bytes being in their places makes for a prefix. -/
theorem Carries.of_whole (h : sent = got ++ w.sink.bytes ++ w.inCopy ++ w.source.bytes)
    (hnoted : ∀ c, w.copy = some c → c.EndNoted w.source) (hover : w.released = false) :
    w.Carries sent got where
  whole _ := h
  part := ⟨w.inCopy ++ w.source.bytes, by rw [h, List.append_assoc (got ++ w.sink.bytes)]⟩
  noted := hnoted
  shut hover' := nomatch hover.symm.trans hover'

theorem Carries.open_of_copy (h : w.Carries sent got) {c : Copy} (hcopy : w.copy = some c) :
    w.released = false := by
  cases hover : w.released with
  | false => rfl
  | true => cases (h.shut hover).copy.symm.trans hcopy

/-- A write adds to what is in the source. -/
theorem Carries.write (h : w.Carries sent got) (bytes : List UInt8)
    (hopen : w.source.closed = false) :
    Carries { w with source := (w.source.put bytes).1 } (sent ++ bytes.take w.source.room) got := by
  have hover : w.released = false := by
    cases hover : w.released with
    | false => rfl
    | true => cases hopen.symm.trans (h.shut hover).source
  refine .of_whole ?_ (fun c hc hended => ?_) hover
  · rw [h.whole hover]
    simp only [inCopy, Pipe.put, List.append_assoc]
  · -- a source whose end has been noted is not open
    have hend := h.noted c hc hended
    simp [Pipe.atEnd, hopen] at hend

/-- A read takes from what is in the sink. -/
theorem Carries.read (h : w.Carries sent got) (n : Nat) :
    Carries { w with sink := (w.sink.take n).2 } sent (got ++ (w.sink.take n).1) where
  whole hover := by
    rw [h.whole hover, List.append_assoc got (w.sink.take n).1, Copy.take_append]
    rfl
  part := by
    rw [List.append_assoc, Copy.take_append]
    exact h.part
  noted := h.noted
  shut hover := ((h.shut hover).step (.read w n)).1

/-- Whatever happens, all bytes are accounted for. -/
theorem Carries.step (h : w.Carries sent got) (hstep : Step w w' more out) :
    w'.Carries (sent ++ more) (got ++ out) := by
  cases hstep with
  | stay =>
      rw [List.append_nil, List.append_nil]
      exact h
  | write bytes hopen =>
      rw [List.append_nil]
      exact h.write bytes hopen
  | read n =>
      rw [List.append_nil]
      exact h.read n
  | endSource =>
      rw [List.append_nil, List.append_nil]
      refine ⟨h.whole, h.part, fun c hc hended => ?_,
        fun hover => ((h.shut hover).step (.endSource w)).1⟩
      have hend := h.noted c hc hended
      simp only [Pipe.atEnd, Bool.and_eq_true] at hend
      exact hend.2
  | endSink =>
      rw [List.append_nil, List.append_nil]
      exact ⟨h.whole, h.part, h.noted, fun hover => ((h.shut hover).step (.endSink w)).1⟩
  | start hcopy hover =>
      rw [List.append_nil, List.append_nil]
      refine .of_whole ?_ (fun c hc => ?_) hover
      · rw [h.whole hover]
        simp only [inCopy, hcopy]
        rfl
      · obtain rfl := Option.some.inj hc
        exact Copy.start_end_noted _
  | @copy c next source sink hcopy hmoved =>
      rw [List.append_nil, List.append_nil]
      have hover := h.open_of_copy hcopy
      refine .of_whole ?_ (fun c' hc => ?_) hover
      · have hbytes := Copy.step_bytes hmoved
        rw [h.whole hover]
        simp only [inCopy, hcopy, Option.map_some, Option.getD_some, List.append_assoc] at hbytes ⊢
        rw [hbytes]
      · obtain rfl := Option.some.inj hc
        exact (h.noted c hcopy).step hmoved
  | @readAhead c next source n hcopy hahead =>
      rw [List.append_nil, List.append_nil]
      have hover := h.open_of_copy hcopy
      refine .of_whole ?_ (fun c' hc => ?_) hover
      · have hbytes := Copy.read_ahead_bytes hahead
        rw [h.whole hover]
        simp only [inCopy, hcopy, Option.map_some, Option.getD_some, List.append_assoc]
        rw [hbytes]
      · obtain rfl := Option.some.inj hc
        exact Copy.EndNoted.read_ahead hahead
  | release =>
      rw [List.append_nil, List.append_nil]
      refine ⟨fun hover => ?_, h.part, fun c hc => ?_, fun _ => ⟨rfl, rfl, rfl, rfl⟩⟩
      · cases hover
      · cases hc

/-- A direction that came to its end has passed on all bytes. -/
theorem Carries.sent_eq (h : w.Carries sent got) {c : Copy} (hcopy : w.copy = some c)
    (hpending : c.pending = []) (hended : c.sourceEnded = true) : sent = got ++ w.sink.bytes := by
  have hend := h.noted c hcopy hended
  simp only [Pipe.atEnd, Bool.and_eq_true, List.isEmpty_iff] at hend
  rw [h.whole (h.open_of_copy hcopy), inCopy, hcopy, hend.2, Option.map_some, Option.getD_some,
    hpending, List.append_nil, List.append_nil]

/-- What has been passed on stays so: nothing more can be sent, and what is read was there. -/
theorem Delivered.step (h : w.Delivered sent got) (hcarries : w.Carries sent got)
    (hstep : Step w w' more out) : w'.Delivered (sent ++ more) (got ++ out) := by
  obtain ⟨hover', rfl, hread⟩ := (hcarries.shut h.1).step hstep
  exact ⟨hover'.released, by rw [List.append_nil, List.append_assoc, ← hread, h.2]⟩

end Way

/-! ## The two ways of a bridge -/

/-- A write at the far end puts bytes into an open pipe and none into a closed one. -/
theorem Duplex.write_cases (d : Duplex) (bytes : List UInt8) :
    (d.fromFar.closed = false ∧
      d.afterFar (.write bytes) = { d with fromFar := (d.fromFar.put bytes).1 } ∧
      d.written bytes = bytes.take d.fromFar.room) ∨
    (d.fromFar.closed = true ∧ d.afterFar (.write bytes) = d ∧ d.written bytes = []) := by
  cases hclosed : d.fromFar.closed with
  | false => exact .inl ⟨rfl, by simp [afterFar, farWrite, written, Pipe.accepts, hclosed]⟩
  | true =>
      refine .inr ⟨rfl, ?_⟩
      cases bytes with
      | nil => simp [afterFar, farWrite, written, Pipe.put]
      | cons byte rest => simp [afterFar, written, Pipe.accepts, hclosed]

namespace Bridging

theorem wrote_at_append (side : Side) (first second : List Sign) :
    wroteAt side (first ++ second) = wroteAt side first ++ wroteAt side second :=
  List.flatMap_append

theorem got_at_append (side : Side) (first second : List Sign) :
    gotAt side (first ++ second) = gotAt side first ++ gotAt side second :=
  List.flatMap_append

theorem wrote_at_wrote (side own : Side) (bytes : List UInt8) :
    wroteAt side [.wrote own bytes] = if own = side then bytes else [] := by
  simp [wroteAt]

theorem got_at_got (side own : Side) (bytes : List UInt8) :
    gotAt side [.got own bytes] = if own = side then bytes else [] := by
  simp [gotAt]

end Bridging

namespace Bridge

/-- The bridge has let go of its connections. -/
def isReleased (b : Bridge) : Bool :=
  match b.phase with
  | .released => true
  | .fresh | .running .. => false

/-- The way of the output of a side. -/
def way (b : Bridge) (side : Side) : Way :=
  { source := b.source side, sink := b.sink side, copy := b.copy? side, released := b.isReleased }

variable {b next : Bridge} {side : Side} {signs : List Bridging.Sign}

theorem release_way (b : Bridge) (side : Side) :
    Way.Step (b.way side) (b.release.way side) [] [] := by
  have heq : b.release.way side = ⟨(b.source side).close, (b.sink side).close, none, true⟩ := by
    cases side <;> rfl
  rw [heq]
  exact .release _

theorem connect_way (b : Bridge) (side : Side) :
    Way.Step (b.way side) (b.connect.way side) [] [] := by
  by_cases hphase : b.phase = .fresh
  · have heq : b.connect.way side = { b.way side with copy := some .start } := by
      cases side <;> simp [way, connect, hphase, source, sink, connection, copy?, isReleased,
        Side.other]
    rw [heq]
    exact .start _ (by simp [way, copy?, hphase]) (by simp [way, isReleased, hphase])
  · rw [connect_of_not_fresh hphase]
    have heq : way { b with calls := b.calls + 1 } side = b.way side := by cases side <;> rfl
    rw [heq]
    exact .stay _

theorem let_go_way (b : Bridge) (side : Side) :
    Way.Step (b.way side) (b.letGo.way side) [] [] := by
  unfold letGo
  split
  · exact b.release_way side
  · exact .stay _
  · exact .stay _

/-- A direction that moves changes its own way and leaves the other one as it was. -/
theorem with_copy_way {c : Copy} (hcopy : b.copy? side = some c) (source sink : Pipe) (next : Copy)
    (side' : Side) : (b.withCopy side source sink next).way side' =
      if side' = side then { b.way side with source, sink, copy := some next }
      else b.way side' := by
  obtain ⟨call, upload, download, hphase⟩ := pumping_of_copy hcopy
  cases side <;> cases side' <;>
    simp [way, withCopy, withConnection, connection, Phase.withCopy, Bridge.source, Bridge.sink,
      copy?, isReleased, Side.other, hphase]

/-- What happens at the far end of a side happens to the source of the one way and to the sink of
the other. -/
theorem with_connection_way (b : Bridge) (side : Side) (d : Duplex) (more out : List UInt8)
    (hsource : Way.Step (b.way side) { b.way side with source := d.fromFar } more [])
    (hsink : ∀ side', side = side'.other →
      Way.Step (b.way side') { b.way side' with sink := d.toFar } [] out) (side' : Side) :
    Way.Step (b.way side') ((b.withConnection side d).way side')
      (if side = side' then more else []) (if side = side'.other then out else []) := by
  cases side <;> cases side'
  · exact hsource
  · exact hsink .server rfl
  · exact hsink .client rfl
  · exact hsource

theorem write_way (b : Bridge) (own side : Side) (bytes : List UInt8) :
    Way.Step (b.way side)
      ((b.withConnection own ((b.connection own).afterFar (.write bytes))).way side)
      (if own = side then (b.connection own).written bytes else []) [] := by
  have hway := b.with_connection_way own ((b.connection own).afterFar (.write bytes))
    ((b.connection own).written bytes) [] ?source ?sink side
  case source =>
    rcases (b.connection own).write_cases bytes with ⟨hopen, heq, hwritten⟩ | ⟨-, heq, hwritten⟩
    · rw [heq, hwritten]
      exact .write _ bytes hopen
    · rw [heq, hwritten]
      exact .stay _
  case sink =>
    rintro side' rfl
    rcases (b.connection side'.other).write_cases bytes with ⟨-, heq, -⟩ | ⟨-, heq, -⟩
    · rw [heq]
      exact .stay _
    · rw [heq]
      exact .stay _
  rwa [ite_self] at hway

theorem read_way (b : Bridge) (own side : Side) (n : Nat) :
    Way.Step (b.way side) ((b.withConnection own ((b.connection own).farReadSome n).2).way side)
      [] (if own = side.other then ((b.connection own).farReadSome n).1 else []) := by
  have hway := b.with_connection_way own ((b.connection own).farReadSome n).2 []
    ((b.connection own).farReadSome n).1 (.stay _) ?sink side
  case sink =>
    rintro side' rfl
    exact .read _ n
  rwa [ite_self] at hway

theorem shutdown_way (b : Bridge) (own side : Side) :
    Way.Step (b.way side)
      ((b.withConnection own ((b.connection own).afterFar .shutdown)).way side) [] [] := by
  have hway := b.with_connection_way own ((b.connection own).afterFar .shutdown) [] []
    (.endSource _) ?sink side
  case sink =>
    rintro side' rfl
    exact .stay _
  rwa [ite_self, ite_self] at hway

theorem drop_way (b : Bridge) (own side : Side) :
    Way.Step (b.way side)
      ((b.withConnection own ((b.connection own).afterFar .drop)).way side) [] [] := by
  have hway := b.with_connection_way own ((b.connection own).afterFar .drop) [] []
    (.endSource _) ?sink side
  case sink =>
    rintro side' rfl
    exact .endSink _
  rwa [ite_self, ite_self] at hway

open Bridging in
/-- Whatever copying and the far ends do is a step of both ways, with the bytes that are written and
read at their ends. -/
theorem Turn.way (h : b.Turn next signs) (side : Side) :
    Way.Step (b.way side) (next.way side) (wroteAt side signs) (gotAt side.other signs) := by
  cases h with
  | copy hcopy hmoved =>
      rw [with_copy_way hcopy]
      split
      · subst side
        exact .copy _ hcopy hmoved
      · exact .stay _
  | readAhead hcopy hahead =>
      rw [with_copy_way hcopy]
      split
      · subst side
        exact .readAhead _ hcopy hahead
      · exact .stay _
  | finish | noticeClose => exact b.release_way side
  | write own bytes =>
      rw [wrote_at_wrote]
      exact b.write_way own side bytes
  | read own n =>
      rw [got_at_got]
      exact b.read_way own side n
  | shutdown own => exact b.shutdown_way own side
  | drop own => exact b.drop_way own side

end Bridge

/-! ## Runs -/

namespace Bridging

variable {s t : Bridging} {seen signs : List Sign}

/-- Whatever happens is a step of both ways. -/
theorem Move.way (h : s.Move t seen) (side : Side) :
    Way.Step (s.bridge.way side) (t.bridge.way side) (wroteAt side seen)
      (gotAt side.other seen) := by
  cases h with
  | beginConnect => exact .stay _
  | arrive => exact s.bridge.connect_way side
  | beginClose =>
      have heq : s.bridge.flag.way side = s.bridge.way side := by cases side <;> rfl
      rw [heq]
      exact .stay _
  | finishClose => exact s.bridge.let_go_way side
  | turn hturn => exact hturn.way side

/-- Where the bytes are that have been written, for the bridge and what has been seen of it. -/
structure Accounts (s : Bridging) (signs : List Sign) : Prop where
  carries : ∀ side, (s.bridge.way side).Carries (wroteAt side signs) (gotAt side.other signs)
  delivered : ∀ side, .ended (.finished side) ∈ signs →
    (s.bridge.way side).Delivered (wroteAt side signs) (gotAt side.other signs)

/-- Nothing has been written yet. -/
theorem start_accounts (clientIn clientOut serverIn serverOut : Nat) :
    Accounts (start (.between clientIn clientOut) (.between serverIn serverOut)) [] where
  carries side := by
    refine .of_whole ?_ (fun c hc => ?_) rfl
    · cases side <;> rfl
    · cases side <;> cases hc
  delivered side hended := nomatch hended

/-- A direction that comes to its end has passed on all bytes. -/
theorem Accounts.ended (h : s.Accounts signs) {next : Bridge} (hturn : s.bridge.Turn next seen)
    {side : Side} (hended : .ended (.finished side) ∈ seen) :
    (next.way side).Delivered (wroteAt side signs ++ wroteAt side seen)
      (gotAt side.other signs ++ gotAt side.other seen) := by
  cases hturn with
  | @finish own c hcopy hfinished =>
      have heq := Sign.ended.inj (List.mem_singleton.mp hended)
      split at heq
      · rename_i hpending
        obtain rfl := Bridge.Ending.finished.inj heq
        rw [List.isEmpty_iff] at hpending
        have hend : c.sourceEnded = true := by
          rcases Copy.finished_iff.mp hfinished with ⟨hne, -⟩ | ⟨-, hend⟩
          · exact absurd hpending hne
          · exact hend
        have hsent := (h.carries side).sent_eq hcopy hpending hend
        refine ⟨rfl, ?_⟩
        have hsink : ((s.bridge.release.way side).sink).bytes = (s.bridge.way side).sink.bytes := by
          cases side <;> rfl
        rw [hsink]
        simpa [wroteAt, gotAt] using hsent
      · cases heq
  | noticeClose => cases Sign.ended.inj (List.mem_singleton.mp hended)
  | write | read => cases List.mem_singleton.mp hended
  | copy | readAhead | shutdown | drop => cases hended

theorem Accounts.move (h : s.Accounts signs) (hmove : s.Move t seen) :
    t.Accounts (signs ++ seen) where
  carries side := by
    rw [wrote_at_append, got_at_append]
    exact (h.carries side).step (hmove.way side)
  delivered side hended := by
    rw [wrote_at_append, got_at_append]
    rcases List.mem_append.mp hended with hbefore | hnow
    · exact (h.delivered side hbefore).step (h.carries side) (hmove.way side)
    · cases hmove with
      | turn hturn => exact h.ended hturn hnow
      | beginConnect | arrive | beginClose | finishClose => cases hnow

/-- For every run of a bridge between two connections, whatever its pipes hold. What the far end of
a side has read is a prefix of what was written at the far end of the other side. If copying ended
because the output of a side came to its end, then all that was written there has been passed on:
what has not been read of it is in the pipe to the other far end, which is closed, and it has been
read as soon as that end has come to the end of its pipe. -/
theorem streams_in_order (clientIn clientOut serverIn serverOut : Nat) (actions : List Action)
    {s : Bridging} {signs : List Sign}
    (hrun : (start (.between clientIn clientOut) (.between serverIn serverOut)).run actions =
      some (s, signs)) (side : Side) :
    gotAt side.other signs <+: wroteAt side signs ∧
    (.ended (.finished side) ∈ signs →
      wroteAt side signs = gotAt side.other signs ++ (s.bridge.sink side).bytes ∧
      (s.bridge.sink side).closed = true ∧
      ((s.bridge.sink side).atEnd = true → gotAt side.other signs = wroteAt side signs)) := by
  have h : s.Accounts signs :=
    run_steps_induction (fun h hstep => h.move (step_move hstep)) hrun
      (start_accounts clientIn clientOut serverIn serverOut)
  refine ⟨(List.prefix_append _ _).trans (h.carries side).part, fun hended => ?_⟩
  obtain ⟨hover, hsent⟩ := h.delivered side hended
  refine ⟨hsent, ((h.carries side).shut hover).sink, fun hend => ?_⟩
  simp only [Pipe.atEnd, Bool.and_eq_true, List.isEmpty_iff] at hend
  rw [hsent]
  exact (List.append_nil _).symm.trans (congrArg _ hend.2.symm)

/-- The client writes before `connect` has come to the connections and writes more than there is
room for, then ends its output; the server reads while the bridge copies. -/
def hangUpActions : List Action :=
  [.beginConnect, .write .client [1, 2, 3], .arrive 0, .copy .client,
    .write .client [4, 5, 6, 7, 8], .copy .client, .readAhead .client 3, .readAhead .client 8,
    .shutdown .client, .readAhead .client 1, .read .server 1, .copy .client, .read .server 2,
    .copy .client, .read .server 5, .copy .client, .copy .client, .read .server 1]

/-- When the bridge ends, a byte is on its way that the server has not read. -/
theorem streams_in_order_of_hang_up : ∃ s signs,
    (start (.between 4 0) (.between 0 2)).run hangUpActions = some (s, signs) ∧
    .ended (.finished .client) ∈ signs ∧
    wroteAt .client signs = [1, 2, 3, 4, 5, 6, 7] ∧ gotAt .server signs <+: wroteAt .client signs ∧
    wroteAt .client signs = gotAt .server signs ++ (s.bridge.sink .client).bytes ∧
    (s.bridge.sink .client).bytes = [7] := by
  have hend : ((start (.between 4 0) (.between 0 2)).run hangUpActions).any (fun (s, signs) =>
      .ended (.finished .client) ∈ signs ∧ wroteAt .client signs = [1, 2, 3, 4, 5, 6, 7] ∧
      (s.bridge.sink .client).bytes = [7]) = true := by
    decide +kernel
  obtain ⟨⟨s, signs⟩, hrun, hseen⟩ := (Option.any_eq_true _ _).mp hend
  obtain ⟨hended, hwrote, hleft⟩ := of_decide_eq_true hseen
  obtain ⟨horder, hall⟩ := streams_in_order 4 0 0 2 hangUpActions hrun .client
  exact ⟨s, signs, hrun, hended, hwrote, horder, (hall hended).1, hleft⟩

end Bridging

end GaleraProxy
