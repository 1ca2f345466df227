import GaleraProxy.Proofs.Session.Copying
import GaleraProxy.Proofs.Session.Release

/-!
# What can happen to a bridge

`Bridge.Turn` lists what copying and the far ends can do to a bridge, with what is to be seen of it,
and `Bridging.Move` adds what the calls of `connect` and `close` do. Every step of a bridge at work
is one of these: `step_move`.
-/

namespace GaleraProxy

namespace Bridge

/-- The phase with another state of the direction that copies the output of a side. -/
def Phase.withCopy (side : Side) (c : Copy) : Phase → Phase
  | .running call upload download =>
      match side with
      | .client => .running call c download
      | .server => .running call upload c
  | .fresh => .fresh
  | .released => .released

/-- The bridge after the direction that copies the output of a side has moved. -/
def withCopy (b : Bridge) (side : Side) (source sink : Pipe) (c : Copy) : Bridge :=
  let b := b.withConnection side { b.connection side with fromFar := source }
  let b := b.withConnection side.other { b.connection side.other with toFar := sink }
  { b with phase := b.phase.withCopy side c }

variable {b next : Bridge} {side : Side}

theorem pumping_of_copy {c : Copy} (h : b.copy? side = some c) : b.IsPumping := by
  rcases b.phase_cases with hphase | hpumping | hphase
  · simp [copy?, hphase] at h
  · exact hpumping
  · simp [copy?, hphase] at h

/-- A step that copies the output of a side ends the bridge, or the direction moves. -/
theorem copy_from_cases (h : b.copyFrom side = some next) : ∃ c, b.copy? side = some c ∧
    (c.step (b.source side) (b.sink side) = .finished ∧ next = b.release ∨
      ∃ source sink c', c.step (b.source side) (b.sink side) = .moved source sink c' ∧
        next = b.withCopy side source sink c') := by
  have hpumping : b.IsPumping := by
    rcases b.phase_cases with hphase | hpumping | hphase
    · cases side <;> simp [copyFrom, stepUpload, stepDownload, hphase] at h
    · exact hpumping
    · cases side <;> simp [copyFrom, stepUpload, stepDownload, hphase] at h
  obtain ⟨call, upload, download, hphase⟩ := hpumping
  cases side with
  | client =>
      refine ⟨upload, by simp [copy?, hphase], ?_⟩
      simp only [copyFrom, stepUpload, hphase] at h
      split at h
      · cases h
      · exact .inl ⟨‹_›, (Option.some.inj h).symm⟩
      · refine .inr ⟨_, _, _, ‹_›, ?_⟩
        rw [← Option.some.inj h]
        simp [withCopy, withConnection, connection, Phase.withCopy, Side.other, hphase]
  | server =>
      refine ⟨download, by simp [copy?, hphase], ?_⟩
      simp only [copyFrom, stepDownload, hphase] at h
      split at h
      · cases h
      · exact .inl ⟨‹_›, (Option.some.inj h).symm⟩
      · refine .inr ⟨_, _, _, ‹_›, ?_⟩
        rw [← Option.some.inj h]
        simp [withCopy, withConnection, connection, Phase.withCopy, Side.other, hphase]

/-- Reading on moves one direction and leaves its sink as it was. -/
theorem read_ahead_from_cases {n : Nat} (h : b.readAheadFrom side n = some next) :
    ∃ c source c', b.copy? side = some c ∧ c.readAhead (b.source side) n = some (source, c') ∧
      next = b.withCopy side source (b.sink side) c' := by
  have hpumping : b.IsPumping := by
    rcases b.phase_cases with hphase | hpumping | hphase
    · simp [readAheadFrom, hphase] at h
    · exact hpumping
    · simp [readAheadFrom, hphase] at h
  obtain ⟨call, upload, download, hphase⟩ := hpumping
  cases side with
  | client =>
      simp only [readAheadFrom, hphase] at h
      obtain ⟨⟨source, c'⟩, hahead, rfl⟩ := Option.map_eq_some_iff.mp h
      exact ⟨upload, source, c', by simp [copy?, hphase], hahead,
        by simp [withCopy, withConnection, connection, Phase.withCopy, Side.other, hphase, sink]⟩
  | server =>
      simp only [readAheadFrom, hphase] at h
      obtain ⟨⟨source, c'⟩, hahead, rfl⟩ := Option.map_eq_some_iff.mp h
      exact ⟨download, source, c', by simp [copy?, hphase], hahead,
        by simp [withCopy, withConnection, connection, Phase.withCopy, Side.other, hphase, sink]⟩

/-- A bridge notices that it was closed while it copies, and lets go. -/
theorem notice_close_cases (h : b.noticeClose = some next) :
    b.IsPumping ∧ b.closed = true ∧ next = b.release := by
  unfold noticeClose at h
  split at h
  · split at h
    · exact ⟨⟨_, _, _, ‹_›⟩, ‹_›, (Option.some.inj h).symm⟩
    · cases h
  · cases h
  · cases h

/-- What copying and the far ends can do to a bridge, and what is to be seen of it. -/
inductive Turn (b : Bridge) : Bridge → List Bridging.Sign → Prop where
  | copy {side : Side} {c next : Copy} {source sink : Pipe} (hcopy : b.copy? side = some c)
      (h : c.step (b.source side) (b.sink side) = .moved source sink next) :
      Turn b (b.withCopy side source sink next) []
  | readAhead {side : Side} {c next : Copy} {source : Pipe} {n : Nat}
      (hcopy : b.copy? side = some c) (h : c.readAhead (b.source side) n = some (source, next)) :
      Turn b (b.withCopy side source (b.sink side) next) []
  | finish {side : Side} {c : Copy} (hcopy : b.copy? side = some c)
      (h : c.step (b.source side) (b.sink side) = .finished) :
      Turn b b.release [.ended (if c.pending.isEmpty then .finished side else .failed side)]
  | noticeClose (hpumping : b.IsPumping) (hclosed : b.closed = true) :
      Turn b b.release [.ended .closed]
  | write (side : Side) (bytes : List UInt8) :
      Turn b (b.withConnection side ((b.connection side).afterFar (.write bytes)))
        [.wrote side ((b.connection side).written bytes)]
  | read (side : Side) (n : Nat) :
      Turn b (b.withConnection side ((b.connection side).farReadSome n).2)
        [.got side ((b.connection side).farReadSome n).1]
  | shutdown (side : Side) :
      Turn b (b.withConnection side ((b.connection side).afterFar .shutdown)) []
  | drop (side : Side) : Turn b (b.withConnection side ((b.connection side).afterFar .drop)) []

/-- A step that copies the output of a side, with what is to be seen of it. -/
theorem copy_from_turn (h : b.copyFrom side = some next) :
    b.Turn next ((b.ending? side).toList.map .ended) := by
  obtain ⟨c, hcopy, ⟨hfinished, rfl⟩ | ⟨source, sink, c', hmoved, rfl⟩⟩ := copy_from_cases h
  · have hending : b.ending? side =
        some (if c.pending.isEmpty then .finished side else .failed side) := by
      simp only [ending?, hcopy, hfinished, Option.bind_some]
    rw [hending]
    exact .finish hcopy hfinished
  · have hending : b.ending? side = none := by
      simp only [ending?, hcopy, hmoved, Option.bind_some]
    rw [hending]
    exact .copy hcopy hmoved

end Bridge

namespace Bridging

/-- Everything that a step can be, and what is to be seen of it. -/
inductive Move (s : Bridging) : Bridging → List Sign → Prop where
  | beginConnect : Move s { s with connects := s.connects ++ [.begun] } []
  | arrive (i : Nat) (h : s.connects[i]? = some .begun) :
      Move s { s with
        bridge := s.bridge.connect
        connects := s.connects.set i (.arrived s.bridge.calls) } []
  | beginClose :
      Move s { s with bridge := s.bridge.flag, closes := s.closes ++ [.flagged] } []
  | finishClose (k : Nat) (h : s.closes[k]? = some .flagged) :
      Move s { s with bridge := s.bridge.letGo, closes := s.closes.set k .returned } []
  | turn {next : Bridge} {signs : List Sign} (h : s.bridge.Turn next signs) :
      Move s { s with bridge := next } signs

theorem step_move {s t : Bridging} {action : Action} {seen : List Sign}
    (h : s.step action = some (t, seen)) : s.Move t seen := by
  cases action with
  | beginConnect =>
      obtain ⟨rfl, rfl⟩ := Prod.mk.inj (Option.some.inj h)
      exact .beginConnect
  | arrive i =>
      simp only [step] at h
      split at h
      · obtain ⟨rfl, rfl⟩ := Prod.mk.inj (Option.some.inj h)
        exact .arrive i ‹_›
      · cases h
      · cases h
  | beginClose =>
      obtain ⟨rfl, rfl⟩ := Prod.mk.inj (Option.some.inj h)
      exact .beginClose
  | finishClose k =>
      simp only [step] at h
      split at h
      · obtain ⟨rfl, rfl⟩ := Prod.mk.inj (Option.some.inj h)
        exact .finishClose k ‹_›
      · cases h
      · cases h
  | copy side =>
      obtain ⟨next, hnext, heq⟩ := Option.map_eq_some_iff.mp h
      obtain ⟨rfl, rfl⟩ := Prod.mk.inj heq
      exact .turn (Bridge.copy_from_turn hnext)
  | readAhead side n =>
      obtain ⟨next, hnext, heq⟩ := Option.map_eq_some_iff.mp h
      obtain ⟨rfl, rfl⟩ := Prod.mk.inj heq
      obtain ⟨c, source, c', hcopy, hahead, rfl⟩ := Bridge.read_ahead_from_cases hnext
      exact .turn (.readAhead hcopy hahead)
  | noticeClose =>
      obtain ⟨next, hnext, heq⟩ := Option.map_eq_some_iff.mp h
      obtain ⟨rfl, rfl⟩ := Prod.mk.inj heq
      obtain ⟨hpumping, hclosed, rfl⟩ := Bridge.notice_close_cases hnext
      exact .turn (.noticeClose hpumping hclosed)
  | write side bytes =>
      obtain ⟨rfl, rfl⟩ := Prod.mk.inj (Option.some.inj h)
      exact .turn (.write side bytes)
  | read side n =>
      obtain ⟨rfl, rfl⟩ := Prod.mk.inj (Option.some.inj h)
      exact .turn (.read side n)
  | shutdown side =>
      obtain ⟨rfl, rfl⟩ := Prod.mk.inj (Option.some.inj h)
      exact .turn (.shutdown side)
  | drop side =>
      obtain ⟨rfl, rfl⟩ := Prod.mk.inj (Option.some.inj h)
      exact .turn (.drop side)

end Bridging

end GaleraProxy
