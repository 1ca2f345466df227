import GaleraProxy.Proofs.Session.Copying
import GaleraProxy.Service.Standing
import GaleraProxy.Session.Bridge

/-!
# Bridges let go of their connections

`Bridge.Sound` ties the stage of a bridge to its `closed` flag: a fresh bridge is not closed, and a
released one is closed and has dropped both connections. Every operation on a bridge keeps it, so a
bridge that has let go of a connection never takes it up again.
-/

namespace GaleraProxy

/-- One end of the connection has let go: nothing can be written from either end. -/
def Duplex.IsDropped (d : Duplex) : Prop := d.fromFar.closed = true ∧ d.toFar.closed = true

namespace Duplex

theorem drop_is_dropped (d : Duplex) : d.drop.IsDropped := ⟨rfl, rfl⟩

/-- What happens at the far end never mends a connection. -/
theorem IsDropped.after_far {d : Duplex} (h : d.IsDropped) (event : FarEvent) :
    (d.afterFar event).IsDropped := by
  obtain ⟨hfrom, hto⟩ := h
  cases event with
  | write bytes =>
      simp only [afterFar]
      split
      · exact ⟨hfrom, hto⟩
      · exact ⟨hfrom, hto⟩
  | shutdown => exact ⟨rfl, hto⟩
  | drop => exact ⟨rfl, rfl⟩
  | read => exact ⟨hfrom, hto⟩

end Duplex

namespace Bridge

/-- The bridge is copying. -/
def IsPumping (b : Bridge) : Prop := ∃ call upload download, b.phase = .running call upload download

/-- The `closed` flag and the connections fit the stage of the bridge. -/
structure Sound (b : Bridge) : Prop where
  fresh : b.phase = .fresh → b.closed = false
  released : b.phase = .released →
    b.closed = true ∧ b.client.IsDropped ∧ b.server.IsDropped

theorem not_pumping_of_fresh {b : Bridge} (h : b.phase = .fresh) : ¬ b.IsPumping := by
  rintro ⟨call, upload, download, hphase⟩
  cases h.symm.trans hphase

theorem not_pumping_of_released {b : Bridge} (h : b.phase = .released) : ¬ b.IsPumping := by
  rintro ⟨call, upload, download, hphase⟩
  cases h.symm.trans hphase

/-- A bridge is fresh, or copying, or has let go of its connections. -/
theorem phase_cases (b : Bridge) : b.phase = .fresh ∨ b.IsPumping ∨ b.phase = .released := by
  cases h : b.phase with
  | fresh => exact .inl rfl
  | running call upload download => exact .inr (.inl ⟨call, upload, download, h⟩)
  | released => exact .inr (.inr rfl)

theorem create_sound (client server : Duplex) : (create client server).Sound :=
  ⟨fun _ => rfl, by simp [create]⟩

theorem release_sound (b : Bridge) : b.release.Sound :=
  ⟨by simp [release], fun _ => ⟨rfl, b.client.drop_is_dropped, b.server.drop_is_dropped⟩⟩

/-- A copying bridge is sound whatever its flag says. -/
theorem sound_of_pumping {b : Bridge} (h : b.IsPumping) : b.Sound :=
  ⟨fun hfresh => absurd h (not_pumping_of_fresh hfresh),
    fun hreleased => absurd h (not_pumping_of_released hreleased)⟩

theorem Sound.close {b : Bridge} (h : b.Sound) : b.close.Sound := by
  rcases b.phase_cases with hphase | ⟨call, upload, download, hphase⟩ | hphase
  · simpa only [Bridge.close, hphase] using b.release_sound
  · exact sound_of_pumping ⟨call, upload, download, by simp [Bridge.close, hphase]⟩
  · refine ⟨fun hfresh => ?_, fun _ => ?_⟩
    · simp [Bridge.close, hphase] at hfresh
    · simpa [Bridge.close, hphase] using (h.released hphase).2

@[simp] theorem close_closed (b : Bridge) : b.close.closed = true := by
  unfold Bridge.close
  split <;> rfl

theorem close_phase_of_fresh {b : Bridge} (h : b.phase = .fresh) : b.close.phase = .released := by
  simp [Bridge.close, h, release]

theorem close_phase_of_not_fresh {b : Bridge} (h : b.phase ≠ .fresh) :
    b.close.phase = b.phase := by
  unfold Bridge.close
  split
  · exact absurd ‹_› h
  · rfl
  · rfl

/-- Closing a bridge that is not copying makes it let go. -/
theorem close_phase_of_not_pumping {b : Bridge} (h : ¬ b.IsPumping) :
    b.close.phase = .released := by
  rcases b.phase_cases with hphase | hphase | hphase
  · exact close_phase_of_fresh hphase
  · exact absurd hphase h
  · rw [close_phase_of_not_fresh (by simp [hphase]), hphase]

/-- Closing never starts a bridge. -/
theorem close_not_pumping {b : Bridge} (h : ¬ b.IsPumping) : ¬ b.close.IsPumping :=
  not_pumping_of_released (close_phase_of_not_pumping h)

theorem Sound.connect {b : Bridge} (h : b.Sound) : b.connect.Sound := by
  rcases b.phase_cases with hphase | ⟨call, upload, download, hphase⟩ | hphase
  · exact sound_of_pumping ⟨b.calls, .start, .start, by simp [Bridge.connect, hphase]⟩
  · exact sound_of_pumping ⟨call, upload, download, by simp [Bridge.connect, hphase]⟩
  · refine ⟨fun hfresh => ?_, fun _ => ?_⟩
    · simp [Bridge.connect, hphase] at hfresh
    · simpa [Bridge.connect, hphase] using h.released hphase

@[simp] theorem connect_closed (b : Bridge) : b.connect.closed = b.closed := by
  unfold Bridge.connect
  split <;> rfl

/-- A call of `connect` that finds no connections returns at once. -/
theorem connect_of_not_fresh {b : Bridge} (h : b.phase ≠ .fresh) :
    b.connect = { b with calls := b.calls + 1 } := by
  unfold connect
  split
  · exact absurd ‹_› h
  · rfl
  · rfl

/-- After `connect` the bridge has its connections no more at hand. -/
theorem connect_not_fresh (b : Bridge) : b.connect.phase ≠ .fresh := by
  unfold Bridge.connect
  split <;> simp_all

/-- A bridge that has let go is not started by `connect`. -/
theorem connect_phase_of_released {b : Bridge} (h : b.phase = .released) :
    b.connect.phase = .released := by
  simp [Bridge.connect, h]

/-- A step of copying leads to copying, with the flag as it was, or to the end. -/
theorem step_cases {b next : Bridge} (h : b.step = some next) :
    b.IsPumping ∧ (next.IsPumping ∧ next.closed = b.closed ∨ next = b.release) := by
  rcases b.phase_cases with hphase | ⟨call, upload, download, hphase⟩ | hphase
  · simp [step, noticeClose, stepUpload, stepDownload, hphase] at h
  · refine ⟨⟨call, upload, download, hphase⟩, ?_⟩
    simp only [step, Option.orElse_eq_orElse, Option.orElse_eq_or, Option.or_eq_some_iff,
      noticeClose, stepUpload, stepDownload, hphase] at h
    rcases h with h | ⟨-, h | ⟨-, h⟩⟩
    · split at h
      · exact .inr (Option.some.inj h).symm
      · cases h
    · split at h
      · cases h
      · exact .inr (Option.some.inj h).symm
      · obtain rfl := Option.some.inj h
        exact .inl ⟨⟨_, _, _, rfl⟩, rfl⟩
    · split at h
      · cases h
      · exact .inr (Option.some.inj h).symm
      · obtain rfl := Option.some.inj h
        exact .inl ⟨⟨_, _, _, rfl⟩, rfl⟩
  · simp [step, noticeClose, stepUpload, stepDownload, hphase] at h

theorem step_sound {b next : Bridge} (h : b.step = some next) : next.Sound := by
  rcases (step_cases h).2 with ⟨hpumping, -⟩ | rfl
  · exact sound_of_pumping hpumping
  · exact b.release_sound

/-- A step of copying does not take back that the bridge was closed. -/
theorem step_closed {b next : Bridge} (h : b.step = some next) (hnext : next.closed = false) :
    b.closed = false := by
  rcases (step_cases h).2 with ⟨-, hclosed⟩ | rfl
  · rw [← hclosed, hnext]
  · cases hnext

/-- A copying bridge that was closed does not wait: it ends. -/
theorem step_isSome_of_closed {b : Bridge} (h : b.IsPumping) (hclosed : b.closed = true) :
    b.step.isSome := by
  obtain ⟨call, upload, download, hphase⟩ := h
  simp [step, noticeClose, hphase, hclosed]

/-- Changes of the connections that mend neither of them keep a bridge sound. -/
theorem Sound.with_connections {b : Bridge} (h : b.Sound) {client server : Duplex}
    (hclient : b.client.IsDropped → client.IsDropped)
    (hserver : b.server.IsDropped → server.IsDropped) :
    Sound { b with client, server } :=
  ⟨h.fresh, fun hphase => by
    obtain ⟨hclosed, hc, hs⟩ := h.released hphase
    exact ⟨hclosed, hclient hc, hserver hs⟩⟩

end Bridge

/-!
## How copying ends

A bridge that is copying notes that a source has come to its end. `Bridge.Truthful` says that it
notes this only of a source that has been closed, and every operation on a bridge keeps it. Hence a
bridge that has not been closed ends only after one of the two sides has hung up:
`hung_up_of_release`.
-/

/-! ## One direction -/

namespace Copy

/-- A source whose end is noted has been closed. -/
def Truthful (c : Copy) (source : Pipe) : Prop := c.sourceEnded = true → source.closed = true

variable {c next : Copy} {source sink source' sink' : Pipe}

theorem start_truthful (source : Pipe) : start.Truthful source := fun h => nomatch h

/-- Copying opens and closes no pipe. -/
theorem step_closed (h : c.step source sink = .moved source' sink' next) :
    source'.closed = source.closed ∧ sink'.closed = sink.closed := by
  rcases moved_cases h with ⟨-, -, rfl, rfl, -⟩ | ⟨-, -, -, rfl, rfl, -⟩ | ⟨-, -, -, rfl, rfl, -⟩
  · exact ⟨rfl, rfl⟩
  · exact ⟨rfl, rfl⟩
  · exact ⟨rfl, rfl⟩

/-- The end of a source is noted only when it is there. -/
theorem Truthful.step (h : c.Truthful source)
    (hstep : c.step source sink = .moved source' sink' next) : next.Truthful source' := by
  intro hended
  rw [(step_closed hstep).1]
  rcases moved_cases hstep with ⟨-, -, -, -, rfl⟩ | ⟨-, -, hend, -⟩ | ⟨-, -, -, -, -, rfl⟩
  · exact h hended
  · simp only [Pipe.atEnd, Bool.and_eq_true] at hend
    exact hend.1
  · exact h hended

/-- A direction finishes because its source or its sink has been closed. -/
theorem Truthful.closed_of_finished (h : c.Truthful source)
    (hstep : c.step source sink = .finished) : source.closed = true ∨ sink.closed = true := by
  rcases finished_iff.mp hstep with ⟨-, hclosed⟩ | ⟨-, hended⟩
  · exact .inr hclosed
  · exact .inl (h hended)

end Copy

/-! ## Bridges -/

namespace Bridge

/-- The sources whose ends a bridge has noted have been closed. -/
def Truthful (b : Bridge) : Prop :=
  ∀ ⦃call : Nat⦄ ⦃upload download : Copy⦄, b.phase = .running call upload download →
    upload.Truthful b.client.fromFar ∧ download.Truthful b.server.fromFar

variable {b next : Bridge}

theorem truthful_of_not_pumping (h : ¬ b.IsPumping) : b.Truthful :=
  fun _ _ _ hphase => absurd ⟨_, _, _, hphase⟩ h

theorem Truthful.close (h : b.Truthful) : b.close.Truthful := by
  rcases b.phase_cases with hphase | ⟨call, upload, download, hphase⟩ | hphase
  · exact truthful_of_not_pumping (not_pumping_of_released (close_phase_of_fresh hphase))
  · intro call' upload' download' hphase'
    simp only [Bridge.close, hphase] at hphase' ⊢
    exact h (hphase.trans hphase')
  · refine truthful_of_not_pumping (not_pumping_of_released ?_)
    rw [close_phase_of_not_fresh (by simp [hphase]), hphase]

theorem Truthful.connect (h : b.Truthful) : b.connect.Truthful := by
  intro call upload download hphase
  unfold Bridge.connect at hphase ⊢
  split at hphase
  · obtain ⟨-, rfl, rfl⟩ := Phase.running.inj hphase
    exact ⟨Copy.start_truthful _, Copy.start_truthful _⟩
  · exact h hphase
  · exact h hphase

/-- Connections on which nothing is opened again may change. -/
theorem Truthful.with_connections (h : b.Truthful) {client server : Duplex}
    (hclient : b.client.fromFar.closed = true → client.fromFar.closed = true)
    (hserver : b.server.fromFar.closed = true → server.fromFar.closed = true) :
    Truthful { b with client, server } := by
  intro call upload download hphase
  obtain ⟨hupload, hdownload⟩ := h hphase
  exact ⟨fun hended => hclient (hupload hended), fun hended => hserver (hdownload hended)⟩

/-- What a bridge that is copying does next: it lets go, or one direction moves. -/
theorem step_direction {call : Nat} {upload download : Copy}
    (hphase : b.phase = .running call upload download) (h : b.step = some next) :
    b.closed = true ∧ next = b.release ∨
    (upload.step b.client.fromFar b.server.toFar = .finished ∨
      download.step b.server.fromFar b.client.toFar = .finished) ∧ next = b.release ∨
    (∃ source sink upload', upload.step b.client.fromFar b.server.toFar =
        .moved source sink upload' ∧ next = { b with
          client := { b.client with fromFar := source }, server := { b.server with toFar := sink }
          phase := .running call upload' download }) ∨
    ∃ source sink download', download.step b.server.fromFar b.client.toFar =
        .moved source sink download' ∧ next = { b with
          server := { b.server with fromFar := source }, client := { b.client with toFar := sink }
          phase := .running call upload download' } := by
  simp only [step, Option.orElse_eq_orElse, Option.orElse_eq_or, Option.or_eq_some_iff,
    noticeClose, stepUpload, stepDownload, hphase] at h
  rcases h with h | ⟨-, h | ⟨-, h⟩⟩
  · split at h
    · exact .inl ⟨‹_›, (Option.some.inj h).symm⟩
    · cases h
  · split at h
    · cases h
    · exact .inr (.inl ⟨.inl ‹_›, (Option.some.inj h).symm⟩)
    · exact .inr (.inr (.inl ⟨_, _, _, ‹_›, (Option.some.inj h).symm⟩))
  · split at h
    · cases h
    · exact .inr (.inl ⟨.inr ‹_›, (Option.some.inj h).symm⟩)
    · exact .inr (.inr (.inr ⟨_, _, _, ‹_›, (Option.some.inj h).symm⟩))

theorem Truthful.step (h : b.Truthful) (hstep : b.step = some next) : next.Truthful := by
  obtain ⟨call, upload, download, hphase⟩ := (step_cases hstep).1
  obtain ⟨hupload, hdownload⟩ := h hphase
  have hreleased : b.release.Truthful := truthful_of_not_pumping (not_pumping_of_released rfl)
  rcases step_direction hphase hstep with
    ⟨-, rfl⟩ | ⟨-, rfl⟩ | ⟨source, sink, upload', hmoved, rfl⟩ |
      ⟨source, sink, download', hmoved, rfl⟩
  · exact hreleased
  · exact hreleased
  · intro call' up down hphase'
    obtain ⟨-, rfl, rfl⟩ := Phase.running.inj hphase'
    exact ⟨hupload.step hmoved, hdownload⟩
  · intro call' up down hphase'
    obtain ⟨-, rfl, rfl⟩ := Phase.running.inj hphase'
    exact ⟨hupload, hdownload.step hmoved⟩

/-- A bridge that has not been closed ends because somebody has hung up. -/
theorem hung_up_of_release (h : b.Truthful) (hopen : b.closed = false)
    (hstep : b.step = some next) (hclosed : next.closed = true) : b.isHungUp = true := by
  obtain ⟨call, upload, download, hphase⟩ := (step_cases hstep).1
  obtain ⟨hupload, hdownload⟩ := h hphase
  rcases step_direction hphase hstep with
    ⟨hwas, -⟩ | ⟨hfinished, -⟩ | ⟨source, sink, upload', -, rfl⟩ | ⟨source, sink, download', -, rfl⟩
  · cases hopen.symm.trans hwas
  · rcases hfinished with hfinished | hfinished
    · rcases hupload.closed_of_finished hfinished with heq | heq <;> simp [isHungUp, heq]
    · rcases hdownload.closed_of_finished hfinished with heq | heq <;> simp [isHungUp, heq]
  · cases hopen.symm.trans hclosed
  · cases hopen.symm.trans hclosed

end Bridge

end GaleraProxy
