/-
The task that accepts the streams of a connection.

The task reads the index of a stream before it accepts the next one, and returns at the
first index that it cannot read.  Here the streams that the peer opens stand in the order
in which `accept_bi` yields them, and what happens to each is an action of its own.
-/
import GameSockets.Quic.Accept

namespace GameSockets
namespace Quic

open Library

/-- A stream that the peer has opened, up to its index. -/
structure IncomingStream where
  /-- the bytes of the index that have arrived -/
  header : Bytes
  /-- the peer has reset the stream, which discards what has arrived -/
  reset : Bool
  /-- the peer has finished the stream -/
  finished : Bool
  size : header.length ≤ 2

/-- What the peer does on a stream that it has opened. -/
inductive StreamEvent where
  | byte (b : UInt8)
  | reset
  | finish

namespace IncomingStream

def opened : IncomingStream :=
  { header := [], reset := false, finished := false, size := Nat.zero_le 2 }

/-- `read_u16` finds the index. -/
def Complete (st : IncomingStream) : Prop := st.reset = false ∧ st.header.length = 2

/-- `read_u16` waits for nothing more. -/
def Ended (st : IncomingStream) : Prop := st.reset = true ∨ st.finished = true

instance decidableComplete (st : IncomingStream) : Decidable st.Complete :=
  inferInstanceAs (Decidable (_ ∧ _))

instance decidableEnded (st : IncomingStream) : Decidable st.Ended :=
  inferInstanceAs (Decidable (_ ∨ _))

/-- The stream after an event.  Bytes beyond the index are the stream reader's. -/
def receive (st : IncomingStream) : StreamEvent → Option IncomingStream
  | .byte b =>
    if h : st.header.length < 2 then
      if st.Ended then none
      else
        some
          { st with
            header := st.header ++ [b],
            size := by rw [List.length_append, List.length_singleton]; omega }
    else none
  | .reset => some { st with reset := true }
  | .finish => some { st with finished := true }

theorem complete_of_byte {st st' : IncomingStream} {b : UInt8}
    (h : st.receive (.byte b) = some st') :
    ¬ st.Complete ∧ (st'.Complete ↔ st.header.length = 1) := by
  simp only [receive] at h
  split at h
  · next hlt =>
    split at h
    · cases h
    · next hopen =>
      cases h
      have hreset : st.reset = false := Bool.eq_false_iff.mpr fun hreset => hopen (Or.inl hreset)
      refine ⟨fun hcomplete => absurd hcomplete.2 (Nat.ne_of_lt hlt), ?_⟩
      simp [Complete, hreset]
  · cases h

theorem complete_of_reset {st st' : IncomingStream} (h : st.receive .reset = some st') :
    ¬ st'.Complete := by
  cases h
  rintro ⟨hreset, -⟩
  cases hreset

theorem complete_of_finish {st st' : IncomingStream} (h : st.receive .finish = some st') :
    st'.Complete ↔ st.Complete := by
  cases h
  exact Iff.rfl

end IncomingStream

inductive StreamAcceptPhase where
  /-- in `accept_bi` -/
  | accepting
  /-- in `read_u16` of the next stream to register -/
  | reading
  /-- the task has returned -/
  | ended
deriving DecidableEq

/-- The task that accepts the streams of a connection, and the streams. -/
structure StreamAcceptor where
  incoming : List IncomingStream
  /-- how many of them the task has registered -/
  registered : Nat
  phase : StreamAcceptPhase
  /-- the connection is alive -/
  alive : Bool

namespace StreamAcceptor

def init : StreamAcceptor := { incoming := [], registered := 0, phase := .accepting, alive := true }

/-- The index of stream `j` has arrived. -/
def CompleteAt (acc : StreamAcceptor) (j : Nat) : Prop := ∃ st ∈ acc.incoming[j]?, st.Complete

instance decidableCompleteAt (acc : StreamAcceptor) (j : Nat) : Decidable (acc.CompleteAt j) :=
  inferInstanceAs (Decidable (∃ st ∈ acc.incoming[j]?, st.Complete))

/-- The task runs, and among the streams that it has not registered those with a complete
index come first. -/
def InOrder (acc : StreamAcceptor) : Prop :=
  acc.phase ≠ .ended ∧
    ∀ j, acc.registered ≤ j → acc.CompleteAt j →
      ∀ i, acc.registered ≤ i → i < j → acc.CompleteAt i

theorem completeAt_iff {acc : StreamAcceptor} {j : Nat} {st : IncomingStream}
    (hst : acc.incoming[j]? = some st) : acc.CompleteAt j ↔ st.Complete := by
  simp [CompleteAt, hst]

theorem CompleteAt.lt_length {acc : StreamAcceptor} {j : Nat} (h : acc.CompleteAt j) :
    j < acc.incoming.length := by
  obtain ⟨st, hst, -⟩ := h
  exact (List.getElem?_eq_some_iff.mp hst).1

/-- A stream just opened has no index. -/
theorem completeAt_opened (acc : StreamAcceptor) (j : Nat) :
    ({ acc with incoming := acc.incoming ++ [.opened] } : StreamAcceptor).CompleteAt j ↔
      acc.CompleteAt j := by
  rcases lt_trichotomy j acc.incoming.length with hlt | rfl | hlt
  · simp [CompleteAt, List.getElem?_append_left hlt]
  · simp [CompleteAt, IncomingStream.Complete, IncomingStream.opened]
  · have hnone : (acc.incoming ++ [.opened])[j]? = none := by
      rw [List.getElem?_eq_none_iff, List.length_append, List.length_singleton]
      omega
    simp [CompleteAt, hnone, List.getElem?_eq_none_iff.mpr (Nat.le_of_lt hlt)]

theorem completeAt_set_self {acc : StreamAcceptor} {j : Nat} {st : IncomingStream}
    (hj : j < acc.incoming.length) :
    ({ acc with incoming := acc.incoming.set j st } : StreamAcceptor).CompleteAt j ↔
      st.Complete :=
  completeAt_iff (List.getElem?_set_self hj)

theorem completeAt_set_of_ne {acc : StreamAcceptor} {i j : Nat} {st : IncomingStream}
    (hne : j ≠ i) :
    ({ acc with incoming := acc.incoming.set j st } : StreamAcceptor).CompleteAt i ↔
      acc.CompleteAt i := by
  rw [CompleteAt, List.getElem?_set_ne hne, ← CompleteAt]

theorem inOrder_opened {acc : StreamAcceptor} (h : acc.InOrder) :
    ({ acc with incoming := acc.incoming ++ [.opened] } : StreamAcceptor).InOrder := by
  refine ⟨h.1, fun j hj hcomplete i hi hlt => ?_⟩
  rw [completeAt_opened] at hcomplete ⊢
  exact h.2 j hj hcomplete i hi hlt

theorem inOrder_registered {acc : StreamAcceptor} (h : acc.InOrder) :
    ({ acc with registered := acc.registered + 1, phase := .accepting } : StreamAcceptor).InOrder :=
  ⟨nofun, fun j hj hcomplete i hi hlt =>
    h.2 j (Nat.le_of_succ_le hj) hcomplete i (Nat.le_of_succ_le hi) hlt⟩

/-- A byte keeps the order unless it completes an index before an earlier one. -/
theorem inOrder_byte_iff {acc : StreamAcceptor} (h : acc.InOrder) {j : Nat}
    {st st' : IncomingStream} {b : UInt8} (hst : acc.incoming[j]? = some st)
    (hreceive : st.receive (.byte b) = some st') :
    ({ acc with incoming := acc.incoming.set j st' } : StreamAcceptor).InOrder ↔
      (st.header.length = 1 → ∀ i < j, acc.registered ≤ i → acc.CompleteAt i) := by
  have hj : j < acc.incoming.length := (List.getElem?_eq_some_iff.mp hst).1
  obtain ⟨hbefore, hafter⟩ := IncomingStream.complete_of_byte hreceive
  constructor
  · intro h' hone i hlt hi
    have hcomplete := h'.2 j (le_trans hi (Nat.le_of_lt hlt))
      ((completeAt_set_self hj).mpr (hafter.mpr hone)) i hi hlt
    rwa [completeAt_set_of_ne (Nat.ne_of_gt hlt)] at hcomplete
  · intro hone
    refine ⟨h.1, fun k hk hcomplete i hi hlt => ?_⟩
    by_cases hkj : j = k
    · subst hkj
      rw [completeAt_set_self hj, hafter] at hcomplete
      rw [completeAt_set_of_ne (Nat.ne_of_gt hlt)]
      exact hone hcomplete i hlt hi
    · rw [completeAt_set_of_ne hkj] at hcomplete
      have hcomplete' := h.2 k hk hcomplete i hi hlt
      have hne : j ≠ i := by
        rintro rfl
        exact hbefore ((completeAt_iff hst).mp hcomplete')
      rwa [completeAt_set_of_ne hne]

/-- A reset keeps the order unless a later index is complete. -/
theorem inOrder_reset_iff {acc : StreamAcceptor} (h : acc.InOrder) {j : Nat}
    {st st' : IncomingStream} (hst : acc.incoming[j]? = some st)
    (hreceive : st.receive .reset = some st') :
    ({ acc with incoming := acc.incoming.set j st' } : StreamAcceptor).InOrder ↔
      (acc.registered ≤ j → acc.CompleteAt j →
        ∀ k < acc.incoming.length, j < k → ¬ acc.CompleteAt k) := by
  have hj : j < acc.incoming.length := (List.getElem?_eq_some_iff.mp hst).1
  have hafter := IncomingStream.complete_of_reset hreceive
  constructor
  · intro h' hle _ k _ hlt hk
    have hcomplete := h'.2 k (le_trans hle (Nat.le_of_lt hlt))
      ((completeAt_set_of_ne (Nat.ne_of_lt hlt)).mpr hk) j hle hlt
    exact hafter ((completeAt_set_self hj).mp hcomplete)
  · intro hlast
    refine ⟨h.1, fun k hk hcomplete i hi hlt => ?_⟩
    have hkj : j ≠ k := by
      rintro rfl
      exact hafter ((completeAt_set_self hj).mp hcomplete)
    rw [completeAt_set_of_ne hkj] at hcomplete
    have hcomplete' := h.2 k hk hcomplete i hi hlt
    have hne : j ≠ i := by
      rintro rfl
      exact hlast hi hcomplete' k hcomplete.lt_length hlt hcomplete
    rwa [completeAt_set_of_ne hne]

theorem inOrder_finish {acc : StreamAcceptor} (h : acc.InOrder) {j : Nat}
    {st st' : IncomingStream} (hst : acc.incoming[j]? = some st)
    (hreceive : st.receive .finish = some st') :
    ({ acc with incoming := acc.incoming.set j st' } : StreamAcceptor).InOrder := by
  have hj : j < acc.incoming.length := (List.getElem?_eq_some_iff.mp hst).1
  have hsame : ∀ i, ({ acc with incoming := acc.incoming.set j st' } :
      StreamAcceptor).CompleteAt i ↔ acc.CompleteAt i := by
    intro i
    by_cases hij : j = i
    · subst hij
      rw [completeAt_set_self hj, completeAt_iff hst]
      exact IncomingStream.complete_of_finish hreceive
    · exact completeAt_set_of_ne hij
  refine ⟨h.1, fun k hk hcomplete i hi hlt => ?_⟩
  rw [hsame] at hcomplete ⊢
  exact h.2 k hk hcomplete i hi hlt

end StreamAcceptor

/-- A backend with the tasks that accept the streams of its connections. -/
structure StreamBackend where
  backend : QuicBackend
  acceptors : Uuid → StreamAcceptor

inductive StreamAction where
  /-- an action of the backend, other than to accept a stream -/
  | backend (a : Action)
  /-- the peer of a connection opens a stream -/
  | openStream (uuid : Uuid)
  /-- something happens on stream `j` of a connection -/
  | stream (uuid : Uuid) (j : Nat) (event : StreamEvent)
  /-- the connection is lost -/
  | lose (uuid : Uuid)
  /-- the task of a connection returns from `accept_bi` -/
  | acceptBi (uuid : Uuid)
  /-- the task of a connection returns from `read_u16` -/
  | readHeader (uuid : Uuid)

/-- The action is that of accepting a stream. -/
def Action.acceptsStream : Action → Bool
  | .acceptStream _ _ => true
  | _ => false

namespace StreamBackend

def init : StreamBackend := { backend := .init, acceptors := fun _ => .init }

/-- The tasks of the connection have been spawned, and live. -/
def Spawned (s : StreamBackend) (u : Uuid) : Prop :=
  s.backend.loop = .selecting ∧ s.backend.readers u ≠ none

instance decidableSpawned (s : StreamBackend) (u : Uuid) : Decidable (s.Spawned u) :=
  inferInstanceAs (Decidable (_ ∧ ¬ _ = _))

def setAcceptor (s : StreamBackend) (u : Uuid) (acc : StreamAcceptor) : StreamBackend :=
  { s with acceptors := Function.update s.acceptors u acc }

def step (s : StreamBackend) : StreamAction → Option StreamBackend
  | .backend a =>
    if a.acceptsStream then none
    else (s.backend.step a).map fun backend => { s with backend := backend }
  | .openStream u =>
    let acc := s.acceptors u
    if s.Spawned u ∧ acc.alive then
      some (s.setAcceptor u { acc with incoming := acc.incoming ++ [.opened] })
    else none
  | .stream u j event =>
    let acc := s.acceptors u
    if s.Spawned u ∧ acc.alive then
      ((acc.incoming[j]?).bind fun st => st.receive event).map fun st =>
        s.setAcceptor u { acc with incoming := acc.incoming.set j st }
    else none
  | .lose u =>
    let acc := s.acceptors u
    if s.Spawned u ∧ acc.alive then some (s.setAcceptor u { acc with alive := false }) else none
  | .acceptBi u =>
    let acc := s.acceptors u
    if s.Spawned u ∧ acc.phase = .accepting then
      if acc.registered < acc.incoming.length then
        some (s.setAcceptor u { acc with phase := .reading })
      else if acc.alive then none
      else some (s.setAcceptor u { acc with phase := .ended })
    else none
  | .readHeader u =>
    let acc := s.acceptors u
    if s.Spawned u ∧ acc.phase = .reading then
      match acc.incoming[acc.registered]? with
      | none => none
      | some st =>
        if st.Complete then
          (s.backend.step (.acceptStream u st.header)).map fun backend =>
            { s with
              backend := backend,
              acceptors := Function.update s.acceptors u
                { acc with registered := acc.registered + 1, phase := .accepting } }
        else if st.Ended ∨ acc.alive = false then
          -- `Err(_) => return`
          some (s.setAcceptor u { acc with phase := .ended })
        else none
    else none

/-- What an action is to the backend. -/
def toBackend (s : StreamBackend) : StreamAction → List Action
  | .backend a => [a]
  | .readHeader u =>
    match (s.acceptors u).incoming[(s.acceptors u).registered]? with
    | some st => if st.Complete then [.acceptStream u st.header] else []
    | none => []
  | _ => []

/-- The branches of `step`. -/
inductive Steps (s : StreamBackend) : StreamAction → StreamBackend → Prop where
  | backend {a : Action} {backend : QuicBackend} (hother : a.acceptsStream = false)
    (hstep : s.backend.step a = some backend) :
    Steps s (.backend a) { s with backend := backend }
  | openStream {u : Uuid} (hspawned : s.Spawned u) (halive : (s.acceptors u).alive = true) :
    Steps s (.openStream u)
      (s.setAcceptor u
        { s.acceptors u with incoming := (s.acceptors u).incoming ++ [.opened] })
  | stream {u : Uuid} {j : Nat} {event : StreamEvent} {st st' : IncomingStream}
    (hspawned : s.Spawned u) (halive : (s.acceptors u).alive = true)
    (hst : (s.acceptors u).incoming[j]? = some st) (hreceive : st.receive event = some st') :
    Steps s (.stream u j event)
      (s.setAcceptor u { s.acceptors u with incoming := (s.acceptors u).incoming.set j st' })
  | lose {u : Uuid} (hspawned : s.Spawned u) (halive : (s.acceptors u).alive = true) :
    Steps s (.lose u) (s.setAcceptor u { s.acceptors u with alive := false })
  | acceptBi {u : Uuid} (hspawned : s.Spawned u) (hphase : (s.acceptors u).phase = .accepting)
    (hnext : (s.acceptors u).registered < (s.acceptors u).incoming.length) :
    Steps s (.acceptBi u) (s.setAcceptor u { s.acceptors u with phase := .reading })
  | acceptFails {u : Uuid} (hspawned : s.Spawned u) (hlost : (s.acceptors u).alive = false) :
    Steps s (.acceptBi u) (s.setAcceptor u { s.acceptors u with phase := .ended })
  | register {u : Uuid} {st : IncomingStream} {backend : QuicBackend} (hspawned : s.Spawned u)
    (hst : (s.acceptors u).incoming[(s.acceptors u).registered]? = some st)
    (hcomplete : st.Complete)
    (hstep : s.backend.step (.acceptStream u st.header) = some backend) :
    Steps s (.readHeader u)
      { s with
        backend := backend,
        acceptors := Function.update s.acceptors u
          { s.acceptors u with
            registered := (s.acceptors u).registered + 1, phase := .accepting } }
  | headerFails {u : Uuid} {st : IncomingStream} (hspawned : s.Spawned u)
    (hst : (s.acceptors u).incoming[(s.acceptors u).registered]? = some st)
    (hincomplete : ¬ st.Complete) :
    Steps s (.readHeader u) (s.setAcceptor u { s.acceptors u with phase := .ended })

theorem steps_of_step {s t : StreamBackend} {a : StreamAction} (h : s.step a = some t) :
    Steps s a t := by
  cases a with
  | backend a =>
    simp only [step] at h
    split at h
    · cases h
    · next hother =>
      obtain ⟨backend, hstep, rfl⟩ := Option.map_eq_some_iff.mp h
      exact .backend (Bool.eq_false_iff.mpr hother) hstep
  | openStream u =>
    simp only [step] at h
    split at h
    · next hcond =>
      cases h
      exact .openStream hcond.1 hcond.2
    · cases h
  | stream u j event =>
    simp only [step] at h
    split at h
    · next hcond =>
      obtain ⟨st', hevent, rfl⟩ := Option.map_eq_some_iff.mp h
      obtain ⟨st, hst, hreceive⟩ := Option.bind_eq_some_iff.mp hevent
      exact .stream hcond.1 hcond.2 hst hreceive
    · cases h
  | lose u =>
    simp only [step] at h
    split at h
    · next hcond =>
      cases h
      exact .lose hcond.1 hcond.2
    · cases h
  | acceptBi u =>
    simp only [step] at h
    split at h
    · next hcond =>
      split at h
      · next hnext =>
        cases h
        exact .acceptBi hcond.1 hcond.2 hnext
      · split at h
        · cases h
        · next hlost =>
          cases h
          exact .acceptFails hcond.1 (Bool.eq_false_iff.mpr hlost)
    · cases h
  | readHeader u =>
    simp only [step] at h
    split at h
    · next hcond =>
      split at h
      · cases h
      · next st hst =>
        split at h
        · next hcomplete =>
          obtain ⟨backend, hstep, rfl⟩ := Option.map_eq_some_iff.mp h
          exact .register hcond.1 hst hcomplete hstep
        · next hincomplete =>
          split at h
          · cases h
            exact .headerFails hcond.1 hst hincomplete
          · cases h
    · cases h

/-- A run with the streams' events is a run of the backend. -/
theorem run_toBackend {actions : List StreamAction} {s t : StreamBackend}
    (h : Run.run step s actions = some t) :
    Run.run QuicBackend.step s.backend (Run.observe step toBackend s actions) =
      some t.backend := by
  induction actions generalizing s with
  | nil =>
    cases h
    rfl
  | cons a actions ih =>
    obtain ⟨u, hu, hrest⟩ := Run.run_cons_eq_some _ h
    rw [Run.observe, hu, Option.elim_some]
    have ih := ih hrest
    cases steps_of_step hu with
    | backend _ hstep => exact (Run.run_cons_of_step _ hstep _).trans ih
    | register _ hst hcomplete hstep =>
      simp only [toBackend, hst, if_pos hcomplete]
      exact (Run.run_cons_of_step _ hstep _).trans ih
    | headerFails _ hst hincomplete =>
      simp only [toBackend, hst, if_neg hincomplete]
      exact ih
    | openStream => exact ih
    | stream => exact ih
    | lose => exact ih
    | acceptBi => exact ih
    | acceptFails => exact ih

end StreamBackend

end Quic
end GameSockets
