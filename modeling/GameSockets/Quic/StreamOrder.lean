/-
Which streams of a connection can be accepted.

A stream waits for the indices of all streams opened before it, and for no other event.
-/
import GameSockets.Quic.StreamAccept

namespace GameSockets
namespace Quic

open Library

namespace QuicBackend

theorem readers_update {s : QuicBackend} {u v : Uuid} {r : DatagramReader}
    (h : s.readers u ≠ none) : Function.update s.readers v (some r) u ≠ none := by
  by_cases heq : u = v
  · rw [heq, Function.update_self]
    exact Option.some_ne_none r
  · rwa [Function.update_of_ne heq]

/-- A connection keeps its readers. -/
theorem readers_of_step {s t : QuicBackend} {a : Action} (hstep : s.step a = some t) {u : Uuid}
    (h : s.readers u ≠ none) : t.readers u ≠ none := by
  cases steps_of_step hstep with
  | command _ _ hcommand =>
    cases hcommand with
    | connect => exact readers_update h
    | send => cases CommandEnv.sendError _ <;> exact h
    | _ => exact h
  | registerStream =>
    rw [readers_processRegistration]
    exact h
  | handOver => exact readers_update h
  | readDatagram => exact readers_update h
  | newDatagram => exact readers_update h
  | sendDatagram => exact readers_update h
  | _ => exact h

theorem readers_acceptStream {s t : QuicBackend} {u : Uuid} {bytes : Bytes}
    (hstep : s.step (.acceptStream u bytes) = some t) : t.readers = s.readers := by
  cases steps_of_step hstep
  rfl

theorem loop_acceptStream {s t : QuicBackend} {u : Uuid} {bytes : Bytes}
    (hstep : s.step (.acceptStream u bytes) = some t) : t.loop = s.loop := by
  cases steps_of_step hstep
  rfl

end QuicBackend

namespace StreamBackend

/-- No event of the streams that the peer of `u` has opened before stream `j`. -/
def Elsewhere (u : Uuid) (j : Nat) : StreamAction → Prop
  | .stream u' i _ => u' = u → j ≤ i
  | _ => True

/-- The task of `u` has registered stream `j` under its index, and spawned its reader. -/
def Accepted (s : StreamBackend) (u : Uuid) (j : Nat) : Prop :=
  j < (s.acceptors u).registered ∧
    ∃ st ∈ (s.acceptors u).incoming[j]?,
      { connection := u, stream := GameStream.new (getU16 st.header) .reliable,
        sendStream := some { written := [] } } ∈ s.backend.streamReg.log ∧
      ∃ reader ∈ s.backend.streamReaders, reader.uuid = u ∧ reader.streamId = getU16 st.header

/-- Without an event of the streams before it, stream `j` of `u` can be accepted. -/
def Acceptable (s : StreamBackend) (u : Uuid) (j : Nat) : Prop :=
  ∃ t, Run.ReachableBy step (Elsewhere u j) s t ∧ t.Accepted u j

/-- While a connection is alive the task runs, and every stream with a complete index that
it has not registered can be accepted. -/
def Independent (s : StreamBackend) : Prop :=
  ∀ u, s.Spawned u → (s.acceptors u).alive = true →
    (s.acceptors u).phase ≠ .ended ∧
      ∀ j, (s.acceptors u).registered ≤ j → (s.acceptors u).CompleteAt j → s.Acceptable u j

/-- The streams of each connection complete their indices in the order in which they were
opened, and the task finds no index that it cannot read. -/
def Orderly (s : StreamBackend) : StreamAction → Prop
  | .stream u j (.byte _) =>
    (∃ st ∈ (s.acceptors u).incoming[j]?, st.header.length = 1) →
      ∀ i < j, (s.acceptors u).registered ≤ i → (s.acceptors u).CompleteAt i
  | .stream u j .reset =>
    (s.acceptors u).registered ≤ j → (s.acceptors u).CompleteAt j →
      ∀ k < (s.acceptors u).incoming.length, j < k → ¬ (s.acceptors u).CompleteAt k
  | .readHeader u =>
    (s.acceptors u).alive = true → (s.acceptors u).CompleteAt (s.acceptors u).registered
  | _ => True

/-! ## Streams that can be accepted -/

/-- The backend registers a stream whose index is there, and spawns its reader. -/
theorem step_acceptStream {b : QuicBackend} {u : Uuid} {bytes : Bytes}
    (hloop : b.loop = .selecting) (hreader : b.readers u ≠ none) (hlen : bytes.length = 2) :
    ∃ b', b.step (.acceptStream u bytes) = some b' ∧ b'.loop = .selecting ∧
      b'.readers = b.readers ∧
      { connection := u, stream := GameStream.new (getU16 bytes) .reliable,
        sendStream := some { written := [] } } ∈ b'.streamReg.log ∧
      ∃ reader ∈ b'.streamReaders, reader.uuid = u ∧ reader.streamId = getU16 bytes := by
  have hrunning : b.running = true := decide_eq_true hloop
  obtain ⟨reader, hreader⟩ := Option.ne_none_iff_exists'.mp hreader
  have hread : readU16 bytes = some (getU16 bytes, []) := by
    rw [readU16, if_pos (Nat.le_of_eq hlen.symm), List.take_of_length_le (Nat.le_of_eq hlen),
      List.drop_of_length_le (Nat.le_of_eq hlen)]
  have hstep : b.step (.acceptStream u bytes) = some
      { b.sendRegistration
          { connection := u, stream := GameStream.new (getU16 bytes) .reliable,
            sendStream := some { written := [] } } with
        streamReaders :=
          b.streamReaders ++ [{ uuid := u, streamId := getU16 bytes, buf := [] }] } := by
    simp only [QuicBackend.step, hrunning, hreader, hread]
  refine ⟨_, hstep, hloop, rfl, ?_, _, List.mem_append_right _ List.mem_cons_self, rfl, rfl⟩
  rw [QuicBackend.sendRegistration, Channel.log_send]
  exact List.mem_append_right _ List.mem_cons_self

theorem step_readHeader {s : StreamBackend} {u : Uuid} {st : IncomingStream}
    (hspawned : s.Spawned u) (hphase : (s.acceptors u).phase = .reading)
    (hst : (s.acceptors u).incoming[(s.acceptors u).registered]? = some st)
    (hcomplete : st.Complete) :
    ∃ t, s.step (.readHeader u) = some t ∧ t.Spawned u ∧
      t.acceptors u = { s.acceptors u with
        registered := (s.acceptors u).registered + 1, phase := .accepting } ∧
      t.Accepted u (s.acceptors u).registered := by
  obtain ⟨b, hstep, hloop, hreaders, hregistration, hreader⟩ :=
    step_acceptStream hspawned.1 hspawned.2 hcomplete.2
  let acc : StreamAcceptor :=
    { s.acceptors u with registered := (s.acceptors u).registered + 1, phase := .accepting }
  have hread : s.step (.readHeader u) =
      some { backend := b, acceptors := Function.update s.acceptors u acc } := by
    simp only [step, if_pos (And.intro hspawned hphase), hst, if_pos hcomplete, hstep,
      Option.map_some, acc]
  have hacc : Function.update s.acceptors u acc u = acc := Function.update_self u _ _
  refine ⟨_, hread, ⟨hloop, hreaders ▸ hspawned.2⟩, hacc, ?_⟩
  simp only [Accepted, hacc]
  exact ⟨Nat.lt_succ_self _, st, hst, hregistration, hreader⟩

/-- The task registers the next stream when its index has arrived. -/
theorem register_next {s : StreamBackend} {u : Uuid} (hspawned : s.Spawned u)
    (hphase : (s.acceptors u).phase ≠ .ended)
    (hcomplete : (s.acceptors u).CompleteAt (s.acceptors u).registered) (j : Nat) :
    ∃ t, Run.ReachableBy step (Elsewhere u j) s t ∧ t.Spawned u ∧
      t.acceptors u = { s.acceptors u with
        registered := (s.acceptors u).registered + 1, phase := .accepting } ∧
      t.Accepted u (s.acceptors u).registered := by
  obtain ⟨st, hst, hst'⟩ := hcomplete
  have hread : Elsewhere u j (.readHeader u) := trivial
  cases hphase' : (s.acceptors u).phase with
  | accepting =>
    have hnext := (List.getElem?_eq_some_iff.mp hst).1
    have haccept : s.step (.acceptBi u) =
        some (s.setAcceptor u { s.acceptors u with phase := .reading }) := by
      simp only [step, if_pos (And.intro hspawned hphase'), if_pos hnext]
    have hwaits : Elsewhere u j (.acceptBi u) := trivial
    have hacc : (s.setAcceptor u { s.acceptors u with phase := .reading }).acceptors u =
        { s.acceptors u with phase := .reading } := Function.update_self u _ _
    obtain ⟨t, hstep, hspawned', hacc', haccepted⟩ :=
      step_readHeader (s := s.setAcceptor u { s.acceptors u with phase := .reading })
        hspawned (by rw [hacc]) (by rw [hacc]; exact hst) hst'
    rw [hacc] at hacc' haccepted
    exact ⟨t, Run.reachableBy_trans step (Run.reachableBy_of_step step hwaits haccept)
      (Run.reachableBy_of_step step hread hstep), hspawned', hacc', haccepted⟩
  | reading =>
    obtain ⟨t, hstep, hspawned', hacc', haccepted⟩ := step_readHeader hspawned hphase' hst hst'
    exact ⟨t, Run.reachableBy_of_step step hread hstep, hspawned', hacc', haccepted⟩
  | ended => exact absurd hphase' hphase

/-- The streams up to `j` can be accepted one after the other. -/
theorem acceptable_of_complete {s : StreamBackend} {u : Uuid} {j : Nat} (hspawned : s.Spawned u)
    (hphase : (s.acceptors u).phase ≠ .ended) (hj : (s.acceptors u).registered ≤ j)
    (hcomplete : ∀ i, (s.acceptors u).registered ≤ i → i ≤ j → (s.acceptors u).CompleteAt i) :
    s.Acceptable u j := by
  obtain ⟨n, hn⟩ := Nat.exists_eq_add_of_le hj
  induction n generalizing s with
  | zero =>
    have hnext := hcomplete _ le_rfl hj
    obtain ⟨t, hreach, -, -, haccepted⟩ := register_next hspawned hphase hnext j
    exact ⟨t, hreach, hn ▸ haccepted⟩
  | succ n ih =>
    have hnext := hcomplete _ le_rfl hj
    obtain ⟨s', hreach, hspawned', hacc, -⟩ := register_next hspawned hphase hnext j
    have hregistered : (s'.acceptors u).registered = (s.acceptors u).registered + 1 := by rw [hacc]
    have hcomplete' : ∀ i, (s'.acceptors u).registered ≤ i → i ≤ j →
        (s'.acceptors u).CompleteAt i := by
      intro i hi hij
      rw [hregistered] at hi
      rw [hacc]
      exact hcomplete i (Nat.le_of_succ_le hi) hij
    have hphase' : (s'.acceptors u).phase ≠ .ended := by
      rw [hacc]
      nofun
    obtain ⟨t, hreach', haccepted⟩ :=
      ih hspawned' hphase' (by omega) hcomplete' (by omega)
    exact ⟨t, Run.reachableBy_trans step hreach hreach', haccepted⟩

/-- The task has not come past stream `i`, whose index has not arrived. -/
def Waits (acc : StreamAcceptor) (i : Nat) : Prop := acc.registered ≤ i ∧ ¬ acc.CompleteAt i

theorem waits_update {s : StreamBackend} {u v : Uuid} {acc : StreamAcceptor} {i : Nat}
    (h : Waits (s.acceptors u) i) (hacc : v = u → Waits acc i) :
    Waits (Function.update s.acceptors v acc u) i := by
  by_cases heq : v = u
  · subst heq
    rw [Function.update_self]
    exact hacc rfl
  · rw [Function.update_of_ne (Ne.symm heq)]
    exact h

/-- Nothing but an event of the stream itself ends the wait for its index. -/
theorem waits_step {s t : StreamBackend} {a : StreamAction} {u : Uuid} {i j : Nat} (hij : i < j)
    (h : Waits (s.acceptors u) i) (ha : Elsewhere u j a) (hstep : s.step a = some t) :
    Waits (t.acceptors u) i := by
  cases steps_of_step hstep with
  | backend => exact h
  | openStream =>
    refine waits_update h fun heq => ?_
    subst heq
    exact ⟨h.1, fun hcomplete => h.2 ((StreamAcceptor.completeAt_opened _ i).mp hcomplete)⟩
  | stream =>
    refine waits_update h fun heq => ?_
    subst heq
    have hne := (Nat.lt_of_lt_of_le hij (ha rfl)).ne'
    exact ⟨h.1, fun hcomplete => h.2 ((StreamAcceptor.completeAt_set_of_ne hne).mp hcomplete)⟩
  | register _ hst hcomplete =>
    refine waits_update h fun heq => ?_
    subst heq
    refine ⟨Nat.lt_of_le_of_ne h.1 fun hnext => h.2 ?_, h.2⟩
    exact hnext ▸ (StreamAcceptor.completeAt_iff hst).mpr hcomplete
  | lose => exact waits_update h fun heq => heq ▸ h
  | acceptBi => exact waits_update h fun heq => heq ▸ h
  | acceptFails => exact waits_update h fun heq => heq ▸ h
  | headerFails => exact waits_update h fun heq => heq ▸ h

/-- A stream can be accepted exactly when the indices of all streams before it are there. -/
theorem acceptable_iff {s : StreamBackend} {u : Uuid} {j : Nat} (hspawned : s.Spawned u)
    (hphase : (s.acceptors u).phase ≠ .ended) (hj : (s.acceptors u).registered ≤ j)
    (hcomplete : (s.acceptors u).CompleteAt j) :
    s.Acceptable u j ↔
      ∀ i, (s.acceptors u).registered ≤ i → i < j → (s.acceptors u).CompleteAt i := by
  constructor
  · rintro ⟨t, hreach, haccepted, -⟩ i hi hij
    by_contra hwaits
    have hkept : Waits (t.acceptors u) i :=
      Run.invariant_of_reachableBy (fun _ _ _ => waits_step hij) ⟨hi, hwaits⟩ hreach
    exact absurd haccepted (Nat.not_lt.mpr (le_trans hkept.1 (Nat.le_of_lt hij)))
  · intro hbefore
    refine acceptable_of_complete hspawned hphase hj fun i hi hij => ?_
    rcases Nat.lt_or_eq_of_le hij with hlt | rfl
    · exact hbefore i hi hlt
    · exact hcomplete

/-- The streams of every connection that is alive are in order. -/
def Ordered (s : StreamBackend) : Prop :=
  ∀ u, s.Spawned u → (s.acceptors u).alive = true → (s.acceptors u).InOrder

theorem independent_iff (s : StreamBackend) : s.Independent ↔ s.Ordered := by
  refine forall_congr' fun u => imp_congr_right fun hspawned => imp_congr_right fun _ => ?_
  refine and_congr_right fun hphase => forall_congr' fun j => ?_
  exact imp_congr_right fun hj => imp_congr_right fun hcomplete =>
    acceptable_iff hspawned hphase hj hcomplete

/-! ## Runs -/

/-- Before its tasks are spawned, nothing happens on a connection. -/
def Untouched (s : StreamBackend) : Prop :=
  ∀ u, s.backend.readers u = none → s.acceptors u = .init

theorem untouched_update {s : StreamBackend} {backend : QuicBackend} {v : Uuid}
    (h : s.Untouched) (hv : s.Spawned v) (hreaders : backend.readers = s.backend.readers)
    (acc : StreamAcceptor) :
    Untouched { backend := backend, acceptors := Function.update s.acceptors v acc } := by
  intro u hu
  rw [hreaders] at hu
  have hne : u ≠ v := by
    rintro rfl
    exact hv.2 hu
  exact (Function.update_of_ne hne acc s.acceptors).trans (h u hu)

theorem untouched_step {s t : StreamBackend} {a : StreamAction} (h : s.Untouched)
    (hstep : s.step a = some t) : t.Untouched := by
  cases steps_of_step hstep with
  | backend _ hbackend =>
    intro u hu
    by_contra hne
    exact QuicBackend.readers_of_step hbackend (fun hnone => hne (h u hnone)) hu
  | register hspawned _ _ hbackend =>
    exact untouched_update h hspawned (QuicBackend.readers_acceptStream hbackend) _
  | openStream hspawned => exact untouched_update h hspawned rfl _
  | stream hspawned => exact untouched_update h hspawned rfl _
  | lose hspawned => exact untouched_update h hspawned rfl _
  | acceptBi hspawned => exact untouched_update h hspawned rfl _
  | acceptFails hspawned => exact untouched_update h hspawned rfl _
  | headerFails hspawned => exact untouched_update h hspawned rfl _

/-- What a step on one connection does to the order of all. -/
theorem ordered_update_iff {s : StreamBackend} {backend : QuicBackend} {v : Uuid}
    {acc : StreamAcceptor} (h : s.Ordered) (hv : s.Spawned v)
    (hloop : backend.loop = .selecting) (hreaders : backend.readers = s.backend.readers) :
    Ordered { backend := backend, acceptors := Function.update s.acceptors v acc } ↔
      (acc.alive = true → acc.InOrder) := by
  constructor
  · intro h' halive
    have hacc : Function.update s.acceptors v acc v = acc := by rw [Function.update_self]
    have h' := h' v ⟨hloop, hreaders ▸ hv.2⟩
    simp only [hacc] at h'
    exact h' halive
  · rintro hacc u ⟨-, hu⟩
    rw [hreaders] at hu
    show (Function.update s.acceptors v acc u).alive = true →
      (Function.update s.acceptors v acc u).InOrder
    by_cases heq : u = v
    · rw [heq, Function.update_self]
      exact hacc
    · rw [Function.update_of_ne heq]
      exact h u ⟨hv.1, hu⟩

theorem ordered_step_iff {s t : StreamBackend} {a : StreamAction} (h : s.Untouched)
    (hordered : s.Ordered) (hstep : s.step a = some t) : t.Ordered ↔ s.Orderly a := by
  cases steps_of_step hstep with
  | @backend a backend _ hbackend =>
    refine iff_of_true (fun u ⟨hloop, hu⟩ halive => ?_) trivial
    have hloop' := (QuicBackend.accepts_of_step hbackend).2 hloop
    by_cases hreader : s.backend.readers u = none
    · show (s.acceptors u).InOrder
      rw [h u hreader]
      refine ⟨nofun, fun j _ hcomplete => absurd hcomplete.lt_length (Nat.not_lt_zero j)⟩
    · exact hordered u ⟨hloop', hreader⟩ halive
  | openStream hspawned halive =>
    refine (ordered_update_iff hordered hspawned hspawned.1 rfl).trans (iff_of_true ?_ trivial)
    exact fun _ => StreamAcceptor.inOrder_opened (hordered _ hspawned halive)
  | @stream u j event st st' hspawned halive hst hreceive =>
    have h' := hordered u hspawned halive
    refine (ordered_update_iff hordered hspawned hspawned.1 rfl).trans ?_
    rw [imp_iff_right halive]
    cases event with
    | byte b =>
      rw [StreamAcceptor.inOrder_byte_iff h' hst hreceive]
      simp [Orderly, hst]
    | reset => exact StreamAcceptor.inOrder_reset_iff h' hst hreceive
    | finish => exact iff_of_true (StreamAcceptor.inOrder_finish h' hst hreceive) trivial
  | lose hspawned =>
    exact (ordered_update_iff hordered hspawned hspawned.1 rfl).trans (iff_of_true nofun trivial)
  | @acceptBi u hspawned =>
    refine (ordered_update_iff hordered hspawned hspawned.1 rfl).trans (iff_of_true ?_ trivial)
    exact fun halive => ⟨nofun, (hordered u hspawned halive).2⟩
  | acceptFails hspawned hlost =>
    refine (ordered_update_iff hordered hspawned hspawned.1 rfl).trans (iff_of_true ?_ trivial)
    exact fun halive => absurd halive (Bool.eq_false_iff.mp hlost)
  | @register u st backend hspawned hst hcomplete hbackend =>
    have hloop := (QuicBackend.loop_acceptStream hbackend).trans hspawned.1
    have hreaders := QuicBackend.readers_acceptStream hbackend
    refine (ordered_update_iff hordered hspawned hloop hreaders).trans (iff_of_true ?_ ?_)
    · exact fun halive => StreamAcceptor.inOrder_registered (hordered u hspawned halive)
    · exact fun _ => (StreamAcceptor.completeAt_iff hst).mpr hcomplete
  | headerFails hspawned hst hincomplete =>
    refine (ordered_update_iff hordered hspawned hspawned.1 rfl).trans ?_
    refine imp_congr_right fun _ => iff_of_false (fun hafter => hafter.1 rfl) fun hcomplete => ?_
    exact hincomplete ((StreamAcceptor.completeAt_iff hst).mp hcomplete)

/-- In every state of a run the streams fail independently exactly when all steps of the
run are orderly. -/
theorem streams_independent_iff (actions : List StreamAction) (s : StreamBackend)
    (hrun : Run.run step init actions = some s) :
    Run.Throughout step Independent init actions ↔ Run.Along step Orderly init actions := by
  have hgood : ∀ (s : StreamBackend) a t, s.Untouched → s.Independent → s.step a = some t →
      (t.Independent ↔ s.Orderly a) := by
    intro s a t huntouched hindependent hstep
    rw [independent_iff] at hindependent ⊢
    exact ordered_step_iff huntouched hindependent hstep
  have hstart : init.Independent := fun u hspawned => absurd rfl hspawned.2
  exact Run.throughout_iff_along (fun _ _ _ => untouched_step) hgood actions (fun _ _ => rfl)
    hstart hrun

instance decidableOrderly (s : StreamBackend) (a : StreamAction) : Decidable (s.Orderly a) := by
  unfold Orderly
  split <;> infer_instance

/-- A client connects, and the peer opens streams on the connection. -/
def openStreams (n : Nat) : List StreamAction :=
  [.backend (.issue (.connect "127.0.0.1" 8080)), .backend (.command .allOk)] ++
    List.replicate n (.openStream Uuid.nil)

/-- The index of stream `j` arrives. -/
def header (j : Nat) (i : UInt16) : List StreamAction :=
  (putU16 i).map fun b => .stream Uuid.nil j (.byte b)

/-- The task takes the next stream. -/
def takeStream : List StreamAction := [.acceptBi Uuid.nil, .readHeader Uuid.nil]

/-- Two streams, in order. -/
def goodStreams : List StreamAction :=
  openStreams 2 ++ header 0 1 ++ header 1 2 ++ takeStream ++ takeStream

theorem streams_independent_goodStreams :
    ∃ s, Run.run step init goodStreams = some s ∧
      Run.Throughout step Independent init goodStreams :=
  ⟨_, rfl, (streams_independent_iff goodStreams _ rfl).mpr (by decide +kernel)⟩

/-- The first of two streams stays silent. -/
def silentStream : List StreamAction := openStreams 2 ++ header 1 2

/-- The first of two streams is reset. -/
def resetStream : List StreamAction :=
  openStreams 2 ++ [.stream Uuid.nil 0 .reset] ++ takeStream ++ header 1 2

/-- A silent stream keeps the next one from being accepted, and a reset ends the task. -/
theorem stream_blocked :
    (∃ s, Run.run step init silentStream = some s ∧ s.Spawned Uuid.nil ∧
      (s.acceptors Uuid.nil).alive = true ∧ (s.acceptors Uuid.nil).CompleteAt 1 ∧
      ¬ s.Acceptable Uuid.nil 1) ∧
    ∃ s, Run.run step init resetStream = some s ∧ s.Spawned Uuid.nil ∧
      (s.acceptors Uuid.nil).alive = true ∧ (s.acceptors Uuid.nil).CompleteAt 1 ∧
      (s.acceptors Uuid.nil).phase = .ended := by
  refine ⟨⟨_, rfl, by decide +kernel, rfl, by decide +kernel, fun h => ?_⟩,
    _, rfl, by decide +kernel, rfl, by decide +kernel, rfl⟩
  have hfirst := (acceptable_iff (by decide +kernel) (by decide +kernel) (by decide +kernel)
    (by decide +kernel)).mp h 0 (by decide +kernel) (by decide +kernel)
  revert hfirst
  decide +kernel

end StreamBackend

end Quic
end GameSockets
