/-
The bytes of a reliable stream: the index of the stream, then one frame for each
`Send`.  The end that accepts the stream reads back what the other end has written, as
far as it has arrived, and both know the stream by the same id.
-/
import GameSockets.Quic.Backend

namespace GameSockets
namespace Quic

open Library Framing

/-- A payload whose length fits the `u32` is framed by its length. -/
theorem frame_eq {data : Bytes} (h : data.length < 2 ^ 32) :
    frame data = Framing.frame lengthSize data := by
  rw [frame, putU32, UInt32.toNat_ofNat_of_lt' h]
  rfl

/-- The index on the wire comes back. -/
theorem readU16_putU16 (i : UInt16) : readU16 (putU16 i) = some (i, []) := by
  have hlen := length_putU16 i
  rw [readU16, if_pos hlen.ge, List.take_of_length_le hlen.le, List.drop_of_length_le hlen.le,
    getU16_putU16]

theorem isReliable_new (i : UInt16) : (GameStream.new i .reliable).isReliable = true := by
  simp only [GameStream.new, GameStream.isReliable, reduceCtorEq, ↓reduceIte, reliabilityMask,
    bne_iff_ne, ne_eq]
  intro hzero
  have hbits := congrArg (fun n : UInt16 => n.toBitVec.getLsbD 0) hzero
  simp at hbits

namespace QuicBackend

/-! ## The end that creates the stream -/

theorem step_registerStream {s : QuicBackend} {r : StreamRegistration}
    {rest : List StreamRegistration} (hloop : s.loop = .selecting)
    (hpending : s.streamReg.pending = r :: rest) :
    s.step .registerStream =
      some (processRegistration
        { s with streamReg := { received := s.streamReg.received ++ [r], pending := rest } }
        r) := by
  simp only [step, hloop, Channel.recv_of_pending hpending]

/-- The loop takes all stream registrations; the last one is in the table then. -/
theorem run_registerStream {last : StreamRegistration} {sendStream : SendStream}
    (hreliable : last.stream.isReliable = true) (hlast : last.sendStream = some sendStream)
    (pending : List StreamRegistration) {s : QuicBackend} (hloop : s.loop = .selecting)
    (hpending : s.streamReg.pending = pending ++ [last]) :
    ∃ t, Run.run step s (List.replicate (pending.length + 1) .registerStream) = some t ∧
      t.loop = .selecting ∧ t.connections = s.connections ∧ t.peer.cmdTx = s.peer.cmdTx ∧
      t.reliableSendStreams last.key = some sendStream := by
  induction pending generalizing s with
  | nil =>
    have hstep := step_registerStream hloop hpending
    refine ⟨_, by rw [List.length_nil, List.replicate_one, Run.run_cons_of_step _ hstep,
      Run.run_nil], ?_⟩
    refine ⟨(loop_processRegistration _ _).trans hloop, connections_processRegistration _ _,
      cmdTx_processRegistration _ _, ?_⟩
    simp only [processRegistration, hreliable, hlast, Function.update_self]
  | cons r pending ih =>
    have hstep := step_registerStream hloop hpending
    let taken : QuicBackend :=
      { s with streamReg := { received := s.streamReg.received ++ [r],
                              pending := pending ++ [last] } }
    obtain ⟨t, hrun, hdone, hconn, hcmd, htable⟩ :=
      ih ((loop_processRegistration taken r).trans hloop)
        (congrArg Channel.pending (streamReg_processRegistration taken r))
    refine ⟨t, ?_, hdone, hconn.trans (connections_processRegistration taken r),
      hcmd.trans (cmdTx_processRegistration taken r), htable⟩
    rw [List.length_cons, List.replicate_succ, Run.run_cons_of_step _ hstep]
    exact hrun

/-- Each `Send` on a registered stream writes the frame of its payload. -/
theorem run_send {env : CommandEnv} (henv : env.sendError = none) {c : Uuid} {stream : GameStream}
    (hreliable : stream.isReliable = true) (payloads : List Bytes)
    (hlen : ∀ p ∈ payloads, p.length < 2 ^ 32) {s : QuicBackend} (hloop : s.loop = .selecting)
    (hc : c ∈ s.connections) {more : List BackendCommand}
    (hcmd : s.peer.cmdTx.pending = payloads.map (.send c stream) ++ more) {written : Bytes}
    (htable : s.reliableSendStreams (c, stream.streamId) = some { written := written }) :
    ∃ t, Run.run step s (payloads.map fun _ => .command env) = some t ∧
      t.reliableSendStreams (c, stream.streamId) =
        some { written := written ++ frames lengthSize payloads } := by
  induction payloads generalizing s written with
  | nil =>
    refine ⟨s, rfl, ?_⟩
    rw [frames_nil, List.append_nil]
    exact htable
  | cons p payloads ih =>
    rw [List.map_cons, List.cons_append] at hcmd
    let tx : Channel BackendCommand :=
      { received := s.peer.cmdTx.received ++ [.send c stream p],
        pending := payloads.map (.send c stream) ++ more }
    let taken : QuicBackend := { s with loop := .selecting, peer := { s.peer with cmdTx := tx } }
    let next : QuicBackend :=
      taken.writeAll (c, stream.streamId) { written := written } (frame p) none
    have hstep : s.step (.command env) = some next := by
      simp only [step, hloop, Channel.recv_of_pending hcmd, processCommand, if_pos hc, hreliable,
        ↓reduceIte, htable, henv]
      rfl
    have hframe : frame p = Framing.frame lengthSize p := frame_eq (hlen p List.mem_cons_self)
    obtain ⟨t, hrun, hdone⟩ := ih (fun q hq => hlen q (List.mem_cons_of_mem _ hq)) (s := next) rfl
      hc rfl (Function.update_self _ _ _)
    refine ⟨t, ?_, ?_⟩
    · rw [List.map_cons, Run.run_cons_of_step _ hstep]
      exact hrun
    · rw [hdone, hframe, frames_cons, List.append_assoc]

/-! ## The end that accepts the stream -/

/-- The `Message`s of the payloads. -/
def messages (uuid : Uuid) (streamId : UInt16) (payloads : List Bytes) : List GameNetworkEvent :=
  payloads.map fun data => .message uuid (GameStream.new streamId .reliable) data

/-- However the bytes are cut, the reader emits the payloads whose frames have arrived
in full. -/
theorem run_readStream (k : Nat) (chunks : List Bytes) {r : QuicBackend}
    (hrunning : r.running = true) {reader : StreamReader}
    (hreader : r.streamReaders[k]? = some reader)
    {ext : Bytes} {payloads : List Bytes} (hlen : ∀ p ∈ payloads, p.length < 256 ^ lengthSize)
    (h : InTransit lengthSize reader.buf chunks.flatten ext payloads)
    (hnone : Framing.split lengthSize reader.buf = none) :
    ∃ t read rest left, Run.run step r (chunks.map (.readStream k)) = some t ∧
      t.peer.eventRx.log = r.peer.eventRx.log ++ messages reader.uuid reader.streamId read ∧
      t.streamReg = r.streamReg ∧ payloads = read ++ rest ∧
      InTransit lengthSize left [] ext rest ∧ Framing.split lengthSize left = none := by
  induction chunks generalizing r reader payloads with
  | nil =>
    exact ⟨r, [], payloads, reader.buf, rfl, (List.append_nil _).symm, rfl, rfl, h, hnone⟩
  | cons chunk chunks ih =>
    have hread : InTransit lengthSize (reader.buf ++ chunk) chunks.flatten ext payloads :=
      inTransit_read h
    obtain ⟨payloads', rfl, hrest, hnone'⟩ :=
      inTransit_parse (by decide) hlen hread (Nat.le_refl _)
    let parsed := parse lengthSize (reader.buf ++ chunk).length (reader.buf ++ chunk)
    let next : QuicBackend :=
      { r.emit (messages reader.uuid reader.streamId parsed.1) with
        streamReaders := r.streamReaders.set k { reader with buf := parsed.2 } }
    have hstep : r.step (.readStream k chunk) = some next := by
      simp only [step, hrunning, hreader]
      rfl
    have hk : k < r.streamReaders.length := (List.getElem?_eq_some_iff.mp hreader).1
    have hreader' : next.streamReaders[k]? = some { reader with buf := parsed.2 } :=
      List.getElem?_set_self hk
    obtain ⟨t, read, rest, left, hrun, hlog, hreg, rfl, hleft, hdone⟩ := ih (r := next) hrunning
      hreader' (fun p hp => hlen p (List.mem_append_right _ hp)) hrest hnone'
    refine ⟨t, parsed.1 ++ read, rest, left, ?_, ?_, hreg, (List.append_assoc _ _ _).symm, hleft,
      hdone⟩
    · rw [List.map_cons, Run.run_cons_of_step _ hstep]
      exact hrun
    · rw [hlog, messages, messages, List.map_append, ← List.append_assoc]
      exact congrArg (· ++ _) (Channel.log_sendAll _ _)

theorem step_acceptStream {r : QuicBackend} {u : Uuid} (hrunning : r.running = true)
    (hreader : r.readers u ≠ none) (i : UInt16) :
    r.step (.acceptStream u (putU16 i)) =
      some
        { r.sendRegistration
            { connection := u, stream := GameStream.new i .reliable,
              sendStream := some { written := [] } } with
          streamReaders := r.streamReaders ++ [{ uuid := u, streamId := i, buf := [] }] } := by
  obtain ⟨reader, hreader⟩ := Option.ne_none_iff_exists'.mp hreader
  simp only [step, hrunning, hreader, readU16_putU16]

/-! ## Both ends -/

/-- The loop takes a `CreateStream`, the registrations up to that of the new stream,
and a `Send` for each payload. -/
def creates (s : QuicBackend) (env : CommandEnv) (payloads : List Bytes) : List Action :=
  .command env ::
    (List.replicate (s.streamReg.pending.length + 1) .registerStream ++
      payloads.map fun _ => .command env)

/-- A stream is accepted with the bytes of its index, and read in chunks. -/
def reads (r : QuicBackend) (u : Uuid) (index : Bytes) (chunks : List Bytes) : List Action :=
  .acceptStream u index :: chunks.map fun chunk => .readStream r.streamReaders.length chunk

/-- The accepting end has registered the stream for replies, and has emitted exactly
the `Message`s of the payloads whose frames are complete in `bytes`. -/
structure Decoded (r t : QuicBackend) (u : Uuid) (stream : GameStream) (payloads : List Bytes)
    (bytes : Bytes) : Prop where
  registered : t.streamReg.log = r.streamReg.log ++
    [{ connection := u, stream := stream, sendStream := some { written := [] } }]
  messages : ∃ n ≤ payloads.length,
    t.peer.eventRx.log =
      r.peer.eventRx.log ++
        (payloads.take n).map (fun data => GameNetworkEvent.message u stream data) ∧
    ∀ k < payloads.length,
      (k < n ↔ 2 + (frames lengthSize (payloads.take (k + 1))).length ≤ bytes.length)

theorem run_creates {i : UInt16} {payloads : List Bytes} (hlen : ∀ p ∈ payloads, p.length < 2 ^ 32)
    {s : QuicBackend} {c : Uuid} {env : CommandEnv} (hopen : env.openOk = true)
    (hsend : env.sendError = none) (hloop : s.loop = .selecting) (hc : c ∈ s.connections)
    {more : List BackendCommand}
    (hcmd : s.peer.cmdTx.pending =
      .createStream c i .reliable ::
        (payloads.map (.send c (GameStream.new i .reliable)) ++ more)) :
    ∃ t, Run.run step s (s.creates env payloads) = some t ∧
      t.reliableSendStreams (c, (GameStream.new i .reliable).streamId) =
        some { written := putU16 i ++ frames lengthSize payloads } := by
  let tx : Channel BackendCommand :=
    { received := s.peer.cmdTx.received ++ [.createStream c i .reliable],
      pending := payloads.map (.send c (GameStream.new i .reliable)) ++ more }
  let registration : StreamRegistration :=
    { connection := c, stream := GameStream.new i .reliable,
      sendStream := some { written := putU16 i } }
  let next : QuicBackend :=
    { s with
      loop := .selecting, peer := { s.peer with cmdTx := tx },
      streamReg := s.streamReg.send registration,
      streamReaders := s.streamReaders ++ [{ uuid := c, streamId := i, buf := [] }] }
  have hstep : s.step (.command env) = some next := by
    simp only [step, hloop, Channel.recv_of_pending hcmd, processCommand, ↓reduceIte, if_pos hc,
      hopen]
    rfl
  obtain ⟨mid, hmid, hloop', hconn, hcmd', htable⟩ := run_registerStream
    (isReliable_new i) rfl s.streamReg.pending (s := next) rfl rfl
  obtain ⟨t, hrun, hdone⟩ := run_send hsend (isReliable_new i) payloads hlen hloop'
    (hconn ▸ hc) (congrArg Channel.pending hcmd') htable
  refine ⟨t, ?_, hdone⟩
  rw [creates, Run.run_cons_of_step _ hstep, Run.run_append_of_run _ hmid]
  exact hrun

theorem run_reads {i : UInt16} {payloads : List Bytes} (hlen : ∀ p ∈ payloads, p.length < 2 ^ 32)
    {r : QuicBackend} {u : Uuid} (hrunning : r.running = true) (hreader : r.readers u ≠ none)
    {index : Bytes} {chunks : List Bytes} (hindex : index.length = 2)
    (hpre : index ++ chunks.flatten <+: putU16 i ++ frames lengthSize payloads) :
    ∃ t, Run.run step r (r.reads u index chunks) = some t ∧
      Decoded r t u (GameStream.new i .reliable) payloads (index ++ chunks.flatten) := by
  obtain ⟨ext, hext⟩ := hpre
  rw [List.append_assoc] at hext
  obtain ⟨rfl, htransit⟩ := List.append_inj hext (hindex.trans (length_putU16 i).symm)
  have hlen' : ∀ p ∈ payloads, p.length < 256 ^ lengthSize := hlen
  have hstep := step_acceptStream hrunning hreader i
  obtain ⟨t, read, rest, left, hrun, hlog, hreg, rfl, hleft, hnone⟩ :=
    run_readStream r.streamReaders.length chunks (r := { r.sendRegistration
        { connection := u, stream := GameStream.new i .reliable,
          sendStream := some { written := [] } } with
      streamReaders := r.streamReaders ++ [{ uuid := u, streamId := i, buf := [] }] })
      hrunning List.getElem?_concat_length hlen' htransit (split_nil (by decide))
  refine ⟨t, ?_, ?_, ?_⟩
  · rw [reads, Run.run_cons_of_step _ hstep]
    exact hrun
  · rw [hreg]
    exact Channel.log_send _ _
  · refine ⟨read.length, by rw [List.length_append]; omega, ?_, fun k hk => ?_⟩
    · rw [hlog, List.take_left]
      rfl
    · have hcomplete := complete_iff (fun p hp => hlen' p (List.mem_append_right _ hp)) hleft
        hnone hk
      have htotal := congrArg List.length htransit
      have hrest := congrArg List.length hleft
      simp only [frames_append, List.length_append, List.length_nil, length_putU16]
        at htotal hrest ⊢
      rw [hcomplete]
      omega

/-- An application connects, creates stream 1 and sends two payloads on it. -/
def createAndSend : List Action :=
  [.issue (.connect "127.0.0.1" 8080), .command .allOk,
    .issue (.createStream Uuid.nil 1 .reliable),
    .issue (.send Uuid.nil (GameStream.new 1 .reliable) [1, 2]),
    .issue (.send Uuid.nil (GameStream.new 1 .reliable) [3])]

end QuicBackend

end Quic
end GameSockets
