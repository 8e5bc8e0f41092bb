/-
In-order delivery over TCP.

Of the `Send`s that the loop takes for a registered connection, the other end has
emitted the first ones as `Message`s; the frames of the others are, in order, the
bytes that it has read but not decoded, the bytes in the network, the rest of the
packet that the handler is sending, and the queued packets.
-/
import GameSockets.Handle
import GameSockets.Tcp.Link

namespace GameSockets
namespace Tcp

open Library Framing

/-- The packet of what a `Send` asks for. -/
def packetOf (m : GameStream × Bytes) : Bytes := packet m.1 m.2

/-! ## The sending end -/

namespace PeerHandler

/-- The bytes that a handler has still to write when `waiting` is yet to be put into
its queue, if it can write at all. -/
def unsent (h : PeerHandler) (waiting : List Bytes) : Option Bytes :=
  if h.phase = .closed ∨ h.broken = true then none
  else some (h.writeBuf ++ frames lengthSize (h.writeRx.pending ++ waiting))

theorem unsent_eq_some {h : PeerHandler} {waiting : List Bytes} {o : Bytes}
    (ho : h.unsent waiting = some o) :
    h.writeBuf ++ frames lengthSize (h.writeRx.pending ++ waiting) = o := by
  unfold unsent at ho
  split at ho
  · cases ho
  · exact Option.some.inj ho

theorem unsent_append (h : PeerHandler) (waiting : List Bytes) (p : Bytes) :
    h.unsent (waiting ++ [p]) = (h.unsent waiting).map (· ++ frame lengthSize p) := by
  unfold unsent
  split
  · rfl
  · simp only [Option.map_some, frames_append, frames_cons, frames_nil, List.append_assoc,
      List.append_nil]

/-- Putting a packet into the queue does not change what is still to write. -/
theorem unsent_offer {h h' : PeerHandler} {p : Bytes} (hoffer : h.offer p = some h') :
    h'.unsent [] = h.unsent [p] := by
  unfold offer at hoffer
  split at hoffer
  · next hclosed =>
    cases hoffer
    simp only [unsent, hclosed, true_or, ↓reduceIte]
  · split at hoffer <;> cases hoffer
    simp only [unsent, Channel.pending_send, List.append_nil]

/-- A step of the handler writes from the front of what is still to write. -/
theorem unsent_step {uuid : Uuid} {h h' : PeerHandler} {b : HandlerAction}
    {events : List GameNetworkEvent} {waiting : List Bytes} (hw : h.WellFormed)
    (hlen : ∀ p ∈ h.writeRx.pending, p.length ≤ maxFrame)
    (hstep : h.step uuid b = some (h', events)) {ext : Bytes}
    (hext : ∀ o, h.unsent waiting = some o → ext = o) :
    ∃ ext', ext = h.written (some b) ++ ext' ∧ ∀ o, h'.unsent waiting = some o → ext' = o := by
  have silent : ∀ o, ({ h with phase := .closed } : PeerHandler).unsent waiting = some o →
      ext = o := by
    intro o ho
    simp [unsent] at ho
  cases steps_of_step hstep with
  | read => exact ⟨ext, rfl, hext⟩
  | frame => exact ⟨ext, rfl, hext⟩
  | tooLong => exact ⟨ext, rfl, silent⟩
  | hangUp => exact ⟨ext, rfl, silent⟩
  | @refuse p rx _ hrecv hrefused =>
    -- only a broken socket makes the packet get lost
    have hbroken : h.broken = true := by
      refine hrefused.resolve_right (Nat.not_lt.mpr (hlen p ?_))
      rw [(Channel.recv_eq_some hrecv).1]
      exact List.mem_cons_self
    refine ⟨ext, rfl, fun o ho => ?_⟩
    simp [unsent, hbroken] at ho
  | take hphase hrecv haccepted =>
    refine ⟨ext, rfl, fun o ho => hext o ?_⟩
    have hidle : h.writeBuf = [] := by
      by_contra hne
      have hsending := hw.sending.mpr hne
      rw [hphase] at hsending
      cases hsending
    rw [← ho]
    simp only [unsent, hphase, hidle, (Channel.recv_eq_some hrecv).1, List.cons_append,
      frames_cons, List.nil_append, reduceCtorEq, false_or]
  | @write n hphase hpos hle =>
    have hopen : ¬ (h.phase = .closed ∨ h.broken = true) := by
      rintro (hclosed | hbroken)
      · rw [hphase] at hclosed
        cases hclosed
      · exact hw.broken hbroken hphase
    have hall := hext _ (if_neg hopen)
    refine ⟨h.writeBuf.drop n ++ frames lengthSize (h.writeRx.pending ++ waiting), ?_,
      fun o ho => unsent_eq_some ho⟩
    rw [hall, written, ← List.append_assoc, List.take_append_drop]
  | writeFail =>
    refine ⟨ext, rfl, fun o ho => ?_⟩
    simp [unsent] at ho

end PeerHandler

namespace TcpBackend

/-- The packets that wait for the handler of a UUID. -/
def queued (s : TcpBackend) (uuid : Uuid) : List Bytes :=
  (s.handlerOf uuid).writeRx.pending ++ s.held uuid

/-- The bytes that one end has still to write, if it can write. -/
def outgoing (s : TcpBackend) (uuid : Uuid) : Option Bytes :=
  (s.handlerOf uuid).unsent (s.held uuid)

/-- One step of the sending end: it appends the frame of the `Send` that it takes to
what is still to write, and writes from the front. -/
theorem outgoing_step {s t : TcpBackend} {a : Action} {uuid : Uuid} (hs : Sane s)
    (hlen : ∀ p ∈ s.queued uuid, p.length ≤ maxFrame) (hstep : s.step a = some t) {ext : Bytes}
    (hext : ∀ o, s.outgoing uuid = some o → ext = o) :
    ∃ ext', ext ++ frames lengthSize ((s.sendOf uuid a).toList.map packetOf) =
        s.written uuid a ++ ext' ∧
      ∀ o, t.outgoing uuid = some o → ext' = o := by
  have hw := hs.handlerOf uuid
  have hev := step_evolves hs.registered hstep uuid
  unfold queued at hlen
  unfold written
  unfold outgoing at hext ⊢
  unfold handlerOf at hw hlen hext ⊢
  generalize a.atHandler uuid = b at hev ⊢
  generalize s.sendOf uuid a = sent at hev ⊢
  generalize s.handlers uuid = old at hev hw hlen hext ⊢
  generalize s.held uuid = before at hev hlen hext ⊢
  generalize t.handlers uuid = new at hev ⊢
  generalize t.held uuid = after at hev ⊢
  -- a `Send` that is taken adds its packet to what waits
  have taken : ∀ (h : PeerHandler) (m : GameStream × Bytes),
      (∀ o, h.unsent [] = some o → ext = o) →
      ∀ o, h.unsent [packetOf m] = some o → ext ++ frames lengthSize [packetOf m] = o := by
    intro h m hext o ho
    have happend := h.unsent_append [] (packetOf m)
    rw [List.nil_append, ho] at happend
    obtain ⟨o', ho', heq⟩ := Option.map_eq_some_iff.mp happend.symm
    rw [hext o' ho', frames_cons, frames_nil, List.append_nil]
    exact heq
  cases hev with
  | same h waiting => exact ⟨ext, List.append_nil _, hext⟩
  | spawned => exact ⟨ext, List.append_nil _, hext⟩
  | @pushed h h' m hoffer =>
    refine ⟨_, rfl, ?_⟩
    simp only [Option.getD_some, PeerHandler.unsent_offer hoffer] at hext ⊢
    exact taken h m hext
  | @waits h m hoffer => exact ⟨_, rfl, taken h m hext⟩
  | @resumed h h' p hoffer =>
    refine ⟨ext, List.append_nil _, ?_⟩
    simp only [Option.getD_some, PeerHandler.unsent_offer hoffer] at hext ⊢
    exact hext
  | @stepped h h' b events waiting hb =>
    obtain ⟨ext', heq, hext'⟩ := PeerHandler.unsent_step hw
      (fun p hp => hlen p (List.mem_append_left _ hp)) hb hext
    exact ⟨ext', by rw [heq]; exact List.append_nil _, hext'⟩

/-- Only a `Send` adds to the packets that wait. -/
theorem queued_step {s t : TcpBackend} {a : Action} {uuid : Uuid} (hreg : Registered s)
    (hstep : s.step a = some t) {p : Bytes} (hp : p ∈ t.queued uuid) :
    p ∈ s.queued uuid ∨ p ∈ (s.sendOf uuid a).toList.map packetOf := by
  have hev := step_evolves hreg hstep uuid
  unfold queued handlerOf at hp ⊢
  generalize a.atHandler uuid = b at hev
  generalize s.sendOf uuid a = sent at hev ⊢
  generalize s.handlers uuid = old at hev ⊢
  generalize s.held uuid = before at hev ⊢
  generalize t.handlers uuid = new at hev hp
  generalize t.held uuid = after at hev hp
  have offered : ∀ {h h' : PeerHandler} {q : Bytes}, h.offer q = some h' →
      p ∈ h'.writeRx.pending → p ∈ h.writeRx.pending ∨ p = q := by
    intro h h' q hoffer hp
    unfold PeerHandler.offer at hoffer
    split at hoffer
    · cases hoffer
      exact Or.inl hp
    · split at hoffer <;> cases hoffer
      simpa using hp
  cases hev with
  | same h waiting => exact Or.inl hp
  | spawned => exact Or.inl hp
  | @pushed h h' m hoffer =>
    rw [List.append_nil] at hp
    rcases offered hoffer hp with hp | rfl
    · exact Or.inl (List.mem_append_left _ hp)
    · exact Or.inr (List.mem_singleton_self _)
  | @waits h m hoffer =>
    rw [List.append_nil]
    exact List.mem_append.mp hp
  | @resumed h h' q hoffer =>
    rw [List.append_nil] at hp
    refine Or.inl (List.mem_append.mpr ((offered hoffer hp).imp id ?_))
    rintro rfl
    exact List.mem_singleton_self _
  | @stepped h h' b events waiting hb =>
    refine Or.inl (List.mem_append.mpr ((List.mem_append.mp hp).imp ?_ id))
    exact fun hp => (PeerHandler.step_pending hb).subset hp

end TcpBackend

/-! ## The receiving end -/

namespace PeerHandler

/-- A packet is received as what it was made of. -/
theorem receive_packet (uuid : Uuid) (h : PeerHandler) (m : GameStream × Bytes) :
    heardOn uuid (receive uuid h (packetOf m)).2 = [m] := by
  have htake : (packetOf m).take 2 = putU16 m.1.streamId :=
    List.take_left' (length_putU16 _)
  have hdrop : (packetOf m).drop 2 = m.2 := List.drop_left' (length_putU16 _)
  have hlen : 2 ≤ (packetOf m).length := by
    rw [packetOf, packet, List.length_append, length_putU16]
    omega
  unfold receive
  rw [if_pos hlen, htake, hdrop, getU16_putU16]
  dsimp only
  split
  · exact heardOn_message uuid m.1 m.2
  · exact heardOn_message uuid m.1 m.2

/-- A step of the handler decodes the oldest payload in transit, or none. -/
theorem decode_step {uuid : Uuid} {h h' : PeerHandler} {b : HandlerAction}
    {events : List GameNetworkEvent} (hstep : h.step uuid b = some (h', events))
    {wire ext : Bytes} {rest : List (GameStream × Bytes)}
    (hlen : ∀ m ∈ rest, (packetOf m).length ≤ maxFrame)
    (htransit : InTransit lengthSize h.readBuf (readOff (some b) ++ wire) ext
      (rest.map packetOf)) :
    ∃ rest', rest = heardOn uuid events ++ rest' ∧
      InTransit lengthSize h'.readBuf wire ext (rest'.map packetOf) := by
  cases steps_of_step hstep with
  | read => exact ⟨rest, rfl, inTransit_read htransit⟩
  | @frame bytes left known _ _ hdecode hreceive =>
    have hpow : maxFrame < 256 ^ lengthSize := by decide
    have hbound : ∀ p ∈ rest.map packetOf, p.length < 256 ^ lengthSize := by
      intro p hp
      obtain ⟨m, hm, rfl⟩ := List.mem_map.mp hp
      exact Nat.lt_of_le_of_lt (hlen m hm) hpow
    obtain ⟨payloads, hpayloads, hleft⟩ := inTransit_split (by decide) hbound htransit
      (split_of_decodeFrame hdecode)
    obtain ⟨m, rest', rfl, rfl, rfl⟩ := List.map_eq_cons_iff.mp hpayloads
    have hmessages := receive_packet uuid { h with readBuf := left } m
    rw [hreceive] at hmessages
    exact ⟨rest', by rw [hmessages]; rfl, hleft⟩
  | tooLong => exact ⟨rest, rfl, htransit⟩
  | hangUp => exact ⟨rest, rfl, htransit⟩
  | refuse => exact ⟨rest, rfl, htransit⟩
  | take => exact ⟨rest, rfl, htransit⟩
  | write => exact ⟨rest, rfl, htransit⟩
  | writeFail => exact ⟨rest, rfl, htransit⟩

end PeerHandler

namespace TcpBackend

/-- The `Message`s that a backend has emitted for a UUID. -/
def messages (s : TcpBackend) (uuid : Uuid) : List (GameStream × Bytes) :=
  heardOn uuid s.peer.eventRx.log

/-- One step of the receiving end. -/
theorem incoming_step {s t : TcpBackend} {a : Action} {uuid : Uuid} (hreg : Registered s)
    (hstep : s.step a = some t) {wire ext : Bytes} {rest : List (GameStream × Bytes)}
    (hlen : ∀ m ∈ rest, (packetOf m).length ≤ maxFrame)
    (htransit : InTransit lengthSize (s.handlerOf uuid).readBuf
      (readOff (a.atHandler uuid) ++ wire) ext (rest.map packetOf)) :
    ∃ new rest', rest = new ++ rest' ∧ t.messages uuid = s.messages uuid ++ new ∧
      InTransit lengthSize (t.handlerOf uuid).readBuf wire ext (rest'.map packetOf) := by
  obtain ⟨⟨events, hlog, hspeaks⟩, -⟩ := step_logs hstep
  have hmessages : t.messages uuid = s.messages uuid ++ heardOn uuid events := by
    rw [messages, hlog, heardOn_append]
    rfl
  have hspeaks := hspeaks uuid
  generalize hat : a.atHandler uuid = b at hspeaks htransit
  cases b with
  | some b =>
    obtain ⟨h, h', hs, ht, hb⟩ := hspeaks
    simp only [handlerOf, hs, ht, Option.getD_some] at htransit ⊢
    obtain ⟨rest', hrest, hdone⟩ := PeerHandler.decode_step hb hlen htransit
    exact ⟨_, rest', hrest, hmessages, hdone⟩
  | none =>
    have hnone : heardOn uuid events = [] := by
      rw [heardOn, List.filterMap_eq_nil_iff]
      exact fun m hm => if_neg (hspeaks m hm)
    refine ⟨[], rest, rfl, by rw [hmessages, hnone], ?_⟩
    obtain ⟨q, hq⟩ := handlerOf_of_not_handler hreg hstep hat
    rw [hq]
    exact htransit

end TcpBackend

/-! ## From one end to the other -/

namespace Link

/-- The `Send` on the connection that the left end takes. -/
def sendOf (w : Wire) (s : Link) : LinkAction → Option (GameStream × Bytes)
  | .left a => s.left.sendOf w.left a
  | .right _ => none

/-- What was sent is what has been delivered and what is still in transit. -/
structure Conveys (w : Wire) (sent : List (GameStream × Bytes)) (s : Link) : Prop where
  left : s.left.Sane
  right : s.right.Sane
  short : ∀ p ∈ s.left.queued w.left, p.length ≤ maxFrame
  transit : ∃ rest ext, sent = s.right.messages w.right ++ rest ∧
    InTransit lengthSize (s.right.handlerOf w.right).readBuf s.toRight ext (rest.map packetOf) ∧
    ∀ o, s.left.outgoing w.left = some o → ext = o

theorem conveys_init (w : Wire) : Conveys w [] init := by
  refine ⟨TcpBackend.sane_init, TcpBackend.sane_init, fun p hp => ?_, [], [], rfl, rfl,
    fun o ho => Option.some.inj ho⟩
  cases hp

theorem conveys_step {w : Wire} {sent : List (GameStream × Bytes)} {s t : Link} {a : LinkAction}
    (h : Conveys w sent s) (hstep : step w s a = some t)
    (hshort : ∀ m ∈ sent ++ (sendOf w s a).toList, (packetOf m).length ≤ maxFrame) :
    Conveys w (sent ++ (sendOf w s a).toList) t := by
  obtain ⟨hleft, hright⟩ := sane_step h.left h.right hstep
  obtain ⟨rest, ext, rfl, htransit, hext⟩ := h.transit
  rcases step_cases hstep with ⟨b, rfl, hother, hend⟩ | ⟨b, rfl, hother, hend⟩
  · obtain ⟨hb, hout, -, -⟩ := TcpBackend.stepEnd_eq_some hend
    refine ⟨hleft, hright, fun p hp => ?_, ?_⟩
    · rcases TcpBackend.queued_step h.left.registered hb hp with hp | hp
      · exact h.short p hp
      · obtain ⟨m, hm, rfl⟩ := List.mem_map.mp hp
        exact hshort m (List.mem_append_right _ hm)
    · obtain ⟨ext', heq, hext'⟩ := TcpBackend.outgoing_step h.left h.short hb hext
      refine ⟨rest ++ (s.left.sendOf w.left b).toList, ext', ?_, ?_, hext'⟩
      · rw [hother, List.append_assoc]
        rfl
      · rw [hother, hout, List.map_append]
        have hpush := inTransit_push htransit ((s.left.sendOf w.left b).toList.map packetOf)
        rw [heq] at hpush
        exact inTransit_write hpush
  · obtain ⟨hb, -, hin, -⟩ := TcpBackend.stepEnd_eq_some hend
    rw [hin] at htransit
    rw [sendOf, Option.toList_none, List.append_nil] at hshort ⊢
    obtain ⟨new, rest', rfl, hmessages, hdone⟩ := TcpBackend.incoming_step h.right.registered hb
      (fun m hm => hshort m (List.mem_append_right _ hm)) htransit
    refine ⟨hleft, hright, hother ▸ h.short, rest', ext, ?_, hdone, hother ▸ hext⟩
    rw [hmessages, List.append_assoc]

/-- At every moment the `Message`s at one end are the first of the `Send`s that the
loop at the other end has taken for the registered connection: same streams, same
bytes, same order. -/
theorem messages_prefix_sends (w : Wire) (actions : List LinkAction) (s : Link)
    (hrun : Run.run (step w) init actions = some s)
    (hshort : ∀ m ∈ Run.trace (step w) (sendOf w) init actions, m.2.length ≤ maxFrame - 2) :
    s.right.messages w.right <+: Run.trace (step w) (sendOf w) init actions := by
  have hlen : ∀ m : GameStream × Bytes, m.2.length ≤ maxFrame - 2 →
      (packetOf m).length ≤ maxFrame := by
    intro m hm
    rw [packetOf, packet, List.length_append, length_putU16]
    rw [maxFrame] at hm ⊢
    omega
  have keep : ∀ (sent : List (GameStream × Bytes)) (s : Link) (a : LinkAction) (t : Link),
      ((∀ m ∈ sent, (packetOf m).length ≤ maxFrame) → Conveys w sent s) →
      step w s a = some t →
      ((∀ m ∈ sent ++ (sendOf w s a).toList, (packetOf m).length ≤ maxFrame) →
        Conveys w (sent ++ (sendOf w s a).toList) t) := by
    intro sent s a t h hstep hall
    exact conveys_step (h fun m hm => hall m (List.mem_append_left _ hm)) hstep hall
  have hinv := Run.invariant_of_trace keep actions (fun _ => conveys_init w) hrun
  rw [List.nil_append] at hinv
  obtain ⟨rest, ext, hsent, -⟩ := (hinv fun m hm => hlen m (hshort m hm)).transit
  rw [hsent]
  exact List.prefix_append _ _

/-- Both ends call the connection by the nil UUID, and a buffer holds 16 bytes. -/
def shortWire : Wire := { left := Uuid.nil, right := Uuid.nil, capRight := 16, capLeft := 16 }

/-- Two packets are sent, and arrive byte by byte up to the middle of the second one. -/
def twoPackets : List LinkAction :=
  [.right (.issue (.bind "0.0.0.0" 8080)), .right (.command TcpBackend.allOk),
    .left (.issue (.connect "127.0.0.1" 8080)), .left (.command TcpBackend.allOk),
    .right (.announce 0 Uuid.nil), .right (.spawn 0),
    .left (.issue (.send Uuid.nil { streamId := 4 } [1, 2])), .left (.command TcpBackend.allOk),
    .left (.issue (.send Uuid.nil { streamId := 5 } [3])), .left (.command TcpBackend.allOk),
    .left (.handler Uuid.nil .take), .left (.handler Uuid.nil (.write 5)),
    .right (.handler Uuid.nil (.read [0, 0])), .left (.handler Uuid.nil (.write 3)),
    .left (.handler Uuid.nil .take), .left (.handler Uuid.nil (.write 6)),
    .right (.handler Uuid.nil (.read [0, 4, 0, 4, 1, 2, 0, 0, 0, 3])),
    .right (.handler Uuid.nil .decode)]

theorem messages_prefix_twoPackets :
    ∃ s, Run.run (step shortWire) init twoPackets = some s ∧
      s.right.messages Uuid.nil = [({ streamId := 4 }, [1, 2])] ∧
      s.right.messages Uuid.nil <+:
        Run.trace (step shortWire) (sendOf shortWire) init twoPackets := by
  have hview : (Run.run (step shortWire) init twoPackets).map (·.right.messages Uuid.nil) =
      some [({ streamId := 4 }, [1, 2])] := by
    decide +kernel
  obtain ⟨s, hrun, hmessages⟩ := Option.map_eq_some_iff.mp hview
  exact ⟨s, hrun, hmessages,
    messages_prefix_sends shortWire twoPackets s hrun (by decide +kernel)⟩

end Link

end Tcp
end GameSockets
