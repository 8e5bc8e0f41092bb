/-
What every reachable state of a backend satisfies, handler by handler.

A step changes at most the handler that it names: it spawns it, puts a packet into
its queue, or is a step of the task itself.
-/
import GameSockets.Tcp.Registration

namespace GameSockets
namespace Tcp

open Library

/-! ## Handlers -/

/-- The queue holds no more than its capacity; a handler has bytes left to send exactly
while it sends, which it no longer does once a write has failed. -/
structure PeerHandler.WellFormed (h : PeerHandler) : Prop where
  queue : h.writeRx.pending.length ≤ queueCapacity
  sending : h.phase = .sending ↔ h.writeBuf ≠ []
  broken : h.broken = true → h.phase ≠ .sending

namespace PeerHandler

theorem wellFormed_new : new.WellFormed := by
  refine ⟨Nat.zero_le _, ⟨fun h => ?_, fun h => absurd rfl h⟩, fun h => ?_⟩
  · cases h
  · cases h

theorem wellFormed_offer {h h' : PeerHandler} {p : Bytes} (hw : h.WellFormed)
    (hoffer : h.offer p = some h') : h'.WellFormed := by
  unfold offer at hoffer
  split at hoffer
  · cases hoffer
    exact hw
  · split at hoffer
    · next hlen =>
      cases hoffer
      refine ⟨?_, hw.sending, hw.broken⟩
      rw [Channel.pending_send, List.length_append, List.length_singleton]
      exact hlen
    · cases hoffer

/-- A handler that leaves its `select!` has nothing to send. -/
theorem WellFormed.closed {h : PeerHandler} (hw : h.WellFormed) (hphase : h.phase = .selecting) :
    ({ h with phase := .closed } : PeerHandler).WellFormed := by
  refine ⟨hw.queue, ⟨by simp, fun hbuf => ?_⟩, by simp⟩
  have hsending := hw.sending.mpr hbuf
  rw [hphase] at hsending
  cases hsending

theorem wellFormed_step {uuid : Uuid} {h h' : PeerHandler} {a : HandlerAction}
    {events : List GameNetworkEvent} (hw : h.WellFormed)
    (hstep : h.step uuid a = some (h', events)) : h'.WellFormed := by
  have hqueue := Nat.le_trans (step_pending hstep).length_le hw.queue
  cases steps_of_step hstep with
  | read => exact ⟨hw.queue, hw.sending, hw.broken⟩
  | frame => exact ⟨hw.queue, hw.sending, hw.broken⟩
  | tooLong hphase => exact hw.closed hphase
  | hangUp hphase => exact hw.closed hphase
  | refuse => exact ⟨hqueue, hw.sending, hw.broken⟩
  | take _ _ haccepted =>
    refine ⟨hqueue, ⟨fun _ => ?_, fun _ => rfl⟩,
      fun hbroken => absurd (Or.inl hbroken) haccepted⟩
    refine List.ne_nil_of_length_pos ?_
    rw [Framing.length_frame, lengthSize]
    omega
  | write hphase hpos hle =>
    refine ⟨hw.queue, ?_, fun hbroken => absurd hphase (hw.broken hbroken)⟩
    dsimp only
    rw [← List.length_pos_iff, List.length_drop]
    split
    · exact ⟨by simp, fun hpos => by omega⟩
    · exact ⟨fun _ => by omega, fun _ => rfl⟩
  | writeFail => exact ⟨hw.queue, by simp, by simp⟩

end PeerHandler

/-! ## Reachable states -/

namespace TcpBackend

/-- The packet that the loop waits to put into the queue of a UUID. -/
def held (s : TcpBackend) (uuid : Uuid) : List Bytes :=
  match s.loop with
  | .sending c packet => if c = uuid then [packet] else []
  | _ => []

theorem held_of_selecting {s : TcpBackend} (h : s.loop = .selecting) (uuid : Uuid) :
    s.held uuid = [] := by
  rw [held, h]

/-- What a command asks to send to a registered UUID. -/
def admits (s : TcpBackend) (uuid : Uuid) : BackendCommand → Option (GameStream × Bytes)
  | .send c stream data => if c = uuid ∧ c ∈ s.peers then some (stream, data) else none
  | _ => none

/-- The `Send` to a registered UUID that an action takes off the command channel. -/
def sendOf (s : TcpBackend) (uuid : Uuid) : Action → Option (GameStream × Bytes)
  | .command _ => s.peer.cmdTx.recv.bind fun (cmd, _) => s.admits uuid cmd
  | _ => none

/-- What a step can do to the handler of a UUID and to the packet that waits for it:
the handler takes a step of its own, or a `Send` is taken, or neither. -/
inductive Evolves (uuid : Uuid) :
    Option HandlerAction → Option (GameStream × Bytes) →
      Option PeerHandler → List Bytes → Option PeerHandler → List Bytes → Prop where
  | same (h : Option PeerHandler) (waiting : List Bytes) :
    Evolves uuid none none h waiting h waiting
  | spawned : Evolves uuid none none none [] (some PeerHandler.new) []
  | pushed {h h' : PeerHandler} {m : GameStream × Bytes}
    (hoffer : h.offer (packet m.1 m.2) = some h') :
    Evolves uuid none (some m) (some h) [] (some h') []
  | waits {h : PeerHandler} {m : GameStream × Bytes}
    (hoffer : h.offer (packet m.1 m.2) = none) :
    Evolves uuid none (some m) (some h) [] (some h) [packet m.1 m.2]
  | resumed {h h' : PeerHandler} {p : Bytes} (hoffer : h.offer p = some h') :
    Evolves uuid none none (some h) [p] (some h') []
  | stepped {h h' : PeerHandler} {b : HandlerAction} {events : List GameNetworkEvent}
    (waiting : List Bytes) (hstep : h.step uuid b = some (h', events)) :
    Evolves uuid (some b) none (some h) waiting (some h') waiting

/-- A step that changes the handler of one UUID, seen from another. -/
theorem evolves_setHandler_of_ne {s t : TcpBackend} {uuid c : Uuid} {h : PeerHandler}
    (hc : c ≠ uuid) (hhandlers : t.handlers = (s.setHandler uuid h).handlers)
    (hheld : t.held c = s.held c) :
    Evolves c none none (s.handlers c) (s.held c) (t.handlers c) (t.held c) := by
  rw [hhandlers, handlers_setHandler_of_ne s hc, hheld]
  exact .same _ _

theorem push_evolves {s : TcpBackend} {uuid : Uuid} {stream : GameStream}
    {data : Bytes} {h : PeerHandler} (hloop : s.loop = .selecting)
    (hhandler : s.handlers uuid = some h) (c : Uuid) :
    Evolves c none (if uuid = c then some (stream, data) else none) (s.handlers c) (s.held c)
      ((s.push uuid (packet stream data)).handlers c)
      ((s.push uuid (packet stream data)).held c) := by
  have hoffer : s.offer uuid (packet stream data) = h.offer (packet stream data) := by
    rw [offer, hhandler, Option.bind_some]
  rw [held_of_selecting hloop, push, hoffer]
  by_cases hc : c = uuid
  · subst hc
    rw [if_pos rfl, hhandler]
    split
    · next h' hsome =>
      rw [handlers_setHandler_self, held_of_selecting (s := s.setHandler c h') hloop]
      exact .pushed hsome
    · next hnone =>
      simp only [held, hhandler, ↓reduceIte]
      exact .waits hnone
  · rw [if_neg (Ne.symm hc)]
    split
    · next h' hsome =>
      rw [handlers_setHandler_of_ne s hc, held_of_selecting (s := s.setHandler uuid h') hloop]
      exact .same _ _
    · simp only [held, if_neg (Ne.symm hc)]
      exact .same _ _

theorem processes_evolves {s t : TcpBackend} {env : CommandEnv} {cmd : BackendCommand}
    (hreg : Registered s) (hloop : s.loop = .selecting) (hstep : Processes env s cmd t) (c : Uuid) :
    Evolves c none (s.admits c cmd) (s.handlers c) (s.held c) (t.handlers c) (t.held c) := by
  have hheld := held_of_selecting hloop c
  cases hstep with
  | bind => exact .same _ _
  | bindFails =>
    rw [hheld]
    exact .same _ _
  | connect _ hfresh =>
    by_cases hc : c = env.newV4
    · subst hc
      rw [hheld, hfresh.2.2]
      exact (handlers_setHandler_self _ _ _).symm ▸ hheld.symm ▸ .spawned
    · exact evolves_setHandler_of_ne hc rfl rfl
  | connectFails => exact .same _ _
  | @send uuid stream data hpeer =>
    obtain ⟨h, hhandler⟩ := Option.ne_none_iff_exists'.mp
      ((hreg.ready uuid).mp (List.mem_append_left _ hpeer))
    simp only [admits, hpeer, and_true]
    exact push_evolves hloop hhandler c
  | drop hpeer =>
    simp only [admits, hpeer, and_false, ↓reduceIte]
    exact .same _ _
  | shutdown =>
    rw [hheld]
    exact .same _ _
  | createStream => exact .same _ _
  | closeStream => exact .same _ _

/-- The loop waits for no handler that is not there. -/
theorem held_of_none {s : TcpBackend} (hreg : Registered s) {uuid : Uuid}
    (h : s.handlers uuid = none) : s.held uuid = [] := by
  unfold held
  split
  · next c p hloop =>
    refine if_neg fun hc => ?_
    have hready : c ∈ s.ready := List.mem_append_left _ (hreg.waits c p hloop)
    exact (hreg.ready c).mp hready (hc ▸ h)
  · rfl

theorem step_evolves {s t : TcpBackend} {a : Action} (hreg : Registered s)
    (hstep : s.step a = some t) (c : Uuid) :
    Evolves c (a.atHandler c) (s.sendOf c a) (s.handlers c) (s.held c) (t.handlers c)
      (t.held c) := by
  cases steps_of_step hstep with
  | issue => exact .same _ _
  | poll => exact .same _ _
  | register => exact .same _ _
  | @command env cmd tx t hloop hrecv hcommand =>
    have htaken : Registered { s with peer := { s.peer with cmdTx := tx } } :=
      registered_of_sameLog hreg ⟨rfl, rfl, rfl, rfl⟩ (fun c => Iff.rfl) rfl hreg.waits
    have hev := processes_evolves htaken hloop hcommand c
    rw [sendOf, hrecv, Option.bind_some]
    exact hev
  | @resume uuid p h' hloop hoffer =>
    obtain ⟨h, hhandler, hpush⟩ := Option.bind_eq_some_iff.mp hoffer
    by_cases hc : c = uuid
    · subst hc
      have hheld : s.held c = [p] := by rw [held, hloop]; exact if_pos rfl
      rw [hhandler, hheld]
      exact (handlers_setHandler_self s c h').symm ▸ .resumed hpush
    · refine evolves_setHandler_of_ne hc rfl ?_
      simp only [held, hloop]
      exact (if_neg (Ne.symm hc)).symm
  | announce => exact .same _ _
  | @spawn k uuid _ hphase =>
    have hnone := hreg.announced hphase
    by_cases hc : c = uuid
    · subst hc
      have hheld := held_of_none hreg hnone
      rw [hheld, hnone]
      exact (handlers_setHandler_self s c _).symm ▸ hheld.symm ▸ .spawned
    · exact evolves_setHandler_of_ne hc rfl rfl
  | handOver => exact .same _ _
  | @handler uuid b h h' events _ hhandler hb =>
    by_cases hc : c = uuid
    · subst hc
      rw [hhandler, handlers_setHandler_self, Action.atHandler, if_pos rfl]
      exact .stepped _ hb
    · rw [Action.atHandler, if_neg (Ne.symm hc)]
      exact evolves_setHandler_of_ne hc rfl rfl

/-- What every reachable state satisfies. -/
structure Sane (s : TcpBackend) : Prop where
  registered : Registered s
  handlers : ∀ c h, s.handlers c = some h → h.WellFormed

theorem sane_init : Sane init :=
  ⟨registered_init, fun _ _ h => by cases h⟩

theorem sane_step {s t : TcpBackend} {a : Action} (h : Sane s) (hstep : s.step a = some t) :
    Sane t := by
  refine ⟨registered_step h.registered hstep, fun c h' hh => ?_⟩
  have hev := step_evolves h.registered hstep c
  rw [hh] at hev
  generalize hold : s.handlers c = old at hev
  generalize a.atHandler c = b at hev
  generalize s.sendOf c a = sent at hev
  generalize s.held c = before at hev
  generalize t.held c = after at hev
  cases hev with
  | same => exact h.handlers c h' hold
  | spawned => exact PeerHandler.wellFormed_new
  | pushed hoffer => exact PeerHandler.wellFormed_offer (h.handlers c _ hold) hoffer
  | waits => exact h.handlers c h' hold
  | resumed hoffer => exact PeerHandler.wellFormed_offer (h.handlers c _ hold) hoffer
  | stepped _ hb => exact PeerHandler.wellFormed_step (h.handlers c _ hold) hb

end TcpBackend

end Tcp
end GameSockets
