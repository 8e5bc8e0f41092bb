/-
Whether one peer can hold up the commands for the others.

The loop awaits a free slot in the write queue of the `Send` it processes, inside the
`select!` that serves every command.  A full queue is emptied by its handler, and the
handler waits for the socket when the kernel's buffer is full; that buffer is emptied
by the remote end alone.
-/
import GameSockets.Tcp.Reachable

namespace GameSockets
namespace Tcp

open Library

/-! ## The backend and the kernel's send buffers -/

structure Host where
  backend : TcpBackend
  /-- the bytes of each connection that the kernel holds for its remote end -/
  inFlight : Uuid → Nat

inductive HostAction where
  | backend (a : Action)
  /-- the remote end of a connection reads bytes -/
  | drain (uuid : Uuid) (n : Nat)

/-- The steps that need the remote end of `c`: it reads, it sends, it closes or
resets. -/
def HostAction.ofRemote (c : Uuid) : HostAction → Prop
  | .drain uuid _ => uuid = c
  | .backend (.handler uuid (.read _)) => uuid = c
  | .backend (.handler uuid .hangUp) => uuid = c
  | .backend (.handler uuid .writeFail) => uuid = c
  | .backend _ => False

namespace Host

def init : Host := { backend := TcpBackend.init, inFlight := fun _ => 0 }

section Capacity

variable (cap : Uuid → Nat)

/-- A socket takes no more bytes than its buffer has room for. -/
def step (s : Host) : HostAction → Option Host
  | .backend (.handler uuid (.write n)) =>
    if s.inFlight uuid + n ≤ cap uuid then
      (s.backend.step (.handler uuid (.write n))).map fun b =>
        { backend := b, inFlight := Function.update s.inFlight uuid (s.inFlight uuid + n) }
    else none
  | .backend a => (s.backend.step a).map fun b => { s with backend := b }
  | .drain uuid n =>
    if 0 < n ∧ n ≤ s.inFlight uuid then
      some { s with inFlight := Function.update s.inFlight uuid (s.inFlight uuid - n) }
    else none

/-- The loop waits for the full queue of `c`, and the handler of `c` for its socket,
which has no room for the rest of the packet. -/
def Stuck (s : Host) (c : Uuid) : Prop :=
  ∃ packet h, s.backend.loop = .sending c packet ∧ s.backend.handlers c = some h ∧
    h.phase = .sending ∧ queueCapacity ≤ h.writeRx.pending.length ∧
    cap c < s.inFlight c + h.writeBuf.length

instance (s : Host) (c : Uuid) : Decidable (Stuck cap s c) :=
  match hloop : s.backend.loop, hhandler : s.backend.handlers c with
  | .sending c' packet, some h =>
    decidable_of_iff (c' = c ∧ h.phase = .sending ∧ queueCapacity ≤ h.writeRx.pending.length ∧
        cap c < s.inFlight c + h.writeBuf.length) <| by
      simp only [Stuck, hloop, hhandler, LoopPhase.sending.injEq, Option.some.injEq]
      constructor
      · rintro ⟨rfl, hrest⟩
        exact ⟨packet, h, ⟨rfl, rfl⟩, rfl, hrest⟩
      · rintro ⟨_, _, ⟨rfl, rfl⟩, rfl, hrest⟩
        exact ⟨rfl, hrest⟩
  | _, none => .isFalse fun ⟨_, _, _, h, _⟩ => by simp [hhandler] at h
  | .selecting, _ => .isFalse fun ⟨_, _, h, _⟩ => by simp [hloop] at h
  | .stopped, _ => .isFalse fun ⟨_, _, h, _⟩ => by simp [hloop] at h
  | .panicked, _ => .isFalse fun ⟨_, _, h, _⟩ => by simp [hloop] at h

end Capacity

end Host

/-! ## A stuck loop stays stuck -/

theorem TcpBackend.loop_of_offer_none {s t : TcpBackend} {a : Action} {c : Uuid} {p : Bytes}
    (hloop : s.loop = .sending c p) (hoffer : s.offer c p = none) (hstep : s.step a = some t) :
    t.loop = s.loop ∧ t.peer.cmdTx.received = s.peer.cmdTx.received := by
  have waits : s.loop ≠ .selecting := by
    rw [hloop]
    exact fun heq => by cases heq
  cases steps_of_step hstep with
  | issue => exact ⟨rfl, rfl⟩
  | poll => exact ⟨rfl, rfl⟩
  | register hselecting => exact absurd hselecting waits
  | command hselecting => exact absurd hselecting waits
  | resume hloop' hoffer' =>
    rw [hloop] at hloop'
    cases hloop'
    rw [hoffer] at hoffer'
    cases hoffer'
  | announce => exact ⟨rfl, rfl⟩
  | spawn => exact ⟨rfl, rfl⟩
  | handOver => exact ⟨rfl, rfl⟩
  | handler => exact ⟨rfl, rfl⟩

namespace Host

variable {cap : Uuid → Nat}

/-- A step of the host is a step of its backend, a write within the room of the socket,
or a read of a remote end. -/
theorem step_cases {s t : Host} {a : HostAction} (hstep : step cap s a = some t) :
    (∃ b, a = .backend b ∧ s.backend.step b = some t.backend ∧
        ((∀ uuid n, b ≠ .handler uuid (.write n)) ∧ t.inFlight = s.inFlight ∨
          ∃ uuid n, b = .handler uuid (.write n) ∧ s.inFlight uuid + n ≤ cap uuid ∧
            t.inFlight = Function.update s.inFlight uuid (s.inFlight uuid + n))) ∨
      ∃ uuid n, a = .drain uuid n ∧ t.backend = s.backend ∧
        ∀ c, c ≠ uuid → t.inFlight c = s.inFlight c := by
  unfold step at hstep
  split at hstep
  · next uuid n =>
    split at hstep
    · next hroom =>
      obtain ⟨b, hb, rfl⟩ := Option.map_eq_some_iff.mp hstep
      exact Or.inl ⟨_, rfl, hb, Or.inr ⟨uuid, n, rfl, hroom, rfl⟩⟩
    · cases hstep
  · next b hnot =>
    obtain ⟨b', hb, rfl⟩ := Option.map_eq_some_iff.mp hstep
    exact Or.inl ⟨b, rfl, hb, Or.inl ⟨fun uuid n h => hnot uuid n h, rfl⟩⟩
  · next uuid n =>
    split at hstep <;> cases hstep
    exact Or.inr ⟨uuid, n, rfl, rfl, fun c hc => Function.update_of_ne hc _ _⟩

theorem sane_step {s t : Host} {a : HostAction} (h : s.backend.Sane)
    (hstep : step cap s a = some t) : t.backend.Sane := by
  rcases step_cases hstep with ⟨b, -, hb, -⟩ | ⟨_, _, -, hb, -⟩
  · exact TcpBackend.sane_step h hb
  · rw [hb]
    exact h

/-- Nothing but the remote end of `c` gets the loop going again. -/
theorem stuck_step {s t : Host} {a : HostAction} {c : Uuid} (hsane : s.backend.Sane)
    (hstuck : Stuck cap s c) (hlocal : ¬ a.ofRemote c) (hstep : step cap s a = some t) :
    Stuck cap t c ∧
      t.backend.peer.cmdTx.received = s.backend.peer.cmdTx.received := by
  obtain ⟨p, h, hloop, hhandler, hphase, hfull, hroom⟩ := hstuck
  have hopen : h.phase ≠ .closed := by
    rw [hphase]
    exact fun hclosed => by cases hclosed
  have hnone : ∀ p, h.offer p = none := by
    intro p
    rw [PeerHandler.offer, if_neg hopen, if_neg (Nat.not_lt.mpr hfull)]
  rcases step_cases hstep with ⟨b, rfl, hb, hflight⟩ | ⟨uuid, n, rfl, hb, hflight⟩
  · have hoffer : s.backend.offer c p = none := by
      rw [TcpBackend.offer, hhandler, Option.bind_some, hnone]
    obtain ⟨hloop', hreceived⟩ := TcpBackend.loop_of_offer_none hloop hoffer hb
    refine ⟨?_, hreceived⟩
    have hev := TcpBackend.step_evolves hsane.registered hb c
    have hheld : s.backend.held c = [p] := by
      rw [TcpBackend.held, hloop]
      exact if_pos rfl
    rw [hhandler, hheld] at hev
    generalize hnew : t.backend.handlers c = new at hev
    generalize t.backend.held c = after at hev
    generalize hat : b.atHandler c = act at hev
    generalize s.backend.sendOf c b = sent at hev
    cases hev with
    | same =>
      refine ⟨p, h, hloop'.trans hloop, hnew, hphase, hfull, ?_⟩
      rcases hflight with ⟨-, hflight⟩ | ⟨uuid, n, -, -, hflight⟩
      · rw [hflight]
        exact hroom
      · rw [hflight]
        by_cases hc : c = uuid
        · subst hc
          rw [Function.update_self]
          omega
        · rw [Function.update_of_ne hc]
          exact hroom
    | resumed hoffer' =>
      rw [hnone] at hoffer'
      cases hoffer'
    | @stepped _ h' b' events _ hb' =>
      have ha := Action.atHandler_eq_some hat
      subst ha
      have stays : h.phase ≠ .selecting := by
        rw [hphase]
        exact fun heq => by cases heq
      cases PeerHandler.steps_of_step hb' with
      | read => exact absurd rfl hlocal
      | hangUp => exact absurd rfl hlocal
      | writeFail => exact absurd rfl hlocal
      | frame hselecting => exact absurd hselecting stays
      | tooLong hselecting => exact absurd hselecting stays
      | refuse hselecting => exact absurd hselecting stays
      | take hselecting => exact absurd hselecting stays
      | @write n _ hpos hle =>
        rcases hflight with ⟨hnot, -⟩ | ⟨uuid, n', heq, hfits, hflight⟩
        · exact absurd rfl (hnot c n)
        · cases heq
          refine ⟨p, _, hloop'.trans hloop, hnew, ?_, hfull, ?_⟩
          · exact if_neg (by omega)
          · rw [hflight, Function.update_self, List.length_drop]
            omega
  · rw [HostAction.ofRemote] at hlocal
    refine ⟨⟨p, h, hb ▸ hloop, hb ▸ hhandler, hphase, hfull, ?_⟩, by rw [hb]⟩
    rw [hflight c (Ne.symm hlocal)]
    exact hroom

/-! ## A loop that is not stuck gets through -/

/-- The states reachable without the remote end of `c`. -/
def Without (cap : Uuid → Nat) (c : Uuid) (s t : Host) : Prop :=
  Run.ReachableBy (step cap) (fun a => ¬ a.ofRemote c) s t

theorem sane_without {c : Uuid} {s t : Host} (h : s.backend.Sane) (hrun : Without cap c s t) :
    t.backend.Sane :=
  Run.invariant_of_reachableBy (fun _ _ _ hs _ => sane_step hs) h hrun

/-- What the steps that make room leave alone. -/
structure SameLoop (s t : Host) : Prop where
  loop : t.backend.loop = s.backend.loop
  cmdTx : t.backend.peer.cmdTx = s.backend.peer.cmdTx

theorem SameLoop.trans {s t u : Host} (h : SameLoop s t) (h' : SameLoop t u) : SameLoop s u :=
  ⟨h'.loop.trans h.loop, h'.cmdTx.trans h.cmdTx⟩

theorem running_of_sending {s : Host} {c : Uuid} {p : Bytes} (h : s.backend.loop = .sending c p) :
    s.backend.running = true := by
  rw [TcpBackend.running, h]

section Progress

variable (cap) (c₁ : Uuid)

/-- A step of a handler that needs no room in the socket. -/
theorem handler_step {s : Host} {c : Uuid} {h h' : PeerHandler} {b : HandlerAction}
    {events : List GameNetworkEvent} (hrunning : s.backend.running = true)
    (hhandler : s.backend.handlers c = some h) (hb : h.step c b = some (h', events))
    (hwrite : ∀ n, b ≠ .write n) (hlocal : ¬ (HostAction.backend (.handler c b)).ofRemote c₁) :
    ∃ t, Without cap c₁ s t ∧ SameLoop s t ∧ t.backend.handlers c = some h' := by
  have hbackend : s.backend.step (.handler c b) =
      some ((s.backend.emit events).setHandler c h') := by
    simp only [TcpBackend.step, hrunning, hhandler, hb, Option.map_some]
  have hstep : step cap s (.backend (.handler c b)) =
      some { s with backend := (s.backend.emit events).setHandler c h' } := by
    cases b with
    | write n => exact absurd rfl (hwrite n)
    | read chunk => simp only [step, hbackend, Option.map_some]
    | decode => simp only [step, hbackend, Option.map_some]
    | hangUp => simp only [step, hbackend, Option.map_some]
    | take => simp only [step, hbackend, Option.map_some]
    | writeFail => simp only [step, hbackend, Option.map_some]
  exact ⟨_, Run.reachableBy_of_step _ hlocal hstep, ⟨rfl, rfl⟩,
    TcpBackend.handlers_setHandler_self _ _ _⟩

/-- The socket takes `n` bytes of the packet. -/
theorem write_step {s : Host} {c : Uuid} {h : PeerHandler} {n : Nat}
    (hrunning : s.backend.running = true) (hhandler : s.backend.handlers c = some h)
    (hphase : h.phase = .sending) (hn : 0 < n) (hle : n ≤ h.writeBuf.length)
    (hroom : s.inFlight c + n ≤ cap c) :
    ∃ t, Without cap c₁ s t ∧ SameLoop s t ∧
      t.backend.handlers c = some { h with
        phase := if n = h.writeBuf.length then .selecting else .sending,
        writeBuf := h.writeBuf.drop n } := by
  let h' := { h with
    phase := if n = h.writeBuf.length then .selecting else .sending,
    writeBuf := h.writeBuf.drop n }
  let t : Host :=
    { backend := (s.backend.emit []).setHandler c h',
      inFlight := Function.update s.inFlight c (s.inFlight c + n) }
  have hb : h.step c (.write n) = some (h', []) := by
    simp only [PeerHandler.step]
    rw [if_pos ⟨hphase, hn, hle⟩]
  have hbackend : s.backend.step (.handler c (.write n)) = some t.backend := by
    simp only [TcpBackend.step, hrunning, hhandler, hb, Option.map_some]
    rfl
  have hstep : step cap s (.backend (.handler c (.write n))) = some t := by
    simp only [step]
    rw [if_pos hroom, hbackend]
    rfl
  exact ⟨t, Run.reachableBy_of_step _ id hstep, ⟨rfl, rfl⟩,
    TcpBackend.handlers_setHandler_self _ _ _⟩

/-- The remote end of a connection reads all that the kernel holds for it. -/
theorem drain_all {c : Uuid} (hc : c ≠ c₁) (s : Host) :
    ∃ t, Without cap c₁ s t ∧ t.backend = s.backend ∧ t.inFlight c = 0 := by
  rcases Nat.eq_zero_or_pos (s.inFlight c) with hzero | hpos
  · exact ⟨s, Run.reachableBy_refl _ _ s, rfl, hzero⟩
  · refine ⟨{ s with inFlight := Function.update s.inFlight c 0 },
      Run.reachableBy_of_step _ (a := .drain c (s.inFlight c)) hc ?_, rfl,
      Function.update_self _ _ _⟩
    simp only [step]
    rw [if_pos ⟨hpos, Nat.le_refl _⟩, Nat.sub_self]

/-- A handler gets its packet out if there is room for it, or with the help of its
remote end. -/
theorem flush {c : Uuid} (hcap : 0 < cap c) {s : Host} {h : PeerHandler}
    (hrunning : s.backend.running = true) (hhandler : s.backend.handlers c = some h)
    (hphase : h.phase = .sending) (hpos : 0 < h.writeBuf.length)
    (hroom : c = c₁ → s.inFlight c + h.writeBuf.length ≤ cap c) :
    ∃ t h', Without cap c₁ s t ∧ SameLoop s t ∧ t.backend.handlers c = some h' ∧
      h'.phase = .selecting ∧ h'.writeRx = h.writeRx := by
  by_cases hc : c = c₁
  · obtain ⟨t, hrun, hsame, ht⟩ := write_step cap c₁ hrunning hhandler hphase hpos
      (Nat.le_refl _) (hroom hc)
    exact ⟨t, _, hrun, hsame, ht, if_pos rfl, rfl⟩
  · clear hroom
    generalize hlen : h.writeBuf.length = len at hpos
    -- byte by byte: the remote end reads, and the socket has room for one more
    induction len generalizing s h with
    | zero => cases hpos
    | succ len ih =>
      obtain ⟨s', hdrain, hbackend, hzero⟩ := drain_all cap c₁ hc s
      have hrunning' : s'.backend.running = true := by rw [hbackend, hrunning]
      obtain ⟨t, hrun, hsame, ht⟩ := write_step cap c₁ hrunning'
        (hbackend ▸ hhandler) hphase Nat.one_pos (by omega) (by omega)
      have hrun' : Without cap c₁ s t := Run.reachableBy_trans _ hdrain hrun
      have hsame' : SameLoop s t := ⟨by rw [hsame.loop, hbackend], by rw [hsame.cmdTx, hbackend]⟩
      rcases Nat.eq_zero_or_pos len with rfl | hpos'
      · exact ⟨t, _, hrun', hsame', ht, if_pos hlen.symm, rfl⟩
      · have hrunning'' : t.backend.running = true := by
          rw [TcpBackend.running, hsame'.loop]
          exact hrunning
        obtain ⟨u, h', hmore, hsame'', hu, hdone, hqueue⟩ :=
          ih hrunning'' ht (if_neg (by omega)) (by simp [hlen]) hpos'
        exact ⟨u, h', Run.reachableBy_trans _ hrun' hmore, hsame'.trans hsame'', hu, hdone,
          hqueue⟩

/-- The loop gets its packet into a queue with a free slot. -/
theorem resume_step {s : Host} {c : Uuid} {p : Bytes} {h : PeerHandler}
    (hloop : s.backend.loop = .sending c p) (hhandler : s.backend.handlers c = some h)
    (hfree : h.phase = .closed ∨ h.writeRx.pending.length < queueCapacity) :
    ∃ t, Without cap c₁ s t ∧ t.backend.loop = .selecting ∧
      t.backend.peer.cmdTx = s.backend.peer.cmdTx := by
  obtain ⟨h', hoffer⟩ : ∃ h', h.offer p = some h' := by
    unfold PeerHandler.offer
    split
    · exact ⟨h, rfl⟩
    · next hopen => exact ⟨_, if_pos (hfree.resolve_left hopen)⟩
  have hbackend : s.backend.step .resume =
      some { s.backend.setHandler c h' with loop := .selecting } := by
    simp only [TcpBackend.step, hloop, TcpBackend.offer, hhandler, Option.bind_some, hoffer]
  have hstep : step cap s (.backend .resume) =
      some { s with backend := { s.backend.setHandler c h' with loop := .selecting } } := by
    simp only [step, hbackend, Option.map_some]
  exact ⟨_, Run.reachableBy_of_step _ id hstep, rfl, rfl⟩

/-- A waiting handler takes a packet off its full queue. -/
theorem take_step {s : Host} {c : Uuid} {h : PeerHandler} (hrunning : s.backend.running = true)
    (hhandler : s.backend.handlers c = some h) (hphase : h.phase = .selecting)
    (hqueue : h.writeRx.pending.length = queueCapacity) :
    ∃ t h', Without cap c₁ s t ∧ SameLoop s t ∧ t.backend.handlers c = some h' ∧
      h'.writeRx.pending.length < queueCapacity := by
  obtain ⟨q, rest, hpending⟩ : ∃ q rest, h.writeRx.pending = q :: rest := by
    refine List.exists_cons_of_length_pos ?_
    rw [hqueue]
    decide
  have hrecv := Channel.recv_of_pending hpending
  have hlen : rest.length < queueCapacity := by
    rw [hpending, List.length_cons] at hqueue
    omega
  obtain ⟨h', hb, hqueue'⟩ : ∃ h', h.step c .take = some (h', []) ∧ h'.writeRx.pending = rest := by
    simp only [PeerHandler.step, hphase, hrecv]
    split
    · exact ⟨_, rfl, rfl⟩
    · exact ⟨_, rfl, rfl⟩
  obtain ⟨t, hrun, hsame, ht⟩ := handler_step cap c₁ hrunning hhandler hb
    (fun n h => by cases h) id
  exact ⟨t, h', hrun, hsame, ht, by rw [hqueue']; exact hlen⟩

/-- Unless it is stuck on `c₁`, a waiting loop gets its packet through without the
remote end of `c₁`. -/
theorem clear_wait (hcap : ∀ c, 0 < cap c) {s : Host} {c : Uuid} {p : Bytes}
    (hsane : s.backend.Sane) (hloop : s.backend.loop = .sending c p)
    (hnot : c = c₁ → ¬ Stuck cap s c₁) :
    ∃ t, Without cap c₁ s t ∧ t.backend.loop = .selecting ∧
      t.backend.peer.cmdTx = s.backend.peer.cmdTx := by
  have hready : c ∈ s.backend.ready :=
    List.mem_append_left _ (hsane.registered.waits c p hloop)
  obtain ⟨h, hhandler⟩ := Option.ne_none_iff_exists'.mp ((hsane.registered.ready c).mp hready)
  have hwell := hsane.handlers c h hhandler
  have hrunning := running_of_sending hloop
  rcases Nat.lt_or_eq_of_le hwell.queue with hfree | hfull
  · exact resume_step cap c₁ hloop hhandler (Or.inr hfree)
  · cases hphase : h.phase with
    | closed => exact resume_step cap c₁ hloop hhandler (Or.inl hphase)
    | selecting =>
      obtain ⟨t, h', hrun, hsame, ht, hfree⟩ := take_step cap c₁ hrunning hhandler hphase hfull
      obtain ⟨u, hmore, hdone, hcmd⟩ :=
        resume_step cap c₁ (hsame.loop.trans hloop) ht (Or.inr hfree)
      exact ⟨u, Run.reachableBy_trans _ hrun hmore, hdone, hcmd.trans hsame.cmdTx⟩
    | sending =>
      have hroom : c = c₁ → s.inFlight c + h.writeBuf.length ≤ cap c := by
        rintro rfl
        by_contra hlt
        exact hnot rfl ⟨p, h, hloop, hhandler, hphase, hfull.ge, by omega⟩
      obtain ⟨t, h', hrun, hsame, ht, hidle, hqueue⟩ :=
        flush cap c₁ (hcap c) hrunning hhandler hphase
          (List.length_pos_of_ne_nil (hwell.sending.mp hphase)) hroom
      have hrunning' := running_of_sending (hsame.loop.trans hloop)
      obtain ⟨u, h'', hrun', hsame', hu, hfree⟩ :=
        take_step cap c₁ hrunning' ht hidle (by rw [hqueue, hfull])
      have hloop' := hsame'.loop.trans (hsame.loop.trans hloop)
      obtain ⟨v, hmore, hdone, hcmd⟩ := resume_step cap c₁ hloop' hu (Or.inr hfree)
      exact ⟨v, Run.reachableBy_trans _ hrun (Run.reachableBy_trans _ hrun' hmore), hdone,
        hcmd.trans (hsame'.cmdTx.trans hsame.cmdTx)⟩

end Progress

/-- A loop in its `select!` takes the command, and may have to wait for the connection
that a `Send` is for. -/
theorem command_step (cap : Uuid → Nat) {s : Host} {c₁ : Uuid} {cmd : BackendCommand}
    (hloop : s.backend.loop = .selecting)
    (hnext : s.backend.peer.cmdTx.pending.head? = some cmd)
    (hcmd : cmd = .shutdown ∨ ∃ c₂ stream data, cmd = .send c₂ stream data ∧ c₂ ≠ c₁) :
    ∃ t, step cap s (.backend (.command TcpBackend.allOk)) = some t ∧
      t.backend.peer.cmdTx.received = s.backend.peer.cmdTx.received ++ [cmd] ∧
      ((t.backend.loop = .selecting ∨ t.backend.loop = .stopped) ∨
        ∃ c₂ p, c₂ ≠ c₁ ∧ t.backend.loop = .sending c₂ p) := by
  obtain ⟨rest, hpending⟩ := List.head?_eq_some_iff.mp hnext
  have hrecv := Channel.recv_of_pending hpending
  let taken : TcpBackend :=
    { s.backend with
      loop := .selecting,
      peer := { s.backend.peer with
        cmdTx := { received := s.backend.peer.cmdTx.received ++ [cmd], pending := rest } } }
  have hstep : ∀ b, TcpBackend.processCommand TcpBackend.allOk taken cmd = some b →
      step cap s (.backend (.command TcpBackend.allOk)) = some { s with backend := b } := by
    intro b hb
    have hbackend : s.backend.step (.command TcpBackend.allOk) = some b := by
      simp only [TcpBackend.step, hloop, hrecv]
      exact hb
    simp only [step, hbackend, Option.map_some]
  rcases hcmd with rfl | ⟨c₂, stream, data, rfl, hne⟩
  · exact ⟨_, hstep _ rfl, rfl, Or.inl (Or.inr rfl)⟩
  · by_cases hpeer : c₂ ∈ taken.peers
    · refine ⟨_, hstep (taken.push c₂ (packet stream data)) (if_pos hpeer), ?_, ?_⟩
      · dsimp only
        rw [TcpBackend.peer_push]
      · obtain ⟨-, -, -, hpush⟩ := TcpBackend.push_spec taken c₂ (packet stream data)
        rcases hpush with hpush | hpush
        · exact Or.inl (Or.inl hpush)
        · exact Or.inr ⟨c₂, _, hne, hpush⟩
    · exact ⟨_, hstep taken (if_neg hpeer), rfl, Or.inl (Or.inl rfl)⟩

/-- The loop has taken the command and is done with it. -/
def Processed (cmd : BackendCommand) (s t : Host) : Prop :=
  t.backend.peer.cmdTx.received = s.backend.peer.cmdTx.received ++ [cmd] ∧
    (t.backend.loop = .selecting ∨ t.backend.loop = .stopped)

theorem sane_of_run {actions : List HostAction} {s : Host}
    (hrun : Run.run (step cap) init actions = some s) : s.backend.Sane :=
  Run.invariant_of_run (fun _ _ _ => sane_step) TcpBackend.sane_init hrun

theorem not_processed_of_stuck {s t : Host} {c : Uuid} {cmd : BackendCommand}
    (hsane : s.backend.Sane) (hstuck : Stuck cap s c) (hrun : Without cap c s t) :
    ¬ Processed cmd s t := by
  have keep : ∀ (u : Host) (a : HostAction) (v : Host),
      (u.backend.Sane ∧ Stuck cap u c ∧
        u.backend.peer.cmdTx.received = s.backend.peer.cmdTx.received) →
      ¬ a.ofRemote c → step cap u a = some v →
      (v.backend.Sane ∧ Stuck cap v c ∧
        v.backend.peer.cmdTx.received = s.backend.peer.cmdTx.received) := by
    rintro u a v ⟨hs, hst, hreceived⟩ hlocal hstep
    obtain ⟨hst', hreceived'⟩ := stuck_step hs hst hlocal hstep
    exact ⟨sane_step hs hstep, hst', hreceived'.trans hreceived⟩
  have hend := Run.invariant_of_reachableBy keep ⟨hsane, hstuck, rfl⟩ hrun
  rintro ⟨hreceived, -⟩
  rw [hend.2.2] at hreceived
  simp at hreceived

/-- The next command, a `Shutdown` or a `Send` to another connection, can be processed
without the remote end of `c₁` exactly when the loop is not stuck on `c₁`. -/
theorem processed_iff_not_stuck (cap : Uuid → Nat) (hcap : ∀ c, 0 < cap c)
    (actions : List HostAction) (s : Host)
    (hrun : Run.run (step cap) init actions = some s) (hrunning : s.backend.running = true)
    (c₁ : Uuid) (cmd : BackendCommand) (hnext : s.backend.peer.cmdTx.pending.head? = some cmd)
    (hcmd : cmd = .shutdown ∨ ∃ c₂ stream data, cmd = .send c₂ stream data ∧ c₂ ≠ c₁) :
    (∃ t, Without cap c₁ s t ∧ Processed cmd s t) ↔ ¬ Stuck cap s c₁ := by
  have hsane := sane_of_run hrun
  constructor
  · rintro ⟨t, hwithout, hdone⟩ hstuck
    exact not_processed_of_stuck hsane hstuck hwithout hdone
  · intro hnot
    -- first the packet that the loop waits with, then the command itself
    obtain ⟨u, hfirst, hselecting, hcmdTx⟩ : ∃ u, Without cap c₁ s u ∧
        u.backend.loop = .selecting ∧ u.backend.peer.cmdTx = s.backend.peer.cmdTx := by
      cases hloop : s.backend.loop with
      | selecting => exact ⟨s, Run.reachableBy_refl _ _ s, hloop, rfl⟩
      | sending c p => exact clear_wait cap c₁ hcap hsane hloop fun _ => hnot
      | stopped =>
        rw [TcpBackend.running, hloop] at hrunning
        cases hrunning
      | panicked =>
        rw [TcpBackend.running, hloop] at hrunning
        cases hrunning
    rw [← hcmdTx] at hnext
    obtain ⟨v, hstep, hreceived, hloop⟩ := command_step cap hselecting hnext hcmd
    have htaken : Without cap c₁ s v :=
      Run.reachableBy_trans _ hfirst (Run.reachableBy_of_step _ id hstep)
    rw [hcmdTx] at hreceived
    rcases hloop with hdone | ⟨c₂, p, hne, hwait⟩
    · exact ⟨v, htaken, hreceived, hdone⟩
    · obtain ⟨w, hlast, hdone, hcmd'⟩ := clear_wait cap c₁ hcap (sane_without hsane htaken) hwait
        fun heq => absurd heq hne
      exact ⟨w, Run.reachableBy_trans _ htaken hlast, by rw [hcmd', hreceived], Or.inl hdone⟩

/-- The UUID of a second connection. -/
def otherUuid : Uuid := { asBytes := List.replicate 16 1, size := rfl }

/-- A server sends to a client that never reads until the write queue is full and the
loop waits for it; then it sends to another client. -/
def slowReader (data : Bytes) : List HostAction :=
  let send : List HostAction :=
    [.backend (.issue (.send Uuid.nil { streamId := 4 } data)),
      .backend (.command TcpBackend.allOk)]
  [.backend (.issue (.connect "10.0.0.1" 8080)), .backend (.command TcpBackend.allOk),
      .backend (.issue (.connect "10.0.0.2" 8080)),
      .backend (.command { TcpBackend.allOk with newV4 := otherUuid })] ++
    send ++ [.backend (.handler Uuid.nil .take)] ++ (List.replicate 101 send).flatten ++
    [.backend (.issue (.send otherUuid { streamId := 4 } [7]))]

/-- The socket still takes the short packets of the client that does not read. -/
theorem send_passes :
    ∃ s, Run.run (step fun _ => 4608) init (slowReader [7]) = some s ∧
      s.backend.loop = .sending Uuid.nil (packet { streamId := 4 } [7]) ∧
      ∃ t, Without (fun _ => 4608) Uuid.nil s t ∧
        Processed (.send otherUuid { streamId := 4 } [7]) s t := by
  let view (s : Host) :=
    (s.backend.loop, s.backend.peer.cmdTx.pending.head?,
      decide (Stuck (fun _ => 4608) s Uuid.nil), s.backend.running)
  have hview : (Run.run (step fun _ => 4608) init (slowReader [7])).map view =
      some (.sending Uuid.nil (packet { streamId := 4 } [7]),
        some (.send otherUuid { streamId := 4 } [7]), false, true) := by
    decide +kernel
  obtain ⟨s, hrun, hs⟩ := Option.map_eq_some_iff.mp hview
  simp only [view, Prod.mk.injEq, decide_eq_false_iff_not] at hs
  obtain ⟨hloop, hnext, hfree, hrunning⟩ := hs
  have hother : otherUuid ≠ Uuid.nil := by decide
  exact ⟨s, hrun, hloop,
    (processed_iff_not_stuck (fun _ => 4608) (fun _ => by decide) (slowReader [7]) s hrun hrunning
      Uuid.nil (.send otherUuid { streamId := 4 } [7]) hnext
      (Or.inr ⟨_, _, _, rfl, hother⟩)).mpr hfree⟩

/-- The write queue of the other client is empty, and still its command waits for the
client that does not read. -/
theorem send_blocked :
    ∃ s, Run.run (step fun _ => 4608) init (slowReader (List.replicate 5000 0)) = some s ∧
      s.backend.peer.cmdTx.pending.head? = some (.send otherUuid { streamId := 4 } [7]) ∧
      otherUuid ∈ s.backend.peers ∧
      (s.backend.handlers otherUuid).map (·.writeRx.pending.length) = some 0 ∧
      ∀ t, Without (fun _ => 4608) Uuid.nil s t →
        ¬ Processed (.send otherUuid { streamId := 4 } [7]) s t := by
  let view (s : Host) :=
    (s.backend.peer.cmdTx.pending.head?, decide (otherUuid ∈ s.backend.peers),
      (s.backend.handlers otherUuid).map (·.writeRx.pending.length),
      decide (Stuck (fun _ => 4608) s Uuid.nil))
  have hview :
      (Run.run (step fun _ => 4608) init (slowReader (List.replicate 5000 0))).map view =
        some (some (.send otherUuid { streamId := 4 } [7]), true, some 0, true) := by
    decide +kernel
  obtain ⟨s, hrun, hs⟩ := Option.map_eq_some_iff.mp hview
  simp only [view, Prod.mk.injEq, decide_eq_true_eq] at hs
  obtain ⟨hnext, hpeer, hqueue, hstuck⟩ := hs
  exact ⟨s, hrun, hnext, hpeer, hqueue, fun t ht =>
    not_processed_of_stuck (sane_of_run hrun) hstuck ht⟩

end Host

end Tcp
end GameSockets
