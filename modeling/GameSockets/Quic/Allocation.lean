/-
The ids that `QuicBackend` announces for the streams of its peer.

A `CreateStream` becomes a registration, on the channel that the tasks of the connections
use for theirs, and the loop announces its stream when it takes it.  It does not if the
stream is not `Reliable` and already in `unreliable_send_streams`.
-/
import GameSockets.Quic.Collision
import GameSockets.Quic.Events

namespace GameSockets
namespace Quic

open Library

/-- The command that the action issues. -/
def Action.issued : Action → Option BackendCommand
  | .issue cmd => some cmd
  | _ => none

namespace QuicBackend

/-- Only the application issues commands. -/
theorem issued_of_step {s t : QuicBackend} {a : Action} (hstep : s.step a = some t) :
    t.peer.cmdTx.log = s.peer.cmdTx.log ++ a.issued.toList := by
  have quiet : ∀ {u : QuicBackend}, u.peer.cmdTx.log = s.peer.cmdTx.log →
      u.peer.cmdTx.log = s.peer.cmdTx.log ++ [] := fun h => h.trans (List.append_nil _).symm
  have hcommands := (commands_of_step hstep).1
  cases steps_of_step hstep with
  | issue => exact Channel.log_send _ _
  | command =>
    cases hcommands with
    | command hrecv hcmd => exact quiet (hcmd ▸ Channel.log_recv hrecv)
    | other _ hcmd => exact quiet (by rw [hcmd])
  | registerStream => exact quiet (by simp)
  | _ => exact quiet rfl

/-- What a step does to the registration channel. -/
inductive Registers (s t : QuicBackend) : Action → Prop where
  | quiet {a : Action} (hother : a ≠ .registerStream) (hreg : t.streamReg = s.streamReg) :
    Registers s t a
  | takes {r : StreamRegistration} (hrecv : s.streamReg.recv = some (r, t.streamReg)) :
    Registers s t .registerStream
  | calls {env : CommandEnv} {c : Creation} {tx : Channel BackendCommand} {r : StreamRegistration}
    (hrecv : s.peer.cmdTx.recv = some (.createStream c.connection c.index c.reliability, tx))
    (hconn : r.connection = c.connection) (hstream : r.stream = c.stream)
    (hreg : t.streamReg = s.streamReg.send r) : Registers s t (.command env)
  | other {a : Action} {r : StreamRegistration} (hother : a ≠ .registerStream)
    (hcommand : ∀ env, a ≠ .command env) (hreg : t.streamReg = s.streamReg.send r) :
    Registers s t a

theorem registers_of_step {s t : QuicBackend} {a : Action} (hstep : s.step a = some t) :
    Registers s t a := by
  cases steps_of_step hstep with
  | registerStream _ hrecv => exact .takes (by rw [hrecv, streamReg_processRegistration])
  | command _ hrecv hcommand =>
    cases hcommand with
    | @openStream c i =>
      exact .calls (c := { connection := c, index := i, reliability := .reliable })
        hrecv rfl rfl rfl
    | @createStream c i reliability =>
      exact .calls (c := { connection := c, index := i, reliability := reliability }) hrecv rfl rfl
        rfl
    | send => cases CommandEnv.sendError _ <;> exact .quiet (by simp) rfl
    | _ => exact .quiet (by simp) rfl
  | newDatagram => exact .other (by simp) (by simp) rfl
  | acceptStream => exact .other (by simp) (by simp) rfl
  | _ => exact .quiet (by simp) rfl

/-- What the loop says as it takes a registration. -/
theorem log_registerStream {s t : QuicBackend} (hstep : s.step .registerStream = some t) :
    ∃ r reg, s.streamReg.recv = some (r, reg) ∧
      t.peer.eventRx.log = s.peer.eventRx.log ++
        (if s.Announces r then [.streamCreated r.connection r.stream] else []) := by
  cases steps_of_step hstep with
  | registerStream _ hrecv => exact ⟨_, _, hrecv, processRegistration_log _ _⟩

end QuicBackend

/-! ## Registrations and the calls they come from -/

/-- The registration is not of a call, or it is of the stream that its call asks for. -/
def OfCall (p : GamePeer) (origin : Option Nat) (r : StreamRegistration) : Prop :=
  ∀ k, origin = some k → ∃ c, p.creations[k]? = some c ∧ r.connection = c.connection ∧
    r.stream = c.stream

theorem OfCall.of_log {p p' : GamePeer} {cmds : List BackendCommand}
    (hlog : p'.cmdTx.log = p.cmdTx.log ++ cmds) {origin : Option Nat} {r : StreamRegistration}
    (h : OfCall p origin r) : OfCall p' origin r := by
  intro k hk
  obtain ⟨c, hc, hr⟩ := h k hk
  exact ⟨c, GamePeer.getElem?_creations_of_log hlog hc, hr⟩

/-- The backend, and with each registration on its way the call that it comes from. -/
structure Tagged where
  backend : QuicBackend
  origins : Channel (Option Nat)

namespace Tagged

def init : Tagged := { backend := .init, origins := Channel.empty }

/-- The call whose registration the step sends. -/
def calling (s : Tagged) : Action → Option Nat
  | .command _ => s.backend.peer.nextCreation
  | _ => none

/-- The tags that the step leaves on their way. -/
def remaining (s : Tagged) : Action → Channel (Option Nat)
  | .registerStream => s.origins.recv.elim s.origins Prod.snd
  | _ => s.origins

/-- The tags go with the registrations. -/
def step (s : Tagged) (a : Action) : Option Tagged :=
  (s.backend.step a).map fun t =>
    { backend := t,
      origins := (s.remaining a).sendAll
        ((t.streamReg.log.drop s.backend.streamReg.log.length).map fun _ => s.calling a) }

/-- The call whose registration the loop takes. -/
def answering (s : Tagged) : Action → Option Nat
  | .registerStream => s.origins.recv.bind Prod.fst
  | _ => none

/-- The loop announces the stream of the registration that it takes. -/
def opens (s : Tagged) : Action → Bool
  | .registerStream => s.backend.streamReg.recv.any fun x => s.backend.Announces x.1
  | _ => false

def allocator : Allocator Tagged Action :=
  { step := step, init := init, peer := fun s => s.backend.peer,
    setPeer := fun s peer => { s with backend := { s.backend with peer := peer } },
    issues := Action.issued, answering := answering, opens := opens }

/-- Each registration on its way goes with its tag. -/
def Traced (s : Tagged) : Prop :=
  List.Forall₂ (OfCall s.backend.peer) s.origins.pending s.backend.streamReg.pending

theorem remaining_of_ne (s : Tagged) {a : Action} (h : a ≠ .registerStream) :
    s.remaining a = s.origins := by
  cases a with
  | registerStream => exact absurd rfl h
  | _ => rfl

/-- Other calls of the application leave the tags right. -/
theorem traced_of_log {s : Tagged} {b : QuicBackend} {cmds : List BackendCommand} (h : s.Traced)
    (hlog : b.peer.cmdTx.log = s.backend.peer.cmdTx.log ++ cmds) :
    List.Forall₂ (OfCall b.peer) s.origins.pending s.backend.streamReg.pending :=
  h.imp fun _ _ => OfCall.of_log hlog

theorem traced_step {s t : Tagged} {a : Action} (h : s.Traced) (hstep : s.step a = some t) :
    t.Traced := by
  obtain ⟨b, hb, rfl⟩ := Option.map_eq_some_iff.mp hstep
  have htags := traced_of_log h (QuicBackend.issued_of_step hb)
  -- a registration is sent with the tag of the step
  have hsend : ∀ r, a ≠ .registerStream → b.streamReg = s.backend.streamReg.send r →
      OfCall b.peer (s.calling a) r →
        List.Forall₂ (OfCall b.peer) ((s.remaining a).pending ++
          (b.streamReg.log.drop s.backend.streamReg.log.length).map fun _ => s.calling a)
            b.streamReg.pending := by
    intro r hother hreg hr
    rw [remaining_of_ne s hother, hreg, Channel.log_send, List.drop_left]
    exact List.rel_append htags (.cons hr .nil)
  show List.Forall₂ _ ((s.remaining a).pending ++ _) _
  cases QuicBackend.registers_of_step hb with
  | quiet hother hreg =>
    rw [remaining_of_ne s hother, hreg, List.drop_length, List.map_nil, List.append_nil]
    exact htags
  | @takes r hrecv =>
    obtain ⟨hpending, -⟩ := Channel.recv_eq_some hrecv
    rw [hpending] at htags
    obtain ⟨origin, rest, -, hrest, horigins⟩ := List.forall₂_cons_right_iff.mp htags
    rw [Channel.log_recv hrecv, List.drop_length, List.map_nil, List.append_nil, remaining,
      Channel.recv_of_pending horigins]
    exact hrest
  | @calls env c tx r hrecv hconn hstream hreg =>
    refine hsend r (by simp) hreg fun k hk => ?_
    obtain ⟨c', tx', hrecv', hc⟩ := GamePeer.nextCreation_eq_some hk
    rw [hrecv, Option.some.injEq, Prod.mk.injEq, BackendCommand.createStream.injEq] at hrecv'
    have hsame : c = c' := by
      cases c
      cases c'
      simp_all
    subst hsame
    exact ⟨c, GamePeer.getElem?_creations_of_log (QuicBackend.issued_of_step hb) hc, hconn,
      hstream⟩
  | @other a r hother hcommand hreg =>
    refine hsend r hother hreg fun k hk => ?_
    cases a with
    | command env => exact absurd rfl (hcommand env)
    | _ => cases hk

/-- The loop announces the stream of a call as it takes the registration. -/
theorem answered_registration {s t : Tagged} {k : Nat} (h : s.Traced)
    (hstep : s.step .registerStream = some t) (hk : s.answering .registerStream = some k) :
    ∃ c, s.backend.peer.creations[k]? = some c ∧
      allocator.announces s t =
        if s.opens .registerStream then [(c.connection, c.stream)] else [] := by
  obtain ⟨b, hb, rfl⟩ := Option.map_eq_some_iff.mp hstep
  obtain ⟨⟨origin, origins⟩, horigins, hfst⟩ := Option.bind_eq_some_iff.mp hk
  obtain ⟨r, reg, hrecv, hlog⟩ := QuicBackend.log_registerStream hb
  have hheads := h
  rw [Traced, (Channel.recv_eq_some horigins).1, (Channel.recv_eq_some hrecv).1] at hheads
  obtain ⟨c, hc, hconn, hstream⟩ := (List.forall₂_cons.mp hheads).1 k hfst
  refine ⟨c, hc, ?_⟩
  rw [Allocator.announces_of_log hlog, opens, hrecv, hconn, hstream]
  by_cases hannounces : s.backend.Announces r
  · simp [hannounces, GameNetworkEvent.created]
  · simp [hannounces]

theorem lawful : allocator.Lawful Traced := by
  refine ⟨rfl, .nil, fun _ _ _ => traced_step, ?_, fun _ _ => rfl, fun _ _ => rfl, ?_, ?_, ?_⟩
  · intro s p h hissued
    obtain ⟨cmds, hlog⟩ := hissued
    show List.Forall₂ (OfCall p) s.origins.pending s.backend.streamReg.pending
    exact traced_of_log (b := { s.backend with peer := p }) h hlog
  · intro s a t hstep
    obtain ⟨b, hb, rfl⟩ := Option.map_eq_some_iff.mp hstep
    exact (QuicBackend.commands_of_step hb).2
  · intro s a t hstep
    obtain ⟨b, hb, rfl⟩ := Option.map_eq_some_iff.mp hstep
    exact QuicBackend.issued_of_step hb
  · intro s a t k h hstep hk
    cases a with
    | registerStream => exact answered_registration h hstep hk
    | _ => cases hk

end Tagged

end Quic
end GameSockets
