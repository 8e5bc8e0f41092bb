/-
A benchmark over TCP that has come to rest.

When nothing is under way any more, every packet of the client has its echo, but for the first
ones: the server's loop drops a reply while the write handle of the connection is still on its
way to it.
-/
import GameSockets.Tcp.Loss
import GameSockets.Tcp.Peers

namespace GameSockets
namespace Tcp

open Library Client EchoLink

namespace TcpBackend

/-- The loop and the handler of `uuid` wait, and all that was queued has been taken. -/
structure Rests (s : TcpBackend) (uuid : Uuid) : Prop where
  commands : s.peer.cmdTx.pending = []
  events : s.peer.eventRx.pending = []
  loop : s.loop = .selecting
  phase : (s.handlerOf uuid).phase = .selecting
  whole : (s.handlerOf uuid).broken = false
  queue : (s.handlerOf uuid).writeRx.pending = []
  decoded : decodeFrame (s.handlerOf uuid).readBuf = .incomplete

instance (s : TcpBackend) (uuid : Uuid) : Decidable (s.Rests uuid) :=
  decidable_of_iff
    (s.peer.cmdTx.pending = [] ∧ s.peer.eventRx.pending = [] ∧ s.loop = .selecting ∧
      (s.handlerOf uuid).phase = .selecting ∧ (s.handlerOf uuid).broken = false ∧
      (s.handlerOf uuid).writeRx.pending = [] ∧
      decodeFrame (s.handlerOf uuid).readBuf = .incomplete)
    ⟨fun ⟨h₁, h₂, h₃, h₄, h₅, h₆, h₇⟩ => ⟨h₁, h₂, h₃, h₄, h₅, h₆, h₇⟩,
      fun h => ⟨h.commands, h.events, h.loop, h.phase, h.whole, h.queue, h.decoded⟩⟩

/-- A handler that rests has nothing left to write. -/
theorem outgoing_of_rests {s : TcpBackend} {uuid : Uuid} (h : s.Rests uuid) (hs : Sane s) :
    s.outgoing uuid = some [] := by
  have hidle : (s.handlerOf uuid).writeBuf = [] := by
    by_contra hne
    have hsending := (hs.handlerOf uuid).sending.mpr hne
    rw [h.phase] at hsending
    cases hsending
  rw [outgoing, held_of_selecting h.loop, PeerHandler.unsent, if_neg, hidle, h.queue]
  · rfl
  · rw [h.phase, h.whole]
    rintro (hclosed | hbroken)
    · cases hclosed
    · cases hbroken

theorem log_of_pending {α : Type} {c : Channel α} (h : c.pending = []) : c.log = c.received := by
  rw [Channel.log, h, List.append_nil]

end TcpBackend

namespace Link

theorem split_of_incomplete {buf : Bytes} (h : decodeFrame buf = .incomplete) :
    Framing.split lengthSize buf = none := by
  unfold decodeFrame at h
  split at h
  · cases h
  · split at h
    · assumption
    · cases h

/-- Between two ends at rest everything that was sent has been delivered. -/
theorem delivered_of_rests {w : Wire} {sent : List (GameStream × Bytes)} {l : Link}
    (h : Conveys w sent l) (hleft : l.left.Rests w.left) (hright : l.right.Rests w.right)
    (hwire : l.toRight = []) (hlen : ∀ x ∈ sent, (packetOf x).length ≤ maxFrame) :
    l.right.messages w.right = sent := by
  obtain ⟨rest, ext, rfl, htransit, hext⟩ := h.transit
  have hnone := hext [] (TcpBackend.outgoing_of_rests hleft h.left)
  rw [hwire, hnone, Framing.InTransit, List.append_nil, List.append_nil] at htransit
  cases rest with
  | nil => rw [List.append_nil]
  | cons x rest =>
    have hpow : maxFrame < 256 ^ lengthSize := by decide
    have hx := hlen x (List.mem_append_right _ List.mem_cons_self)
    have hsplit := split_of_incomplete hright.decoded
    rw [htransit, List.map_cons, Framing.frames_cons,
      Framing.split_frame_append (Nat.lt_of_le_of_lt hx hpow)] at hsplit
    cases hsplit

end Link

namespace Bench

section Rest

variable {crc : Bytes → UInt32} {entropy : Bytes} {args : CliArgs} {w : Wire}

/-- Both backends rest, nothing is in the network, and the server's loop goes on. -/
structure AtRest (w : Wire) (s : Bench) : Prop where
  left : s.echo.link.left.Rests w.left
  right : s.echo.link.right.Rests w.right
  toRight : s.echo.link.toRight = []
  toLeft : s.echo.link.toLeft = []
  server : s.echo.phase = .running

instance (w : Wire) (s : Bench) : Decidable (AtRest w s) :=
  decidable_of_iff
    (s.echo.link.left.Rests w.left ∧ s.echo.link.right.Rests w.right ∧
      s.echo.link.toRight = [] ∧ s.echo.link.toLeft = [] ∧ s.echo.phase = .running)
    ⟨fun ⟨h₁, h₂, h₃, h₄, h₅⟩ => ⟨h₁, h₂, h₃, h₄, h₅⟩,
      fun h => ⟨h.left, h.right, h.toRight, h.toLeft, h.server⟩⟩

theorem polled_of_rest (hsize : BenchmarkPacket.headerSize + args.packetSize + 2 ≤ maxFrame)
    {s : Bench} (h : Orderly crc args w s) (hrest : AtRest w s) :
    heardOn w.left s.echo.link.left.peer.eventRx.received <:+
      sendsTo w.left s.echo.link.left.peer.cmdTx.log := by
  obtain ⟨sent, hconveys, hcounts⟩ := h.back
  have hshort : ∀ x ∈ s.echo.link.left.takenSends w.left, (packetOf x).length ≤ maxFrame := by
    intro x hx
    exact length_packetOf (length_of_introduced h.client ((taken_isPrefix _ _).subset hx)) hsize
  have hsub : ∀ x ∈ sent, x ∈ s.echo.link.left.takenSends w.left := by
    intro x hx
    exact h.answers_subset.subset ((taken_isPrefix _ _).subset (hcounts.suffix.subset hx))
  -- there and back
  have hthere := Link.delivered_of_rests h.forth hrest.left hrest.right hrest.toRight hshort
  have hback := Link.delivered_of_rests hconveys hrest.right hrest.left hrest.toLeft
    fun x hx => hshort x (hsub x hx)
  have hanswers : sendsTo w.right s.echo.link.right.peer.cmdTx.log =
      heardOn w.right s.echo.link.right.peer.eventRx.received := by
    have hup := Server.readable_heardOn h.readable
    rw [← h.replies.running hrest.server] at hup
    exact hup
  have hleft : heardOn w.left s.echo.link.left.peer.eventRx.received =
      s.echo.link.left.messages w.left := by
    rw [TcpBackend.messages, TcpBackend.log_of_pending hrest.left.events]
  have hright : heardOn w.right s.echo.link.right.peer.eventRx.received =
      s.echo.link.right.messages w.right := by
    rw [TcpBackend.messages, TcpBackend.log_of_pending hrest.right.events]
  have htaken : s.echo.link.right.takenSends w.right =
      sendsTo w.left s.echo.link.left.peer.cmdTx.log := by
    rw [TcpBackend.takenSends, ← TcpBackend.log_of_pending hrest.right.commands, hanswers, hright,
      hthere, TcpBackend.takenSends, TcpBackend.log_of_pending hrest.left.commands]
  rw [hleft, ← htaken]
  exact hback ▸ hcounts.suffix

variable (crc entropy args w)

/-- At rest all echoes have been polled, but for those of the first packets. -/
theorem echoes_complete (hsize : BenchmarkPacket.headerSize + args.packetSize + 2 ≤ maxFrame)
    (t60 t20 : Nat) (ip : String) (port : UInt16) (actions : List BenchAction) (s : Bench)
    (hrun : Run.run (step crc entropy args w) (init args t60 t20 ip port) actions = some s)
    (hrest : AtRest w s) : Client.heard s.client <:+ Client.sends s.client := by
  have h := orderly_of_run hsize hrun
  rw [← map_onWire h.heard_onWire, ← map_onWire h.sends_onWire]
  exact (polled_of_rest hsize h hrest).map _

end Rest

theorem echoes_complete_lateEcho :
    ∃ s, Run.run (step crc32 [] emptyPackets (evenWire 64)) (init emptyPackets 0 0 "0.0.0.0" 8080)
        lateEcho = some s ∧
      (Client.sends s.client).length = 2 ∧ (Client.heard s.client).length = 2 ∧
      Client.heard s.client <:+ Client.sends s.client := by
  have hview : (Run.run (step crc32 [] emptyPackets (evenWire 64))
      (init emptyPackets 0 0 "0.0.0.0" 8080) lateEcho).map (fun s =>
        ((Client.sends s.client).length, (Client.heard s.client).length,
          decide (AtRest (evenWire 64) s))) = some (2, 2, true) := by
    decide +kernel
  obtain ⟨s, hrun, hs⟩ := Option.map_eq_some_iff.mp hview
  rw [Prod.mk.injEq, Prod.mk.injEq, decide_eq_true_eq] at hs
  exact ⟨s, hrun, hs.1, hs.2.1,
    echoes_complete crc32 [] emptyPackets (evenWire 64) (by decide) 0 0 "0.0.0.0" 8080 lateEcho
      s hrun hs.2.2⟩

end Bench

end Tcp
end GameSockets
