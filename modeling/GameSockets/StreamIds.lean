/-
The streams that one peer is told of for its calls of `create_stream`.

Each backend takes the calls in order.  Three of them announce a stream for every call that
they take; QUIC announces it with the registration, and a stream that it holds already not
again.
-/
import GameSockets.EventOrder
import GameSockets.Gns.Allocation
import GameSockets.Quic.Allocation
import GameSockets.Tcp.Allocation
import GameSockets.Udp.Allocation

namespace GameSockets

open Library

/-- The calls of a run of the backend, those of them that its loop opens a stream for, and
what it announces for them. -/
inductive Allocates (profile : Profile) :
    TestProtocol → List CreateCall → List Nat → List Answer → Prop where
  | udp {Addr : Type} (parse : String → Option Addr)
    (actions : List (CreateAction (Udp.PeerAction Addr))) (s : Udp.UdpPeer Addr)
    (hrun : Run.run ((Udp.UdpPeer.allocator parse).createStep profile) Udp.UdpPeer.init actions =
      some s) :
    Allocates profile .udp ((Udp.UdpPeer.allocator parse).calls profile actions)
      ((Udp.UdpPeer.allocator parse).opened profile actions)
      ((Udp.UdpPeer.allocator parse).announced profile actions)
  | tcp (actions : List (CreateAction Tcp.Action)) (s : Tcp.TcpBackend)
    (hrun : Run.run (Tcp.TcpBackend.allocator.createStep profile) Tcp.TcpBackend.init actions =
      some s) :
    Allocates profile .tcp (Tcp.TcpBackend.allocator.calls profile actions)
      (Tcp.TcpBackend.allocator.opened profile actions)
      (Tcp.TcpBackend.allocator.announced profile actions)
  | quic (actions : List (CreateAction Quic.Action)) (s : Quic.Tagged)
    (hrun : Run.run (Quic.Tagged.allocator.createStep profile) Quic.Tagged.init actions =
      some s) :
    Allocates profile .quic (Quic.Tagged.allocator.calls profile actions)
      (Quic.Tagged.allocator.opened profile actions)
      (Quic.Tagged.allocator.announced profile actions)
  | gns {Handle : Type} [DecidableEq Handle] (parse : String → Option Gns.Ipv4Addr)
    (actions : List (CreateAction (Gns.PeerAction Handle))) (s : Gns.GnsPeer Handle)
    (hrun : Run.run ((Gns.GnsPeer.allocator parse).createStep profile) Gns.GnsPeer.init actions =
      some s) :
    Allocates profile .gns ((Gns.GnsPeer.allocator parse).calls profile actions)
      ((Gns.GnsPeer.allocator parse).opened profile actions)
      ((Gns.GnsPeer.allocator parse).announced profile actions)

/-- In every run of each backend, the calls on one connection are answered with different
streams exactly when no two calls with one reliability that a stream is opened for are a
multiple of 16384 calls apart. -/
theorem announced_distinct_iff {profile : Profile} {protocol : TestProtocol}
    {calls : List CreateCall} {opened : List Nat} {announced : List Answer}
    (hrun : Allocates profile protocol calls opened announced) :
    Distinct announced ↔ Apart calls opened := by
  cases hrun with
  | udp _ _ _ hrun => exact Udp.UdpPeer.lawful.distinct_iff hrun
  | tcp _ _ hrun => exact Tcp.TcpBackend.lawful.distinct_iff hrun
  | quic _ _ hrun => exact Quic.Tagged.lawful.distinct_iff hrun
  | gns _ _ _ hrun => exact Gns.GnsPeer.lawful.distinct_iff hrun

/-! ## Two streams, and one stream twice -/

/-- The application makes one reliable call and one unreliable one, and the backend takes
the steps `answer` after each. -/
def twoStreams {α : Type} (answer : List α) : List (CreateAction α) :=
  .createStream Uuid.nil .reliable :: answer.map .backend ++
    .createStream Uuid.nil .unreliable :: answer.map .backend

def udpTwoStreams : List (CreateAction (Udp.PeerAction Nat)) :=
  twoStreams [.host (.command { bindOk := true, newV4 := Uuid.nil })]

def tcpTwoStreams : List (CreateAction Tcp.Action) := twoStreams [.command Tcp.TcpBackend.allOk]

def quicTwoStreams : List (CreateAction Quic.Action) :=
  [.backend (.issue (.connect "127.0.0.1" 8080)), .backend (.command .allOk)] ++
    twoStreams [.command .allOk, .registerStream]

def gnsTwoStreams : List (CreateAction (Gns.PeerAction Nat)) :=
  twoStreams [.command { listenOk := true, connectOk := true }]

theorem announced_distinct_twoStreams :
    (∃ calls announced, Allocates .release .udp calls [0, 1] announced ∧
        announced.length = 2 ∧ Distinct announced) ∧
      (∃ calls announced, Allocates .release .tcp calls [0, 1] announced ∧
        announced.length = 2 ∧ Distinct announced) ∧
      (∃ calls announced, Allocates .release .quic calls [0, 1] announced ∧
        announced.length = 2 ∧ Distinct announced) ∧
      ∃ calls announced, Allocates .release .gns calls [0, 1] announced ∧
        announced.length = 2 ∧ Distinct announced := by
  have hudp : Allocates .release .udp _ [0, 1] _ := .udp (fun _ => some 1) udpTwoStreams _ rfl
  have htcp : Allocates .release .tcp _ [0, 1] _ := .tcp tcpTwoStreams _ rfl
  have hquic : Allocates .release .quic _ [0, 1] _ := .quic quicTwoStreams _ rfl
  have hgns : Allocates .release .gns _ [0, 1] _ := .gns (fun _ => none) gnsTwoStreams _ rfl
  -- they differ by one
  have happart : ∀ calls, Apart calls [0, 1] := by
    intro calls m hm n hn hmn _ hdvd
    simp only [List.mem_cons, List.not_mem_nil, or_false] at hm hn
    omega
  exact ⟨⟨_, _, hudp, rfl, (announced_distinct_iff hudp).mpr (happart _)⟩,
    ⟨_, _, htcp, rfl, (announced_distinct_iff htcp).mpr (happart _)⟩,
    ⟨_, _, hquic, rfl, (announced_distinct_iff hquic).mpr (happart _)⟩,
    ⟨_, _, hgns, rfl, (announced_distinct_iff hgns).mpr (happart _)⟩⟩

/-- 16385 calls with one connection and one reliability, in either profile. -/
theorem stream_allocated_twice :
    (∃ calls opened announced, Allocates .dev .tcp calls opened announced ∧
        ¬ Distinct announced) ∧
      ∃ calls opened announced, Allocates .release .tcp calls opened announced ∧
        ¬ Distinct announced := by
  obtain ⟨s, hrun, hsame⟩ := Tcp.TcpBackend.not_distinct_rounds .dev
  obtain ⟨t, hrun', hsame'⟩ := Tcp.TcpBackend.not_distinct_rounds .release
  exact ⟨⟨_, _, _, .tcp _ s hrun, hsame⟩, _, _, _, .tcp _ t hrun', hsame'⟩

end GameSockets
