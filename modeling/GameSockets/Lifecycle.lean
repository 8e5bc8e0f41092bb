/-
The life of a connection, as the events tell it.

The four backends draw a UUID for each connection.  That the `Connected` of a UUID is its first
and its only one rests on the UUID being new; that a `Disconnected` comes last and alone is the
work of the backend.  UDP and QUIC have no `Disconnected` at all.
-/
import GameSockets.EventOrder
import GameSockets.Quic.Registration
import GameSockets.Udp.Routing

namespace GameSockets

open Library

/-- What an event says of a connection. -/
inductive LifeMark where
  | opens
  | ends
deriving DecidableEq

def GameNetworkEvent.lifeMark (c : Uuid) : GameNetworkEvent → Option LifeMark
  | .connected u => if u = c then some .opens else none
  | .disconnected u => if u = c then some .ends else none
  | _ => none

/-- What the events say of a connection, in order. -/
def life (c : Uuid) (events : List GameNetworkEvent) : List LifeMark :=
  events.filterMap (GameNetworkEvent.lifeMark c)

/-- An event that neither begins nor ends a connection. -/
def GameNetworkEvent.Passes (e : GameNetworkEvent) : Prop :=
  ∀ u, e ≠ .connected u ∧ e ≠ .disconnected u

/-- Every connection begins at most once, and after that ends at most once. -/
def LivesOnce (events : List GameNetworkEvent) : Prop := ∀ c, life c events <+: [.opens, .ends]

/-- What one step can say of connections, after `before`. -/
inductive Tells (before : List GameNetworkEvent) : List GameNetworkEvent → Prop where
  | passes {new : List GameNetworkEvent} (hnew : ∀ e ∈ new, e.Passes) : Tells before new
  | connects {u : Uuid} {new : List GameNetworkEvent} (hfresh : .connected u ∉ before)
    (hnew : ∀ e ∈ new, e.Passes) : Tells before (.connected u :: new)
  | disconnects {u : Uuid} (hopen : .connected u ∈ before) (hlive : .disconnected u ∉ before) :
    Tells before [.disconnected u]

section Life

variable {events before new : List GameNetworkEvent} {c : Uuid}

@[simp] theorem life_append (c : Uuid) (events new : List GameNetworkEvent) :
    life c (events ++ new) = life c events ++ life c new :=
  List.filterMap_append

theorem lifeMark_eq_opens {e : GameNetworkEvent} :
    e.lifeMark c = some .opens ↔ e = .connected c := by
  cases e <;> simp [GameNetworkEvent.lifeMark]

theorem lifeMark_eq_ends {e : GameNetworkEvent} :
    e.lifeMark c = some .ends ↔ e = .disconnected c := by
  cases e <;> simp [GameNetworkEvent.lifeMark]

theorem opens_mem_life : .opens ∈ life c events ↔ .connected c ∈ events := by
  simp only [life, List.mem_filterMap, lifeMark_eq_opens, exists_eq_right]

theorem ends_mem_life : .ends ∈ life c events ↔ .disconnected c ∈ events := by
  simp only [life, List.mem_filterMap, lifeMark_eq_ends, exists_eq_right]

theorem life_of_passes (h : ∀ e ∈ new, e.Passes) (c : Uuid) : life c new = [] := by
  rw [life, List.filterMap_eq_nil_iff]
  intro e he
  have hpasses := h e he
  cases e with
  | connected u => exact absurd rfl (hpasses u).1
  | disconnected u => exact absurd rfl (hpasses u).2
  | _ => rfl

theorem prefix_lives {l : List LifeMark} (h : l <+: [.opens, .ends]) :
    l = [] ∨ l = [.opens] ∨ l = [.opens, .ends] := by
  rcases List.prefix_cons_iff.mp h with rfl | ⟨rest, rfl, hrest⟩
  · exact Or.inl rfl
  · rcases List.prefix_cons_iff.mp hrest with rfl | ⟨last, rfl, hlast⟩
    · exact Or.inr (Or.inl rfl)
    · rw [List.prefix_nil.mp hlast]
      exact Or.inr (Or.inr rfl)

theorem LivesOnce.life_of_not_connected (h : LivesOnce events) (hc : .connected c ∉ events) :
    life c events = [] := by
  rw [← opens_mem_life] at hc
  rcases prefix_lives (h c) with hl | hl | hl
  · exact hl
  · exact absurd (by simp [hl]) hc
  · exact absurd (by simp [hl]) hc

theorem LivesOnce.life_of_live (h : LivesOnce events) (hc : .connected c ∈ events)
    (hlive : .disconnected c ∉ events) : life c events = [.opens] := by
  rw [← opens_mem_life] at hc
  rw [← ends_mem_life] at hlive
  rcases prefix_lives (h c) with hl | hl | hl
  · rw [hl] at hc
    cases hc
  · exact hl
  · exact absurd (by simp [hl]) hlive

/-- Nothing is told of a connection before it begins. -/
theorem LivesOnce.life_before_connected (h : LivesOnce (events ++ [.connected c])) :
    life c events = [] := by
  have hc := h c
  rw [life_append, show life c [.connected c] = [.opens] by simp [life, GameNetworkEvent.lifeMark]]
    at hc
  rcases prefix_lives hc with hl | hl | hl
  · exact absurd hl (by simp)
  · exact List.append_left_eq_self.mp hl
  · have hlast := congrArg List.getLast? hl
    rw [List.getLast?_concat] at hlast
    cases hlast

theorem livesOnce_append (h : LivesOnce before) (htells : Tells before new) :
    LivesOnce (before ++ new) := by
  intro c
  rw [life_append]
  cases htells with
  | passes hnew =>
    rw [life_of_passes hnew, List.append_nil]
    exact h c
  | @connects u rest hfresh hnew =>
    rw [life, life, List.filterMap_cons, ← life, ← life, life_of_passes hnew]
    by_cases hu : u = c
    · subst hu
      rw [h.life_of_not_connected hfresh]
      simp [GameNetworkEvent.lifeMark]
    · simpa [GameNetworkEvent.lifeMark, hu] using h c
  | @disconnects u hopen hlive =>
    by_cases hu : u = c
    · subst hu
      rw [h.life_of_live hopen hlive]
      simp [life, GameNetworkEvent.lifeMark]
    · simpa [life, GameNetworkEvent.lifeMark, hu] using h c

/-- What has been told is told, in any part of it too. -/
theorem LivesOnce.of_prefix (h : LivesOnce events) (hbefore : before <+: events) :
    LivesOnce before :=
  fun c => (hbefore.filterMap _).trans (h c)

theorem livesOnce_nil : LivesOnce [] := fun _ => List.nil_prefix

/-! ### Connections that never end -/

/-- The connections announced are held, and none of them ends. -/
structure Kept (held : Uuid → Prop) (events : List GameNetworkEvent) : Prop where
  held : ∀ u, .connected u ∈ events → held u
  stays : ∀ u, .disconnected u ∉ events
  lives : LivesOnce events

/-- What one step can say of connections: at most one begins, and it was not held before. -/
inductive Adds (held held' : Uuid → Prop) : List GameNetworkEvent → Prop where
  | passes {new : List GameNetworkEvent} (hnew : ∀ e ∈ new, e.Passes) : Adds held held' new
  | connects {u : Uuid} {new : List GameNetworkEvent} (hfresh : ¬ held u) (hheld : held' u)
    (hnew : ∀ e ∈ new, e.Passes) : Adds held held' (.connected u :: new)

theorem kept_nil (held : Uuid → Prop) : Kept held [] := by
  refine ⟨fun u hu => ?_, fun u hu => ?_, livesOnce_nil⟩
  · cases hu
  · cases hu

theorem kept_append {held held' : Uuid → Prop} (h : Kept held before)
    (hmono : ∀ u, held u → held' u) (hadds : Adds held held' new) :
    Kept held' (before ++ new) := by
  cases hadds with
  | passes hnew =>
    refine ⟨fun u hu => ?_, fun u hu => ?_, livesOnce_append h.lives (.passes hnew)⟩
    · rcases List.mem_append.mp hu with hu | hu
      · exact hmono u (h.held u hu)
      · exact absurd rfl (hnew _ hu u).1
    · rcases List.mem_append.mp hu with hu | hu
      · exact h.stays u hu
      · exact (hnew _ hu u).2 rfl
  | @connects v rest hfresh hheld hnew =>
    have htells : Tells before (.connected v :: rest) :=
      .connects (fun hv => hfresh (h.held v hv)) hnew
    refine ⟨fun u hu => ?_, fun u hu => ?_, livesOnce_append h.lives htells⟩
    · rcases List.mem_append.mp hu with hu | hu
      · exact hmono u (h.held u hu)
      · rcases List.mem_cons.mp hu with hu | hu
        · cases hu
          exact hheld
        · exact absurd rfl (hnew _ hu u).1
    · rcases List.mem_append.mp hu with hu | hu
      · exact h.stays u hu
      · rcases List.mem_cons.mp hu with hu | hu
        · cases hu
        · exact (hnew _ hu u).2 rfl

end Life

/-! ## TCP -/

namespace Tcp
namespace TcpBackend

theorem tells_of_step {s t : TcpBackend} {a : Action} (h : Announced s)
    (hstep : s.step a = some t) :
    ∃ new, t.peer.eventRx.log = s.peer.eventRx.log ++ new ∧ Tells s.peer.eventRx.log new := by
  have quiet : t.peer.eventRx.log = s.peer.eventRx.log →
      ∃ new, t.peer.eventRx.log = s.peer.eventRx.log ++ new ∧ Tells s.peer.eventRx.log new :=
    fun hlog => ⟨[], by rw [hlog, List.append_nil], .passes (List.forall_mem_nil _)⟩
  have fresh : ∀ {u}, s.Fresh u → .connected u ∉ s.peer.eventRx.log := by
    intro u hfresh hu
    have hplace := h.registered.events _ hu u rfl
    rw [places, Handover.gather, List.mem_append] at hplace
    exact hplace.elim hfresh.1 hfresh.2.1
  cases steps_of_step hstep with
  | issue => exact quiet rfl
  | poll hrecv => exact quiet (Channel.log_recv hrecv)
  | register => exact quiet rfl
  | @command env cmd tx t _ hrecv hcommand =>
    have speaks : ∀ {new : List GameNetworkEvent}, (∀ e ∈ new, e.Passes) →
        ∃ more, (s.peer.eventRx.sendAll new).log = s.peer.eventRx.log ++ more ∧
          Tells s.peer.eventRx.log more :=
      fun hnew => ⟨_, Channel.log_sendAll _ _, .passes hnew⟩
    cases hcommand with
    | bind => exact quiet rfl
    | bindFails => exact quiet rfl
    | connect _ hfresh =>
      exact ⟨_, Channel.log_sendAll _ _, .connects (fresh hfresh) (List.forall_mem_nil _)⟩
    | connectFails => exact speaks (by simp [GameNetworkEvent.Passes])
    | send => exact quiet (by rw [peer_push])
    | drop => exact quiet rfl
    | shutdown => exact quiet rfl
    | createStream => exact speaks (by simp [GameNetworkEvent.Passes])
    | closeStream => exact speaks (by simp [GameNetworkEvent.Passes])
  | resume => exact quiet rfl
  | announce _ _ hfresh =>
    exact ⟨_, Channel.log_sendAll _ _, .connects (fresh hfresh) (List.forall_mem_nil _)⟩
  | spawn => exact quiet rfl
  | handOver => exact quiet rfl
  | @handler uuid b hd h' events _ hhandler hb =>
    refine ⟨events, Channel.log_sendAll _ _, ?_⟩
    obtain ⟨hopen, hsaid⟩ := PeerHandler.says_of_step hb
    cases hsaid with
    | nothing => exact .passes (List.forall_mem_nil _)
    | goodbye =>
      have hne : s.handlers uuid ≠ none := by
        rw [hhandler]
        exact Option.some_ne_none hd
      exact .disconnects (h.connected uuid (h.registered.place hne)) (h.stays hhandler hopen)
    | again => exact .passes (by simp [GameNetworkEvent.Passes])
    | first => exact .passes (by simp [GameNetworkEvent.Passes])

theorem livesOnce_of_run {actions : List Action} {s : TcpBackend}
    (hrun : Run.run step init actions = some s) : LivesOnce s.peer.eventRx.log := by
  have keep : ∀ (s : TcpBackend) a t, Announced s ∧ LivesOnce s.peer.eventRx.log →
      s.step a = some t → Announced t ∧ LivesOnce t.peer.eventRx.log := by
    rintro s a t ⟨hannounced, hlives⟩ hstep
    obtain ⟨new, hlog, htells⟩ := tells_of_step hannounced hstep
    exact ⟨announced_step hannounced hstep, hlog ▸ livesOnce_append hlives htells⟩
  exact (Run.invariant_of_run keep ⟨announced_init, livesOnce_nil⟩ hrun).2

end TcpBackend
end Tcp

/-! ## UDP -/

namespace Udp
namespace UdpRun

section Lives

variable {Addr : Type} {parse : String → Option Addr}

/-- The UUIDs that have an address. -/
def Held (s : UdpRun Addr) (u : Uuid) : Prop := s.backend.connections u ≠ none

theorem adds_of_step {s t : UdpRun Addr} {a : Input Addr} (hfresh : Fresh s a)
    (hstep : step parse s a = some t) :
    (∀ u, s.Held u → t.Held u) ∧ ∃ new, t.events = s.events ++ new ∧ Adds s.Held t.Held new := by
  cases steps_of_step hstep with
  | shutdown =>
    exact ⟨fun u hu => hu, [], (List.append_nil _).symm, .passes (List.forall_mem_nil _)⟩
  | @command env cmd =>
    generalize hout : processCommand parse env s.backend cmd = out
    cases processes_of_processCommand hout with
    | connect hparse =>
      refine ⟨fun u hu => ?_, _, rfl, .connects (fun hu => hu hfresh) ?_ (List.forall_mem_nil _)⟩
      · by_cases heq : u = env.newV4
        · simp [Held, put, heq]
        · simpa [Held, put, heq] using hu
      · simp [Held, put]
    | createStream => exact ⟨fun u hu => hu, _, rfl, .passes (by simp [GameNetworkEvent.Passes])⟩
    | closeStream => exact ⟨fun u hu => hu, _, rfl, .passes (by simp [GameNetworkEvent.Passes])⟩
    | _ => exact ⟨fun u hu => hu, _, rfl, .passes (List.forall_mem_nil _)⟩
  | noise =>
    exact ⟨fun u hu => hu, [], (List.append_nil _).symm, .passes (List.forall_mem_nil _)⟩
  | @packet bytes src u data hu =>
    have hpasses : ∀ e ∈ (noteStream (noteAddress s.backend u src).1 u (datagramStream bytes)).2 ++
        [.message u { streamId := datagramStream bytes } data], e.Passes := by
      intro e he v
      rcases List.mem_append.mp he with he | he
      · rw [eq_of_mem_noteStream he]
        simp
      · rw [List.mem_singleton.mp he]
        simp
    have hheld : ∀ v, v = u ∨ s.Held v → (noteStream (noteAddress s.backend u src).1 u
        (datagramStream bytes)).1.connections v ≠ none := by
      intro v hv
      rw [noteStream_connections, noteAddress]
      by_cases heq : v = u
      · simp [heq]
      · simpa [heq, Held] using hv.resolve_left heq
    refine ⟨fun v hv => hheld v (Or.inr hv), _, rfl, ?_⟩
    rw [List.append_assoc]
    by_cases hnone : s.backend.connections u = none
    · rw [show (noteAddress s.backend u src).2 = [.connected u] by simp [noteAddress, hnone]]
      exact .connects (fun hu => hu hnone) (hheld u (Or.inl rfl)) hpasses
    · rw [show (noteAddress s.backend u src).2 = [] by simp [noteAddress, hnone]]
      exact .passes hpasses
  | recvError =>
    exact ⟨fun u hu => hu, [], (List.append_nil _).symm, .passes (List.forall_mem_nil _)⟩

theorem kept_of_run {inputs : List (Input Addr)} {s : UdpRun Addr}
    (hfresh : Run.Along (step parse) Fresh init inputs)
    (hrun : Run.run (step parse) init inputs = some s) : Kept s.Held s.events := by
  have keep : ∀ (s : UdpRun Addr) a t, Kept s.Held s.events → Fresh s a →
      step parse s a = some t → Kept t.Held t.events := by
    intro s a t h hfresh hstep
    obtain ⟨hmono, new, hlog, hadds⟩ := adds_of_step hfresh hstep
    exact hlog ▸ kept_append h hmono hadds
  exact Run.invariant keep inputs (kept_nil _) hfresh hrun

end Lives

end UdpRun
end Udp

/-! ## QUIC -/

namespace Quic
namespace QuicBackend

theorem adds_of_step {s t : QuicBackend} {a : Action} (hstep : s.step a = some t) :
    (∀ u, u ∈ s.places → u ∈ t.places) ∧
      ∃ new, t.peer.eventRx.log = s.peer.eventRx.log ++ new ∧
        Adds (· ∈ s.places) (· ∈ t.places) new := by
  have speaks : ∀ {t : QuicBackend} {new : List GameNetworkEvent}, t.places = s.places →
      t.peer.eventRx.log = s.peer.eventRx.log ++ new → (∀ e ∈ new, e.Passes) →
      (∀ u, u ∈ s.places → u ∈ t.places) ∧
        ∃ new, t.peer.eventRx.log = s.peer.eventRx.log ++ new ∧
          Adds (· ∈ s.places) (· ∈ t.places) new :=
    fun hplaces hlog hnew => ⟨fun u hu => hplaces ▸ hu, _, hlog, .passes hnew⟩
  have quiet : ∀ {t : QuicBackend}, t.places = s.places →
      t.peer.eventRx.log = s.peer.eventRx.log →
      (∀ u, u ∈ s.places → u ∈ t.places) ∧
        ∃ new, t.peer.eventRx.log = s.peer.eventRx.log ++ new ∧
          Adds (· ∈ s.places) (· ∈ t.places) new :=
    fun hplaces hlog => speaks hplaces (hlog.trans (List.append_nil _).symm) (List.forall_mem_nil _)
  cases steps_of_step hstep with
  | issue => exact quiet rfl rfl
  | poll hrecv => exact quiet rfl (Channel.log_recv hrecv)
  | registerConnection _ hrecv =>
    refine ⟨fun u hu => (Handover.mem_iff_of_count (Handover.gather_recv _ _ _ hrecv u)).mpr hu,
      [], (List.append_nil _).symm, .passes (List.forall_mem_nil _)⟩
  | @registerStream r reg _ hrecv =>
    have htakes := takes_processRegistration { s with streamReg := reg } r
    generalize processRegistration { s with streamReg := reg } r = t at htakes ⊢
    cases htakes with
    | reliable =>
      exact speaks rfl (Channel.log_sendAll _ _) (by simp [GameNetworkEvent.Passes])
    | known => exact quiet rfl rfl
    | unreliable =>
      exact speaks rfl (Channel.log_sendAll _ _) (by simp [GameNetworkEvent.Passes])
  | @command env cmd tx t _ hrecv hcommand =>
    cases hcommand with
    | bind => exact quiet (by simp [places, Handover.gather, AcceptPhase.held]) rfl
    | bindFails => exact quiet rfl rfl
    | connect _ hfresh =>
      exact ⟨fun u hu => List.mem_cons_of_mem _ hu, _, Channel.log_sendAll _ _,
        .connects (fresh_not_mem_places hfresh) List.mem_cons_self (List.forall_mem_nil _)⟩
    | connectFails => exact quiet rfl rfl
    | send =>
      cases env.sendError with
      | none => exact quiet rfl rfl
      | some e => exact speaks rfl (Channel.log_sendAll _ _) (by simp [GameNetworkEvent.Passes])
    | noStream => exact quiet rfl rfl
    | datagram => exact quiet rfl rfl
    | datagramFails =>
      exact speaks rfl (Channel.log_sendAll _ _) (by simp [GameNetworkEvent.Passes])
    | noConnection => exact quiet rfl rfl
    | shutdown => exact quiet rfl rfl
    | openStream => exact quiet rfl rfl
    | openFails => exact quiet rfl rfl
    | openUnconnected => exact quiet rfl rfl
    | createStream => exact quiet rfl rfl
    | closeStream =>
      exact speaks rfl (Channel.log_sendAll _ _) (by simp [GameNetworkEvent.Passes])
  | @announce k uuid _ hphase hfresh =>
    have hcount : ∀ c, (Handover.gather AcceptPhase.held s.connections
        (s.accepts.set k (.announced uuid)) s.connReg).count c =
          s.places.count c + [uuid].count c := by
      intro c
      have hset := Handover.gather_set AcceptPhase.held s.connections (.announced uuid) s.connReg
        s.connReg hphase c
      simp only [AcceptPhase.held, List.count_nil] at hset
      rw [places]
      omega
    have hmem : ∀ c, c ∈ _ ↔ c ∈ s.places ∨ c = uuid :=
      fun c => Handover.mem_iff_of_count_add uuid (hcount c)
    exact ⟨fun c hc => (hmem c).mpr (Or.inl hc), _, Channel.log_sendAll _ _,
      .connects (fresh_not_mem_places hfresh) ((hmem uuid).mpr (Or.inr rfl))
        (List.forall_mem_nil _)⟩
  | @handOver k uuid _ hphase =>
    refine ⟨fun c hc => (Handover.mem_iff_of_count ?_).mpr hc, [], (List.append_nil _).symm,
      .passes (List.forall_mem_nil _)⟩
    have hset := Handover.gather_set AcceptPhase.held s.connections .accepting s.connReg
      (s.connReg.send uuid) hphase c
    simp only [AcceptPhase.held, List.count_nil, Channel.pending_send, List.count_append] at hset
    simp only [places, spawnReader]
    omega
  | shortDatagram => exact quiet rfl rfl
  | readDatagram => exact quiet rfl rfl
  | newDatagram => exact quiet rfl rfl
  | sendDatagram =>
    exact speaks rfl (Channel.log_sendAll _ _) (by simp [GameNetworkEvent.Passes])
  | acceptStream => exact quiet rfl rfl
  | readStream _ _ hread =>
    refine speaks rfl (Channel.log_sendAll _ _) fun e he u => ?_
    obtain ⟨data, rfl⟩ := streamReadingLoop_events hread e he
    simp

theorem kept_of_run {actions : List Action} {s : QuicBackend}
    (hrun : Run.run step init actions = some s) : Kept (· ∈ s.places) s.peer.eventRx.log := by
  have keep : ∀ (s : QuicBackend) a t, Kept (· ∈ s.places) s.peer.eventRx.log →
      s.step a = some t → Kept (· ∈ t.places) t.peer.eventRx.log := by
    intro s a t h hstep
    obtain ⟨hmono, new, hlog, hadds⟩ := adds_of_step hstep
    exact hlog ▸ kept_append h hmono hadds
  exact Run.invariant_of_run keep (kept_nil _) hrun

end QuicBackend
end Quic

/-! ## GNS -/

namespace Gns
namespace GnsRun

section Lives

variable {Handle : Type} [DecidableEq Handle] {parse : String → Option Ipv4Addr}

theorem tells_of_step {s t : GnsRun Handle} {a : Input Handle} (h : Registered s)
    (hassumed : Assumed s a) (hstep : step parse s a = some t) :
    ∃ new, t.events = s.events ++ new ∧ Tells s.events new := by
  cases steps_of_step hstep with
  | stop => exact ⟨[], (List.append_nil _).symm, .passes (List.forall_mem_nil _)⟩
  | command hcommand =>
    obtain ⟨-, -, -, hpassing⟩ := processCommand_keeps hcommand
    exact ⟨_, rfl, .passes fun e he => (hpassing e he).1⟩
  | register _ hdraws =>
    refine ⟨_, rfl, .connects ?_ (List.forall_mem_nil _)⟩
    rcases hdraws with ⟨rfl, rfl, -⟩ | ⟨rfl, rfl, -⟩
    · exact hassumed.1
    · exact hassumed.1
  | @disconnect env conn old new uuid _ hconn =>
    have hback : s.backend.uuidToHandle uuid = some conn := (h.inverse conn uuid).mp hconn
    obtain ⟨hopen, hlive⟩ := (h.live uuid).mp (by rw [hback]; exact Option.some_ne_none conn)
    exact ⟨_, rfl, .disconnects hopen hlive⟩
  | quiet => exact ⟨_, rfl, .passes (List.forall_mem_nil _)⟩
  | drop => exact ⟨_, rfl, .passes (List.forall_mem_nil _)⟩
  | receive => exact ⟨_, rfl, .passes (by simp [GameNetworkEvent.Passes])⟩
  | receiveNew => exact ⟨_, rfl, .passes (by simp [GameNetworkEvent.Passes])⟩

theorem livesOnce_of_run {inputs : List (Input Handle)} {s : GnsRun Handle}
    (hassumed : Run.Along (step parse) Assumed init inputs)
    (hrun : Run.run (step parse) init inputs = some s) : LivesOnce s.events := by
  have keep : ∀ (s : GnsRun Handle) a t, Registered s ∧ LivesOnce s.events → Assumed s a →
      step parse s a = some t → Registered t ∧ LivesOnce t.events := by
    rintro s a t ⟨hreg, hlives⟩ hassumed hstep
    obtain ⟨new, hlog, htells⟩ := tells_of_step hreg hassumed hstep
    exact ⟨registered_step hreg hassumed hstep, hlog ▸ livesOnce_append hlives htells⟩
  exact (Run.invariant keep inputs ⟨registered_init, livesOnce_nil⟩ hassumed hrun).2

end Lives

end GnsRun
end Gns

/-! ## The four backends -/

/-- The events of a run of the backend.  UDP, which draws a UUID without a look at its table, and
GNS, which relies on the handles it is given, come with what is assumed of these. -/
inductive Hosts : TestProtocol → List GameNetworkEvent → Prop where
  | udp {Addr : Type} (parse : String → Option Addr) (inputs : List (Udp.Input Addr))
    (s : Udp.UdpRun Addr)
    (hfresh : Run.Along (Udp.UdpRun.step parse) Udp.Fresh Udp.UdpRun.init inputs)
    (hrun : Run.run (Udp.UdpRun.step parse) Udp.UdpRun.init inputs = some s) : Hosts .udp s.events
  | tcp (actions : List Tcp.Action) (s : Tcp.TcpBackend)
    (hrun : Run.run Tcp.TcpBackend.step Tcp.TcpBackend.init actions = some s) :
    Hosts .tcp s.peer.eventRx.log
  | quic (actions : List Quic.Action) (s : Quic.QuicBackend)
    (hrun : Run.run Quic.QuicBackend.step Quic.QuicBackend.init actions = some s) :
    Hosts .quic s.peer.eventRx.log
  | gns {Handle : Type} [DecidableEq Handle] (parse : String → Option Gns.Ipv4Addr)
    (inputs : List (Gns.Input Handle)) (s : Gns.GnsRun Handle)
    (hassumed : Run.Along (Gns.GnsRun.step parse) Gns.GnsRun.Assumed Gns.GnsRun.init inputs)
    (hrun : Run.run (Gns.GnsRun.step parse) Gns.GnsRun.init inputs = some s) : Hosts .gns s.events

/-- All that the events of a backend can say of one connection. -/
def TestProtocol.lifetime : TestProtocol → List LifeMark
  | .udp => [.opens]
  | .tcp => [.opens, .ends]
  | .quic => [.opens]
  | .gns => [.opens, .ends]

theorem Kept.life_isPrefix {held : Uuid → Prop} {events : List GameNetworkEvent}
    (h : Kept held events) (c : Uuid) : life c events <+: [.opens] := by
  have hstays : .ends ∉ life c events := fun hc => h.stays c (ends_mem_life.mp hc)
  rcases prefix_lives (h.lives c) with hl | hl | hl
  · exact hl ▸ List.nil_prefix
  · exact hl ▸ List.prefix_refl _
  · exact absurd (by simp [hl]) hstays

theorem Hosts.life_isPrefix {protocol : TestProtocol} {events : List GameNetworkEvent}
    (h : Hosts protocol events) (c : Uuid) : life c events <+: protocol.lifetime := by
  cases h with
  | udp _ _ _ hfresh hrun => exact (Udp.UdpRun.kept_of_run hfresh hrun).life_isPrefix c
  | tcp _ _ hrun => exact Tcp.TcpBackend.livesOnce_of_run hrun c
  | quic _ _ hrun => exact (Quic.QuicBackend.kept_of_run hrun).life_isPrefix c
  | gns _ _ _ hassumed hrun => exact Gns.GnsRun.livesOnce_of_run hassumed hrun c

theorem Hosts.livesOnce {protocol : TestProtocol} {events : List GameNetworkEvent}
    (h : Hosts protocol events) : LivesOnce events := by
  intro c
  refine (h.life_isPrefix c).trans ?_
  cases protocol <;> exact (by decide)

/-- In every run of a backend each connection begins once and, over TCP and GNS alone, may end
once after that; what comes before its beginning is silent about it. -/
theorem lives_within_lifetime {protocol : TestProtocol} {events : List GameNetworkEvent}
    (hhosts : Hosts protocol events) :
    (∀ c, life c events <+: protocol.lifetime) ∧
      ∀ before c after, events = before ++ .disconnected c :: after →
        .connected c ∈ before ∧ .connected c ∉ after ∧ .disconnected c ∉ before ++ after := by
  refine ⟨hhosts.life_isPrefix, fun before c after hevents => ?_⟩
  have hlife := hhosts.livesOnce c
  rw [hevents, life_append, show life c (.disconnected c :: after) = .ends :: life c after by
    simp [life, GameNetworkEvent.lifeMark]] at hlife
  rw [← opens_mem_life, ← opens_mem_life, ← ends_mem_life, life_append]
  generalize life c before = first at hlife ⊢
  generalize life c after = last at hlife ⊢
  cases first with
  | nil => simp at hlife
  | cons mark first =>
    obtain ⟨rfl, hrest⟩ := List.cons_prefix_cons.mp hlife
    cases first with
    | nil =>
      have hlast := List.prefix_nil.mp (List.cons_prefix_cons.mp hrest).2
      simp [hlast]
    | cons mark first => simp at hrest

namespace Tcp
namespace TcpBackend

/-- A client is accepted, and its stream ends. -/
def visit : List Action :=
  [.issue (.bind "0.0.0.0" 8080), .command allOk, .announce 0 Uuid.nil, .spawn 0,
    .handler Uuid.nil .hangUp]

theorem lives_within_lifetime_visit :
    ∃ s, Run.run step init visit = some s ∧
      life Uuid.nil s.peer.eventRx.log = [.opens, .ends] ∧
      life Uuid.nil s.peer.eventRx.log <+: TestProtocol.tcp.lifetime :=
  ⟨_, rfl, by decide +kernel, (lives_within_lifetime (.tcp visit _ rfl)).1 Uuid.nil⟩

end TcpBackend
end Tcp

end GameSockets
