/-
When a `Send` finds its peer.

A UUID whose `Connected` has been sent is in one of three places: in `peers`, in the
registration channel, or with the accept task that drew it.  `Connect` puts it in
`peers` at once; an accept task announces the UUID and starts its handler first, and
only then sends the write handle to the loop.  The loop may take the `Send` before
it takes the handle.
-/
import GameSockets.Library.Handover
import GameSockets.Tcp.Backend

namespace GameSockets
namespace Tcp

open Library Handover

/-- The connection that an event makes known to the application. -/
def opens : GameNetworkEvent → Option Uuid
  | .connected c => some c
  | .message c _ _ => some c
  | _ => none

/-- The application sends to connections only that it has polled `Connected` or a
`Message` of. -/
def Polite (s : TcpBackend) : Action → Prop
  | .issue (.send c _ _) => ∃ e ∈ s.peer.eventRx.received, opens e = some c
  | _ => True

/-- The UUID whose handler the task has spawned. -/
def AcceptPhase.spawnedUuid : AcceptPhase → List Uuid
  | .spawned uuid => [uuid]
  | _ => []

namespace TcpBackend

/-- Where a UUID can be: with the loop, or on its way to it. -/
def places (s : TcpBackend) : List Uuid := gather AcceptPhase.held s.peers s.accepts s.peerReg

/-- The UUIDs whose handler has been spawned. -/
def ready (s : TcpBackend) : List Uuid := gather AcceptPhase.spawnedUuid s.peers s.accepts s.peerReg

theorem ready_subset_places (s : TcpBackend) : s.ready ⊆ s.places := by
  intro c hc
  simp only [ready, places, gather, List.mem_append, List.mem_flatMap] at hc ⊢
  rcases hc with hc | ⟨phase, hphase, hc⟩ | hc
  · exact Or.inl hc
  · refine Or.inr (Or.inl ⟨phase, hphase, ?_⟩)
    cases phase with
    | accepting => cases hc
    | announced uuid => cases hc
    | spawned uuid => exact hc
  · exact Or.inr (Or.inr hc)

/-- The parts of the state that registration is about. -/
structure SamePlaces (s t : TcpBackend) : Prop where
  peers : t.peers = s.peers
  accepts : t.accepts.flatMap AcceptPhase.held = s.accepts.flatMap AcceptPhase.held
  spawned : t.accepts.flatMap AcceptPhase.spawnedUuid = s.accepts.flatMap AcceptPhase.spawnedUuid
  peerReg : t.peerReg = s.peerReg

theorem SamePlaces.places {s t : TcpBackend} (h : SamePlaces s t) : t.places = s.places := by
  rw [TcpBackend.places, TcpBackend.places, gather, gather, h.peers, h.accepts, h.peerReg]

theorem SamePlaces.ready {s t : TcpBackend} (h : SamePlaces s t) : t.ready = s.ready := by
  rw [TcpBackend.ready, TcpBackend.ready, gather, gather, h.peers, h.spawned, h.peerReg]

/-- What the loop, the tasks and the application keep. -/
structure Registered (s : TcpBackend) : Prop where
  nodup : s.places.Nodup
  ready : ∀ c, c ∈ s.ready ↔ s.handlers c ≠ none
  events : ∀ e ∈ s.peer.eventRx.log, ∀ c, opens e = some c → c ∈ s.places
  waits : ∀ c p, s.loop = .sending c p → c ∈ s.peers

/-- A handler's UUID is in one of the places. -/
theorem Registered.place {s : TcpBackend} (h : Registered s) {c : Uuid}
    (hc : s.handlers c ≠ none) : c ∈ s.places :=
  ready_subset_places s ((h.ready c).mpr hc)

/-- The handler of an announced UUID is not there yet. -/
theorem Registered.announced {s : TcpBackend} (h : Registered s) {k : Nat} {uuid : Uuid}
    (hphase : s.accepts[k]? = some (.announced uuid)) : s.handlers uuid = none := by
  by_contra hne
  let without : TcpBackend := { s with accepts := s.accepts.set k .accepting }
  have hset := fun f => gather_set f s.peers .accepting s.peerReg s.peerReg hphase uuid
  have hready : uuid ∈ without.ready :=
    (mem_iff_of_count (Nat.add_right_cancel (hset AcceptPhase.spawnedUuid))).mpr
      ((h.ready uuid).mpr hne)
  have hpos := List.count_pos_iff.mpr (ready_subset_places without hready)
  have hheld := hset AcceptPhase.held
  have hone := List.nodup_iff_count_le_one.mp h.nodup uuid
  simp only [AcceptPhase.held, List.count_singleton_self, List.count_nil] at hheld
  simp only [places, without] at hpos hone
  omega

/-- A step that loses no place. -/
theorem registered_of_count {s t : TcpBackend} (h : Registered s)
    (hplaces : ∀ c, t.places.count c = s.places.count c)
    (hready : ∀ c, c ∈ t.ready ↔ t.handlers c ≠ none)
    (hnew : ∃ new, t.peer.eventRx.log = s.peer.eventRx.log ++ new ∧
      ∀ e ∈ new, ∀ c, opens e = some c → s.handlers c ≠ none)
    (hloop : ∀ c p, t.loop = .sending c p → c ∈ t.peers) : Registered t := by
  obtain ⟨new, hlog, hnew⟩ := hnew
  refine ⟨nodup_of_count h.nodup hplaces, hready, fun e he c hopen => ?_, hloop⟩
  rw [mem_iff_of_count (hplaces c)]
  rw [hlog, List.mem_append] at he
  rcases he with he | he
  · exact h.events e he c hopen
  · exact h.place (hnew e he c hopen)

/-- A step that moves no handle. -/
theorem registered_of_samePlaces {s t : TcpBackend} (h : Registered s) (hsame : SamePlaces s t)
    (hhandlers : ∀ c, t.handlers c = none ↔ s.handlers c = none)
    (hnew : ∃ new, t.peer.eventRx.log = s.peer.eventRx.log ++ new ∧
      ∀ e ∈ new, ∀ c, opens e = some c → s.handlers c ≠ none)
    (hloop : ∀ c p, t.loop = .sending c p → c ∈ s.peers) : Registered t := by
  refine registered_of_count h (fun c => ?_) (fun c => ?_) hnew
    fun c p hl => hsame.peers ▸ hloop c p hl
  · rw [hsame.places]
  · rw [hsame.ready, h.ready, ne_eq, ne_eq, hhandlers]

/-- A step that moves no handle and says nothing. -/
theorem registered_of_sameLog {s t : TcpBackend} (h : Registered s) (hsame : SamePlaces s t)
    (hhandlers : ∀ c, t.handlers c = none ↔ s.handlers c = none)
    (hlog : t.peer.eventRx.log = s.peer.eventRx.log)
    (hloop : ∀ c p, t.loop = .sending c p → c ∈ s.peers) : Registered t :=
  registered_of_samePlaces h hsame hhandlers
    ⟨[], by rw [hlog, List.append_nil], fun e he => by cases he⟩ hloop

theorem opens_connection {e : GameNetworkEvent} {c : Uuid} (h : opens e = some c) :
    e.connection = c := by
  unfold opens at h
  split at h <;> cases h <;> rfl

theorem setHandler_eq_none_iff {s : TcpBackend} {u : Uuid} {h : PeerHandler}
    (hu : s.handlers u ≠ none) (c : Uuid) :
    (s.setHandler u h).handlers c = none ↔ s.handlers c = none := by
  by_cases hc : c = u
  · subst hc
    simp [hu]
  · rw [handlers_setHandler_of_ne s hc]

/-- A handle that leads to a handler leads to one after the packet is in. -/
theorem handlers_of_offer {s : TcpBackend} {u : Uuid} {p : Bytes} {h : PeerHandler}
    (hoffer : s.offer u p = some h) : s.handlers u ≠ none := by
  intro hnone
  rw [offer, hnone] at hoffer
  cases hoffer

theorem push_spec (s : TcpBackend) (u : Uuid) (p : Bytes) :
    SamePlaces s (s.push u p) ∧ (s.push u p).peer = s.peer ∧
      (∀ c, (s.push u p).handlers c = none ↔ s.handlers c = none) ∧
      ((s.push u p).loop = s.loop ∨ (s.push u p).loop = .sending u p) := by
  unfold push
  split
  · next h hoffer =>
    exact ⟨⟨rfl, rfl, rfl, rfl⟩, rfl, setHandler_eq_none_iff (handlers_of_offer hoffer),
      Or.inl rfl⟩
  · exact ⟨⟨rfl, rfl, rfl, rfl⟩, rfl, fun c => Iff.rfl, Or.inr rfl⟩

/-- A fresh UUID gets a place, and its `Connected` is sent. -/
theorem registered_of_fresh {s t : TcpBackend} {u : Uuid} (h : Registered s) (hfresh : s.Fresh u)
    (hplaces : ∀ c, t.places.count c = s.places.count c + [u].count c)
    (hready : ∀ c, c ∈ t.ready ↔ t.handlers c ≠ none)
    (hlog : t.peer.eventRx.log = s.peer.eventRx.log ++ [.connected u])
    (hloop : ∀ c p, t.loop = .sending c p → c ∈ t.peers) : Registered t := by
  have hnot : u ∉ s.places := by
    rw [TcpBackend.places, gather, List.mem_append]
    exact fun hu => hu.elim hfresh.1 hfresh.2.1
  refine ⟨nodup_of_count_add h.nodup hnot hplaces, hready, fun e he c hopen => ?_, hloop⟩
  rw [mem_iff_of_count_add u (hplaces c)]
  rw [hlog, List.mem_append, List.mem_singleton] at he
  rcases he with he | rfl
  · exact Or.inl (h.events e he c hopen)
  · cases hopen
    exact Or.inr rfl

theorem registered_init : Registered init := by
  refine ⟨List.nodup_nil, fun c => ?_, fun e he => ?_, fun c p hl => ?_⟩
  · constructor
    · intro hc
      cases hc
    · exact fun hc => absurd rfl hc
  · cases he
  · cases hl

theorem registered_command {s t : TcpBackend} {env : CommandEnv} {cmd : BackendCommand}
    (h : Registered s) (hstep : Processes env s cmd t) : Registered t := by
  have emits : ∀ events, (∀ e ∈ events, opens e = none) → Registered (s.emit events) := by
    intro events hquiet
    refine registered_of_samePlaces h ⟨rfl, rfl, rfl, rfl⟩ (fun c => Iff.rfl)
      ⟨events, Channel.log_sendAll _ _, fun e he c hopen => ?_⟩ h.waits
    rw [hquiet e he] at hopen
    cases hopen
  have stops : ∀ phase, (∀ c p, phase ≠ .sending c p) → Registered (s.stop phase) :=
    fun phase hphase => registered_of_sameLog h ⟨rfl, rfl, rfl, rfl⟩ (fun c => Iff.rfl) rfl
      fun c p hl => absurd hl (hphase c p)
  cases hstep with
  | bind =>
    refine registered_of_sameLog h ⟨rfl, ?_, ?_, rfl⟩ (fun c => Iff.rfl) rfl h.waits
    · simp [AcceptPhase.held]
    · simp [AcceptPhase.spawnedUuid]
  | bindFails => exact stops .panicked (by simp)
  | connect _ hfresh =>
    refine registered_of_fresh h hfresh (gather_cons _ _ _ _ _) (fun c => ?_)
      (Channel.log_sendAll _ _) fun c p hl => List.mem_cons_of_mem _ (h.waits c p hl)
    show c ∈ env.newV4 :: s.ready ↔ _
    rw [List.mem_cons]
    by_cases hc : c = env.newV4
    · simp [hc, setHandler]
    · simp [hc, h.ready c, setHandler, emit]
  | connectFails => exact emits _ (by simp [opens])
  | @send c stream data hpeer =>
    obtain ⟨hsame, hpush, hhandlers, hloop⟩ := push_spec s c (packet stream data)
    refine registered_of_sameLog h hsame hhandlers (by rw [hpush]) fun c' p hl => ?_
    rcases hloop with hloop | hloop
    · exact h.waits c' p (hloop ▸ hl)
    · rw [hloop] at hl
      cases hl
      exact hpeer
  | drop => exact h
  | shutdown => exact stops .stopped (by simp)
  | createStream => exact emits _ (by simp [opens])
  | closeStream => exact emits _ (by simp [opens])

theorem registered_step {s t : TcpBackend} {a : Action} (h : Registered s)
    (hstep : s.step a = some t) : Registered t := by
  cases steps_of_step hstep with
  | issue => exact ⟨h.nodup, h.ready, h.events, h.waits⟩
  | poll hrecv =>
    exact registered_of_sameLog h ⟨rfl, rfl, rfl, rfl⟩ (fun c => Iff.rfl) (Channel.log_recv hrecv)
      h.waits
  | register _ hrecv =>
    exact registered_of_count h (gather_recv _ _ _ hrecv)
      (fun c => (mem_iff_of_count (gather_recv _ _ _ hrecv c)).trans (h.ready c))
      ⟨[], (List.append_nil _).symm, fun e he => by cases he⟩
      fun c p hl => List.mem_cons_of_mem _ (h.waits c p hl)
  | command _ _ hcommand =>
    refine registered_command ?_ hcommand
    exact registered_of_sameLog h ⟨rfl, rfl, rfl, rfl⟩ (fun c => Iff.rfl) rfl h.waits
  | resume _ hoffer =>
    exact registered_of_sameLog h ⟨rfl, rfl, rfl, rfl⟩
      (setHandler_eq_none_iff (handlers_of_offer hoffer)) rfl fun c p hl => by cases hl
  | @announce k uuid _ hphase hfresh =>
    have hset := fun f c => gather_set f s.peers (.announced uuid) s.peerReg s.peerReg hphase c
    refine registered_of_fresh h hfresh (fun c => ?_) (fun c => ?_) (Channel.log_sendAll _ _)
      h.waits
    · have hheld := hset AcceptPhase.held c
      simp only [AcceptPhase.held, List.count_nil] at hheld
      simp only [places, emit]
      omega
    · exact (mem_iff_of_count (Nat.add_right_cancel (hset AcceptPhase.spawnedUuid c))).trans
        (h.ready c)
  | @spawn k uuid _ hphase =>
    have hset := fun f c => gather_set f s.peers (.spawned uuid) s.peerReg s.peerReg hphase c
    refine registered_of_count h (fun c => ?_) (fun c => ?_)
      ⟨[], (List.append_nil _).symm, fun e he => by cases he⟩ h.waits
    · exact Nat.add_right_cancel (hset AcceptPhase.held c)
    · have hspawned := hset AcceptPhase.spawnedUuid c
      simp only [AcceptPhase.spawnedUuid, List.count_nil] at hspawned
      refine (mem_iff_of_count_add uuid (l := s.ready) ?_).trans ?_
      · rw [ready, ready]
        dsimp only [setHandler]
        omega
      · by_cases hc : c = uuid
        · simp [hc, setHandler]
        · simp [hc, h.ready c, setHandler]
  | @handOver k uuid _ hphase =>
    have hset := fun f c =>
      gather_set f s.peers .accepting s.peerReg (s.peerReg.send uuid) hphase c
    refine registered_of_count h (fun c => ?_) (fun c => ?_)
      ⟨[], (List.append_nil _).symm, fun e he => by cases he⟩ h.waits
    · have hheld := hset AcceptPhase.held c
      simp only [AcceptPhase.held, List.count_nil, Channel.pending_send,
        List.count_append] at hheld
      dsimp only [places]
      omega
    · have hspawned := hset AcceptPhase.spawnedUuid c
      simp only [AcceptPhase.spawnedUuid, List.count_nil, Channel.pending_send,
        List.count_append] at hspawned
      refine (mem_iff_of_count ?_).trans (h.ready c)
      dsimp only [ready]
      omega
  | @handler uuid b hd h' events _ hhandler hb =>
    have hne : s.handlers uuid ≠ none := by
      rw [hhandler]
      exact Option.some_ne_none _
    refine registered_of_samePlaces h ⟨rfl, rfl, rfl, rfl⟩ (setHandler_eq_none_iff hne)
      ⟨events, Channel.log_sendAll _ _, fun e he c hopen => ?_⟩ h.waits
    rw [← opens_connection hopen, PeerHandler.step_events hb e he]
    exact hne

/-! ## The loop takes a `Send` -/

/-- The packet is at the end of the write queue of `c`, or the loop waits to put it
there. -/
def Enqueued (s t : TcpBackend) (c : Uuid) (p : Bytes) : Prop :=
  ∃ h, s.handlers c = some h ∧
    ((∃ h', t.handlers c = some h' ∧ h'.writeRx.pending = h.writeRx.pending ++ [p]) ∨
      t.loop = .sending c p)

theorem enqueued_push {s : TcpBackend} {c : Uuid} {p : Bytes} {h : PeerHandler}
    (hhandler : s.handlers c = some h) (hopen : h.phase ≠ .closed) :
    Enqueued s (s.push c p) c p := by
  refine ⟨h, hhandler, ?_⟩
  have hoffer : s.offer c p = h.offer p := by rw [offer, hhandler, Option.bind_some]
  rw [push, hoffer, PeerHandler.offer, if_neg hopen]
  split
  · next h' hsome =>
    refine Or.inl ⟨h', handlers_setHandler_self _ _ _, ?_⟩
    split at hsome <;> cases hsome
    rfl
  · exact Or.inr rfl

theorem registered_of_run {actions : List Action} {s : TcpBackend}
    (hrun : Run.run step init actions = some s) : Registered s :=
  Run.invariant_of_run (fun _ _ _ => registered_step) registered_init hrun

/-- The application has polled what makes the connections of its `Send`s known. -/
def Introduced (s : TcpBackend) : Prop :=
  ∀ m ∈ s.peer.cmdTx.log.filterMap BackendCommand.sent,
    ∃ e ∈ s.peer.eventRx.log, opens e = some m.connection

theorem introduced_step {s t : TcpBackend} {a : Action} (h : Introduced s) (hpolite : Polite s a)
    (hstep : s.step a = some t) : Introduced t := by
  obtain ⟨⟨new, hevents, -⟩, hcmd⟩ := step_logs hstep
  have hgrow : ∀ m, (∃ e ∈ s.peer.eventRx.log, opens e = some m) →
      ∃ e ∈ t.peer.eventRx.log, opens e = some m := by
    rintro m ⟨e, he, hopen⟩
    exact ⟨e, hevents ▸ List.mem_append_left _ he, hopen⟩
  intro m hm
  rcases hcmd with hcmd | ⟨cmd, rfl, hcmd⟩
  · exact hgrow _ (h m (hcmd ▸ hm))
  · rw [hcmd, List.filterMap_append, List.mem_append] at hm
    rcases hm with hm | hm
    · exact hgrow _ (h m hm)
    · obtain ⟨cmd', hmem, hsent⟩ := List.mem_filterMap.mp hm
      rw [List.mem_singleton.mp hmem, BackendCommand.sent_eq_some] at hsent
      subst hsent
      obtain ⟨e, he, hopen⟩ := hpolite
      exact hgrow _ ⟨e, Channel.mem_log_of_received he, hopen⟩

/-- In every run of a polite application, a `Send` for a connection that has not
ended is enqueued exactly when the write handle is not still on its way to the loop. -/
theorem send_enqueued_iff (actions : List Action) (s t : TcpBackend) (env : CommandEnv) (c : Uuid)
    (stream : GameStream) (data : Bytes)
    (hpolite : Run.Along step Polite init actions) (hrun : Run.run step init actions = some s)
    (hnext : s.peer.cmdTx.pending.head? = some (.send c stream data))
    (hopen : ∀ h, s.handlers c = some h → h.phase ≠ .closed)
    (hstep : s.step (.command env) = some t) :
    (c ∈ s.peers ∧ Enqueued s t c (packet stream data)) ↔ c ∉ s.waiting := by
  have hreg := registered_of_run hrun
  have hintro : Introduced s :=
    Run.invariant (fun _ _ _ => introduced_step) actions (fun m hm => by cases hm) hpolite hrun
  obtain ⟨rest, hpending⟩ := List.head?_eq_some_iff.mp hnext
  have hplace : c ∈ s.places := by
    have hmem : BackendCommand.send c stream data ∈ s.peer.cmdTx.log := by
      refine Channel.mem_log_of_pending ?_
      rw [hpending]
      exact List.mem_cons_self
    obtain ⟨e, he, hopen⟩ := hintro _ (List.mem_filterMap.mpr ⟨_, hmem, rfl⟩)
    exact hreg.events e he c hopen
  constructor
  · rintro ⟨hpeer, -⟩ hwaiting
    exact List.disjoint_of_nodup_append hreg.nodup hpeer hwaiting
  · intro hwaiting
    have hpeer : c ∈ s.peers := (List.mem_append.mp hplace).resolve_right hwaiting
    refine ⟨hpeer, ?_⟩
    obtain ⟨h, hhandler⟩ := Option.ne_none_iff_exists'.mp
      ((hreg.ready c).mp (List.mem_append_left _ hpeer))
    simp only [step, Channel.recv_of_pending hpending] at hstep
    split at hstep
    · next cmd tx hloop hrecv =>
      cases hrecv
      let taken : TcpBackend :=
        { s with peer := { s.peer with
            cmdTx :=
              { received := s.peer.cmdTx.received ++ [.send c stream data], pending := rest } } }
      have hpush := enqueued_push (s := taken) (p := packet stream data) hhandler
        (hopen h hhandler)
      simp only [processCommand, if_pos hpeer] at hstep
      cases hstep
      exact hpush
    · cases hstep

instance (s : TcpBackend) (a : Action) : Decidable (Polite s a) := by
  unfold Polite
  split <;> infer_instance

def allOk : CommandEnv := { bindOk := true, connectOk := true, newV4 := Uuid.nil }

/-- An accepted client sends one packet, and the server answers its `Message`; what else
happens before the answer is `meanwhile`. -/
def acceptAndReply (meanwhile : List Action) : List Action :=
  [.issue (.bind "0.0.0.0" 8080), .command allOk, .announce 0 Uuid.nil, .spawn 0,
    .handler Uuid.nil (.read (Framing.frame lengthSize (packet { streamId := 4 } [7]))),
    .handler Uuid.nil .decode, .poll, .poll, .poll] ++
    meanwhile ++ [.issue (.send Uuid.nil { streamId := 4 } [7])]

/-- The loop has the write handle when the server answers. -/
def registeredReply : List Action := acceptAndReply [.handOver 0, .register]

theorem send_enqueued_accepted :
    ∃ s t, Run.run step init registeredReply = some s ∧ s.step (.command allOk) = some t ∧
      Uuid.nil ∈ s.peers ∧ Enqueued s t Uuid.nil (packet { streamId := 4 } [7]) := by
  refine ⟨_, _, rfl, rfl, ?_⟩
  refine (send_enqueued_iff registeredReply _ _ allOk Uuid.nil { streamId := 4 } [7]
    (by decide +kernel) rfl rfl ?_ rfl).mpr (by decide +kernel)
  intro h hh
  cases hh
  decide

/-- The accept task still holds the write handle when the server answers. -/
def quickReply : List Action := acceptAndReply []

/-- The answer to a polled `Message` is dropped: the loop finds no peer, and nothing
changes but the command channel. -/
theorem reply_dropped :
    ∃ s t, Run.run step init quickReply = some s ∧ Run.Along step Polite init quickReply ∧
      .message Uuid.nil { streamId := 4 } [7] ∈ s.peer.eventRx.received ∧
      s.peer.cmdTx.pending.head? = some (.send Uuid.nil { streamId := 4 } [7]) ∧
      s.step (.command allOk) = some t ∧
      Uuid.nil ∉ s.peers ∧ t.loop = .selecting ∧
      (t.handlers Uuid.nil).map (·.writeRx.log) = some [] ∧ t.peer.cmdTx.pending = [] := by
  refine ⟨_, _, rfl, by decide +kernel, ?_, rfl, rfl, ?_, rfl, rfl, rfl⟩
  · decide +kernel
  · decide +kernel

end TcpBackend

end Tcp
end GameSockets
