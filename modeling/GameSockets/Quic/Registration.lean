/-
When a reply to a reliable `Message` is written.

A connection and the sending half of a stream reach the loop over a channel each, and
the `Message`s of the stream reach the application over a third.  The loop may take the
reply before it takes the connection or the stream.
-/
import GameSockets.Library.Handover
import GameSockets.Quic.Backend

namespace GameSockets
namespace Quic

open Library Handover

/-- The loop puts the sending half of the registration under `key` in
`reliable_send_streams`. -/
def StreamRegistration.Opens (r : StreamRegistration) (key : Uuid × UInt16) : Prop :=
  r.key = key ∧ r.stream.isReliable = true ∧ r.sendStream ≠ none

instance (r : StreamRegistration) (key : Uuid × UInt16) : Decidable (r.Opens key) :=
  inferInstanceAs (Decidable (_ ∧ _ ∧ _))

namespace QuicBackend

/-- Where a UUID can be: with the loop, or on its way to it. -/
def places (s : QuicBackend) : List Uuid :=
  gather AcceptPhase.held s.connections s.accepts s.connReg

/-- The connection has reached the loop or its channel. -/
def Known (s : QuicBackend) (c : Uuid) : Prop := c ∈ s.connections ∨ c ∈ s.connReg.pending

/-- The connection has a task that reads from it, or has delivered a payload. -/
def Heard (s : QuicBackend) (c : Uuid) : Prop :=
  s.readers c ≠ none ∨ (∃ r ∈ s.streamReaders, r.uuid = c) ∨
    ∃ m ∈ s.peer.eventRx.log.filterMap GameNetworkEvent.delivered, m.connection = c

/-- What the loop, the tasks and the application keep. -/
structure Registered (s : QuicBackend) : Prop where
  nodup : s.places.Nodup
  heard : ∀ c, s.Heard c → s.Known c
  opened : ∀ key, s.reliableSendStreams key ≠ none → ∃ r ∈ s.streamReg.received, r.Opens key
  kept : ∀ r ∈ s.streamReg.received, ∀ key, r.Opens key →
    s.reliableSendStreams key ≠ none ∨ .closeStream key.1 key.2 ∈ s.peer.cmdTx.received

/-! ## What a step does to the connections and to the streams -/

/-- Connections move towards the loop, and a reader starts only behind one. -/
structure Handed (s t : QuicBackend) : Prop where
  places : (∀ c, t.places.count c = s.places.count c) ∨
    ∃ u ∉ s.places, ∀ c, t.places.count c = s.places.count c + [u].count c
  known : ∀ c, s.Known c → t.Known c
  heard : ∀ c, t.Heard c → s.Heard c ∨ t.Known c

/-- A key enters the table with its registration, and leaves it with a `CloseStream`. -/
structure Tabled (s t : QuicBackend) : Prop where
  commands : s.peer.cmdTx.received ⊆ t.peer.cmdTx.received
  registrations : s.streamReg.received ⊆ t.streamReg.received
  opened : ∀ key, t.reliableSendStreams key ≠ none →
    s.reliableSendStreams key ≠ none ∨ ∃ r ∈ t.streamReg.received, r.Opens key
  kept : ∀ key, s.reliableSendStreams key ≠ none →
    t.reliableSendStreams key ≠ none ∨ .closeStream key.1 key.2 ∈ t.peer.cmdTx.received
  taken : ∀ r ∈ t.streamReg.received, ∀ key, r.Opens key →
    r ∈ s.streamReg.received ∨ t.reliableSendStreams key ≠ none

theorem registered_of_moved {s t : QuicBackend} (h : Registered s) (hhanded : Handed s t)
    (htabled : Tabled s t) : Registered t := by
  refine ⟨?_, fun c hc => ?_, fun key hkey => ?_, fun r hr key hopens => ?_⟩
  · rcases hhanded.places with hcount | ⟨u, hu, hcount⟩
    · exact nodup_of_count h.nodup hcount
    · exact nodup_of_count_add h.nodup hu hcount
  · rcases hhanded.heard c hc with hc | hc
    · exact hhanded.known c (h.heard c hc)
    · exact hc
  · rcases htabled.opened key hkey with hkey | hkey
    · obtain ⟨r, hr, hopens⟩ := h.opened key hkey
      exact ⟨r, htabled.registrations hr, hopens⟩
    · exact hkey
  · rcases htabled.taken r hr key hopens with hr | hkey
    · rcases h.kept r hr key hopens with hkey | hclosed
      · exact htabled.kept key hkey
      · exact Or.inr (htabled.commands hclosed)
    · exact Or.inl hkey

/-- A step that moves no connection. -/
theorem handed_of_same {s t : QuicBackend} (hconn : t.connections = s.connections)
    (haccepts : t.accepts.flatMap AcceptPhase.held = s.accepts.flatMap AcceptPhase.held)
    (hreg : t.connReg = s.connReg) (hheard : ∀ c, t.Heard c → s.Heard c ∨ t.Known c) :
    Handed s t := by
  refine ⟨Or.inl fun c => ?_, fun c hc => ?_, hheard⟩
  · rw [places, places, gather, gather, hconn, haccepts, hreg]
  · rwa [Known, hconn, hreg]

/-- A step that takes no registration and closes no stream. -/
theorem tabled_of_same {s t : QuicBackend}
    (hcmd : s.peer.cmdTx.received ⊆ t.peer.cmdTx.received)
    (hreg : t.streamReg.received = s.streamReg.received)
    (htable : ∀ key, t.reliableSendStreams key = none ↔ s.reliableSendStreams key = none) :
    Tabled s t := by
  have hne : ∀ key, t.reliableSendStreams key ≠ none ↔ s.reliableSendStreams key ≠ none :=
    fun key => not_congr (htable key)
  refine ⟨hcmd, fun r hr => ?_, fun key hkey => Or.inl ((hne key).mp hkey),
    fun key hkey => Or.inl ((hne key).mpr hkey), fun r hr key _ => Or.inl ?_⟩
  · rw [hreg]
    exact hr
  · rw [← hreg]
    exact hr

/-- Readers of connections heard already, and what they deliver, bring in no other
connection. -/
theorem heard_of_heard {s t : QuicBackend}
    (hreaders : ∀ c, t.readers c ≠ none → s.readers c ≠ none)
    (hstreams : ∀ r ∈ t.streamReaders, s.Heard r.uuid)
    (hlog : ∃ new, t.peer.eventRx.log = s.peer.eventRx.log ++ new ∧
      ∀ m ∈ new.filterMap GameNetworkEvent.delivered, s.Heard m.connection) :
    ∀ c, t.Heard c → s.Heard c ∨ t.Known c := by
  obtain ⟨new, hlog, hnew⟩ := hlog
  intro c hc
  refine Or.inl ?_
  rcases hc with hc | ⟨r, hr, rfl⟩ | ⟨m, hm, rfl⟩
  · exact Or.inl (hreaders c hc)
  · exact hstreams r hr
  · rw [hlog, List.filterMap_append, List.mem_append] at hm
    rcases hm with hm | hm
    · exact Or.inr (Or.inr ⟨m, hm, rfl⟩)
    · exact hnew m hm

/-- A step that moves neither a connection nor a stream. -/
theorem registered_of_same {s t : QuicBackend} (h : Registered s)
    (hconn : t.connections = s.connections)
    (haccepts : t.accepts.flatMap AcceptPhase.held = s.accepts.flatMap AcceptPhase.held)
    (hconnReg : t.connReg = s.connReg)
    (hcmd : s.peer.cmdTx.received ⊆ t.peer.cmdTx.received)
    (hstreamReg : t.streamReg.received = s.streamReg.received)
    (htable : t.reliableSendStreams = s.reliableSendStreams)
    (hheard : ∀ c, t.Heard c → s.Heard c ∨ t.Known c) : Registered t :=
  registered_of_moved h (handed_of_same hconn haccepts hconnReg hheard)
    (tabled_of_same hcmd hstreamReg fun key => by rw [htable])

/-- An accept task or `Connect` draws a UUID that is nowhere yet. -/
theorem fresh_not_mem_places {s : QuicBackend} {u : Uuid} (h : s.Fresh u) : u ∉ s.places := by
  rw [places, gather, List.mem_append]
  exact fun hu => hu.elim h.1 h.2

theorem readers_setReader {s : QuicBackend} {u : Uuid} (hu : s.readers u ≠ none)
    (r : DatagramReader) (c : Uuid) (hc : (s.setReader u r).readers c ≠ none) :
    s.readers c ≠ none := by
  by_cases heq : c = u
  · subst heq
    exact hu
  · rw [setReader] at hc
    dsimp only at hc
    rwa [Function.update_of_ne heq] at hc

/-- A reader starts on a connection that is with the loop or in its channel. -/
theorem heard_spawnReader {s t : QuicBackend} {u : Uuid} (hu : t.Known u)
    (hreaders : t.readers = (s.spawnReader u).readers)
    (hstreams : t.streamReaders = s.streamReaders)
    (hlog : t.peer.eventRx.log.filterMap GameNetworkEvent.delivered =
      s.peer.eventRx.log.filterMap GameNetworkEvent.delivered) :
    ∀ c, t.Heard c → s.Heard c ∨ t.Known c := by
  intro c hc
  by_cases heq : c = u
  · subst heq
    exact Or.inr hu
  · rw [Heard, hreaders, hstreams, hlog, spawnReader] at hc
    dsimp only at hc
    rw [Function.update_of_ne heq] at hc
    exact Or.inl hc

theorem tabled_writeAll {s : QuicBackend} {key : Uuid × UInt16} {stream : SendStream}
    (hkey : s.reliableSendStreams key = some stream) (bytes : Bytes)
    (error : Option (Nat × String)) : Tabled s (s.writeAll key stream bytes error) := by
  have hupdate : ∀ (new : SendStream) (k : Uuid × UInt16),
      Function.update s.reliableSendStreams key (some new) k = none ↔
        s.reliableSendStreams k = none := by
    intro new k
    by_cases heq : k = key
    · subst heq
      simp [hkey]
    · rw [Function.update_of_ne heq]
  cases error with
  | none => exact tabled_of_same (List.Subset.refl _) rfl (hupdate _)
  | some e => exact tabled_of_same (List.Subset.refl _) rfl (hupdate _)

/-- A registration that the loop takes opens its key, unless it has no sending half. -/
theorem tabled_registration {s : QuicBackend} {r : StreamRegistration}
    {reg : Channel StreamRegistration} (hrecv : s.streamReg.recv = some (r, reg)) :
    Tabled s (processRegistration { s with streamReg := reg } r) := by
  have hreg : reg.received = s.streamReg.received ++ [r] := (Channel.recv_eq_some hrecv).2
  have hsub : s.streamReg.received ⊆ reg.received := by
    rw [hreg]
    exact List.subset_append_left _ _
  have htake : ∀ r' ∈ reg.received, r' ∈ s.streamReg.received ∨ r' = r := by
    intro r' hr'
    rw [hreg, List.mem_append, List.mem_singleton] at hr'
    exact hr'
  have hmem : r ∈ reg.received := by
    rw [hreg]
    exact List.mem_append_right _ List.mem_cons_self
  have hquiet : ∀ t : QuicBackend, t.peer.cmdTx = s.peer.cmdTx → t.streamReg = reg →
      t.reliableSendStreams = s.reliableSendStreams → (∀ key, ¬ r.Opens key) → Tabled s t := by
    intro t hcmd hstream htable hnot
    refine ⟨fun cmd h => hcmd ▸ h, hstream ▸ hsub, fun key hkey => Or.inl (htable ▸ hkey),
      fun key hkey => Or.inl (htable ▸ hkey), fun r' hr' key hopens => ?_⟩
    rcases htake r' (hstream ▸ hr') with hr' | rfl
    · exact Or.inl hr'
    · exact absurd hopens (hnot key)
  unfold processRegistration
  split
  · next sendStream hreliable hsome =>
    refine ⟨List.Subset.refl _, hsub, fun key hkey => ?_, fun key hkey => Or.inl ?_,
      fun r' hr' key hopens => ?_⟩
    · by_cases heq : key = r.key
      · exact Or.inr ⟨r, hmem, heq.symm, hreliable, by rw [hsome]; exact Option.some_ne_none _⟩
      · dsimp only at hkey
        rw [Function.update_of_ne heq] at hkey
        exact Or.inl hkey
    · by_cases heq : key = r.key
      · subst heq
        simp
      · dsimp only
        rw [Function.update_of_ne heq]
        exact hkey
    · rcases htake r' hr' with hr' | rfl
      · exact Or.inl hr'
      · rw [← hopens.1]
        exact Or.inr (by simp)
  · next hnot =>
    have hopens : ∀ key, ¬ r.Opens key := by
      rintro key ⟨-, hreliable, hsome⟩
      obtain ⟨sendStream, hsome⟩ := Option.ne_none_iff_exists'.mp hsome
      exact hnot sendStream hreliable hsome
    split
    · exact hquiet _ rfl rfl rfl hopens
    · exact hquiet _ rfl rfl rfl hopens

theorem tabled_closeStream {s : QuicBackend} {c : Uuid} {i : UInt16}
    (hcmd : .closeStream c i ∈ s.peer.cmdTx.received) {t : QuicBackend}
    (hpeer : t.peer.cmdTx = s.peer.cmdTx) (hreg : t.streamReg = s.streamReg)
    (htable : t.reliableSendStreams = Function.update s.reliableSendStreams (c, i) none) :
    Tabled s t := by
  refine ⟨hpeer ▸ List.Subset.refl _, hreg ▸ List.Subset.refl _, fun key hkey => Or.inl ?_,
    fun key hkey => ?_, fun r hr key _ => Or.inl (hreg ▸ hr)⟩
  · by_cases heq : key = (c, i)
    · rw [htable, heq, Function.update_self] at hkey
      exact absurd rfl hkey
    · rwa [htable, Function.update_of_ne heq] at hkey
  · by_cases heq : key = (c, i)
    · rw [heq, hpeer]
      exact Or.inr hcmd
    · rw [htable, Function.update_of_ne heq]
      exact Or.inl hkey

theorem registered_init : Registered init := by
  refine ⟨List.nodup_nil, fun c hc => ?_, fun key hkey => absurd rfl hkey,
    fun r hr => by cases hr⟩
  rcases hc with hc | ⟨r, hr, -⟩ | ⟨m, hm, -⟩
  · exact absurd rfl hc
  · cases hr
  · cases hm

/-- A command that the loop has taken. -/
theorem registered_command {s t : QuicBackend} {env : CommandEnv} {cmd : BackendCommand}
    (h : Registered s) (hcmd : cmd ∈ s.peer.cmdTx.received) (hstep : Processes env s cmd t) :
    Registered t := by
  have hheard : ∀ {t : QuicBackend}, t.readers = s.readers → t.streamReaders = s.streamReaders →
      t.peer.eventRx.log.filterMap GameNetworkEvent.delivered =
        s.peer.eventRx.log.filterMap GameNetworkEvent.delivered →
      ∀ c, t.Heard c → s.Heard c ∨ t.Known c := by
    intro t hreaders hstreams hlog c hc
    rw [Heard, hreaders, hstreams, hlog] at hc
    exact Or.inl hc
  have hsub : s.peer.cmdTx.received ⊆ s.peer.cmdTx.received := List.Subset.refl _
  cases hstep with
  | bind =>
    exact registered_of_same h rfl (by simp [AcceptPhase.held]) rfl hsub rfl rfl
      (hheard rfl rfl rfl)
  | bindFails => exact registered_of_same h rfl rfl rfl hsub rfl rfl (hheard rfl rfl rfl)
  | connect _ hfresh =>
    refine registered_of_moved h
      ⟨Or.inr ⟨env.newV4, fresh_not_mem_places hfresh, gather_cons _ _ _ _ _⟩,
        fun c hc => hc.imp_left (List.mem_cons_of_mem _),
        heard_spawnReader (Or.inl List.mem_cons_self) rfl rfl ?_⟩
      (tabled_of_same hsub rfl fun key => Iff.rfl)
    simp [emit, spawnReader, GameNetworkEvent.delivered]
  | connectFails => exact registered_of_same h rfl rfl rfl hsub rfl rfl (hheard rfl rfl rfl)
  | @send c stream data sendStream _ _ hstream =>
    refine registered_of_moved h ?_ (tabled_writeAll hstream (frame data) env.sendError)
    cases env.sendError with
    | none => exact handed_of_same rfl rfl rfl (hheard rfl rfl rfl)
    | some e =>
      refine handed_of_same rfl rfl rfl (hheard rfl rfl ?_)
      simp [writeAll, emit, GameNetworkEvent.delivered]
  | noStream => exact h
  | datagram => exact registered_of_same h rfl rfl rfl hsub rfl rfl (hheard rfl rfl rfl)
  | datagramFails =>
    refine registered_of_same h rfl rfl rfl hsub rfl rfl (hheard rfl rfl ?_)
    simp [emit, GameNetworkEvent.delivered]
  | noConnection => exact h
  | shutdown => exact registered_of_same h rfl rfl rfl hsub rfl rfl (hheard rfl rfl rfl)
  | openStream hconn =>
    refine registered_of_same h rfl rfl rfl hsub rfl rfl fun c' hc' => ?_
    -- The new reader's connection is one that the loop has found.
    rcases hc' with hc' | ⟨r, hr, rfl⟩ | hc'
    · exact Or.inl (Or.inl hc')
    · rcases List.mem_append.mp hr with hr | hr
      · exact Or.inl (Or.inr (Or.inl ⟨r, hr, rfl⟩))
      · rw [List.mem_singleton.mp hr]
        exact Or.inr (Or.inl hconn)
    · exact Or.inl (Or.inr (Or.inr hc'))
  | openFails => exact registered_of_same h rfl rfl rfl hsub rfl rfl (hheard rfl rfl rfl)
  | openUnconnected => exact h
  | createStream => exact registered_of_same h rfl rfl rfl hsub rfl rfl (hheard rfl rfl rfl)
  | closeStream =>
    refine registered_of_moved h (handed_of_same rfl rfl rfl (hheard rfl rfl ?_))
      (tabled_closeStream hcmd rfl rfl rfl)
    simp [emit, GameNetworkEvent.delivered]

theorem registered_step {s t : QuicBackend} {a : Action} (h : Registered s)
    (hstep : s.step a = some t) : Registered t := by
  have hsub : s.peer.cmdTx.received ⊆ s.peer.cmdTx.received := List.Subset.refl _
  have hkeep : ∀ {P : Uuid → Prop} c, s.Heard c → s.Heard c ∨ P c := fun c hc => Or.inl hc
  have hsilent : ∃ new, s.peer.eventRx.log = s.peer.eventRx.log ++ new ∧
      ∀ m ∈ new.filterMap GameNetworkEvent.delivered, s.Heard m.connection :=
    ⟨[], (List.append_nil _).symm, fun m hm => by cases hm⟩
  have hstreams : ∀ r ∈ s.streamReaders, s.Heard r.uuid :=
    fun r hr => Or.inr (Or.inl ⟨r, hr, rfl⟩)
  have hreads : ∀ {uuid : Uuid} {r : DatagramReader}, s.readers uuid = some r →
      s.readers uuid ≠ none := by
    intro uuid r hreader
    rw [hreader]
    exact Option.some_ne_none _
  cases steps_of_step hstep with
  | issue => exact registered_of_same h rfl rfl rfl hsub rfl rfl hkeep
  | poll hrecv =>
    refine registered_of_same h rfl rfl rfl hsub rfl rfl fun c hc => ?_
    rw [Heard, Channel.log_recv hrecv] at hc
    exact Or.inl hc
  | registerConnection _ hrecv =>
    refine registered_of_moved h
      ⟨Or.inl (gather_recv _ _ _ hrecv), fun c hc => ?_, fun c hc => Or.inl hc⟩
      (tabled_of_same hsub rfl fun key => Iff.rfl)
    rcases hc with hc | hc
    · exact Or.inl (List.mem_cons_of_mem _ hc)
    · rw [(Channel.recv_eq_some hrecv).1, List.mem_cons] at hc
      rcases hc with rfl | hc
      · exact Or.inl List.mem_cons_self
      · exact Or.inr hc
  | registerStream _ hrecv =>
    refine registered_of_moved h ?_ (tabled_registration hrecv)
    unfold processRegistration
    split
    · refine handed_of_same rfl rfl rfl (heard_of_heard (fun c hc => hc) hstreams
        ⟨_, Channel.log_sendAll _ _, fun m hm => ?_⟩)
      cases hm
    · split
      · exact handed_of_same rfl rfl rfl hkeep
      · refine handed_of_same rfl rfl rfl (heard_of_heard (fun c hc => hc) hstreams
          ⟨_, Channel.log_sendAll _ _, fun m hm => ?_⟩)
        cases hm
  | command _ hrecv hcommand =>
    have hreceived := (Channel.recv_eq_some hrecv).2
    refine registered_command ?_ ?_ hcommand
    · refine registered_of_same h rfl rfl rfl ?_ rfl rfl hkeep
      rw [hreceived]
      exact List.subset_append_left _ _
    · rw [hreceived]
      exact List.mem_append_right _ List.mem_cons_self
  | @announce k uuid _ hphase hfresh =>
    refine registered_of_moved h
      ⟨Or.inr ⟨uuid, fresh_not_mem_places hfresh, fun c => ?_⟩, fun c hc => hc,
        heard_of_heard (fun c hc => hc) hstreams ⟨_, Channel.log_sendAll _ _, fun m hm => ?_⟩⟩
      (tabled_of_same hsub rfl fun key => Iff.rfl)
    · have hset := gather_set AcceptPhase.held s.connections (.announced uuid) s.connReg
        s.connReg hphase c
      simp only [AcceptPhase.held, List.count_nil] at hset
      simp only [places, emit]
      omega
    · cases hm
  | @handOver k uuid _ hphase =>
    refine registered_of_moved h
      ⟨Or.inl fun c => ?_, fun c hc => hc.imp_right fun hc => ?_,
        heard_spawnReader (Or.inr ?_) rfl rfl rfl⟩
      (tabled_of_same hsub rfl fun key => Iff.rfl)
    · have hset := gather_set AcceptPhase.held s.connections .accepting s.connReg
        (s.connReg.send uuid) hphase c
      simp only [AcceptPhase.held, List.count_nil, Channel.pending_send,
        List.count_append] at hset
      simp only [places, spawnReader]
      omega
    · exact List.mem_append_left _ hc
    · exact List.mem_append_right _ List.mem_cons_self
  | shortDatagram => exact h
  | readDatagram _ hreader =>
    exact registered_of_same h rfl rfl rfl hsub rfl rfl
      (heard_of_heard (readers_setReader (hreads hreader) _) hstreams hsilent)
  | newDatagram _ hreader =>
    exact registered_of_same h rfl rfl rfl hsub rfl rfl
      (heard_of_heard (readers_setReader (hreads hreader) _) hstreams hsilent)
  | sendDatagram _ hreader =>
    refine registered_of_same h rfl rfl rfl hsub rfl rfl
      (heard_of_heard (readers_setReader (hreads hreader) _) hstreams
        ⟨_, Channel.log_sendAll _ _, fun m hm => ?_⟩)
    rw [List.mem_singleton.mp hm]
    exact Or.inl (hreads hreader)
  | acceptStream _ hreader =>
    refine registered_of_same h rfl rfl rfl hsub rfl rfl
      (heard_of_heard (fun c hc => hc) (fun r hr => ?_) hsilent)
    rcases List.mem_append.mp hr with hr | hr
    · exact hstreams r hr
    · rw [List.mem_singleton.mp hr]
      exact Or.inl hreader
  | @readStream k chunk rest reader events _ hreader hread =>
    have hmem : reader ∈ s.streamReaders := List.mem_of_getElem? hreader
    refine registered_of_same h rfl rfl rfl hsub rfl rfl
      (heard_of_heard (fun c hc => hc) (fun r hr => ?_)
        ⟨_, Channel.log_sendAll _ _, fun m hm => ?_⟩)
    · rcases List.mem_or_eq_of_mem_set hr with hr | rfl
      · exact hstreams r hr
      · exact hstreams reader hmem
    · obtain ⟨e, he, hdelivered⟩ := List.mem_filterMap.mp hm
      obtain ⟨data, rfl⟩ := streamReadingLoop_events hread e he
      cases hdelivered
      exact hstreams reader hmem

/-! ## Replies -/

theorem registered_of_run {actions : List Action} {s : QuicBackend}
    (hrun : Run.run step init actions = some s) : Registered s :=
  Run.invariant_of_run (fun _ _ _ => registered_step) registered_init hrun

/-- A connection in the channel is not with the loop. -/
theorem Registered.not_mem_pending {s : QuicBackend} (h : Registered s) {c : Uuid}
    (hc : c ∈ s.connections) : c ∉ s.connReg.pending := by
  intro hpending
  exact List.disjoint_of_nodup_append h.nodup hc (List.mem_append_right _ hpending)

/-- In every run, the reply to a reliable `Message` is written exactly when the loop has
taken the connection, if it came over the channel, and a registration of the stream. -/
theorem reply_written_iff (actions : List Action) (s t : QuicBackend) (env : CommandEnv) (c : Uuid)
    (stream : GameStream) (data : Bytes) (hrun : Run.run step init actions = some s)
    (hpolled : ∃ received, .message c stream received ∈ s.peer.eventRx.received)
    (hreliable : stream.isReliable = true)
    (hclose : .closeStream c stream.streamId ∉ s.peer.cmdTx.received)
    (hsend : env.sendError = none)
    (hnext : s.peer.cmdTx.pending.head? = some (.send c stream data))
    (hstep : s.step (.command env) = some t) :
    (c ∈ s.connections ∧ ∃ sendStream,
        s.reliableSendStreams (c, stream.streamId) = some sendStream ∧
        t.reliableSendStreams (c, stream.streamId) =
          some { written := sendStream.written ++ frame data }) ↔
      c ∉ s.connReg.pending ∧ ∃ r ∈ s.streamReg.received, r.Opens (c, stream.streamId) := by
  have hreg := registered_of_run hrun
  constructor
  · rintro ⟨hc, sendStream, hkey, -⟩
    refine ⟨hreg.not_mem_pending hc, hreg.opened _ ?_⟩
    rw [hkey]
    exact Option.some_ne_none _
  · rintro ⟨hpending, r, hr, hopens⟩
    obtain ⟨received, hpolled⟩ := hpolled
    -- The `Message` came from a reader, and a reader starts behind its connection.
    have hknown : s.Known c := hreg.heard c (Or.inr (Or.inr
      ⟨_, List.mem_filterMap.mpr ⟨_, Channel.mem_log_of_received hpolled, rfl⟩, rfl⟩))
    have hc : c ∈ s.connections := hknown.resolve_right hpending
    obtain ⟨sendStream, hkey⟩ := Option.ne_none_iff_exists'.mp
      ((hreg.kept r hr _ hopens).resolve_right hclose)
    refine ⟨hc, sendStream, hkey, ?_⟩
    obtain ⟨rest, hrest⟩ := List.head?_eq_some_iff.mp hnext
    simp only [step, Channel.recv_of_pending hrest] at hstep
    split at hstep
    · next cmd tx hloop hrecv =>
      cases hrecv
      simp only [processCommand, if_pos hc, hreliable, ↓reduceIte, hkey, hsend] at hstep
      cases hstep
      exact Function.update_self _ _ _
    · cases hstep

/-- The peer of a client opens stream 1 and sends one payload, and the loop takes the
registration before the application replies. -/
def registeredReply : List Action :=
  [.issue (.connect "127.0.0.1" 8080), .command .allOk, .poll, .acceptStream Uuid.nil [0, 1],
    .registerStream, .poll, .readStream 0 (frame [7]), .poll,
    .issue (.send Uuid.nil (GameStream.new 1 .reliable) [7])]

theorem reply_written_registered :
    ∃ s t, Run.run step init registeredReply = some s ∧ s.step (.command .allOk) = some t ∧
      Uuid.nil ∈ s.connections ∧ ∃ sendStream,
        s.reliableSendStreams (Uuid.nil, (GameStream.new 1 .reliable).streamId) = some sendStream ∧
        t.reliableSendStreams (Uuid.nil, (GameStream.new 1 .reliable).streamId) =
          some { written := sendStream.written ++ frame [7] } := by
  refine ⟨_, _, rfl, rfl, ?_⟩
  exact (reply_written_iff registeredReply _ _ .allOk Uuid.nil (GameStream.new 1 .reliable) [7] rfl
    ⟨[7], by decide +kernel⟩ (by decide) (by decide +kernel) rfl rfl rfl).mpr (by decide +kernel)

/-- An accepted client opens stream 1 and sends one payload, and the server replies
while the registration of the stream is in its channel. -/
def quickReply : List Action :=
  [.issue (.bind "0.0.0.0" 8080), .command .allOk, .announce 0 Uuid.nil, .handOver 0,
    .registerConnection, .acceptStream Uuid.nil [0, 1], .readStream 0 (frame [7]), .poll, .poll,
    .issue (.send Uuid.nil (GameStream.new 1 .reliable) [7])]

/-- The reply to a polled `Message` is dropped: the loop finds no stream, and nothing
changes but the command channel. -/
theorem reply_lost :
    ∃ s t, Run.run step init quickReply = some s ∧
      .message Uuid.nil (GameStream.new 1 .reliable) [7] ∈ s.peer.eventRx.received ∧
      (GameStream.new 1 .reliable).isReliable = true ∧
      .closeStream Uuid.nil (GameStream.new 1 .reliable).streamId ∉ s.peer.cmdTx.log ∧
      s.peer.cmdTx.pending = [.send Uuid.nil (GameStream.new 1 .reliable) [7]] ∧
      s.step (.command .allOk) = some t ∧
      s.reliableSendStreams (Uuid.nil, (GameStream.new 1 .reliable).streamId) = none ∧
      t.reliableSendStreams (Uuid.nil, (GameStream.new 1 .reliable).streamId) = none ∧
      t.peer.eventRx = s.peer.eventRx ∧ t.peer.cmdTx.pending = [] := by
  refine ⟨_, _, rfl, ?_, rfl, ?_, rfl, rfl, rfl, rfl, rfl, rfl⟩
  · decide +kernel
  · decide +kernel

end QuicBackend

end Quic
end GameSockets
