/-
Which announced streams can be sent on.

`CreateStream` asks the reliability, the loop that takes a registration asks the low bits
of the id and whether there is a sending half, and `Send` asks the low bits alone.  An
`Ordered` stream and a datagram whose id has one of the bits set are announced without
a sending half.
-/
import GameSockets.Quic.Events

namespace GameSockets
namespace Quic

open Library History

namespace QuicBackend

/-- The stream has been announced and not closed since. -/
def Open (s : QuicBackend) (c : Uuid) (st : GameStream) : Prop :=
  Since (· = .streamCreated c st) (· = .streamClosed c st) s.peer.eventRx.log

/-- A `Send` on an open stream of a connection finds the stream, and does something. -/
def Usable (s : QuicBackend) : Prop :=
  ∀ c st, s.Open c st → c ∈ s.connections →
    (st.isReliable = true → s.reliableSendStreams (c, st.streamId) ≠ none) ∧
      ∀ env data, processCommand env s (.send c st data) ≠ some s

/-- The loop has the stream in one of its tables exactly while it is open. -/
def Filed (s : QuicBackend) : Prop :=
  ∀ c st, s.Open c st ↔ s.reliableSendStreams (c, st.streamId) ≠ none ∨
    (c, st.streamId) ∈ s.unreliableSendStreams

theorem filed_init : Filed init := by
  intro c st
  refine iff_of_false (not_since_nil _ _) ?_
  rintro (h | h)
  · exact h rfl
  · cases h

theorem open_append {s t : QuicBackend} {e : GameNetworkEvent}
    (hlog : t.peer.eventRx.log = s.peer.eventRx.log ++ [e]) (c : Uuid) (st : GameStream) :
    t.Open c st ↔ e = .streamCreated c st ∨ e ≠ .streamClosed c st ∧ s.Open c st := by
  rw [Open, hlog, since_append_singleton, Open]

theorem filed_step {s t : QuicBackend} {a : Action} (h : Filed s) (hstep : s.step a = some t) :
    Filed t := by
  intro c st
  cases files_of_step hstep with
  | other _ hlog hquiet _ htable hkeys =>
    rw [Open, hlog, since_append_of_neither fun e he => hquiet e he c st, ← Open, h, hkeys, ne_eq,
      ne_eq, htable]
  | @closes env c' i tx _ hlog _ htable hkeys =>
    rw [open_append hlog, htable, hkeys, h]
    by_cases heq : (c, st.streamId) = (c', i)
    · obtain ⟨rfl, rfl⟩ := Prod.mk.inj heq
      simp
    · have hne : ¬ (c' = c ∧ { streamId := i } = st) := by
        rintro ⟨rfl, rfl⟩
        exact heq rfl
      rw [Function.update_of_ne heq]
      simp [hne, heq]
  | @reliable r reg half _ _ _ hlog _ htable hkeys =>
    rw [open_append hlog, htable, hkeys, h, GameNetworkEvent.streamCreated.injEq,
      ← StreamRegistration.key_eq_iff]
    by_cases heq : r.key = (c, st.streamId)
    · simp [heq]
    · rw [Function.update_of_ne (Ne.symm heq)]
      simp [heq]
  | known _ _ _ hlog _ htable hkeys => rw [Open, hlog, ← Open, h, htable, hkeys]
  | @unreliable r reg _ _ _ hlog _ htable hkeys =>
    rw [open_append hlog, htable, hkeys, h, GameNetworkEvent.streamCreated.injEq,
      ← StreamRegistration.key_eq_iff, List.mem_append, List.mem_singleton,
      eq_comm (b := r.key)]
    by_cases heq : r.key = (c, st.streamId)
    · simp [heq]
    · simp [heq]

/-- What adds an event changes the state. -/
theorem ne_of_emit {s t : QuicBackend} {e : GameNetworkEvent}
    (hlog : t.peer.eventRx.log = s.peer.eventRx.log ++ [e]) : t ≠ s := by
  rintro rfl
  simp at hlog

/-- A `Send` changes the state unless it is dropped. -/
theorem send_ne_self_iff {s : QuicBackend} {c : Uuid} {st : GameStream} (hc : c ∈ s.connections)
    (env : CommandEnv) (data : Bytes) :
    processCommand env s (.send c st data) ≠ some s ↔
      (st.isReliable = true → s.reliableSendStreams (c, st.streamId) ≠ none) := by
  rw [processCommand, if_pos hc]
  cases hreliable : st.isReliable with
  | false =>
    refine iff_of_true (fun heq => ?_) (by simp)
    cases hsend : env.sendError with
    | none =>
      simp only [hsend, Bool.false_eq_true, ↓reduceIte, Option.some.injEq] at heq
      simpa using congrArg QuicBackend.datagrams heq
    | some e =>
      simp only [hsend, Bool.false_eq_true, ↓reduceIte, Option.some.injEq] at heq
      exact ne_of_emit (Channel.log_sendAll _ _) heq
  | true =>
    cases hstream : s.reliableSendStreams (c, st.streamId) with
    | none => simp
    | some half =>
      refine iff_of_true (fun heq => ?_) (by simp)
      simp only [↓reduceIte, Option.some.injEq] at heq
      cases hsend : env.sendError with
      | none =>
        rw [hsend] at heq
        have hlength := congrArg (fun u : QuicBackend =>
          (u.reliableSendStreams (c, st.streamId)).map fun half => half.written.length) heq
        simp [writeAll, hstream, frame] at hlength
      | some e =>
        rw [hsend] at heq
        exact ne_of_emit (Channel.log_sendAll _ _) heq

/-- No stream of `u` that a `Send` takes for reliable is without a sending half. -/
def Whole (s : QuicBackend) (u : Uuid) : Prop :=
  ∀ i, (u, i) ∈ s.unreliableSendStreams → ({ streamId := i } : GameStream).isReliable = true →
    s.reliableSendStreams (u, i) ≠ none

/-- The connections that an action adds to those of the loop. -/
def joins (s : QuicBackend) : Action → List Uuid
  | .registerConnection =>
    match s.connReg.recv with
    | some (uuid, _) => [uuid]
    | none => []
  | .command env =>
    match s.peer.cmdTx.recv with
    | some (.connect _ _, _) => if env.connectOk then [env.newV4] else []
    | _ => []
  | _ => []

/-- A registration without a sending half, for a stream that a `Send` takes for reliable,
is taken only where the stream has one; and a connection joins the others whole. -/
def Halved (s : QuicBackend) : Action → Prop
  | .registerStream =>
    match s.streamReg.recv with
    | some (r, _) =>
      r.connection ∈ s.connections → r.stream.isReliable = true → r.sendStream = none →
        s.reliableSendStreams r.key ≠ none
    | none => True
  | a => ∀ u ∈ s.joins a, s.Whole u

theorem connections_of_step {s t : QuicBackend} {a : Action} (hstep : s.step a = some t) :
    t.connections = s.joins a ++ s.connections := by
  cases steps_of_step hstep with
  | registerConnection _ hrecv => simp [joins, hrecv]
  | @registerStream r reg =>
    exact connections_processRegistration { s with streamReg := reg } r
  | command _ hrecv hcommand =>
    simp only [joins, hrecv]
    cases hcommand with
    | connect hok => simp [hok]
    | connectFails hfails => simp [hfails, stop]
    | send => cases CommandEnv.sendError _ <;> rfl
    | bind => rfl
    | bindFails => rfl
    | noStream => rfl
    | datagram => rfl
    | datagramFails => rfl
    | noConnection => rfl
    | shutdown => rfl
    | openStream => rfl
    | openFails => rfl
    | openUnconnected => rfl
    | createStream => rfl
    | closeStream => rfl
  | issue => rfl
  | poll => rfl
  | announce => rfl
  | handOver => rfl
  | shortDatagram => rfl
  | readDatagram => rfl
  | newDatagram => rfl
  | sendDatagram => rfl
  | acceptStream => rfl
  | readStream => rfl

/-- A `Send` is lost exactly on a stream that is filed as unreliable, and that the `Send`
takes for reliable. -/
theorem usable_iff {s : QuicBackend} (h : Filed s) :
    s.Usable ↔ ∀ c ∈ s.connections, s.Whole c := by
  constructor
  · intro husable c hc i hi hreliable
    exact (husable c { streamId := i } ((h c { streamId := i }).mpr (Or.inr hi)) hc).1 hreliable
  · intro hwhole c st hopen hc
    have hhalf : st.isReliable = true → s.reliableSendStreams (c, st.streamId) ≠ none := by
      intro hreliable
      exact ((h c st).mp hopen).elim id fun hi => hwhole c hc st.streamId hi hreliable
    exact ⟨hhalf, fun env data => (send_ne_self_iff hc env data).mpr hhalf⟩

/-- A step that leaves the two tables alone. -/
theorem whole_of_same {s t : QuicBackend}
    (htable : ∀ key, t.reliableSendStreams key = none ↔ s.reliableSendStreams key = none)
    (hkeys : t.unreliableSendStreams = s.unreliableSendStreams) (c : Uuid) :
    t.Whole c ↔ s.Whole c := by
  simp only [Whole, hkeys, ne_eq, htable]

theorem halved_of_joins {s : QuicBackend} {a : Action} (hother : a ≠ .registerStream) :
    s.Halved a ↔ ∀ u ∈ s.joins a, s.Whole u := by
  cases a with
  | registerStream => exact absurd rfl hother
  | _ => exact Iff.rfl

/-- From a state in which every connection is whole, a step leads to another one exactly
when it is halved. -/
theorem whole_step_iff {s t : QuicBackend} {a : Action} (h : ∀ c ∈ s.connections, s.Whole c)
    (hstep : s.step a = some t) : (∀ c ∈ t.connections, t.Whole c) ↔ s.Halved a := by
  rw [connections_of_step hstep]
  cases files_of_step hstep with
  | other hother _ _ _ htable hkeys =>
    simp only [whole_of_same htable hkeys, List.mem_append, or_imp, forall_and]
    rw [halved_of_joins hother]
    exact and_iff_left h
  | @closes env c i tx hrecv _ _ htable hkeys =>
    have hnone : s.joins (.command env) = [] := by simp only [joins, hrecv]
    rw [halved_of_joins (by simp), hnone]
    refine iff_of_true (fun c' hc' i' hi' hreliable => ?_) (by simp)
    rw [hkeys, List.mem_filter, decide_eq_true_eq] at hi'
    rw [htable, Function.update_of_ne hi'.2]
    exact h c' hc' i' hi'.1 hreliable
  | @reliable r reg half hrecv _ hhalf _ _ htable hkeys =>
    have hhalved : s.Halved .registerStream := by simp [Halved, hrecv, hhalf]
    refine iff_of_true (fun c' hc' i' hi' hreliable => ?_) hhalved
    rw [htable]
    by_cases heq : (c', i') = r.key
    · rw [heq, Function.update_self]
      exact Option.some_ne_none half
    · rw [Function.update_of_ne heq]
      exact h c' hc' i' (hkeys ▸ hi') hreliable
  | @known r reg hrecv _ hmem _ _ htable hkeys =>
    have hsame := whole_of_same (fun key => by rw [htable]) hkeys
    refine iff_of_true (fun c' hc' => (hsame c').mpr (h c' hc')) ?_
    simp only [Halved, hrecv]
    exact fun hc hreliable _ => h r.connection hc r.stream.streamId hmem hreliable
  | @unreliable r reg hrecv hother _ _ _ htable hkeys =>
    simp only [Halved, hrecv]
    constructor
    · intro hwhole hc hreliable _
      have hmem : (r.connection, r.stream.streamId) ∈ t.unreliableSendStreams := by
        rw [hkeys]
        exact List.mem_append_right _ List.mem_cons_self
      have hhalf := hwhole r.connection hc r.stream.streamId hmem hreliable
      rw [htable] at hhalf
      exact hhalf
    · intro hhalved c' hc' i' hi' hreliable
      rw [htable]
      rw [hkeys, List.mem_append, List.mem_singleton] at hi'
      rcases hi' with hi' | hi'
      · exact h c' hc' i' hi' hreliable
      · obtain ⟨rfl, rfl⟩ := Prod.mk.inj hi'
        exact hhalved hc' hreliable (hother hreliable)

/-- In every state of a run each `Send` on an open stream of a connection reaches the
transport exactly when every step of the run is halved. -/
theorem announced_usable_iff (actions : List Action) (s : QuicBackend)
    (hrun : Run.run step init actions = some s) :
    Run.Throughout step Usable init actions ↔ Run.Along step Halved init actions := by
  have hgood : ∀ (s : QuicBackend) a t, Filed s → s.Usable → s.step a = some t →
      (t.Usable ↔ s.Halved a) := by
    intro s a t hfiled husable hstep
    rw [usable_iff (filed_step hfiled hstep)]
    exact whole_step_iff ((usable_iff hfiled).mp husable) hstep
  have hstart : init.Usable := (usable_iff filed_init).mpr fun c hc => by cases hc
  exact Run.throughout_iff_along (fun _ _ _ => filed_step) hgood actions filed_init hstart hrun

theorem whole_iff_forall_mem {s : QuicBackend} {u : Uuid} :
    s.Whole u ↔ ∀ key ∈ s.unreliableSendStreams, key.1 = u →
      ({ streamId := key.2 } : GameStream).isReliable = true →
        s.reliableSendStreams key ≠ none := by
  constructor
  · rintro h ⟨u', i⟩ hkey rfl hreliable
    exact h i hkey hreliable
  · exact fun h i hi hreliable => h (u, i) hi rfl hreliable

instance decidableWhole (s : QuicBackend) (u : Uuid) : Decidable (s.Whole u) :=
  decidable_of_iff' _ whole_iff_forall_mem

instance decidableHalved (s : QuicBackend) (a : Action) : Decidable (s.Halved a) := by
  unfold Halved
  split
  · split <;> infer_instance
  · infer_instance

/-- A reliable stream is created, announced and sent on. -/
def createReliable : List Action :=
  [.issue (.connect "127.0.0.1" 8080), .command .allOk,
    .issue (.createStream Uuid.nil 1 .reliable), .command .allOk, .registerStream,
    .issue (.send Uuid.nil (GameStream.new 1 .reliable) [7])]

theorem announced_usable_reliable :
    ∃ s, Run.run step init createReliable = some s ∧
      Run.Throughout step Usable init createReliable :=
  ⟨_, rfl, (announced_usable_iff createReliable _ rfl).mpr (by decide +kernel)⟩

/-- An ordered stream is created and announced, and sent on. -/
def createOrdered : List Action :=
  [.issue (.connect "127.0.0.1" 8080), .command .allOk,
    .issue (.createStream Uuid.nil 1 .ordered), .command .allOk, .registerStream,
    .issue (.send Uuid.nil (GameStream.new 1 .ordered) [7])]

/-- The `Send` on the ordered stream is dropped: the stream is open and its connection
there, and nothing goes to the transport. -/
theorem ordered_send_dropped :
    ∃ s t, Run.run step init createOrdered = some s ∧
      s.Open Uuid.nil (GameStream.new 1 .ordered) ∧ Uuid.nil ∈ s.connections ∧
      s.peer.cmdTx.pending = [.send Uuid.nil (GameStream.new 1 .ordered) [7]] ∧
      s.step (.command .allOk) = some t ∧ t.reliableSendStreams = s.reliableSendStreams ∧
      t.datagrams = s.datagrams ∧ t.peer.eventRx = s.peer.eventRx ∧ ¬ s.Usable := by
  let created : GameNetworkEvent := .streamCreated Uuid.nil (GameStream.new 1 .ordered)
  have hopen : Since (· = created) (· = .streamClosed Uuid.nil (GameStream.new 1 .ordered))
      [.connected Uuid.nil, created] := ⟨[.connected Uuid.nil], _, [], rfl, rfl, by simp⟩
  refine ⟨_, _, rfl, hopen, by decide +kernel, rfl, rfl, rfl, rfl, rfl, fun husable => ?_⟩
  exact (husable Uuid.nil (GameStream.new 1 .ordered) hopen (by decide +kernel)).1 rfl rfl

end QuicBackend

end Quic
end GameSockets
