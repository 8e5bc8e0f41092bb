/-
An application at its handle: it takes events off one channel and puts commands into the other.

What it says to a connection and hears from it are the payloads that carry the connection's UUID.
-/
import GameSockets.Basic

namespace GameSockets

open Library

/-- What an application does with its handle: it takes events, and issues commands that are
`ok`. -/
structure GamePeer.Uses (ok : BackendCommand → Prop) (p p' : GamePeer) : Prop where
  events : p'.eventRx.log = p.eventRx.log
  issued : ∃ new, p'.cmdTx = p.cmdTx.sendAll new ∧ ∀ cmd ∈ new, ok cmd

namespace GamePeer

section Uses

variable {ok ok' : BackendCommand → Prop} {p p' p'' : GamePeer}

theorem Uses.refl (ok : BackendCommand → Prop) (p : GamePeer) : Uses ok p p := by
  refine ⟨rfl, [], ?_, List.forall_mem_nil ok⟩
  rw [Channel.sendAll, List.append_nil]

theorem Uses.trans (h : Uses ok p p') (h' : Uses ok p' p'') : Uses ok p p'' := by
  obtain ⟨new, hnew, hok⟩ := h.issued
  obtain ⟨new', hnew', hok'⟩ := h'.issued
  refine ⟨h'.events.trans h.events, new ++ new', ?_, ?_⟩
  · rw [hnew', hnew, Channel.sendAll, Channel.sendAll, Channel.sendAll, List.append_assoc]
  · intro cmd hcmd
    exact (List.mem_append.mp hcmd).elim (hok cmd) (hok' cmd)

theorem Uses.mono (h : Uses ok p p') (hok : ∀ cmd, ok cmd → ok' cmd) : Uses ok' p p' := by
  obtain ⟨new, hnew, hall⟩ := h.issued
  exact ⟨h.events, new, hnew, fun cmd hcmd => hok cmd (hall cmd hcmd)⟩

/-- A poll. -/
theorem uses_poll {e : GameNetworkEvent} {rx : Channel GameNetworkEvent}
    (hrecv : p.eventRx.recv = some (e, rx)) : Uses ok p { p with eventRx := rx } := by
  refine ⟨Channel.log_recv hrecv, [], ?_, List.forall_mem_nil ok⟩
  rw [Channel.sendAll, List.append_nil]

/-- A command. -/
theorem uses_issue {cmd : BackendCommand} (hok : ok cmd) (hevents : p'.eventRx = p.eventRx)
    (hcmd : p'.cmdTx = p.cmdTx.send cmd) : Uses ok p p' := by
  refine ⟨by rw [hevents], [cmd], hcmd, fun c hc => ?_⟩
  rw [List.mem_singleton.mp hc]
  exact hok

theorem Uses.log (h : Uses ok p p') :
    ∃ new, p'.cmdTx.log = p.cmdTx.log ++ new ∧ ∀ cmd ∈ new, ok cmd := by
  obtain ⟨new, hnew, hok⟩ := h.issued
  exact ⟨new, by rw [hnew, Channel.log_sendAll], hok⟩

theorem Uses.received (h : Uses ok p p') : p'.cmdTx.received = p.cmdTx.received := by
  obtain ⟨new, hnew, -⟩ := h.issued
  rw [hnew, Channel.sendAll]

end Uses

end GamePeer

/-! ## One connection -/

/-- What a transfer carries over the connection `uuid`. -/
def carried (uuid : Uuid) (m : Transfer) : Option (GameStream × Bytes) :=
  if m.connection = uuid then some (m.stream, m.data) else none

/-- What commands ask to send over the connection `uuid`. -/
def sendsTo (uuid : Uuid) (cmds : List BackendCommand) : List (GameStream × Bytes) :=
  (cmds.filterMap BackendCommand.sent).filterMap (carried uuid)

/-- What events deliver from the connection `uuid`. -/
def heardOn (uuid : Uuid) (events : List GameNetworkEvent) : List (GameStream × Bytes) :=
  (events.filterMap GameNetworkEvent.delivered).filterMap (carried uuid)

theorem carried_eq_some {uuid : Uuid} {m : Transfer} {x : GameStream × Bytes} :
    carried uuid m = some x ↔ m = { connection := uuid, stream := x.1, data := x.2 } := by
  unfold carried
  constructor
  · intro h
    split at h
    · next hconn =>
      cases h
      rw [← hconn]
    · cases h
  · rintro rfl
    rw [if_pos rfl]

theorem sendsTo_append (uuid : Uuid) (cmds new : List BackendCommand) :
    sendsTo uuid (cmds ++ new) = sendsTo uuid cmds ++ sendsTo uuid new := by
  rw [sendsTo, List.filterMap_append, List.filterMap_append]
  rfl

theorem sendsTo_send (uuid : Uuid) (stream : GameStream) (data : Bytes) :
    sendsTo uuid [.send uuid stream data] = [(stream, data)] :=
  List.filterMap_cons_some (if_pos rfl)

theorem sendsTo_send_of_ne {c uuid : Uuid} (hc : c ≠ uuid) (stream : GameStream) (data : Bytes) :
    sendsTo uuid [.send c stream data] = [] :=
  List.filterMap_cons_none (if_neg hc)

theorem mem_sendsTo {uuid : Uuid} {cmds : List BackendCommand} {x : GameStream × Bytes} :
    x ∈ sendsTo uuid cmds ↔ .send uuid x.1 x.2 ∈ cmds := by
  simp only [sendsTo, List.mem_filterMap, carried_eq_some, BackendCommand.sent_eq_some]
  constructor
  · rintro ⟨m, ⟨cmd, hcmd, rfl⟩, rfl⟩
    exact hcmd
  · intro hcmd
    exact ⟨_, ⟨_, hcmd, rfl⟩, rfl⟩

theorem heardOn_append (uuid : Uuid) (events new : List GameNetworkEvent) :
    heardOn uuid (events ++ new) = heardOn uuid events ++ heardOn uuid new := by
  rw [heardOn, List.filterMap_append, List.filterMap_append]
  rfl

theorem heardOn_message (uuid : Uuid) (stream : GameStream) (data : Bytes) :
    heardOn uuid [.message uuid stream data] = [(stream, data)] :=
  List.filterMap_cons_some (if_pos rfl)

theorem received_isPrefix {α : Type} (c : Channel α) : c.received <+: c.log :=
  List.prefix_append _ _

theorem sendsTo_isPrefix (uuid : Uuid) (c : Channel BackendCommand) :
    sendsTo uuid c.received <+: sendsTo uuid c.log :=
  ((received_isPrefix c).filterMap _).filterMap _

theorem heardOn_isPrefix (uuid : Uuid) (c : Channel GameNetworkEvent) :
    heardOn uuid c.received <+: heardOn uuid c.log :=
  ((received_isPrefix c).filterMap _).filterMap _

/-- A payload of the connection `uuid`. -/
def onWire (uuid : Uuid) (x : GameStream × Bytes) : Transfer :=
  { connection := uuid, stream := x.1, data := x.2 }

theorem map_onWire {uuid : Uuid} {ms : List Transfer} (h : ∀ m ∈ ms, m.connection = uuid) :
    (ms.filterMap (carried uuid)).map (onWire uuid) = ms := by
  induction ms with
  | nil => rfl
  | cons m ms ih =>
    have hm : carried uuid m = some (m.stream, m.data) := if_pos (h m List.mem_cons_self)
    have hms := ih fun m' hm' => h m' (List.mem_cons_of_mem _ hm')
    rw [List.filterMap_cons_some hm, List.map_cons, hms]
    rw [onWire, ← h m List.mem_cons_self]

end GameSockets
