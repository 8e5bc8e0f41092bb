/-
One connection of `GnsBackend`, from the end of one peer.

The backend sends and receives on a handle as long as the tables hold the UUID that was drawn
for it.  Before and after that time it drops the `Send`s to the UUID, and what arrives under the
handle is dropped or belongs to another connection.
-/
import GameSockets.Gns.Exit
import GameSockets.Gns.Registry
import GameSockets.Handle
import GameSockets.Library.Gate

namespace GameSockets
namespace Gns

open Library

/-- The handle that GNS has for the connection, and the UUID drawn for it. -/
structure End (Handle : Type) where
  conn : Handle
  uuid : Uuid

/-- A message that GNS is to transport. -/
structure Parcel where
  flags : SendFlags
  lane : Nat
  bytes : Bytes
deriving DecidableEq

def packetOf (x : GameStream × Bytes) : Bytes := packet x.1 x.2

def overReliable (x : GameStream × Bytes) : Bool := x.1.isReliable

def parcelOf (x : GameStream × Bytes) : Parcel :=
  { flags := if overReliable x then .reliable else .unreliable,
    lane := if overReliable x then 0 else 1,
    bytes := packetOf x }

/-- What the bytes of a message say. -/
def unpack (bytes : Bytes) : GameStream × Bytes :=
  ({ streamId := getU16 (bytes.take 2) }, bytes.drop 2)

theorem unpack_packetOf (x : GameStream × Bytes) : unpack (packetOf x) = x := by
  have hlen : (putU16 x.1.streamId).length = 2 := length_putU16 _
  rw [unpack, packetOf, packet, List.take_left' hlen, List.drop_left' hlen, getU16_putU16]

theorem two_le_length_packetOf (x : GameStream × Bytes) : 2 ≤ (packetOf x).length := by
  rw [packetOf, packet, List.length_append, length_putU16]
  omega

section Connection

variable {Handle : Type}

/-- What a command asks to send to the UUID. -/
def Input.asks (uuid : Uuid) : Input Handle → List (GameStream × Bytes)
  | .command _ cmd => sendsTo uuid [cmd]
  | _ => []

variable [DecidableEq Handle]

/-- What arrives under the handle. -/
def Input.brings (conn : Handle) : Input Handle → List (GameStream × Bytes)
  | .message c payload => if c = conn ∧ 2 ≤ payload.length then [unpack payload] else []
  | _ => []

def SocketCall.parcel (conn : Handle) : SocketCall Handle → Option Parcel
  | .sendMessage c flags lane bytes =>
    if c = conn then some { flags := flags, lane := lane, bytes := bytes } else none
  | _ => none

/-- The UUID is drawn for the handle, and for no other one. -/
def Own (e : End Handle) : Input Handle → Prop
  | .event env conn _ _ => env.newV4 = e.uuid → conn = e.conn
  | _ => True

namespace GnsRun

/-- The time of a UUID. -/
def gate (s : GnsRun Handle) (uuid : Uuid) : Gate :=
  if .connected uuid ∉ s.events then .shut
  else if .disconnected uuid ∉ s.events then .opened
  else .closed

/-- What the backend gives to GNS for the connection on its way from `s` to `t`. -/
def posted (e : End Handle) (s t : GnsRun Handle) : List Parcel :=
  if s.backend.handleToUuid e.conn = some e.uuid then
    (t.calls.drop s.calls.length).filterMap (SocketCall.parcel e.conn)
  else []

/-- What the tables hold of the connection. -/
structure Known (e : End Handle) (s : GnsRun Handle) : Prop where
  registered : Registered s
  own : ∀ conn, s.backend.handleToUuid conn = some e.uuid → conn = e.conn
  socket : ∀ conn uuid, s.backend.handleToUuid conn = some uuid → s.backend.socket ≠ none

/-- A step of the backend, as far as the connection goes: what it is asked to send and what
arrives for it passes while its UUID is in the tables. -/
structure Advances (e : End Handle) (s t : GnsRun Handle) (asked came : List (GameStream × Bytes)) :
    Prop where
  moves : Gate.Moves (s.gate e.uuid) (t.gate e.uuid)
  heard : heardOn e.uuid t.events = heardOn e.uuid s.events ++ (s.gate e.uuid).admitted came
  posted : posted e s t = (s.gate e.uuid).admitted (asked.map parcelOf)

variable {e : End Handle} {s t : GnsRun Handle} {parse : String → Option Ipv4Addr}

omit [DecidableEq Handle] in
theorem known_init (e : End Handle) : Known e init :=
  ⟨registered_init, nofun, nofun⟩

omit [DecidableEq Handle] in
theorem gate_eq_opened_iff (h : Registered s) (uuid : Uuid) :
    s.gate uuid = .opened ↔ s.backend.uuidToHandle uuid ≠ none := by
  rw [h.live, gate]
  split_ifs with hconnected hdisconnected <;> simp_all

omit [DecidableEq Handle] in
/-- The connection's time is the time that its handle has its UUID. -/
theorem Known.opened_iff (h : Known e s) :
    s.gate e.uuid = .opened ↔ s.backend.handleToUuid e.conn = some e.uuid := by
  rw [gate_eq_opened_iff h.registered]
  constructor
  · intro hlive
    obtain ⟨conn, hconn⟩ := Option.ne_none_iff_exists'.mp hlive
    have hforward := (h.registered.inverse conn e.uuid).mpr hconn
    rw [← h.own conn hforward]
    exact hforward
  · intro hconn
    rw [(h.registered.inverse e.conn e.uuid).mp hconn]
    exact Option.some_ne_none _

omit [DecidableEq Handle] in
/-- Nothing begins or ends. -/
theorem gate_of_passing {new : List GameNetworkEvent} (hevents : t.events = s.events ++ new)
    {uuid : Uuid} (hpassing : ∀ ev ∈ new, ev ≠ .connected uuid ∧ ev ≠ .disconnected uuid) :
    t.gate uuid = s.gate uuid := by
  have hconnected : .connected uuid ∉ new := fun hu => (hpassing _ hu).1 rfl
  have hdisconnected : .disconnected uuid ∉ new := fun hu => (hpassing _ hu).2 rfl
  simp only [gate, hevents, List.mem_append, hconnected, hdisconnected, or_false]

omit [DecidableEq Handle] in
theorem moves_of_passing {new : List GameNetworkEvent} (hevents : t.events = s.events ++ new)
    {uuid : Uuid} (hpassing : ∀ ev ∈ new, ev ≠ .connected uuid ∧ ev ≠ .disconnected uuid) :
    Gate.Moves (s.gate uuid) (t.gate uuid) := by
  rw [gate_of_passing hevents hpassing]
  exact .stays _

/-! ## What goes out -/

omit [DecidableEq Handle] in
/-- The backend does not return at a `Send`. -/
theorem sendsTo_of_fatal {env : CommandEnv} {b : GnsBackend Handle} {cmd : BackendCommand}
    (h : processCommand parse env b cmd = none) (uuid : Uuid) : sendsTo uuid [cmd] = [] := by
  cases cmd with
  | send c stream data => exact (GnsPeer.returns_iff.mp h).elim
  | _ => rfl

/-- A command for a connection in the tables is carried out. -/
theorem parcels_of_command {env : CommandEnv} {b : GnsBackend Handle} {cmd : BackendCommand}
    {r : GnsBackend Handle × Output Handle} (h : processCommand parse env b cmd = some r)
    (hinverse : Registry.Inverse b.handleToUuid b.uuidToHandle) (hsocket : b.socket ≠ none)
    (hconn : b.handleToUuid e.conn = some e.uuid) :
    r.2.calls.filterMap (SocketCall.parcel e.conn) = (sendsTo e.uuid [cmd]).map parcelOf := by
  cases cmd with
  | bind addr port =>
    simp only [processCommand] at h
    split at h <;> cases h
    rfl
  | connect addr port =>
    simp only [processCommand] at h
    split at h <;> cases h <;> rfl
  | send c stream data =>
    simp only [processCommand] at h
    split at h
    · next conn socket hback hsome =>
      cases h
      by_cases hc : c = e.uuid
      · subst hc
        have heq : conn = e.conn := by
          rw [(hinverse e.conn e.uuid).mp hconn] at hback
          exact (Option.some.inj hback).symm
        rw [sendsTo_send]
        exact List.filterMap_cons_some (if_pos heq)
      · have hne : conn ≠ e.conn := by
          rintro rfl
          rw [(hinverse e.conn c).mpr hback] at hconn
          exact hc (Option.some.inj hconn)
        rw [sendsTo_send_of_ne hc]
        exact List.filterMap_cons_none (if_neg hne)
    · next hnone =>
      cases h
      have hc : c ≠ e.uuid := by
        rintro rfl
        obtain ⟨socket, hsome⟩ := Option.ne_none_iff_exists'.mp hsocket
        exact hnone e.conn socket ((hinverse e.conn e.uuid).mp hconn) hsome
      rw [sendsTo_send_of_ne hc]
      rfl
  | createStream c i kind =>
    cases h
    rfl
  | closeStream c i =>
    cases h
    rfl
  | shutdown => cases h

/-- Only commands send. -/
theorem parcels_of_event (env : EventEnv) (b : GnsBackend Handle) (socket : ActiveSocket)
    (conn conn' : Handle) (old new : ConnectionState) :
    (handleEvent env b socket conn old new).2.calls.filterMap (SocketCall.parcel conn') = [] := by
  unfold handleEvent
  split
  · cases socket with
    | server ip port =>
      simp only [ActiveSocket.tryAccept]
      cases env.acceptOk <;> rfl
    | client ip port => rfl
  · dsimp only
    split <;> rfl
  · split <;> rfl
  · split <;> rfl
  · rfl

omit [DecidableEq Handle] in
theorem calls_of_message (b : GnsBackend Handle) (conn : Handle) (payload : Bytes) :
    (handleMessage b conn payload).2.calls = [] := by
  unfold handleMessage
  split
  · split
    · dsimp only
      split <;> rfl
    · rfl
  · rfl

theorem posted_step {a : Input Handle} (h : Known e s) (hstep : step parse s a = some t) :
    posted e s t = (s.gate e.uuid).admitted ((a.asks e.uuid).map parcelOf) := by
  by_cases hconn : s.backend.handleToUuid e.conn = some e.uuid
  · rw [posted, if_pos hconn, h.opened_iff.mpr hconn, Gate.admitted_opened]
    cases a with
    | command env cmd =>
      simp only [step] at hstep
      split at hstep
      · split at hstep
        · next r hcommand =>
          cases hstep
          rw [put, List.drop_left]
          exact parcels_of_command hcommand h.registered.inverse (h.socket _ _ hconn) hconn
        · next hreturns =>
          cases hstep
          rw [List.drop_length, List.filterMap_nil, Input.asks, sendsTo_of_fatal hreturns]
          rfl
      · cases hstep
    | event env conn old new =>
      simp only [step] at hstep
      split at hstep
      · cases hstep
        rw [put, List.drop_left]
        exact parcels_of_event env _ _ conn e.conn old new
      · cases hstep
    | message conn payload =>
      simp only [step] at hstep
      split at hstep
      · cases hstep
        rw [put, List.drop_left, calls_of_message]
        rfl
      · cases hstep
  · rw [posted, if_neg hconn, Gate.admitted_of_ne fun hopen => hconn (h.opened_iff.mp hopen)]

/-! ## Every step -/

/-- A message that arrives passes if it arrives for the connection. -/
theorem heard_received (h : Known e s) {conn : Handle} {uuid : Uuid}
    (hconn : s.backend.handleToUuid conn = some uuid) {payload : Bytes}
    (hlen : 2 ≤ payload.length) :
    heardOn e.uuid [.message uuid (unpack payload).1 (unpack payload).2] =
      (s.gate e.uuid).admitted ((Input.message conn payload).brings e.conn) := by
  have hopen : s.gate e.uuid = .opened ∧ conn = e.conn ↔ uuid = e.uuid := by
    rw [h.opened_iff]
    constructor
    · rintro ⟨hours, rfl⟩
      rw [hconn] at hours
      exact Option.some.inj hours
    · rintro rfl
      have heq := h.own conn hconn
      exact ⟨heq ▸ hconn, heq⟩
  by_cases huuid : uuid = e.uuid
  · obtain ⟨hgate, heq⟩ := hopen.mpr huuid
    rw [hgate, Gate.admitted_opened, Input.brings, if_pos ⟨heq, hlen⟩]
    rw [huuid]
    exact heardOn_message _ _ _
  · have hnone : heardOn e.uuid [.message uuid (unpack payload).1 (unpack payload).2] = [] :=
      List.filterMap_cons_none (if_neg huuid)
    rw [hnone, Input.brings]
    split
    · next hours =>
      exact (Gate.admitted_of_ne (fun hgate => huuid (hopen.mp ⟨hgate, hours.1⟩)) _).symm
    · exact (Gate.admitted_nil _).symm

omit [DecidableEq Handle] in
/-- A connection begins. -/
theorem moves_connected (h : Registered s) {c : Uuid} (hfresh : .connected c ∉ s.events)
    (hevents : t.events = s.events ++ [.connected c]) (uuid : Uuid) :
    Gate.Moves (s.gate uuid) (t.gate uuid) := by
  by_cases hc : c = uuid
  · subst hc
    have hnot : .disconnected c ∉ s.events := fun hd => hfresh (h.ended c hd)
    have hs : s.gate c = .shut := if_pos hfresh
    have ht : t.gate c = .opened := by
      rw [gate, if_neg (by simp [hevents]), if_pos (by simp [hevents, hnot])]
    rw [hs, ht]
    exact .opens
  · exact moves_of_passing hevents (by simp [hc])

omit [DecidableEq Handle] in
/-- A connection ends. -/
theorem moves_disconnected {c : Uuid} (hconnected : .connected c ∈ s.events)
    (hopen : .disconnected c ∉ s.events) (hevents : t.events = s.events ++ [.disconnected c])
    (uuid : Uuid) : Gate.Moves (s.gate uuid) (t.gate uuid) := by
  by_cases hc : c = uuid
  · subst hc
    have hs : s.gate c = .opened := by
      rw [gate, if_neg (not_not.mpr hconnected), if_pos hopen]
    have ht : t.gate c = .closed := by
      rw [gate, if_neg (by simp [hevents, hconnected]), if_neg (by simp [hevents])]
    rw [hs, ht]
    exact .closes
  · exact moves_of_passing hevents (by simp [hc])

omit [DecidableEq Handle] in
theorem heardOn_of_undelivered {new : List GameNetworkEvent} (h : ∀ ev ∈ new, ev.delivered = none)
    (uuid : Uuid) : heardOn uuid new = [] := by
  rw [heardOn, List.filterMap_eq_nil_iff.mpr h, List.filterMap_nil]

/-- A step whose events pass by the connection, and bring nothing. -/
theorem advances_passing {a : Input Handle} {new : List GameNetworkEvent} (h : Known e s)
    (hstep : step parse s a = some t) (hevents : t.events = s.events ++ new)
    (hpassing : ∀ ev ∈ new, Passing ev ∧ ev.delivered = none)
    (hnone : (s.gate e.uuid).admitted (a.brings e.conn) = []) :
    Advances e s t (a.asks e.uuid) (a.brings e.conn) := by
  refine ⟨moves_of_passing hevents fun ev hev => (hpassing ev hev).1 e.uuid, ?_,
    posted_step h hstep⟩
  rw [hevents, heardOn_append, hnone, heardOn_of_undelivered fun ev hev => (hpassing ev hev).2]

theorem advances_step {a : Input Handle} (h : Known e s) (hassumed : Assumed s a)
    (hstep : step parse s a = some t) : Advances e s t (a.asks e.uuid) (a.brings e.conn) := by
  have hposted := posted_step h hstep
  cases steps_of_step hstep with
  | stop => exact advances_passing h hstep (List.append_nil _).symm (by simp) (Gate.admitted_nil _)
  | command hcommand =>
    obtain ⟨-, -, -, hpassing⟩ := processCommand_keeps hcommand
    exact advances_passing h hstep rfl hpassing (Gate.admitted_nil _)
  | @register env socket conn old new calls hsocket hdraws =>
    have hfresh : .connected env.newV4 ∉ s.events := by
      rcases hdraws with ⟨rfl, rfl, -⟩ | ⟨rfl, rfl, -⟩
      · exact hassumed.1
      · exact hassumed.1
    refine ⟨moves_connected h.registered hfresh rfl e.uuid, ?_, hposted⟩
    exact (heardOn_append _ _ _).trans (congrArg _ (Gate.admitted_nil _).symm)
  | @disconnect env conn old new uuid hends hconn =>
    have hlive : s.backend.uuidToHandle uuid ≠ none := by
      rw [(h.registered.inverse conn uuid).mp hconn]
      exact Option.some_ne_none conn
    obtain ⟨hconnected, hopen⟩ := (h.registered.live uuid).mp hlive
    refine ⟨moves_disconnected hconnected hopen rfl e.uuid, ?_, hposted⟩
    exact (heardOn_append _ _ _).trans (congrArg _ (Gate.admitted_nil _).symm)
  | quiet => exact advances_passing h hstep rfl (by simp) (Gate.admitted_nil _)
  | @drop conn payload hdrop =>
    refine advances_passing h hstep rfl (by simp) ?_
    rw [Input.brings]
    split
    · next hours =>
      -- the handle is not in the tables
      refine Gate.admitted_of_ne (fun hgate => ?_) _
      rw [h.opened_iff, ← hours.1] at hgate
      rcases hdrop with hnone | hshort
      · rw [hnone] at hgate
        cases hgate
      · omega
    · exact Gate.admitted_nil _
  | @receive conn payload uuid hconn hlen hknown =>
    refine ⟨moves_of_passing rfl (by simp), ?_, hposted⟩
    exact (heardOn_append _ _ _).trans (congrArg _ (heard_received h hconn hlen))
  | @receiveNew conn payload uuid hconn hlen hnew =>
    refine ⟨moves_of_passing rfl (by simp), ?_, hposted⟩
    exact (heardOn_append _ _ _).trans (congrArg _ (heard_received h hconn hlen))

theorem events_step {a : Input Handle} (hstep : step parse s a = some t) :
    s.events <+: t.events := by
  cases steps_of_step hstep with
  | stop => exact List.prefix_refl _
  | _ => exact List.prefix_append _ _

omit [DecidableEq Handle] in
/-- The tables get nothing new. -/
theorem Known.keeps (h : Known e s) (hregistered : Registered t)
    (htable : ∀ conn uuid, t.backend.handleToUuid conn = some uuid →
      s.backend.handleToUuid conn = some uuid)
    (hsocket : s.backend.socket ≠ none → t.backend.socket ≠ none) : Known e t :=
  ⟨hregistered, fun conn hconn => h.own conn (htable conn _ hconn),
    fun conn uuid hconn => hsocket (h.socket conn uuid (htable conn uuid hconn))⟩

omit [DecidableEq Handle] in
/-- A command leaves the backend with a socket. -/
theorem socket_of_command {env : CommandEnv} {b : GnsBackend Handle} {cmd : BackendCommand}
    {r : GnsBackend Handle × Output Handle} (h : processCommand parse env b cmd = some r)
    (hsocket : b.socket ≠ none) : r.1.socket ≠ none := by
  cases cmd with
  | bind addr port =>
    simp only [processCommand] at h
    split at h <;> cases h
    exact Option.some_ne_none _
  | connect addr port =>
    simp only [processCommand] at h
    split at h <;> cases h
    · exact Option.some_ne_none _
    · exact hsocket
  | send c stream data =>
    simp only [processCommand] at h
    split at h <;> cases h <;> exact hsocket
  | createStream c i kind =>
    cases h
    exact hsocket
  | closeStream c i =>
    cases h
    exact hsocket
  | shutdown => cases h

theorem known_step {a : Input Handle} (h : Known e s) (hassumed : Assumed s a) (hown : Own e a)
    (hstep : step parse s a = some t) : Known e t := by
  have hregistered := registered_step h.registered hassumed hstep
  have same : t.backend.handleToUuid = s.backend.handleToUuid →
      t.backend.socket = s.backend.socket → Known e t := fun htable hsocket =>
    h.keeps hregistered (fun conn uuid hconn => htable ▸ hconn) (fun hs => hsocket ▸ hs)
  cases steps_of_step hstep with
  | stop => exact same rfl rfl
  | command hcommand =>
    obtain ⟨htable, -, -, -⟩ := processCommand_keeps hcommand
    exact h.keeps hregistered (fun conn uuid hconn => htable ▸ hconn) (socket_of_command hcommand)
  | @register env socket conn old new calls hsocket hdraws =>
    have hsome : s.backend.socket ≠ none := by
      rw [hsocket]
      exact Option.some_ne_none _
    refine ⟨hregistered, fun conn' hconn' => ?_, fun _ _ _ => hsome⟩
    by_cases heq : conn' = conn
    · subst heq
      simp only [put, GnsBackend.register, Function.update_self, Option.some.injEq] at hconn'
      exact hown hconn'
    · simp only [put, GnsBackend.register, Function.update_of_ne heq] at hconn'
      exact h.own conn' hconn'
  | @disconnect env conn old new uuid hends hconn =>
    refine h.keeps hregistered (fun conn' uuid' hconn' => ?_) id
    by_cases heq : conn' = conn
    · subst heq
      simp [put, GnsBackend.unregister] at hconn'
    · simpa [put, GnsBackend.unregister, heq] using hconn'
  | quiet => exact same rfl rfl
  | drop => exact same rfl rfl
  | receive => exact same rfl rfl
  | receiveNew => exact same rfl rfl

end GnsRun

end Connection

end Gns
end GameSockets
