/-
When a client of `GnsBackend` reports `Connected`.

GNS calls back with every change of state of a handle.  A connection that the client opens
goes from `None` to `Connecting`, and on to `Connected` once the peer has answered.  The
arm of the first change is meant for servers, but it is taken by the change alone, and a
client socket accepts without a call.
-/
import GameSockets.Gns.Backend
import GameSockets.Library.History

namespace GameSockets
namespace Gns

open Library History

/-! ## Changes of state -/

/-- What `GnsConnectionEvent` says: a handle and its change of state. -/
structure Change (Handle : Type) where
  conn : Handle
  oldState : ConnectionState
  newState : ConnectionState
deriving DecidableEq

namespace Change

variable {Handle : Type}

/-- The handle begins to connect. -/
def Opens (conn : Handle) (c : Change Handle) : Prop :=
  c.conn = conn ∧ c.oldState = .none ∧ c.newState = .connecting

/-- The handle's connection is established. -/
def Reaches (conn : Handle) (c : Change Handle) : Prop :=
  c.conn = conn ∧ c.oldState = .connecting ∧ c.newState = .connected

/-- The handle's connection, or the attempt at one, is over. -/
def Ends (conn : Handle) (c : Change Handle) : Prop :=
  c.conn = conn ∧ (c.newState = .closedByPeer ∨ c.newState = .problemDetectedLocally)

theorem not_reaches_of_opens {conn conn' : Handle} {c : Change Handle} (h : c.Opens conn) :
    ¬ c.Reaches conn' := by
  rintro ⟨-, hold, -⟩
  rw [h.2.1] at hold
  cases hold

end Change

/-- No handle begins to connect that has not been established before, and none does in an
attempt that ends without having been established. -/
structure OpensEstablished {Handle : Type} (changes : List (Change Handle)) : Prop where
  reached : ∀ conn, Always (fun before c => c.Opens conn → ∃ c' ∈ before, c'.Reaches conn) changes
  failed : ∀ conn, Always (fun before c => c.Ends conn →
    ¬ Since (Change.Reaches conn) (Change.Ends conn) before →
      ¬ Since (Change.Opens conn) (Change.Ends conn) before) changes

theorem opensEstablished_of_never {Handle : Type} {changes : List (Change Handle)}
    (h : ∀ c ∈ changes, ∀ conn, ¬ c.Opens conn) : OpensEstablished changes := by
  constructor
  · rintro conn before c after rfl hopens
    exact absurd hopens (h c (List.mem_append_right _ List.mem_cons_self) conn)
  · rintro conn before c after rfl - - ⟨first, c', rest, rfl, hopens, -⟩
    have hmem : c' ∈ first ++ c' :: rest := List.mem_append_right _ List.mem_cons_self
    exact h c' (List.mem_append_left _ hmem) conn hopens

/-! ## Reports -/

/-- A change of state, and what the backend puts out when it handles it. -/
structure Report (Handle : Type) where
  change : Change Handle
  output : Output Handle

namespace Report

variable {Handle : Type}

/-- The application is told that the handle is connected. -/
def Connects (conn : Handle) (r : Report Handle) : Prop :=
  r.change.conn = conn ∧ ∃ uuid, .connected uuid ∈ r.output.events

/-- The lanes of the handle are configured. -/
def Configures (conn : Handle) (r : Report Handle) : Prop :=
  .configureConnectionLanes conn [reliableLane, unreliableLane] ∈ r.output.calls

/-- What a client puts out for a change of state, whatever its tables hold. -/
structure FromClient (r : Report Handle) : Prop where
  opens : ∀ conn, r.change.Opens conn → r.Connects conn
  connects : ∀ conn, r.Connects conn → r.change.Opens conn ∨ r.change.Reaches conn
  configures : ∀ conn, r.Configures conn ↔ r.change.Reaches conn

end Report

/-- Every `Connected` comes once the handle's connection is established and its lanes are
configured, and an attempt that ends without having been established brings none. -/
structure ReportsEstablished {Handle : Type} (log : List (Report Handle)) : Prop where
  reached : ∀ conn, Always (fun before r => r.Connects conn →
    ∃ r' ∈ before ++ [r], r'.change.Reaches conn) log
  configured : ∀ conn, Always (fun before r => r.Connects conn →
    ∃ r' ∈ before ++ [r], r'.Configures conn) log
  failed : ∀ conn, Always (fun before r => r.change.Ends conn →
    ¬ Since (fun r => r.change.Reaches conn) (fun r => r.change.Ends conn) before →
      ¬ Since (Report.Connects conn) (fun r => r.change.Ends conn) before) log

section Log

variable {Handle : Type} {log : List (Report Handle)}

/-- A `Connected` waits for the establishment exactly when the beginning does. -/
theorem reached_iff (h : ∀ r ∈ log, r.FromClient) (conn : Handle) :
    Always (fun before r => r.Connects conn →
        ∃ r' ∈ before ++ [r], r'.change.Reaches conn) log ↔
      Always (fun before r => r.change.Opens conn →
        ∃ r' ∈ before, r'.change.Reaches conn) log := by
  refine always_congr fun before r after hlog => ?_
  have hr := h r (hlog ▸ List.mem_append_right _ List.mem_cons_self)
  constructor
  · intro hconnects hopens
    obtain ⟨r', hmem, hreaches⟩ := hconnects (hr.opens conn hopens)
    rcases List.mem_append.mp hmem with hmem | hmem
    · exact ⟨r', hmem, hreaches⟩
    · rw [List.mem_singleton.mp hmem] at hreaches
      exact absurd hreaches (Change.not_reaches_of_opens hopens)
  · intro hopens hconnects
    rcases hr.connects conn hconnects with hbegins | hreaches
    · obtain ⟨r', hmem, hreaches⟩ := hopens hbegins
      exact ⟨r', List.mem_append_left _ hmem, hreaches⟩
    · exact ⟨r, List.mem_append_right _ List.mem_cons_self, hreaches⟩

/-- Only the arm of the establishment configures lanes. -/
theorem configured_iff (h : ∀ r ∈ log, r.FromClient) (conn : Handle) :
    Always (fun before r => r.Connects conn → ∃ r' ∈ before ++ [r], r'.Configures conn) log ↔
      Always (fun before r => r.Connects conn →
        ∃ r' ∈ before ++ [r], r'.change.Reaches conn) log := by
  refine always_congr fun before r after hlog => ?_
  have hbefore : ∀ r' ∈ before ++ [r], r'.FromClient := by
    intro r' hr'
    refine h r' ?_
    rw [hlog, ← List.singleton_append, ← List.append_assoc]
    exact List.mem_append_left _ hr'
  constructor
  · intro hconfigured hconnects
    obtain ⟨r', hmem, hconfigures⟩ := hconfigured hconnects
    exact ⟨r', hmem, ((hbefore r' hmem).configures conn).mp hconfigures⟩
  · intro hreached hconnects
    obtain ⟨r', hmem, hreaches⟩ := hreached hconnects
    exact ⟨r', hmem, ((hbefore r' hmem).configures conn).mpr hreaches⟩

/-- Where a handle was not established, what has been reported of it is its beginning. -/
theorem failed_iff (h : ∀ r ∈ log, r.FromClient) (conn : Handle) :
    Always (fun before r => r.change.Ends conn →
        ¬ Since (fun r => r.change.Reaches conn) (fun r => r.change.Ends conn) before →
          ¬ Since (Report.Connects conn) (fun r => r.change.Ends conn) before) log ↔
      Always (fun before r => r.change.Ends conn →
        ¬ Since (fun r => r.change.Reaches conn) (fun r => r.change.Ends conn) before →
          ¬ Since (fun r => r.change.Opens conn) (fun r => r.change.Ends conn) before) log := by
  refine always_congr fun before r after hlog => ?_
  have hbefore : ∀ r' ∈ before, r'.FromClient :=
    fun r' hr' => h r' (hlog ▸ List.mem_append_left _ hr')
  refine forall_congr' fun _ => forall_congr' fun hunreached => not_congr ?_
  constructor
  · intro hconnects
    have hcause := since_mono (fun r' hr' => (hbefore r' hr').connects conn) hconnects
    exact (since_or.mp hcause).resolve_right hunreached
  · exact since_mono fun r' hr' => (hbefore r' hr').opens conn

theorem reportsEstablished_iff (h : ∀ r ∈ log, r.FromClient) :
    ReportsEstablished log ↔ OpensEstablished (log.map Report.change) := by
  have hopens : OpensEstablished (log.map Report.change) ↔
      (∀ conn, Always (fun before r => r.change.Opens conn →
        ∃ r' ∈ before, r'.change.Reaches conn) log) ∧
      ∀ conn, Always (fun before r => r.change.Ends conn →
        ¬ Since (fun r => r.change.Reaches conn) (fun r => r.change.Ends conn) before →
          ¬ Since (fun r => r.change.Opens conn) (fun r => r.change.Ends conn) before) log := by
    rw [show OpensEstablished (log.map Report.change) ↔ _ ∧ _ from
      ⟨fun h => ⟨h.reached, h.failed⟩, fun h => ⟨h.1, h.2⟩⟩]
    simp only [always_map, since_map, List.mem_map, exists_exists_and_eq_and]
  rw [hopens, ← forall_congr' (reached_iff h), ← forall_congr' (failed_iff h)]
  constructor
  · exact fun hlog => ⟨hlog.reached, hlog.failed⟩
  · rintro ⟨hreached, hfailed⟩
    exact ⟨hreached, fun conn => (configured_iff h conn).mpr (hreached conn), hfailed⟩

end Log

/-! ## One step -/

namespace Report

variable {Handle : Type}

/-- The arm meant for servers: accepting makes no call. -/
theorem fromClient_accept (conn : Handle) (uuid : Uuid) :
    FromClient
      { change := { conn := conn, oldState := .none, newState := .connecting },
        output := { events := [.connected uuid] } } := by
  constructor
  · rintro conn' ⟨hconn, -⟩
    exact ⟨hconn, uuid, List.mem_singleton_self _⟩
  · rintro conn' ⟨hconn, -⟩
    exact Or.inl ⟨hconn, rfl, rfl⟩
  · intro conn'
    refine iff_of_false List.not_mem_nil ?_
    rintro ⟨-, hold, -⟩
    cases hold

/-- The arm of the establishment, whatever it reports. -/
theorem fromClient_establish (conn : Handle) (events : List GameNetworkEvent) :
    FromClient
      { change := { conn := conn, oldState := .connecting, newState := .connected },
        output :=
          { events := events,
            calls := [.configureConnectionLanes conn [reliableLane, unreliableLane]] } } := by
  constructor
  · rintro conn' ⟨-, hold, -⟩
    cases hold
  · rintro conn' ⟨hconn, -⟩
    exact Or.inr ⟨hconn, rfl, rfl⟩
  · intro conn'
    rw [Configures, List.mem_singleton, SocketCall.configureConnectionLanes.injEq]
    constructor
    · rintro ⟨hconn, -⟩
      exact ⟨hconn.symm, rfl, rfl⟩
    · rintro ⟨hconn, -⟩
      exact ⟨hconn.symm, rfl⟩

/-- The other arms neither report a connection nor configure lanes. -/
theorem fromClient_other {c : Change Handle} {o : Output Handle}
    (hopens : ∀ conn, ¬ c.Opens conn) (hreaches : ∀ conn, ¬ c.Reaches conn)
    (hevents : ∀ uuid, .connected uuid ∉ o.events)
    (hcalls : ∀ conn lanes, .configureConnectionLanes conn lanes ∉ o.calls) :
    FromClient { change := c, output := o } := by
  constructor
  · exact fun conn h => absurd h (hopens conn)
  · rintro conn ⟨-, uuid, huuid⟩
    exact absurd huuid (hevents uuid)
  · exact fun conn => iff_of_false (hcalls conn _) (hreaches conn)

/-- The arm of the end, for a handle with a UUID and for one without. -/
theorem fromClient_end {conn : Handle} {c : Change Handle} (hends : c.Ends conn)
    (uuid : Option Uuid) :
    FromClient
      { change := c,
        output :=
          { events := uuid.toList.map .disconnected, calls := [.closeConnection conn] } } := by
  have hnew : ∀ state, c.newState = state → state = .connecting ∨ state = .connected → False := by
    rintro state rfl hstate
    rcases hends.2 with h | h <;> rw [h] at hstate <;> simp at hstate
  refine fromClient_other ?_ ?_ (by simp) (by simp)
  · exact fun conn' hopens => hnew _ hopens.2.2 (Or.inl rfl)
  · exact fun conn' hreaches => hnew _ hreaches.2.2 (Or.inr rfl)

end Report

section Established

variable {Handle : Type} [DecidableEq Handle]

/-- The arms of `handleEvent` on a client socket. -/
theorem fromClient_handleEvent (env : EventEnv) (s : GnsBackend Handle) (ip : Ipv4Addr)
    (port : UInt16) (conn : Handle) (old new : ConnectionState) :
    Report.FromClient
      { change := { conn := conn, oldState := old, newState := new },
        output := (handleEvent env s (.client ip port) conn old new).2 } := by
  unfold handleEvent
  split
  · exact Report.fromClient_accept conn env.newV4
  · dsimp only
    split
    · exact Report.fromClient_establish conn _
    · exact Report.fromClient_establish conn _
  · split
    · exact Report.fromClient_end ⟨rfl, Or.inl rfl⟩ (some _)
    · exact Report.fromClient_end ⟨rfl, Or.inl rfl⟩ none
  · split
    · exact Report.fromClient_end ⟨rfl, Or.inr rfl⟩ (some _)
    · exact Report.fromClient_end ⟨rfl, Or.inr rfl⟩ none
  · next hopens hreaches =>
    refine Report.fromClient_other ?_ ?_ (by simp) (by simp)
    · rintro conn' ⟨-, hold, hnew⟩
      exact hopens hold hnew
    · rintro conn' ⟨-, hold, hnew⟩
      exact hreaches hold hnew

namespace GnsRun

/-- What the inputs say of the handles. -/
def change : Input Handle → Option (Change Handle)
  | .event _ conn oldState newState =>
    some { conn := conn, oldState := oldState, newState := newState }
  | _ => none

/-- What a step puts out for a change of state. -/
def report (s : GnsRun Handle) : Input Handle → Option (Report Handle)
  | .event env conn oldState newState =>
    s.backend.socket.map fun socket =>
      { change := { conn := conn, oldState := oldState, newState := newState },
        output := (handleEvent env s.backend socket conn oldState newState).2 }
  | _ => none

/-- No connection event reaches a server socket. -/
def OnClient (s : GnsRun Handle) : Input Handle → Prop
  | .event _ _ _ _ => ∀ ip port, s.backend.socket ≠ some (.server ip port)
  | _ => True

variable {parse : String → Option Ipv4Addr}

theorem change_report {s t : GnsRun Handle} {a : Input Handle} (h : step parse s a = some t) :
    (report s a).map Report.change = change a := by
  cases a with
  | command env cmd => rfl
  | event env conn old new =>
    simp only [step] at h
    split at h
    · next socket _ hsocket =>
      rw [report, hsocket]
      rfl
    · cases h
  | message conn payload => rfl

/-- A step puts out what it reports. -/
theorem step_report {s t : GnsRun Handle} {a : Input Handle} {r : Report Handle}
    (h : step parse s a = some t) (hr : report s a = some r) :
    t.events = s.events ++ r.output.events ∧ t.calls = s.calls ++ r.output.calls := by
  cases a with
  | command env cmd => cases hr
  | event env conn old new =>
    obtain ⟨socket, hsocket, rfl⟩ := Option.map_eq_some_iff.mp hr
    simp only [step, hsocket] at h
    split at h
    · next heq =>
      cases heq
      cases h
      exact ⟨rfl, rfl⟩
    · cases h
  | message conn payload => cases hr

theorem fromClient_report {s : GnsRun Handle} {a : Input Handle} {r : Report Handle}
    (hclient : OnClient s a) (h : report s a = some r) : r.FromClient := by
  cases a with
  | command env cmd => cases h
  | event env conn old new =>
    obtain ⟨socket, hsocket, rfl⟩ := Option.map_eq_some_iff.mp h
    cases socket with
    | server ip port => exact absurd hsocket (hclient ip port)
    | client ip port => exact fromClient_handleEvent env s.backend ip port conn old new
  | message conn payload => cases h

/-! ## Every run -/

/-- A client reports `Connected` for established connections alone exactly when no
connection event tells it that a handle begins to connect, but for a handle that was
established before and is again before the attempt ends. -/
theorem reports_established_iff (parse : String → Option Ipv4Addr) (inputs : List (Input Handle))
    (s t : GnsRun Handle) (hclient : Run.Along (step parse) OnClient s inputs)
    (hrun : Run.run (step parse) s inputs = some t) :
    ReportsEstablished (Run.trace (step parse) report s inputs) ↔
      OpensEstablished (inputs.filterMap change) := by
  have hfrom : ∀ r ∈ Run.trace (step parse) report s inputs, r.FromClient :=
    Run.forall_mem_trace (fun s a t r hok _ hr => fromClient_report hok hr) inputs hclient hrun
  have hchanges : (Run.trace (step parse) report s inputs).map Report.change =
      inputs.filterMap change := by
    rw [Run.map_trace]
    exact Run.trace_eq_filterMap (fun s a t h => change_report h) inputs hrun
  rw [reportsEstablished_iff hfrom, hchanges]

end GnsRun

end Established

namespace GnsRun

/-- A connection that GNS reports from its establishment on. -/
def answered : List (Input Nat) :=
  [.command { listenOk := true, connectOk := true } (.connect "127.0.0.1" 8080),
    .event { acceptOk := true, newV4 := Uuid.nil } 7 .connecting .connected,
    .event { acceptOk := true, newV4 := Uuid.nil } 7 .connected .closedByPeer]

theorem reports_established_answered :
    ∃ t, Run.run (step fun _ => none) init answered = some t ∧
      t.events = [.connected Uuid.nil, .disconnected Uuid.nil] ∧
      ReportsEstablished (Run.trace (step fun _ => none) report init answered) := by
  have hclient : Run.Along (step fun _ => none) OnClient init answered :=
    ⟨trivial, fun _ _ => nofun, fun _ _ => nofun, trivial⟩
  refine ⟨_, rfl, rfl, ?_⟩
  refine (reports_established_iff (fun _ => none) answered init _ hclient rfl).mpr ?_
  refine opensEstablished_of_never fun c hc conn hopens => ?_
  rcases List.mem_cons.mp hc with rfl | hc
  · cases hopens.2.1
  · rw [List.mem_singleton.mp hc] at hopens
    cases hopens.2.1

/-- An attempt that nobody answers, as GNS reports it. -/
def unanswered : List (Input Nat) :=
  [.command { listenOk := true, connectOk := true } (.connect "127.0.0.1" 8080),
    .event { acceptOk := true, newV4 := Uuid.nil } 7 .none .connecting,
    .event { acceptOk := true, newV4 := Uuid.nil } 7 .connecting .problemDetectedLocally]

/-- A client is told that it is connected to a server that never answers. -/
theorem connected_unanswered :
    ∃ t, Run.run (step fun _ => none) init unanswered = some t ∧
      Run.Along (step fun _ => none) OnClient init unanswered ∧
      t.events = [.connected Uuid.nil, .disconnected Uuid.nil] ∧
      t.calls = [.closeConnection 7] ∧
      ¬ ReportsEstablished (Run.trace (step fun _ => none) report init unanswered) := by
  refine ⟨_, rfl, ⟨trivial, fun _ _ => nofun, fun _ _ => nofun, trivial⟩, rfl, rfl, fun h => ?_⟩
  obtain ⟨r, hr, hreaches⟩ := h.reached 7 [] _ _ rfl ⟨rfl, Uuid.nil, List.mem_cons_self⟩
  rw [List.nil_append, List.mem_singleton] at hr
  subst hr
  cases hreaches.2.1

end GnsRun

end Gns
end GameSockets
