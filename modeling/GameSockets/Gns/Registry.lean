/-
The tables of `GnsBackend`: which handle belongs to which UUID, which UUIDs have
streams, and what the application has been told of them.

GNS uses a handle again once its connection has ended.  A UUID is drawn for each
connection and never drawn again.
-/
import GameSockets.Gns.Backend
import GameSockets.Library.Registry

namespace GameSockets
namespace Gns

open Library Registry

section Registry

variable {Handle : Type} {parse : String → Option Ipv4Addr}

namespace GnsRun

/-- A UUID drawn for a connection has not been drawn for another. -/
def Fresh (s : GnsRun Handle) : Input Handle → Prop
  | .event env _ .none .connecting => .connected env.newV4 ∉ s.events
  | .event env _ .connecting .connected => .connected env.newV4 ∉ s.events
  | _ => True

/-- GNS reports a new connection only under a handle that is not registered. -/
def Unused (s : GnsRun Handle) : Input Handle → Prop
  | .event _ conn .none .connecting => s.backend.handleToUuid conn = none
  | _ => True

/-- What is assumed of GNS and of the drawn UUIDs. -/
def Assumed (s : GnsRun Handle) (a : Input Handle) : Prop := Fresh s a ∧ Unused s a

/-- What the tables and the events have to do with each other. -/
structure Registered (s : GnsRun Handle) : Prop where
  inverse : Inverse s.backend.handleToUuid s.backend.uuidToHandle
  streams : ∀ u ids, s.backend.knownStreams u = some ids →
    s.backend.uuidToHandle u ≠ none ∧ ids.Nodup
  live : ∀ u, s.backend.uuidToHandle u ≠ none ↔
    .connected u ∈ s.events ∧ .disconnected u ∉ s.events
  ended : ∀ u, .disconnected u ∈ s.events → .connected u ∈ s.events
  once : ∀ u, s.events.count (.connected u) ≤ 1 ∧ s.events.count (.disconnected u) ≤ 1

/-- An event that neither begins nor ends a connection. -/
def Passing (e : GameNetworkEvent) : Prop := ∀ u, e ≠ .connected u ∧ e ≠ .disconnected u

theorem registered_init : Registered (init : GnsRun Handle) := by
  refine ⟨inverse_empty, fun u ids h => ?_, fun u => ⟨fun h => absurd rfl h, fun h => ?_⟩,
    fun u h => ?_, fun u => ⟨Nat.zero_le _, Nat.zero_le _⟩⟩
  · cases h
  · cases h.1
  · cases h

/-- A command leaves the tables alone, and begins and ends no connection. -/
theorem processCommand_keeps {env : CommandEnv} {b : GnsBackend Handle} {cmd : BackendCommand}
    {r : GnsBackend Handle × Output Handle} (h : processCommand parse env b cmd = some r) :
    r.1.handleToUuid = b.handleToUuid ∧ r.1.uuidToHandle = b.uuidToHandle ∧
      r.1.knownStreams = b.knownStreams ∧
      ∀ e ∈ r.2.events, Passing e ∧ e.delivered = none := by
  cases cmd with
  | bind addr port =>
    simp only [processCommand] at h
    split at h <;> cases h
    exact ⟨rfl, rfl, rfl, by simp⟩
  | connect addr port =>
    simp only [processCommand] at h
    split at h <;> cases h
    · exact ⟨rfl, rfl, rfl, by simp⟩
    · exact ⟨rfl, rfl, rfl, by simp⟩
  | send c st data =>
    simp only [processCommand] at h
    split at h <;> cases h
    · exact ⟨rfl, rfl, rfl, by simp⟩
    · exact ⟨rfl, rfl, rfl, by simp⟩
  | createStream c i r =>
    cases h
    exact ⟨rfl, rfl, rfl, by simp [Passing, GameNetworkEvent.delivered]⟩
  | closeStream c i =>
    cases h
    exact ⟨rfl, rfl, rfl, by simp [Passing, GameNetworkEvent.delivered]⟩
  | shutdown => cases h

/-- A step that begins and ends no connection. -/
theorem registered_put {s : GnsRun Handle} (h : Registered s) {b : GnsBackend Handle}
    {o : Output Handle} (hforward : b.handleToUuid = s.backend.handleToUuid)
    (hback : b.uuidToHandle = s.backend.uuidToHandle)
    (hstreams : ∀ u ids, b.knownStreams u = some ids →
      s.backend.uuidToHandle u ≠ none ∧ ids.Nodup)
    (hpassing : ∀ e ∈ o.events, Passing e) : Registered (s.put (b, o)) := by
  have hconnected : ∀ u, .connected u ∉ o.events := fun u hu => (hpassing _ hu u).1 rfl
  have hdisconnected : ∀ u, .disconnected u ∉ o.events := fun u hu => (hpassing _ hu u).2 rfl
  refine ⟨?_, fun u ids hids => ?_, fun u => ?_, fun u hu => ?_, fun u => ?_⟩
  · simp only [put, hforward, hback]
    exact h.inverse
  · simp only [put, hback] at hids ⊢
    exact hstreams u ids hids
  · simp only [put, hback, List.mem_append, hconnected, hdisconnected, or_false]
    exact h.live u
  · simp only [put, List.mem_append, hconnected, hdisconnected, or_false] at hu ⊢
    exact h.ended u hu
  · simp only [put, List.count_append, List.count_eq_zero.mpr (hconnected u),
      List.count_eq_zero.mpr (hdisconnected u), Nat.add_zero]
    exact h.once u

theorem known_nodup {s : GnsRun Handle} (h : Registered s) (u : Uuid) :
    (s.backend.known u).Nodup := by
  cases hids : s.backend.knownStreams u with
  | none =>
    rw [GnsBackend.known, hids]
    exact List.nodup_nil
  | some ids =>
    rw [GnsBackend.known, hids]
    exact (h.streams u ids hids).2

/-- A registered UUID gets a list of streams without repeats. -/
theorem registered_streams {s : GnsRun Handle} (h : Registered s) {conn : Handle} {uuid : Uuid}
    (hconn : s.backend.handleToUuid conn = some uuid) {streams : List UInt16}
    (hnodup : streams.Nodup) (u : Uuid) (ids : List UInt16)
    (hids : Function.update s.backend.knownStreams uuid (some streams) u = some ids) :
    s.backend.uuidToHandle u ≠ none ∧ ids.Nodup := by
  by_cases heq : u = uuid
  · subst heq
    rw [Function.update_self] at hids
    cases hids
    rw [(h.inverse conn u).mp hconn]
    exact ⟨Option.some_ne_none conn, hnodup⟩
  · rw [Function.update_of_ne heq] at hids
    exact h.streams u ids hids

variable [DecidableEq Handle]

/-- A connection begins under a handle and a UUID that are both new. -/
theorem registered_register {s : GnsRun Handle} (h : Registered s) {conn : Handle} {uuid : Uuid}
    {calls : List (SocketCall Handle)} (hconn : s.backend.handleToUuid conn = none)
    (hfresh : .connected uuid ∉ s.events) :
    Registered (s.put (s.backend.register conn uuid,
      { events := [.connected uuid], calls := calls })) := by
  have hnone : s.backend.uuidToHandle uuid = none := by
    by_contra hne
    exact hfresh ((h.live uuid).mp hne).1
  have hended : .disconnected uuid ∉ s.events := fun hd => hfresh (h.ended uuid hd)
  refine ⟨inverse_insert h.inverse hconn hnone, fun u ids hids => ?_, fun u => ?_, fun u hu => ?_,
    fun u => ?_⟩
  · obtain ⟨hlive, hnodup⟩ := h.streams u ids hids
    refine ⟨?_, hnodup⟩
    by_cases heq : u = uuid
    · exact absurd hnone (heq ▸ hlive)
    · simpa [put, GnsBackend.register, heq] using hlive
  · by_cases heq : u = uuid
    · subst heq
      simp [put, GnsBackend.register, hended]
    · simpa [put, GnsBackend.register, heq] using h.live u
  · simp only [put, List.mem_append, List.mem_singleton] at hu ⊢
    exact Or.inl (h.ended u (hu.resolve_right (by simp)))
  · have honce := h.once u
    simp only [put, List.count_append]
    by_cases heq : u = uuid
    · subst heq
      have hzero := List.count_eq_zero.mpr hfresh
      simp [hzero, honce.2]
    · simpa [List.count_singleton, Ne.symm heq] using honce

/-- A connection ends, and its UUID leaves the tables. -/
theorem registered_unregister {s : GnsRun Handle} (h : Registered s) {conn : Handle} {uuid : Uuid}
    {calls : List (SocketCall Handle)} (hconn : s.backend.handleToUuid conn = some uuid) :
    Registered (s.put (s.backend.unregister conn uuid,
      { events := [.disconnected uuid], calls := calls })) := by
  have hback : s.backend.uuidToHandle uuid = some conn := (h.inverse conn uuid).mp hconn
  obtain ⟨hconnected, hopen⟩ := (h.live uuid).mp (by rw [hback]; exact Option.some_ne_none conn)
  refine ⟨inverse_erase h.inverse hconn, fun u ids hids => ?_, fun u => ?_, fun u hu => ?_,
    fun u => ?_⟩
  · by_cases heq : u = uuid
    · subst heq
      simp [put, GnsBackend.unregister] at hids
    · simp only [put, GnsBackend.unregister, Function.update_of_ne heq] at hids ⊢
      exact h.streams u ids hids
  · by_cases heq : u = uuid
    · subst heq
      simp [put, GnsBackend.unregister]
    · simpa [put, GnsBackend.unregister, heq] using h.live u
  · simp only [put, List.mem_append, List.mem_singleton,
      GameNetworkEvent.disconnected.injEq] at hu ⊢
    rcases hu with hu | rfl
    · exact Or.inl (h.ended u hu)
    · exact Or.inl hconnected
  · have honce := h.once u
    simp only [put, List.count_append]
    by_cases heq : u = uuid
    · subst heq
      have hzero := List.count_eq_zero.mpr hopen
      simp [hzero, honce.1]
    · simpa [List.count_singleton, Ne.symm heq] using honce

theorem registered_step {s t : GnsRun Handle} {a : Input Handle} (h : Registered s)
    (hassumed : Assumed s a) (hstep : step parse s a = some t) : Registered t := by
  cases steps_of_step hstep with
  | stop => exact ⟨h.inverse, h.streams, h.live, h.ended, h.once⟩
  | command hcommand =>
    obtain ⟨hforward, hback, hstreams, hpassing⟩ := processCommand_keeps hcommand
    exact registered_put h hforward hback (fun u ids hids => h.streams u ids (hstreams ▸ hids))
      fun e he => (hpassing e he).1
  | register _ hdraws =>
    rcases hdraws with ⟨rfl, rfl, -⟩ | ⟨rfl, rfl, hnone⟩
    · exact registered_register h hassumed.2 hassumed.1
    · exact registered_register h hnone hassumed.1
  | disconnect _ hconn => exact registered_unregister h hconn
  | quiet => exact registered_put h rfl rfl h.streams (by simp)
  | drop => exact registered_put h rfl rfl h.streams (by simp)
  | receive hconn =>
    exact registered_put h rfl rfl (registered_streams h hconn (known_nodup h _))
      (by simp [Passing])
  | receiveNew hconn _ hnew =>
    refine registered_put h rfl rfl (registered_streams h hconn ?_) (by simp [Passing])
    refine List.nodup_append.mpr ⟨known_nodup h _, by simp, fun id hid id' hid' heq => hnew ?_⟩
    rw [← List.mem_singleton.mp hid', ← heq]
    exact hid

theorem registered_of_run {inputs : List (Input Handle)} {s : GnsRun Handle}
    (hassumed : Run.Along (step parse) Assumed init inputs)
    (hrun : Run.run (step parse) init inputs = some s) : Registered s :=
  Run.invariant (fun _ _ _ => registered_step) inputs registered_init hassumed hrun

/-- The two tables are inverse to each other and hold the connections that have been
announced and have not ended; only these have streams, each listed once; and no
connection begins or ends twice. -/
theorem handle_registry (inputs : List (Input Handle)) (s : GnsRun Handle)
    (hassumed : Run.Along (step parse) Assumed init inputs)
    (hrun : Run.run (step parse) init inputs = some s) :
    (∀ conn u, s.backend.handleToUuid conn = some u ↔ s.backend.uuidToHandle u = some conn) ∧
      (∀ u, s.backend.knownStreams u ≠ none → s.backend.uuidToHandle u ≠ none) ∧
      (∀ u ids, s.backend.knownStreams u = some ids → ids.Nodup) ∧
      (∀ u, s.backend.uuidToHandle u ≠ none ↔
        .connected u ∈ s.events ∧ .disconnected u ∉ s.events) ∧
      ∀ u, s.events.count (.connected u) ≤ 1 ∧ s.events.count (.disconnected u) ≤ 1 := by
  have h := registered_of_run hassumed hrun
  refine ⟨h.inverse, fun u hu => ?_, fun u ids hids => (h.streams u ids hids).2, h.live, h.once⟩
  obtain ⟨ids, hids⟩ := Option.ne_none_iff_exists'.mp hu
  exact (h.streams u ids hids).1

end GnsRun

end Registry

/-- A second UUID. -/
def otherUuid : Uuid := { asBytes := List.replicate 16 2, size := rfl }

/-- A client is accepted, sends and leaves, and another one is accepted under the same
handle. -/
def reusedHandle : List (Input Nat) :=
  [.command { listenOk := true, connectOk := true } (.bind "0.0.0.0" 8080),
    .event { acceptOk := true, newV4 := Uuid.nil } 1 .none .connecting,
    .event { acceptOk := true, newV4 := otherUuid } 1 .connecting .connected,
    .message 1 [0, 4, 9],
    .event { acceptOk := true, newV4 := otherUuid } 1 .connected .closedByPeer,
    .event { acceptOk := true, newV4 := otherUuid } 1 .none .connecting]

instance decidableFresh (s : GnsRun Nat) (a : Input Nat) : Decidable (GnsRun.Fresh s a) := by
  unfold GnsRun.Fresh
  split <;> infer_instance

instance decidableUnused (s : GnsRun Nat) (a : Input Nat) : Decidable (GnsRun.Unused s a) := by
  unfold GnsRun.Unused
  split <;> infer_instance

instance decidableAssumed (s : GnsRun Nat) (a : Input Nat) : Decidable (GnsRun.Assumed s a) :=
  inferInstanceAs (Decidable (_ ∧ _))

theorem handle_registry_reused :
    ∃ s, Run.run (GnsRun.step fun _ => none) GnsRun.init reusedHandle = some s ∧
      s.backend.uuidToHandle otherUuid = some 1 ∧
      .connected otherUuid ∈ s.events ∧ .disconnected otherUuid ∉ s.events := by
  let parse : String → Option Ipv4Addr := fun _ => none
  have hassumed : Run.Along (GnsRun.step parse) GnsRun.Assumed GnsRun.init reusedHandle := by
    decide +kernel
  refine ⟨_, rfl, rfl, ?_⟩
  exact ((GnsRun.handle_registry reusedHandle _ hassumed rfl).2.2.2.1 otherUuid).mp
    (by decide +kernel)

end Gns
end GameSockets
