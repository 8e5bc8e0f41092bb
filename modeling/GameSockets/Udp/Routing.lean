/-
Where `UdpBackend` sends, and what a datagram or a command can touch.

The address table is written by `Connect` and by every long enough datagram, and
read by `Send`.  `route` says what the table must hold in terms of the inputs
alone; the invariant is that it does.
-/
import GameSockets.Udp.Datagram

namespace GameSockets
namespace Udp

open Library

section Routing

variable {Addr : Type} (parse : String → Option Addr)

/-! ## The route of a UUID, read off the inputs -/

/-- The source address, if the input is a datagram carrying `u`. -/
def sourceFor (u : Uuid) : Input Addr → Option Addr
  | .datagram bytes src => if datagramUuid bytes = some u then some src else none
  | _ => none

/-- The address given, if the input is the `Connect` that creates `u`. -/
def targetFor (u : Uuid) : Input Addr → Option Addr
  | .command env (.connect addr port) =>
    if env.newV4 = u then parse (addr ++ ":" ++ toString port.toNat) else none
  | _ => none

/-- The source of the most recent datagram carrying `u`. -/
def lastSource (u : Uuid) (history : List (Input Addr)) : Option Addr :=
  (history.filterMap (sourceFor u)).getLast?

/-- The address given to the `Connect` that created `u`. -/
def connectTarget (u : Uuid) (history : List (Input Addr)) : Option Addr :=
  (history.filterMap (targetFor parse u)).getLast?

def route (u : Uuid) (history : List (Input Addr)) : Option Addr :=
  (lastSource u history).or (connectTarget parse u history)

/-- The address table holds the route of every UUID. -/
def Routed (history : List (Input Addr)) (s : UdpRun Addr) : Prop :=
  ∀ u, s.backend.connections u = route parse u history

/-- The UUID an input is about. -/
def subject : Input Addr → Option Uuid
  | .command env (.connect addr port) =>
    if (parse (addr ++ ":" ++ toString port.toNat)).isSome then some env.newV4 else none
  | .command _ (.send c _ _) => some c
  | .command _ (.createStream c _ _) => some c
  | .command _ (.closeStream c _) => some c
  | .command _ _ => none
  | .datagram bytes _ => datagramUuid bytes
  | .recvError => none

/-- A UUID drawn for a `Connect` is not in the table.  One that occurred in no
earlier input is not. -/
def Fresh (s : UdpRun Addr) : Input Addr → Prop
  | .command env (.connect _ _) => s.backend.connections env.newV4 = none
  | _ => True

theorem getLast?_filterMap_append_singleton {α β : Type} (f : α → Option β) (l : List α) (a : α) :
    ((l ++ [a]).filterMap f).getLast? = (f a).or (l.filterMap f).getLast? := by
  rw [List.filterMap_append, List.getLast?_append]
  cases h : f a <;> simp [h]

theorem lastSource_append (u : Uuid) (history : List (Input Addr)) (a : Input Addr) :
    lastSource u (history ++ [a]) = (sourceFor u a).or (lastSource u history) :=
  getLast?_filterMap_append_singleton _ _ _

theorem connectTarget_append (u : Uuid) (history : List (Input Addr)) (a : Input Addr) :
    connectTarget parse u (history ++ [a]) =
      (targetFor parse u a).or (connectTarget parse u history) :=
  getLast?_filterMap_append_singleton _ _ _

/-! ## One step -/

/-- The address table after one step. -/
theorem step_connections {s t : UdpRun Addr} {a : Input Addr}
    (h : UdpRun.step parse s a = some t) (u : Uuid) :
    t.backend.connections u =
      ((sourceFor u a).or (targetFor parse u a)).or (s.backend.connections u) := by
  cases UdpRun.steps_of_step h with
  | shutdown => rfl
  | @command env cmd hcmd =>
    generalize hout : processCommand parse env s.backend cmd = out
    cases processes_of_processCommand hout with
    | @connect addr port remote hparse =>
      simp only [UdpRun.put, sourceFor, targetFor, hparse]
      by_cases hu : env.newV4 = u
      · subst hu
        simp
      · simp [hu, Function.update_of_ne (Ne.symm hu)]
    | unparsed hparse =>
      simp only [UdpRun.put, sourceFor, targetFor, hparse]
      simp
    | _ => rfl
  | noise hnone => simp [sourceFor, targetFor, hnone]
  | @packet bytes src v data hv =>
    simp only [UdpRun.put, sourceFor, targetFor, Option.or_none, noteStream_connections,
      noteAddress]
    by_cases hu : v = u
    · subst hu
      simp [hv]
    · simp [hv, hu, Function.update_of_ne (Ne.symm hu)]
  | recvError => rfl

/-- A step keeps every entry of every UUID but its subject, and says nothing
about the others. -/
theorem step_frame {s t : UdpRun Addr} {a : Input Addr} (h : UdpRun.step parse s a = some t)
    {v : Uuid} (hv : subject parse a ≠ some v) :
    t.backend.connections v = s.backend.connections v ∧
      t.backend.knownStreams v = s.backend.knownStreams v ∧
      ∃ new, t.events = s.events ++ new ∧ ∀ e ∈ new, e.connection ≠ v := by
  have hquiet : t = s → t.backend.connections v = s.backend.connections v ∧
      t.backend.knownStreams v = s.backend.knownStreams v ∧
      ∃ new, t.events = s.events ++ new ∧ ∀ e ∈ new, e.connection ≠ v := by
    rintro rfl
    exact ⟨rfl, rfl, [], by simp, by simp⟩
  cases UdpRun.steps_of_step h with
  | shutdown => exact ⟨rfl, rfl, [], by simp, by simp⟩
  | @command env cmd hcmd =>
    generalize hout : processCommand parse env s.backend cmd = out
    cases processes_of_processCommand hout with
    | @connect addr port remote hparse =>
      have hne : env.newV4 ≠ v := by
        intro he
        apply hv
        rw [subject, hparse, he]
        rfl
      refine ⟨Function.update_of_ne (Ne.symm hne) _ _, rfl, [.connected env.newV4], rfl, ?_⟩
      simpa [GameNetworkEvent.connection] using hne
    | createStream =>
      refine ⟨rfl, rfl, _, rfl, ?_⟩
      simpa [subject, GameNetworkEvent.connection] using hv
    | closeStream =>
      refine ⟨rfl, rfl, _, rfl, ?_⟩
      simpa [subject, GameNetworkEvent.connection] using hv
    | _ => exact ⟨rfl, rfl, [], rfl, by simp⟩
  | noise hnone => exact hquiet rfl
  | @packet bytes src u data hu =>
    have hne : v ≠ u := by
      intro he
      apply hv
      rw [he, ← hu]
      rfl
    refine ⟨?_, ?_, _, rfl, ?_⟩
    · simp only [UdpRun.put]
      rw [noteStream_connections]
      exact Function.update_of_ne hne _ _
    · simp only [UdpRun.put]
      rw [noteStream_knownStreams_of_ne _ hne]
      rfl
    · intro e he
      simp only [List.mem_append, List.mem_singleton] at he
      rcases he with (he | he) | rfl
      · rw [eq_of_mem_noteAddress he]
        exact Ne.symm hne
      · rw [eq_of_mem_noteStream he]
        exact Ne.symm hne
      · exact Ne.symm hne
  | recvError => exact hquiet rfl

/-- What a `Send` puts on the wire. -/
theorem step_send {s t : UdpRun Addr} {env : CommandEnv} {u : Uuid} {stream : GameStream}
    {data : Bytes} (h : UdpRun.step parse s (.command env (.send u stream data)) = some t) :
    t.datagrams = s.datagrams ++
      (if s.backend.socket then
        (s.backend.connections u).toList.map fun addr => (addr, packet u stream data)
      else []) := by
  simp only [UdpRun.step] at h
  split at h
  · rw [if_neg (by simp)] at h
    cases h
    simp only [UdpRun.put, processCommand]
    split
    · cases s.backend.connections u <;> rfl
    · rfl
  · cases h

/-! ## Every run -/

theorem connections_eq_route {history : List (Input Addr)} {s : UdpRun Addr}
    (hfresh : Run.Along (UdpRun.step parse) Fresh UdpRun.init history)
    (hrun : Run.run (UdpRun.step parse) UdpRun.init history = some s) (u : Uuid) :
    s.backend.connections u = route parse u history := by
  have keep : ∀ (as : List (Input Addr)) (s : UdpRun Addr) (a : Input Addr) (t : UdpRun Addr),
      Routed parse as s → Fresh s a → UdpRun.step parse s a = some t →
        Routed parse (as ++ [a]) t := by
    intro as s a t hs hf hstep u
    rw [step_connections parse hstep, hs u, route, route, lastSource_append, connectTarget_append]
    cases hsrc : sourceFor u a with
    | some src => rfl
    | none =>
      cases htgt : targetFor parse u a with
      | none => rfl
      | some tgt =>
        -- a `Connect` creating `u`: freshness leaves no earlier datagram for `u`
        have hnone : route parse u as = none := by
          rw [← hs u]
          unfold targetFor at htgt
          split at htgt
          · split at htgt
            · next henv => rw [← henv]; exact hf
            · cases htgt
          · cases htgt
        have hlast : lastSource u as = none := by
          rw [route, Option.or_eq_none_iff] at hnone
          exact hnone.1
        rw [hlast]
        rfl
  have hinit : Routed parse [] (UdpRun.init : UdpRun Addr) := fun _ => rfl
  exact Run.invariant_of_history keep history hinit hfresh hrun u

/-- The routing table follows the inputs, every `Send` goes to the route of its
UUID under that UUID, and an input touches nothing of any other UUID. -/
theorem routing (history : List (Input Addr)) (s : UdpRun Addr)
    (hfresh : Run.Along (UdpRun.step parse) Fresh UdpRun.init history)
    (hrun : Run.run (UdpRun.step parse) UdpRun.init history = some s) :
    (∀ u, s.backend.connections u = route parse u history) ∧
      (∀ env u stream data t,
        UdpRun.step parse s (.command env (.send u stream data)) = some t →
          t.datagrams = s.datagrams ++
            (if s.backend.socket then
              (route parse u history).toList.map fun addr => (addr, packet u stream data)
            else [])) ∧
      ∀ a t, UdpRun.step parse s a = some t →
        ∀ v, subject parse a ≠ some v →
          t.backend.connections v = s.backend.connections v ∧
            t.backend.knownStreams v = s.backend.knownStreams v ∧
            ∃ new, t.events = s.events ++ new ∧ ∀ e ∈ new, e.connection ≠ v := by
  have hroute := connections_eq_route parse hfresh hrun
  refine ⟨hroute, ?_, fun a t hstep v hv => step_frame parse hstep hv⟩
  intro env u stream data t hstep
  rw [step_send parse hstep, hroute u]

end Routing

/-- A client connects and then answers from another address. -/
def roamHistory : List (Input Nat) :=
  [.command { bindOk := true, newV4 := Uuid.nil } (.connect "10.0.0.1" 8080),
    .datagram (packet Uuid.nil { streamId := 4 } []) 2]

theorem routing_roam :
    ∃ s, Run.run (UdpRun.step fun _ => some 1) UdpRun.init roamHistory = some s ∧
      s.backend.connections Uuid.nil = some 2 :=
  ⟨_, rfl, (routing (fun _ => some 1) roamHistory _ ⟨rfl, trivial, trivial⟩ rfl).1 Uuid.nil⟩

end Udp
end GameSockets
