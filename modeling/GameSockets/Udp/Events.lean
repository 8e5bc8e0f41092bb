/-
The order of the events of `UdpBackend`.

A datagram opens what it needs: its connection if the UUID is new, its stream if the
id is new for the UUID.  The list of known streams is written by datagrams alone.
-/
import GameSockets.StreamHistory
import GameSockets.Udp.Datagram

namespace GameSockets
namespace Udp

open Library

section Events

variable {Addr : Type} (parse : String → Option Addr)

namespace UdpBackend

/-- The streams that the backend knows of a UUID. -/
def known (s : UdpBackend Addr) (u : Uuid) : List UInt16 := (s.knownStreams u).getD []

theorem noteStream_events (s : UdpBackend Addr) (u : Uuid) (id : UInt16) :
    (noteStream s u id).2 =
      if id ∈ s.known u then [] else [.streamCreated u { streamId := id }] := by
  unfold noteStream known
  dsimp only
  split <;> rfl

theorem known_noteStream (s : UdpBackend Addr) (u : Uuid) (id : UInt16) (v : Uuid) (i : UInt16) :
    i ∈ (noteStream s u id).1.known v ↔ i ∈ s.known v ∨ v = u ∧ i = id := by
  by_cases hv : v = u
  · subst hv
    unfold noteStream known
    dsimp only
    split
    · next hid =>
      dsimp only
      rw [Function.update_self, Option.getD_some]
      refine ⟨Or.inl, ?_⟩
      rintro (hi | ⟨-, rfl⟩)
      · exact hi
      · exact hid
    · dsimp only
      rw [Function.update_self, Option.getD_some, List.mem_append, List.mem_singleton]
      simp
  · rw [known, known, noteStream_knownStreams_of_ne s hv]
    simp [hv]

end UdpBackend

namespace UdpRun

variable {parse}

/-! ## What is done to a stream -/

/-- What an input does to stream `st` of connection `c`. -/
def act (c : Uuid) (st : GameStream) (s : UdpRun Addr) : Input Addr → Option StreamAct
  | .command _ cmd => cmd.act c st
  | .datagram bytes _ =>
    (datagramUuid bytes).bind fun u =>
      receiptAct u (datagramStream bytes) (s.backend.known u) c st
  | .recvError => none

/-- What the inputs do to each stream. -/
def history (parse : String → Option Addr) (inputs : List (Input Addr)) (c : Uuid)
    (st : GameStream) : List StreamAct :=
  Run.observe (step parse) (fun s a => (act c st s a).toList) init inputs

/-- The events of one step say of a stream what the step does to it. -/
theorem step_marks {s t : UdpRun Addr} {a : Input Addr} (h : step parse s a = some t) :
    ∃ new, t.events = s.events ++ new ∧
      ∀ c st, streamMarks c st new = (act c st s a).toList.flatMap StreamAct.marks := by
  cases steps_of_step h with
  | shutdown => exact ⟨[], (List.append_nil _).symm, fun c st => rfl⟩
  | @command env cmd =>
    refine ⟨_, rfl, fun c st => ?_⟩
    generalize hout : processCommand parse env s.backend cmd = out
    cases processes_of_processCommand hout with
    | @createStream c' i r => exact marks_createStream c st c' i r
    | @closeStream c' i => exact marks_closeStream c st c' i
    | _ => rfl
  | noise hnone =>
    exact ⟨[], (List.append_nil _).symm, fun c st => by simp [act, hnone, streamMarks]⟩
  | @packet bytes src u data hu =>
    refine ⟨_, rfl, fun c st => ?_⟩
    have haddress : streamMarks c st (noteAddress s.backend u src).2 = [] := by
      rw [streamMarks, List.filterMap_eq_nil_iff]
      intro e he
      rw [eq_of_mem_noteAddress he]
      rfl
    have hknown : (noteAddress s.backend u src).1.known u = s.backend.known u := rfl
    rw [List.append_assoc, streamMarks_append, haddress, List.nil_append,
      UdpBackend.noteStream_events, hknown, act, hu, Option.bind_some]
    split
    · next hid => exact marks_receive u hid data c st
    · next hid => exact marks_receiveNew u hid data c st
  | recvError => exact ⟨[], (List.append_nil _).symm, fun c st => rfl⟩

theorem enacts_of_run {inputs : List (Input Addr)} {s : UdpRun Addr}
    (hrun : Run.run (step parse) init inputs = some s) :
    Enacts (history parse inputs) s.events :=
  enacts_of_steps (fun _ _ _ => step_marks) rfl hrun

/-! ## Every message is introduced -/

/-- What the tables hold has been announced, and nothing is disconnected. -/
structure Announced (s : UdpRun Addr) : Prop where
  connected : ∀ u, s.backend.connections u ≠ none → .connected u ∈ s.events
  created : ∀ u, ∀ id ∈ s.backend.known u, .streamCreated u { streamId := id } ∈ s.events
  stays : ∀ u, .disconnected u ∉ s.events
  introduces : Introduces s.events

/-- A step that puts out events of its own and leaves the tables alone. -/
theorem announced_put {s : UdpRun Addr} {events : List GameNetworkEvent}
    {datagrams : List (Addr × Bytes)} {b : UdpBackend Addr} (h : Announced s)
    (hconnections : ∀ u, b.connections u ≠ none →
      s.backend.connections u ≠ none ∨ .connected u ∈ events)
    (hknown : b.knownStreams = s.backend.knownStreams)
    (hstays : ∀ u, .disconnected u ∉ events) (hsilent : ∀ e ∈ events, e.delivered = none) :
    Announced (s.put (b, { events := events, datagrams := datagrams })) := by
  refine ⟨fun u hu => ?_, fun u id hid => ?_, fun u hu => ?_,
    introduces_append h.introduces hsilent⟩
  · rcases hconnections u hu with hu | hu
    · exact List.mem_append_left _ (h.connected u hu)
    · exact List.mem_append_right _ hu
  · rw [UdpBackend.known, show (s.put (b, _)).backend.knownStreams = _ from hknown] at hid
    exact List.mem_append_left _ (h.created u id hid)
  · exact (List.mem_append.mp hu).elim (h.stays u) (hstays u)

theorem announced_step {s t : UdpRun Addr} {a : Input Addr} (h : Announced s)
    (hstep : step parse s a = some t) : Announced t := by
  cases steps_of_step hstep with
  | shutdown => exact ⟨h.connected, h.created, h.stays, h.introduces⟩
  | @command env cmd =>
    generalize hout : processCommand parse env s.backend cmd = out
    cases processes_of_processCommand hout with
    | connect hparse =>
      refine announced_put h (fun u hu => ?_) rfl (by simp) (by simp [GameNetworkEvent.delivered])
      by_cases heq : u = env.newV4
      · exact Or.inr (by simp [heq])
      · dsimp only at hu
        rw [Function.update_of_ne heq] at hu
        exact Or.inl hu
    | createStream =>
      exact announced_put h (fun u => Or.inl) rfl (by simp) (by simp [GameNetworkEvent.delivered])
    | closeStream =>
      exact announced_put h (fun u => Or.inl) rfl (by simp) (by simp [GameNetworkEvent.delivered])
    | _ => exact announced_put h (fun u => Or.inl) rfl (by simp) (by simp)
  | noise => exact h
  | @packet bytes src u data =>
    -- The tables and the events before the `Message` itself.
    let id := datagramStream bytes
    let opened := (noteAddress s.backend u src).2 ++
      (noteStream (noteAddress s.backend u src).1 u id).2
    have hconnected : ∀ v, (v = u ∨ s.backend.connections v ≠ none) →
        .connected v ∈ s.events ++ opened := by
      intro v hv
      by_cases hnone : s.backend.connections v = none
      · have hv := hv.resolve_right (fun hne => hne hnone)
        subst hv
        simp [opened, noteAddress, hnone]
      · exact List.mem_append_left _ (h.connected v hnone)
    have hcreated : ∀ v, ∀ i, (i ∈ s.backend.known v ∨ v = u ∧ i = id) →
        .streamCreated v { streamId := i } ∈ s.events ++ opened := by
      intro v i hi
      by_cases hknown : i ∈ s.backend.known v
      · exact List.mem_append_left _ (h.created v i hknown)
      · obtain ⟨rfl, rfl⟩ := hi.resolve_left hknown
        have hnot : id ∉ (noteAddress s.backend v src).1.known v := hknown
        simp [opened, UdpBackend.noteStream_events, hnot]
    have hsilent : ∀ e ∈ opened, e.delivered = none := by
      intro e he
      rcases List.mem_append.mp he with he | he
      · rw [eq_of_mem_noteAddress he]
        rfl
      · rw [eq_of_mem_noteStream he]
        rfl
    have hstays : ∀ v, .disconnected v ∉ s.events ++ opened := by
      intro v hv
      rcases List.mem_append.mp hv with hv | hv
      · exact h.stays v hv
      · rcases List.mem_append.mp hv with hv | hv
        · cases eq_of_mem_noteAddress hv
        · cases eq_of_mem_noteStream hv
    have hevents : ∀ b, (s.put (b, { events := opened ++ [.message u { streamId := id } data] })
        ).events = s.events ++ opened ++ [.message u { streamId := id } data] :=
      fun b => (List.append_assoc s.events opened _).symm
    refine ⟨fun v hv => ?_, fun v i hi => ?_, fun v hv => ?_, ?_⟩
    · rw [hevents]
      refine List.mem_append_left _ (hconnected v ?_)
      by_cases heq : v = u
      · exact Or.inl heq
      · dsimp only [put] at hv
        rw [noteStream_connections, noteAddress] at hv
        dsimp only at hv
        rw [Function.update_of_ne heq] at hv
        exact Or.inr hv
    · rw [hevents]
      refine List.mem_append_left _ (hcreated v i ?_)
      exact (UdpBackend.known_noteStream (noteAddress s.backend u src).1 u id v i).mp hi
    · rw [hevents] at hv
      rcases List.mem_append.mp hv with hv | hv
      · exact hstays v hv
      · cases List.mem_singleton.mp hv
    · rw [hevents]
      exact introduces_append_message data (introduces_append h.introduces hsilent)
        (hconnected u (Or.inl rfl)) (hcreated u id (Or.inr ⟨rfl, rfl⟩)) (hstays u)
  | recvError => exact h

theorem announced_init : Announced (init : UdpRun Addr) := by
  refine ⟨fun u hu => absurd rfl hu, fun u id hid => ?_, fun u hu => ?_,
    fun before c st data after hlog => ?_⟩
  · cases hid
  · cases hu
  · cases before <;> cases hlog

theorem announced_of_run {inputs : List (Input Addr)} {s : UdpRun Addr}
    (hrun : Run.run (step parse) init inputs = some s) : Announced s :=
  Run.invariant_of_run (fun _ _ _ => announced_step) announced_init hrun

end UdpRun

end Events

end Udp
end GameSockets
