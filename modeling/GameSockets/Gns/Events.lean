/-
The order of the events of `GnsBackend`.

A message of a registered handle opens its stream if the id is new for the UUID.  The
list of known streams is written by messages, and dropped with the connection.
-/
import GameSockets.Gns.Registry
import GameSockets.StreamHistory

namespace GameSockets
namespace Gns

open Library

section Events

variable {Handle : Type} [DecidableEq Handle] {parse : String → Option Ipv4Addr}

namespace GnsRun

/-! ## What is done to a stream -/

/-- What an input does to stream `st` of connection `c`. -/
def act (c : Uuid) (st : GameStream) (s : GnsRun Handle) : Input Handle → Option StreamAct
  | .command _ cmd => cmd.act c st
  | .event _ _ _ _ => none
  | .message conn payload =>
    (s.backend.handleToUuid conn).bind fun uuid =>
      if 2 ≤ payload.length then
        receiptAct uuid (getU16 (payload.take 2)) (s.backend.known uuid) c st
      else none

/-- What the inputs do to each stream. -/
def history (parse : String → Option Ipv4Addr) (inputs : List (Input Handle)) (c : Uuid)
    (st : GameStream) : List StreamAct :=
  Run.observe (step parse) (fun s a => (act c st s a).toList) init inputs

omit [DecidableEq Handle] in
theorem processCommand_marks {env : CommandEnv} {b : GnsBackend Handle} {cmd : BackendCommand}
    {r : GnsBackend Handle × Output Handle} (h : processCommand parse env b cmd = some r)
    (c : Uuid) (st : GameStream) :
    streamMarks c st r.2.events = (cmd.act c st).toList.flatMap StreamAct.marks := by
  cases cmd with
  | bind addr port =>
    simp only [processCommand] at h
    split at h <;> cases h
    rfl
  | connect addr port =>
    simp only [processCommand] at h
    split at h <;> cases h <;> rfl
  | send c' st' data =>
    simp only [processCommand] at h
    split at h <;> cases h <;> rfl
  | createStream c' i r =>
    cases h
    exact marks_createStream c st c' i r
  | closeStream c' i =>
    cases h
    exact marks_closeStream c st c' i
  | shutdown => cases h

/-- The events of one step say of a stream what the step does to it. -/
theorem step_marks {s t : GnsRun Handle} {a : Input Handle} (h : step parse s a = some t) :
    ∃ new, t.events = s.events ++ new ∧
      ∀ c st, streamMarks c st new = (act c st s a).toList.flatMap StreamAct.marks := by
  cases steps_of_step h with
  | @stop env cmd hreturns =>
    refine ⟨[], (List.append_nil _).symm, fun c st => ?_⟩
    cases cmd with
    | createStream c' i r => cases hreturns
    | closeStream c' i => cases hreturns
    | _ => rfl
  | command hcommand => exact ⟨_, rfl, processCommand_marks hcommand⟩
  | register => exact ⟨_, rfl, fun c st => rfl⟩
  | disconnect => exact ⟨_, rfl, fun c st => rfl⟩
  | quiet => exact ⟨_, rfl, fun c st => rfl⟩
  | @drop conn payload hdrop =>
    refine ⟨_, rfl, fun c st => ?_⟩
    have hnone : act c st s (.message conn payload) = none := by
      refine Option.bind_eq_none_iff.mpr fun uuid hconn => if_neg fun hlen => ?_
      rcases hdrop with hnone | hshort
      · rw [hnone] at hconn
        cases hconn
      · omega
    rw [hnone]
    rfl
  | @receive conn payload uuid hconn hlen hknown =>
    refine ⟨_, rfl, fun c st => ?_⟩
    simp only [act, hconn, Option.bind_some, if_pos hlen]
    exact marks_receive uuid hknown _ c st
  | @receiveNew conn payload uuid hconn hlen hnew =>
    refine ⟨_, rfl, fun c st => ?_⟩
    simp only [act, hconn, Option.bind_some, if_pos hlen]
    exact marks_receiveNew uuid hnew _ c st

theorem enacts_of_run {inputs : List (Input Handle)} {s : GnsRun Handle}
    (hrun : Run.run (step parse) init inputs = some s) :
    Enacts (history parse inputs) s.events :=
  enacts_of_steps (fun _ _ _ => step_marks) rfl hrun

/-! ## Every message is introduced -/

/-- What the tables hold has been announced. -/
structure Announced (s : GnsRun Handle) : Prop where
  registered : Registered s
  created : ∀ u, ∀ id ∈ s.backend.known u, .streamCreated u { streamId := id } ∈ s.events
  introduces : Introduces s.events

omit [DecidableEq Handle] in
theorem announced_init : Announced (init : GnsRun Handle) := by
  refine ⟨registered_init, fun u id hid => ?_, fun before c st data after hlog => ?_⟩
  · cases hid
  · cases before <;> cases hlog

omit [DecidableEq Handle] in
/-- What a registered handle delivers comes after its `Connected` and before its
`Disconnected`. -/
theorem Announced.introduced {s : GnsRun Handle} (h : Announced s) {conn : Handle} {uuid : Uuid}
    (hconn : s.backend.handleToUuid conn = some uuid) :
    .connected uuid ∈ s.events ∧ .disconnected uuid ∉ s.events := by
  refine (h.registered.live uuid).mp ?_
  rw [(h.registered.inverse conn uuid).mp hconn]
  exact Option.some_ne_none conn

theorem announced_step {s t : GnsRun Handle} {a : Input Handle} (h : Announced s)
    (hassumed : Assumed s a) (hstep : step parse s a = some t) : Announced t := by
  have hreg := registered_step h.registered hassumed hstep
  have hgrow : ∀ {e : GameNetworkEvent} {new}, e ∈ s.events → e ∈ s.events ++ new :=
    fun he => List.mem_append_left _ he
  cases steps_of_step hstep with
  | stop => exact ⟨hreg, h.created, h.introduces⟩
  | @command env cmd r hcommand =>
    obtain ⟨-, -, hstreams, hpassing⟩ := processCommand_keeps hcommand
    refine ⟨hreg, fun u id hid => hgrow (h.created u id ?_),
      introduces_append h.introduces fun e he => (hpassing e he).2⟩
    rwa [GnsBackend.known, show (s.put r).backend.knownStreams = _ from hstreams] at hid
  | register =>
    exact ⟨hreg, fun u id hid => hgrow (h.created u id hid),
      introduces_append h.introduces (by simp [GameNetworkEvent.delivered])⟩
  | @disconnect env conn old new uuid =>
    refine ⟨hreg, fun u id hid => hgrow (h.created u id ?_),
      introduces_append h.introduces (by simp [GameNetworkEvent.delivered])⟩
    by_cases heq : u = uuid
    · subst heq
      simp [put, GnsBackend.unregister, GnsBackend.known] at hid
    · simpa [put, GnsBackend.unregister, GnsBackend.known, heq] using hid
  | quiet =>
    exact ⟨hreg, fun u id hid => hgrow (h.created u id hid),
      introduces_append h.introduces (by simp)⟩
  | drop =>
    exact ⟨hreg, fun u id hid => hgrow (h.created u id hid),
      introduces_append h.introduces (by simp)⟩
  | @receive conn payload uuid hconn hlen hknown =>
    obtain ⟨hconnected, hopen⟩ := h.introduced hconn
    refine ⟨hreg, fun u id hid => hgrow (h.created u id ?_), ?_⟩
    · by_cases heq : u = uuid
      · subst heq
        simpa [put, GnsBackend.known] using hid
      · simpa [put, GnsBackend.known, heq] using hid
    · exact introduces_append_message _ h.introduces hconnected (h.created uuid _ hknown) hopen
  | @receiveNew conn payload uuid hconn hlen hnew =>
    obtain ⟨hconnected, hopen⟩ := h.introduced hconn
    refine ⟨hreg, fun u id hid => ?_, ?_⟩
    · by_cases hold : id ∈ s.backend.known u
      · exact hgrow (h.created u id hold)
      · by_cases heq : u = uuid
        · subst heq
          have hid' : id ∈ s.backend.known u ++ [getU16 (payload.take 2)] := by
            simpa [put, GnsBackend.known] using hid
          rw [List.mem_singleton.mp ((List.mem_append.mp hid').resolve_left hold)]
          exact List.mem_append_right _ List.mem_cons_self
        · exact absurd (by simpa [put, GnsBackend.known, heq] using hid) hold
    · exact introduces_append_first _ h.introduces hconnected hopen

theorem announced_of_run {inputs : List (Input Handle)} {s : GnsRun Handle}
    (hassumed : Run.Along (step parse) Assumed init inputs)
    (hrun : Run.run (step parse) init inputs = some s) : Announced s :=
  Run.invariant (fun _ _ _ => announced_step) inputs announced_init hassumed hrun

end GnsRun

end Events

end Gns
end GameSockets
