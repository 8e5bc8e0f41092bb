/-
Whether `UdpBackend` has a socket for the connections it reports.

`Connect` goes on to enter its connection when the bind before it has failed.  Until a
later command binds, what is sent on the connection goes nowhere.
-/
import GameSockets.Udp.Accept

namespace GameSockets
namespace Udp

open Library History

section Socket

variable {Addr : Type}

/-- The input leaves the backend with a socket, whatever was there before. -/
def binds : Input Addr → Bool
  | .command env (.bind _ _) => env.bindOk
  | .command env (.connect _ _) => env.bindOk
  | _ => false

namespace UdpRun

/-- A connection has a socket to send on. -/
def Working (s : UdpRun Addr) : Prop :=
  (∃ c, s.backend.connections c ≠ none) → s.backend.socket = true

variable (parse : String → Option Addr)

/-- A `Connect` that enters a connection comes after a bind that succeeded, if its own did
not. -/
def Supported (before : List (Input Addr)) (a : Input Addr) : Prop :=
  drawn parse a ≠ none → ∃ b ∈ before ++ [a], binds b = true

/-- There is a socket once an input has bound one. -/
def Bound (inputs : List (Input Addr)) (s : UdpRun Addr) : Prop :=
  s.backend.socket = true ↔ ∃ a ∈ inputs, binds a = true

variable {parse}

/-! ## One step -/

theorem socket_processCommand (env : CommandEnv) (b : UdpBackend Addr) (cmd : BackendCommand) :
    (processCommand parse env b cmd).1.socket =
      (b.socket || binds (.command env cmd : Input Addr)) := by
  generalize hout : processCommand parse env b cmd = out
  cases processes_of_processCommand hout with
  | bind => rfl
  | connect hparse => rfl
  | unparsed hparse => rfl
  | _ => exact (Bool.or_false _).symm

theorem socket_noteStream (b : UdpBackend Addr) (u : Uuid) (id : UInt16) :
    (noteStream b u id).1.socket = b.socket := by
  unfold noteStream
  dsimp only
  split <;> rfl

theorem socket_step {s t : UdpRun Addr} {a : Input Addr} (h : step parse s a = some t) :
    t.backend.socket = (s.backend.socket || binds a) := by
  cases steps_of_step h with
  | shutdown => exact (Bool.or_false _).symm
  | command hcmd => exact socket_processCommand _ _ _
  | noise hnone => exact (Bool.or_false _).symm
  | @packet bytes src u data hu =>
    show (noteStream (noteAddress s.backend u src).1 u (datagramStream bytes)).1.socket = _
    rw [socket_noteStream]
    exact (Bool.or_false _).symm
  | recvError => exact (Bool.or_false _).symm

/-- A datagram reaches a socket. -/
theorem socket_of_carried {s t : UdpRun Addr} {a : Input Addr} {u : Uuid}
    (h : step parse s a = some t) (hu : carried a = some u) : s.backend.socket = true := by
  cases a with
  | command env cmd => cases hu
  | recvError => cases hu
  | datagram bytes src =>
    rw [step] at h
    split at h
    · next hready => exact (Bool.and_eq_true_iff.mp hready).2
    · cases h

theorem bound_step {inputs : List (Input Addr)} {s t : UdpRun Addr} {a : Input Addr}
    (h : Bound inputs s) (hstep : step parse s a = some t) : Bound (inputs ++ [a]) t := by
  rw [Bound] at h ⊢
  rw [socket_step hstep, Bool.or_eq_true, h]
  simp [or_and_right, exists_or]

/-- Without a socket nothing is handed to one. -/
theorem datagrams_step {s t : UdpRun Addr} {a : Input Addr}
    (h : s.backend.socket = false → s.datagrams = []) (hstep : step parse s a = some t) :
    t.backend.socket = false → t.datagrams = [] := by
  intro hsocket
  rw [socket_step hstep, Bool.or_eq_false_iff] at hsocket
  have hbefore : s.datagrams = [] := h hsocket.1
  cases steps_of_step hstep with
  | shutdown => exact hbefore
  | @command env cmd hcmd =>
    show s.datagrams ++ _ = []
    rw [hbefore, List.nil_append]
    generalize hout : processCommand parse env s.backend cmd = out
    cases processes_of_processCommand hout with
    | send hbound hremote => exact absurd (hsocket.1.symm.trans hbound) Bool.false_ne_true
    | _ => rfl
  | noise hnone => exact hbefore
  | packet hu =>
    show s.datagrams ++ [] = []
    rw [hbefore, List.nil_append]
  | recvError => exact hbefore

/-- From a state whose connections have a socket, a step leads to one exactly when it comes
after a bind for what it enters. -/
theorem working_step_iff {inputs : List (Input Addr)} {s t : UdpRun Addr} {a : Input Addr}
    (h : Bound inputs s) (hworking : Working s) (hstep : step parse s a = some t) :
    Working t ↔ Supported parse inputs a := by
  have hbound : Bound (inputs ++ [a]) t := bound_step h hstep
  constructor
  · intro hnext hdrawn
    obtain ⟨u, hu⟩ := Option.ne_none_iff_exists'.mp hdrawn
    have hentered : t.backend.connections u ≠ none :=
      (connections_step hstep u).mpr (Or.inr (Or.inl hu))
    exact hbound.mp (hnext ⟨u, hentered⟩)
  · intro hsupported hsome
    obtain ⟨u, hu⟩ := hsome
    rcases (connections_step hstep u).mp hu with hold | hdrawn | hcarried
    · rw [socket_step hstep, hworking ⟨u, hold⟩, Bool.true_or]
    · exact hbound.mpr (hsupported (by rw [hdrawn]; exact nofun))
    · rw [socket_step hstep, socket_of_carried hstep hcarried, Bool.true_or]

/-! ## Every run -/

theorem bound_init : Bound [] (init : UdpRun Addr) :=
  iff_of_false Bool.false_ne_true fun ⟨_, ha, _⟩ => List.not_mem_nil ha

/-- The connections of a reachable state are those that were reported. -/
theorem working_iff_reported {inputs : List (Input Addr)} {s : UdpRun Addr}
    (hrun : Run.run (step parse) init inputs = some s) :
    Working s ↔ ((∃ c, .connected c ∈ s.events) → s.backend.socket = true) := by
  have hreported : Reported s :=
    Run.invariant_of_run (fun _ _ _ => reported_of_step) reported_init hrun
  exact imp_congr_left (exists_congr hreported)

/-- A backend that never got a socket has sent nothing. -/
theorem datagrams_eq_nil {inputs : List (Input Addr)} {s : UdpRun Addr}
    (hrun : Run.run (step parse) init inputs = some s) (hsocket : s.backend.socket = false) :
    s.datagrams = [] :=
  @Run.invariant_of_run _ _ _ (fun s => s.backend.socket = false → s.datagrams = [])
    (fun _ _ _ => datagrams_step) inputs init s (fun _ => rfl) hrun hsocket

/-- The connections have a socket throughout a run exactly when every `Connect` that enters
one comes after a bind that succeeded. -/
theorem working_iff (parse : String → Option Addr) (inputs : List (Input Addr)) (s : UdpRun Addr)
    (hrun : Run.run (step parse) init inputs = some s) :
    Run.Prefixes (step parse) (fun _ => Working) init inputs ↔ Always (Supported parse) inputs :=
  Run.prefixes_iff_always_of_history (fun _ _ _ _ => bound_step)
    (fun _ _ _ _ => working_step_iff) bound_init (fun ⟨_, hc⟩ => absurd rfl hc) inputs hrun

/-- The first bind fails, the second does not. -/
def rebound : List (Input Nat) :=
  [.command { bindOk := false, newV4 := Uuid.nil } (.bind "10.0.0.1" 80),
    .command { bindOk := true, newV4 := Uuid.nil } (.connect "10.0.0.1" 8080)]

theorem working_rebound :
    ∃ s, Run.run (step fun _ => some 1) init rebound = some s ∧
      s.events = [.connected Uuid.nil] ∧
      Run.Prefixes (step fun _ => some 1) (fun _ => Working) init rebound := by
  refine ⟨_, rfl, rfl, ?_⟩
  apply (working_iff (fun _ => some 1) rebound _ rfl).mpr
  rw [rebound, ← List.singleton_append, always_append_singleton, ← List.nil_append [_],
    always_append_singleton]
  refine ⟨⟨always_nil _, fun hdrawn => absurd rfl hdrawn⟩, fun _ => ?_⟩
  exact ⟨_, List.mem_append_right _ (List.mem_singleton_self _), rfl⟩

/-- A client without a socket to its name connects and sends. -/
def refused : List (Input Nat) :=
  [.command { bindOk := false, newV4 := Uuid.nil } (.connect "10.0.0.1" 8080),
    .command { bindOk := false, newV4 := Uuid.nil } (.send Uuid.nil { streamId := 4 } [7])]

/-- It is told of the connection, and its message is dropped. -/
theorem not_working_refused :
    ∃ s, Run.run (step fun _ => some 1) init refused = some s ∧
      s.events = [.connected Uuid.nil] ∧ s.datagrams = [] ∧ ¬ Working s := by
  refine ⟨_, rfl, rfl, rfl, fun h => ?_⟩
  have hentered : Function.update (fun _ : Uuid => (none : Option Nat)) Uuid.nil (some 1) Uuid.nil
      ≠ none := by
    rw [Function.update_self]
    exact nofun
  exact Bool.false_ne_true (h ⟨Uuid.nil, hentered⟩)

end UdpRun

end Socket

end Udp
end GameSockets
