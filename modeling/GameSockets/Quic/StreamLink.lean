/-
One reliable stream between two backends, in both directions.

The left end opens the stream with a `CreateStream`, the right end accepts it, and each keeps a
sending half and a reader of its own.  The stream is watched by the numbers of its registrations
and readers, so other streams may share its key; all else that happens to an end is left open.
QUIC carries the bytes of each direction in order, and cuts them as it likes.
-/
import GameSockets.Quic.Half
import GameSockets.Quic.Pair

namespace GameSockets
namespace Quic

open Library Framing

/-- What an end has of the stream: the number of its registration and of its reader, and whether
a write on it has failed. -/
structure Side where
  half : Nat
  reader : Nat
  broken : Bool
deriving DecidableEq

namespace Side

/-- The next registration and the next reader of a backend. -/
def next (s : QuicBackend) : Side :=
  { half := s.streamReg.log.length, reader := s.streamReaders.length, broken := false }

/-- The action is an arrival of bytes on the stream. -/
def reads (side : Side) : Action → Bool
  | .readStream k _ => k = side.reader
  | _ => false

/-- The action is a write on the stream that fails. -/
def fails (side : Side) (s : QuicBackend) : Action → Bool
  | .command env => (s.attempt side.half (.command env)).isSome && env.sendError.isSome
  | _ => false

/-- A stream on which a write has failed takes no further byte. -/
def refuses (side : Side) (s : QuicBackend) : Action → Bool
  | .command env =>
    side.broken && (s.attempt side.half (.command env)).isSome &&
      !env.sendError.any fun (n, _) => n = 0
  | _ => false

def after (side : Side) (s : QuicBackend) (a : Action) : Side :=
  { side with broken := side.broken || side.fails s a }

end Side

/-- Two backends, what each has of the stream, and the bytes that each has written on it and that
have not arrived at the other. -/
structure StreamLink where
  ends : End → QuicBackend
  sides : End → Option Side
  wires : End → Bytes

inductive LinkAction where
  /-- an action of one end, other than to read the stream -/
  | backend (e : End) (a : Action)
  /-- the left loop opens the stream -/
  | openStream (env : CommandEnv)
  /-- the right end accepts it -/
  | acceptStream
  /-- bytes of the stream arrive at an end, at most `n` of them -/
  | arrive (e : End) (n : Nat)

namespace StreamLink

def init : StreamLink :=
  { ends := fun _ => .init, sides := fun _ => none, wires := fun _ => [] }

section Step

variable (uuid : End → Uuid)

/-- Each end has a UUID for the connection. -/
def step (s : StreamLink) : LinkAction → Option StreamLink
  | .backend e a =>
    match s.sides e with
    | none => ((s.ends e).step a).map fun b => { s with ends := Function.update s.ends e b }
    | some side =>
      if side.reads a || side.refuses (s.ends e) a then none
      else
        ((s.ends e).step a).map fun b =>
          { ends := Function.update s.ends e b,
            sides := Function.update s.sides e (some (side.after (s.ends e) a)),
            wires := Function.update s.wires e (s.wires e ++ (s.ends e).growth b side.half) }
  | .openStream env =>
    if s.sides .left = none ∧ (s.ends .left).opens (uuid .left) (.command env) ≠ [] then
      ((s.ends .left).step (.command env)).map fun b =>
        { ends := Function.update s.ends .left b,
          sides := Function.update s.sides .left (some (Side.next (s.ends .left))),
          wires := Function.update s.wires .left
            ((b.half (Side.next (s.ends .left)).half).elim [] SendStream.written) }
    else none
  | .acceptStream =>
    if s.sides .left ≠ none ∧ s.sides .right = none then
      ((s.ends .right).step (.acceptStream (uuid .right) ((s.wires .left).take 2))).map fun b =>
        { ends := Function.update s.ends .right b,
          sides := Function.update s.sides .right (some (Side.next (s.ends .right))),
          wires := Function.update s.wires .left ((s.wires .left).drop 2) }
    else none
  | .arrive e n =>
    match s.sides e with
    | none => none
    | some side =>
      ((s.ends e).step (.readStream side.reader ((s.wires e.other).take n))).map fun b =>
        { s with
          ends := Function.update s.ends e b,
          wires := Function.update s.wires e.other ((s.wires e.other).drop n) }

/-- The `Send` that an end takes for the stream, as long as the stream takes bytes. -/
def sent (e : End) (s : StreamLink) : LinkAction → Option (GameStream × Bytes)
  | .backend e' a =>
    if e' = e then
      (s.sides e).bind fun side =>
        if side.broken then none else (s.ends e).attempt side.half a
    else none
  | _ => none

/-- The events that an end's reader of the stream emits. -/
def heard (e : End) (s : StreamLink) (a : LinkAction) : List GameNetworkEvent :=
  match a with
  | .arrive e' _ =>
    if e' = e then
      (s.step uuid a).elim [] fun t =>
        (t.ends e).peer.eventRx.log.drop (s.ends e).peer.eventRx.log.length
    else []
  | _ => []

/-- The `Send`s of an end that the actions write on the stream. -/
def sends (e : End) (actions : List LinkAction) : List (GameStream × Bytes) :=
  Run.observe (step uuid) (fun s a => (sent e s a).toList) init actions

/-- What the actions deliver of the stream at an end. -/
def hears (e : End) (actions : List LinkAction) : List GameNetworkEvent :=
  Run.observe (step uuid) (heard uuid e) init actions

end Step

/-! ## One direction -/

section Direction

variable {u : Uuid} {i : UInt16} {b b' : QuicBackend} {side : Side}
  {sent : List (GameStream × Bytes)} {events : List GameNetworkEvent} {buf wire : Bytes}
  {broken : Bool}

/-- The end has registered the stream, with a half to send on. -/
def Sends (u : Uuid) (i : UInt16) (b : QuicBackend) (side : Side) : Prop :=
  ∃ r, b.streamReg.log[side.half]? = some r ∧ r.stream = GameStream.new i .reliable ∧
    r.connection = u ∧ r.sendStream ≠ none

/-- The end reads the stream, and holds the bytes `buf` of it. -/
def Reads (u : Uuid) (i : UInt16) (b : QuicBackend) (side : Side) (buf : Bytes) : Prop :=
  b.streamReaders[side.reader]? = some { uuid := u, streamId := i, buf := buf }

/-- One direction: the `Send`s written, the events of the reader at `u`, and what is between. -/
def Lane (u : Uuid) (i : UInt16) (sent : List (GameStream × Bytes))
    (events : List GameNetworkEvent) (buf wire : Bytes) (broken : Bool) : Prop :=
  ∃ payloads read, sent = payloads.map (fun data => (GameStream.new i .reliable, data)) ∧
    events = read.map (fun data => .message u (GameStream.new i .reliable) data) ∧
    Flow lengthSize payloads read buf wire broken

theorem lane_nil (u : Uuid) (i : UInt16) (broken : Bool) : Lane u i [] [] [] [] broken :=
  ⟨[], [], rfl, rfl, flow_nil (by decide) broken⟩

theorem Sends.step {a : Action} (h : Sends u i b side) (hstep : b.step a = some b') :
    Sends u i b' side := by
  obtain ⟨r, hlog, hr⟩ := h
  exact ⟨r, QuicBackend.streamReg_of_step hstep hlog, hr⟩

/-- An end writes what it takes for the stream, and breaks off at a failure. -/
theorem Lane.write {a : Action} (h : Lane u i sent events buf wire side.broken) {v : Uuid}
    (hsends : Sends v i b side) (hstep : b.step a = some b') (hrefuses : side.refuses b a = false)
    {new : Option (GameStream × Bytes)}
    (hnew : new = if side.broken then none else b.attempt side.half a)
    (hlen : ∀ x ∈ new, x.2.length < 2 ^ 32) :
    Lane u i (sent ++ new.toList) events buf (wire ++ b.growth b' side.half)
      (side.after b a).broken := by
  obtain ⟨r, hlog, hstream, hconn, hhalf⟩ := hsends
  have hopens : r.Opens r.key := ⟨rfl, hstream ▸ isReliable_new i, hhalf⟩
  have hgrowth := QuicBackend.growth_of_step hlog hopens hstep
  cases hattempt : b.attempt side.half a with
  | none =>
    have hbroken : (side.after b a).broken = side.broken := by
      cases a <;> simp [Side.after, Side.fails, hattempt]
    have hnone : new = none := by rw [hnew, hattempt, ite_self]
    rw [hgrowth, hattempt, hbroken, hnone, Option.elim_none, Option.toList_none, List.append_nil,
      List.append_nil]
    exact h
  | some x =>
    obtain ⟨stream, data⟩ := x
    have hstream' : stream = GameStream.new i .reliable := by
      have hid := QuicBackend.attempt_eq_some hlog hattempt
      rw [hstream] at hid
      exact congrArg GameStream.mk hid
    subst hstream'
    cases a with
    | command env =>
      have hpushed : b.growth b' side.half = QuicBackend.pushed data (.command env) := by
        rw [hgrowth, hattempt]
        rfl
      have hafter : (side.after b (.command env)).broken =
          (side.broken || env.sendError.isSome) := by
        simp [Side.after, Side.fails, hattempt]
      rw [hpushed, hafter]
      by_cases hbroken : side.broken = true
      · -- the stream takes nothing more
        have hnothing : ∃ msg, env.sendError = some (0, msg) := by
          have hany : env.sendError.any (fun (n, _) => n = 0) = true := by
            simpa [Side.refuses, hbroken, hattempt] using hrefuses
          obtain ⟨⟨n, msg⟩, herror, hn⟩ := (Option.any_eq_true _ _).mp hany
          rw [decide_eq_true_eq] at hn
          exact ⟨msg, hn ▸ herror⟩
        obtain ⟨msg, herror⟩ := hnothing
        rw [if_pos hbroken] at hnew
        rw [hnew, QuicBackend.pushed_of_error herror, List.take_zero, Option.toList_none,
          List.append_nil, List.append_nil, hbroken, Bool.true_or]
        exact hbroken ▸ h
      · have hnew' : new = some (GameStream.new i .reliable, data) := by
          rw [hnew, if_neg hbroken, hattempt]
        have hframe : frame data = Framing.frame lengthSize data := frame_eq (hlen _ hnew')
        obtain ⟨payloads, read, rfl, rfl, hflow⟩ := h
        rw [Bool.eq_false_iff.mpr hbroken] at hflow ⊢
        refine ⟨payloads ++ [data], read, ?_, rfl, ?_⟩
        · rw [hnew', List.map_append]
          rfl
        · cases herror : env.sendError with
          | none =>
            rw [QuicBackend.pushed_of_ok herror, hframe]
            exact hflow.write data
          | some error =>
            rw [QuicBackend.pushed_of_error herror, hframe]
            exact hflow.breakOff data error.1
    | _ => cases hattempt

/-- Bytes arrive at an end. -/
theorem Lane.arrive {n : Nat} (h : Lane u i sent events buf wire broken)
    (hlen : ∀ x ∈ sent, x.2.length < 2 ^ 32) (hreads : Reads u i b side buf)
    (hstep : b.step (.readStream side.reader (wire.take n)) = some b') :
    ∃ buf', Reads u i b' side buf' ∧
      Lane u i sent (events ++ b'.peer.eventRx.log.drop b.peer.eventRx.log.length) buf'
        (wire.drop n) broken := by
  cases QuicBackend.steps_of_step hstep with
  | @readStream k chunk rest reader new hrunning hreader hread =>
    rw [hreads] at hreader
    cases hreader
    cases hread
    obtain ⟨payloads, read, rfl, rfl, hflow⟩ := h
    refine ⟨_, List.getElem?_set_self (List.getElem?_eq_some_iff.mp hreads).1, payloads,
      read ++ (parse lengthSize (buf ++ wire.take n).length (buf ++ wire.take n)).1, rfl, ?_, ?_⟩
    · rw [QuicBackend.emit, Channel.log_sendAll, List.drop_left, List.map_append]
    · rw [← List.take_append_drop n wire] at hflow
      refine Flow.arrive (by decide) (fun p hp => ?_) hflow
      exact hlen _ (List.mem_map_of_mem hp)

/-- The `Message` that a `Send` becomes at the other end. -/
def received (u : Uuid) (x : GameStream × Bytes) : GameNetworkEvent := .message u x.1 x.2

theorem Lane.isPrefix (h : Lane u i sent events buf wire broken) :
    events <+: sent.map (received u) := by
  obtain ⟨payloads, read, rfl, rfl, hflow⟩ := h
  rw [List.map_map]
  exact hflow.isPrefix.map _

theorem Lane.complete (h : Lane u i sent events buf [] false)
    (hlen : ∀ x ∈ sent, x.2.length < 2 ^ 32) : events = sent.map (received u) := by
  obtain ⟨payloads, read, rfl, rfl, hflow⟩ := h
  rw [List.map_map, hflow.complete fun p hp => hlen _ (List.mem_map_of_mem hp)]
  rfl

end Direction

/-! ## Both directions -/

section Both

variable {uuid : End → Uuid}

/-- The stream is not open yet. -/
structure Unopened (s : StreamLink) (sent : End → List (GameStream × Bytes))
    (events : End → List GameNetworkEvent) : Prop where
  sides : ∀ e, s.sides e = none
  wires : ∀ e, s.wires e = []
  sent : ∀ e, sent e = []
  events : ∀ e, events e = []

/-- The left end has opened the stream, and its index is still on the wire. -/
structure Opened (uuid : End → Uuid) (i : UInt16) (s : StreamLink)
    (sent : End → List (GameStream × Bytes)) (events : End → List GameNetworkEvent) (side : Side)
    (buf wire : Bytes) : Prop where
  left : s.sides .left = some side
  right : s.sides .right = none
  sends : Sends (uuid .left) i (s.ends .left) side
  reads : Reads (uuid .left) i (s.ends .left) side buf
  index : s.wires .left = putU16 i ++ wire
  silent : sent .right = []
  forth : Lane (uuid .right) i (sent .left) (events .right) [] wire side.broken
  back : Lane (uuid .left) i [] (events .left) buf (s.wires .right) false

/-- Both ends have the stream. -/
def Accepted (uuid : End → Uuid) (i : UInt16) (s : StreamLink)
    (sent : End → List (GameStream × Bytes)) (events : End → List GameNetworkEvent) : Prop :=
  ∃ side : End → Side, ∃ buf : End → Bytes, ∀ e, s.sides e = some (side e) ∧
    Sends (uuid e) i (s.ends e) (side e) ∧ Reads (uuid e) i (s.ends e) (side e) (buf e) ∧
    Lane (uuid e) i (sent e.other) (events e) (buf e) (s.wires e.other) (side e.other).broken

/-- Where the stream stands. -/
inductive Stands (uuid : End → Uuid) (s : StreamLink) (sent : End → List (GameStream × Bytes))
    (events : End → List GameNetworkEvent) : Prop where
  | unopened (h : Unopened s sent events) : Stands uuid s sent events
  | opened {i : UInt16} {side : Side} {buf wire : Bytes}
    (h : Opened uuid i s sent events side buf wire) : Stands uuid s sent events
  | accepted {i : UInt16} (h : Accepted uuid i s sent events) : Stands uuid s sent events

theorem stands_init : Stands uuid init (fun _ => []) (fun _ => []) :=
  .unopened ⟨fun _ => rfl, fun _ => rfl, fun _ => rfl, fun _ => rfl⟩

/-- What the actions so far have written and delivered, and one action more. -/
def moreSent (s : StreamLink) (a : LinkAction) (sent₀ : End → List (GameStream × Bytes)) (e : End) :
    List (GameStream × Bytes) := sent₀ e ++ (sent e s a).toList

def moreHeard (uuid : End → Uuid) (s : StreamLink) (a : LinkAction)
    (events : End → List GameNetworkEvent) (e : End) : List GameNetworkEvent :=
  events e ++ heard uuid e s a

section Step

variable {s t : StreamLink} {sent₀ : End → List (GameStream × Bytes)}
  {events : End → List GameNetworkEvent}

theorem stands_backend {e : End} {a : Action} (h : Stands uuid s sent₀ events)
    (hstep : s.step uuid (.backend e a) = some t)
    (hlen : ∀ e', ∀ x ∈ moreSent s (.backend e a) sent₀ e', x.2.length < 2 ^ 32) :
    Stands uuid t (moreSent s (.backend e a) sent₀) (moreHeard uuid s (.backend e a) events) := by
  have hheard : moreHeard uuid s (.backend e a) events = events :=
    funext fun e' => List.append_nil _
  have hquiet : ∀ e', e' ≠ e → moreSent s (.backend e a) sent₀ e' = sent₀ e' := by
    intro e' he
    rw [moreSent, sent, if_neg (Ne.symm he), Option.toList_none, List.append_nil]
  rw [hheard]
  simp only [step] at hstep
  split at hstep
  · next hside =>
    obtain ⟨b, -, rfl⟩ := Option.map_eq_some_iff.mp hstep
    have hsent : moreSent s (.backend e a) sent₀ = sent₀ := by
      funext e'
      by_cases he : e' = e
      · rw [moreSent, sent, if_pos he.symm, he, hside]
        exact List.append_nil _
      · exact hquiet e' he
    rw [hsent]
    cases h with
    | unopened h => exact .unopened ⟨h.sides, h.wires, h.sent, h.events⟩
    | opened h =>
      have he : End.left ≠ e := by
        rintro rfl
        rw [h.left] at hside
        cases hside
      refine .opened ⟨h.left, h.right, ?_, ?_, h.index, h.silent, h.forth, h.back⟩
      · simpa [he] using h.sends
      · simpa [he] using h.reads
    | accepted h =>
      obtain ⟨side, buf, hall⟩ := h
      rw [(hall e).1] at hside
      cases hside
  · next side hside =>
    split at hstep
    · cases hstep
    · next hif =>
      obtain ⟨b, hb, rfl⟩ := Option.map_eq_some_iff.mp hstep
      rw [Bool.or_eq_true, not_or, Bool.not_eq_true, Bool.not_eq_true] at hif
      obtain ⟨hreads, hrefuses⟩ := hif
      have hother : ∀ chunk, a ≠ .readStream side.reader chunk := by
        rintro chunk rfl
        simp [Side.reads] at hreads
      have hnew : sent e s (.backend e a) =
          if side.broken then none else (s.ends e).attempt side.half a := by
        rw [sent, if_pos rfl, hside, Option.bind_some]
      have hshort : ∀ x ∈ sent e s (.backend e a), x.2.length < 2 ^ 32 :=
        fun x hx => hlen e x (List.mem_append_right _ (Option.mem_toList.mpr hx))
      cases h with
      | unopened h =>
        rw [h.sides] at hside
        cases hside
      | @opened i side' buf wire h =>
        have he : e = .left := by
          by_contra he
          rw [End.eq_other he, End.other, h.right] at hside
          cases hside
        subst he
        rw [h.left] at hside
        cases hside
        refine @Stands.opened _ _ _ _ i (side.after (s.ends .left) a) buf
          (wire ++ (s.ends .left).growth b side.half) ⟨?_, ?_, ?_, ?_, ?_, ?_, ?_, ?_⟩
        · simp
        · simpa using h.right
        · simpa [Sends, Side.after] using h.sends.step hb
        · simpa [Reads, Side.after] using QuicBackend.reader_of_step h.reads hother hb
        · simp [h.index]
        · exact (hquiet .right (by decide)).trans h.silent
        · exact h.forth.write h.sends hb hrefuses hnew hshort
        · simpa using h.back
      | @accepted i h =>
        obtain ⟨sides, buf, hall⟩ := h
        have hs : sides e = side := Option.some.inj ((hall e).1.symm.trans hside)
        have hne := End.other_ne e
        refine .accepted (i := i)
          ⟨Function.update sides e (side.after (s.ends e) a), buf, fun e' => ?_⟩
        by_cases he : e' = e
        · -- the end that acts, and what it reads
          subst he
          obtain ⟨-, hsends, hreader, hlane⟩ := hall e'
          rw [hs] at hsends hreader
          refine ⟨by simp, by simpa [Sends, Side.after] using hsends.step hb, ?_, ?_⟩
          · simpa [Reads, Side.after] using QuicBackend.reader_of_step hreader hother hb
          · rw [hquiet _ hne]
            simpa [hne] using hlane
        · -- the other end, which reads what this one writes
          have hother' : e'.other = e := by rw [End.eq_other he, End.other_other]
          obtain ⟨hside', hsends, hreader, hlane⟩ := hall e'
          rw [hother', hs] at hlane
          refine ⟨by simpa [he] using hside', by simpa [he] using hsends,
            by simpa [he] using hreader, ?_⟩
          rw [hother']
          simpa [moreSent] using hlane.write (hs ▸ (hall e).2.1) hb hrefuses hnew hshort

/-- The next registration gets the next number. -/
theorem log_next (s : QuicBackend) (r : StreamRegistration) :
    (s.streamReg.send r).log[(Side.next s).half]? = some r := by
  rw [Channel.log_send]
  exact List.getElem?_concat_length

theorem half_next {s t : QuicBackend} {r : StreamRegistration}
    (hreg : t.streamReg = s.streamReg.send r) : t.half (Side.next s).half = r.sendStream := by
  refine QuicBackend.half_of_pending (hreg ▸ log_next s r) ?_
  rw [hreg]
  show ¬ s.streamReg.log.length < s.streamReg.received.length
  rw [Channel.log, List.length_append]
  omega

/-- A `CreateStream` that opens a stream registers it and starts its reader. -/
theorem opens_spec {s t : QuicBackend} {c : Uuid} {env : CommandEnv}
    (hopens : s.opens c (.command env) ≠ []) (hstep : s.step (.command env) = some t) :
    ∃ i, Sends c i t (Side.next s) ∧ Reads c i t (Side.next s) [] ∧
      t.half (Side.next s).half = some { written := putU16 i } := by
  cases QuicBackend.steps_of_step hstep with
  | @command env cmd tx t hloop hrecv hcommand =>
    simp only [QuicBackend.opens, hrecv] at hopens
    split at hopens
    · next c' i tx' heq =>
      cases heq
      split at hopens
      · next hif =>
        obtain ⟨rfl, hconn, hok⟩ := hif
        cases hcommand with
        | openStream =>
          refine ⟨i, ⟨_, log_next s _, rfl, rfl, by simp⟩, List.getElem?_concat_length, ?_⟩
          exact half_next (s := s)
            (r := { connection := c', stream := GameStream.new i .reliable,
                    sendStream := some { written := putU16 i } }) rfl
        | openFails _ hfails => exact absurd hok hfails
        | openUnconnected hnot => exact absurd hconn hnot
        | createStream hunreliable => exact absurd rfl hunreliable
      · exact absurd rfl hopens
    · exact absurd rfl hopens

theorem stands_openStream {env : CommandEnv} (h : Stands uuid s sent₀ events)
    (hstep : s.step uuid (.openStream env) = some t) :
    Stands uuid t (moreSent s (.openStream env) sent₀)
      (moreHeard uuid s (.openStream env) events) := by
  have hsent : moreSent s (.openStream env) sent₀ = sent₀ := funext fun e => List.append_nil _
  have hheard : moreHeard uuid s (.openStream env) events = events :=
    funext fun e => List.append_nil _
  rw [hsent, hheard]
  simp only [step] at hstep
  split at hstep
  · next hif =>
    obtain ⟨b, hb, rfl⟩ := Option.map_eq_some_iff.mp hstep
    obtain ⟨i, hsends, hreads, hindex⟩ := opens_spec hif.2 hb
    cases h with
    | unopened h =>
      refine @Stands.opened _ _ _ _ i (Side.next (s.ends .left)) [] []
        ⟨by simp, by simpa using h.sides .right, by simpa using hsends, by simpa using hreads, ?_,
          h.sent .right, ?_, ?_⟩
      · simp [hindex]
      · rw [h.sent, h.events]
        exact lane_nil _ _ _
      · rw [h.events]
        simpa [h.wires] using lane_nil (uuid .left) i false
    | opened h =>
      rw [h.left] at hif
      cases hif.1
    | accepted h =>
      obtain ⟨side, buf, hall⟩ := h
      rw [(hall .left).1] at hif
      cases hif.1
  · cases hstep

/-- The stream that an end accepts is registered under the index that has arrived. -/
theorem accepts_spec {s t : QuicBackend} {c : Uuid} {i : UInt16}
    (hstep : s.step (.acceptStream c (putU16 i)) = some t) :
    Sends c i t (Side.next s) ∧ Reads c i t (Side.next s) [] := by
  cases QuicBackend.steps_of_step hstep with
  | acceptStream _ _ hread =>
    rw [readU16_putU16] at hread
    cases hread
    exact ⟨⟨_, log_next s _, rfl, rfl, by simp⟩, List.getElem?_concat_length⟩

theorem stands_acceptStream (h : Stands uuid s sent₀ events)
    (hstep : s.step uuid .acceptStream = some t) :
    Stands uuid t (moreSent s .acceptStream sent₀) (moreHeard uuid s .acceptStream events) := by
  have hsent : moreSent s .acceptStream sent₀ = sent₀ := funext fun e => List.append_nil _
  have hheard : moreHeard uuid s .acceptStream events = events :=
    funext fun e => List.append_nil _
  rw [hsent, hheard]
  simp only [step] at hstep
  split at hstep
  · next hif =>
    obtain ⟨b, hb, rfl⟩ := Option.map_eq_some_iff.mp hstep
    cases h with
    | unopened h => exact absurd (h.sides .left) hif.1
    | @opened i side buf wire h =>
      have hlen : (putU16 i).length = 2 := length_putU16 i
      rw [h.index, List.take_left' hlen] at hb
      obtain ⟨hsends, hreads⟩ := accepts_spec hb
      refine .accepted (i := i) ⟨fun e => if e = .left then side else Side.next (s.ends .right),
        fun e => if e = .left then buf else [], fun e => ?_⟩
      cases e with
      | left =>
        refine ⟨by simpa using h.left, by simpa using h.sends, by simpa using h.reads, ?_⟩
        rw [End.other, h.silent]
        simpa [Side.next] using h.back
      | right =>
        refine ⟨by simp, by simpa using hsends, by simpa using hreads, ?_⟩
        rw [End.other]
        simpa [h.index, List.drop_left' hlen] using h.forth
    | accepted h =>
      obtain ⟨side, buf, hall⟩ := h
      rw [(hall .right).1] at hif
      cases hif.2
  · cases hstep

theorem stands_arrive {e : End} {n : Nat} (h : Stands uuid s sent₀ events)
    (hstep : s.step uuid (.arrive e n) = some t)
    (hlen : ∀ e', ∀ x ∈ sent₀ e', x.2.length < 2 ^ 32) :
    Stands uuid t (moreSent s (.arrive e n) sent₀) (moreHeard uuid s (.arrive e n) events) := by
  have hsent : moreSent s (.arrive e n) sent₀ = sent₀ := funext fun e => List.append_nil _
  have hquiet : ∀ e', e' ≠ e → moreHeard uuid s (.arrive e n) events e' = events e' := by
    intro e' he
    rw [moreHeard, heard, if_neg (Ne.symm he), List.append_nil]
  have hhere : moreHeard uuid s (.arrive e n) events e =
      events e ++ (t.ends e).peer.eventRx.log.drop (s.ends e).peer.eventRx.log.length := by
    rw [moreHeard, heard, if_pos rfl, hstep, Option.elim_some]
  rw [hsent]
  simp only [step] at hstep
  split at hstep
  · cases hstep
  · next side hside =>
    obtain ⟨b, hb, rfl⟩ := Option.map_eq_some_iff.mp hstep
    dsimp only at hhere
    rw [Function.update_self] at hhere
    cases h with
    | unopened h =>
      rw [h.sides] at hside
      cases hside
    | @opened i side' buf wire h =>
      have he : e = .left := by
        by_contra he
        rw [End.eq_other he, End.other, h.right] at hside
        cases hside
      subst he
      rw [h.left] at hside
      cases hside
      obtain ⟨buf', hreads', hback⟩ := h.back.arrive (by simp) h.reads hb
      refine @Stands.opened _ _ _ _ i side buf' wire
        ⟨h.left, h.right, by simpa using h.sends.step hb, by simpa using hreads', ?_, h.silent, ?_,
          ?_⟩
      · simpa [End.other] using h.index
      · rw [hquiet .right (by decide)]
        exact h.forth
      · rw [hhere]
        simpa [End.other] using hback
    | @accepted i h =>
      obtain ⟨sides, buf, hall⟩ := h
      obtain ⟨hside', hsends, hreads, hlane⟩ := hall e
      cases hside'.symm.trans hside
      obtain ⟨buf', hreads', hlane'⟩ := hlane.arrive (hlen e.other) hreads hb
      have hne := End.other_ne e
      refine .accepted (i := i) ⟨sides, Function.update buf e buf', fun e' => ?_⟩
      by_cases he : e' = e
      · subst he
        refine ⟨hside', by simpa using hsends.step hb, by simpa using hreads', ?_⟩
        rw [hhere]
        simpa using hlane'
      · have hother' : e'.other = e := by rw [End.eq_other he, End.other_other]
        obtain ⟨hside', hsends, hreads, hlane⟩ := hall e'
        refine ⟨hside', by simpa [he] using hsends, by simpa [he] using hreads, ?_⟩
        rw [hquiet e' he, hother'] at *
        simpa [he, Ne.symm hne] using hlane

theorem stands_step {a : LinkAction} (h : Stands uuid s sent₀ events)
    (hstep : s.step uuid a = some t)
    (hlen : ∀ e, ∀ x ∈ moreSent s a sent₀ e, x.2.length < 2 ^ 32) :
    Stands uuid t (moreSent s a sent₀) (moreHeard uuid s a events) := by
  cases a with
  | backend e a => exact stands_backend h hstep hlen
  | openStream env => exact stands_openStream h hstep
  | acceptStream => exact stands_acceptStream h hstep
  | arrive e n =>
    exact stands_arrive h hstep fun e' x hx => hlen e' x (List.mem_append_left _ hx)

/-- What holds of the link after a run, of what has been written and delivered in it. -/
theorem stands_of_run (actions : List LinkAction) :
    ∀ {s t : StreamLink} {sent₀ : End → List (GameStream × Bytes)}
      {events : End → List GameNetworkEvent}, Stands uuid s sent₀ events →
      Run.run (step uuid) s actions = some t →
      (∀ e, ∀ x ∈ sent₀ e ++
        Run.observe (step uuid) (fun s a => (sent e s a).toList) s actions, x.2.length < 2 ^ 32) →
      Stands uuid t
        (fun e => sent₀ e ++ Run.observe (step uuid) (fun s a => (sent e s a).toList) s actions)
        (fun e => events e ++ Run.observe (step uuid) (heard uuid e) s actions) := by
  induction actions with
  | nil =>
    intro s t sent₀ events h hrun _
    cases hrun
    simpa only [Run.observe, List.append_nil] using h
  | cons a actions ih =>
    intro s t sent₀ events h hrun hlen
    obtain ⟨u, hu, hrest⟩ := Run.run_cons_eq_some (step uuid) hrun
    simp only [Run.observe, hu, Option.elim_some, ← List.append_assoc] at hlen ⊢
    exact ih (stands_step h hu fun e x hx => hlen e x (List.mem_append_left _ hx)) hrest hlen

end Step

/-- In every run of the two ends, what the reader of an end delivers are the first of the payloads
that the other end has written on the stream, under the same `GameStream` and in the order of the
`Send`s; and it delivers all of them once nothing is on the wire, if no write has failed. -/
theorem stream_in_order (uuid : End → Uuid) (actions : List LinkAction) (s : StreamLink)
    (hrun : Run.run (step uuid) init actions = some s)
    (hlen : ∀ e, ∀ x ∈ sends uuid e actions, x.2.length < 2 ^ 32) (e : End) :
    hears uuid e actions <+: (sends uuid e.other actions).map (received (uuid e)) ∧
      (s.sides e ≠ none → s.wires e.other = [] →
        (∀ side, s.sides e.other = some side → side.broken = false) →
        hears uuid e actions = (sends uuid e.other actions).map (received (uuid e))) := by
  have hstands := stands_of_run actions (@stands_init uuid) hrun fun e x hx => hlen e x hx
  change Stands uuid s (fun e => sends uuid e actions) (fun e => hears uuid e actions) at hstands
  cases hstands with
  | unopened h =>
    rw [h.events]
    exact ⟨List.nil_prefix, fun hside => absurd (h.sides e) hside⟩
  | @opened i side buf wire h =>
    cases e with
    | left =>
      have hback := h.back
      rw [← h.silent] at hback
      refine ⟨hback.isPrefix, fun _ hwire _ => ?_⟩
      rw [End.other] at hwire
      rw [hwire] at hback
      exact hback.complete (hlen .right)
    | right => exact ⟨h.forth.isPrefix, fun hside => absurd h.right hside⟩
  | accepted h =>
    obtain ⟨side, buf, hall⟩ := h
    obtain ⟨-, -, -, hlane⟩ := hall e
    refine ⟨hlane.isPrefix, fun _ hwire hwhole => ?_⟩
    rw [hwire, hwhole _ (hall e.other).1] at hlane
    exact hlane.complete (hlen e.other)

end Both

/-- A client opens stream 1 to its server and sends twice on it, and the server answers once. -/
def exchange : List LinkAction :=
  [.backend .left (.issue (.connect "127.0.0.1" 8080)), .backend .left (.command .allOk),
    .backend .right (.issue (.bind "0.0.0.0" 8080)), .backend .right (.command .allOk),
    .backend .right (.announce 0 Uuid.nil), .backend .right (.handOver 0),
    .backend .right .registerConnection,
    .backend .left (.issue (.createStream Uuid.nil 1 .reliable)), .openStream .allOk,
    .backend .left .registerStream, .acceptStream, .backend .right .registerStream,
    .backend .left (.issue (.send Uuid.nil (GameStream.new 1 .reliable) [1, 2])),
    .backend .left (.issue (.send Uuid.nil (GameStream.new 1 .reliable) [3])),
    .backend .left (.command .allOk), .arrive .right 5, .backend .left (.command .allOk),
    .backend .right (.issue (.send Uuid.nil (GameStream.new 1 .reliable) [4])),
    .backend .right (.command .allOk), .arrive .right 100, .arrive .left 100]

theorem stream_in_order_exchange :
    ∃ s, Run.run (step fun _ => Uuid.nil) init exchange = some s ∧
      sends (fun _ => Uuid.nil) .left exchange =
        [(GameStream.new 1 .reliable, [1, 2]), (GameStream.new 1 .reliable, [3])] ∧
      hears (fun _ => Uuid.nil) .right exchange =
        (sends (fun _ => Uuid.nil) .left exchange).map (received Uuid.nil) ∧
      hears (fun _ => Uuid.nil) .left exchange =
        (sends (fun _ => Uuid.nil) .right exchange).map (received Uuid.nil) := by
  let view (s : StreamLink) :=
    (s.sides .left, s.sides .right, s.wires .left, s.wires .right)
  have hview : (Run.run (step fun _ => Uuid.nil) init exchange).map view =
      some (some { half := 0, reader := 0, broken := false },
        some { half := 0, reader := 0, broken := false }, [], []) := by
    decide +kernel
  have hsends : sends (fun _ => Uuid.nil) .left exchange =
      [(GameStream.new 1 .reliable, [1, 2]), (GameStream.new 1 .reliable, [3])] := by
    decide +kernel
  have hanswers : sends (fun _ => Uuid.nil) .right exchange =
      [(GameStream.new 1 .reliable, [4])] := by
    decide +kernel
  obtain ⟨s, hrun, hs⟩ := Option.map_eq_some_iff.mp hview
  simp only [view, Prod.mk.injEq] at hs
  obtain ⟨hleft, hright, hforth, hback⟩ := hs
  have hlen : ∀ e, ∀ x ∈ sends (fun _ => Uuid.nil) e exchange, x.2.length < 2 ^ 32 := by
    intro e
    cases e with
    | left =>
      rw [hsends]
      decide
    | right =>
      rw [hanswers]
      decide
  refine ⟨s, hrun, hsends, ?_, ?_⟩
  · refine (stream_in_order _ exchange s hrun hlen .right).2 ?_ hforth fun side hside => ?_
    · rw [hright]
      exact Option.some_ne_none _
    · rw [End.other, hleft] at hside
      cases hside
      rfl
  · refine (stream_in_order _ exchange s hrun hlen .left).2 ?_ hback fun side hside => ?_
    · rw [hleft]
      exact Option.some_ne_none _
    · rw [End.other, hright] at hside
      cases hside
      rfl

end StreamLink

end Quic
end GameSockets
