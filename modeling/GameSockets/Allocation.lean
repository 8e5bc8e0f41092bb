/-
The ids that one peer allocates.

The `n`-th call of `create_stream` sends the index `n`, and the id is that index shifted
left by two, with the reliability in the low bits.  The counter has sixteen bits, of which
the shift keeps fourteen.

What a backend announces for a call carries the number of the call with it, so that
announcements can be missing without the others losing their calls.
-/
import GameSockets.Basic
import GameSockets.Library.Run

namespace GameSockets

open Library

/-! ## Ids -/

/-- The two low bits that a reliability sets. -/
def GameStreamReliability.flags : GameStreamReliability → Nat
  | .reliable => 3
  | .unreliable => 0
  | .ordered => 2

theorem GameStreamReliability.flags_lt (r : GameStreamReliability) : r.flags < 4 := by
  cases r <;> decide

theorem GameStreamReliability.flags_inj {r r' : GameStreamReliability} :
    r.flags = r'.flags ↔ r = r' := by
  cases r <;> cases r' <;> decide

namespace GameStream

theorem toNat_shift (i : UInt16) : (i <<< 2).toNat = 4 * (i.toNat % 16384) := by
  rw [UInt16.toNat_shiftLeft, Nat.shiftLeft_eq]
  show i.toNat * 2 ^ 2 % 2 ^ 16 = _
  omega

theorem toNat_flag (i flag : UInt16) (h : flag.toNat < 4) :
    (i <<< 2 ||| flag).toNat = 4 * (i.toNat % 16384) + flag.toNat := by
  rw [UInt16.toNat_or, toNat_shift]
  exact (Nat.two_pow_add_eq_or_of_lt (i := 2) h _).symm

/-- The index modulo 2^14, and the reliability. -/
theorem toNat_new (i : UInt16) (r : GameStreamReliability) :
    (new i r).streamId.toNat = 4 * (i.toNat % 16384) + r.flags := by
  cases r with
  | reliable => exact toNat_flag i reliabilityMask (by decide)
  | unreliable => exact toNat_shift i
  | ordered => exact toNat_flag i orderingMask (by decide)

theorem new_eq_new_iff {i j : UInt16} {r r' : GameStreamReliability} :
    new i r = new j r' ↔ r = r' ∧ i.toNat % 16384 = j.toNat % 16384 := by
  have hr := r.flags_lt
  have hr' := r'.flags_lt
  have hnew : new i r = new j r' ↔ (new i r).streamId.toNat = (new j r').streamId.toNat := by
    rw [UInt16.toNat_inj, ← GameStream.mk.injEq]
  rw [hnew, toNat_new, toNat_new, ← GameStreamReliability.flags_inj]
  omega

end GameStream

/-! ## Calls -/

/-- A call of `create_stream`. -/
@[ext]
structure CreateCall where
  connection : GameConnection
  reliability : GameStreamReliability
deriving DecidableEq

/-- What a `CreateStream` asks for. -/
structure Creation where
  connection : GameConnection
  index : UInt16
  reliability : GameStreamReliability
deriving DecidableEq

def Creation.stream (c : Creation) : GameStream := GameStream.new c.index c.reliability

def BackendCommand.creation : BackendCommand → Option Creation
  | .createStream c i r => some { connection := c, index := i, reliability := r }
  | _ => none

/-- What the call after `k` others asks for. -/
def CreateCall.creation (k : Nat) (call : CreateCall) : Creation :=
  { connection := call.connection, index := UInt16.ofNat (k + 1),
    reliability := call.reliability }

namespace GamePeer

/-- `create_stream` under a profile. -/
def createStreamIn (profile : Profile) (p : GamePeer) (conn : GameConnection)
    (reliability : GameStreamReliability) : Outcome GamePeer :=
  if profile = .dev ∧ UInt16.size ≤ p.nextStreamId.toNat + 1 then .panic
  else
    let p := { p with nextStreamId := p.nextStreamId + 1 }
    p.sendCmd (.createStream conn p.nextStreamId reliability)

theorem createStreamIn_dev (p : GamePeer) (conn : GameConnection)
    (reliability : GameStreamReliability) :
    p.createStreamIn .dev conn reliability = p.createStream conn reliability := by
  rw [createStreamIn, createStream]
  by_cases h : p.nextStreamId.toNat + 1 < UInt16.size
  · rw [if_neg (by simp [h]), if_pos h]
  · rw [if_pos ⟨rfl, Nat.le_of_not_lt h⟩, if_neg h]

theorem createStreamIn_eq_ok {profile : Profile} {p p' : GamePeer} {conn : GameConnection}
    {reliability : GameStreamReliability}
    (h : p.createStreamIn profile conn reliability = .ok p') :
    p' = { p with
      nextStreamId := p.nextStreamId + 1,
      cmdTx := p.cmdTx.send (.createStream conn (p.nextStreamId + 1) reliability) } := by
  unfold createStreamIn at h
  split at h
  · cases h
  · exact (sendCmd_eq_ok h).2

/-- A call succeeds while the backend lives and the counter has room. -/
theorem createStreamIn_of_room (profile : Profile) {p : GamePeer} (halive : p.alive = true)
    (hroom : p.nextStreamId.toNat + 1 < UInt16.size) (conn : GameConnection)
    (reliability : GameStreamReliability) :
    p.createStreamIn profile conn reliability = .ok { p with
      nextStreamId := p.nextStreamId + 1,
      cmdTx := p.cmdTx.send (.createStream conn (p.nextStreamId + 1) reliability) } := by
  rw [createStreamIn, if_neg fun hfull => absurd hroom (Nat.not_lt.mpr hfull.2)]
  exact if_pos halive

/-- The peer has made these calls of `create_stream`, and its commands ask for streams
numbered accordingly. -/
structure Numbered (calls : List CreateCall) (p : GamePeer) : Prop where
  next : p.nextStreamId = UInt16.ofNat calls.length
  creations : p.cmdTx.log.filterMap BackendCommand.creation = calls.mapIdx CreateCall.creation

theorem numbered_new : Numbered [] new := { next := rfl, creations := rfl }

theorem Numbered.createStreamIn {profile : Profile} {calls : List CreateCall} {p p' : GamePeer}
    {conn : GameConnection} {reliability : GameStreamReliability} (h : Numbered calls p)
    (hcall : p.createStreamIn profile conn reliability = .ok p') :
    Numbered (calls ++ [{ connection := conn, reliability := reliability }]) p' := by
  have hnext : p.nextStreamId + 1 = UInt16.ofNat (calls.length + 1) := by
    rw [h.next, UInt16.ofNat_add]
    rfl
  rw [createStreamIn_eq_ok hcall]
  constructor
  · show p.nextStreamId + 1 = _
    rw [hnext, List.length_append, List.length_singleton]
  · show (p.cmdTx.send _).log.filterMap _ = _
    rw [Channel.log_send, List.filterMap_append, h.creations, List.mapIdx_append, hnext]
    simp [BackendCommand.creation, CreateCall.creation]

/-- Other commands are not numbered. -/
theorem Numbered.of_log {calls : List CreateCall} {p p' : GamePeer} {cmds : List BackendCommand}
    (h : Numbered calls p) (hnext : p'.nextStreamId = p.nextStreamId)
    (hlog : p'.cmdTx.log = p.cmdTx.log ++ cmds)
    (hcmds : cmds.filterMap BackendCommand.creation = []) : Numbered calls p' := by
  constructor
  · rw [hnext, h.next]
  · rw [hlog, List.filterMap_append, hcmds, List.append_nil, h.creations]

theorem Numbered.of_same {calls : List CreateCall} {p p' : GamePeer} (h : Numbered calls p)
    (hnext : p'.nextStreamId = p.nextStreamId) (hcmd : p'.cmdTx = p.cmdTx) :
    Numbered calls p' := by
  constructor
  · rw [hnext, h.next]
  · rw [hcmd, h.creations]

/-- The `CreateStream`s issued so far. -/
def creations (p : GamePeer) : List Creation := p.cmdTx.log.filterMap BackendCommand.creation

/-- A `CreateStream` keeps its number. -/
theorem getElem?_creations_of_log {p p' : GamePeer} {cmds : List BackendCommand}
    (hlog : p'.cmdTx.log = p.cmdTx.log ++ cmds) {k : Nat} {c : Creation}
    (hk : p.creations[k]? = some c) : p'.creations[k]? = some c := by
  have hgrows : p'.creations = p.creations ++ cmds.filterMap BackendCommand.creation := by
    rw [creations, creations, hlog, List.filterMap_append]
  rw [hgrows, List.getElem?_append_left (List.getElem?_eq_some_iff.mp hk).1, hk]

/-- The call whose `CreateStream` is the next command, by the number of calls before it. -/
def nextCreation (p : GamePeer) : Option Nat :=
  match p.cmdTx.recv with
  | some (.createStream _ _ _, _) =>
    some (p.cmdTx.received.filterMap BackendCommand.creation).length
  | _ => none

theorem nextCreation_eq_some {p : GamePeer} {k : Nat} (h : p.nextCreation = some k) :
    ∃ (c : Creation) (tx : Channel BackendCommand),
      p.cmdTx.recv = some (.createStream c.connection c.index c.reliability, tx) ∧
        p.creations[k]? = some c := by
  unfold nextCreation at h
  split at h
  · next c i r tx hrecv =>
    cases h
    refine ⟨{ connection := c, index := i, reliability := r }, tx, hrecv, ?_⟩
    rw [creations, Channel.log, (Channel.recv_eq_some hrecv).1, List.filterMap_append,
      List.getElem?_append_right (Nat.le_refl _), Nat.sub_self]
    rfl
  · cases h

end GamePeer

/-! ## Backends -/

/-- The application calls `create_stream`, or something else happens. -/
inductive CreateAction (α : Type) where
  | createStream (conn : GameConnection) (reliability : GameStreamReliability)
  | backend (a : α)

/-- The call that the action is. -/
def CreateAction.call {α : Type} : CreateAction α → List CreateCall
  | .createStream conn reliability => [{ connection := conn, reliability := reliability }]
  | .backend _ => []

/-- The stream that an event announces. -/
def GameNetworkEvent.created : GameNetworkEvent → Option (GameConnection × GameStream)
  | .streamCreated c st => some (c, st)
  | _ => none

/-- A stream announced for the call after `number` others. -/
structure Answer where
  number : Nat
  connection : GameConnection
  stream : GameStream

/-- Different calls on one connection are answered with different streams. -/
def Distinct (answers : List Answer) : Prop :=
  ∀ a ∈ answers, ∀ b ∈ answers, a.number ≠ b.number → a.connection = b.connection →
    a.stream ≠ b.stream

/-- The calls among `opened` that agree in connection and reliability are no multiple of
16384 calls apart. -/
def Apart (calls : List CreateCall) (opened : List Nat) : Prop :=
  ∀ m ∈ opened, ∀ n ∈ opened, m < n → calls[m]? = calls[n]? → ¬ 16384 ∣ n - m

/-- A backend and the application's handle on it. -/
structure Allocator (σ α : Type) where
  step : σ → α → Option σ
  init : σ
  peer : σ → GamePeer
  setPeer : σ → GamePeer → σ
  /-- the command that the application issues -/
  issues : α → Option BackendCommand
  /-- the call that the step is to announce a stream for, by the number of calls before it -/
  answering : σ → α → Option Nat
  /-- the loop opens a stream for that call -/
  opens : σ → α → Bool

namespace Allocator

variable {σ α : Type} (A : Allocator σ α) (profile : Profile)

/-- Every `CreateStream` comes from a call of `create_stream`. -/
def createStep (s : σ) : CreateAction α → Option σ
  | .createStream conn reliability =>
    match (A.peer s).createStreamIn profile conn reliability with
    | .ok peer => some (A.setPeer s peer)
    | _ => none
  | .backend a => if ((A.issues a).bind BackendCommand.creation).isSome then none else A.step s a

/-- The streams that a step from `s` to `t` announces. -/
def announces (s t : σ) : List (GameConnection × GameStream) :=
  ((A.peer t).eventRx.log.drop (A.peer s).eventRx.log.length).filterMap GameNetworkEvent.created

/-- What a step announces for a call. -/
def answers (s : σ) : CreateAction α → List Answer
  | .createStream _ _ => []
  | .backend a =>
    match A.answering s a, A.step s a with
    | some k, some t =>
      (A.announces s t).map fun x => { number := k, connection := x.1, stream := x.2 }
    | _, _ => []

/-- The call that the loop opens a stream for. -/
def opening (s : σ) : CreateAction α → List Nat
  | .createStream _ _ => []
  | .backend a => if A.opens s a then (A.answering s a).toList else []

/-- The calls of a run. -/
def calls (actions : List (CreateAction α)) : List CreateCall :=
  Run.observe (A.createStep profile) (fun _ => CreateAction.call) A.init actions

/-- What the run announces for its calls, in order. -/
def announced (actions : List (CreateAction α)) : List Answer :=
  Run.observe (A.createStep profile) A.answers A.init actions

/-- The calls that the loop opens a stream for, in order. -/
def opened (actions : List (CreateAction α)) : List Nat :=
  Run.observe (A.createStep profile) A.opening A.init actions

/-- The loop takes the commands in order and answers each `CreateStream` that it opens a
stream for with the stream it asks for.  `inv` is an invariant of the backend. -/
structure Lawful (inv : σ → Prop) : Prop where
  new : A.peer A.init = GamePeer.new
  start : inv A.init
  keep : ∀ s a t, inv s → A.step s a = some t → inv t
  set : ∀ s p, inv s → (∃ cmds, p.cmdTx.log = (A.peer s).cmdTx.log ++ cmds) → inv (A.setPeer s p)
  cmdTx_set : ∀ s p, (A.peer (A.setPeer s p)).cmdTx = p.cmdTx
  next_set : ∀ s p, (A.peer (A.setPeer s p)).nextStreamId = p.nextStreamId
  next : ∀ s a t, A.step s a = some t → (A.peer t).nextStreamId = (A.peer s).nextStreamId
  issued : ∀ s a t, A.step s a = some t →
    (A.peer t).cmdTx.log = (A.peer s).cmdTx.log ++ (A.issues a).toList
  answered : ∀ s a t k, inv s → A.step s a = some t → A.answering s a = some k →
    ∃ c, (A.peer s).creations[k]? = some c ∧
      A.announces s t = if A.opens s a then [(c.connection, c.stream)] else []

variable {A} {profile}

theorem announces_of_log {s t : σ} {new : List GameNetworkEvent}
    (hlog : (A.peer t).eventRx.log = (A.peer s).eventRx.log ++ new) :
    A.announces s t = new.filterMap GameNetworkEvent.created := by
  rw [announces, hlog, List.drop_left]

theorem announces_created {s t : σ} {a : α} {c : Creation} (hopens : A.opens s a = true)
    (hlog : (A.peer t).eventRx.log =
      (A.peer s).eventRx.log ++ [.streamCreated c.connection c.stream]) :
    A.announces s t = if A.opens s a then [(c.connection, c.stream)] else [] := by
  rw [announces_of_log hlog, if_pos hopens]
  rfl

theorem createStep_of_ok {s : σ} {peer : GamePeer} {conn : GameConnection}
    {reliability : GameStreamReliability}
    (h : (A.peer s).createStreamIn profile conn reliability = .ok peer) :
    A.createStep profile s (.createStream conn reliability) = some (A.setPeer s peer) := by
  rw [createStep, h]

theorem createStep_cases {s t : σ} {a : CreateAction α} (h : A.createStep profile s a = some t) :
    (∃ conn reliability peer, a = .createStream conn reliability ∧
      (A.peer s).createStreamIn profile conn reliability = .ok peer ∧ t = A.setPeer s peer) ∨
    ∃ b, a = .backend b ∧ (A.issues b).bind BackendCommand.creation = none ∧
      A.step s b = some t := by
  cases a with
  | createStream conn reliability =>
    simp only [createStep] at h
    split at h
    · next peer hpeer =>
      cases h
      exact Or.inl ⟨conn, reliability, peer, rfl, hpeer, rfl⟩
    · cases h
  | backend b =>
    simp only [createStep] at h
    split at h
    · cases h
    · next hother => exact Or.inr ⟨b, rfl, Option.not_isSome_iff_eq_none.mp hother, h⟩

namespace Lawful

variable {inv : σ → Prop}

/-- A step keeps what has been issued. -/
theorem log_of_createStep (hA : A.Lawful inv) {s t : σ} {a : CreateAction α}
    (hstep : A.createStep profile s a = some t) :
    ∃ cmds, (A.peer t).cmdTx.log = (A.peer s).cmdTx.log ++ cmds := by
  rcases createStep_cases hstep with ⟨conn, reliability, peer, rfl, hcall, rfl⟩ |
    ⟨b, rfl, -, hb⟩
  · rw [hA.cmdTx_set, GamePeer.createStreamIn_eq_ok hcall]
    exact ⟨_, Channel.log_send _ _⟩
  · exact ⟨_, hA.issued _ _ _ hb⟩

theorem keep_createStep (hA : A.Lawful inv) {s t : σ} {a : CreateAction α} (hs : inv s)
    (hstep : A.createStep profile s a = some t) : inv t := by
  rcases createStep_cases hstep with ⟨conn, reliability, peer, rfl, hcall, rfl⟩ |
    ⟨b, rfl, -, hb⟩
  · refine hA.set s peer hs ?_
    rw [GamePeer.createStreamIn_eq_ok hcall]
    exact ⟨_, Channel.log_send _ _⟩
  · exact hA.keep _ _ _ hs hb

theorem numbered_step (hA : A.Lawful inv) {seen : List CreateCall} {s t : σ}
    {a : CreateAction α} (h : (A.peer s).Numbered seen)
    (hstep : A.createStep profile s a = some t) : (A.peer t).Numbered (seen ++ a.call) := by
  rcases createStep_cases hstep with ⟨conn, reliability, peer, rfl, hcall, rfl⟩ |
    ⟨b, rfl, hother, hb⟩
  · exact (h.createStreamIn hcall).of_same (hA.next_set s peer) (hA.cmdTx_set s peer)
  · rw [CreateAction.call, List.append_nil]
    refine h.of_log (hA.next _ _ _ hb) (hA.issued _ _ _ hb) ?_
    cases hissues : A.issues b with
    | none => rfl
    | some cmd =>
      rw [hissues, Option.bind_some] at hother
      simp [hother]

/-- An answer is the stream that its call has asked for. -/
def Sound (A : Allocator σ α) (seen : List Answer) (s : σ) : Prop :=
  ∀ a ∈ seen, ∃ c, (A.peer s).creations[a.number]? = some c ∧ c.connection = a.connection ∧
    c.stream = a.stream

/-- What a step announces for a call, it announces for the call that it opens a stream for,
and it is the stream that the call has asked for. -/
theorem answers_step (hA : A.Lawful inv) {s t : σ} {a : CreateAction α} (hs : inv s)
    (hstep : A.createStep profile s a = some t) :
    (A.answers s a).map Answer.number = A.opening s a ∧ Sound A (A.answers s a) s := by
  rcases createStep_cases hstep with ⟨conn, reliability, peer, rfl, -, -⟩ | ⟨b, rfl, -, hb⟩
  · exact ⟨rfl, List.forall_mem_nil _⟩
  · cases hk : A.answering s b with
    | none => simp [answers, opening, hk, Sound]
    | some k =>
      obtain ⟨c, hc, hannounces⟩ := hA.answered _ _ _ _ hs hb hk
      cases hopens : A.opens s b with
      | false => simp [answers, opening, hk, hb, hannounces, hopens, Sound]
      | true => simp [answers, opening, hk, hb, hannounces, hopens, Sound, hc]

theorem sound_step (hA : A.Lawful inv) {seen : List Answer} {s t : σ} {a : CreateAction α}
    (h : inv s ∧ Sound A seen s) (hstep : A.createStep profile s a = some t) :
    inv t ∧ Sound A (seen ++ A.answers s a) t := by
  refine ⟨hA.keep_createStep h.1 hstep, fun x hx => ?_⟩
  have hsound : ∃ c, (A.peer s).creations[x.number]? = some c ∧ c.connection = x.connection ∧
      c.stream = x.stream := by
    rcases List.mem_append.mp hx with hx | hx
    · exact h.2 x hx
    · exact (hA.answers_step h.1 hstep).2 x hx
  obtain ⟨c, hc, hconn, hstream⟩ := hsound
  obtain ⟨cmds, hlog⟩ := hA.log_of_createStep hstep
  exact ⟨c, GamePeer.getElem?_creations_of_log hlog hc, hconn, hstream⟩

/-- The answers of a run are those to the calls that the loop has opened a stream for. -/
theorem number_announced (hA : A.Lawful inv) {actions : List (CreateAction α)} {s : σ}
    (hrun : Run.run (A.createStep profile) A.init actions = some s) :
    (A.announced profile actions).map Answer.number = A.opened profile actions :=
  Run.map_observe (fun _ _ _ hs hstep => hA.keep_createStep hs hstep)
    (fun _ _ _ hs hstep => (hA.answers_step hs hstep).1) actions hA.start hrun

/-- An answer has the connection of its call and the stream of its number. -/
theorem announced_eq (hA : A.Lawful inv) {actions : List (CreateAction α)} {s : σ}
    (hrun : Run.run (A.createStep profile) A.init actions = some s) {a : Answer}
    (ha : a ∈ A.announced profile actions) :
    ∃ call, (A.calls profile actions)[a.number]? = some call ∧
      a.connection = call.connection ∧ a.stream = (call.creation a.number).stream := by
  have hkeep : ∀ (seen : List CreateCall) (s : σ) a t, (A.peer s).Numbered seen →
      A.createStep profile s a = some t → (A.peer t).Numbered (seen ++ a.call) :=
    fun _ _ _ _ => hA.numbered_step
  have hnew : (A.peer A.init).Numbered [] := hA.new ▸ GamePeer.numbered_new
  have hnumbered : (A.peer s).Numbered (A.calls profile actions) :=
    Run.invariant_of_observe hkeep actions hnew hrun
  have hkeep : ∀ (seen : List Answer) (s : σ) a t, inv s ∧ Sound A seen s →
      A.createStep profile s a = some t → inv t ∧ Sound A (seen ++ A.answers s a) t :=
    fun _ _ _ _ => hA.sound_step
  have hsound : Sound A (A.announced profile actions) s :=
    (Run.invariant_of_observe hkeep actions ⟨hA.start, List.forall_mem_nil _⟩ hrun).2
  obtain ⟨c, hc, hconn, hstream⟩ := hsound a ha
  rw [GamePeer.creations, hnumbered.creations, List.getElem?_mapIdx] at hc
  obtain ⟨call, hcall, rfl⟩ := Option.map_eq_some_iff.mp hc
  exact ⟨call, hcall, hconn.symm, hstream.symm⟩

end Lawful

end Allocator

/-- The stream of the call after `m` others is that of the call after `n` others exactly
when they agree in the reliability and in fourteen bits of their numbers. -/
theorem stream_eq_iff {call call' : CreateCall} {m n : Nat} (hmn : m < n) :
    (call.creation m).stream = (call'.creation n).stream ↔
      call.reliability = call'.reliability ∧ 16384 ∣ n - m := by
  rw [Creation.stream, Creation.stream, GameStream.new_eq_new_iff]
  refine and_congr_right fun _ => ?_
  show (UInt16.ofNat (m + 1)).toNat % 16384 = (UInt16.ofNat (n + 1)).toNat % 16384 ↔ _
  rw [UInt16.toNat_ofNat', UInt16.toNat_ofNat']
  omega

/-- The answers are distinct exactly when their calls are apart. -/
theorem Allocator.Lawful.distinct_iff {σ α : Type} {A : Allocator σ α} {inv : σ → Prop}
    {profile : Profile} (hA : A.Lawful inv) {actions : List (CreateAction α)} {s : σ}
    (hrun : Run.run (A.createStep profile) A.init actions = some s) :
    Distinct (A.announced profile actions) ↔
      Apart (A.calls profile actions) (A.opened profile actions) := by
  have hnumber := hA.number_announced hrun
  constructor
  · intro hdistinct m hm n hn hmn hcalls hdvd
    rw [← hnumber] at hm hn
    obtain ⟨a, ha, rfl⟩ := List.mem_map.mp hm
    obtain ⟨b, hb, rfl⟩ := List.mem_map.mp hn
    obtain ⟨call, hcall, hconn, hstream⟩ := hA.announced_eq hrun ha
    obtain ⟨call', hcall', hconn', hstream'⟩ := hA.announced_eq hrun hb
    rw [hcall, hcall', Option.some.injEq] at hcalls
    subst hcalls
    refine hdistinct a ha b hb hmn.ne (hconn.trans hconn'.symm) ?_
    rw [hstream, hstream']
    exact (stream_eq_iff hmn).mpr ⟨rfl, hdvd⟩
  · intro hapart
    -- two answers in the order of their calls
    have hordered : ∀ a ∈ A.announced profile actions, ∀ b ∈ A.announced profile actions,
        a.number < b.number → a.connection = b.connection → a.stream ≠ b.stream := by
      intro a ha b hb hlt hsame heq
      obtain ⟨call, hcall, hconn, hstream⟩ := hA.announced_eq hrun ha
      obtain ⟨call', hcall', hconn', hstream'⟩ := hA.announced_eq hrun hb
      rw [hstream, hstream', stream_eq_iff hlt] at heq
      have hcalls : call = call' :=
        CreateCall.ext (hconn.symm.trans (hsame.trans hconn')) heq.1
      refine hapart a.number ?_ b.number ?_ hlt (by rw [hcall, hcall', hcalls]) heq.2
      · exact hnumber ▸ List.mem_map_of_mem ha
      · exact hnumber ▸ List.mem_map_of_mem hb
    intro a ha b hb hne hsame
    rcases Nat.lt_or_gt_of_ne hne with hlt | hlt
    · exact hordered a ha b hb hlt hsame
    · exact (hordered b hb a ha hlt hsame.symm).symm

end GameSockets
