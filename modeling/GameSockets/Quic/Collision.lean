/-
The ids of the streams of a connection.

Each end counts the streams that it creates, and sends the index of a stream over it.  Both
ends file their own streams and those of the other end under the ids that the indices give.
-/
import GameSockets.Quic.Events
import GameSockets.Quic.Pair
import GameSockets.Quic.Registration

namespace GameSockets
namespace Quic

open Library

namespace QuicBackend

/-- The streams under which the end files the QUIC streams of connection `c`, one for each
of them. -/
def halves (s : QuicBackend) (c : Uuid) : List GameStream :=
  (s.streamReg.log.filter fun r => r.Opens (c, r.stream.streamId)).map StreamRegistration.stream

/-- What an action does to the commands. -/
inductive Commands (s t : QuicBackend) : Action → Prop where
  | issue {cmd : BackendCommand} (hcmd : t.peer.cmdTx = s.peer.cmdTx.send cmd) :
    Commands s t (.issue cmd)
  | command {env : CommandEnv} {cmd : BackendCommand} {tx : Channel BackendCommand}
    (hrecv : s.peer.cmdTx.recv = some (cmd, tx)) (hcmd : t.peer.cmdTx = tx) :
    Commands s t (.command env)
  | other {a : Action} (hopens : ∀ c, s.opens c a = []) (hcmd : t.peer.cmdTx = s.peer.cmdTx) :
    Commands s t a

theorem commands_of_step {s t : QuicBackend} {a : Action} (hstep : s.step a = some t) :
    Commands s t a ∧ t.peer.nextStreamId = s.peer.nextStreamId := by
  cases steps_of_step hstep with
  | issue => exact ⟨.issue rfl, rfl⟩
  | command _ hrecv hcommand =>
    cases hcommand with
    | send => cases CommandEnv.sendError _ <;> exact ⟨.command hrecv rfl, rfl⟩
    | _ => exact ⟨.command hrecv rfl, rfl⟩
  | registerStream => exact ⟨.other (fun _ => rfl) (by simp), by simp⟩
  | _ => exact ⟨.other (fun _ => rfl) rfl, rfl⟩

theorem halves_of_half {s t : QuicBackend} {c : Uuid} {r : StreamRegistration}
    (hlog : t.streamReg.log = s.streamReg.log ++ [r]) (h : r.Opens (c, r.stream.streamId)) :
    t.halves c = s.halves c ++ [r.stream] := by
  rw [halves, hlog, List.filter_append, List.map_append, ← halves, List.filter_singleton,
    decide_eq_true h]
  rfl

theorem halves_of_other {s t : QuicBackend} {c : Uuid} {r : StreamRegistration}
    (hlog : t.streamReg.log = s.streamReg.log ++ [r]) (h : ¬ r.Opens (c, r.stream.streamId)) :
    t.halves c = s.halves c := by
  rw [halves, hlog, List.filter_append, List.map_append, ← halves, List.filter_singleton,
    decide_eq_false h]
  exact List.append_nil _

/-- The half of a stream of `c`. -/
theorem opens_half (c : Uuid) (i : UInt16) (sendStream : SendStream) :
    StreamRegistration.Opens
      { connection := c, stream := GameStream.new i .reliable, sendStream := some sendStream }
      (c, (GameStream.new i .reliable).streamId) :=
  ⟨rfl, isReliable_new i, Option.some_ne_none _⟩

/-- What an action sends over the registration channel adds to the streams of `c` those that
it opens. -/
theorem halves_of_step {s t : QuicBackend} {a : Action} {c : Uuid}
    (hother : ∀ bytes, a ≠ .acceptStream c bytes) (hstep : s.step a = some t) :
    t.halves c = s.halves c ++ (s.opens c a).map fun i => GameStream.new i .reliable := by
  have hsame : ∀ {t : QuicBackend}, t.streamReg.log = s.streamReg.log → s.opens c a = [] →
      t.halves c = s.halves c ++ (s.opens c a).map fun i => GameStream.new i .reliable := by
    intro t hlog hopens
    rw [halves, hlog, hopens, List.map_nil, List.append_nil, ← halves]
  have hsend : ∀ {t : QuicBackend} {r : StreamRegistration},
      t.streamReg.log = s.streamReg.log ++ [r] → ¬ r.Opens (c, r.stream.streamId) →
      s.opens c a = [] →
      t.halves c = s.halves c ++ (s.opens c a).map fun i => GameStream.new i .reliable := by
    intro t r hlog hnot hopens
    rw [halves_of_other hlog hnot, hopens, List.map_nil, List.append_nil]
  cases steps_of_step hstep with
  | @command env cmd tx _ _ hrecv hcommand =>
    cases hcommand with
    | @openStream c' i hconn hok =>
      by_cases hc : c' = c
      · subst hc
        have hmem : c' ∈ s.connections := hconn
        have hopens : s.opens c' (.command env) = [i] := by simp [opens, hrecv, hmem, hok]
        rw [halves_of_half (Channel.log_send _ _) (opens_half c' i _), hopens]
        rfl
      · refine hsend (Channel.log_send _ _) (fun hopens => hc (Prod.mk.inj hopens.1).1) ?_
        simp only [opens, hrecv]
        exact if_neg fun hcond => hc hcond.1
    | openFails _ hfails =>
      refine hsame rfl ?_
      simp only [opens, hrecv]
      exact if_neg fun hcond => hfails hcond.2.2
    | openUnconnected hconn =>
      refine hsame rfl ?_
      simp only [opens, hrecv]
      exact if_neg fun hcond => hconn hcond.2.1
    | createStream hunreliable =>
      refine hsend (Channel.log_send _ _) (fun hopens => hopens.2.2 rfl) ?_
      simp only [opens, hrecv]
      split
      · next heq =>
        cases heq
        exact absurd rfl hunreliable
      · rfl
    | send =>
      refine hsame ?_ (by simp only [opens, hrecv])
      cases CommandEnv.sendError _ <;> rfl
    | _ => exact hsame rfl (by simp only [opens, hrecv])
  | registerStream _ hrecv =>
    refine hsame ?_ rfl
    rw [streamReg_processRegistration]
    exact Channel.log_recv hrecv
  | newDatagram => exact hsend (Channel.log_send _ _) (fun hopens => hopens.2.2 rfl) rfl
  | @acceptStream u bytes streamId =>
    refine hsend (Channel.log_send _ _) (fun hopens => ?_) rfl
    have hu : u = c := (Prod.mk.inj hopens.1).1
    exact hother bytes (hu ▸ rfl)
  | _ => exact hsame rfl rfl

theorem halves_acceptStream {s t : QuicBackend} {c : Uuid} {i : UInt16}
    (hstep : s.step (.acceptStream c (putU16 i)) = some t) :
    t.halves c = s.halves c ++ [GameStream.new i .reliable] := by
  cases steps_of_step hstep with
  | acceptStream _ _ hread =>
    rw [readU16_putU16, Option.some.injEq, Prod.mk.injEq] at hread
    obtain ⟨rfl, -⟩ := hread
    exact halves_of_half (Channel.log_send _ _) (opens_half c i _)

/-- The indices that the commands ask for. -/
def requests (cmds : List BackendCommand) : List UInt16 :=
  (cmds.filterMap BackendCommand.creation).map Creation.index

/-- What an end knows of the streams of connection `c` while it has made fewer than 2^14
calls: it has opened some of those it was asked for, and files these and the accepted ones. -/
structure Matched (s : QuicBackend) (c : Uuid) (opened accepted : List UInt16) : Prop where
  registered : Registered s
  numbered : ∃ calls, s.peer.Numbered calls ∧ calls.length < 16384
  requested : opened.Sublist (requests s.peer.cmdTx.received)
  filed : (s.halves c).Perm ((opened ++ accepted).map fun i => GameStream.new i .reliable)

theorem matched_init (c : Uuid) : Matched init c [] [] :=
  { registered := registered_init, numbered := ⟨[], GamePeer.numbered_new, by decide⟩,
    requested := List.Sublist.refl _, filed := List.Perm.refl _ }

theorem requests_append (cmds cmds' : List BackendCommand) :
    requests (cmds ++ cmds') = requests cmds ++ requests cmds' := by
  rw [requests, List.filterMap_append, List.map_append, ← requests, ← requests]

/-- An action opens only the stream that its command asks for. -/
theorem opens_sublist {s : QuicBackend} {env : CommandEnv} {cmd : BackendCommand}
    {tx : Channel BackendCommand} (hrecv : s.peer.cmdTx.recv = some (cmd, tx)) (c : Uuid) :
    (s.opens c (.command env)).Sublist (requests [cmd]) := by
  simp only [opens, hrecv]
  split
  · next heq =>
    cases heq
    split
    · exact List.Sublist.refl _
    · exact List.nil_sublist _
  · exact List.nil_sublist _

theorem matched_step {s t : QuicBackend} {a : Action} {c : Uuid} {opened accepted : List UInt16}
    (h : Matched s c opened accepted) (hother : a.joint c = false) (hstep : s.step a = some t) :
    Matched t c (opened ++ s.opens c a) accepted := by
  have haccept : ∀ bytes, a ≠ .acceptStream c bytes := by
    rintro bytes rfl
    simp [Action.joint] at hother
  obtain ⟨calls, hnumbered, hfew⟩ := h.numbered
  obtain ⟨hcommands, hnext⟩ := commands_of_step hstep
  refine ⟨registered_step h.registered hstep, ⟨calls, ?_, hfew⟩, ?_, ?_⟩
  · cases hcommands with
    | @issue cmd hcmd =>
      have hlog : t.peer.cmdTx.log = s.peer.cmdTx.log ++ [cmd] := hcmd ▸ Channel.log_send _ _
      refine hnumbered.of_log hnext hlog ?_
      cases cmd with
      | createStream => cases hother
      | _ => rfl
    | command hrecv hcmd =>
      refine hnumbered.of_log hnext ?_ List.filterMap_nil
      rw [hcmd, Channel.log_recv hrecv, List.append_nil]
    | other _ hcmd =>
      refine hnumbered.of_log hnext ?_ List.filterMap_nil
      rw [hcmd, List.append_nil]
  · cases hcommands with
    | issue hcmd =>
      show (opened ++ []).Sublist _
      rw [hcmd, List.append_nil]
      exact h.requested
    | command hrecv hcmd =>
      rw [hcmd, (Channel.recv_eq_some hrecv).2, requests_append]
      exact h.requested.append (opens_sublist hrecv c)
    | other hopens hcmd =>
      rw [hcmd, hopens, List.append_nil]
      exact h.requested
  · rw [halves_of_step haccept hstep, List.append_assoc, List.map_append, List.map_append]
    refine (h.filed.append_right _).trans ?_
    rw [List.map_append, List.append_assoc]
    exact List.perm_append_comm.append_left _

theorem matched_acceptStream {s t : QuicBackend} {c : Uuid} {i : UInt16}
    {opened accepted : List UInt16} (h : Matched s c opened accepted)
    (hstep : s.step (.acceptStream c (putU16 i)) = some t) :
    Matched t c opened (accepted ++ [i]) := by
  have hpeer : t.peer = s.peer := by
    cases steps_of_step hstep
    rfl
  refine ⟨registered_step h.registered hstep, hpeer ▸ h.numbered, hpeer ▸ h.requested, ?_⟩
  rw [halves_acceptStream hstep, ← List.append_assoc, List.map_append]
  exact h.filed.append_right _

/-- A call of `create_stream` is a command yet to be taken. -/
theorem matched_createStream {s : QuicBackend} {peer : GamePeer} {profile : Profile}
    {conn c : Uuid} {reliability : GameStreamReliability} {opened accepted : List UInt16}
    (h : Matched s c opened accepted)
    (hcall : s.peer.createStreamIn profile conn reliability = .ok peer)
    (hfew : s.peer.nextStreamId.toNat + 1 < 16384) :
    Matched { s with peer := peer } c opened accepted := by
  obtain ⟨calls, hnumbered, hcalls⟩ := h.numbered
  have hpeer := GamePeer.createStreamIn_eq_ok hcall
  have hreceived : peer.cmdTx.received = s.peer.cmdTx.received := by rw [hpeer]; rfl
  have hevents : peer.eventRx = s.peer.eventRx := by rw [hpeer]
  refine ⟨?_, ⟨_, hnumbered.createStreamIn hcall, ?_⟩, ?_, h.filed⟩
  · refine registered_of_same h.registered rfl rfl rfl ?_ rfl rfl fun c hc => Or.inl ?_
    · exact hreceived ▸ List.Subset.refl _
    · rw [Heard] at hc ⊢
      rwa [hevents] at hc
  · rw [hnumbered.next, UInt16.toNat_ofNat'] at hfew
    rw [List.length_append, List.length_singleton]
    omega
  · show opened.Sublist (requests peer.cmdTx.received)
    rw [hreceived]
    exact h.requested

/-- The indices of fewer than 2^14 calls differ, and stay below 2^14. -/
theorem Matched.opened_lt {s : QuicBackend} {c : Uuid} {opened accepted : List UInt16}
    (h : Matched s c opened accepted) : opened.Nodup ∧ ∀ i ∈ opened, i.toNat < 16384 := by
  obtain ⟨calls, hnumbered, hfew⟩ := h.numbered
  have hindices : (requests s.peer.cmdTx.log).map UInt16.toNat =
      (List.range calls.length).map (· + 1) := by
    rw [requests, hnumbered.creations]
    refine List.ext_getElem (by simp) fun k hk hk' => ?_
    have hlt : k < calls.length := by simpa using hk'
    have hindex : (UInt16.ofNat (k + 1)).toNat = k + 1 := by
      rw [UInt16.toNat_ofNat']
      omega
    simpa [CreateCall.creation] using hindex
  have hsub : opened.Sublist (requests s.peer.cmdTx.log) := by
    rw [Channel.log, requests_append]
    exact h.requested.trans (List.sublist_append_left _ _)
  have hrange := hsub.map UInt16.toNat
  rw [hindices] at hrange
  constructor
  · refine List.Nodup.of_map UInt16.toNat (hrange.nodup ?_)
    exact List.nodup_range.map fun _ _ heq => Nat.succ.inj heq
  · intro i hi
    obtain ⟨k, hk, hi⟩ := List.mem_map.mp (hrange.subset (List.mem_map_of_mem hi))
    have hlt := List.mem_range.mp hk
    omega

/-- Without a call there is no stream. -/
theorem Matched.opened_eq_nil {s : QuicBackend} {c : Uuid} {opened accepted : List UInt16}
    (h : Matched s c opened accepted) (hnext : s.peer.nextStreamId = 0) : opened = [] := by
  obtain ⟨calls, hnumbered, hfew⟩ := h.numbered
  have hlen : calls.length = 0 := by
    have hnat := congrArg UInt16.toNat (hnumbered.next.symm.trans hnext)
    rw [UInt16.toNat_ofNat', UInt16.toNat_zero] at hnat
    omega
  have hlog := hnumbered.creations
  rw [List.length_eq_zero_iff.mp hlen, Channel.log, List.filterMap_append] at hlog
  have hrequested := h.requested
  rw [requests, (List.append_eq_nil_iff.mp hlog).1] at hrequested
  exact List.sublist_nil.mp hrequested

/-- Below 2^14, an id tells the index. -/
theorem new_inj {i j : UInt16} (hi : i.toNat < 16384) (hj : j.toNat < 16384)
    (h : GameStream.new i .reliable = GameStream.new j .reliable) : i = j := by
  have hmod := (GameStream.new_eq_new_iff.mp h).2
  rw [Nat.mod_eq_of_lt hi, Nat.mod_eq_of_lt hj] at hmod
  exact UInt16.toNat_inj.mp hmod

/-- The streams that an end files differ exactly when it has accepted no index of its own. -/
theorem nodup_halves_iff {s : QuicBackend} {c : Uuid} {opened accepted : List UInt16}
    (h : Matched s c opened accepted) (hnodup : accepted.Nodup)
    (hlt : ∀ i ∈ accepted, i.toNat < 16384) :
    (s.halves c).Nodup ↔ ∀ i ∈ opened, i ∉ accepted := by
  obtain ⟨hnodup', hlt'⟩ := h.opened_lt
  have hall : ∀ i ∈ opened ++ accepted, i.toNat < 16384 := by
    intro i hi
    exact (List.mem_append.mp hi).elim (hlt' i) (hlt i)
  have hmap : ((opened ++ accepted).map fun i => GameStream.new i .reliable).Nodup ↔
      (opened ++ accepted).Nodup :=
    ⟨List.Nodup.of_map _, fun h => h.map_on fun i hi j hj => new_inj (hall i hi) (hall j hj)⟩
  rw [h.filed.nodup_iff, hmap, List.nodup_append']
  exact ⟨fun h i hi hi' => h.2.2 hi hi', fun h => ⟨hnodup', hnodup, fun i hi hi' => h i hi hi'⟩⟩

end QuicBackend

namespace QuicPair

/-- A stream of the connection that a loop files gets a key of its own. -/
def Vacant (uuid : End → Uuid) (s : QuicPair) : PairAction → Prop
  | .backend e .registerStream =>
    match (s.ends e).streamReg.recv with
    | some (r, _) =>
      r.Opens (uuid e, r.stream.streamId) → (s.ends e).reliableSendStreams r.key = none
    | none => True
  | _ => True

/-- No two QUIC streams of the connection share a stream, at either end. -/
def Unshared (uuid : End → Uuid) (s : QuicPair) : Prop :=
  ∀ e, ((s.ends e).halves (uuid e)).Nodup

/-- The streams that the end opens by an action. -/
def opening (uuid : End → Uuid) (s : QuicPair) (e : End) : PairAction → List UInt16
  | .backend e' a => if e = e' then (s.ends e').opens (uuid e') a else []
  | _ => []

/-- The stream that the end accepts by an action. -/
def accepting (s : QuicPair) (e : End) : PairAction → List UInt16
  | .acceptStream e' =>
    if e = e' then ((s.streams e'.other).recv.map Prod.fst).toList else []
  | _ => []

/-- An end opens no stream with the index of one that it has accepted, and accepts none
with the index of one that it has opened. -/
def Separate (uuid : End → Uuid) (s : QuicPair) (a : PairAction) : Prop :=
  ∀ e, (∀ i ∈ s.opening uuid e a, i ∉ s.accepted e) ∧ ∀ i ∈ s.accepting e a, i ∉ s.opened e

/-- What both ends know. -/
def Joined (uuid : End → Uuid) (s : QuicPair) : Prop :=
  ∀ e, (s.ends e).Matched (uuid e) (s.opened e) (s.accepted e)

/-- A call of `create_stream` is none of the last ones. -/
def Few (s : QuicPair) : PairAction → Prop
  | .createStream e _ _ => (s.ends e).peer.nextStreamId.toNat + 1 < 16384
  | _ => True

variable {profile : Profile} {uuid : End → Uuid}

theorem joined_init : Joined uuid init := fun e => QuicBackend.matched_init (uuid e)

theorem opened_of_step {s t : QuicPair} {a : PairAction} (hstep : s.step profile uuid a = some t)
    (e : End) : t.opened e = s.opened e ++ s.opening uuid e a := by
  cases steps_of_step hstep with
  | createStream => exact (List.append_nil _).symm
  | @backend e' a =>
    by_cases he : e = e'
    · subst he
      simp [opened, opening]
    · simp [opened, opening, he]
  | @acceptStream e' _ _ _ hrecv =>
    refine Eq.trans ?_ (List.append_nil _).symm
    by_cases he : e = e'.other
    · subst he
      simp [opened, Channel.log_recv hrecv]
    · simp [opened, he]

theorem accepted_of_step {s t : QuicPair} {a : PairAction}
    (hstep : s.step profile uuid a = some t) (e : End) :
    t.accepted e = s.accepted e ++ s.accepting e a := by
  cases steps_of_step hstep with
  | createStream => exact (List.append_nil _).symm
  | @backend e' a =>
    refine Eq.trans ?_ (List.append_nil _).symm
    by_cases he : e.other = e'
    · subst he
      simp [accepted, Channel.sendAll]
    · simp [accepted, he]
  | @acceptStream e' _ _ _ hrecv =>
    have hreceived := (Channel.recv_eq_some hrecv).2
    by_cases he : e = e'
    · subst he
      simp [accepted, accepting, hrecv, hreceived]
    · rw [End.eq_other he]
      simp [accepted, accepting, End.other_ne, (End.other_ne e').symm]

theorem joined_step {s t : QuicPair} {a : PairAction} (h : s.Joined uuid) (hfew : s.Few a)
    (hstep : s.step profile uuid a = some t) : t.Joined uuid := by
  intro e
  have h' := h e
  rw [opened_of_step hstep, accepted_of_step hstep]
  cases steps_of_step hstep with
  | @createStream e' _ _ _ hcall =>
    by_cases he : e = e'
    · subst he
      have hmatched := QuicBackend.matched_createStream h' hcall hfew
      simpa [setEnd, opening, accepting] using hmatched
    · simpa [setEnd, opening, accepting, he] using h'
  | @backend e' _ _ hother hbackend =>
    by_cases he : e = e'
    · subst he
      have hmatched := QuicBackend.matched_step h' hother hbackend
      simpa [opening, accepting] using hmatched
    · simpa [opening, accepting, he] using h'
  | @acceptStream e' _ _ _ hrecv hbackend =>
    by_cases he : e = e'
    · subst he
      have hmatched := QuicBackend.matched_acceptStream h' hbackend
      simpa [opening, accepting, hrecv] using hmatched
    · simpa [opening, accepting, he] using h'

/-- No end has accepted a stream with the index of one that it has opened. -/
def Apart (s : QuicPair) : Prop := ∀ e, ∀ i ∈ s.opened e, i ∉ s.accepted e

theorem unshared_iff {s : QuicPair} (h : s.Joined uuid) : s.Unshared uuid ↔ s.Apart := by
  refine forall_congr' fun e => ?_
  obtain ⟨hnodup, hlt⟩ := (h e.other).opened_lt
  have hsub : (s.accepted e).Sublist (s.opened e.other) := List.sublist_append_left _ _
  exact QuicBackend.nodup_halves_iff (h e) (hnodup.sublist hsub)
    fun i hi => hlt i (hsub.subset hi)

theorem apart_step_iff {s t : QuicPair} {a : PairAction} (h : s.Apart)
    (hstep : s.step profile uuid a = some t) : t.Apart ↔ s.Separate uuid a := by
  refine forall_congr' fun e => ?_
  rw [opened_of_step hstep, accepted_of_step hstep]
  -- an action does not open and accept at once
  have hone : s.opening uuid e a = [] ∨ s.accepting e a = [] := by
    cases a with
    | acceptStream => exact Or.inl rfl
    | createStream => exact Or.inl rfl
    | backend => exact Or.inr rfl
  have h' := h e
  rcases hone with hone | hone
  · rw [hone, List.append_nil]
    constructor
    · exact fun h => ⟨nofun, fun i hi ho => h i ho (List.mem_append_right _ hi)⟩
    · rintro ⟨-, hnew⟩ i hi hmem
      exact (List.mem_append.mp hmem).elim (h' i hi) fun hmem => hnew i hmem hi
  · rw [hone, List.append_nil]
    constructor
    · exact fun h => ⟨fun i hi => h i (List.mem_append_right _ hi), nofun⟩
    · rintro ⟨hnew, -⟩ i hi
      exact (List.mem_append.mp hi).elim (h' i) (hnew i)

/-- A key in the table is that of a stream that the loop has filed. -/
theorem vacant_of_unshared {s : QuicPair} {a : PairAction} (h : s.Joined uuid)
    (hunshared : s.Unshared uuid) : s.Vacant uuid a := by
  cases a with
  | backend e a =>
    cases a with
    | registerStream =>
      simp only [Vacant]
      split
      · next r reg hrecv =>
        intro hopens
        by_contra htable
        obtain ⟨r', hr', hopens'⟩ := (h e).registered.opened _ htable
        have hpending := (Channel.recv_eq_some hrecv).1
        -- the stream of `r` is that of `r'`, which the loop has taken before it
        obtain ⟨hconn, hstream⟩ := StreamRegistration.key_eq_iff.mp hopens'.1
        have hconn' : r.connection = uuid e := (StreamRegistration.key_eq_iff.mp hopens.1).1
        have hnodup := hunshared e
        rw [QuicBackend.halves, Channel.log, List.filter_append, List.map_append] at hnodup
        refine List.disjoint_of_nodup_append hnodup (a := r.stream) ?_ ?_
        · refine List.mem_map.mpr ⟨r', List.mem_filter.mpr ⟨hr', ?_⟩, hstream⟩
          rw [decide_eq_true_eq, hstream, ← hconn']
          exact hopens'
        · refine List.mem_map.mpr ⟨r, List.mem_filter.mpr ⟨?_, decide_eq_true hopens⟩, rfl⟩
          rw [hpending]
          exact List.mem_cons_self
      · trivial
    | _ => trivial
  | _ => trivial

theorem nextStreamId_of_step {s t : QuicPair} {a : PairAction}
    (hstep : s.step profile uuid a = some t) (e : End) :
    (t.ends e).peer.nextStreamId =
      (s.ends e).peer.nextStreamId + if a.creates e then 1 else 0 := by
  cases steps_of_step hstep with
  | @createStream e' _ _ _ hcall =>
    by_cases he : e = e'
    · subst he
      simp [setEnd, PairAction.creates, GamePeer.createStreamIn_eq_ok hcall]
    · simp [setEnd, PairAction.creates, he, Ne.symm he]
  | @backend e' _ _ _ hbackend =>
    have hnext := (QuicBackend.commands_of_step hbackend).2
    by_cases he : e = e'
    · subst he
      simp [PairAction.creates, hnext]
    · simp [PairAction.creates, he]
  | @acceptStream e' _ _ _ _ hbackend =>
    have hnext := (QuicBackend.commands_of_step hbackend).2
    by_cases he : e = e'
    · subst he
      simp [PairAction.creates, hnext]
    · simp [PairAction.creates, he]

/-- Fewer than 2^14 calls at each end are few. -/
theorem few_of_count {actions : List PairAction} {s t : QuicPair}
    (hcount : ∀ e, (s.ends e).peer.nextStreamId.toNat + actions.countP (PairAction.creates e) <
      16384)
    (hrun : Run.run (step profile uuid) s actions = some t) :
    Run.Along (step profile uuid) Few s actions := by
  induction actions generalizing s with
  | nil => trivial
  | cons a actions ih =>
    obtain ⟨u, hu, hrest⟩ := Run.run_cons_eq_some _ hrun
    rw [Run.along_cons_of_step _ hu]
    constructor
    · cases a with
      | createStream e =>
        have hcount := hcount e
        rw [List.countP_cons_of_pos (by simp [PairAction.creates])] at hcount
        show (s.ends e).peer.nextStreamId.toNat + 1 < 16384
        omega
      | backend => trivial
      | acceptStream => trivial
    · refine ih (fun e => ?_) hrest
      have hcount := hcount e
      rw [List.countP_cons] at hcount
      rw [nextStreamId_of_step hu e, UInt16.toNat_add]
      split
      · next hcreates =>
        rw [if_pos hcreates] at hcount
        rw [UInt16.toNat_one]
        omega
      · next hcreates =>
        rw [if_neg hcreates] at hcount
        rw [UInt16.toNat_zero]
        omega

/-- While each end makes fewer than 2^14 calls, every stream gets a key of its own at both
ends exactly when the indices opened and accepted are separate. -/
theorem streams_unshared_iff (profile : Profile) (uuid : End → Uuid) (actions : List PairAction)
    (s : QuicPair) (hrun : Run.run (step profile uuid) init actions = some s)
    (hfew : ∀ e, actions.countP (PairAction.creates e) < 16384) :
    Run.Along (step profile uuid) (Vacant uuid) init actions ∧
        Run.Throughout (step profile uuid) (Unshared uuid) init actions ↔
      Run.Along (step profile uuid) (Separate uuid) init actions := by
  have hfew : Run.Along (step profile uuid) Few init actions :=
    few_of_count (fun e => (Nat.zero_add _).symm ▸ hfew e) hrun
  have hkeep : ∀ (s : QuicPair) a t, s.Joined uuid → s.Few a → s.step profile uuid a = some t →
      t.Joined uuid := fun _ _ _ => joined_step
  have hgood : ∀ (s : QuicPair) a t, s.Joined uuid → s.Few a → s.Unshared uuid →
      s.step profile uuid a = some t → (t.Unshared uuid ↔ s.Separate uuid a) := by
    intro s a t h hfew hunshared hstep
    rw [unshared_iff h] at hunshared
    rw [unshared_iff (joined_step h hfew hstep), apart_step_iff hunshared hstep]
  have hstart : init.Unshared uuid := fun _ => List.nodup_nil
  rw [Run.throughout_iff_along_of_allowed hkeep hgood actions joined_init hstart hfew hrun]
  refine and_iff_right_of_imp fun hseparate => ?_
  have hthroughout := (Run.throughout_iff_along_of_allowed hkeep hgood actions joined_init hstart
    hfew hrun).mpr hseparate
  exact Run.along_of_throughout hkeep (fun _ _ => vacant_of_unshared) actions joined_init hfew hrun
    hthroughout

/-- Where one end alone creates streams, no stream is shared. -/
theorem unshared_of_oneSided {actions : List PairAction} {s : QuicPair} {e : End}
    (hrun : Run.run (step profile uuid) init actions = some s)
    (hfew : ∀ e, actions.countP (PairAction.creates e) < 16384)
    (hside : ∀ a ∈ actions, a.creates e.other = false) :
    Run.Along (step profile uuid) (Vacant uuid) init actions ∧
      Run.Throughout (step profile uuid) (Unshared uuid) init actions := by
  have hfew : Run.Along (step profile uuid) Few init actions :=
    few_of_count (fun e => (Nat.zero_add _).symm ▸ hfew e) hrun
  have hallowed : Run.Along (step profile uuid)
      (fun s a => s.Few a ∧ a.creates e.other = false) init actions :=
    (Run.along_and _ hrun).mpr ⟨hfew, (Run.along_iff_forall_mem _ hrun).mpr hside⟩
  have hkeep : ∀ (s : QuicPair) a t,
      s.Joined uuid ∧ (s.ends e.other).peer.nextStreamId = 0 →
      s.Few a ∧ a.creates e.other = false → s.step profile uuid a = some t →
      t.Joined uuid ∧ (t.ends e.other).peer.nextStreamId = 0 := by
    rintro s a t ⟨h, hnext⟩ ⟨hfew, hside⟩ hstep
    refine ⟨joined_step h hfew hstep, ?_⟩
    rw [nextStreamId_of_step hstep, hnext, hside]
    rfl
  have hgood : ∀ s : QuicPair, s.Joined uuid ∧ (s.ends e.other).peer.nextStreamId = 0 →
      s.Unshared uuid := by
    rintro s ⟨h, hnext⟩
    rw [unshared_iff h]
    have hnone : s.opened e.other = [] := (h e.other).opened_eq_nil hnext
    intro e' i hi hmem
    by_cases he : e' = e
    · subst he
      have hsub : (s.accepted e').Sublist (s.opened e'.other) := List.sublist_append_left _ _
      rw [hnone] at hsub
      exact absurd (hsub.subset hmem) List.not_mem_nil
    · rw [End.eq_other he, hnone] at hi
      exact absurd hi List.not_mem_nil
  have hthroughout :=
    Run.throughout_of_invariant hkeep hgood actions ⟨joined_init, rfl⟩ hallowed hrun
  exact ⟨Run.along_of_throughout (fun _ _ _ => joined_step) (fun _ _ => vacant_of_unshared) actions
    joined_init hfew hrun hthroughout, hthroughout⟩

/-- Both ends call the connection by the same UUID. -/
def oneUuid : End → Uuid := fun _ => Uuid.nil

/-- The left end connects to the right one. -/
def connect : List PairAction :=
  [.backend .right (.issue (.bind "127.0.0.1" 8080)), .backend .right (.command .allOk),
    .backend .left (.issue (.connect "127.0.0.1" 8080)), .backend .left (.command .allOk),
    .backend .right (.announce 0 Uuid.nil), .backend .right (.handOver 0),
    .backend .right .registerConnection]

/-- An end creates a reliable stream, and files it. -/
def createReliableAt (e : End) : List PairAction :=
  [.createStream e Uuid.nil .reliable, .backend e (.command .allOk), .backend e .registerStream]

/-- The left end creates a stream, and the right end accepts and files it. -/
def leftCreates : List PairAction :=
  connect ++ createReliableAt .left ++ [.acceptStream .right, .backend .right .registerStream]

theorem streams_unshared_leftCreates :
    ∃ s, Run.run (step .release oneUuid) init leftCreates = some s ∧
      Run.Throughout (step .release oneUuid) (Unshared oneUuid) init leftCreates ∧
      Run.Along (step .release oneUuid) (Separate oneUuid) init leftCreates := by
  have hfew : ∀ e, leftCreates.countP (PairAction.creates e) < 16384 := by
    intro e
    have hlen : leftCreates.length = 12 := rfl
    have hle : leftCreates.countP (PairAction.creates e) ≤ leftCreates.length :=
      List.countP_le_length
    omega
  have hside : ∀ a ∈ leftCreates, a.creates End.left.other = false := by decide
  obtain ⟨s, hrun⟩ : ∃ s, Run.run (step .release oneUuid) init leftCreates = some s := ⟨_, rfl⟩
  have hunshared := unshared_of_oneSided hrun hfew hside
  exact ⟨s, hrun, hunshared.2,
    (streams_unshared_iff .release oneUuid leftCreates s hrun hfew).mp hunshared⟩

/-- Both ends create a stream, and the left end accepts that of the right one. -/
def bothCreate : List PairAction :=
  connect ++ createReliableAt .left ++ createReliableAt .right ++ [.acceptStream .left]

/-- The registration of the accepted stream replaces the sending half of the end's own. -/
theorem streams_shared :
    ∃ s t, Run.run (step .dev oneUuid) init bothCreate = some s ∧
      (s.ends .left).reliableSendStreams (Uuid.nil, 7) = some { written := [0, 1] } ∧
      s.step .dev oneUuid (.backend .left .registerStream) = some t ∧
      (t.ends .left).reliableSendStreams (Uuid.nil, 7) = some { written := [] } ∧
      ¬ s.Vacant oneUuid (.backend .left .registerStream) ∧ ¬ s.Unshared oneUuid := by
  refine ⟨_, _, rfl, rfl, rfl, rfl, ?_, ?_⟩
  · exact fun h => absurd (h ⟨rfl, rfl, Option.some_ne_none _⟩) (Option.some_ne_none _)
  · exact fun h => absurd (h .left) (by decide +kernel)

end QuicPair

end Quic
end GameSockets
