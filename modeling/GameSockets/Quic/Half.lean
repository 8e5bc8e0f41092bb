/-
The sending half of one QUIC stream, from its registration on.

The table of `reliable_send_streams` knows its entries by key, and a key can be taken over by
another stream.  The half of a stream is the entry as long as it is this stream's: from the
registration channel, through the table, until a `CloseStream` or another registration under the
same key drops it.
-/
import GameSockets.Quic.Events
import GameSockets.Quic.Registration

namespace GameSockets
namespace Quic

open Library

namespace QuicBackend

/-- The loop has put a stream registered after `n` under the key. -/
def Replaced (s : QuicBackend) (n : Nat) (key : Uuid × UInt16) : Prop :=
  ∃ r ∈ s.streamReg.received.drop (n + 1), r.Opens key

instance (s : QuicBackend) (n : Nat) (key : Uuid × UInt16) : Decidable (s.Replaced n key) :=
  inferInstanceAs (Decidable (∃ r ∈ _, _))

/-- The sending half of registration `n`, while the backend has it. -/
def half (s : QuicBackend) (n : Nat) : Option SendStream :=
  match s.streamReg.log[n]? with
  | none => none
  | some r =>
    if n < s.streamReg.received.length then
      if s.Replaced n r.key then none else s.reliableSendStreams r.key
    else r.sendStream

/-- What a step writes on the stream of registration `n`. -/
def growth (s t : QuicBackend) (n : Nat) : Bytes :=
  match s.half n, t.half n with
  | some half, some half' => half'.written.drop half.written.length
  | _, _ => []

/-- The key under which the half of registration `n` is in the table. -/
def halfKey (s : QuicBackend) (n : Nat) : Option (Uuid × UInt16) :=
  if n < s.streamReg.received.length ∧ s.half n ≠ none then
    s.streamReg.log[n]?.map StreamRegistration.key
  else none

/-- The `Send` that the loop is about to write on the stream of registration `n`. -/
def attempt (s : QuicBackend) (n : Nat) : Action → Option (GameStream × Bytes)
  | .command _ =>
    match s.peer.cmdTx.recv with
    | some (.send c stream data, _) =>
      if c ∈ s.connections ∧ stream.isReliable ∧ s.halfKey n = some (c, stream.streamId) then
        some (stream, data)
      else none
    | _ => none
  | _ => none

/-- The bytes of a frame that a write puts on its stream. -/
def pushed (data : Bytes) : Action → Bytes
  | .command env =>
    match env.sendError with
    | none => frame data
    | some (k, _) => (frame data).take k
  | _ => []

theorem pushed_of_ok {env : CommandEnv} (h : env.sendError = none) (data : Bytes) :
    pushed data (.command env) = frame data := by
  simp only [pushed, h]

theorem pushed_of_error {env : CommandEnv} {k : Nat} {msg : String}
    (h : env.sendError = some (k, msg)) (data : Bytes) :
    pushed data (.command env) = (frame data).take k := by
  simp only [pushed, h]

section Half

variable {s t : QuicBackend} {n : Nat} {r : StreamRegistration}

theorem replaced_congr (hreg : t.streamReg.received = s.streamReg.received)
    (key : Uuid × UInt16) : t.Replaced n key ↔ s.Replaced n key := by
  rw [Replaced, hreg, Replaced]

theorem half_congr (hreg : t.streamReg = s.streamReg)
    (htable : t.reliableSendStreams = s.reliableSendStreams) : t.half n = s.half n := by
  simp only [half, replaced_congr (congrArg Channel.received hreg), hreg, htable]

theorem growth_of_half (h : t.half n = s.half n) : s.growth t n = [] := by
  rw [growth, h]
  split
  · next half half' hs ht =>
    rw [hs] at ht
    cases ht
    exact List.drop_length
  · rfl

/-- The half of a registration that is still in its channel. -/
theorem half_of_pending (hlog : s.streamReg.log[n]? = some r)
    (hn : ¬ n < s.streamReg.received.length) : s.half n = r.sendStream := by
  simp only [half, hlog, if_neg hn]

theorem half_of_received (hlog : s.streamReg.log[n]? = some r)
    (hn : n < s.streamReg.received.length) :
    s.half n = if s.Replaced n r.key then none else s.reliableSendStreams r.key := by
  simp only [half, hlog, if_pos hn]

/-- A further registration leaves the older ones where they are. -/
theorem log_sendRegistration (hlog : s.streamReg.log[n]? = some r) (r' : StreamRegistration) :
    (s.streamReg.send r').log[n]? = some r := by
  rw [Channel.log_send]
  exact List.getElem?_append_left (List.getElem?_eq_some_iff.mp hlog).1 ▸ hlog

theorem half_of_send (hlog : s.streamReg.log[n]? = some r) {r' : StreamRegistration}
    (hreg : t.streamReg = s.streamReg.send r')
    (htable : t.reliableSendStreams = s.reliableSendStreams) : t.half n = s.half n := by
  have hlog' : t.streamReg.log[n]? = some r := hreg ▸ log_sendRegistration hlog r'
  have hreceived : t.streamReg.received = s.streamReg.received := by
    rw [hreg]
    rfl
  simp only [half, hlog, hlog', replaced_congr hreceived, hreceived, htable]

/-- What the loop makes of a registration under the key of another. -/
theorem table_of_takes {r₁ : StreamRegistration} {key : Uuid × UInt16} (htakes : Takes s r₁ t)
    (hnot : ¬ r₁.Opens key) : t.reliableSendStreams key = s.reliableSendStreams key := by
  cases htakes with
  | reliable hreliable hhalf =>
    have hne : key ≠ r₁.key := by
      rintro rfl
      exact hnot ⟨rfl, hreliable, by rw [hhalf]; exact Option.some_ne_none _⟩
    exact Function.update_of_ne hne _ _
  | known => rfl
  | unreliable => rfl

/-- What the loop makes of a registration that opens its key. -/
theorem table_of_opens {r₁ : StreamRegistration} (htakes : Takes s r₁ t)
    (hopens : r₁.Opens r₁.key) : t.reliableSendStreams r₁.key = r₁.sendStream := by
  cases htakes with
  | reliable hreliable hhalf => exact (Function.update_self _ _ _).trans hhalf.symm
  | known hother => exact absurd (hother hopens.2.1) hopens.2.2
  | unreliable hother => exact absurd (hother hopens.2.1) hopens.2.2

/-- The loop takes the registration itself, one that replaces it, or one of another key. -/
theorem half_of_registerStream {r₁ : StreamRegistration} {reg : Channel StreamRegistration}
    (hlog : s.streamReg.log[n]? = some r) (hopens : r.Opens r.key)
    (hrecv : s.streamReg.recv = some (r₁, reg))
    (htakes : Takes { s with streamReg := reg } r₁ t) (hreg : t.streamReg = reg) :
    t.half n = s.half n ∨ t.half n = none := by
  obtain ⟨hpending, hreceived⟩ := Channel.recv_eq_some hrecv
  have hlog' : t.streamReg.log[n]? = some r := by
    rw [hreg, Channel.log_recv hrecv]
    exact hlog
  have hlength : t.streamReg.received.length = s.streamReg.received.length + 1 := by
    rw [hreg, hreceived, List.length_append, List.length_singleton]
  rcases Nat.lt_trichotomy n s.streamReg.received.length with hn | hn | hn
  · -- it is in the table
    have hreplaced : t.Replaced n r.key ↔ s.Replaced n r.key ∨ r₁.Opens r.key := by
      rw [Replaced, hreg, hreceived, List.drop_append_of_le_length (by omega), Replaced]
      simp [or_and_right, exists_or]
    rw [half_of_received hlog hn, half_of_received hlog' (by omega)]
    by_cases hnot : r₁.Opens r.key
    · exact Or.inr (if_pos (hreplaced.mpr (Or.inr hnot)))
    · refine Or.inl ?_
      have htable : t.reliableSendStreams r.key = s.reliableSendStreams r.key :=
        table_of_takes (s := { s with streamReg := reg }) htakes hnot
      simp only [hreplaced, htable, hnot, or_false]
  · -- the loop takes it
    have heq : r₁ = r := by
      rw [Channel.log, hpending, hn, List.getElem?_append_right (Nat.le_refl _), Nat.sub_self]
        at hlog
      exact Option.some.inj hlog
    subst heq
    refine Or.inl ?_
    have hnot : ¬ t.Replaced n r₁.key := by
      rw [Replaced, List.drop_of_length_le (by omega)]
      rintro ⟨r', hr', -⟩
      cases hr'
    rw [half_of_pending hlog (by omega), half_of_received hlog' (by omega), if_neg hnot]
    exact table_of_opens htakes hopens
  · -- it stays in its channel
    refine Or.inl ?_
    rw [half_of_pending hlog (by omega), half_of_pending hlog' (by omega)]

/-- The key leads to the half, and there is one. -/
theorem halfKey_eq_some_iff (hlog : s.streamReg.log[n]? = some r) {key : Uuid × UInt16} :
    s.halfKey n = some key ↔ n < s.streamReg.received.length ∧ ¬ s.Replaced n key ∧
      r.key = key ∧ s.reliableSendStreams key ≠ none := by
  rw [halfKey]
  by_cases hn : n < s.streamReg.received.length
  · rw [half_of_received hlog hn, hlog, Option.map_some]
    by_cases hreplaced : s.Replaced n r.key
    · rw [if_pos hreplaced, if_neg (fun h => h.2 rfl)]
      refine iff_of_false (by simp) ?_
      rintro ⟨-, hnot, rfl, -⟩
      exact hnot hreplaced
    · rw [if_neg hreplaced]
      by_cases htable : s.reliableSendStreams r.key = none
      · rw [if_neg (fun h => h.2 htable)]
        refine iff_of_false (by simp) ?_
        rintro ⟨-, -, rfl, hne⟩
        exact hne htable
      · rw [if_pos ⟨hn, htable⟩]
        constructor
        · intro h
          cases h
          exact ⟨hn, hreplaced, rfl, htable⟩
        · rintro ⟨-, -, rfl, -⟩
          rfl
  · rw [if_neg (fun h => hn h.1)]
    exact iff_of_false (by simp) (fun h => hn h.1)

/-- A new value under a key is the half's, if the key leads to it. -/
theorem half_of_update (hlog : s.streamReg.log[n]? = some r) {key : Uuid × UInt16}
    {value : Option SendStream} (hreg : t.streamReg = s.streamReg)
    (htable : t.reliableSendStreams = Function.update s.reliableSendStreams key value) :
    t.half n =
      if n < s.streamReg.received.length ∧ ¬ s.Replaced n key ∧ r.key = key then value
      else s.half n := by
  have hlog' : t.streamReg.log[n]? = some r := hreg ▸ hlog
  by_cases hn : n < s.streamReg.received.length
  · rw [half_of_received hlog' (hreg ▸ hn), half_of_received hlog hn,
      if_congr (replaced_congr (congrArg Channel.received hreg) r.key) rfl rfl, htable]
    by_cases hkey : r.key = key
    · subst hkey
      by_cases hreplaced : s.Replaced n r.key
      · simp [hreplaced]
      · simp [hn, hreplaced]
    · simp [hkey]
  · rw [half_of_pending hlog' (hreg ▸ hn), if_neg (fun h => hn h.1), half_of_pending hlog hn]

/-- What one step does to the half of registration `n`. -/
inductive HalfMoves (s t : QuicBackend) (n : Nat) (a : Action) : Prop where
  | same (hattempt : s.attempt n a = none) (hhalf : t.half n = s.half n) : HalfMoves s t n a
  | lost (hattempt : s.attempt n a = none) (hhalf : t.half n = none) : HalfMoves s t n a
  | grows {half : SendStream} {stream : GameStream} {data : Bytes}
    (hattempt : s.attempt n a = some (stream, data)) (hs : s.half n = some half)
    (ht : t.half n = some { written := half.written ++ pushed data a }) : HalfMoves s t n a

theorem attempt_eq_none_of_recv {env : CommandEnv} {cmd : BackendCommand}
    {tx : Channel BackendCommand} (hrecv : s.peer.cmdTx.recv = some (cmd, tx))
    (hsend : ∀ c stream data, cmd = .send c stream data →
      ¬ (c ∈ s.connections ∧ stream.isReliable = true ∧
        s.halfKey n = some (c, stream.streamId))) : s.attempt n (.command env) = none := by
  simp only [attempt, hrecv]
  cases cmd with
  | send c stream data => exact if_neg (hsend c stream data rfl)
  | _ => rfl

theorem halfMoves_of_step {a : Action} (hlog : s.streamReg.log[n]? = some r)
    (hopens : r.Opens r.key) (hstep : s.step a = some t) : HalfMoves s t n a := by
  have same : ∀ {t : QuicBackend} {a : Action}, (∀ env, a ≠ .command env) →
      t.streamReg = s.streamReg → t.reliableSendStreams = s.reliableSendStreams →
      HalfMoves s t n a := by
    intro t a hother hreg htable
    refine .same ?_ (half_congr hreg htable)
    cases a with
    | command env => exact absurd rfl (hother env)
    | _ => rfl
  have files : ∀ {t : QuicBackend} {a : Action} {r' : StreamRegistration},
      (∀ env, a ≠ .command env) → t.streamReg = s.streamReg.send r' →
      t.reliableSendStreams = s.reliableSendStreams → HalfMoves s t n a := by
    intro t a r' hother hreg htable
    refine .same ?_ (half_of_send hlog hreg htable)
    cases a with
    | command env => exact absurd rfl (hother env)
    | _ => rfl
  cases steps_of_step hstep with
  | issue => exact same (by simp) rfl rfl
  | poll => exact same (by simp) rfl rfl
  | registerConnection => exact same (by simp) rfl rfl
  | @registerStream r₁ reg _ hrecv =>
    have htakes := takes_processRegistration { s with streamReg := reg } r₁
    rcases half_of_registerStream hlog hopens hrecv htakes
      (streamReg_processRegistration _ _) with hhalf | hhalf
    · exact .same rfl hhalf
    · exact .lost rfl hhalf
  | @command env cmd tx t _ hrecv hcommand =>
    have mute : (∀ c stream data, cmd ≠ .send c stream data) →
        ∀ {t : QuicBackend}, t.streamReg = s.streamReg →
        t.reliableSendStreams = s.reliableSendStreams → HalfMoves s t n (.command env) := by
      intro hcmd t hreg htable
      exact .same (attempt_eq_none_of_recv hrecv fun c st d h => absurd h (hcmd c st d))
        (half_congr hreg htable)
    cases hcommand with
    | bind => exact mute (by simp) rfl rfl
    | bindFails => exact mute (by simp) rfl rfl
    | connect => exact mute (by simp) rfl rfl
    | connectFails => exact mute (by simp) rfl rfl
    | @send c stream data sendStream hconn hreliable hstream =>
      have hwritten : ∀ error, (({ s with peer := { s.peer with cmdTx := tx } } :
          QuicBackend).writeAll (c, stream.streamId) sendStream (frame data) error).half n =
          if n < s.streamReg.received.length ∧ ¬ s.Replaced n (c, stream.streamId) ∧
              r.key = (c, stream.streamId) then
            some { written := sendStream.written ++ (match error with
              | none => frame data
              | some (k, _) => (frame data).take k) }
          else s.half n := by
        intro error
        cases error with
        | none => exact half_of_update hlog rfl rfl
        | some e => exact half_of_update hlog rfl rfl
      by_cases hkey : s.halfKey n = some (c, stream.streamId)
      · obtain ⟨hn, hreplaced, heq, -⟩ := (halfKey_eq_some_iff hlog).mp hkey
        refine @HalfMoves.grows _ _ _ _ sendStream stream data ?_ ?_ ?_
        · simp only [attempt, hrecv]
          exact if_pos ⟨hconn, hreliable, hkey⟩
        · rw [half_of_received hlog hn, heq, if_neg hreplaced, hstream]
        · rw [hwritten, if_pos ⟨hn, hreplaced, heq⟩]
          rfl
      · refine .same (attempt_eq_none_of_recv hrecv ?_) ?_
        · rintro c' st' d' h ⟨-, -, hkey'⟩
          cases h
          exact hkey hkey'
        · rw [hwritten, if_neg]
          rintro ⟨hn, hreplaced, heq⟩
          refine hkey ((halfKey_eq_some_iff hlog).mpr ⟨hn, hreplaced, heq, ?_⟩)
          rw [hstream]
          exact Option.some_ne_none _
    | @noStream c stream data hconn hreliable hstream =>
      refine .same (attempt_eq_none_of_recv hrecv ?_) (half_congr rfl rfl)
      rintro c' st' d' h ⟨-, -, hkey⟩
      cases h
      exact ((halfKey_eq_some_iff hlog).mp hkey).2.2.2 hstream
    | @datagram c stream data hconn hunreliable =>
      refine .same (attempt_eq_none_of_recv hrecv ?_) (half_congr rfl rfl)
      rintro c' st' d' h ⟨-, hreliable, -⟩
      cases h
      exact hunreliable hreliable
    | @datagramFails c stream data k msg hconn hunreliable =>
      refine .same (attempt_eq_none_of_recv hrecv ?_) (half_congr rfl rfl)
      rintro c' st' d' h ⟨-, hreliable, -⟩
      cases h
      exact hunreliable hreliable
    | @noConnection c stream data hconn =>
      refine .same (attempt_eq_none_of_recv hrecv ?_) (half_congr rfl rfl)
      rintro c' st' d' h ⟨hconn', -⟩
      cases h
      exact hconn hconn'
    | shutdown => exact mute (by simp) rfl rfl
    | openStream =>
      exact .same (attempt_eq_none_of_recv hrecv (by simp)) (half_of_send hlog rfl rfl)
    | openFails => exact mute (by simp) rfl rfl
    | openUnconnected => exact mute (by simp) rfl rfl
    | createStream =>
      exact .same (attempt_eq_none_of_recv hrecv (by simp)) (half_of_send hlog rfl rfl)
    | @closeStream c i =>
      have hattempt : s.attempt n (.command env) = none :=
        attempt_eq_none_of_recv hrecv (by simp)
      have hclosed := half_of_update hlog (t := { s.emit [.streamClosed c { streamId := i }] with
        reliableSendStreams := Function.update s.reliableSendStreams (c, i) none,
        unreliableSendStreams := s.unreliableSendStreams.filter (· ≠ (c, i)) }) rfl rfl
      split at hclosed
      · exact .lost hattempt hclosed
      · exact .same hattempt hclosed
  | announce => exact same (by simp) rfl rfl
  | handOver => exact same (by simp) rfl rfl
  | shortDatagram => exact same (by simp) rfl rfl
  | readDatagram => exact same (by simp) rfl rfl
  | newDatagram => exact files (by simp) rfl rfl
  | sendDatagram => exact same (by simp) rfl rfl
  | acceptStream => exact files (by simp) rfl rfl
  | readStream => exact same (by simp) rfl rfl

/-- The step writes the frame of the `Send` that it takes, if it takes one for this stream. -/
theorem growth_of_step {a : Action} (hlog : s.streamReg.log[n]? = some r)
    (hopens : r.Opens r.key) (hstep : s.step a = some t) :
    s.growth t n = (s.attempt n a).elim [] fun (_, data) => pushed data a := by
  cases halfMoves_of_step hlog hopens hstep with
  | same hattempt hhalf =>
    rw [hattempt, growth_of_half hhalf]
    rfl
  | lost hattempt hhalf =>
    rw [hattempt, growth, hhalf]
    cases s.half n <;> rfl
  | grows hattempt hs ht =>
    rw [hattempt, growth, hs, ht]
    exact List.drop_left

/-- A `Send` is written on the stream that it names. -/
theorem attempt_eq_some {a : Action} {stream : GameStream} {data : Bytes}
    (hlog : s.streamReg.log[n]? = some r) (h : s.attempt n a = some (stream, data)) :
    stream.streamId = r.stream.streamId := by
  unfold attempt at h
  split at h
  · split at h
    · split at h
      · next c st d tx hrecv hif =>
        cases h
        have hkey := ((halfKey_eq_some_iff hlog).mp hif.2.2).2.2.1
        exact (congrArg Prod.snd hkey).symm
      · cases h
    · cases h
  · cases h

end Half

/-! ## The reader of a stream -/

section Reader

variable {s t : QuicBackend} {k : Nat} {reader : StreamReader}

/-- A reader keeps its number and what it holds until bytes arrive on its stream. -/
theorem reader_of_step {a : Action} (hreader : s.streamReaders[k]? = some reader)
    (hother : ∀ chunk, a ≠ .readStream k chunk) (hstep : s.step a = some t) :
    t.streamReaders[k]? = some reader := by
  have hk : k < s.streamReaders.length := (List.getElem?_eq_some_iff.mp hreader).1
  cases steps_of_step hstep with
  | @registerStream r reg =>
    have htakes := takes_processRegistration { s with streamReg := reg } r
    generalize processRegistration { s with streamReg := reg } r = t at htakes ⊢
    cases htakes <;> exact hreader
  | @command env cmd tx t _ hrecv hcommand =>
    cases hcommand with
    | openStream => exact (List.getElem?_append_left hk).trans hreader
    | @send c stream data sendStream => cases env.sendError <;> exact hreader
    | _ => exact hreader
  | acceptStream => exact (List.getElem?_append_left hk).trans hreader
  | @readStream k' chunk =>
    have hne : k' ≠ k := by
      rintro rfl
      exact hother chunk rfl
    exact (List.getElem?_set_ne hne).trans hreader
  | _ => exact hreader

/-- A stream's registration stays in the log. -/
theorem streamReg_of_step {a : Action} (hstep : s.step a = some t) {n : Nat}
    {r : StreamRegistration} (hlog : s.streamReg.log[n]? = some r) :
    t.streamReg.log[n]? = some r := by
  cases steps_of_step hstep with
  | @registerStream r₁ reg _ hrecv =>
    rw [streamReg_processRegistration, Channel.log_recv hrecv]
    exact hlog
  | @command env cmd tx t _ hrecv hcommand =>
    cases hcommand with
    | openStream => exact log_sendRegistration hlog _
    | createStream => exact log_sendRegistration hlog _
    | @send c stream data sendStream => cases env.sendError <;> exact hlog
    | _ => exact hlog
  | newDatagram => exact log_sendRegistration hlog _
  | acceptStream => exact log_sendRegistration hlog _
  | _ => exact hlog

end Reader

end QuicBackend

end Quic
end GameSockets
