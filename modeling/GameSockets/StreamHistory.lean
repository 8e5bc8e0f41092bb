/-
The life of a stream: what the events say of it, and what a backend does that makes
them say so.

A backend opens a stream in two ways, by command and on the first payload, and what it
knows of a stream is not what it has announced.  The events of one stream are a
function of these acts, so the order of the events is a question about the acts.
-/
import GameSockets.Basic
import GameSockets.Library.History
import GameSockets.Library.Run

namespace GameSockets

open Library History

/-! ## The order of the events -/

/-- A `Message` comes after the `Connected` of its connection and the `StreamCreated`
of its stream, and not after the `Disconnected`. -/
def Introduces (log : List GameNetworkEvent) : Prop :=
  ∀ before c s data after, log = before ++ .message c s data :: after →
    .connected c ∈ before ∧ .streamCreated c s ∈ before ∧ .disconnected c ∉ before

/-- A `Message` comes after the `StreamCreated` of its stream. -/
def AnnouncesFirst (log : List GameNetworkEvent) : Prop :=
  ∀ before c s data after, log = before ++ .message c s data :: after →
    .streamCreated c s ∈ before

/-- Between two `StreamCreated`s of a stream there is a `StreamClosed`. -/
def AnnouncesOnce (log : List GameNetworkEvent) : Prop :=
  ∀ c s before mid after,
    log = before ++ .streamCreated c s :: (mid ++ .streamCreated c s :: after) →
      .streamClosed c s ∈ mid

/-- Between the `StreamClosed` and a `Message` of a stream there is a `StreamCreated`. -/
def StaysClosed (log : List GameNetworkEvent) : Prop :=
  ∀ c s data before mid after,
    log = before ++ .streamClosed c s :: (mid ++ .message c s data :: after) →
      .streamCreated c s ∈ mid

/-- The same, entry by entry. -/
theorem introduces_iff_always {log : List GameNetworkEvent} :
    Introduces log ↔ Always (fun before e => ∀ c s data, e = .message c s data →
      .connected c ∈ before ∧ .streamCreated c s ∈ before ∧ .disconnected c ∉ before) log := by
  constructor
  · rintro h before e after rfl c s data rfl
    exact h before c s data after rfl
  · intro h before c s data after hlog
    exact h before _ after hlog c s data rfl

/-- Events that deliver nothing may come at any time. -/
theorem introduces_append {log new : List GameNetworkEvent} (h : Introduces log)
    (hnew : ∀ e ∈ new, e.delivered = none) : Introduces (log ++ new) := by
  rw [introduces_iff_always, always_append, ← introduces_iff_always]
  refine ⟨h, fun before e after heq c s data he => ?_⟩
  have hnone := hnew e (by rw [heq]; exact List.mem_append_right _ List.mem_cons_self)
  rw [he] at hnone
  cases hnone

theorem introduces_append_message {log : List GameNetworkEvent} {c : Uuid} {s : GameStream}
    (data : Bytes) (h : Introduces log) (hconnected : .connected c ∈ log)
    (hcreated : .streamCreated c s ∈ log) (hopen : .disconnected c ∉ log) :
    Introduces (log ++ [.message c s data]) := by
  rw [introduces_iff_always, always_append_singleton, ← introduces_iff_always]
  refine ⟨h, fun c' s' data' he => ?_⟩
  cases he
  exact ⟨hconnected, hcreated, hopen⟩

/-- The first payload on a stream, announced with it. -/
theorem introduces_append_first {log : List GameNetworkEvent} {c : Uuid} {s : GameStream}
    (data : Bytes) (h : Introduces log) (hconnected : .connected c ∈ log)
    (hopen : .disconnected c ∉ log) :
    Introduces (log ++ [.streamCreated c s, .message c s data]) := by
  have hcreated : Introduces (log ++ [.streamCreated c s]) :=
    introduces_append h (by simp [GameNetworkEvent.delivered])
  have hall := introduces_append_message data hcreated (List.mem_append_left _ hconnected)
    (List.mem_append_right _ List.mem_cons_self) (by simp [hopen])
  rwa [List.append_assoc] at hall

theorem announcesFirst_iff_always {log : List GameNetworkEvent} :
    AnnouncesFirst log ↔ Always (fun before e => ∀ c s data, e = .message c s data →
      .streamCreated c s ∈ before) log := by
  constructor
  · rintro h before e after rfl c s data rfl
    exact h before c s data after rfl
  · intro h before c s data after hlog
    exact h before _ after hlog c s data rfl

/-! ## One stream -/

/-- What an event says of a stream. -/
inductive StreamMark where
  | created
  | closed
  | message
deriving DecidableEq

def GameNetworkEvent.mark (c : Uuid) (s : GameStream) : GameNetworkEvent → Option StreamMark
  | .streamCreated c' s' => if c' = c ∧ s' = s then some .created else none
  | .streamClosed c' s' => if c' = c ∧ s' = s then some .closed else none
  | .message c' s' _ => if c' = c ∧ s' = s then some .message else none
  | _ => none

/-- What the events say of stream `s` of connection `c`. -/
def streamMarks (c : Uuid) (s : GameStream) (log : List GameNetworkEvent) : List StreamMark :=
  log.filterMap (GameNetworkEvent.mark c s)

theorem mark_eq_created {c : Uuid} {s : GameStream} {e : GameNetworkEvent} :
    e.mark c s = some .created ↔ e = .streamCreated c s := by
  cases e <;> simp [GameNetworkEvent.mark]

theorem mark_eq_closed {c : Uuid} {s : GameStream} {e : GameNetworkEvent} :
    e.mark c s = some .closed ↔ e = .streamClosed c s := by
  cases e <;> simp [GameNetworkEvent.mark]

theorem mark_eq_message {c : Uuid} {s : GameStream} {e : GameNetworkEvent} :
    e.mark c s = some .message ↔ ∃ data, e = .message c s data := by
  cases e <;> simp [GameNetworkEvent.mark]

@[simp] theorem streamMarks_append (c : Uuid) (s : GameStream)
    (log new : List GameNetworkEvent) :
    streamMarks c s (log ++ new) = streamMarks c s log ++ streamMarks c s new :=
  List.filterMap_append

theorem announcesOnce_iff_marks {log : List GameNetworkEvent} :
    AnnouncesOnce log ↔
      ∀ c s, Between (· = .created) (· = .created) (· = .closed) (streamMarks c s log) := by
  have hmarks := fun c s => between_filterMap (f := GameNetworkEvent.mark c s) (l := log)
    (p := (· = .created)) (q := (· = .created)) (r := (· = .closed))
  simp only [exists_eq_right, mark_eq_created, mark_eq_closed] at hmarks
  simp only [streamMarks, hmarks]
  constructor
  · rintro h c s before x mid y after hlog rfl rfl
    exact ⟨_, h c s before mid after hlog, rfl⟩
  · intro h c s before mid after hlog
    obtain ⟨e, he, rfl⟩ := h c s before _ mid _ after hlog rfl rfl
    exact he

theorem staysClosed_iff_marks {log : List GameNetworkEvent} :
    StaysClosed log ↔
      ∀ c s, Between (· = .closed) (· = .message) (· = .created) (streamMarks c s log) := by
  have hmarks := fun c s => between_filterMap (f := GameNetworkEvent.mark c s) (l := log)
    (p := (· = .closed)) (q := (· = .message)) (r := (· = .created))
  simp only [exists_eq_right, mark_eq_created, mark_eq_closed, mark_eq_message] at hmarks
  simp only [streamMarks, hmarks]
  constructor
  · rintro h c s before x mid y after hlog rfl ⟨data, rfl⟩
    exact ⟨_, h c s data before mid after hlog, rfl⟩
  · intro h c s data before mid after hlog
    obtain ⟨e, he, rfl⟩ := h c s before _ mid _ after hlog rfl ⟨data, rfl⟩
    exact he

/-! ## What a backend does to a stream -/

inductive StreamAct where
  /-- it announces the stream -/
  | create
  /-- it takes a `CloseStream` -/
  | close
  /-- it receives a payload, and does not know the stream -/
  | first
  /-- it receives a payload, and knows the stream -/
  | again
deriving DecidableEq

namespace StreamAct

def marks : StreamAct → List StreamMark
  | .create => [.created]
  | .close => [.closed]
  | .first => [.created, .message]
  | .again => [.message]

/-- The act announces the stream. -/
def Opens (a : StreamAct) : Prop := a = .create ∨ a = .first

instance (a : StreamAct) : Decidable a.Opens := inferInstanceAs (Decidable (_ ∨ _))

end StreamAct

/-- No stream is announced again before it is closed. -/
def OpenedOnce (acts : List StreamAct) : Prop :=
  Between StreamAct.Opens StreamAct.Opens (· = .close) acts

/-- No payload comes on a known stream that has been closed and not announced since. -/
def QuietClosed (acts : List StreamAct) : Prop :=
  Between (· = .close) (· = .again) StreamAct.Opens acts

theorem since_created_marks {acts : List StreamAct} :
    Since (· = .created) (· = .closed) (acts.flatMap StreamAct.marks) ↔
      Since StreamAct.Opens (· = .close) acts := by
  induction acts using List.reverseRecOn with
  | nil => simp
  | append_singleton acts a ih =>
    rw [List.flatMap_append, List.flatMap_singleton, since_append_singleton, ← ih]
    cases a with
    | create => simp [StreamAct.marks, StreamAct.Opens, since_append_singleton]
    | close => simp [StreamAct.marks, StreamAct.Opens, since_append_singleton]
    | again => simp [StreamAct.marks, StreamAct.Opens, since_append_singleton]
    | first =>
      rw [StreamAct.marks, ← List.singleton_append, ← List.append_assoc, since_append_singleton,
        since_append_singleton]
      simp [StreamAct.Opens]

theorem since_closed_marks {acts : List StreamAct} :
    Since (· = .closed) (· = .created) (acts.flatMap StreamAct.marks) ↔
      Since (· = .close) StreamAct.Opens acts := by
  induction acts using List.reverseRecOn with
  | nil => simp
  | append_singleton acts a ih =>
    rw [List.flatMap_append, List.flatMap_singleton, since_append_singleton, ← ih]
    cases a with
    | create => simp [StreamAct.marks, StreamAct.Opens, since_append_singleton]
    | close => simp [StreamAct.marks, since_append_singleton]
    | again => simp [StreamAct.marks, StreamAct.Opens, since_append_singleton]
    | first =>
      rw [StreamAct.marks, ← List.singleton_append, ← List.append_assoc, since_append_singleton,
        since_append_singleton]
      simp [StreamAct.Opens]

theorem openedOnce_iff_marks {acts : List StreamAct} :
    OpenedOnce acts ↔ Between (· = .created) (· = .created) (· = .closed)
      (acts.flatMap StreamAct.marks) := by
  rw [OpenedOnce]
  induction acts using List.reverseRecOn with
  | nil => simp
  | append_singleton acts a ih =>
    rw [between_append_singleton, ih, List.flatMap_append, List.flatMap_singleton,
      ← since_created_marks]
    cases a with
    | create => simp [StreamAct.marks, StreamAct.Opens, between_append_singleton]
    | close => simp [StreamAct.marks, StreamAct.Opens, between_append_singleton]
    | again => simp [StreamAct.marks, StreamAct.Opens, between_append_singleton]
    | first =>
      rw [StreamAct.marks, ← List.singleton_append, ← List.append_assoc, between_append_singleton,
        between_append_singleton]
      simp [StreamAct.Opens]

theorem quietClosed_iff_marks {acts : List StreamAct} :
    QuietClosed acts ↔ Between (· = .closed) (· = .message) (· = .created)
      (acts.flatMap StreamAct.marks) := by
  rw [QuietClosed]
  induction acts using List.reverseRecOn with
  | nil => simp
  | append_singleton acts a ih =>
    rw [between_append_singleton, ih, List.flatMap_append, List.flatMap_singleton,
      ← since_closed_marks]
    cases a with
    | create => simp [StreamAct.marks, between_append_singleton]
    | close => simp [StreamAct.marks, between_append_singleton]
    | again => simp [StreamAct.marks, between_append_singleton]
    | first =>
      rw [StreamAct.marks, ← List.singleton_append, ← List.append_assoc, between_append_singleton,
        between_append_singleton, since_append_singleton]
      simp

/-- The events of each stream are those of what the backend does to it. -/
def Enacts (acts : Uuid → GameStream → List StreamAct) (log : List GameNetworkEvent) : Prop :=
  ∀ c s, streamMarks c s log = (acts c s).flatMap StreamAct.marks

theorem announcesOnce_iff {acts : Uuid → GameStream → List StreamAct}
    {log : List GameNetworkEvent} (h : Enacts acts log) :
    AnnouncesOnce log ↔ ∀ c s, OpenedOnce (acts c s) := by
  rw [announcesOnce_iff_marks]
  exact forall_congr' fun c => forall_congr' fun s => by rw [h c s, openedOnce_iff_marks]

theorem staysClosed_iff {acts : Uuid → GameStream → List StreamAct}
    {log : List GameNetworkEvent} (h : Enacts acts log) :
    StaysClosed log ↔ ∀ c s, QuietClosed (acts c s) := by
  rw [staysClosed_iff_marks]
  exact forall_congr' fun c => forall_congr' fun s => by rw [h c s, quietClosed_iff_marks]

/-- Where the events of every step are those of its acts, the events of a run are those of
the acts along it. -/
theorem enacts_of_steps {σ α : Type} {step : σ → α → Option σ}
    {log : σ → List GameNetworkEvent} {acts : Uuid → GameStream → σ → α → List StreamAct}
    (hstep : ∀ s a t, step s a = some t → ∃ new, log t = log s ++ new ∧
      ∀ c st, streamMarks c st new = (acts c st s a).flatMap StreamAct.marks)
    {s t : σ} {as : List α} (hs : log s = []) (hrun : Run.run step s as = some t) :
    Enacts (fun c st => Run.observe step (acts c st) s as) (log t) := by
  intro c st
  have keep : ∀ (seen : List StreamAct) s a t,
      streamMarks c st (log s) = seen.flatMap StreamAct.marks → step s a = some t →
        streamMarks c st (log t) = (seen ++ acts c st s a).flatMap StreamAct.marks := by
    intro seen s a t hseen h
    obtain ⟨new, hlog, hmarks⟩ := hstep s a t h
    rw [hlog, streamMarks_append, hseen, hmarks, List.flatMap_append]
  have hstart : streamMarks c st (log s) = ([] : List StreamAct).flatMap StreamAct.marks := by
    rw [hs]
    rfl
  exact Run.invariant_of_observe keep as hstart hrun

/-! ## Acts that the backends share -/

/-- What a backend that announces a stream on its `CreateStream` does to the stream. -/
def BackendCommand.act (c : Uuid) (s : GameStream) : BackendCommand → Option StreamAct
  | .createStream c' i reliability =>
    if c' = c ∧ GameStream.new i reliability = s then some .create else none
  | .closeStream c' i => if c' = c ∧ { streamId := i } = s then some .close else none
  | _ => none

/-- What the receipt of a payload on stream `id` of `u`, with these streams known, does
to stream `s` of connection `c`. -/
def receiptAct (u : Uuid) (id : UInt16) (known : List UInt16) (c : Uuid) (s : GameStream) :
    Option StreamAct :=
  if u = c ∧ { streamId := id } = s then some (if id ∈ known then .again else .first) else none

theorem marks_createStream (c : Uuid) (s : GameStream) (c' : Uuid) (i : UInt16)
    (reliability : GameStreamReliability) :
    streamMarks c s [.streamCreated c' (GameStream.new i reliability)] =
      ((BackendCommand.createStream c' i reliability).act c s).toList.flatMap
        StreamAct.marks := by
  by_cases hc : c' = c ∧ GameStream.new i reliability = s
  · simp [streamMarks, GameNetworkEvent.mark, BackendCommand.act, hc, StreamAct.marks]
  · simp [streamMarks, GameNetworkEvent.mark, BackendCommand.act, hc]

theorem marks_closeStream (c : Uuid) (s : GameStream) (c' : Uuid) (i : UInt16) :
    streamMarks c s [.streamClosed c' { streamId := i }] =
      ((BackendCommand.closeStream c' i).act c s).toList.flatMap StreamAct.marks := by
  by_cases hc : c' = c ∧ { streamId := i } = s
  · simp [streamMarks, GameNetworkEvent.mark, BackendCommand.act, hc, StreamAct.marks]
  · simp [streamMarks, GameNetworkEvent.mark, BackendCommand.act, hc]

/-- A payload on a known stream. -/
theorem marks_receive (u : Uuid) {id : UInt16} {known : List UInt16} (hid : id ∈ known)
    (data : Bytes) (c : Uuid) (s : GameStream) :
    streamMarks c s [.message u { streamId := id } data] =
      (receiptAct u id known c s).toList.flatMap StreamAct.marks := by
  by_cases hc : u = c ∧ { streamId := id } = s
  · obtain ⟨rfl, rfl⟩ := hc
    simp [streamMarks, GameNetworkEvent.mark, receiptAct, hid, StreamAct.marks]
  · simp [streamMarks, GameNetworkEvent.mark, receiptAct, hc]

/-- A payload on a stream that is not known. -/
theorem marks_receiveNew (u : Uuid) {id : UInt16} {known : List UInt16} (hid : id ∉ known)
    (data : Bytes) (c : Uuid) (s : GameStream) :
    streamMarks c s
        [.streamCreated u { streamId := id }, .message u { streamId := id } data] =
      (receiptAct u id known c s).toList.flatMap StreamAct.marks := by
  by_cases hc : u = c ∧ { streamId := id } = s
  · obtain ⟨rfl, rfl⟩ := hc
    simp [streamMarks, GameNetworkEvent.mark, receiptAct, hid, StreamAct.marks]
  · simp [streamMarks, GameNetworkEvent.mark, receiptAct, hc]

end GameSockets
