/-
Two backends joined by one connection of GNS.

GNS may refuse a message that the loop gives it, and the loop does not look at what
`send_messages` returns.  Of the reliable messages that it has accepted GNS keeps the order in
each lane, and loses none while the connection lasts.  An unreliable message may be lost, come
late or come again.  Between the messages of two lanes there is no order.
-/
import GameSockets.Gns.Connection

namespace GameSockets
namespace Gns

open Library

/-! ## What is under way -/

/-- What one peer has sent to the other. -/
structure Lanes where
  /-- the reliable messages of each lane -/
  reliable : Nat → Channel Bytes
  /-- every unreliable message so far -/
  unreliable : List Bytes
  /-- the reliable messages that GNS has refused -/
  refused : List Bytes

namespace Lanes

def empty : Lanes := { reliable := fun _ => Channel.empty, unreliable := [], refused := [] }

def put (l : Lanes) (p : Parcel) : Lanes :=
  match p.flags with
  | .reliable =>
    { l with reliable := Function.update l.reliable p.lane ((l.reliable p.lane).send p.bytes) }
  | .unreliable => { l with unreliable := l.unreliable ++ [p.bytes] }

def putAll (l : Lanes) (ps : List Parcel) : Lanes := ps.foldl put l

/-- `send_messages`, and whether GNS accepts what it is given. -/
def offer (l : Lanes) (sendOk : Bool) (ps : List Parcel) : Lanes :=
  if sendOk then l.putAll ps
  else { l with refused := l.refused ++ (ps.filter (·.flags = .reliable)).map Parcel.bytes }

/-- What the backend sends reliably goes on one lane. -/
theorem putAll_parcels (l : Lanes) (xs : List (GameStream × Bytes)) :
    l.putAll (xs.map parcelOf) =
      { reliable := Function.update l.reliable 0
          ((l.reliable 0).sendAll ((xs.filter overReliable).map packetOf)),
        unreliable := l.unreliable ++ (xs.filter fun x => !overReliable x).map packetOf,
        refused := l.refused } := by
  induction xs generalizing l with
  | nil => simp [putAll, Channel.sendAll]
  | cons x xs ih =>
    rw [List.map_cons, putAll, List.foldl_cons, ← putAll, ih]
    cases hx : overReliable x with
    | true => simp [put, parcelOf, hx, Channel.send, Channel.sendAll]
    | false => simp [put, parcelOf, hx]

theorem reliable_putAll (l : Lanes) (xs : List (GameStream × Bytes)) :
    (l.putAll (xs.map parcelOf)).reliable 0 =
      (l.reliable 0).sendAll ((xs.filter overReliable).map packetOf) := by
  rw [putAll_parcels]
  exact Function.update_self 0 _ l.reliable

theorem reliable_putAll_of_ne (l : Lanes) (xs : List (GameStream × Bytes)) {lane : Nat}
    (hlane : lane ≠ 0) : (l.putAll (xs.map parcelOf)).reliable lane = l.reliable lane := by
  rw [putAll_parcels]
  exact Function.update_of_ne hlane _ _

theorem unreliable_putAll (l : Lanes) (xs : List (GameStream × Bytes)) :
    (l.putAll (xs.map parcelOf)).unreliable =
      l.unreliable ++ (xs.filter fun x => !overReliable x).map packetOf := by
  rw [putAll_parcels]

theorem refused_putAll (l : Lanes) (xs : List (GameStream × Bytes)) :
    (l.putAll (xs.map parcelOf)).refused = l.refused := by
  rw [putAll_parcels]

@[simp] theorem offer_nil (l : Lanes) (sendOk : Bool) : l.offer sendOk [] = l := by
  cases sendOk with
  | true => rfl
  | false => rw [offer, if_neg Bool.false_ne_true, List.filter_nil, List.map_nil, List.append_nil]

theorem refused_offer (l : Lanes) (xs : List (GameStream × Bytes)) :
    (l.offer false (xs.map parcelOf)).refused =
      l.refused ++ (xs.filter overReliable).map packetOf := by
  have hreliable : (xs.map parcelOf).filter (·.flags = .reliable) =
      (xs.filter overReliable).map parcelOf := by
    rw [List.filter_map]
    refine congrArg _ (List.filter_congr fun x _ => ?_)
    cases hx : overReliable x <;> simp [parcelOf, hx]
  show l.refused ++ _ = _
  rw [hreliable, List.map_map]
  rfl

end Lanes

/-- One direction of the connection: what the one peer has been asked to send and GNS has not
refused, what is under way, and what the other has heard, each behind the gate of its end. -/
structure Carries (gateOut : Gate) (taken : List (GameStream × Bytes)) (l : Lanes) (gateIn : Gate)
    (heard : List (GameStream × Bytes)) : Prop where
  sent : gateOut.Passed (taken.filter overReliable) ((l.reliable 0).log.map unpack)
  lane : ∀ lane, lane ≠ 0 → (l.reliable lane).log = []
  unreliable : ∀ b ∈ l.unreliable, unpack b ∈ taken ∧ overReliable (unpack b) = false
  whole : ∀ b ∈ (l.reliable 0).log ++ l.unreliable, 2 ≤ b.length
  arrived : gateIn.Passed ((l.reliable 0).received.map unpack) (heard.filter overReliable)
  heard : ∀ x ∈ heard, x ∈ taken

section Carries

variable {gateOut gateOut' gateIn gateIn' : Gate} {taken heard : List (GameStream × Bytes)}
  {l : Lanes}

theorem carries_empty : Carries .shut [] Lanes.empty .shut [] :=
  ⟨rfl, fun _ _ => rfl, nofun, nofun, rfl, nofun⟩

/-- What is heard of the reliable streams is a stretch of what was accepted of them. -/
theorem Carries.isInfix (h : Carries gateOut taken l gateIn heard) :
    heard.filter overReliable <:+: taken.filter overReliable := by
  have hreceived : (l.reliable 0).received.map unpack <+: (l.reliable 0).log.map unpack :=
    (List.prefix_append _ _).map unpack
  exact h.arrived.isInfix.trans (hreceived.isInfix.trans h.sent.isInfix)

theorem map_unpack (xs : List (GameStream × Bytes)) : (xs.map packetOf).map unpack = xs := by
  rw [List.map_map]
  exact List.map_id'' unpack_packetOf xs

/-- While both ends have the connection, what is not heard yet is under way. -/
theorem Carries.isSuffix (h : Carries .opened taken l .opened heard) :
    heard.filter overReliable ++ (l.reliable 0).pending.map unpack <:+
      taken.filter overReliable := by
  have harrived : heard.filter overReliable ++ (l.reliable 0).pending.map unpack <:+
      (l.reliable 0).log.map unpack := by
    rw [Channel.log, List.map_append]
    exact List.suffix_append_self_iff.mpr h.arrived
  exact harrived.trans h.sent

/-- The sending end is asked to send. -/
theorem Carries.post (h : Carries gateOut taken l gateIn heard) (hmoves : gateOut.Moves gateOut')
    (asked : List (GameStream × Bytes)) :
    Carries gateOut' (taken ++ asked) (l.putAll (gateOut.admitted (asked.map parcelOf))) gateIn
      heard := by
  have hsub : gateOut.admitted asked ⊆ asked := Gate.admitted_subset _ _
  rw [← Gate.map_admitted]
  refine ⟨?_, fun lane hlane => ?_, fun b hb => ?_, fun b hb => ?_, ?_, fun x hx => ?_⟩
  · rw [Lanes.reliable_putAll, Channel.log_sendAll, List.map_append, map_unpack,
      List.filter_append, Gate.filter_admitted]
    exact h.sent.step hmoves _
  · rw [Lanes.reliable_putAll_of_ne _ _ hlane]
    exact h.lane lane hlane
  · rw [Lanes.unreliable_putAll] at hb
    rcases List.mem_append.mp hb with hb | hb
    · obtain ⟨htaken, hkind⟩ := h.unreliable b hb
      exact ⟨List.mem_append_left _ htaken, hkind⟩
    · obtain ⟨x, hx, rfl⟩ := List.mem_map.mp hb
      obtain ⟨hx, hkind⟩ := List.mem_filter.mp hx
      rw [unpack_packetOf]
      exact ⟨List.mem_append_right _ (hsub hx), by simpa using hkind⟩
  · rw [Lanes.reliable_putAll, Lanes.unreliable_putAll, Channel.log_sendAll] at hb
    simp only [List.mem_append, List.mem_map] at hb
    rcases hb with (hb | ⟨x, -, rfl⟩) | hb | ⟨x, -, rfl⟩
    · exact h.whole b (List.mem_append_left _ hb)
    · exact two_le_length_packetOf x
    · exact h.whole b (List.mem_append_right _ hb)
    · exact two_le_length_packetOf x
  · rw [Lanes.reliable_putAll]
    exact h.arrived
  · exact List.mem_append_left _ (h.heard x hx)

/-- The sending end is asked nothing, or GNS refuses it. -/
theorem Carries.moveOut (h : Carries gateOut taken l gateIn heard)
    (hmoves : gateOut.Moves gateOut') : Carries gateOut' taken l gateIn heard :=
  { h with sent := h.sent.move hmoves }

/-- Nothing arrives at the receiving end. -/
theorem Carries.moveIn (h : Carries gateOut taken l gateIn heard) (hmoves : gateIn.Moves gateIn') :
    Carries gateOut taken l gateIn' heard :=
  { h with arrived := h.arrived.move hmoves }

theorem Carries.mem_reliable (h : Carries gateOut taken l gateIn heard) {b : Bytes}
    (hb : b ∈ (l.reliable 0).log) : unpack b ∈ taken ∧ overReliable (unpack b) = true :=
  List.mem_filter.mp (h.sent.isInfix.subset (List.mem_map_of_mem hb))

/-- The next reliable message arrives. -/
theorem Carries.receive (h : Carries gateOut taken l gateIn heard) (hmoves : gateIn.Moves gateIn')
    {lane : Nat} {b : Bytes} {rx : Channel Bytes} (hrecv : (l.reliable lane).recv = some (b, rx)) :
    2 ≤ b.length ∧
      Carries gateOut taken { l with reliable := Function.update l.reliable lane rx } gateIn'
        (heard ++ gateIn.admitted [unpack b]) := by
  have hmem := Channel.mem_log_of_recv hrecv
  have hlog := Channel.log_recv hrecv
  obtain rfl : lane = 0 := by
    by_contra hne
    rw [h.lane lane hne] at hmem
    cases hmem
  obtain ⟨htaken, hkind⟩ := h.mem_reliable hmem
  refine ⟨h.whole b (List.mem_append_left _ hmem), ?_, fun lane hlane => ?_, h.unreliable, ?_, ?_,
    fun x hx => ?_⟩
  · dsimp only
    rw [Function.update_self, hlog]
    exact h.sent
  · dsimp only
    rw [Function.update_of_ne hlane]
    exact h.lane lane hlane
  · dsimp only
    rw [Function.update_self, hlog]
    exact h.whole
  · dsimp only
    rw [Function.update_self, (Channel.recv_eq_some hrecv).2, List.map_append,
      List.filter_append, Gate.filter_admitted, List.filter_cons_of_pos hkind, List.filter_nil]
    exact h.arrived.step hmoves _
  · rcases List.mem_append.mp hx with hx | hx
    · exact h.heard x hx
    · rw [List.mem_singleton.mp (Gate.admitted_subset _ _ hx)]
      exact htaken

/-- An unreliable message arrives. -/
theorem Carries.receiveUnreliable (h : Carries gateOut taken l gateIn heard)
    (hmoves : gateIn.Moves gateIn') {b : Bytes} (hb : b ∈ l.unreliable) :
    2 ≤ b.length ∧ Carries gateOut taken l gateIn' (heard ++ gateIn.admitted [unpack b]) := by
  obtain ⟨htaken, hkind⟩ := h.unreliable b hb
  refine ⟨h.whole b (List.mem_append_right _ hb),
    { h with arrived := ?_, heard := fun x hx => ?_ }⟩
  · rw [List.filter_append, Gate.filter_admitted,
      List.filter_cons_of_neg (by rw [hkind]; exact Bool.false_ne_true), List.filter_nil,
      Gate.admitted_nil, List.append_nil]
    exact h.arrived.move hmoves
  · rcases List.mem_append.mp hx with hx | hx
    · exact h.heard x hx
    · rw [List.mem_singleton.mp (Gate.admitted_subset _ _ hx)]
      exact htaken

/-- GNS refuses a message. -/
theorem Carries.refuse (h : Carries gateOut taken l gateIn heard) (bs : List Bytes) :
    Carries gateOut taken { l with refused := bs } gateIn heard :=
  ⟨h.sent, h.lane, h.unreliable, h.whole, h.arrived, h.heard⟩

end Carries

/-- One direction of the connection: what GNS has not refused of what was asked of the one peer
is carried to the other. -/
def Delivers (gateOut : Gate) (taken : List (GameStream × Bytes)) (l : Lanes) (gateIn : Gate)
    (heard : List (GameStream × Bytes)) : Prop :=
  ∃ accepted, List.Sublist accepted taken ∧
    (l.refused = [] → accepted.filter overReliable = taken.filter overReliable) ∧
    Carries gateOut accepted l gateIn heard

section Delivers

variable {gateOut gateOut' gateIn gateIn' : Gate} {taken heard : List (GameStream × Bytes)}
  {l : Lanes}

theorem delivers_empty : Delivers .shut [] Lanes.empty .shut [] :=
  ⟨[], .slnil, fun _ => rfl, carries_empty⟩

theorem Delivers.subset (h : Delivers gateOut taken l gateIn heard) : heard ⊆ taken := by
  obtain ⟨accepted, hsub, -, hcarries⟩ := h
  exact fun x hx => hsub.subset (hcarries.heard x hx)

/-- What is heard of the reliable streams was asked of them, in this order. -/
theorem Delivers.sublist (h : Delivers gateOut taken l gateIn heard) :
    List.Sublist (heard.filter overReliable) (taken.filter overReliable) := by
  obtain ⟨accepted, hsub, -, hcarries⟩ := h
  exact hcarries.isInfix.sublist.trans (hsub.filter _)

/-- It is a stretch of what was asked of them if GNS has refused none of it. -/
theorem Delivers.isInfix (h : Delivers gateOut taken l gateIn heard) (hnone : l.refused = []) :
    heard.filter overReliable <:+: taken.filter overReliable := by
  obtain ⟨accepted, -, hall, hcarries⟩ := h
  rw [← hall hnone]
  exact hcarries.isInfix

/-- While both ends have the connection, what is not heard yet is under way. -/
theorem Delivers.isSuffix (h : Delivers .opened taken l .opened heard) (hnone : l.refused = []) :
    heard.filter overReliable ++ (l.reliable 0).pending.map unpack <:+
      taken.filter overReliable := by
  obtain ⟨accepted, -, hall, hcarries⟩ := h
  rw [← hall hnone]
  exact hcarries.isSuffix

/-- The sending end is asked to send, and gives this to GNS if it has the connection. -/
theorem Delivers.offer (h : Delivers gateOut taken l gateIn heard)
    (hmoves : gateOut.Moves gateOut') (sendOk : Bool) (asked : List (GameStream × Bytes)) :
    Delivers gateOut' (taken ++ asked) (l.offer sendOk (gateOut.admitted (asked.map parcelOf)))
      gateIn heard := by
  obtain ⟨accepted, hsub, hall, hcarries⟩ := h
  have accepts : l.offer sendOk (gateOut.admitted (asked.map parcelOf)) =
      l.putAll (gateOut.admitted (asked.map parcelOf)) →
        Delivers gateOut' (taken ++ asked)
          (l.offer sendOk (gateOut.admitted (asked.map parcelOf))) gateIn heard := by
    intro heq
    rw [heq]
    refine ⟨accepted ++ asked, hsub.append (List.Sublist.refl asked), fun hnone => ?_,
      hcarries.post hmoves asked⟩
    rw [← Gate.map_admitted, Lanes.refused_putAll] at hnone
    rw [List.filter_append, List.filter_append, hall hnone]
  cases sendOk with
  | true => exact accepts rfl
  | false =>
    by_cases hopen : gateOut = .opened
    · subst hopen
      refine ⟨accepted, hsub.trans (List.sublist_append_left _ _), fun hnone => ?_,
        (hcarries.moveOut hmoves).refuse _⟩
      rw [Gate.admitted_opened, Lanes.refused_offer, List.append_eq_nil_iff,
        List.map_eq_nil_iff] at hnone
      rw [List.filter_append, hnone.2, List.append_nil, hall hnone.1]
    · -- nothing is given to GNS
      refine accepts ?_
      rw [Gate.admitted_of_ne hopen, Lanes.offer_nil]
      rfl

/-- The sending end is asked nothing. -/
theorem Delivers.moveOut (h : Delivers gateOut taken l gateIn heard)
    (hmoves : gateOut.Moves gateOut') : Delivers gateOut' taken l gateIn heard := by
  obtain ⟨accepted, hsub, hall, hcarries⟩ := h
  exact ⟨accepted, hsub, hall, hcarries.moveOut hmoves⟩

/-- Nothing arrives at the receiving end. -/
theorem Delivers.moveIn (h : Delivers gateOut taken l gateIn heard)
    (hmoves : gateIn.Moves gateIn') : Delivers gateOut taken l gateIn' heard := by
  obtain ⟨accepted, hsub, hall, hcarries⟩ := h
  exact ⟨accepted, hsub, hall, hcarries.moveIn hmoves⟩

/-- The next reliable message arrives. -/
theorem Delivers.receive (h : Delivers gateOut taken l gateIn heard)
    (hmoves : gateIn.Moves gateIn') {lane : Nat} {b : Bytes} {rx : Channel Bytes}
    (hrecv : (l.reliable lane).recv = some (b, rx)) :
    2 ≤ b.length ∧
      Delivers gateOut taken { l with reliable := Function.update l.reliable lane rx } gateIn'
        (heard ++ gateIn.admitted [unpack b]) := by
  obtain ⟨accepted, hsub, hall, hcarries⟩ := h
  obtain ⟨hlen, hcarries⟩ := hcarries.receive hmoves hrecv
  exact ⟨hlen, accepted, hsub, hall, hcarries⟩

/-- An unreliable message arrives. -/
theorem Delivers.receiveUnreliable (h : Delivers gateOut taken l gateIn heard)
    (hmoves : gateIn.Moves gateIn') {b : Bytes} (hb : b ∈ l.unreliable) :
    2 ≤ b.length ∧ Delivers gateOut taken l gateIn' (heard ++ gateIn.admitted [unpack b]) := by
  obtain ⟨accepted, hsub, hall, hcarries⟩ := h
  obtain ⟨hlen, hcarries⟩ := hcarries.receiveUnreliable hmoves hb
  exact ⟨hlen, accepted, hsub, hall, hcarries⟩

end Delivers

/-! ## One end -/

/-- What happens at an end: a step of its own, or the next reliable message of a lane arrives, or
an unreliable one. -/
inductive EndAction (Handle : Type) where
  /-- `sendOk` is what `send_messages` returns if the step calls it -/
  | own (a : PeerAction Handle) (sendOk : Bool)
  | reliable (lane : Nat)
  | unreliable (sent : Nat)

section Link

variable {Handle : Type}

namespace GnsPeer

/-- The `Send`s to the UUID that the loop has taken. -/
def takenSends (s : GnsPeer Handle) (uuid : Uuid) : List (GameStream × Bytes) :=
  sendsTo uuid s.peer.cmdTx.received

/-- The messages of the UUID that the loop has put out. -/
def heard (s : GnsPeer Handle) (uuid : Uuid) : List (GameStream × Bytes) :=
  heardOn uuid s.peer.eventRx.log

/-- What GNS and the drawn UUIDs promise to the end of the connection: only the connection
brings messages under its handle while that has its UUID. -/
def Assumed (e : End Handle) (s : GnsPeer Handle) : EndAction Handle → Prop
  | .own (.event env conn old new) _ =>
    s.run.Assumed (.event env conn old new) ∧ Own e (.event env conn old new)
  | .own (.message conn _) _ => s.run.backend.handleToUuid conn ≠ some e.uuid
  | _ => True

/-- The backend knows its connections, and the application has been sent every event. -/
structure Sane (e : End Handle) (s : GnsPeer Handle) : Prop where
  known : s.run.Known e
  told : s.peer.eventRx.log = s.run.events

variable [DecidableEq Handle] (parse : String → Option Ipv4Addr)

/-- A step at an end: the peer, what it has under way, and what is under way to it. -/
def stepEnd (e : End Handle) (s : GnsPeer Handle) (out inp : Lanes) :
    EndAction Handle → Option (GnsPeer Handle × Lanes × Lanes)
  | .own a sendOk =>
    (s.step parse a).map fun t => (t, out.offer sendOk (s.run.posted e t.run), inp)
  | .reliable lane =>
    match (inp.reliable lane).recv with
    | some (bytes, rx) =>
      (s.feed parse (.message e.conn bytes)).map fun t =>
        (t, out, { inp with reliable := Function.update inp.reliable lane rx })
    | none => none
  | .unreliable sent =>
    inp.unreliable[sent]?.bind fun bytes =>
      (s.feed parse (.message e.conn bytes)).map fun t => (t, out, inp)

/-- A step of the peer, as far as the connection goes. -/
structure Follows (e : End Handle) (s t : GnsPeer Handle) (asked came : List (GameStream × Bytes)) :
    Prop where
  sane : Sane e t
  moves : Gate.Moves (s.run.gate e.uuid) (t.run.gate e.uuid)
  taken : t.takenSends e.uuid = s.takenSends e.uuid ++ asked
  heard : t.heard e.uuid = s.heard e.uuid ++ (s.run.gate e.uuid).admitted came
  posted : s.run.posted e t.run = (s.run.gate e.uuid).admitted (asked.map parcelOf)

variable {parse} {e : End Handle} {s t : GnsPeer Handle}

omit [DecidableEq Handle] in
theorem sane_init (e : End Handle) : Sane e init := ⟨GnsRun.known_init e, rfl⟩

/-- The loop takes an input. -/
theorem follows_feed {u : GnsPeer Handle} {input : Input Handle} (h : Sane e s)
    (hassumed : s.run.Assumed input) (hown : Own e input) (hrun : u.run = s.run)
    (hevents : u.peer.eventRx = s.peer.eventRx)
    (htaken : u.takenSends e.uuid = s.takenSends e.uuid ++ input.asks e.uuid)
    (hstep : u.feed parse input = some t) :
    Follows e s t (input.asks e.uuid) (input.brings e.conn) := by
  obtain ⟨run, hrunstep, rfl⟩ := Option.map_eq_some_iff.mp hstep
  rw [hrun] at hrunstep
  obtain ⟨new, hnew⟩ := GnsRun.events_step hrunstep
  have hlog : (u.peer.eventRx.sendAll (run.events.drop u.run.events.length)).log = run.events := by
    rw [Channel.log_sendAll, hevents, h.told, hrun, ← hnew, List.drop_left]
  have hadvances := GnsRun.advances_step h.known hassumed hrunstep
  refine ⟨⟨GnsRun.known_step h.known hassumed hown hrunstep, hlog⟩, hadvances.moves, htaken, ?_,
    hadvances.posted⟩
  rw [heard, heard, hlog, h.told]
  exact hadvances.heard

/-- The application uses its handle, or the loop finds nothing to do. -/
theorem follows_same (h : Sane e s) (hrun : t.run = s.run)
    (hevents : t.peer.eventRx.log = s.peer.eventRx.log)
    (htaken : t.peer.cmdTx.received = s.peer.cmdTx.received) : Follows e s t [] [] := by
  refine ⟨⟨hrun ▸ h.known, by rw [hevents, hrun, h.told]⟩, hrun ▸ .stays _, ?_, ?_, ?_⟩
  · rw [takenSends, htaken, List.append_nil]
    rfl
  · rw [heard, hevents, Gate.admitted_nil, List.append_nil]
    rfl
  · rw [hrun, GnsRun.posted, List.drop_length, List.filterMap_nil, ite_self, List.map_nil,
      Gate.admitted_nil]

/-- Messages that arrive under the handle of the connection come from the connection. -/
theorem follows_own {a : PeerAction Handle} {sendOk : Bool} (h : Sane e s)
    (hassumed : s.Assumed e (.own a sendOk))
    (hstep : s.step parse a = some t) : ∃ asked, Follows e s t asked [] := by
  cases a with
  | issue cmd =>
    simp only [step] at hstep
    split at hstep
    · next peer hsend =>
      cases hstep
      obtain ⟨-, rfl⟩ := GamePeer.sendCmd_eq_ok hsend
      exact ⟨[], follows_same h rfl rfl rfl⟩
    · cases hstep
  | poll =>
    simp only [step] at hstep
    split at hstep
    · next ev peer hpoll =>
      cases hstep
      obtain ⟨rx, hrecv, rfl⟩ := GamePeer.poll_eq_some hpoll
      exact ⟨[], follows_same h rfl (Channel.log_recv hrecv) rfl⟩
    · cases hstep
  | command env =>
    simp only [step] at hstep
    split at hstep
    · next cmd tx hrecv =>
      have hassumed : s.run.Assumed (.command env cmd) := ⟨trivial, trivial⟩
      have htaken : sendsTo e.uuid tx.received =
          s.takenSends e.uuid ++ sendsTo e.uuid [cmd] := by
        rw [takenSends, (Channel.recv_eq_some hrecv).2, sendsTo_append]
      let u : GnsPeer Handle := { s with peer := { s.peer with cmdTx := tx } }
      have hrun : u.run = s.run := rfl
      exact ⟨_, follows_feed h hassumed trivial hrun rfl htaken hstep⟩
    · cases hstep
  | event env conn old new =>
    exact ⟨[], follows_feed h hassumed.1 hassumed.2 rfl rfl (List.append_nil _).symm hstep⟩
  | message conn payload =>
    have harrives : s.run.Assumed (.message conn payload) := ⟨trivial, trivial⟩
    have hfollows := follows_feed h harrives trivial rfl rfl (List.append_nil _).symm hstep
    refine ⟨[], { hfollows with heard := ?_ }⟩
    -- the handle is another connection's
    have hnone :
        (s.run.gate e.uuid).admitted ((Input.message conn payload).brings e.conn) = [] := by
      rw [Input.brings]
      split
      · next hours =>
        refine Gate.admitted_of_ne (fun hopen => hassumed ?_) _
        rw [hours.1]
        exact h.known.opened_iff.mp hopen
      · exact Gate.admitted_nil _
    rw [hfollows.heard, hnone, Gate.admitted_nil]
  | pass =>
    simp only [step] at hstep
    split at hstep <;> cases hstep
    exact ⟨[], follows_same h rfl rfl rfl⟩

/-- A message of the connection arrives. -/
theorem follows_arrival {bytes : Bytes} (h : Sane e s) (hlen : 2 ≤ bytes.length)
    (hstep : s.feed parse (.message e.conn bytes) = some t) : Follows e s t [] [unpack bytes] := by
  have hassumed : s.run.Assumed (.message e.conn bytes) := ⟨trivial, trivial⟩
  have hfollows := follows_feed h hassumed trivial rfl rfl (List.append_nil _).symm hstep
  rw [Input.brings, if_pos ⟨rfl, hlen⟩] at hfollows
  exact hfollows

/-- A step at an end, and the two directions of the connection. -/
theorem delivers_stepEnd {a : EndAction Handle} {out inp out' inp' : Lanes} {gateIn gateOut : Gate}
    {heard taken : List (GameStream × Bytes)} (h : Sane e s) (hassumed : s.Assumed e a)
    (hout : Delivers (s.run.gate e.uuid) (s.takenSends e.uuid) out gateIn heard)
    (hin : Delivers gateOut taken inp (s.run.gate e.uuid) (s.heard e.uuid))
    (hstep : s.stepEnd parse e out inp a = some (t, out', inp')) :
    Sane e t ∧ Delivers (t.run.gate e.uuid) (t.takenSends e.uuid) out' gateIn heard ∧
      Delivers gateOut taken inp' (t.run.gate e.uuid) (t.heard e.uuid) := by
  have arrival : ∀ bytes, Follows e s t [] [unpack bytes] →
      Delivers (t.run.gate e.uuid) (t.takenSends e.uuid) out gateIn heard := by
    intro bytes hfollows
    rw [hfollows.taken, List.append_nil]
    exact hout.moveOut hfollows.moves
  cases a with
  | own a sendOk =>
    obtain ⟨t', ht, heq⟩ := Option.map_eq_some_iff.mp hstep
    cases heq
    obtain ⟨asked, hfollows⟩ := follows_own h hassumed ht
    refine ⟨hfollows.sane, ?_, ?_⟩
    · rw [hfollows.taken, hfollows.posted]
      exact hout.offer hfollows.moves sendOk asked
    · rw [hfollows.heard, Gate.admitted_nil, List.append_nil]
      exact hin.moveIn hfollows.moves
  | reliable lane =>
    simp only [stepEnd] at hstep
    split at hstep
    · next bytes rx hrecv =>
      obtain ⟨t', ht, heq⟩ := Option.map_eq_some_iff.mp hstep
      cases heq
      have hlen := (hin.receive (.stays _) hrecv).1
      have hfollows := follows_arrival h hlen ht
      refine ⟨hfollows.sane, arrival bytes hfollows, ?_⟩
      rw [hfollows.heard]
      exact (hin.receive hfollows.moves hrecv).2
    · cases hstep
  | unreliable sent =>
    obtain ⟨bytes, hbytes, hfeed⟩ := Option.bind_eq_some_iff.mp hstep
    obtain ⟨t', ht, heq⟩ := Option.map_eq_some_iff.mp hfeed
    cases heq
    have hmem := List.mem_of_getElem? hbytes
    have hlen := (hin.receiveUnreliable (.stays _) hmem).1
    have hfollows := follows_arrival h hlen ht
    refine ⟨hfollows.sane, arrival bytes hfollows, ?_⟩
    rw [hfollows.heard]
    exact (hin.receiveUnreliable hfollows.moves hmem).2

end GnsPeer

/-! ## Both ends -/

/-- The connection, as its two ends know it. -/
structure Wire (Handle : Type) where
  left : End Handle
  right : End Handle

def Wire.swap (w : Wire Handle) : Wire Handle := { left := w.right, right := w.left }

structure Link (Handle : Type) where
  left : GnsPeer Handle
  right : GnsPeer Handle
  toRight : Lanes
  toLeft : Lanes

inductive LinkAction (Handle : Type) where
  | left (a : EndAction Handle)
  | right (a : EndAction Handle)

def LinkAction.swap : LinkAction Handle → LinkAction Handle
  | .left a => .right a
  | .right a => .left a

namespace Link

def init : Link Handle :=
  { left := GnsPeer.init, right := GnsPeer.init, toRight := Lanes.empty, toLeft := Lanes.empty }

def swap (s : Link Handle) : Link Handle :=
  { left := s.right, right := s.left, toRight := s.toLeft, toLeft := s.toRight }

/-- What is assumed of GNS and of the drawn UUIDs, at either end. -/
def Assumed (w : Wire Handle) (s : Link Handle) : LinkAction Handle → Prop
  | .left a => s.left.Assumed w.left a
  | .right a => s.right.Assumed w.right a

variable [DecidableEq Handle] (parse : String → Option Ipv4Addr) (w : Wire Handle)

def step (s : Link Handle) : LinkAction Handle → Option (Link Handle)
  | .left a =>
    (s.left.stepEnd parse w.left s.toRight s.toLeft a).map fun (t, out, inp) =>
      { s with left := t, toRight := out, toLeft := inp }
  | .right a =>
    (s.right.stepEnd parse w.right s.toLeft s.toRight a).map fun (t, out, inp) =>
      { s with right := t, toLeft := out, toRight := inp }

omit [DecidableEq Handle] in
/-- What goes from the left end to the right one. -/
def Conveys (s : Link Handle) : Prop :=
  Delivers (s.left.run.gate w.left.uuid) (s.left.takenSends w.left.uuid) s.toRight
    (s.right.run.gate w.right.uuid) (s.right.heard w.right.uuid)

/-- The invariant. -/
structure Sound (s : Link Handle) : Prop where
  left : s.left.Sane w.left
  right : s.right.Sane w.right
  forth : s.Conveys w
  back : s.swap.Conveys w.swap

variable {parse w} {s t : Link Handle}

omit [DecidableEq Handle] in
theorem sound_init : Sound w (init : Link Handle) :=
  ⟨GnsPeer.sane_init _, GnsPeer.sane_init _, delivers_empty, delivers_empty⟩

theorem sound_step {a : LinkAction Handle} (h : Sound w s) (hassumed : s.Assumed w a)
    (hstep : step parse w s a = some t) : Sound w t := by
  cases a with
  | left a =>
    obtain ⟨⟨u, out, inp⟩, hend, rfl⟩ := Option.map_eq_some_iff.mp hstep
    obtain ⟨hsane, hforth, hback⟩ := GnsPeer.delivers_stepEnd h.left hassumed h.forth h.back hend
    exact ⟨hsane, h.right, hforth, hback⟩
  | right a =>
    obtain ⟨⟨u, out, inp⟩, hend, rfl⟩ := Option.map_eq_some_iff.mp hstep
    obtain ⟨hsane, hback, hforth⟩ := GnsPeer.delivers_stepEnd h.right hassumed h.back h.forth hend
    exact ⟨h.left, hsane, hforth, hback⟩

omit [DecidableEq Handle] in
variable (w) in
/-- What the right end hears comes from the left one, and of the reliable streams it comes in
order and nothing twice.  If GNS has refused none of their messages, it is a stretch, with nothing
missing between two messages; and as long as both ends have the connection, what is not heard yet
is under way. -/
structure Heard (s : Link Handle) : Prop where
  genuine : s.right.heard w.right.uuid ⊆ s.left.takenSends w.left.uuid
  ordered : List.Sublist ((s.right.heard w.right.uuid).filter overReliable)
    ((s.left.takenSends w.left.uuid).filter overReliable)
  stretch : s.toRight.refused = [] → (s.right.heard w.right.uuid).filter overReliable <:+:
    (s.left.takenSends w.left.uuid).filter overReliable
  complete : s.toRight.refused = [] → s.left.run.gate w.left.uuid = .opened →
    s.right.run.gate w.right.uuid = .opened →
      (s.right.heard w.right.uuid).filter overReliable ++
        (s.toRight.reliable 0).pending.map unpack <:+
      (s.left.takenSends w.left.uuid).filter overReliable

omit [DecidableEq Handle] in
theorem Conveys.heard (h : s.Conveys w) : Heard w s := by
  refine ⟨h.subset, h.sublist, h.isInfix, fun hnone hleft hright => ?_⟩
  rw [Conveys, hleft, hright] at h
  exact h.isSuffix hnone

theorem sound_of_run {actions : List (LinkAction Handle)}
    (hassumed : Run.Along (step parse w) (Assumed w) init actions)
    (hrun : Run.run (step parse w) init actions = some s) : Sound w s := by
  have keep : ∀ s a t, Sound w s → Assumed w s a → step parse w s a = some t → Sound w t :=
    fun _ _ _ => sound_step
  exact Run.invariant keep actions sound_init hassumed hrun

variable (parse w)

end Link

end Link

/-! ## A repeated message -/

instance decidableEndAssumed (e : End Nat) (s : GnsPeer Nat) : ∀ a, Decidable (s.Assumed e a)
  | .own (.event env conn old new) _ =>
    inferInstanceAs (Decidable (s.run.Assumed (.event env conn old new) ∧
      (env.newV4 = e.uuid → conn = e.conn)))
  | .own (.message conn _) _ =>
    inferInstanceAs (Decidable (s.run.backend.handleToUuid conn ≠ some e.uuid))
  | .own (.issue _) _ => .isTrue trivial
  | .own .poll _ => .isTrue trivial
  | .own (.command _) _ => .isTrue trivial
  | .own .pass _ => .isTrue trivial
  | .reliable _ => .isTrue trivial
  | .unreliable _ => .isTrue trivial

instance decidableLinkAssumed (w : Wire Nat) (s : Link Nat) : ∀ a, Decidable (s.Assumed w a)
  | .left a => inferInstanceAs (Decidable (s.left.Assumed w.left a))
  | .right a => inferInstanceAs (Decidable (s.right.Assumed w.right a))

/-- A client under handle 1 and a server under handle 2. -/
def dialled : Wire Nat :=
  { left := { conn := 1, uuid := Uuid.nil }, right := { conn := 2, uuid := otherUuid } }

/-- The client sends on both kinds of streams, and the unreliable message arrives first and comes
again. -/
def repeatedMessage : List (LinkAction Nat) :=
  let env : CommandEnv := { listenOk := true, connectOk := true }
  let left (a : PeerAction Nat) : LinkAction Nat := .left (.own a true)
  let right (a : PeerAction Nat) : LinkAction Nat := .right (.own a true)
  let issue (cmd : BackendCommand) : List (LinkAction Nat) :=
    [left (.issue cmd), left (.command env)]
  [right (.issue (.bind "0.0.0.0" 8080)), right (.command env)] ++
    issue (.connect "127.0.0.1" 8080) ++
    [left (.event { acceptOk := true, newV4 := Uuid.nil } 1 .none .connecting),
      right (.event { acceptOk := true, newV4 := otherUuid } 2 .none .connecting)] ++
    issue (.send Uuid.nil (GameStream.new 2 .reliable) [9]) ++
    issue (.send Uuid.nil (GameStream.new 1 .unreliable) [4]) ++
    [.right (.unreliable 0), .right (.reliable 0), .right (.unreliable 0)]

end Gns
end GameSockets
