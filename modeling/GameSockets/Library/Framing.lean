/-
Length-prefixed framing: each payload is preceded by its length in a big-endian
word of `w` bytes.

The reader does not see the whole stream at once.  The lemmas below therefore
relate what has arrived so far to the stream it is the beginning of: either the
first frame has not arrived in full, or it is split off exactly.
-/
import GameSockets.Library.BigEndian

namespace Library
namespace Framing

open BigEndian

section Framing

variable (w : Nat)

def frame (payload : List UInt8) : List UInt8 := encode w payload.length ++ payload

/-- The frames of a list of payloads, back to back. -/
def frames (payloads : List (List UInt8)) : List UInt8 := payloads.flatMap (frame w)

/-- Split the first frame off the bytes received so far, if it is complete. -/
def split (buf : List UInt8) : Option (List UInt8 × List UInt8) :=
  if buf.length < w then none
  else
    let n := decode (buf.take w)
    if buf.length < w + n then none
    else some ((buf.drop w).take n, buf.drop (w + n))

@[simp] theorem length_frame (p : List UInt8) : (frame w p).length = w + p.length := by
  rw [frame, List.length_append, length_encode]

@[simp] theorem frames_nil : frames w [] = [] := rfl

@[simp] theorem frames_cons (p : List UInt8) (ps : List (List UInt8)) :
    frames w (p :: ps) = frame w p ++ frames w ps := List.flatMap_cons

@[simp] theorem frames_append (ps qs : List (List UInt8)) :
    frames w (ps ++ qs) = frames w ps ++ frames w qs := List.flatMap_append

variable {w}

theorem take_frame_append (p rest : List UInt8) :
    (frame w p ++ rest).take w = encode w p.length := by
  rw [frame, List.append_assoc, List.take_left' (length_encode w p.length)]

/-- A complete frame in front is split off, whatever follows it. -/
theorem split_frame_append {p : List UInt8} (hp : p.length < 256 ^ w) (rest : List UInt8) :
    split w (frame w p ++ rest) = some (p, rest) := by
  have hlen : (frame w p ++ rest).length = w + p.length + rest.length := by
    rw [List.length_append, length_frame]
  have hbody : (frame w p ++ rest).drop w = p ++ rest := by
    rw [frame, List.append_assoc, List.drop_left' (length_encode w p.length)]
  have hrest : (frame w p ++ rest).drop (w + p.length) = rest :=
    List.drop_left' (length_frame w p)
  simp only [split, take_frame_append, decode_encode_of_lt hp, hlen, hbody, hrest]
  rw [if_neg (by omega), if_neg (by omega), List.take_left' rfl]

/-- Bytes that begin a framed stream either hold its first frame in full or are
shorter than it. -/
theorem split_of_prefix {p buf ext rest : List UInt8} (hp : p.length < 256 ^ w)
    (h : buf ++ ext = frame w p ++ rest) :
    (split w buf = none ∧ buf.length < w + p.length) ∨
      ∃ buf', split w buf = some (p, buf') ∧ buf = frame w p ++ buf' ∧ buf' ++ ext = rest := by
  rcases Nat.lt_or_ge buf.length (w + p.length) with hlt | hge
  · refine Or.inl ⟨?_, hlt⟩
    rcases Nat.lt_or_ge buf.length w with hw | hw
    · rw [split, if_pos hw]
    · have htake : buf.take w = encode w p.length := by
        rw [← take_frame_append p rest, ← h, List.take_append_of_le_length hw]
      simp only [split, htake, decode_encode_of_lt hp]
      rw [if_neg (by omega), if_pos hlt]
  · obtain ⟨buf', rfl⟩ : frame w p <+: buf := by
      have hframe : frame w p <+: buf ++ ext := by
        rw [h]
        exact List.prefix_append _ _
      refine List.prefix_of_prefix_length_le hframe (List.prefix_append _ _) ?_
      rw [length_frame]
      exact hge
    refine Or.inr ⟨buf', split_frame_append hp buf', rfl, ?_⟩
    rw [List.append_assoc] at h
    exact List.append_cancel_left h

/-- A payload is never split off bytes that are the beginning of no frame. -/
theorem split_nil (hw : 0 < w) : split w [] = none := by
  rw [split, if_pos (by simpa using hw)]

theorem length_of_split {buf p rest : List UInt8} (h : split w buf = some (p, rest)) :
    rest.length + w + p.length = buf.length := by
  unfold split at h
  split at h
  · cases h
  · simp only at h
    split at h
    · cases h
    · cases h
      simp only [List.length_drop, List.length_take]
      omega

end Framing

/-! ## A stream in transit -/

/-- The reader holds `buf`, the network `wire`, and the writer has `ext` still to
write: together the frames of the payloads that have yet to be read. -/
def InTransit (w : Nat) (buf wire ext : List UInt8) (payloads : List (List UInt8)) : Prop :=
  buf ++ (wire ++ ext) = frames w payloads

section Transit

variable {w : Nat} {buf wire ext : List UInt8} {payloads : List (List UInt8)}

theorem inTransit_push (h : InTransit w buf wire ext payloads) (new : List (List UInt8)) :
    InTransit w buf wire (ext ++ frames w new) (payloads ++ new) := by
  rw [InTransit] at h ⊢
  rw [frames_append, ← h, List.append_assoc, List.append_assoc]

theorem inTransit_write {chunk : List UInt8} (h : InTransit w buf wire (chunk ++ ext) payloads) :
    InTransit w buf (wire ++ chunk) ext payloads := by
  rw [InTransit] at h ⊢
  rw [← h, List.append_assoc]

theorem inTransit_read {chunk : List UInt8} (h : InTransit w buf (chunk ++ wire) ext payloads) :
    InTransit w (buf ++ chunk) wire ext payloads := by
  rw [InTransit] at h ⊢
  rw [← h, List.append_assoc, List.append_assoc]

/-- What the reader splits off is the oldest payload. -/
theorem inTransit_split (hw : 0 < w) (hlen : ∀ p ∈ payloads, p.length < 256 ^ w)
    (h : InTransit w buf wire ext payloads) {p rest : List UInt8}
    (hsplit : split w buf = some (p, rest)) :
    ∃ payloads', payloads = p :: payloads' ∧ InTransit w rest wire ext payloads' := by
  cases payloads with
  | nil =>
    rw [InTransit, frames_nil, List.append_eq_nil_iff] at h
    rw [h.1, split_nil hw] at hsplit
    cases hsplit
  | cons q payloads =>
    rw [InTransit, frames_cons] at h
    rcases split_of_prefix (hlen q List.mem_cons_self) h with ⟨hnone, -⟩ | ⟨buf', hsome, -, hrest⟩
    · rw [hnone] at hsplit
      cases hsplit
    · rw [hsome] at hsplit
      cases hsplit
      exact ⟨payloads, rfl, hrest⟩

end Transit

/-! ## Reading all that has arrived -/

/-- The payloads of the complete frames of `buf`, and the bytes left over.  The
first argument bounds the number of frames. -/
def parse (w : Nat) : Nat → List UInt8 → List (List UInt8) × List UInt8
  | 0, buf => ([], buf)
  | fuel + 1, buf =>
    match split w buf with
    | none => ([], buf)
    | some (p, rest) =>
      let (ps, left) := parse w fuel rest
      (p :: ps, left)

section Parse

variable {w : Nat}

/-- Something is read exactly when a first frame is complete. -/
theorem parse_eq_nil_iff (hw : 0 < w) {buf : List UInt8} {fuel : Nat} (hfuel : buf.length ≤ fuel) :
    (parse w fuel buf).1 = [] ↔ split w buf = none := by
  cases fuel with
  | zero =>
    have hbuf : buf = [] := List.eq_nil_of_length_eq_zero (Nat.le_zero.mp hfuel)
    rw [hbuf]
    exact ⟨fun _ => split_nil hw, fun _ => rfl⟩
  | succ fuel =>
    cases hsplit : split w buf with
    | none => simp [parse, hsplit]
    | some pair => simp [parse, hsplit]

/-- Reading a stream in transit takes its oldest payloads off, until no complete frame
is left. -/
theorem inTransit_parse (hw : 0 < w) {payloads : List (List UInt8)}
    (hlen : ∀ p ∈ payloads, p.length < 256 ^ w) {buf wire ext : List UInt8}
    (h : InTransit w buf wire ext payloads) {fuel : Nat} (hfuel : buf.length ≤ fuel) :
    ∃ payloads', payloads = (parse w fuel buf).1 ++ payloads' ∧
      InTransit w (parse w fuel buf).2 wire ext payloads' ∧
      split w (parse w fuel buf).2 = none := by
  induction fuel generalizing buf payloads with
  | zero =>
    have hbuf : buf = [] := List.eq_nil_of_length_eq_zero (Nat.le_zero.mp hfuel)
    exact ⟨payloads, rfl, h, hbuf ▸ split_nil hw⟩
  | succ fuel ih =>
    cases hsplit : split w buf with
    | none =>
      rw [parse, hsplit]
      exact ⟨payloads, rfl, h, hsplit⟩
    | some pair =>
      obtain ⟨p, rest⟩ := pair
      obtain ⟨payloads₁, rfl, hrest⟩ := inTransit_split hw hlen h hsplit
      have hshort := length_of_split hsplit
      obtain ⟨payloads', hsome, hdone, hnone⟩ :=
        ih (fun q hq => hlen q (List.mem_cons_of_mem _ hq)) hrest (by omega)
      rw [parse, hsplit]
      exact ⟨payloads', congrArg (p :: ·) hsome, hdone, hnone⟩

theorem length_frames_mono {ps qs : List (List UInt8)} (h : ps <+: qs) :
    (frames w ps).length ≤ (frames w qs).length := by
  obtain ⟨rest, rfl⟩ := h
  rw [frames_append, List.length_append]
  omega

/-- When no complete frame is left over, the payloads read are exactly those whose
frames are complete in the bytes that have arrived. -/
theorem complete_iff {read rest : List (List UInt8)} {buf ext : List UInt8}
    (hlen : ∀ p ∈ rest, p.length < 256 ^ w) (h : InTransit w buf [] ext rest)
    (hnone : split w buf = none) {k : Nat} (hk : k < (read ++ rest).length) :
    k < read.length ↔
      (frames w ((read ++ rest).take (k + 1))).length ≤ (frames w read).length + buf.length := by
  constructor
  · intro hlt
    rw [List.take_append_of_le_length hlt]
    exact Nat.le_trans (length_frames_mono (List.take_prefix _ _)) (Nat.le_add_right _ _)
  · intro hle
    by_contra hge
    obtain ⟨p, rest', rfl⟩ : ∃ p rest', rest = p :: rest' := by
      refine List.exists_cons_of_length_pos ?_
      rw [List.length_append] at hk
      omega
    have hshort : buf.length < w + p.length := by
      rw [InTransit, frames_cons] at h
      rcases split_of_prefix (hlen p List.mem_cons_self) h with ⟨-, hshort⟩ | ⟨_, hsome, -⟩
      · exact hshort
      · rw [hnone] at hsome
        cases hsome
    have hpre : read ++ [p] <+: (read ++ p :: rest').take (k + 1) := by
      rw [List.prefix_take_iff]
      refine ⟨⟨rest', by simp⟩, ?_⟩
      rw [List.length_append, List.length_singleton]
      omega
    have hall := length_frames_mono (w := w) hpre
    rw [frames_append, frames_cons, frames_nil, List.append_nil, List.length_append,
      length_frame] at hall
    omega

end Parse

/-! ## From writer to reader -/

/-- The payloads handed to the writer, those read, and the bytes between: in the reader's buffer,
of which no frame is complete, and on the wire.  A writer that has broken off leaves the rest of
its frames unwritten. -/
def Flow (w : Nat) (sent read : List (List UInt8)) (buf wire : List UInt8) (broken : Bool) : Prop :=
  ∃ rest ext, sent = read ++ rest ∧ InTransit w buf wire ext rest ∧ split w buf = none ∧
    (broken = false → ext = [])

section Flow

variable {w : Nat} {sent read : List (List UInt8)} {buf wire : List UInt8} {broken : Bool}

theorem flow_nil (hw : 0 < w) (broken : Bool) : Flow w [] [] [] [] broken :=
  ⟨[], [], rfl, rfl, split_nil hw, fun _ => rfl⟩

theorem Flow.write (h : Flow w sent read buf wire false) (p : List UInt8) :
    Flow w (sent ++ [p]) read buf (wire ++ frame w p) false := by
  obtain ⟨rest, ext, rfl, htransit, hnone, hext⟩ := h
  rw [hext rfl] at htransit
  refine ⟨rest ++ [p], [], List.append_assoc _ _ _, ?_, hnone, fun _ => rfl⟩
  have hpush := inTransit_push htransit [p]
  rw [List.nil_append, frames_cons, frames_nil] at hpush
  exact inTransit_write hpush

/-- The writer breaks off in the middle of a frame. -/
theorem Flow.breakOff (h : Flow w sent read buf wire false) (p : List UInt8) (n : Nat) :
    Flow w (sent ++ [p]) read buf (wire ++ (frame w p).take n) true := by
  obtain ⟨rest, ext, rfl, htransit, hnone, hext⟩ := h
  rw [hext rfl] at htransit
  refine ⟨rest ++ [p], (frame w p).drop n, List.append_assoc _ _ _, ?_, hnone, fun h => by cases h⟩
  have hpush := inTransit_push htransit [p]
  rw [List.nil_append, frames_cons, frames_nil, List.append_nil,
    ← List.take_append_drop n (frame w p)] at hpush
  exact inTransit_write hpush

/-- Bytes arrive, and the reader takes the complete frames off. -/
theorem Flow.arrive (hw : 0 < w) (hlen : ∀ p ∈ sent, p.length < 256 ^ w) {chunk : List UInt8}
    (h : Flow w sent read buf (chunk ++ wire) broken) :
    Flow w sent (read ++ (parse w (buf ++ chunk).length (buf ++ chunk)).1)
      (parse w (buf ++ chunk).length (buf ++ chunk)).2 wire broken := by
  obtain ⟨rest, ext, rfl, htransit, -, hext⟩ := h
  have hlen' : ∀ p ∈ rest, p.length < 256 ^ w := fun p hp => hlen p (List.mem_append_right _ hp)
  obtain ⟨rest', hrest, htransit', hnone⟩ :=
    inTransit_parse hw hlen' (inTransit_read htransit) (Nat.le_refl _)
  refine ⟨rest', ext, ?_, htransit', hnone, hext⟩
  rw [List.append_assoc, ← hrest]

theorem Flow.isPrefix (h : Flow w sent read buf wire broken) : read <+: sent := by
  obtain ⟨rest, -, rfl, -⟩ := h
  exact List.prefix_append _ _

/-- All is read when the wire is empty and the writer has not broken off. -/
theorem Flow.complete (hlen : ∀ p ∈ sent, p.length < 256 ^ w) (h : Flow w sent read buf [] false) :
    read = sent := by
  obtain ⟨rest, ext, rfl, htransit, hnone, hext⟩ := h
  rw [hext rfl, InTransit, List.append_nil, List.append_nil] at htransit
  cases rest with
  | nil => exact (List.append_nil _).symm
  | cons p rest =>
    have hp := hlen p (List.mem_append_right _ List.mem_cons_self)
    rw [htransit, frames_cons, split_frame_append hp] at hnone
    cases hnone

end Flow

end Framing
end Library
