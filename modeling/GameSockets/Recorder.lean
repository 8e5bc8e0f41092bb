/-
The results file, which `MetricsRecorder` writes and `load_csv` reads.

The application and the thread of the recorder take their steps in any order.  How much of
what is written the buffer hands to the file at a time is left open, and the file may be
refused and any write fail, which panics the thread.  The panic unwinds; where it aborts the
program, as the release profile has it, the run ends with it.
-/
import GameSockets.Client
import GameSockets.Library.Csv
import GameSockets.Library.Loop

namespace GameSockets
namespace Metrics

open Client Library
open Csv (Text)

/-! ## The recorder -/

structure BufWriter where
  file : Text
  buffer : Text

namespace BufWriter

def new : BufWriter := { file := [], buffer := [] }

/-- `spilled` characters go on to the file. -/
def write (w : BufWriter) (text : Text) (spilled : Nat) : BufWriter :=
  { file := w.file ++ (w.buffer ++ text).take spilled,
    buffer := (w.buffer ++ text).drop spilled }

def flush (w : BufWriter) : BufWriter := { file := w.file ++ w.buffer, buffer := [] }

/-- Everything written, wherever it is. -/
def written (w : BufWriter) : Text := w.file ++ w.buffer

@[simp] theorem written_new : new.written = [] := rfl

@[simp] theorem written_write (w : BufWriter) (text : Text) (spilled : Nat) :
    (w.write text spilled).written = w.written ++ text := by
  rw [written, write, List.append_assoc, List.take_append_drop, written, List.append_assoc]

theorem file_flush (w : BufWriter) : w.flush.file = w.written := rfl

end BufWriter

/-- The thread that `MetricsRecorder::new` spawns. -/
inductive Thread where
  | spawned
  /-- in `while let Ok(record) = rx.recv()` -/
  | writing (writer : BufWriter)
  | returned (file : Text)
  /-- an `expect` or `unwrap` has failed; there may be a part of the file -/
  | panicked (file : Option Text)

structure MetricsRecorder where
  /-- whether `tx` is `Some` -/
  tx : Bool
  queue : Channel BenchmarkRecord
  thread : Thread
  joined : Bool

inductive Action where
  /-- the application calls `record` -/
  | record (row : BenchmarkRecord)
  /-- it drops the recorder, and the sender goes first -/
  | dropTx
  /-- the thread creates the file and writes the header -/
  | create (spilled : Nat)
  /-- it receives a record and writes its line -/
  | write (spilled : Nat)
  /-- it finds the channel closed, flushes and returns -/
  | finish
  /-- it cannot create the file -/
  | refuse
  /-- what it writes or flushes next fails -/
  | fail (spilled : Nat)
  /-- `handle.join()` -/
  | join

/-- The file system lets the thread down. -/
def Action.fails : Action → Bool
  | .refuse => true
  | .fail _ => true
  | _ => false

def header : Text := "recv_timestamp,packet_id,stream_id,rtt_us,payload_size\n".toList

def line (r : BenchmarkRecord) : Text :=
  s!"{r.recvTimestamp},{r.packetId},{r.streamId},{r.rttUs},{r.payloadSize}\n".toList

namespace MetricsRecorder

def new : MetricsRecorder :=
  { tx := true, queue := .empty, thread := .spawned, joined := false }

def panicked (s : MetricsRecorder) : Bool :=
  match s.thread with
  | .panicked _ => true
  | _ => false

/-- There is nothing to wait for: the thread has returned, or panicked, which `join` ignores. -/
def ended (s : MetricsRecorder) : Bool :=
  match s.thread with
  | .returned _ => true
  | .panicked _ => true
  | _ => false

/-- What the thread has to write next, and where. -/
def unwritten (s : MetricsRecorder) : Option (BufWriter × Text) :=
  match s.thread with
  | .spawned => some (.new, header)
  | .writing writer =>
    match s.queue.recv with
    | some (record, _) => some (writer, line record)
    -- with the sender gone it flushes, and else it waits
    | none => if s.tx then none else some (writer, [])
  | _ => none

def step (s : MetricsRecorder) : Action → Option MetricsRecorder
  -- `record` borrows the recorder, so no call comes after the drop has begun; it ignores that
  -- the receiver is gone with a panicked thread
  | .record row =>
    if s.tx then some (if s.panicked then s else { s with queue := s.queue.send row }) else none
  | .dropTx => if s.tx then some { s with tx := false } else none
  | .create spilled =>
    match s.thread with
    | .spawned => some { s with thread := .writing (BufWriter.new.write header spilled) }
    | _ => none
  | .write spilled =>
    match s.thread, s.queue.recv with
    | .writing writer, some (record, queue) =>
      some { s with queue := queue, thread := .writing (writer.write (line record) spilled) }
    | _, _ => none
  | .finish =>
    match s.thread, s.queue.recv with
    | .writing writer, none =>
      if s.tx then none else some { s with thread := .returned writer.flush.file }
    | _, _ => none
  | .refuse =>
    match s.thread with
    | .spawned => some { s with thread := .panicked none }
    | _ => none
  | .fail spilled =>
    s.unwritten.map fun (writer, text) =>
      { s with thread := .panicked (some (writer.write text spilled).file) }
  | .join => if s.tx || s.joined || !s.ended then none else some { s with joined := true }

/-- What the file holds, once there is one. -/
def file (s : MetricsRecorder) : Option Text :=
  match s.thread with
  | .spawned => none
  | .writing writer => some writer.file
  | .returned file => some file
  | .panicked file => file

end MetricsRecorder

/-! ## The loader -/

/-- The `csv` crate.  `none` is an error. -/
structure CsvReader where
  /-- the rows after the header, each as its fields under the names of their columns -/
  rows : Text → List (Option (Text → Option Text))
  /-- the field as an unsigned integer below a bound -/
  integer : Nat → Text → Option Nat

/-- What its documentation says of plain fields. -/
structure CsvReader.Documented (csv : CsvReader) : Prop where
  rows_render : ∀ names rows, names.Nodup →
    (∀ row ∈ names :: rows, Csv.PlainRow row ∧ row.length = names.length) →
    List.Forall₂
      (fun row result => ∃ field, result = some field ∧
        ∀ i (hi : i < names.length) (hi' : i < row.length), field names[i] = some row[i])
      rows (csv.rows (Csv.render (names :: rows)))
  integer_digits : ∀ size digits, digits ≠ [] → (∀ c ∈ digits, c.isDigit = true) →
    Nat.ofDigitChars 10 digits 0 < size →
    csv.integer size digits = some (Nat.ofDigitChars 10 digits 0)

section Loader

variable (csv : CsvReader)

/-- The derived `Deserialize`. -/
def deserialize (field : Text → Option Text) : Option BenchmarkRecord := do
  let number (size : Nat) (name : String) := (field name.toList).bind (csv.integer size)
  let packetId ← number UInt64.size "packet_id"
  let streamId ← number UInt16.size "stream_id"
  let rttUs ← number UInt64.size "rtt_us"
  let payloadSize ← number UInt64.size "payload_size"
  let recvTimestamp ← number UInt64.size "recv_timestamp"
  some
    { packetId := .ofNat packetId, streamId := .ofNat streamId, rttUs := .ofNat rttUs,
      payloadSize := .ofNat payloadSize, recvTimestamp := .ofNat recvTimestamp }

def loadCsv (text : Text) : Option (List BenchmarkRecord) :=
  (csv.rows text).foldlM
    (fun records row => (row.bind (deserialize csv)).map fun record => records ++ [record]) []

end Loader

/-! ## The text of the records -/

/-- The columns of the file. -/
def columns : List Text :=
  ["recv_timestamp".toList, "packet_id".toList, "stream_id".toList, "rtt_us".toList,
    "payload_size".toList]

def decimal (n : Nat) : Text := Nat.toDigits 10 n

/-- A record under the columns. -/
def fields (record : BenchmarkRecord) : List Text :=
  [decimal record.recvTimestamp.toNat, decimal record.packetId.toNat,
    decimal record.streamId.toNat, decimal record.rttUs.toNat, decimal record.payloadSize.toNat]

theorem header_eq : header = Csv.line columns ++ ['\n'] := by decide

theorem toList_toString (w : UInt64) : (toString w).toList = decimal w.toNat := Nat.toList_repr

theorem toList_toString16 (w : UInt16) : (toString w).toList = decimal w.toNat := Nat.toList_repr

theorem line_eq (record : BenchmarkRecord) :
    line record = Csv.line (fields record) ++ ['\n'] := by
  have hcomma : (toString ",").toList = [','] := by decide
  have hnewline : (toString "\n").toList = ['\n'] := by decide
  simp [line, Csv.line, fields, toList_toString, toList_toString16, hcomma, hnewline]

/-- The file of the records. -/
def fileText (records : List BenchmarkRecord) : Text := header ++ records.flatMap line

theorem fileText_eq_render (records : List BenchmarkRecord) :
    fileText records = Csv.render (columns :: records.map fields) := by
  rw [fileText, Csv.render, List.flatMap_cons, ← header_eq, List.flatMap_map,
    (funext line_eq : line = _)]

theorem isDigit_of_mem_decimal {n : Nat} {c : Char} (h : c ∈ decimal n) : c.isDigit = true :=
  Nat.isDigit_of_mem_toDigits (by decide) (by decide) h

theorem plain_decimal (n : Nat) : Csv.Plain (decimal n) where
  ne_nil := Nat.toDigits_ne_nil
  chars c h := Or.inl (by rw [Char.isAlphanum, isDigit_of_mem_decimal h, Bool.or_true])

theorem plainRow_columns : Csv.PlainRow columns := by decide

theorem plainRow_fields (record : BenchmarkRecord) : Csv.PlainRow (fields record) where
  ne_nil := List.cons_ne_nil _ _
  fields field h := by
    simp only [fields, List.mem_cons, List.not_mem_nil, or_false] at h
    rcases h with rfl | rfl | rfl | rfl | rfl <;> exact plain_decimal _

/-! ## Loading -/

section Loading

variable {csv : CsvReader}

/-- What is printed as a decimal is read as the number. -/
theorem integer_decimal (hcsv : csv.Documented) {size n : Nat} (h : n < size) :
    csv.integer size (decimal n) = some n := by
  have hvalue : Nat.ofDigitChars 10 (decimal n) 0 = n := Nat.ofDigitChars_ten_toDigits
  have hread := hcsv.integer_digits size (decimal n) (plain_decimal n).ne_nil
    (fun _ => isDigit_of_mem_decimal) (by rwa [hvalue])
  rwa [hvalue] at hread

/-- A row under the columns is the record it was written for. -/
theorem deserialize_fields (hcsv : csv.Documented) {record : BenchmarkRecord}
    {field : Text → Option Text}
    (hfield : ∀ i (_ : i < columns.length) (_ : i < (fields record).length),
      field columns[i] = some (fields record)[i]) :
    deserialize csv field = some record := by
  have h64 (w : UInt64) : csv.integer UInt64.size (decimal w.toNat) = some w.toNat :=
    integer_decimal hcsv w.toNat_lt_size
  have h16 (w : UInt16) : csv.integer UInt16.size (decimal w.toNat) = some w.toNat :=
    integer_decimal hcsv w.toNat_lt_size
  have hrecv : field "recv_timestamp".toList = some (decimal record.recvTimestamp.toNat) :=
    hfield 0 (by decide) (Nat.succ_pos _)
  have hpacket : field "packet_id".toList = some (decimal record.packetId.toNat) :=
    hfield 1 (by decide) (by simp [fields])
  have hstream : field "stream_id".toList = some (decimal record.streamId.toNat) :=
    hfield 2 (by decide) (by simp [fields])
  have hrtt : field "rtt_us".toList = some (decimal record.rttUs.toNat) :=
    hfield 3 (by decide) (by simp [fields])
  have hsize : field "payload_size".toList = some (decimal record.payloadSize.toNat) :=
    hfield 4 (by decide) (by simp [fields])
  simp only [deserialize, hrecv, hpacket, hstream, hrtt, hsize, Option.bind_eq_bind,
    Option.bind_some, h64, h16, UInt64.ofNat_toNat, UInt16.ofNat_toNat]

/-- The file of the records is loaded as the records. -/
theorem loadCsv_fileText (hcsv : csv.Documented) (records : List BenchmarkRecord) :
    loadCsv csv (fileText records) = some records := by
  have hplain : ∀ row ∈ columns :: records.map fields,
      Csv.PlainRow row ∧ row.length = columns.length := by
    intro row hrow
    rcases List.mem_cons.mp hrow with rfl | hrow
    · exact ⟨plainRow_columns, rfl⟩
    · obtain ⟨record, -, rfl⟩ := List.mem_map.mp hrow
      exact ⟨plainRow_fields record, rfl⟩
  have hrows := hcsv.rows_render columns (records.map fields) (by decide) hplain
  rw [← fileText_eq_render, List.forall₂_map_left_iff] at hrows
  rw [loadCsv]
  refine (Loop.foldlM_push (hrows.imp fun record row hrow => ?_) []).trans (by rw [List.nil_append])
  obtain ⟨field, rfl, hfield⟩ := hrow
  rw [Option.bind_some]
  exact deserialize_fields hcsv hfield

end Loading

/-! ## One step of the recorder -/

/-- The rows of the calls to `record`. -/
def recorded (actions : List Action) : List BenchmarkRecord :=
  actions.filterMap fun
    | .record row => some row
    | _ => none

theorem recorded_append (as bs : List Action) :
    recorded (as ++ bs) = recorded as ++ recorded bs :=
  List.filterMap_append

namespace MetricsRecorder

/-- The branches of `step`. -/
inductive Steps (s : MetricsRecorder) : Action → MetricsRecorder → Prop where
  | record {row : BenchmarkRecord} (htx : s.tx = true) (hthere : s.panicked = false) :
    Steps s (.record row) { s with queue := s.queue.send row }
  | recordLost {row : BenchmarkRecord} (htx : s.tx = true) (hgone : s.panicked = true) :
    Steps s (.record row) s
  | dropTx (htx : s.tx = true) : Steps s .dropTx { s with tx := false }
  | create {spilled : Nat} (hthread : s.thread = .spawned) :
    Steps s (.create spilled) { s with thread := .writing (BufWriter.new.write header spilled) }
  | write {spilled : Nat} {writer : BufWriter} {record : BenchmarkRecord}
    {queue : Channel BenchmarkRecord} (hthread : s.thread = .writing writer)
    (hrecv : s.queue.recv = some (record, queue)) :
    Steps s (.write spilled)
      { s with queue := queue, thread := .writing (writer.write (line record) spilled) }
  | finish {writer : BufWriter} (hthread : s.thread = .writing writer) (htx : s.tx = false)
    (hrecv : s.queue.recv = none) :
    Steps s .finish { s with thread := .returned writer.flush.file }
  | refuse (hthread : s.thread = .spawned) : Steps s .refuse { s with thread := .panicked none }
  | fail {spilled : Nat} {file : Text} (hended : s.ended = false) :
    Steps s (.fail spilled) { s with thread := .panicked (some file) }
  | join (hended : s.ended = true) (htx : s.tx = false) (hjoined : s.joined = false) :
    Steps s .join { s with joined := true }

theorem not_ended_of_unwritten {s : MetricsRecorder} {x : BufWriter × Text}
    (h : s.unwritten = some x) : s.ended = false := by
  unfold unwritten at h
  split at h
  · next hthread => rw [ended, hthread]
  · next writer hthread => rw [ended, hthread]
  · cases h

theorem steps_of_step {s t : MetricsRecorder} {a : Action} (h : step s a = some t) :
    Steps s a t := by
  cases a with
  | record row =>
    simp only [step] at h
    split at h
    · next htx =>
      cases h
      split
      · next hgone => exact .recordLost htx hgone
      · next hthere => exact .record htx (Bool.eq_false_of_not_eq_true hthere)
    · cases h
  | dropTx =>
    simp only [step] at h
    split at h
    · next htx =>
      cases h
      exact .dropTx htx
    · cases h
  | create spilled =>
    simp only [step] at h
    split at h
    · next hthread =>
      cases h
      exact .create hthread
    · cases h
  | write spilled =>
    simp only [step] at h
    split at h
    · next writer record queue hthread hrecv =>
      cases h
      exact .write hthread hrecv
    · cases h
  | finish =>
    simp only [step] at h
    split at h
    · next writer hthread hrecv =>
      split at h
      · cases h
      · next htx =>
        cases h
        exact .finish hthread (Bool.eq_false_iff.mpr htx) hrecv
    · cases h
  | refuse =>
    simp only [step] at h
    split at h
    · next hthread =>
      cases h
      exact .refuse hthread
    · cases h
  | fail spilled =>
    obtain ⟨⟨writer, text⟩, hnext, rfl⟩ := Option.map_eq_some_iff.mp h
    exact .fail (not_ended_of_unwritten hnext)
  | join =>
    simp only [step] at h
    split at h
    · cases h
    · next hopen =>
      cases h
      simp only [Bool.or_eq_true, Bool.not_eq_true', not_or, Bool.not_eq_true,
        Bool.not_eq_false] at hopen
      exact .join hopen.2 hopen.1.1 hopen.1.2

/-- The thread panics only when the file system lets it down. -/
theorem panicked_step {s t : MetricsRecorder} {a : Action} (h : s.panicked = false)
    (ha : a.fails = false) (hstep : step s a = some t) : t.panicked = false := by
  cases steps_of_step hstep with
  | refuse hthread => cases ha
  | fail hended => cases ha
  | record htx hthere => exact h
  | recordLost htx hgone => exact h
  | dropTx htx => exact h
  | create hthread => rfl
  | write hthread hrecv => rfl
  | finish hthread htx hrecv => rfl
  | join hended htx hjoined => exact h

/-- What has been recorded is in the queue or has been written, unless the thread has
panicked. -/
structure Recorded (rows : List BenchmarkRecord) (s : MetricsRecorder) : Prop where
  log : s.panicked = false → s.queue.log = rows
  spawned : s.thread = .spawned → s.queue.received = []
  writing : ∀ writer, s.thread = .writing writer → writer.written = fileText s.queue.received
  returned : ∀ file, s.thread = .returned file → file = fileText rows ∧ s.tx = false

theorem recorded_new : Recorded [] new where
  log _ := rfl
  spawned _ := rfl
  writing _ := nofun
  returned _ := nofun

theorem recorded_panicked {rows : List BenchmarkRecord} {s : MetricsRecorder} {file : Option Text}
    (h : s.thread = .panicked file) : Recorded rows s where
  log hthere := by
    rw [panicked, h] at hthere
    cases hthere
  spawned hthread := by cases h.symm.trans hthread
  writing _ hthread := by cases h.symm.trans hthread
  returned _ hthread := by cases h.symm.trans hthread

theorem exists_panicked {s : MetricsRecorder} (h : s.panicked = true) :
    ∃ file, s.thread = .panicked file := by
  unfold panicked at h
  split at h
  · next file hthread => exact ⟨file, hthread⟩
  · cases h

theorem recorded_step {rows : List BenchmarkRecord} {s t : MetricsRecorder} {a : Action}
    (h : Recorded rows s) (hstep : step s a = some t) : Recorded (rows ++ recorded [a]) t := by
  cases steps_of_step hstep with
  | @record row htx hthere =>
    show Recorded (rows ++ [row]) _
    refine { log := fun _ => ?_, spawned := h.spawned, writing := h.writing, returned := ?_ }
    · rw [Channel.log_send, h.log hthere]
    · intro file hthread
      rw [(h.returned file hthread).2] at htx
      cases htx
  | recordLost htx hgone =>
    obtain ⟨file, hthread⟩ := exists_panicked hgone
    exact recorded_panicked hthread
  | dropTx htx =>
    show Recorded (rows ++ []) _
    rw [List.append_nil]
    refine { log := h.log, spawned := h.spawned, writing := h.writing, returned := ?_ }
    exact fun file hthread => ⟨(h.returned file hthread).1, rfl⟩
  | @create spilled hthread =>
    show Recorded (rows ++ []) _
    rw [List.append_nil]
    refine { log := fun _ => h.log (by rw [panicked, hthread]), spawned := nofun, writing := ?_,
             returned := nofun }
    intro writer hwriter
    cases hwriter
    rw [BufWriter.written_write, BufWriter.written_new, h.spawned hthread, fileText,
      List.flatMap_nil, List.nil_append, List.append_nil]
  | @write spilled writer record queue hthread hrecv =>
    show Recorded (rows ++ []) _
    rw [List.append_nil]
    refine { log := fun _ => ?_, spawned := nofun, writing := ?_, returned := nofun }
    · exact (Channel.log_recv hrecv).trans (h.log (by rw [panicked, hthread]))
    · intro next hnext
      cases hnext
      rw [BufWriter.written_write, h.writing writer hthread, (Channel.recv_eq_some hrecv).2,
        fileText, fileText, List.flatMap_append, List.append_assoc, List.flatMap_singleton]
  | @finish writer hthread htx hrecv =>
    show Recorded (rows ++ []) _
    rw [List.append_nil]
    have hlog := h.log (by rw [panicked, hthread])
    refine { log := fun _ => hlog, spawned := nofun, writing := nofun, returned := ?_ }
    intro file hfile
    cases hfile
    rw [BufWriter.file_flush, h.writing writer hthread, ← hlog, Channel.log_of_recv_eq_none hrecv]
    exact ⟨rfl, htx⟩
  | refuse hthread => exact recorded_panicked rfl
  | fail hended => exact recorded_panicked rfl
  | join hended htx hjoined =>
    show Recorded (rows ++ []) _
    rw [List.append_nil]
    exact { log := h.log, spawned := h.spawned, writing := h.writing, returned := h.returned }

/-! ## Dropping the recorder -/

/-- The thread is joined only when the sender is gone and it has come to its end. -/
def JoinedLast (s : MetricsRecorder) : Prop :=
  s.joined = true → s.tx = false ∧ s.ended = true

theorem joinedLast_step {s t : MetricsRecorder} {a : Action} (h : JoinedLast s)
    (hstep : step s a = some t) : JoinedLast t := by
  have hrunning : s.ended = false → ¬ s.joined = true := by
    intro hended hjoined
    exact absurd (hended.symm.trans (h hjoined).2) Bool.false_ne_true
  cases steps_of_step hstep with
  | record htx hthere => exact h
  | recordLost htx hgone => exact h
  | dropTx htx => exact fun hjoined => ⟨rfl, (h hjoined).2⟩
  | create hthread => exact fun hjoined => absurd hjoined (hrunning (by rw [ended, hthread]))
  | write hthread hrecv => exact fun hjoined => absurd hjoined (hrunning (by rw [ended, hthread]))
  | finish hthread htx hrecv => exact fun _ => ⟨htx, rfl⟩
  | refuse hthread => exact fun hjoined => absurd hjoined (hrunning (by rw [ended, hthread]))
  | fail hended => exact fun hjoined => absurd hjoined (hrunning hended)
  | join hended htx hjoined => exact fun _ => ⟨htx, hended⟩

/-- A thread that has come to its end without a panic has returned. -/
theorem exists_returned {s : MetricsRecorder} (hended : s.ended = true)
    (hthere : s.panicked = false) : ∃ file, s.thread = .returned file := by
  unfold ended at hended
  split at hended
  · next file hthread => exact ⟨file, hthread⟩
  · next file hthread =>
    rw [panicked, hthread] at hthere
    cases hthere
  · cases hended

/-- The steps that are left once the sender is dropped. -/
def left (s : MetricsRecorder) : Nat :=
  let thread :=
    match s.thread with
    | .spawned => 2
    | .writing _ => 1
    | .returned _ => 0
    | .panicked _ => 0
  thread + s.queue.pending.length + if s.joined then 0 else 1

theorem left_fail {s : MetricsRecorder} (hended : s.ended = false) (file : Option Text) :
    left { s with thread := .panicked file } < left s := by
  unfold ended at hended
  split at hended
  · cases hended
  · cases hended
  · next hreturned hpanicked =>
    cases hthread : s.thread with
    | spawned => simp [left, hthread]
    | writing writer => simp [left, hthread]
    | returned file => exact absurd hthread (hreturned file)
    | panicked file => exact absurd hthread (hpanicked file)

theorem left_step {s t : MetricsRecorder} {a : Action} (htx : s.tx = false)
    (hstep : step s a = some t) : t.tx = false ∧ left t < left s := by
  cases steps_of_step hstep with
  | record hopen => exact absurd (htx.symm.trans hopen) Bool.false_ne_true
  | recordLost hopen => exact absurd (htx.symm.trans hopen) Bool.false_ne_true
  | dropTx hopen => exact absurd (htx.symm.trans hopen) Bool.false_ne_true
  | create hthread => exact ⟨htx, by simp [left, hthread]⟩
  | write hthread hrecv =>
    exact ⟨htx, by simp [left, hthread, (Channel.recv_eq_some hrecv).1]⟩
  | finish hthread _ hrecv => exact ⟨htx, by simp [left, hthread]⟩
  | refuse hthread => exact ⟨htx, left_fail (by rw [ended, hthread]) none⟩
  | fail hended => exact ⟨htx, left_fail hended _⟩
  | join hended _ hjoined => exact ⟨htx, by simp [left, hjoined]⟩

/-- Until the thread is joined there is something to do. -/
theorem exists_step {s : MetricsRecorder} (htx : s.tx = false) (hjoined : ¬ s.joined = true) :
    ∃ a t, step s a = some t := by
  have hjoin : s.ended = true → step s .join = some { s with joined := true } := by
    intro hended
    exact if_neg (by simp [htx, hjoined, hended])
  cases hthread : s.thread with
  | spawned => exact ⟨.create 0, _, by rw [step, hthread]⟩
  | writing writer =>
    cases hrecv : s.queue.recv with
    | none => exact ⟨.finish, _, by rw [step, hthread, hrecv]; exact if_neg (by simp [htx])⟩
    | some taken => exact ⟨.write 0, _, by rw [step, hthread, hrecv]⟩
  | returned file => exact ⟨.join, _, hjoin (by rw [ended, hthread])⟩
  | panicked file => exact ⟨.join, _, hjoin (by rw [ended, hthread])⟩

/-! ## Every run -/

theorem recorded_of_run {actions : List Action} {s : MetricsRecorder}
    (hrun : Run.run step new actions = some s) : Recorded (recorded actions) s := by
  have hfree : Run.Along step (fun _ _ => True) new actions :=
    (Run.along_iff_forall_mem step hrun).mpr fun _ _ => trivial
  refine @Run.invariant_of_history _ _ step _ (fun as s => Recorded (recorded as) s) ?_ actions
    [] new s recorded_new hfree hrun
  intro as s a t h _ hstep
  rw [recorded_append]
  exact recorded_step h hstep

theorem panicked_of_run {actions : List Action} {s : MetricsRecorder}
    (hwrites : ∀ a ∈ actions, a.fails = false) (hrun : Run.run step new actions = some s) :
    s.panicked = false := by
  have halong : Run.Along step (fun _ a => a.fails = false) new actions :=
    (Run.along_iff_forall_mem step hrun).mpr hwrites
  have keep : ∀ s a t, panicked s = false → Action.fails a = false → step s a = some t →
      panicked t = false :=
    fun _ _ _ => panicked_step
  exact Run.invariant keep actions rfl halong hrun

/-- What a recorder leaves that is joined and has not panicked. -/
theorem load_of_recorded {csv : CsvReader} (hcsv : csv.Documented) {rows : List BenchmarkRecord}
    {s : MetricsRecorder} (h : Recorded rows s) (hended : s.ended = true)
    (hthere : s.panicked = false) :
    ∃ text, s.file = some text ∧ loadCsv csv text = some rows := by
  obtain ⟨text, hthread⟩ := exists_returned hended hthere
  refine ⟨text, by rw [file, hthread], ?_⟩
  rw [(h.returned text hthread).1]
  exact loadCsv_fileText hcsv rows

/-- Whatever is recorded before the recorder is dropped, the drop returns, and when the file has
been created and all writes have succeeded, it then loads as the rows recorded. -/
theorem load_recorded (csv : CsvReader) (hcsv : csv.Documented) (actions : List Action)
    (s : MetricsRecorder) (hrun : Run.run step new actions = some s) :
    (s.tx = false → Run.Inevitable step (fun t => t.joined = true) s) ∧
      ((∀ a ∈ actions, a.fails = false) → s.joined = true →
        ∃ text, s.file = some text ∧ loadCsv csv text = some (recorded actions)) := by
  constructor
  · intro htx
    exact Run.inevitable_of_decreasing left (fun _ _ _ => left_step) (fun _ => exists_step) htx
  · intro hwrites hjoined
    have hlast : JoinedLast s :=
      Run.invariant_of_run (fun _ _ _ => joinedLast_step)
        (fun h => absurd h Bool.false_ne_true) hrun
    exact load_of_recorded hcsv (recorded_of_run hrun) (hlast hjoined).2
      (panicked_of_run hwrites hrun)

end MetricsRecorder

/-! ## A reader -/

/-- A reader for tables of plain fields. -/
def plainReader : CsvReader where
  rows text :=
    match Csv.split text with
    | [] => []
    | names :: rows => rows.map fun row => some (Csv.column names row)
  integer size digits :=
    if digits ≠ [] ∧ digits.all Char.isDigit = true ∧ Nat.ofDigitChars 10 digits 0 < size then
      some (Nat.ofDigitChars 10 digits 0)
    else none

theorem documented_plainReader : plainReader.Documented where
  rows_render names rows hnodup hrows := by
    have hsplit : Csv.split (Csv.render (names :: rows)) = names :: rows :=
      Csv.split_render fun row hrow => (hrows row hrow).1
    have hread : plainReader.rows (Csv.render (names :: rows)) =
        rows.map fun row => some (Csv.column names row) := by
      simp only [plainReader, hsplit]
    rw [hread, List.forall₂_map_right_iff, List.forall₂_same]
    intro row hrow
    refine ⟨Csv.column names row, rfl, fun i hi _ => ?_⟩
    exact Csv.column_getElem hnodup (hrows row (List.mem_cons_of_mem names hrow)).2 hi
  integer_digits _ _ hne hdigits hlt := if_pos ⟨hne, List.all_eq_true.mpr hdigits, hlt⟩

namespace MetricsRecorder

/-- The largest values that a row can hold. -/
def largest : BenchmarkRecord :=
  { packetId := 18446744073709551615, streamId := 65535, rttUs := 18446744073709551615,
    payloadSize := 18446744073709551615, recvTimestamp := 18446744073709551615 }

def smallest : BenchmarkRecord :=
  { packetId := 0, streamId := 0, rttUs := 0, payloadSize := 0, recvTimestamp := 0 }

/-- Two rows are recorded, the second while the thread writes the first. -/
def twoRows : List Action :=
  [.record largest, .create 7, .write 90, .record smallest, .dropTx, .write 0, .finish, .join]

theorem load_twoRows :
    ∃ s text, Run.run step new twoRows = some s ∧ s.file = some text ∧
      loadCsv plainReader text = some [largest, smallest] := by
  have hfile := (load_recorded plainReader documented_plainReader twoRows _ rfl).2 (by decide) rfl
  obtain ⟨text, htext, hload⟩ := hfile
  exact ⟨_, text, rfl, htext, hload⟩

end MetricsRecorder

end Metrics
end GameSockets
