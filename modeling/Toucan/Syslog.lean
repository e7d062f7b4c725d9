import Toucan.Lib.Rfc5424
import Toucan.Utils.Writers

/-!
# Toucan.Syslog

`Syslog::send` (crate `syslog-emb`): a message becomes a line that begins like one of
RFC 5424, with the time in a buffer of its own.

The line has one name less than the header it announces -- the source of the message is not
written -- so whoever reads it takes the process for the application and the counter for the
process (`names_of_parse_line`).
-/

namespace Toucan.SyslogEmb

open Decimal HttpMessage Rfc5424

/-! ## The line of a message -/

/-- `embassy_stm32::rtc::DateTime` -/
structure DateTime where
  year : UInt16
  month : UInt8
  day : UInt8
  hour : UInt8
  minute : UInt8
  second : UInt8

structure SyslogMessage where
  priority : UInt8
  hostname : String
  source : String
  procId : String
  message : String
  messageData : String
  datetime : DateTime

/-- `"{}-{}-{}T{}:{}:{}.0Z"` -/
def timePieces (dt : DateTime) : List (List UInt8) :=
  [decimal dt.year.toNat, asBytes "-", decimal dt.month.toNat, asBytes "-",
    decimal dt.day.toNat, asBytes "T", decimal dt.hour.toNat, asBytes ":",
    decimal dt.minute.toNat, asBytes ":", decimal dt.second.toNat, asBytes ".0Z"]

/-- `"<{}>1 {} {} {} ID{} [{}] {}\n"` -/
def linePieces (m : SyslogMessage) (time : List UInt8) (counter : UInt32) : List (List UInt8) :=
  [asBytes "<", decimal m.priority.toNat, asBytes ">1 ", time, asBytes " ", asBytes m.hostname,
    asBytes " ", asBytes m.procId, asBytes " ID", decimal counter.toNat, asBytes " [",
    asBytes m.messageData, asBytes "] ", asBytes m.message, asBytes "\n"]

/-- `Syslog::send` up to `transmit`, with `MSG_COUNTER`; a panic is `none`. -/
def send (counter : UInt32) (buf : ByteMutWriterCap N) (m : SyslogMessage) :
    Option (UInt32 × ByteMutWriterCap N) := do
  let time ← ((ByteMutWriterCap.new 50).write (timePieces m.datetime)).toOption
  let timeStr ← time.asStr
  let buf ← (buf.write (linePieces m (asBytes timeStr) counter)).toOption
  return (counter + 1, buf)

def timeText (dt : DateTime) : List UInt8 := (timePieces dt).flatten

def line (m : SyslogMessage) (counter : UInt32) : List UInt8 :=
  (linePieces m (timeText m.datetime) counter).flatten

/-- The counter as it is written. -/
def counterId (counter : UInt32) : List UInt8 := 73 :: 68 :: decimal counter.toNat

/-- A new writer holds the front of what is written to it. -/
theorem exists_write_new (N : Nat) (pieces : List (List UInt8)) :
    ∃ w, (ByteMutWriterCap.new N).write pieces = .ok w ∧ w.borrow = pieces.flatten.take N := by
  obtain ⟨-, w, -, -, hw, -, -, hlaw⟩ := exists_write (Vector.replicate N 0) pieces
  refine ⟨w, hw, ?_⟩
  have hfront := hlaw.take_cursor
  rwa [List.length_replicate] at hfront

theorem timeText_eq (dt : DateTime) :
    timeText dt = decimal dt.year.toNat ++ 45 :: (decimal dt.month.toNat ++ 45 ::
      (decimal dt.day.toNat ++ 84 :: (decimal dt.hour.toNat ++ 58 ::
        (decimal dt.minute.toNat ++ 58 :: (decimal dt.second.toNat ++ [46, 48, 90]))))) := by
  have hhyphen : asBytes "-" = [45] := by decide +kernel
  have htime : asBytes "T" = [84] := by decide +kernel
  have hcolon : asBytes ":" = [58] := by decide +kernel
  have hend : asBytes ".0Z" = [46, 48, 90] := by decide +kernel
  simp [timeText, timePieces, hhyphen, htime, hcolon, hend]

theorem line_eq (m : SyslogMessage) (counter : UInt32) :
    line m counter = 60 :: (decimal m.priority.toNat ++ 62 :: 49 :: 32 ::
      (timeText m.datetime ++ 32 :: (asBytes m.hostname ++ 32 :: (asBytes m.procId ++ 32 ::
        (counterId counter ++ 32 :: 91 :: (asBytes m.messageData ++ 93 :: 32 ::
          (asBytes m.message ++ [10]))))))) := by
  have hpri : asBytes "<" = [60] := by decide +kernel
  have hversion : asBytes ">1 " = [62, 49, 32] := by decide +kernel
  have hspace : asBytes " " = [32] := by decide +kernel
  have hid : asBytes " ID" = [32, 73, 68] := by decide +kernel
  have hopen : asBytes " [" = [32, 91] := by decide +kernel
  have hclose : asBytes "] " = [93, 32] := by decide +kernel
  have hend : asBytes "\n" = [10] := by decide +kernel
  simp [line, linePieces, hpri, hversion, hspace, hid, hopen, hclose, hend, counterId]

/-- The time fits into its buffer. -/
theorem length_timeText_le (dt : DateTime) : (timeText dt).length ≤ 50 := by
  have hyear : (decimal dt.year.toNat).length ≤ 5 :=
    (length_decimal_le_iff (by decide)).mpr (Nat.lt_trans dt.year.toNat_lt (by decide))
  have hbyte : ∀ b : UInt8, (decimal b.toNat).length ≤ 3 := fun b =>
    (length_decimal_le_iff (by decide)).mpr (Nat.lt_trans b.toNat_lt (by decide))
  have hmonth := hbyte dt.month
  have hday := hbyte dt.day
  have hhour := hbyte dt.hour
  have hminute := hbyte dt.minute
  have hsecond := hbyte dt.second
  simp only [timeText_eq, List.length_append, List.length_cons, List.length_nil]
  omega

theorem ascii_timeText (dt : DateTime) : ∀ b ∈ timeText dt, b < 128 := by
  have hdigit : ∀ n, ∀ b ∈ decimal n, b < 128 := by
    intro n b hb
    have hb' := isDigit_of_mem_decimal hb
    grind [isDigit]
  intro b hb
  rw [timeText_eq] at hb
  grind

/-- The line is written, when there is room for it. -/
theorem send_eq (m : SyslogMessage) (counter : UInt32) (h : (line m counter).length ≤ N) :
    ∃ buf, send counter (ByteMutWriterCap.new N) m = some (counter + 1, buf) ∧
      buf.borrow = line m counter := by
  obtain ⟨time, htime, hheld⟩ := exists_write_new 50 (timePieces m.datetime)
  have hall : time.borrow = timeText m.datetime := by
    rw [hheld, ← timeText, List.take_of_length_le (length_timeText_le m.datetime)]
  obtain ⟨timeStr, hstr⟩ := exists_fromUtf8 (ascii_timeText m.datetime)
  have hbytes := asBytes_of_fromUtf8 hstr
  obtain ⟨buf, hbuf, hline⟩ := exists_write_new N (linePieces m (timeText m.datetime) counter)
  refine ⟨buf, ?_, ?_⟩
  · simp [send, htime, Except.toOption, ByteMutWriterCap.asStr, hall, hstr, hbytes, hbuf]
  · rw [hline, ← line, List.take_of_length_le h]

/-! ## The line read as one of RFC 5424 -/

/-- What the header announces of a message. -/
def announced (m : SyslogMessage) (counter : UInt32) : Rfc5424.Message where
  pri := m.priority.toNat
  timestamp := {
    year := m.datetime.year.toNat
    month := m.datetime.month.toNat
    day := m.datetime.day.toNat
    hour := m.datetime.hour.toNat
    minute := m.datetime.minute.toNat
    second := m.datetime.second.toNat }
  hostname := asBytes m.hostname
  appName := asBytes m.source
  procId := asBytes m.procId
  msgId := counterId counter
  structuredData := 91 :: asBytes m.messageData ++ [93]
  msg := asBytes m.message

theorem isName_timeText (dt : DateTime) : IsName (timeText dt) := by
  have hspace : ∀ n, 32 ∉ decimal n := fun n => not_mem_decimal (by decide)
  rw [timeText_eq]
  constructor
  · simp
  · simp [hspace]

theorem isName_counterId (counter : UInt32) : IsName (counterId counter) := by
  have hspace : 32 ∉ decimal counter.toNat := not_mem_decimal (by decide)
  constructor
  · simp [counterId]
  · simp [counterId, hspace]

/-- The process stands where the application is read, the counter where the process is, and
    the data where the counter is. -/
theorem names_of_parse_line {m : SyslogMessage} (hhost : IsName (asBytes m.hostname))
    (hproc : IsName (asBytes m.procId)) (h : parse (line m counter) = some r) :
    r.appName = asBytes m.procId ∧ r.procId = counterId counter ∧ r.msgId.head? = some 91 := by
  rw [line_eq] at h
  simp only [parse, readPri_append, readField_append (isName_timeText m.datetime),
    readField_append hhost, readField_append hproc, Option.bind_eq_bind, Option.bind_some] at h
  obtain ⟨timestamp, -, h⟩ := Option.bind_eq_some_iff.mp h
  simp only [readField_append (isName_counterId counter), Option.bind_some] at h
  obtain ⟨⟨msgId, rest⟩, hmsgId, h⟩ := Option.bind_eq_some_iff.mp h
  obtain ⟨structuredData, -, h⟩ := Option.bind_eq_some_iff.mp h
  obtain ⟨msg, -, h⟩ := Option.bind_eq_some_iff.mp h
  simp only [Option.pure_def, Option.some.injEq] at h
  subst h
  exact ⟨rfl, rfl, head?_of_readField hmsgId⟩

/-- Nothing of the source is written. -/
theorem send_source (m : SyslogMessage) (counter : UInt32) (buf : ByteMutWriterCap N)
    (source : String) : send counter buf { m with source } = send counter buf m := rfl

/-- A line with all that is announced would be read back. -/
theorem parse_announced {m : SyslogMessage} (counter : UInt32)
    (htime : (announced m counter).timestamp.Fits) (hhost : IsName (asBytes m.hostname))
    (hsource : IsName (asBytes m.source)) (hproc : IsName (asBytes m.procId))
    (hbracket : 93 ∉ asBytes m.messageData) (hquote : 34 ∉ asBytes m.messageData) :
    parse (format (announced m counter)) = some (announced m counter) :=
  parse_format {
    timestamp := htime
    hostname := hhost
    appName := hsource
    procId := hproc
    msgId := isName_counterId counter
    structuredData := ⟨_, rfl, hbracket, hquote⟩ }

/-- **The line of a message** is never read back: not as the message with its source, its
    process and its counter, and a message of another source has the same line. -/
theorem parse_send_ne_announced {m : SyslogMessage} (hhost : IsName (asBytes m.hostname))
    (hproc : IsName (asBytes m.procId)) (counter : UInt32)
    (hroom : (line m counter).length ≤ N) :
    ∃ buf, send counter (ByteMutWriterCap.new N) m = some (counter + 1, buf) ∧
      parse buf.borrow ≠ some (announced m counter) ∧
      ∀ source, send counter (ByteMutWriterCap.new N) { m with source } = some (counter + 1, buf) := by
  obtain ⟨buf, hsend, hline⟩ := send_eq m counter hroom
  refine ⟨buf, hsend, ?_, fun source => (send_source m counter _ source).trans hsend⟩
  intro hparse
  rw [hline] at hparse
  obtain ⟨-, -, hmsgId⟩ := names_of_parse_line hhost hproc hparse
  simp [announced, counterId] at hmsgId

/-- The message of the crate's documentation, late in a year. -/
def fooMessage : SyslogMessage where
  priority := 1
  hostname := "FooHost"
  source := "FooSource"
  procId := "123"
  message := "My test"
  messageData := "Some=123"
  datetime := ⟨2024, 11, 12, 13, 14, 15⟩

theorem parse_send_fooMessage :
    ∃ buf, send 7 (ByteMutWriterCap.new 100) fooMessage = some (8, buf) ∧
      parse buf.borrow ≠ some (announced fooMessage 7) ∧
      ∀ source, send 7 (ByteMutWriterCap.new 100) { fooMessage with source } = some (8, buf) :=
  parse_send_ne_announced (by decide +kernel) (by decide +kernel) 7 (by decide +kernel)

/-- Its line is read by no one, and is that of a message from elsewhere. -/
theorem fooMessage_not_read_back :
    ∃ buf, send 7 (ByteMutWriterCap.new 100) fooMessage = some (8, buf) ∧
      parse buf.borrow = none ∧
      send 7 (ByteMutWriterCap.new 100) { fooMessage with source := "Other" } = some (8, buf) := by
  obtain ⟨buf, hsend, hline⟩ := send_eq fooMessage 7 (by decide +kernel : _ ≤ 100)
  refine ⟨buf, hsend, ?_, hsend⟩
  rw [hline]
  decide +kernel

end Toucan.SyslogEmb
