import Toucan.Lib.Decimal

/-!
# Toucan.Lib.Rfc5424

Syslog messages as lines: `<PRI>1 TIMESTAMP HOSTNAME APP-NAME PROCID MSGID
STRUCTURED-DATA MSG`.

`parse` reads such a line field by field.  It asks no more of a name than that it is there
and holds no space, and takes times in UTC only.  Lines that are written with all their
fields are read back (`parse_format`).
-/

namespace Toucan.Rfc5424

open Decimal

/-! ## The fields of a line -/

structure Timestamp where
  year : Nat
  month : Nat
  day : Nat
  hour : Nat
  minute : Nat
  second : Nat
deriving DecidableEq

structure Message where
  pri : Nat
  timestamp : Timestamp
  hostname : List UInt8
  appName : List UInt8
  procId : List UInt8
  msgId : List UInt8
  structuredData : List UInt8
  msg : List UInt8
deriving DecidableEq

/-- A name between spaces. -/
def IsName (name : List UInt8) : Prop := name ≠ [] ∧ 32 ∉ name

instance (name : List UInt8) : Decidable (IsName name) :=
  inferInstanceAs (Decidable (name ≠ [] ∧ 32 ∉ name))

/-! ## Reading a line -/

/-- The priority and the version. -/
def readPri : List UInt8 → Option (Nat × List UInt8)
  | 60 :: bs =>
      match bs.dropWhile isDigit with
      | 62 :: 49 :: rest => (leadingNumber bs).map fun pri => (pri, rest)
      | _ => none
  | _ => none

/-- The next field, behind its space. -/
def readField : List UInt8 → Option (List UInt8 × List UInt8)
  | 32 :: bs =>
      let name := bs.takeWhile (· != 32)
      if name.isEmpty then none else some (name, bs.dropWhile (· != 32))
  | _ => none

/-- A byte that has to be there. -/
def readByte (b : UInt8) : List UInt8 → Option (List UInt8)
  | c :: bs => if c = b then some bs else none
  | [] => none

/-- A number of `k` digits. -/
def readDigits (k : Nat) (bs : List UInt8) : Option (Nat × List UInt8) :=
  if (bs.take k).length = k ∧ (bs.take k).all isDigit = true then
    some (ofDigits (bs.take k), bs.drop k)
  else
    none

/-- The parts of a second. -/
def readSecfrac : List UInt8 → Option (List UInt8)
  | 46 :: bs =>
      let digits := bs.takeWhile isDigit
      if 1 ≤ digits.length ∧ digits.length ≤ 6 then some (bs.dropWhile isDigit) else none
  | bs => some bs

def readTimestamp (bs : List UInt8) : Option Timestamp := do
  let (year, bs) ← readDigits 4 bs
  let bs ← readByte 45 bs
  let (month, bs) ← readDigits 2 bs
  let bs ← readByte 45 bs
  let (day, bs) ← readDigits 2 bs
  let bs ← readByte 84 bs
  let (hour, bs) ← readDigits 2 bs
  let bs ← readByte 58 bs
  let (minute, bs) ← readDigits 2 bs
  let bs ← readByte 58 bs
  let (second, bs) ← readDigits 2 bs
  let bs ← readSecfrac bs
  if bs = [90] then some { year, month, day, hour, minute, second } else none

/-- Where a reader of structured data stands. -/
inductive SdState where
  | between
  | element
  | quoted

/-- Elements in brackets; a value in quotes may hold a bracket. -/
def readSdElements : SdState → List UInt8 → Option (List UInt8 × List UInt8)
  | .between, 91 :: bs => (readSdElements .element bs).map (Prod.map (91 :: ·) id)
  | .between, bs => some ([], bs)
  | .element, 93 :: bs => (readSdElements .between bs).map (Prod.map (93 :: ·) id)
  | .element, 34 :: bs => (readSdElements .quoted bs).map (Prod.map (34 :: ·) id)
  | .element, b :: bs => (readSdElements .element bs).map (Prod.map (b :: ·) id)
  | .quoted, 34 :: bs => (readSdElements .element bs).map (Prod.map (34 :: ·) id)
  | .quoted, 92 :: b :: bs => (readSdElements .quoted bs).map (Prod.map (92 :: b :: ·) id)
  | .quoted, b :: bs => (readSdElements .quoted bs).map (Prod.map (b :: ·) id)
  | _, [] => none

/-- The structured data behind its space: elements, or a hyphen. -/
def readStructuredData : List UInt8 → Option (List UInt8 × List UInt8)
  | 32 :: 45 :: bs => some ([45], bs)
  | 32 :: 91 :: bs => readSdElements .between (91 :: bs)
  | _ => none

/-- The message behind its space and before the end of the line, if there is one. -/
def readMsg : List UInt8 → Option (List UInt8)
  | [10] => some []
  | 32 :: bs => if bs.getLast? = some 10 then some bs.dropLast else none
  | _ => none

def parse (line : List UInt8) : Option Message := do
  let (pri, bs) ← readPri line
  let (timestamp, bs) ← readField bs
  let timestamp ← readTimestamp timestamp
  let (hostname, bs) ← readField bs
  let (appName, bs) ← readField bs
  let (procId, bs) ← readField bs
  let (msgId, bs) ← readField bs
  let (structuredData, bs) ← readStructuredData bs
  let msg ← readMsg bs
  return { pri, timestamp, hostname, appName, procId, msgId, structuredData, msg }

/-! ## Writing one -/

/-- A number of `k` digits, with zeros in front. -/
def padded (k n : Nat) : List UInt8 := List.replicate (k - (decimal n).length) 48 ++ decimal n

def formatTimestamp (t : Timestamp) : List UInt8 :=
  padded 4 t.year ++ 45 :: padded 2 t.month ++ 45 :: padded 2 t.day ++ 84 :: padded 2 t.hour ++
    58 :: padded 2 t.minute ++ 58 :: padded 2 t.second ++ [46, 48, 90]

def format (m : Message) : List UInt8 :=
  60 :: decimal m.pri ++ 62 :: 49 :: 32 :: formatTimestamp m.timestamp ++ 32 :: m.hostname ++
    32 :: m.appName ++ 32 :: m.procId ++ 32 :: m.msgId ++ 32 :: m.structuredData ++
    32 :: m.msg ++ [10]

/-- What has a place in a line. -/
structure Timestamp.Fits (t : Timestamp) : Prop where
  year : t.year < 10000
  month : t.month < 100
  day : t.day < 100
  hour : t.hour < 100
  minute : t.minute < 100
  second : t.second < 100

structure Message.Fits (m : Message) : Prop where
  timestamp : m.timestamp.Fits
  hostname : IsName m.hostname
  appName : IsName m.appName
  procId : IsName m.procId
  msgId : IsName m.msgId
  structuredData : ∃ data, m.structuredData = 91 :: data ++ [93] ∧ 93 ∉ data ∧ 34 ∉ data

/-! ## What is written is read back -/

theorem readField_append (h : IsName name) (rest : List UInt8) :
    readField (32 :: (name ++ 32 :: rest)) = some (name, 32 :: rest) := by
  obtain ⟨hne, hspace⟩ := h
  have hall : ∀ b ∈ name, (b != 32) = true := by
    intro b hb
    rw [bne_iff_ne]
    rintro rfl
    contradiction
  rw [readField, List.takeWhile_append_of_pos hall,
    List.dropWhile_append_of_pos hall]
  simp [hne]

/-- A field begins right behind its space. -/
theorem head?_of_readField (h : readField (32 :: b :: bs) = some (name, rest)) :
    name.head? = some b := by
  by_cases hb : b = 32
  · simp [readField, hb] at h
  · simp [readField, hb] at h
    rw [← h.1]
    rfl

theorem readPri_append (pri : Nat) (rest : List UInt8) :
    readPri (60 :: (decimal pri ++ 62 :: 49 :: rest)) = some (pri, rest) := by
  obtain ⟨htake, hdrop⟩ := takeWhile_decimal_append (n := pri) (by decide : isDigit 62 = false)
    (49 :: rest)
  rw [readPri, hdrop]
  simp [leadingNumber, htake, decimal_ne_nil, ofDigits_decimal]

theorem length_padded (h : n < Nat.pow 10 k) (hk : 0 < k) : (padded k n).length = k := by
  have hle := (length_decimal_le_iff hk).mpr h
  simp [padded]
  omega

theorem isDigit_of_mem_padded (h : b ∈ padded k n) : isDigit b = true := by
  rw [padded, List.mem_append, List.mem_replicate] at h
  obtain ⟨-, rfl⟩ | hb := h
  · rfl
  · exact isDigit_of_mem_decimal hb

theorem ofDigits_padded (k n : Nat) : ofDigits (padded k n) = n := by
  have hzeros : ∀ j, ofDigits (List.replicate j 48) = 0 := by
    intro j
    induction j with
    | zero => rfl
    | succ j ih => rwa [List.replicate_succ, ofDigits, List.foldl_cons]
  have hsplit := ofDigits_decimal n
  rw [ofDigits] at hsplit ⊢
  rw [padded, List.foldl_append, ← ofDigits, hzeros, hsplit]

theorem readDigits_append (h : n < Nat.pow 10 k) (hk : 0 < k) (rest : List UInt8) :
    readDigits k (padded k n ++ rest) = some (n, rest) := by
  have hlen := length_padded h hk
  have htake : (padded k n ++ rest).take k = padded k n := List.take_left' hlen
  have hdrop : (padded k n ++ rest).drop k = rest := List.drop_left' hlen
  have hall : (padded k n).all isDigit = true :=
    List.all_eq_true.mpr fun b hb => isDigit_of_mem_padded hb
  simp [readDigits, htake, hdrop, hlen, hall, ofDigits_padded]

theorem readByte_cons (b : UInt8) (rest : List UInt8) : readByte b (b :: rest) = some rest := by
  simp [readByte]

/-- The two widths of a time. -/
theorem readDigits_two (h : n < 100) (rest : List UInt8) :
    readDigits 2 (padded 2 n ++ rest) = some (n, rest) :=
  readDigits_append h (by decide) rest

theorem readDigits_four (h : n < 10000) (rest : List UInt8) :
    readDigits 4 (padded 4 n ++ rest) = some (n, rest) :=
  readDigits_append h (by decide) rest

theorem readTimestamp_format {t : Timestamp} (h : t.Fits) :
    readTimestamp (formatTimestamp t) = some t := by
  have hsecfrac : readSecfrac [46, 48, 90] = some [90] := by decide
  simp only [formatTimestamp, List.append_assoc, List.cons_append, readTimestamp]
  simp only [readDigits_four h.year, readDigits_two h.month, readDigits_two h.day,
    readDigits_two h.hour, readDigits_two h.minute, readDigits_two h.second, readByte_cons,
    hsecfrac, Option.bind_eq_bind, Option.bind_some, if_true]

/-- A time is a name between spaces. -/
theorem isName_formatTimestamp (t : Timestamp) : IsName (formatTimestamp t) := by
  have hdigits : ∀ k n, 32 ∉ padded k n := by
    intro k n hm
    exact absurd (isDigit_of_mem_padded hm) (by decide)
  constructor
  · simp [formatTimestamp]
  · simp [formatTimestamp, hdigits]

/-- An element that holds neither a bracket nor quotes. -/
theorem readStructuredData_element (h : 93 ∉ data) (hquote : 34 ∉ data) (rest : List UInt8) :
    readStructuredData (32 :: 91 :: (data ++ 93 :: 32 :: rest)) =
      some (91 :: data ++ [93], 32 :: rest) := by
  have helement : readSdElements .element (data ++ 93 :: 32 :: rest) =
      some (data ++ [93], 32 :: rest) := by
    induction data with
    | nil => simp [readSdElements]
    | cons b data ih =>
        simp only [List.mem_cons, not_or] at h hquote
        grind [readSdElements]
  simp [readStructuredData, readSdElements, helement]

/-- Lines are read back. -/
theorem parse_format {m : Message} (h : m.Fits) : parse (format m) = some m := by
  obtain ⟨data, hdata, hbracket, hquote⟩ := h.structuredData
  have hmsg : readMsg (32 :: (m.msg ++ [10])) = some m.msg := by simp [readMsg]
  have helement := readStructuredData_element hbracket hquote (m.msg ++ [10])
  simp only [format, hdata, List.append_assoc, List.cons_append, List.nil_append]
  simp only [parse, readPri_append, readField_append (isName_formatTimestamp m.timestamp),
    readTimestamp_format h.timestamp, readField_append h.hostname, readField_append h.appName,
    readField_append h.procId, readField_append h.msgId, helement, hmsg, Option.bind_eq_bind,
    Option.bind_some, ← hdata]
  rfl

end Toucan.Rfc5424
