import Toucan.Lib.BigEndian
import Toucan.Lib.Crc16
import Toucan.Lib.HttpMessage
import Toucan.Lib.Wire
import Toucan.Mqtt.VariableByteInteger

/-!
# Toucan.Mqtt.Buffer

The cursors that packets are written and read with (`rust-mqtt`,
`utils/buffer_writer.rs`, `utils/buffer_reader.rs`), and the values of
`utils/types.rs`.

What a writer puts down its reader takes up again, with one exception:
`read_binary` does not move the cursor over the data (`reads_readBinary`).
-/

namespace Toucan.Mqtt

open HttpMessage

/-! ## Values -/

structure EncodedString where
  string : String
  len : UInt16
deriving DecidableEq

def EncodedString.new : EncodedString := ⟨"", 0⟩

def EncodedString.encodedLen (s : EncodedString) : UInt16 := s.len + 2

structure BinaryData where
  bin : List UInt8
  len : UInt16
deriving DecidableEq

def BinaryData.new : BinaryData := ⟨[0], 0⟩

def BinaryData.encodedLen (b : BinaryData) : UInt16 := b.len + 2

structure StringPair where
  name : EncodedString
  value : EncodedString
deriving DecidableEq

def StringPair.encodedLen (p : StringPair) : UInt16 := p.name.encodedLen + p.value.encodedLen

structure TopicFilter where
  filter : EncodedString
  subOptions : UInt8
deriving DecidableEq

def TopicFilter.new : TopicFilter := ⟨.new, 0⟩

/-- `u32::to_be_bytes` -/
def toBeBytes32 (n : UInt32) : List UInt8 := BigEndian.encode 4 n.toNat

/-! ## `BuffWriter` -/

structure BuffWriter where
  buffer : List UInt8
  position : Nat
  len : Nat

namespace BuffWriter

def new (buffer : List UInt8) (buffLen : Nat) : BuffWriter := ⟨buffer, 0, buffLen⟩

/-- What is written so far. -/
def written (w : BuffWriter) : List UInt8 := w.buffer.take w.position

/-- Writes (part of) an array to the buffer. -/
def insertRef (len : Nat) (array : List UInt8) : Method BuffWriter Fault Unit := fun w =>
  if w.position + len > w.len then (.error (.error .insufficientBufferSize), w)
  -- the ranges of the two slices
  else if w.position + len ≤ w.buffer.length ∧ len ≤ array.length then
    (.ok (), { w with
      buffer := w.buffer.take w.position ++ array.take len ++ w.buffer.drop (w.position + len)
      position := w.position + len })
  else (.error .panic, w)

/-- Writes a single Byte to the buffer. -/
def writeU8 (byte : UInt8) : Method BuffWriter Fault Unit := fun w =>
  if w.position ≥ w.len then (.error (.error .insufficientBufferSize), w)
  else if w.position < w.buffer.length then
    (.ok (), { w with buffer := w.buffer.set w.position byte, position := w.position + 1 })
  else (.error .panic, w)

def writeU16 (twoBytes : UInt16) : Method BuffWriter Fault Unit := insertRef 2 (toBeBytes twoBytes)

def writeU32 (fourBytes : UInt32) : Method BuffWriter Fault Unit :=
  insertRef 4 (toBeBytes32 fourBytes)

def writeStringRef (str : EncodedString) : Method BuffWriter Fault Unit := do
  writeU16 str.len
  if str.len ≠ 0 then insertRef str.len.toNat (asBytes str.string)

def writeBinaryRef (bin : BinaryData) : Method BuffWriter Fault Unit := do
  writeU16 bin.len
  insertRef bin.len.toNat bin.bin

def writeStringPairRef (strPair : StringPair) : Method BuffWriter Fault Unit := do
  writeStringRef strPair.name
  writeStringRef strPair.value

/-- A result at hand, or the early return with its error. -/
def ofExcept {σ : Type} (r : Except Fault α) : Method σ Fault α := fun s => (r, s)

def writeVariableByteInt (int : UInt32) : Method BuffWriter Fault Unit := do
  let x ← ofExcept (VariableByteIntegerEncoder.encode int)
  let len ← ofExcept (VariableByteIntegerEncoder.len x)
  insertRef len x.toList

/-- The loop of `get_rem_len` over the bytes behind the first, from the `i`-th to the `max`-th;
`none` is the error. -/
def remLenLoop (max : Nat) : Nat → List UInt8 → Option (List UInt8)
  | _, [] => none
  | i, b :: bs =>
    if b &&& 0x80 = 0 then some [b]
    else if i = max ∧ i ≠ 4 then none
    else if i = max then some [b]
    else (remLenLoop max (i + 1) bs).map (b :: ·)

/-- Return the remaining lenght of the packet from the buffer to which is packet written. -/
def getRemLen (w : BuffWriter) : Option VariableByteInteger :=
  let max := if w.position ≥ 5 then 4 else w.position - 1
  (remLenLoop max 1 (w.written.drop 1)).map .ofBytes

/-- `write_topic_filter_ref` -/
def writeTopicFilterRef (sub : Bool) (topicFilter : TopicFilter) :
    Method BuffWriter Fault Unit := do
  writeStringRef topicFilter.filter
  if sub then writeU8 topicFilter.subOptions

def writeTopicFiltersRef (sub : Bool) (filters : List TopicFilter) :
    Method BuffWriter Fault Unit :=
  filters.forM (writeTopicFilterRef sub)

end BuffWriter

/-! ## `BuffReader` -/

structure BuffReader where
  buffer : List UInt8
  position : Nat
  len : Nat

namespace BuffReader

def new (buffer : List UInt8) (buffLen : Nat) : BuffReader := ⟨buffer, 0, buffLen⟩

def incrementPosition (r : BuffReader) (increment : Nat) : BuffReader :=
  { r with position := r.position + increment }

/-- The next `n` bytes, when they are before the end of the packet. -/
def slice (n : Nat) : Method BuffReader Fault (List UInt8) := fun r =>
  if r.position + n > r.len then (.error (.error .insufficientBufferSize), r)
  else if r.position + n ≤ r.buffer.length then
    (.ok ((r.buffer.drop r.position).take n), r)
  else (.error .panic, r)

/-- The first loop of `read_variable_byte_int`: the bytes up to the first without the
top bit, four at most. -/
def variableBytes (r : BuffReader) : Nat → Nat → Except Fault (List UInt8)
  | 0, _ => .ok []
  | left + 1, x =>
    if r.position + x ≥ r.len then .error (.error .insufficientBufferSize)
    else match r.buffer[r.position + x]? with
      | none => .error .panic
      | some b =>
        if b &&& 0x80 ≠ 0 then (variableBytes r left (x + 1)).map (b :: ·) else .ok [b]

/-- The cursor moves before `decode` in the source; `decode` has no error for an array of
four bytes. -/
def readVariableByteInt : Method BuffReader Fault UInt32 := fun r =>
  match r.variableBytes 4 0 with
  | .error e => (.error e, r)
  | .ok bs =>
    match VariableByteIntegerDecoder.decode (.ofBytes bs) with
    | .error e => (.error e, r)
    | .ok n => (.ok n, r.incrementPosition bs.length)

def readU32 : Method BuffReader Fault UInt32 := do
  let intBytes ← slice 4
  Method.assign (·.incrementPosition 4)
  return UInt32.ofNat (BigEndian.decode intBytes)

def readU16 : Method BuffReader Fault UInt16 := do
  let intBytes ← slice 2
  Method.assign (·.incrementPosition 2)
  return UInt16.ofNat (BigEndian.decode intBytes)

def readU8 : Method BuffReader Fault UInt8 := fun r =>
  if r.position ≥ r.len then (.error (.error .insufficientBufferSize), r)
  else match r.buffer[r.position]? with
    | some b => (.ok b, r.incrementPosition 1)
    | none => (.error .panic, r)

def readString : Method BuffReader Fault EncodedString := do
  let len ← readU16
  let bytes ← slice len.toNat
  match fromUtf8 bytes with
  | some string =>
    Method.assign (·.incrementPosition len.toNat)
    return ⟨string, len⟩
  | none => BuffWriter.ofExcept (.error (.error .utf8Error))

/-- The data stay ahead of the cursor. -/
def readBinary : Method BuffReader Fault BinaryData := do
  let len ← readU16
  let bin ← slice len.toNat
  return ⟨bin, len⟩

def readStringPair : Method BuffReader Fault StringPair := do
  let name ← readString
  let value ← readString
  return ⟨name, value⟩

/-- Read payload message from buffer; `none` is the panic on a range that ends before it
begins, or behind the buffer. -/
def readMessage (r : BuffReader) (totalLen : Nat) : Option (List UInt8) :=
  let stop := if totalLen > r.len then r.len else totalLen
  if r.position ≤ stop ∧ stop ≤ r.buffer.length then
    some ((r.buffer.take stop).drop r.position)
  else none

/-- Peeking (without incremental internal pointer) one byte from buffer -/
def peekU8 (r : BuffReader) : Except Fault UInt8 :=
  if r.position ≥ r.len then .error (.error .insufficientBufferSize)
  else match r.buffer[r.position]? with
    | some b => .ok b
    | none => .error .panic

end BuffReader

/-! ## What is written -/

namespace BuffWriter

/-- A writer on a buffer that is not shorter than it says. -/
def sheet : Sheet BuffWriter UInt8 where
  written := written
  room w := w.len - w.position
  extent w := w.buffer.length
  valid w := w.position ≤ w.len ∧ w.len ≤ w.buffer.length

theorem valid_new {buffer : List UInt8} {buffLen : Nat} (h : buffLen ≤ buffer.length) :
    sheet.valid (new buffer buffLen) := ⟨Nat.zero_le _, h⟩

@[simp] theorem written_new (buffer : List UInt8) (buffLen : Nat) :
    (new buffer buffLen).written = [] := List.take_zero

/-- The error of a full buffer. -/
abbrev full : Fault := .error .insufficientBufferSize

theorem length_written {w : BuffWriter} (h : sheet.valid w) : w.written.length = w.position := by
  have hpos := h.1
  have hlen := h.2
  rw [written, List.length_take]
  omega

theorem writes_insertRef {len : Nat} {array : List UInt8} (h : len ≤ array.length) :
    sheet.Writes full (insertRef len array) (array.take len) := by
  intro w hw
  have hpos := hw.1
  have hlen := hw.2
  have hroom : sheet.room w = w.len - w.position := rfl
  have htake : (array.take len).length = len := by
    rw [List.length_take]
    omega
  rw [htake, hroom, insertRef]
  constructor
  · intro hle
    have hfront : (w.buffer.take w.position).length = w.position := length_written hw
    rw [if_neg (by omega), if_pos ⟨by omega, h⟩]
    refine ⟨_, rfl, ?_, ?_, ?_, ?_⟩
    · simp only [sheet, written]
      rw [List.append_assoc, List.take_append, hfront, List.take_append, htake]
      simp only [List.take_take, Nat.add_sub_cancel_left, Nat.sub_self, List.take_zero,
        List.append_nil]
      rw [Nat.min_eq_right (by omega), Nat.min_self]
    · simp only [sheet, htake]
      omega
    · simp only [sheet, List.length_append, List.length_drop, htake, hfront]
      omega
    · simp only [sheet, List.length_append, List.length_drop, htake, hfront]
      omega
  · intro hlt
    rw [if_pos (by omega)]
    exact ⟨w, rfl⟩

theorem writes_of_insertRef_eq {m : Method BuffWriter Fault Unit} {bs : List UInt8}
    (h : ∀ w, sheet.valid w → m w = insertRef bs.length bs w) : sheet.Writes full m bs := by
  intro w hw
  have hwrites := writes_insertRef (Nat.le_refl bs.length) w hw
  rw [List.take_length] at hwrites
  rw [h w hw]
  exact hwrites

theorem writes_writeU8 (byte : UInt8) : sheet.Writes full (writeU8 byte) [byte] := by
  apply writes_of_insertRef_eq
  intro w hw
  have hpos := hw.1
  have hlen := hw.2
  rw [writeU8, insertRef, List.length_singleton]
  by_cases hroom : w.position ≥ w.len
  · rw [if_pos hroom, if_pos (by omega)]
  · rw [if_neg hroom, if_pos (by omega), if_neg (by omega), if_pos ⟨by omega, Nat.le_refl 1⟩]
    rw [List.set_eq_take_append_cons_drop, if_pos (by omega)]
    simp

theorem writes_writeU16 (n : UInt16) : sheet.Writes full (writeU16 n) (toBeBytes n) :=
  writes_insertRef (Nat.le_refl 2)

theorem writes_writeU32 (n : UInt32) : sheet.Writes full (writeU32 n) (toBeBytes32 n) := by
  have h : sheet.Writes full (writeU32 n) ((toBeBytes32 n).take 4) :=
    writes_insertRef (by simp [toBeBytes32])
  rwa [List.take_of_length_le (by simp [toBeBytes32])] at h

theorem ofExcept_ok_bind {σ : Type} (a : α) (k : α → Method σ Fault γ) :
    (ofExcept (.ok a) >>= k) = k a := rfl

theorem writes_writeVariableByteInt {n : UInt32} (h : n.toNat ≤ 268435455) :
    sheet.Writes full (writeVariableByteInt n) (VarInt.encode 4 n.toNat) := by
  have hsplit := split_encode h []
  have hlist : (VariableByteInteger.ofBytes (VarInt.encode 4 n.toNat)).toList.take
      (VarInt.encode 4 n.toNat).length = VarInt.encode 4 n.toNat := by
    have hle := VarInt.length_encode_le 4 n.toNat
    simp [VariableByteInteger.ofBytes, List.take_append, List.take_of_length_le hle]
  have hroom : (VarInt.encode 4 n.toNat).length ≤
      (VariableByteInteger.ofBytes (VarInt.encode 4 n.toNat)).toList.length := by
    rw [Vector.length_toList]
    exact VarInt.length_encode_le 4 n.toNat
  have hwrites := writes_insertRef hroom
  rw [hlist] at hwrites
  rw [writeVariableByteInt, encode_eq_ok h, ofExcept_ok_bind, len_ofBytes hsplit,
    ofExcept_ok_bind]
  exact hwrites

end BuffWriter

/-! ### Values as bytes -/

/-- The length field tells no more than there is. -/
def EncodedString.Fits (s : EncodedString) : Prop := s.len.toNat ≤ (asBytes s.string).length

/-- The length field is the length. -/
def EncodedString.Exact (s : EncodedString) : Prop := s.len.toNat = (asBytes s.string).length

/-- The length field and what is written behind it. -/
def EncodedString.bytes (s : EncodedString) : List UInt8 :=
  toBeBytes s.len ++ (asBytes s.string).take s.len.toNat

def BinaryData.Fits (b : BinaryData) : Prop := b.len.toNat ≤ b.bin.length

def BinaryData.Exact (b : BinaryData) : Prop := b.len.toNat = b.bin.length

def BinaryData.bytes (b : BinaryData) : List UInt8 := toBeBytes b.len ++ b.bin.take b.len.toNat

def StringPair.bytes (p : StringPair) : List UInt8 := p.name.bytes ++ p.value.bytes

def TopicFilter.bytes (sub : Bool) (t : TopicFilter) : List UInt8 :=
  t.filter.bytes ++ if sub then [t.subOptions] else []

theorem EncodedString.length_bytes {s : EncodedString} (h : s.Fits) :
    s.bytes.length = s.len.toNat + 2 := by
  have hle : s.len.toNat ≤ (asBytes s.string).length := h
  rw [bytes, List.length_append, length_toBeBytes, List.length_take]
  omega

theorem BinaryData.length_bytes {b : BinaryData} (h : b.Fits) :
    b.bytes.length = b.len.toNat + 2 := by
  have hle : b.len.toNat ≤ b.bin.length := h
  rw [bytes, List.length_append, length_toBeBytes, List.length_take]
  omega

namespace BuffWriter

theorem writes_writeStringRef {s : EncodedString} (h : s.Fits) :
    sheet.Writes full (writeStringRef s) s.bytes := by
  apply (writes_writeU16 s.len).bind
  by_cases hlen : s.len = 0
  · have hzero : s.len.toNat = 0 := by simp [hlen]
    rw [if_neg (not_not_intro hlen), hzero, List.take_zero]
    exact Sheet.Writes.pure
  · rw [if_pos hlen]
    exact writes_insertRef h

theorem writes_writeBinaryRef {b : BinaryData} (h : b.Fits) :
    sheet.Writes full (writeBinaryRef b) b.bytes :=
  (writes_writeU16 b.len).bind (writes_insertRef h)

theorem writes_writeStringPairRef {p : StringPair} (hname : p.name.Fits) (hvalue : p.value.Fits) :
    sheet.Writes full (writeStringPairRef p) p.bytes :=
  (writes_writeStringRef hname).bind (writes_writeStringRef hvalue)

theorem writes_writeTopicFilterRef (sub : Bool) {t : TopicFilter} (h : t.filter.Fits) :
    sheet.Writes full (writeTopicFilterRef sub t) (t.bytes sub) := by
  apply (writes_writeStringRef h).bind
  cases sub with
  | true => exact writes_writeU8 t.subOptions
  | false => exact Sheet.Writes.pure

theorem writes_writeTopicFiltersRef (sub : Bool) {filters : List TopicFilter}
    (h : ∀ t ∈ filters, t.filter.Fits) :
    sheet.Writes full (writeTopicFiltersRef sub filters)
      (filters.flatMap (TopicFilter.bytes sub)) :=
  Sheet.Writes.forM fun t ht => writes_writeTopicFilterRef sub (h t ht)

end BuffWriter

/-! ## What is read -/

namespace BuffReader

/-- The packet on both sides of the cursor, in a buffer that is not shorter. -/
def tape : Tape BuffReader UInt8 where
  behind r := (r.buffer.take r.len).take r.position
  ahead r := (r.buffer.take r.len).drop r.position
  valid r := r.position ≤ r.len ∧ r.len ≤ r.buffer.length

theorem valid_new {buffer : List UInt8} {buffLen : Nat} (h : buffLen ≤ buffer.length) :
    tape.valid (new buffer buffLen) := ⟨Nat.zero_le _, h⟩

@[simp] theorem ahead_new (buffer : List UInt8) (buffLen : Nat) :
    tape.ahead (new buffer buffLen) = buffer.take buffLen := rfl

@[simp] theorem behind_new (buffer : List UInt8) (buffLen : Nat) :
    tape.behind (new buffer buffLen) = [] := by
  simp [tape, new]

variable {r : BuffReader} {xs rest : List UInt8}

theorem length_ahead (hr : tape.valid r) : (tape.ahead r).length = r.len - r.position := by
  have hlen := hr.2
  simp only [tape, List.length_drop, List.length_take]
  omega

theorem length_behind (hr : tape.valid r) : (tape.behind r).length = r.position := by
  have hpos := hr.1
  have hlen := hr.2
  simp only [tape, List.length_take]
  omega

/-- What is ahead is before the end of the packet. -/
theorem room_of_ahead (hr : tape.valid r) (h : tape.ahead r = xs ++ rest) :
    r.position + xs.length ≤ r.len := by
  have hpos := hr.1
  have hlen := length_ahead hr
  rw [h, List.length_append] at hlen
  omega

theorem moved_incrementPosition (hr : tape.valid r) (h : tape.ahead r = xs ++ rest) :
    tape.Moved r xs (r.incrementPosition xs.length) where
  ahead := by
    have hdrop : tape.ahead (r.incrementPosition xs.length) =
        (tape.ahead r).drop xs.length := by
      simp [tape, incrementPosition, List.drop_drop]
    rw [hdrop, h, List.drop_left]
  behind := by
    have htake : tape.behind (r.incrementPosition xs.length) =
        tape.behind r ++ (tape.ahead r).take xs.length := List.take_add
    rw [htake, h, List.take_left]
  valid := ⟨room_of_ahead hr h, hr.2⟩

/-- A slice leaves the cursor where it is. -/
theorem slice_eq (hr : tape.valid r) (h : tape.ahead r = xs ++ rest) :
    slice xs.length r = (.ok xs, r) := by
  have hroom := room_of_ahead hr h
  have hlen := hr.2
  have htake : (r.buffer.drop r.position).take xs.length = (tape.ahead r).take xs.length := by
    simp only [tape, List.drop_take, List.take_take]
    rw [Nat.min_eq_left (by omega)]
  rw [slice, if_neg (by omega), if_pos (by omega), htake, h, List.take_left]

/-- A value of `xs.length` bytes. -/
theorem reads_slice {f : List UInt8 → α} (xs : List UInt8) :
    tape.Reads (do
      let bs ← slice xs.length
      Method.assign (·.incrementPosition xs.length)
      return f bs) xs (f xs) := by
  intro r rest hr h
  refine ⟨r.incrementPosition xs.length, ?_, moved_incrementPosition hr h⟩
  rw [Method.bind_of_ok (slice_eq hr h)]
  rfl

theorem reads_readU8 (b : UInt8) : tape.Reads readU8 [b] b := by
  intro r rest hr h
  have hroom := room_of_ahead hr h
  rw [List.length_singleton] at hroom
  have hget : r.buffer[r.position]? = some b := by
    have hhead : (tape.ahead r)[0]? = some b := by rw [h]; rfl
    simpa [tape, List.getElem?_take, show r.position < r.len by omega] using hhead
  refine ⟨r.incrementPosition 1, ?_, moved_incrementPosition hr h⟩
  rw [readU8, if_neg (by omega), hget]

theorem toBeBytes_eq (n : UInt16) : toBeBytes n = BigEndian.encode 2 n.toNat := rfl

theorem reads_readU16 (n : UInt16) : tape.Reads readU16 (toBeBytes n) n := by
  have hnat : BigEndian.decode (toBeBytes n) = n.toNat := by
    rw [toBeBytes_eq]
    exact BigEndian.decode_encode n.toNat_lt
  have h := reads_slice (f := fun bs => UInt16.ofNat (BigEndian.decode bs)) (toBeBytes n)
  simp only [hnat, UInt16.ofNat_toNat] at h
  exact h

theorem length_toBeBytes32 (n : UInt32) : (toBeBytes32 n).length = 4 := BigEndian.length_encode 4 _

theorem reads_readU32 (n : UInt32) : tape.Reads readU32 (toBeBytes32 n) n := by
  have hnat : BigEndian.decode (toBeBytes32 n) = n.toNat := BigEndian.decode_encode n.toNat_lt
  have h := reads_slice (f := fun bs => UInt32.ofNat (BigEndian.decode bs)) (toBeBytes32 n)
  simp only [hnat, UInt32.ofNat_toNat, length_toBeBytes32] at h
  exact h

/-! ### Variable lengths -/

theorem drop_cons_of_getElem? {l : List α} {x : Nat} {a : α} (h : l[x]? = some a) :
    l.drop x = a :: l.drop (x + 1) := by
  obtain ⟨hx, rfl⟩ := List.getElem?_eq_some_iff.mp h
  exact List.drop_eq_getElem_cons hx

theorem variableBytes_eq (hr : tape.valid r) (left x : Nat) :
    r.variableBytes left x = match VarInt.split left ((tape.ahead r).drop x) with
      | some (code, _) => .ok code
      | none =>
        if ((tape.ahead r).drop x).length < left then .error (.error .insufficientBufferSize)
        else .ok (((tape.ahead r).drop x).take left) := by
  have hlen := hr.2
  have hahead := length_ahead hr
  induction left generalizing x with
  | zero => simp [variableBytes, VarInt.split]
  | succ left ih =>
      rw [variableBytes]
      by_cases hend : r.position + x ≥ r.len
      · have hnil : (tape.ahead r).drop x = [] := List.drop_eq_nil_of_le (by omega)
        rw [if_pos hend, hnil]
        rfl
      · have hget : (tape.ahead r)[x]? = r.buffer[r.position + x]? := by
          simp [tape, show r.position + x < r.len by omega]
        rw [if_neg hend]
        cases hb : r.buffer[r.position + x]? with
        | none =>
            rw [List.getElem?_eq_none_iff] at hb
            omega
        | some b =>
            rw [drop_cons_of_getElem? (hget.trans hb), split_succ_cons]
            simp only [ne_eq, and_128_eq_zero_iff]
            by_cases hlow : b < 128
            · simp [hlow]
            · rw [if_pos hlow, if_neg hlow, ih]
              cases VarInt.split left ((tape.ahead r).drop (x + 1)) with
              | some c => rfl
              | none =>
                  simp only [Option.map_none, List.length_cons, Nat.add_lt_add_iff_right]
                  split <;> rfl

/-- Four bytes with the top bit are no code. -/
theorem split_take_eq_none {w : Nat} {bs : List UInt8} (h : VarInt.split w bs = none) :
    VarInt.split w (bs.take w) = none := by
  cases hs : VarInt.split w (bs.take w) with
  | none => rfl
  | some c =>
      have hwhole := VarInt.split_append hs (c.2 ++ bs.drop w)
      rw [← List.append_assoc, ← (VarInt.split_eq_some hs).1, List.take_append_drop, h] at hwhole
      contradiction

/-- The integer that is ahead; where there is none, the reader fails at the end of the
packet and panics behind four bytes with the top bit. -/
theorem readVariableByteInt_eq (hr : tape.valid r) :
    readVariableByteInt r = match VarInt.split 4 (tape.ahead r) with
      | some (code, _) => (.ok (UInt32.ofNat (VarInt.value code)), r.incrementPosition code.length)
      | none => if (tape.ahead r).length < 4 then (.error (.error .insufficientBufferSize), r)
        else (.error .panic, r) := by
  rw [readVariableByteInt, variableBytes_eq hr, List.drop_zero]
  cases hs : VarInt.split 4 (tape.ahead r) with
  | some c => simp only [decode_ofBytes hs]
  | none =>
      by_cases hshort : (tape.ahead r).length < 4
      · simp [hshort]
      · have hfour : (VariableByteInteger.ofBytes ((tape.ahead r).take 4)).toList =
            (tape.ahead r).take 4 := by
          simp [VariableByteInteger.ofBytes,
            Nat.min_eq_left (show 4 ≤ (tape.ahead r).length by omega)]
        simp only [hshort, if_false, decode_eq, hfour, split_take_eq_none hs]

/-- Any code, not only the shortest. -/
theorem reads_code {code zeros : List UInt8}
    (h : VarInt.split 4 (code ++ zeros) = some (code, zeros)) :
    tape.Reads readVariableByteInt code (UInt32.ofNat (VarInt.value code)) := by
  intro r rest hr hs
  refine ⟨r.incrementPosition code.length, ?_, moved_incrementPosition hr hs⟩
  rw [readVariableByteInt_eq hr, hs, VarInt.split_append h rest]

theorem reads_readVariableByteInt {n : UInt32} (h : n.toNat ≤ 268435455) :
    tape.Reads readVariableByteInt (VarInt.encode 4 n.toNat) n := by
  have hval : VarInt.value (VarInt.encode 4 n.toNat) = n.toNat :=
    VarInt.value_encode (by rw [limit_four]; omega)
  have hreads := reads_code (split_encode h [])
  rwa [hval, UInt32.ofNat_toNat] at hreads

/-! ### Texts and data -/

theorem reads_readString {s : EncodedString} (h : s.Exact) :
    tape.Reads readString s.bytes s := by
  have hlen : s.len.toNat = (asBytes s.string).length := h
  have htext : (asBytes s.string).take s.len.toNat = asBytes s.string :=
    List.take_of_length_le (by omega)
  rw [EncodedString.bytes, htext]
  apply (reads_readU16 s.len).bind
  intro r rest hr hs
  refine ⟨r.incrementPosition s.len.toNat, ?_, ?_⟩
  · rw [hlen, Method.bind_of_ok (slice_eq hr hs), fromUtf8_asBytes]
    rfl
  · rw [hlen]
    exact moved_incrementPosition hr hs

theorem reads_readStringPair {p : StringPair} (hname : p.name.Exact) (hvalue : p.value.Exact) :
    tape.Reads readStringPair p.bytes p :=
  (reads_readString hname).bind (reads_readString hvalue).map

/-- The data are returned, and read again by the next call. -/
theorem reads_readBinary {b : BinaryData} (h : b.Exact) (hr : tape.valid r)
    (hs : tape.ahead r = b.bytes ++ rest) :
    ∃ r', readBinary r = (.ok b, r') ∧ tape.Moved r (toBeBytes b.len) r' := by
  have hlen : b.len.toNat = b.bin.length := h
  have hdata : b.bin.take b.len.toNat = b.bin := List.take_of_length_le (by omega)
  rw [BinaryData.bytes, hdata, List.append_assoc] at hs
  obtain ⟨r', hread, hmoved⟩ := reads_readU16 b.len r (b.bin ++ rest) hr hs
  refine ⟨r', ?_, hmoved⟩
  rw [readBinary, Method.bind_of_ok hread, hlen,
    Method.bind_of_ok (slice_eq hmoved.valid (hmoved.ahead_eq hs))]
  rfl

/-! ### The rest of a packet -/

/-- The payload is what is left up to the end of the packet. -/
theorem readMessage_eq (hr : tape.valid r) {totalLen : Nat} (hpos : r.position ≤ totalLen) :
    r.readMessage totalLen = some ((tape.ahead r).take (totalLen - r.position)) := by
  have hpos' := hr.1
  have hlen := hr.2
  have htake : (tape.ahead r).take (totalLen - r.position) =
      (r.buffer.drop r.position).take (min (totalLen - r.position) (r.len - r.position)) := by
    simp only [tape, List.drop_take, List.take_take]
  rw [readMessage, htake]
  by_cases hlong : totalLen > r.len
  · simp only [if_pos hlong]
    rw [if_pos ⟨hpos', hlen⟩, List.drop_take, Nat.min_eq_right (by omega)]
  · simp only [if_neg hlong]
    rw [if_pos ⟨hpos, by omega⟩, List.drop_take, Nat.min_eq_left (by omega)]

theorem readMessage_eq_none (hr : tape.valid r) {totalLen : Nat} (hpos : totalLen < r.position) :
    r.readMessage totalLen = none := by
  have hpos' := hr.1
  rw [readMessage, if_neg (show ¬ totalLen > r.len by omega), if_neg (by omega)]

end BuffReader

end Toucan.Mqtt
