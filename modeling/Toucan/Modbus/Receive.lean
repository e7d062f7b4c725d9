import Toucan.Modbus.Models

/-!
# Toucan.Modbus.Receive

What `ModbusRtu::receive` makes of the responses on the RS485 line.  It guesses
the length of every response from its third byte, which is the byte count of a
read response -- and something else in a write echo or an exception.

`receivesExactly_iff` says for which responses the guess is right; then, whatever
follows on the line, `receive` takes the response and nothing else.
-/

namespace Toucan.Modbus

open Async

/-! ## The serial line -/

/-- The first `n` bytes of a stream. -/
def takeVector (stream : List UInt8) (n : Nat) (h : n ≤ stream.length) : Vector UInt8 n :=
  ⟨(stream.take n).toArray, by rw [List.size_toArray, List.length_take, Nat.min_eq_left h]⟩

@[simp] theorem toList_takeVector (stream : List UInt8) (n : Nat) (h : n ≤ stream.length) :
    (takeVector stream n h).toList = stream.take n := rfl

/-- A line that hands out its bytes in order, and makes a read wait when it has
no more. -/
def line : Handler (List UInt8) Ans
  | .uartRead n, stream =>
    if h : n ≤ stream.length then some (.ok (takeVector stream n h), stream.drop n) else none
  | .uartReadUntilIdle n, stream =>
    if h : n ≤ stream.length then some ((.ok n, takeVector stream n h), stream.drop n) else none
  | .uartFlush, stream => some (.ok (), stream)
  | .uartWrite _, stream => some (.ok (), stream)
  | .sockReadExact _, _ => none
  | .sockRead _, _ => none
  | .sockWrite _, _ => none

/-! ## Well-formed responses -/

/-- A Modbus RTU response, by shape. -/
inductive RtuResponse where
  /-- Functions 1 to 4: a byte count and that many bytes. -/
  | read (unit function : UInt8) (hf : function ∈ [1, 2, 3, 4]) (data : List UInt8)
      (hd : data.length ≤ 255)
  /-- Functions 5, 6, 15 and 16: four bytes of the request. -/
  | writeEcho (unit function : UInt8) (hf : function ∈ [5, 6, 15, 16]) (body : Vector UInt8 4)
  /-- Any function with the error bit: one code byte. -/
  | exception (unit function : UInt8) (hf : function &&& 0x80 = 0x80) (code : UInt8)

/-- The bytes before the CRC. -/
def RtuResponse.payload : RtuResponse → List UInt8
  | .read unit function _ data _ => unit :: function :: UInt8.ofNat data.length :: data
  | .writeEcho unit function _ body => unit :: function :: body.toList
  | .exception unit function _ code => [unit, function, code]

/-- The frame on the line. -/
def RtuResponse.bytes (r : RtuResponse) : List UInt8 := r.payload ++ createCrc r.payload

/-- The byte `receive` takes for a byte count. -/
def RtuResponse.third : RtuResponse → UInt8
  | .read _ _ _ data _ => UInt8.ofNat data.length
  | .writeEcho _ _ _ body => body[0]
  | .exception _ _ _ code => code

/-- The bytes between it and the CRC. -/
def RtuResponse.afterThird : RtuResponse → List UInt8
  | .read _ _ _ data _ => data
  | .writeEcho _ _ _ body => [body[1], body[2], body[3]]
  | .exception _ _ _ _ => []

/-- All bytes after it. -/
def RtuResponse.tail (r : RtuResponse) : List UInt8 := r.afterThird ++ createCrc r.payload

/-- The third byte tells the length: a read response of at most 253 bytes, an
echo whose first body byte happens to be 3, an exception with code 0. -/
def RtuResponse.guessedRight : RtuResponse → Prop
  | .read _ _ _ data _ => data.length ≤ 253
  | .writeEcho _ _ _ body => body[0] = 3
  | .exception _ _ _ code => code = 0

/-- `receive` returns `Ok` with exactly the frame in `response`, and leaves
exactly the rest on the line. -/
def ReceivesExactly (overflowChecks : Bool) (g : Gateway) (frame rest : List UInt8) : Prop :=
  ∃ g', (receive overflowChecks).runOn line g (frame ++ rest) = (.returned (.ok ()) g', rest) ∧
    g'.rtuResponse.toList = frame

/-! ## The loop -/

theorem line_uartRead {stream : List UInt8} (h : n ≤ stream.length) :
    line (.uartRead n) stream = some (.ok (takeVector stream n h), stream.drop n) := by
  rw [line, dif_pos h]

theorem line_uartReadUntilIdle {stream : List UInt8} (h : n ≤ stream.length) :
    line (.uartReadUntilIdle n) stream =
      some ((.ok n, takeVector stream n h), stream.drop n) := by
  rw [line, dif_pos h]

/-- One turn moves one byte from the line to `response`. -/
theorem runOn_receiveByte {g : Gateway} (b : UInt8) (stream : List UInt8)
    (hroom : g.rtuResponse.toList.length < 512) :
    ∃ g', receiveByte.runOn line g (b :: stream) = (.returned (.ok ()) g', stream) ∧
      g'.rtuResponse.toList = g.rtuResponse.toList ++ [b] := by
  obtain ⟨response, hpush, hlist⟩ := BoundedVec.exists_push b hroom
  have hlen : 1 ≤ (b :: stream).length := Nat.le_add_left 1 _
  refine ⟨{ g with rtuResponse := response }, ?_, hlist⟩
  rw [receiveByte, runOn_bind_of_ok (runOn_await_of_some (line_uartReadUntilIdle hlen) g)]
  rw [runOn_bind_of_ok (runOn_gets _ _ _)]
  have hfirst : (takeVector (b :: stream) 1 hlen)[0] = b := rfl
  simp only [hfirst, hpush]
  rw [runOn_bind_of_ok (runOn_modify _ _ _)]
  rfl

theorem runOn_receiveByte_nil (g : Gateway) :
    receiveByte.runOn line g [] = (.pending g, []) := by
  rw [receiveByte]
  exact runOn_bind_of_pending (runOn_await_of_none rfl g)

/-- The loop moves as many bytes as it counts, or waits for those that are
missing. -/
theorem runOn_times_receiveByte (n : Nat) (g : Gateway) (stream : List UInt8)
    (hroom : g.rtuResponse.toList.length + n ≤ 512) :
    (n ≤ stream.length ∧
        ∃ g', (times n receiveByte).runOn line g stream =
            (.returned (.ok ()) g', stream.drop n) ∧
          g'.rtuResponse.toList = g.rtuResponse.toList ++ stream.take n) ∨
      (stream.length < n ∧ ∃ g', (times n receiveByte).runOn line g stream = (.pending g', [])) := by
  induction n generalizing g stream with
  | zero => exact Or.inl ⟨Nat.zero_le _, g, runOn_pure () g stream, by simp⟩
  | succ n ih =>
      rw [times]
      cases stream with
      | nil =>
          refine Or.inr ⟨Nat.succ_pos n, g, ?_⟩
          exact runOn_bind_of_pending (runOn_receiveByte_nil g)
      | cons b stream =>
          have hroom' : g.rtuResponse.toList.length < 512 := by omega
          obtain ⟨g1, hrun, hlist⟩ := runOn_receiveByte b stream hroom'
          have hroom1 : g1.rtuResponse.toList.length + n ≤ 512 := by
            rw [hlist, List.length_append, List.length_singleton]
            omega
          rw [runOn_bind_of_ok hrun]
          rcases ih g1 stream hroom1 with ⟨hle, g', hrun', hlist'⟩ | ⟨hlt, g', hrun'⟩
          · refine Or.inl ⟨Nat.succ_le_succ hle, g', ?_, ?_⟩
            · rw [hrun', List.drop_succ_cons]
            · rw [hlist', hlist, List.take_succ_cons]
              simp
          · exact Or.inr ⟨Nat.succ_lt_succ hlt, g', hrun'⟩

/-! ## One response -/

/-- Past the guess, `receive` is the loop and the CRC. -/
theorem runOn_receive_of_some (g : Gateway) {x y b : UInt8} (tail : List UInt8)
    (hpl : payloadLength overflowChecks [x, y, b] = some (some pll)) :
    (pll ≤ tail.length ∧
        ∃ g', (receive overflowChecks).runOn line g (x :: y :: b :: tail) =
            (.returned (crcCheck (x :: y :: b :: tail.take pll)) g', tail.drop pll) ∧
          g'.rtuResponse.toList = x :: y :: b :: tail.take pll) ∨
      (tail.length < pll ∧
        ∃ g', (receive overflowChecks).runOn line g (x :: y :: b :: tail) =
          (.pending g', [])) := by
  have hlen : 3 ≤ (x :: y :: b :: tail).length := Nat.le_add_left 3 _
  have hpll : pll ≤ 255 := payloadLength_le hpl
  let header : ResponsePayload := ⟨[x, y, b], by simp⟩
  have hheader : BoundedVec.empty.extend [x, y, b] = some header := rfl
  have hroom : header.toList.length + pll ≤ 512 := by
    show 3 + pll ≤ 512
    omega
  rw [receive, runOn_bind_of_ok (runOn_modify _ _ _)]
  rw [runOn_bind_of_ok (runOn_await_of_some (line_uartRead hlen) _)]
  rw [runOn_bind_of_ok (runOn_orFail_ok _ _ _ _)]
  have hbuf : (takeVector (x :: y :: b :: tail) 3 hlen).toList = [x, y, b] :=
    toList_takeVector _ 3 hlen
  rw [hbuf, hpl, runOn_bind_of_ok (runOn_ofOption_some _ _ _)]
  simp only []
  rw [runOn_bind_of_ok (runOn_gets _ _ _), hheader,
    runOn_bind_of_ok (runOn_ofOption_some _ _ _)]
  rw [runOn_bind_of_ok (runOn_modify _ _ _)]
  rcases runOn_times_receiveByte pll { g with rtuResponse := header } tail hroom with
    ⟨hle, g', hrun, hlist⟩ | ⟨hlt, g', hrun⟩
  · refine Or.inl ⟨hle, g', ?_, hlist⟩
    refine (runOn_bind_of_ok hrun).trans ?_
    rw [runOn_bind_of_ok (runOn_gets _ _ _), runCrcCheck_eq, runOn_ofExcept, hlist]
    rfl
  · exact Or.inr ⟨hlt, g', runOn_bind_of_pending hrun⟩

/-- With overflow checks the guess may panic instead. -/
theorem runOn_receive_of_none (g : Gateway) {x y b : UInt8} (tail : List UInt8)
    (hpl : payloadLength overflowChecks [x, y, b] = none) :
    ∃ g', (receive overflowChecks).runOn line g (x :: y :: b :: tail) =
      (.panicked g', tail) := by
  have hlen : 3 ≤ (x :: y :: b :: tail).length := Nat.le_add_left 3 _
  rw [receive, runOn_bind_of_ok (runOn_modify _ _ _)]
  rw [runOn_bind_of_ok (runOn_await_of_some (line_uartRead hlen) _)]
  rw [runOn_bind_of_ok (runOn_orFail_ok _ _ _ _)]
  have hbuf : (takeVector (x :: y :: b :: tail) 3 hlen).toList = [x, y, b] :=
    toList_takeVector _ 3 hlen
  rw [hbuf, hpl, runOn_bind_of_panicked (runOn_ofOption_none _ _)]
  exact ⟨_, rfl⟩

/-! ## When the guess is right -/

theorem payloadLength_of_lt {b : UInt8} (h : b.toNat + 2 < 256) :
    payloadLength overflowChecks [x, y, b] = some (some (b.toNat + 2)) := by
  have hsum : (b + 2).toNat = b.toNat + 2 := by
    rw [UInt8.toNat_add]
    exact Nat.mod_eq_of_lt h
  have hno : ¬ (overflowChecks = true ∧ 256 ≤ b.toNat + 2) := by omega
  show (if overflowChecks = true ∧ 256 ≤ b.toNat + 2 then none
    else some (some (b + 2).toNat)) = _
  rw [if_neg hno, hsum]

/-- Past 253 the addition panics or wraps to 0 or 1. -/
theorem payloadLength_of_le {b : UInt8} (h : 256 ≤ b.toNat + 2) :
    payloadLength overflowChecks [x, y, b] =
      if overflowChecks then none else some (some (b.toNat + 2 - 256)) := by
  have hb := b.toNat_lt
  have hsum : (b + 2).toNat = b.toNat + 2 - 256 := by
    rw [UInt8.toNat_add]
    show (b.toNat + 2) % 256 = b.toNat + 2 - 256
    omega
  show (if overflowChecks = true ∧ 256 ≤ b.toNat + 2 then none
    else some (some (b + 2).toNat)) = _
  rw [hsum]
  simp only [h, and_true]

theorem crcCheck_append_createCrc {s : List UInt8} (h : 2 ≤ s.length) :
    crcCheck (s ++ createCrc s) = .ok () := by
  have hlen : (s ++ createCrc s).length = s.length + 2 := by
    rw [List.length_append, length_createCrc]
  have hshort : ¬ (s ++ createCrc s).length < 4 := by omega
  have htake : (s ++ createCrc s).length - 2 = s.length := by omega
  rw [crcCheck, if_neg hshort, List.splitAt_eq, htake]
  simp

/-- A response begins with its unit and function, and the byte `receive` guesses
from. -/
theorem RtuResponse.bytes_eq (r : RtuResponse) :
    ∃ unit function, r.bytes = unit :: function :: r.third :: r.tail := by
  cases r with
  | read unit function hf data hd => exact ⟨unit, function, rfl⟩
  | writeEcho unit function hf body =>
      refine ⟨unit, function, ?_⟩
      have hbody : body.toList = [body[0], body[1], body[2], body[3]] := by
        apply List.ext_getElem
        · simp
        · intro i h1 h2
          have hi : i < 4 := by simpa using h1
          have hcases : i = 0 ∨ i = 1 ∨ i = 2 ∨ i = 3 := by omega
          rcases hcases with rfl | rfl | rfl | rfl <;> rfl
      show unit :: function :: (body.toList ++ _) = _
      rw [hbody]
      rfl
  | exception unit function hf code => exact ⟨unit, function, rfl⟩

theorem RtuResponse.crcCheck_bytes (r : RtuResponse) : crcCheck r.bytes = .ok () := by
  have hlen : 2 ≤ r.payload.length := by
    cases r <;> simp [payload]
  exact crcCheck_append_createCrc hlen

theorem RtuResponse.two_le_length_tail (r : RtuResponse) : 2 ≤ r.tail.length := by
  rw [tail, List.length_append, length_createCrc]
  omega

/-- The guess is right when the third byte counts what follows it but the CRC. -/
theorem RtuResponse.guessedRight_iff (r : RtuResponse) :
    r.guessedRight ↔ r.third.toNat + 2 = r.tail.length ∧ r.third.toNat + 2 < 256 := by
  rw [tail, List.length_append, length_createCrc]
  cases r with
  | read unit function hf data hd =>
      have hcount : (UInt8.ofNat data.length).toNat = data.length := by
        rw [UInt8.toNat_ofNat']
        omega
      simp only [guessedRight, third, afterThird, hcount, true_and]
      omega
  | writeEcho unit function hf body =>
      simp only [guessedRight, third, ← UInt8.toNat_inj]
      show body[0].toNat = 3 ↔ body[0].toNat + 2 = 3 + 2 ∧ body[0].toNat + 2 < 256
      omega
  | exception unit function hf code =>
      simp only [guessedRight, third, ← UInt8.toNat_inj]
      show code.toNat = 0 ↔ code.toNat + 2 = 0 + 2 ∧ code.toNat + 2 < 256
      omega

/-- Exactly the frame was taken only if its length was guessed. -/
theorem length_of_receivesExactly {g : Gateway} {x y b : UInt8} {tail rest : List UInt8}
    (hpl : payloadLength overflowChecks [x, y, b] = some (some pll))
    (h : ReceivesExactly overflowChecks g (x :: y :: b :: tail) rest) : pll = tail.length := by
  obtain ⟨g', hrun, _⟩ := h
  rw [List.cons_append, List.cons_append, List.cons_append] at hrun
  rcases runOn_receive_of_some g (tail ++ rest) hpl with ⟨hle, g1, hrun1, _⟩ | ⟨_, g1, hrun1⟩
  · rw [hrun1] at hrun
    have hrest : (tail ++ rest).drop pll = rest := (Prod.mk.inj hrun).2
    have hlen := congrArg List.length hrest
    rw [List.length_drop, List.length_append] at hlen
    rw [List.length_append] at hle
    omega
  · rw [hrun1] at hrun
    simp at hrun

theorem receivesExactly_of_guessedRight (overflowChecks : Bool) (g : Gateway) (r : RtuResponse)
    (rest : List UInt8) (h : r.guessedRight) : ReceivesExactly overflowChecks g r.bytes rest := by
  obtain ⟨unit, function, hbytes⟩ := r.bytes_eq
  obtain ⟨hlen, hlt⟩ := r.guessedRight_iff.mp h
  have hpl : payloadLength overflowChecks [unit, function, r.third] =
      some (some (r.third.toNat + 2)) := payloadLength_of_lt hlt
  have htake : (r.tail ++ rest).take (r.third.toNat + 2) = r.tail := by
    rw [hlen, List.take_left]
  have hdrop : (r.tail ++ rest).drop (r.third.toNat + 2) = rest := by
    rw [hlen, List.drop_left]
  rcases runOn_receive_of_some g (r.tail ++ rest) hpl with ⟨_, g', hrun, hlist⟩ | ⟨hshort, _⟩
  · rw [htake, ← hbytes] at hlist
    rw [htake, hdrop, ← hbytes, r.crcCheck_bytes] at hrun
    refine ⟨g', ?_, hlist⟩
    rw [hbytes]
    exact hrun
  · rw [List.length_append] at hshort
    omega

theorem guessedRight_of_receivesExactly {g : Gateway} {r : RtuResponse} {rest : List UInt8}
    (h : ReceivesExactly overflowChecks g r.bytes rest) : r.guessedRight := by
  obtain ⟨unit, function, hbytes⟩ := r.bytes_eq
  have htail := r.two_le_length_tail
  have hthird := r.third.toNat_lt
  rw [hbytes] at h
  rw [r.guessedRight_iff]
  by_cases hlt : r.third.toNat + 2 < 256
  · have hpl : payloadLength overflowChecks [unit, function, r.third] =
        some (some (r.third.toNat + 2)) := payloadLength_of_lt hlt
    exact ⟨length_of_receivesExactly hpl h, hlt⟩
  · have hle : 256 ≤ r.third.toNat + 2 := by omega
    cases hc : overflowChecks with
    | true =>
        have hpl : payloadLength overflowChecks [unit, function, r.third] = none := by
          rw [payloadLength_of_le hle, hc]
          rfl
        obtain ⟨g', hrun, _⟩ := h
        obtain ⟨g1, hrun1⟩ := runOn_receive_of_none g (r.tail ++ rest) hpl
        rw [List.cons_append, List.cons_append, List.cons_append, hrun1] at hrun
        simp at hrun
    | false =>
        have hpl : payloadLength overflowChecks [unit, function, r.third] =
            some (some (r.third.toNat + 2 - 256)) := by
          rw [payloadLength_of_le hle, hc]
          rfl
        have hguess := length_of_receivesExactly hpl h
        omega

/-- **Receiving a response**: whatever follows on the line, and in either build
profile, `receive` takes exactly the response and accepts it exactly when its
third byte tells its length. -/
theorem receivesExactly_iff (overflowChecks : Bool) (g : Gateway) (r : RtuResponse)
    (rest : List UInt8) :
    ReceivesExactly overflowChecks g r.bytes rest ↔ r.guessedRight :=
  ⟨guessedRight_of_receivesExactly, receivesExactly_of_guessedRight overflowChecks g r rest⟩

/-! ### The echo of a write -/

/-- Function 6, register 16, value 5. -/
def writeEcho : RtuResponse := .writeEcho 1 6 (by decide) #v[0, 16, 0, 5]

/-- The echo is taken for a response without data: `receive` stops in the middle
of it, and finds no CRC there. -/
theorem not_receivesExactly :
    ¬ ∀ (overflowChecks : Bool) (g : Gateway) (r : RtuResponse) (rest : List UInt8),
      ReceivesExactly overflowChecks g r.bytes rest := by
  intro h
  obtain ⟨g', hrun, _⟩ := h false
    { counter := 0, txEn := false, rtuResponse := .empty, tcpRequest := .empty } writeEcho []
  have hrest : ((receive false).runOn line
      { counter := 0, txEn := false, rtuResponse := .empty, tcpRequest := .empty }
      (writeEcho.bytes ++ [])).2 = [] := congrArg Prod.snd hrun
  exact absurd hrest (by decide +kernel)

end Toucan.Modbus
