import Toucan.Lib.Fragments
import Toucan.Mqtt.Client

/-!
# Toucan.Mqtt.Receive

One packet after the other out of the broker's stream (`rust-mqtt`, `receive_packet`).

The bytes arrive in fragments of any size.  The first byte and the length are read one
byte at a time, the body in as many reads as it takes; both go through the receive
buffer into the buffer of the client.  The slice of the receive buffer in the second
loop ends behind all of the body that is there, counted twice, so whether a packet that
would fit is received or panics depends on the fragments (`receivePacket_packet`).
-/

namespace Toucan.Mqtt

open Async BuffWriter Fragments

/-! ## The broker's stream -/

/-- The bytes still to come, the number of reads so far, and what has been written. -/
structure Link where
  incoming : List UInt8
  reads : Nat
  sent : List (List UInt8)

/-- What a connection does when nothing is left to read. -/
inductive Ending where
  | silent
  | closed

/-- The other side: how much each read gets, the end, and what is sent back for a write. -/
structure Peer where
  cut : Nat → Nat
  ending : Ending
  reply : List UInt8 → List UInt8

/-- A connection that delivers in fragments and takes every write as a whole. -/
def link (peer : Peer) : Handler Link Answer
  | .write buffer, w =>
    some (.ok buffer.length, { w with
      incoming := w.incoming ++ peer.reply buffer
      sent := w.sent ++ [buffer] })
  | .read n, w =>
    let got : BoundedVec UInt8 n := ⟨w.incoming.take (size peer.cut w.reads n),
      Nat.le_trans (List.length_take_le _ _) size_le⟩
    if w.incoming = [] then
      match peer.ending with
      | .silent => none
      | .closed => some (.ok .empty, { w with reads := w.reads + 1 })
    else
      some (.ok got, { w with
        incoming := w.incoming.drop (size peer.cut w.reads n)
        reads := w.reads + 1 })
  | .unfinished, _ => none

/-- The link after a read that got `n` bytes. -/
def Link.after (w : Link) (n : Nat) : Link :=
  { w with incoming := w.incoming.drop n, reads := w.reads + 1 }

/-- While there is something to read, a read gets a fragment. -/
theorem link_read (peer : Peer) (n : Nat) {w : Link} (h : w.incoming ≠ []) :
    ∃ got : BoundedVec UInt8 n, got.toList = w.incoming.take (size peer.cut w.reads n) ∧
      link peer (.read n) w = some (.ok got, w.after (size peer.cut w.reads n)) :=
  ⟨_, rfl, if_neg h⟩

/-- On a closed connection every read is answered. -/
theorem link_closed_read {peer : Peer} (h : peer.ending = .closed) (n : Nat) (w : Link) :
    ∃ (got : BoundedVec UInt8 n) (w' : Link), link peer (.read n) w = some (.ok got, w') ∧
      got.toList ++ w'.incoming = w.incoming ∧ w'.reads = w.reads + 1 := by
  by_cases hnil : w.incoming = []
  · refine ⟨.empty, { w with reads := w.reads + 1 }, ?_, List.nil_append _, rfl⟩
    simp only [link, hnil, if_true, h]
  · obtain ⟨got, hgot, hread⟩ := link_read peer n hnil
    refine ⟨got, _, hread, ?_, rfl⟩
    rw [hgot]
    exact List.take_append_drop _ _

/-! ## The length of a packet -/

/-- What the first loop takes for a length: bytes with the top bit up to one without it, or
four bytes. -/
def IsLengthField (code : List UInt8) : Prop :=
  ∃ front last, code = front ++ [last] ∧ (∀ b ∈ front, ¬ b < 128) ∧ front.length ≤ 3 ∧
    (last < 128 ∨ front.length = 3)

theorem isLengthField_of_split {code rest : List UInt8}
    (h : VarInt.split 4 (code ++ rest) = some (code, rest)) : IsLengthField code := by
  obtain ⟨front, last, rfl, htop, hlast⟩ := VarInt.exists_last_of_split h
  obtain ⟨-, -, hle⟩ := VarInt.split_eq_some h
  rw [List.length_append, List.length_singleton] at hle
  exact ⟨front, last, rfl, htop, by omega, .inl hlast⟩

theorem remLenLoop_front {max i : Nat} {front : List UInt8} (htop : ∀ b ∈ front, ¬ b < 128)
    (hlen : i + front.length = max + 1) (hmax : max < 4) : remLenLoop max i front = none := by
  induction front generalizing i with
  | nil => rfl
  | cons b front ih =>
      rw [List.length_cons] at hlen
      have hb : ¬ b &&& 0x80 = 0 := mt (and_128_eq_zero_iff b).mp (htop b List.mem_cons_self)
      rw [remLenLoop, if_neg hb]
      by_cases hlast : i = max
      · rw [if_pos ⟨hlast, by omega⟩]
      · rw [if_neg (by omega), if_neg hlast,
          ih (fun c hc => htop c (List.mem_cons_of_mem b hc)) (by omega)]
        rfl

theorem remLenLoop_code {max i : Nat} {front : List UInt8} {last : UInt8}
    (htop : ∀ b ∈ front, ¬ b < 128) (hlen : i + front.length = max)
    (hstop : last < 128 ∨ max = 4) :
    remLenLoop max i (front ++ [last]) = some (front ++ [last]) := by
  induction front generalizing i with
  | nil =>
      rw [List.nil_append, remLenLoop]
      by_cases hlast : last &&& 0x80 = 0
      · rw [if_pos hlast]
      · have hfour : max = 4 := hstop.resolve_left (mt (and_128_eq_zero_iff last).mpr hlast)
        rw [List.length_nil] at hlen
        rw [if_neg hlast, if_neg (by omega), if_pos (by omega)]
  | cons b front ih =>
      rw [List.length_cons] at hlen
      have hb : ¬ b &&& 0x80 = 0 := mt (and_128_eq_zero_iff b).mp (htop b List.mem_cons_self)
      rw [List.cons_append, remLenLoop, if_neg hb, if_neg (by omega), if_neg (by omega),
        ih (fun c hc => htop c (List.mem_cons_of_mem b hc)) (by omega)]
      rfl

/-! ## The buffers -/

section Buffers

variable {c c' c'' : RawMqttClient cap} {writer : BuffWriter} {xs : List UInt8}

/-- Buffers as the client is made with: the receive buffer is not the longer one. -/
structure Sized (c : RawMqttClient cap) : Prop where
  buffer : c.bufferLen ≤ c.buffer.length
  recvBuffer : c.recvBuffer.length ≤ c.bufferLen

/-- Only the contents of the two buffers are different. -/
structure Refilled (c c' : RawMqttClient cap) : Prop where
  buffer : c'.buffer.length = c.buffer.length
  recvBuffer : c'.recvBuffer.length = c.recvBuffer.length
  eq : c' = { c with buffer := c'.buffer, recvBuffer := c'.recvBuffer }

theorem Refilled.refl (c : RawMqttClient cap) : Refilled c c := ⟨rfl, rfl, rfl⟩

theorem Refilled.trans (h : Refilled c c') (h' : Refilled c' c'') : Refilled c c'' where
  buffer := h'.buffer.trans h.buffer
  recvBuffer := h'.recvBuffer.trans h.recvBuffer
  eq := by rw [h'.eq, h.eq]

theorem Refilled.bufferLen (h : Refilled c c') : c'.bufferLen = c.bufferLen := by rw [h.eq]

theorem Refilled.sized (h : Refilled c c') (hc : Sized c) : Sized c' where
  buffer := by
    rw [h.buffer, h.bufferLen]
    exact hc.buffer
  recvBuffer := by
    rw [h.recvBuffer, h.bufferLen]
    exact hc.recvBuffer

/-- The writer has put `xs` at the front of the client's buffer. -/
structure Holds (c : RawMqttClient cap) (writer : BuffWriter) (xs : List UInt8) : Prop where
  buffer : c.buffer = writer.buffer
  len : writer.len = c.bufferLen
  position : writer.position = xs.length
  written : writer.written = xs
  sized : Sized c

theorem holds_new (h : Sized c) : Holds c (.new c.buffer c.bufferLen) [] :=
  ⟨rfl, rfl, rfl, written_new _ _, h⟩

theorem Holds.take (h : Holds c writer xs) : c.buffer.take xs.length = xs := by
  rw [h.buffer, ← h.position]
  exact h.written

/-- What `get_rem_len` finds behind the first byte. -/
theorem Holds.getRemLen {header : UInt8} {bs : List UInt8} (h : Holds c writer (header :: bs))
    (hle : bs.length ≤ 4) :
    writer.getRemLen = (remLenLoop bs.length 1 bs).map .ofBytes := by
  have hpos := h.position
  rw [List.length_cons] at hpos
  have hmax : (if writer.position ≥ 5 then 4 else writer.position - 1) = bs.length := by
    split <;> omega
  simp only [BuffWriter.getRemLen, hmax, h.written, List.drop_succ_cons, List.drop_zero]

end Buffers

namespace RawMqttClient

/-! ## One read -/

/-- What was read behind the first `position` bytes of the receive buffer. -/
def placed (c : RawMqttClient cap) (position : Nat) (got : List UInt8) : RawMqttClient cap :=
  { c with recvBuffer :=
      c.recvBuffer.take position ++ got ++ c.recvBuffer.drop (position + got.length) }

section Turn

variable (peer : Peer) {c : RawMqttClient cap} {w : Link}
  {writer : BuffWriter} {xs : List UInt8}

/-- The bytes that were read are the slice behind those that are there. -/
theorem placed_spec (hold : Holds c writer xs) {got : List UInt8}
    (hroom : xs.length + got.length ≤ c.recvBuffer.length) :
    Refilled c (placed c xs.length got) ∧ Holds (placed c xs.length got) writer xs ∧
      ((placed c xs.length got).recvBuffer.drop xs.length).take got.length = got := by
  have hfront : (c.recvBuffer.take xs.length).length = xs.length := by
    rw [List.length_take]
    omega
  have hlen : (placed c xs.length got).recvBuffer.length = c.recvBuffer.length := by
    simp only [placed, List.length_append, List.length_drop, hfront]
    omega
  have hsized := hold.sized
  refine ⟨⟨rfl, hlen, rfl⟩,
    ⟨hold.buffer, hold.len, hold.position, hold.written, hsized.buffer, ?_⟩, ?_⟩
  · rw [hlen]
    exact hsized.recvBuffer
  · rw [placed, List.append_assoc, List.drop_append, hfront, Nat.sub_self, List.drop_zero,
      List.drop_of_length_le (Nat.le_of_eq hfront), List.nil_append]
    exact List.take_left

/-- What a read gets is put behind the bytes that are there. -/
theorem receiveAt_of_read (hold : Holds c writer xs) {n : Nat} {got : BoundedVec UInt8 n}
    {w' : Link} (hroom : xs.length + n ≤ c.recvBuffer.length)
    (hread : link peer (.read n) w = some (.ok got, w')) :
    ∃ c', (receiveAt writer.position n).runOn (link peer) c w =
        (.returned (.ok got.toList.length) c', w') ∧
      Refilled c c' ∧ Holds c' writer xs ∧
      (c'.recvBuffer.drop xs.length).take got.toList.length = got.toList := by
  have hlen := got.length_le
  refine ⟨placed c xs.length got.toList, ?_, placed_spec hold (by omega)⟩
  rw [hold.position, receiveAt, runOn_bind_of_ok (runOn_gets _ _ _), if_neg (by omega)]
  have hreceive : (receive n : ClientM cap _).runOn (link peer) c w =
      (.returned (.ok got.toList) c, w') := by
    rw [receive, runOn_bind_of_ok (runOn_await_of_some hread c)]
    rfl
  rw [runOn_bind_of_ok hreceive, runOn_bind_of_ok (runOn_modify _ _ _)]
  rfl

theorem receiveAt_of_lt (hold : Holds c writer xs) {n : Nat}
    (hroom : c.recvBuffer.length < xs.length + n) :
    (receiveAt writer.position n).runOn (link peer) c w = (.panicked c, w) := by
  rw [hold.position, receiveAt, runOn_bind_of_ok (runOn_gets _ _ _), if_pos (by omega)]
  rfl

/-- The bytes that were read go behind those that are there, if the slice they are in is
one of the receive buffer. -/
theorem insertReceived_eq (hold : Holds c writer xs) {ys : List UInt8} {stop : Nat}
    (hys : (c.recvBuffer.drop xs.length).take ys.length = ys)
    (hle : xs.length + ys.length ≤ stop) (hstop : stop ≤ c.recvBuffer.length) :
    ∃ c' writer', insertReceived writer ys.length writer.position stop c = .done (.ok writer') c' ∧
      Refilled c c' ∧ Holds c' writer' (xs ++ ys) := by
  have hsized := hold.sized
  have hrecv := hsized.recvBuffer
  have hbuf := hsized.buffer
  have hlenw := hold.len
  have hpos := hold.position
  have hwbuf := hold.buffer
  have hfront : (writer.buffer.take xs.length).length = xs.length := by
    rw [List.length_take, ← hwbuf]
    omega
  have hslice : ((c.recvBuffer.take stop).drop xs.length).take ys.length = ys := by
    rw [List.drop_take, List.take_take, Nat.min_eq_left (by omega), hys]
  have hlen : ys.length ≤ ((c.recvBuffer.take stop).drop xs.length).length := by
    rw [List.length_drop, List.length_take]
    omega
  obtain ⟨writer', hwriter'⟩ : ∃ writer', writer' = { writer with
      buffer := writer.buffer.take xs.length ++ ys ++ writer.buffer.drop (xs.length + ys.length)
      position := xs.length + ys.length } := ⟨_, rfl⟩
  have hinsert : BuffWriter.insertRef ys.length ((c.recvBuffer.take stop).drop xs.length) writer =
      (.ok (), writer') := by
    rw [insertRef, hpos, if_neg (by omega), if_pos ⟨by rw [← hwbuf]; omega, hlen⟩, hslice, hwriter']
  have hlength : writer'.buffer.length = writer.buffer.length := by
    rw [hwriter', List.length_append, List.length_append, hfront, List.length_drop, ← hwbuf]
    omega
  refine ⟨{ c with buffer := writer'.buffer }, writer', ?_, ⟨?_, rfl, rfl⟩, ⟨rfl, ?_, ?_, ?_, ?_⟩⟩
  · rw [hpos, insertReceived, gets_bind, if_neg (by omega), hinsert]
    rfl
  · rw [hwbuf]
    exact hlength
  · rw [hwriter', hlenw]
  · rw [hwriter', List.length_append]
  · have hwritten := hold.written
    rw [BuffWriter.written, hpos] at hwritten
    rw [BuffWriter.written, hwriter', hwritten]
    exact List.take_left' (by simp)
  · exact ⟨by rw [hlength, ← hwbuf]; exact hbuf, hrecv⟩

theorem insertReceived_of_le (w : Link) (hold : Holds c writer xs) {ys : List UInt8} {stop : Nat}
    (hys : (c.recvBuffer.drop xs.length).take ys.length = ys)
    (hle : xs.length + ys.length ≤ stop) (hstop : stop ≤ c.recvBuffer.length) :
    ∃ c' writer', (insertReceived writer ys.length writer.position stop).runOn (link peer)
        c w = (.returned (.ok writer') c', w) ∧
      Refilled c c' ∧ Holds c' writer' (xs ++ ys) := by
  obtain ⟨c', writer', hinsert, hrefilled, hold'⟩ := insertReceived_eq hold hys hle hstop
  exact ⟨c', writer', runOn_of_done hinsert w, hrefilled, hold'⟩

theorem insertReceived_panic {len start stop : Nat} (hstop : c.recvBuffer.length < stop) :
    insertReceived writer len start stop c = .panicked c := by
  rw [insertReceived, gets_bind, if_pos (.inr hstop)]
  rfl

theorem insertReceived_of_lt {len start stop : Nat} (hstop : c.recvBuffer.length < stop) :
    (insertReceived writer len start stop).runOn (link peer) c w = (.panicked c, w) := by
  rw [runOn, insertReceived_panic hstop]
  rfl

end Turn

/-! ## The first byte and the length -/

section Header

variable (peer : Peer) {c : RawMqttClient cap} {w : Link}
  {writer : BuffWriter} {header : UInt8} {code : List UInt8}

/-- What the first loop does once it holds `xs`. -/
def lengthFound (turns : Nat) (writer : BuffWriter) (i : Nat) :
    ClientM cap (BuffWriter × Nat × VariableByteInteger) :=
  if i > 1 then
    match writer.getRemLen with
    | some remLen => return (writer, i, remLen)
    | none => if i ≥ 5 then fail .networkError else receiveHeader turns writer i
  else receiveHeader turns writer i

/-- A turn of the first loop takes a byte, or panics where there is no room for it. -/
theorem receiveHeader_succ {xs rest : List UInt8} {b : UInt8} (turns : Nat)
    (hold : Holds c writer xs) (hin : w.incoming = b :: rest) :
    (xs.length < c.recvBuffer.length → ∃ c' writer',
      (receiveHeader (turns + 1) writer xs.length).runOn (link peer) c w =
        (lengthFound turns writer' (xs.length + 1)).runOn (link peer) c' (w.after 1) ∧
      Refilled c c' ∧ Holds c' writer' (xs ++ [b])) ∧
    (c.recvBuffer.length ≤ xs.length →
      (receiveHeader (turns + 1) writer xs.length).runOn (link peer) c w =
        (.panicked c, w)) := by
  rw [receiveHeader]
  constructor
  · intro hroom
    obtain ⟨got, hgot, hread⟩ := link_read peer 1 (show w.incoming ≠ [] by simp [hin])
    rw [size_one] at hgot hread
    rw [hin] at hgot
    have hone : got.toList = [b] := hgot
    obtain ⟨c₁, hrun, hrefilled, hold₁, hslice⟩ := receiveAt_of_read peer hold
      (show xs.length + 1 ≤ c.recvBuffer.length by omega) hread
    rw [hone] at hrun hslice
    have hstop : xs.length + 1 ≤ c₁.recvBuffer.length := by
      rw [hrefilled.recvBuffer]
      omega
    obtain ⟨c₂, writer₂, hinsert, hrefilled', hold₂⟩ := insertReceived_of_le peer (w.after 1)
      hold₁ hslice (Nat.le_refl _) hstop
    refine ⟨c₂, writer₂, ?_, hrefilled.trans hrefilled', hold₂⟩
    rw [runOn_bind_of_ok hrun, if_neg (by simp)]
    exact runOn_bind_of_ok hinsert
  · intro hroom
    exact runOn_bind_of_panicked (receiveAt_of_lt peer hold (by omega))

/-- The length is complete with its last byte, and not before. -/
theorem lengthFound_of_holds {xs todo : List UInt8} (turns : Nat) (hcode : IsLengthField code)
    (hxs : xs ++ todo = header :: code) (hpos : xs ≠ []) (hold : Holds c writer xs) :
    lengthFound turns writer xs.length = if todo = [] then
        (return (writer, 1 + code.length, .ofBytes code) :
          ClientM cap (BuffWriter × Nat × VariableByteInteger))
      else receiveHeader turns writer xs.length := by
  obtain ⟨front, last, rfl, htop, hshort, hstop⟩ := hcode
  obtain ⟨b, bs, rfl⟩ := List.exists_cons_of_ne_nil hpos
  rw [List.cons_append, List.cons.injEq] at hxs
  obtain ⟨rfl, hbs⟩ := hxs
  have hlen := congrArg List.length hbs
  rw [List.length_append, List.length_append, List.length_singleton] at hlen
  have hrem := hold.getRemLen (by omega)
  rw [lengthFound, List.length_cons]
  by_cases htodo : todo = []
  · subst htodo
    rw [List.append_nil] at hbs
    subst hbs
    have hloop : remLenLoop (front.length + 1) 1 (front ++ [last]) = some (front ++ [last]) :=
      remLenLoop_code htop (Nat.add_comm _ _) (hstop.imp_right fun h => by rw [h])
    rw [List.length_append, List.length_singleton, hloop] at hrem
    rw [if_pos rfl, hrem, if_pos (by simp), Nat.add_comm]
    rfl
  · rw [if_neg htodo]
    obtain ⟨init, b', rfl⟩ : ∃ init b', todo = init ++ [b'] :=
      ⟨todo.dropLast, todo.getLast htodo, (List.dropLast_concat_getLast htodo).symm⟩
    rw [← List.append_assoc] at hbs
    obtain ⟨hfront, -⟩ := List.append_inj' hbs rfl
    have htop' : ∀ b ∈ bs, ¬ b < 128 := by
      intro b hb
      apply htop
      rw [← hfront]
      exact List.mem_append_left init hb
    rw [List.length_append, List.length_singleton] at hlen
    by_cases hone : bs.length + 1 > 1
    · rw [if_pos hone, hrem, remLenLoop_front htop' (Nat.add_comm _ _) (by omega), Option.map_none]
      exact if_neg (by omega)
    · rw [if_neg hone]

/-- The first loop, with `todo` to come. -/
theorem receiveHeader_spec {xs todo rest : List UInt8} {turns : Nat} (hcode : IsLengthField code)
    (hxs : xs ++ todo = header :: code) (htodo : todo ≠ []) (hold : Holds c writer xs)
    (hin : w.incoming = todo ++ rest) (hturns : todo.length ≤ turns) :
    (1 + code.length ≤ c.recvBuffer.length → ∃ c' writer',
      (receiveHeader turns writer xs.length).runOn (link peer) c w =
        (.returned (.ok (writer', 1 + code.length, .ofBytes code)) c',
          { w with incoming := rest, reads := w.reads + todo.length }) ∧
      Refilled c c' ∧ Holds c' writer' (header :: code)) ∧
    (c.recvBuffer.length < 1 + code.length → ∃ c' w',
      (receiveHeader turns writer xs.length).runOn (link peer) c w = (.panicked c', w')) := by
  induction todo generalizing xs turns c w writer with
  | nil => contradiction
  | cons b todo ih =>
      obtain ⟨turns, rfl⟩ : ∃ n, turns = n + 1 :=
        ⟨turns - 1, by rw [List.length_cons] at hturns; omega⟩
      rw [List.length_cons] at hturns
      have hlen := congrArg List.length hxs
      rw [List.length_append, List.length_cons, List.length_cons] at hlen
      have hxs' : (xs ++ [b]) ++ todo = header :: code := by
        rw [List.append_assoc]
        exact hxs
      obtain ⟨hturn, hpanic⟩ := receiveHeader_succ peer turns hold hin
      by_cases hroom : xs.length < c.recvBuffer.length
      · obtain ⟨c₁, writer₁, hrun, hrefilled, hold₁⟩ := hturn hroom
        have hfound := lengthFound_of_holds turns hcode hxs' (by simp) hold₁
        rw [List.length_append, List.length_singleton] at hfound
        rw [hrun, hfound]
        have hin₁ : (w.after 1).incoming = todo ++ rest := by rw [Link.after, hin]; rfl
        by_cases hnil : todo = []
        · subst hnil
          rw [List.length_nil] at hlen
          rw [if_pos rfl]
          constructor
          · intro _
            rw [List.append_nil] at hxs'
            rw [hxs'] at hold₁
            have hafter : w.after 1 = { w with incoming := rest, reads := w.reads + 1 } := by
              rw [Link.after, hin]
              rfl
            exact ⟨c₁, writer₁, by rw [hafter]; rfl, hrefilled, hold₁⟩
          · intro hlt
            omega
        · obtain ⟨hok, hbad⟩ := ih hxs' hnil hold₁ hin₁ (show todo.length ≤ turns by omega)
          rw [hrefilled.recvBuffer, List.length_append, List.length_singleton] at hok hbad
          rw [if_neg hnil]
          refine ⟨fun hle => ?_, hbad⟩
          obtain ⟨c₂, writer₂, hrest, hrefilled', hold₂⟩ := hok hle
          refine ⟨c₂, writer₂, ?_, hrefilled.trans hrefilled', hold₂⟩
          rw [hrest, List.length_cons]
          simp only [Link.after, Nat.add_assoc, Nat.add_comm 1]
      · rw [hpanic (by omega)]
        constructor
        · intro hle
          omega
        · intro _
          exact ⟨c, w, rfl⟩

end Header

/-! ## The body -/

section Body

variable (peer : Peer) {c : RawMqttClient cap} {w : Link}
  {writer : BuffWriter} {head : List UInt8}

theorem receiveBody_done (turns : Nat) {i targetLen : Nat} {xs : List UInt8}
    (hold : Holds c writer xs) (hlen : xs.length = targetLen + head.length) :
    (receiveBody targetLen head.length turns writer i).runOn (link peer) c w =
      (.returned (.ok (targetLen + head.length)) c, w) := by
  have hdone : writer.position = targetLen + head.length := hold.position.trans hlen
  rw [receiveBody.eq_def]
  simp only [if_pos hdone, runOn_pure]

/-- A turn of the second loop asks for all that is missing, and takes what it gets; it panics
where a slice goes beyond the receive buffer. -/
theorem receiveBody_succ {done : List UInt8} {n : Nat} {got : BoundedVec UInt8 n} {w' : Link}
    (turns : Nat) (hold : Holds c writer (head ++ done)) (hpos : 0 < n)
    (hread : link peer (.read n) w = some (.ok got, w')) :
    (head.length + done.length + n ≤ c.recvBuffer.length →
      head.length + done.length + (done.length + got.toList.length) ≤ c.recvBuffer.length →
      ∃ c' writer',
        (receiveBody (done.length + n) head.length (turns + 1) writer done.length).runOn
            (link peer) c w =
          (receiveBody (done.length + n) head.length turns writer'
            (done.length + got.toList.length)).runOn (link peer) c' w' ∧
        Refilled c c' ∧ Holds c' writer' (head ++ (done ++ got.toList))) ∧
    (c.recvBuffer.length < head.length + done.length + n ∨
        c.recvBuffer.length < head.length + done.length + (done.length + got.toList.length) →
      ∃ c' w', (receiveBody (done.length + n) head.length (turns + 1) writer done.length).runOn
        (link peer) c w = (.panicked c', w')) := by
  have hposition : writer.position = head.length + done.length := by
    rw [hold.position, List.length_append]
  have hmore : ¬ writer.position = done.length + n + head.length := by omega
  rw [receiveBody.eq_def]
  simp only [if_neg hmore, Nat.add_sub_cancel_left]
  by_cases hfits : head.length + done.length + n ≤ c.recvBuffer.length
  · obtain ⟨c₁, hrun, hrefilled, hold₁, hslice⟩ := receiveAt_of_read peer hold
      (by rw [List.length_append]; exact hfits) hread
    rw [runOn_bind_of_ok hrun]
    constructor
    · intro _ hle
      obtain ⟨c₂, writer₂, hinsert, hrefilled', hold₂⟩ := insertReceived_of_le peer w' hold₁
        hslice (show _ ≤ writer.position + (done.length + got.toList.length) by
          rw [hposition, List.length_append]
          omega)
        (by
          rw [hrefilled.recvBuffer, hposition]
          exact hle)
      refine ⟨c₂, writer₂, runOn_bind_of_ok hinsert, hrefilled.trans hrefilled', ?_⟩
      rw [← List.append_assoc]
      exact hold₂
    · intro hlt
      refine ⟨c₁, _, runOn_bind_of_panicked (insertReceived_of_lt peer ?_)⟩
      rw [hrefilled.recvBuffer, hposition]
      exact hlt.resolve_left (by omega)
  · refine ⟨fun hle => absurd hle hfits, fun _ => ⟨c, w, runOn_bind_of_panicked ?_⟩⟩
    apply receiveAt_of_lt peer hold
    rw [List.length_append]
    omega

/-- The second loop, with `todo` to come. -/
theorem receiveBody_spec {done todo rest : List UInt8} {turns : Nat}
    (hold : Holds c writer (head ++ done)) (hin : w.incoming = todo ++ rest) (htodo : todo ≠ [])
    (hturns : todo.length ≤ turns) :
    (head.length + done.length + todo.length +
          (done.length + beforeLast peer.cut w.reads todo.length) ≤
        c.recvBuffer.length → ∃ c' reads,
      (receiveBody (done.length + todo.length) head.length turns writer done.length).runOn
          (link peer) c w =
        (.returned (.ok (done.length + todo.length + head.length)) c',
          { w with incoming := rest, reads }) ∧
      Refilled c c' ∧
      c'.buffer.take (head ++ (done ++ todo)).length = head ++ (done ++ todo)) ∧
    (c.recvBuffer.length <
        head.length + done.length + todo.length +
          (done.length + beforeLast peer.cut w.reads todo.length) →
      ∃ c' w', (receiveBody (done.length + todo.length) head.length turns writer done.length).runOn
        (link peer) c w = (.panicked c', w')) := by
  induction turns generalizing c w writer done todo with
  | zero => exact absurd (List.length_eq_zero_iff.mp (Nat.le_zero.mp hturns)) htodo
  | succ turns ih =>
      have hpos : 0 < todo.length := List.length_pos_iff.mpr htodo
      have hne : w.incoming ≠ [] := by simp [hin, htodo]
      obtain ⟨got, hgot, hread⟩ := link_read peer todo.length hne
      obtain ⟨k, hk⟩ : ∃ k, k = size peer.cut w.reads todo.length := ⟨_, rfl⟩
      have hle : k ≤ todo.length := by
        rw [hk]
        exact size_le
      have hk' : 0 < k := by
        rw [hk]
        exact size_pos hpos
      rw [← hk, hin, List.take_append_of_le_length hle] at hgot
      have hlen : got.toList.length = k := by rw [hgot, List.length_take, Nat.min_eq_left hle]
      obtain ⟨hturn, hpanic⟩ := receiveBody_succ peer turns hold hpos hread
      rw [hlen] at hturn hpanic
      rw [← hk] at hturn
      have hafter : (w.after k).incoming = todo.drop k ++ rest := by
        rw [Link.after, hin, List.drop_append_of_le_length hle]
      by_cases hall : k = todo.length
      · -- the last fragment
        rw [beforeLast_of_eq (hk.symm.trans hall)]
        rw [hall, List.drop_length, List.nil_append] at hafter
        rw [hall] at hturn hpanic
        refine ⟨fun hle => ?_, fun hlt => hpanic (by omega)⟩
        obtain ⟨c₁, writer₁, hrun, hrefilled, hold₁⟩ := hturn (by omega) (by omega)
        rw [hgot, hall, List.take_length] at hold₁
        refine ⟨c₁, w.reads + 1, ?_, hrefilled, hold₁.take⟩
        have hlen' : (head ++ (done ++ todo)).length = done.length + todo.length + head.length := by
          rw [List.length_append, List.length_append, Nat.add_comm]
        rw [hrun, receiveBody_done peer turns hold₁ hlen', ← hafter]
        rfl
      · rw [beforeLast_of_ne (hk ▸ hall), ← hk]
        by_cases hroom : head.length + done.length + todo.length ≤ c.recvBuffer.length ∧
            head.length + done.length + (done.length + k) ≤ c.recvBuffer.length
        · obtain ⟨c₁, writer₁, hrun, hrefilled, hold₁⟩ := hturn hroom.1 hroom.2
          have hdone : (done ++ got.toList).length = done.length + k := by
            rw [List.length_append, hlen]
          have htodo' : (todo.drop k).length = todo.length - k := List.length_drop
          have hsum : done.length + k + (todo.length - k) = done.length + todo.length := by omega
          have hrest := ih hold₁ hafter (List.ne_nil_of_length_pos (by omega)) (by omega)
          rw [hrefilled.recvBuffer, hdone, htodo', hsum, hgot, List.append_assoc,
            List.take_append_drop] at hrest
          obtain ⟨hok, hbad⟩ := hrest
          rw [hrun]
          constructor
          · intro hle
            obtain ⟨c₂, reads, hend, hrefilled', hbuf⟩ := hok (by
              show _ + (_ + beforeLast peer.cut (w.reads + 1) _) ≤ _
              omega)
            exact ⟨c₂, reads, hend, hrefilled.trans hrefilled', hbuf⟩
          · intro hlt
            exact hbad (by
              show _ < _ + (_ + beforeLast peer.cut (w.reads + 1) _)
              omega)
        · refine ⟨fun hle => ?_, fun _ => hpanic (by omega)⟩
          omega

/-- Where the connection is closed before the body is complete, the second loop goes on
reading. -/
theorem receiveBody_closed {done : List UInt8} {n : Nat} (turns : Nat)
    (hclosed : peer.ending = .closed)
    (hold : Holds c writer (head ++ done)) (hmore : w.incoming.length < n)
    (hroom : head.length + 2 * (done.length + n) ≤ c.recvBuffer.length) :
    ∃ c' w', (receiveBody (done.length + n) head.length turns writer done.length).runOn
        (link peer) c w = (.pending c', w') ∧ w'.reads = w.reads + turns := by
  induction turns generalizing c w writer done n with
  | zero =>
      have hdone : ¬ writer.position = done.length + n + head.length := by
        rw [hold.position, List.length_append]
        omega
      refine ⟨c, w, ?_, rfl⟩
      rw [receiveBody.eq_def]
      simp only [if_neg hdone]
      exact runOn_bind_of_pending (runOn_await_of_none rfl c)
  | succ turns ih =>
      obtain ⟨got, w₁, hread, hgot, hreads⟩ := link_closed_read hclosed n w
      have hlen := congrArg List.length hgot
      rw [List.length_append] at hlen
      obtain ⟨hturn, -⟩ := receiveBody_succ peer turns hold (by omega) hread
      obtain ⟨c₁, writer₁, hrun, hrefilled, hold₁⟩ := hturn (by omega) (by omega)
      have hdone : (done ++ got.toList).length = done.length + got.toList.length :=
        List.length_append
      have hsum : done.length + got.toList.length + (n - got.toList.length) = done.length + n := by
        omega
      have hrest := ih hold₁ (show w₁.incoming.length < n - got.toList.length by omega)
        (by rw [hrefilled.recvBuffer, hdone]; omega)
      rw [hdone, hsum] at hrest
      obtain ⟨c₂, w₂, hend, hreads₂⟩ := hrest
      exact ⟨c₂, w₂, by rw [hrun, hend], by omega⟩

end Body

end RawMqttClient

/-! ## A packet -/

/-- The first byte, a length in any form, and as many bytes as it says. -/
structure WirePacket where
  header : UInt8
  code : List UInt8
  body : List UInt8
  split_code : VarInt.split 4 (code ++ body) = some (code, body)
  value_code : VarInt.value code = body.length

namespace WirePacket

def bytes (p : WirePacket) : List UInt8 := p.header :: (p.code ++ p.body)

theorem length_bytes (p : WirePacket) : p.bytes.length = 1 + p.code.length + p.body.length := by
  rw [bytes, List.length_cons, List.length_append]
  omega

/-- How far the slices of the receive buffer go: to the end of the packet, and as far again
as the body had got before its last fragment. -/
def reach (cut : Nat → Nat) (reads : Nat) (p : WirePacket) : Nat :=
  p.bytes.length + beforeLast cut (reads + 1 + p.code.length) p.body.length

theorem reach_le (cut : Nat → Nat) (reads : Nat) (p : WirePacket) :
    p.reach cut reads ≤ p.bytes.length + p.body.length := by
  rw [reach]
  by_cases hnil : p.body.length = 0
  · rw [beforeLast_of_eq (by rw [hnil, size]; omega)]
    omega
  · have hlt : beforeLast cut (reads + 1 + p.code.length) p.body.length < p.body.length :=
      beforeLast_lt (by omega)
    omega

end WirePacket

namespace RawMqttClient

section Packet

variable (peer : Peer) {c : RawMqttClient cap} {w : Link} {turns : Nat}

/-- The rest of a packet, once its length is known. -/
theorem receiveBody_packet (w : Link) (p : WirePacket) {writer : BuffWriter} {rest : List UInt8}
    (hold : Holds c writer (p.header :: p.code)) (hin : w.incoming = p.body ++ rest)
    (hhead : (p.header :: p.code).length ≤ c.recvBuffer.length) (hturns : p.body.length ≤ turns) :
    (p.bytes.length + beforeLast peer.cut w.reads p.body.length ≤ c.recvBuffer.length → ∃ c' reads,
      (receiveBody p.body.length (p.header :: p.code).length turns writer 0).runOn
          (link peer) c w =
        (.returned (.ok p.bytes.length) c', { w with incoming := rest, reads }) ∧
      Refilled c c' ∧ c'.buffer.take p.bytes.length = p.bytes) ∧
    (c.recvBuffer.length < p.bytes.length + beforeLast peer.cut w.reads p.body.length → ∃ c' w',
      (receiveBody p.body.length (p.header :: p.code).length turns writer 0).runOn
        (link peer) c w = (.panicked c', w')) := by
  have hbytes : p.bytes = p.header :: p.code ++ p.body := rfl
  have hlen : p.bytes.length = (p.header :: p.code).length + p.body.length := by
    rw [hbytes, List.length_append]
  by_cases hnil : p.body = []
  · have hzero : p.body.length = 0 := by rw [hnil, List.length_nil]
    have hlast : beforeLast peer.cut w.reads p.body.length = 0 :=
      beforeLast_of_eq (by rw [hzero, size]; omega)
    have hhold : Holds c writer p.bytes := by
      rw [hbytes, hnil, List.append_nil]
      exact hold
    refine ⟨fun _ => ⟨c, w.reads, ?_, .refl c, hhold.take⟩, fun hlt => ?_⟩
    · have hrest : rest = w.incoming := by rw [hin, hnil, List.nil_append]
      rw [receiveBody_done peer turns hhold (by omega), hlen, Nat.add_comm, hrest]
    · omega
  · rw [← List.append_nil (p.header :: p.code)] at hold
    have hbody := receiveBody_spec peer hold hin hnil hturns
    simp only [List.length_nil, Nat.zero_add, Nat.add_zero, List.nil_append] at hbody
    rw [Nat.add_comm p.body.length, ← hlen, ← hbytes] at hbody
    exact hbody

/-- The first byte and the length of a packet. -/
theorem receivePacket_head (hc : Sized c) (p : WirePacket) {rest : List UInt8}
    (hin : w.incoming = p.header :: p.code ++ rest) (turns : Nat) :
    ((p.header :: p.code).length ≤ c.recvBuffer.length → ∃ c' writer,
      (receivePacket turns).runOn (link peer) c w =
        (receiveBody p.body.length (p.header :: p.code).length turns writer 0).runOn
          (link peer) c'
          { w with incoming := rest, reads := w.reads + (p.header :: p.code).length } ∧
      Refilled c c' ∧ Holds c' writer (p.header :: p.code)) ∧
    (c.recvBuffer.length < (p.header :: p.code).length → ∃ c' w',
      (receivePacket turns).runOn (link peer) c w = (.panicked c', w')) := by
  have hle := (VarInt.split_eq_some p.split_code).2.2
  have hcount : 1 + p.code.length = (p.header :: p.code).length := Nat.add_comm _ _
  have hturns : (p.header :: p.code).length ≤ 5 := by omega
  obtain ⟨hok, hbad⟩ := receiveHeader_spec peer (isLengthField_of_split p.split_code)
    (List.nil_append _) (List.cons_ne_nil _ _) (holds_new hc) hin hturns
  rw [List.length_nil, hcount] at hok hbad
  rw [receivePacket, runOn_bind_of_ok (runOn_gets _ _ _), runOn_bind_of_ok (runOn_gets _ _ _)]
  constructor
  · intro hhead
    obtain ⟨c₁, writer, hheader, hrefilled, hold⟩ := hok hhead
    refine ⟨c₁, writer, ?_, hrefilled, hold⟩
    have hdecode : (orBuffError (VariableByteIntegerDecoder.decode (.ofBytes p.code)) :
        ClientM cap UInt32) = pure (UInt32.ofNat p.body.length) := by
      rw [decode_ofBytes p.split_code, p.value_code]
      rfl
    have hmax : (UInt32.ofNat p.body.length).toNat = p.body.length := by
      have hlt := VarInt.value_lt_of_split p.split_code
      rw [p.value_code, limit_four] at hlt
      exact toNat_ofNat_of_le (by omega)
    rw [runOn_bind_of_ok hheader]
    simp only [hdecode, runOn_bind_of_ok (runOn_pure _ _ _), hmax]
  · intro hhead
    obtain ⟨c', w', hpanic⟩ := hbad hhead
    exact ⟨c', w', runOn_bind_of_panicked hpanic⟩

/-- **One packet**, whatever follows it: it is received where its reach is within the receive
buffer, and is a panic otherwise. -/
theorem receivePacket_packet (hc : Sized c) (p : WirePacket) {rest : List UInt8}
    (hin : w.incoming = p.bytes ++ rest) (hturns : p.body.length ≤ turns) :
    (p.reach peer.cut w.reads ≤ c.recvBuffer.length → ∃ c' reads,
      (receivePacket turns).runOn (link peer) c w =
        (.returned (.ok p.bytes.length) c', { w with incoming := rest, reads }) ∧
      Refilled c c' ∧ c'.buffer.take p.bytes.length = p.bytes) ∧
    (c.recvBuffer.length < p.reach peer.cut w.reads → ∃ c' w',
      (receivePacket turns).runOn (link peer) c w = (.panicked c', w')) := by
  have hlen := p.length_bytes
  have hcount : 1 + p.code.length = (p.header :: p.code).length := Nat.add_comm _ _
  rw [WirePacket.bytes, ← List.cons_append, List.append_assoc] at hin
  rw [WirePacket.reach, Nat.add_assoc w.reads, hcount]
  obtain ⟨hok, hbad⟩ := receivePacket_head peer hc p hin turns
  by_cases hhead : (p.header :: p.code).length ≤ c.recvBuffer.length
  · obtain ⟨c₁, writer, hhead', hrefilled, hold⟩ := hok hhead
    rw [hhead', ← hrefilled.recvBuffer]
    rw [← hrefilled.recvBuffer] at hhead
    obtain ⟨hend, hpanic⟩ := receiveBody_packet peer { w with
      incoming := p.body ++ rest
      reads := w.reads + (p.header :: p.code).length } p hold rfl hhead hturns
    refine ⟨fun hle' => ?_, hpanic⟩
    obtain ⟨c', reads, hrun, hrefilled', hbuf⟩ := hend hle'
    exact ⟨c', reads, hrun, hrefilled.trans hrefilled', hbuf⟩
  · refine ⟨fun hle' => ?_, fun _ => hbad (by omega)⟩
    omega

def sampleClient (room : Nat) : RawMqttClient 5 :=
  .new (List.replicate room 0) room (List.replicate room 0) room (.new .mqttv5 ⟨0⟩)

theorem sized_sampleClient (room : Nat) : Sized (sampleClient room) := by
  constructor <;> simp [sampleClient, RawMqttClient.new]

/-- A broker that sends two bytes at a time. -/
def byTwo : Peer where
  cut _ := 2
  ending := .closed
  reply _ := []

def samplePacket : WirePacket where
  header := 0x30
  code := [4]
  body := [0, 1, 97, 120]
  split_code := rfl
  value_code := rfl

end Packet

end RawMqttClient

end Toucan.Mqtt
