import Toucan.Modbus.Client

/-!
# Toucan.Modbus.ServerStream

What client mode makes of a stream of TCP responses.  The socket hands out what
has arrived, and `receive` does not look at how much of the header it got: a
header in pieces shifts the boundaries of all that follows, and so does a response
that is too long for the buffer.

`treatedInOrder_iff` says for which responses and which pieces the boundaries are
kept.
-/

namespace Toucan.Modbus.Client

open Async

/-! ## The server's stream -/

/-- The bytes still to come on an open socket, and the number of reads so far. -/
structure Wire where
  bytes : List UInt8
  reads : Nat

/-- What a read of up to `n` bytes gets: at least one byte, as many as `cut` says
for this read, and never more than there are. -/
def size (cut : Nat → Nat) (reads n : Nat) : Nat := min (max 1 (cut reads)) n

/-- A server that sends these bytes and keeps the connection open; the socket
splits them into reads as `cut` says. -/
def wire (cut : Nat → Nat) : Handler Wire Ans
  | .sockRead n, w =>
    if w.bytes = [] then none
    else
      let got := w.bytes.take (size cut w.reads n)
      some (.ok ⟨got, Nat.le_trans (List.length_take_le _ _) (Nat.min_le_right _ _)⟩,
        ⟨w.bytes.drop (size cut w.reads n), w.reads + 1⟩)
  | _, _ => none

/-- A response, by its fields; the length field is that of the body. -/
structure ResponseAdu where
  transactionId : UInt16
  protocolId : UInt16
  body : List UInt8
  length_lt : body.length < 65536

/-- The MBAP header. -/
def ResponseAdu.header (a : ResponseAdu) : List UInt8 :=
  toBeBytes a.transactionId ++ toBeBytes a.protocolId ++ toBeBytes (UInt16.ofNat a.body.length)

def ResponseAdu.bytes (a : ResponseAdu) : List UInt8 := a.header ++ a.body

/-- A call of `receive`: how it ended, and the stream before and after it. -/
structure Reception where
  outcome : Outcome Gateway (Except ModbusError Nat)
  before : List UInt8
  after : List UInt8

/-- One call after the other, each on a gateway of its own. -/
def receptions (cut : Nat → Nat) : List Gateway → Wire → List Reception
  | [], _ => []
  | g :: gs, w =>
    let r := receive.runOn (wire cut) g w
    ⟨r.1, w.bytes, r.2.bytes⟩ :: receptions cut gs r.2

/-! ## Responses in order -/

/-- The call begins at the ADU and takes nothing of `rest`.  It returns exactly
the bytes of the ADU, or `Push` when they do not fit in the buffer; so the result
is the same however the stream is split. -/
structure Treats (c : Reception) (a : ResponseAdu) (rest : List UInt8) : Prop where
  before : c.before = a.bytes ++ rest
  within : ∃ unread, unread <:+ a.bytes ∧ c.after = unread ++ rest
  fits : a.bytes.length ≤ 512 → ∃ g', c.outcome = .returned (.ok a.bytes.length) g' ∧
    g'.tcpResponse.toList = a.bytes ∧ c.after = rest
  tooLong : 512 < a.bytes.length → ∃ g', c.outcome = .returned (.error .push) g'

/-- The responses on the wire, one after the other. -/
def serverStream (calls : List (Gateway × ResponseAdu)) : List UInt8 :=
  calls.flatMap fun call => call.2.bytes

/-- The `k`-th reception treats the `k`-th ADU. -/
def TreatsEach (cs : List Reception) (calls : List (Gateway × ResponseAdu)) : Prop :=
  ∀ (k : Nat) (g : Gateway) (a : ResponseAdu), calls[k]? = some (g, a) →
    ∃ c, cs[k]? = some c ∧ Treats c a (serverStream (calls.drop (k + 1)))

/-- As many calls as there are ADUs, on any gateways, treat them in order. -/
def TreatedInOrder (cut : Nat → Nat) (calls : List (Gateway × ResponseAdu)) : Prop :=
  TreatsEach (receptions cut (calls.map Prod.fst) ⟨serverStream calls, 0⟩) calls

/-- Every header arrives in one read, and no response but the last has more bytes
than `receive` takes before it gives up.  (Five bytes of the last header do when
its length is hopeless anyway.) -/
def KeptWhole (cut : Nat → Nat) : Nat → List ResponseAdu → Prop
  | _, [] => True
  | reads, [a] => 6 ≤ cut reads ∨ (cut reads = 5 ∧ 512 ≤ a.body.length)
  | reads, a :: b :: adus =>
    6 ≤ cut reads ∧ a.body.length ≤ 507 ∧ KeptWhole cut (reads + 1 + a.body.length) (b :: adus)

/-! ## One call -/

theorem wire_sockRead (cut : Nat → Nat) (n : Nat) {w : Wire} (h : w.bytes ≠ []) :
    ∃ got : BoundedVec UInt8 n, got.toList = w.bytes.take (size cut w.reads n) ∧
      wire cut (.sockRead n) w =
        some (.ok got, ⟨w.bytes.drop (size cut w.reads n), w.reads + 1⟩) := by
  have hle : (w.bytes.take (size cut w.reads n)).length ≤ n :=
    Nat.le_trans (List.length_take_le _ _) (Nat.min_le_right _ _)
  exact ⟨⟨w.bytes.take (size cut w.reads n), hle⟩, rfl, by rw [wire, if_neg h]⟩

theorem size_one (cut : Nat → Nat) (reads : Nat) : size cut reads 1 = 1 := by
  rw [size]
  omega

/-- One turn of the loop takes one byte, and fails when there is no room for it. -/
theorem runOn_receiveBytes_succ (cut : Nat → Nat) (n : Nat) (buf : Vector UInt8 1) (g : Gateway)
    (b : UInt8) (s : List UInt8) (reads : Nat) :
    ∃ buf',
      (∀ response, g.tcpResponse.push b = some response →
        (receiveBytes (n + 1) buf).runOn (wire cut) g ⟨b :: s, reads⟩ =
          (receiveBytes n buf').runOn (wire cut) { g with tcpResponse := response }
            ⟨s, reads + 1⟩) ∧
      (g.tcpResponse.push b = none →
        (receiveBytes (n + 1) buf).runOn (wire cut) g ⟨b :: s, reads⟩ =
          (.returned (.error .push) g, ⟨s, reads + 1⟩)) := by
  have hne : (⟨b :: s, reads⟩ : Wire).bytes ≠ [] := List.cons_ne_nil b s
  obtain ⟨got, hgot, hread⟩ := wire_sockRead cut 1 hne
  rw [size_one] at hgot hread
  have hgot' : got = ⟨[b], Nat.le_refl 1⟩ := BoundedVec.ext hgot
  have hfirst : byte (fill buf got) = b := by
    rw [hgot']
    rfl
  refine ⟨fill buf got, fun response hpush => ?_, fun hpush => ?_⟩
  · rw [receiveBytes, runOn_bind_of_ok (runOn_await_of_some hread g)]
    rw [runOn_bind_of_ok (runOn_orFail_ok _ _ _ _), runOn_bind_of_ok (runOn_gets _ _ _)]
    simp only [hfirst, hpush]
    rfl
  · rw [receiveBytes, runOn_bind_of_ok (runOn_await_of_some hread g)]
    rw [runOn_bind_of_ok (runOn_orFail_ok _ _ _ _), runOn_bind_of_ok (runOn_gets _ _ _)]
    simp only [hfirst, hpush]
    rfl

/-- The loop takes as many bytes as it counts, when they fit. -/
theorem runOn_receiveBytes (cut : Nat → Nat) {n : Nat} (buf : Vector UInt8 1) {g : Gateway}
    {s : List UInt8} (reads : Nat) (hn : n ≤ s.length)
    (hroom : g.tcpResponse.toList.length + n ≤ 512) :
    ∃ g', (receiveBytes n buf).runOn (wire cut) g ⟨s, reads⟩ =
        (.returned (.ok ()) g', ⟨s.drop n, reads + n⟩) ∧ Agrees g g' ∧
      g'.tcpResponse.toList = g.tcpResponse.toList ++ s.take n := by
  induction n generalizing buf g s reads with
  | zero => exact ⟨g, rfl, Agrees.refl g, by rw [List.take_zero, List.append_nil]⟩
  | succ n ih =>
      cases s with
      | nil => contradiction
      | cons b s =>
          have hroom' : g.tcpResponse.toList.length < 512 := by omega
          obtain ⟨response, hpush, hlist⟩ := BoundedVec.exists_push b hroom'
          obtain ⟨buf', hpushed, _⟩ := runOn_receiveBytes_succ cut n buf g b s reads
          have hturn := hpushed response hpush
          have hn' : n ≤ s.length := Nat.le_of_succ_le_succ hn
          have hlen : response.toList.length = g.tcpResponse.toList.length + 1 := by
            rw [hlist, List.length_append, List.length_singleton]
          have hroom1 : ({ g with tcpResponse := response } : Gateway).tcpResponse.toList.length +
              n ≤ 512 := by
            show response.toList.length + n ≤ 512
            omega
          obtain ⟨g', hrun, hagrees, hlist'⟩ := ih buf' (reads + 1) hn' hroom1
          have hreads : reads + 1 + n = reads + (n + 1) := by omega
          refine ⟨g', ?_, ⟨hagrees.counter, hagrees.txEn⟩, ?_⟩
          · rw [hturn]
            show (receiveBytes n buf').runOn _ _ _ = _
            rw [hrun, hreads, List.drop_succ_cons]
          · rw [hlist']
            show response.toList ++ s.take n = _
            rw [hlist, List.append_assoc, List.take_succ_cons]
            rfl

/-- The loop gives up at the first byte too many, having read it. -/
theorem runOn_receiveBytes_push (cut : Nat → Nat) {n m : Nat} (buf : Vector UInt8 1) {g : Gateway}
    {s : List UInt8} (reads : Nat) (hroom : g.tcpResponse.toList.length + m = 512) (hm : m < n)
    (hs : m < s.length) :
    ∃ g', (receiveBytes n buf).runOn (wire cut) g ⟨s, reads⟩ =
      (.returned (.error .push) g', ⟨s.drop (m + 1), reads + (m + 1)⟩) := by
  induction n generalizing buf g s reads m with
  | zero => contradiction
  | succ n ih =>
      cases s with
      | nil => contradiction
      | cons b s =>
          obtain ⟨buf', hpushed, hfailed⟩ := runOn_receiveBytes_succ cut n buf g b s reads
          cases m with
          | zero =>
              have hfull : g.tcpResponse.push b = none := by
                cases hp : g.tcpResponse.push b with
                | none => rfl
                | some response =>
                    have hle := response.length_le
                    rw [BoundedVec.extendFromSlice_eq_some.mp hp, List.length_append,
                      List.length_singleton] at hle
                    omega
              exact ⟨g, hfailed hfull⟩
          | succ m =>
              have hroom' : g.tcpResponse.toList.length < 512 := by omega
              obtain ⟨response, hpush, hlist⟩ := BoundedVec.exists_push b hroom'
              have hturn := hpushed response hpush
              have hlen : response.toList.length = g.tcpResponse.toList.length + 1 := by
                rw [hlist, List.length_append, List.length_singleton]
              have hroom1 : ({ g with tcpResponse := response } : Gateway).tcpResponse.toList.length +
                  m = 512 := by
                show response.toList.length + m = 512
                omega
              obtain ⟨g', hrun⟩ := ih buf' (reads + 1) hroom1 (Nat.lt_of_succ_lt_succ hm)
                (Nat.lt_of_succ_lt_succ hs)
              have hreads : reads + 1 + (m + 1) = reads + (m + 1 + 1) := by omega
              refine ⟨g', ?_⟩
              rw [hturn]
              show (receiveBytes n buf').runOn _ _ _ = _
              rw [hrun, hreads, List.drop_succ_cons]

/-- The header buffer after its one read: zeros stand for what has not arrived. -/
def headerRead (m : Nat) (s : List UInt8) : List UInt8 := s.take m ++ List.replicate (6 - m) 0

/-- The length the header buffer announces. -/
def announced (m : Nat) (hi lo : UInt8) : Nat :=
  if 6 ≤ m then (fromBeBytes hi lo).toNat else if m = 5 then (fromBeBytes hi 0).toNat else 0

theorem toList_headerBuf_of_read {got : BoundedVec UInt8 6} {tail : List UInt8} {m : Nat}
    (hgot : got.toList = (t1 :: t2 :: p1 :: p2 :: hi :: lo :: tail).take m) (hm : 1 ≤ m ∧ m ≤ 6) :
    (headerBuf got).toList = headerRead m (t1 :: t2 :: p1 :: p2 :: hi :: lo :: tail) := by
  show got.toList ++ ((Vector.replicate 6 (0 : UInt8)).toList).drop got.toList.length = _
  rw [hgot, headerRead]
  have hcases : m = 1 ∨ m = 2 ∨ m = 3 ∨ m = 4 ∨ m = 5 ∨ m = 6 := by omega
  rcases hcases with rfl | rfl | rfl | rfl | rfl | rfl <;> rfl

/-- What the header buffer announces after a read of `m` bytes. -/
theorem lengthField_of_read {got : BoundedVec UInt8 6} {tail : List UInt8} {m : Nat}
    (hgot : got.toList = (t1 :: t2 :: p1 :: p2 :: hi :: lo :: tail).take m) (hm : 1 ≤ m ∧ m ≤ 6) :
    (fromBeBytes (lengthHigh got) (lengthLow got)).toNat = announced m hi lo := by
  have hlist := toList_headerBuf_of_read hgot hm
  have hhigh : lengthHigh got = (headerBuf got).toList.getD 4 0 := by
    simp [lengthHigh]
  have hlow : lengthLow got = (headerBuf got).toList.getD 5 0 := by
    simp [lengthLow]
  have hzero : (fromBeBytes 0 0).toNat = 0 := by decide
  rw [hhigh, hlow, hlist]
  have hcases : m = 1 ∨ m = 2 ∨ m = 3 ∨ m = 4 ∨ m = 5 ∨ m = 6 := by omega
  rcases hcases with rfl | rfl | rfl | rfl | rfl | rfl
  · exact hzero
  · exact hzero
  · exact hzero
  · exact hzero
  · rfl
  · rfl

/-- `receive` up to the loop. -/
theorem runOn_receive_header (cut : Nat → Nat) (g : Gateway) {s tail : List UInt8} (reads : Nat)
    (hs : s = t1 :: t2 :: p1 :: p2 :: hi :: lo :: tail) {m : Nat} (hm : size cut reads 6 = m) :
    ∃ header : ResponsePayload, header.toList = headerRead m s ∧
      header.toList.length = 6 ∧
      receive.runOn (wire cut) g ⟨s, reads⟩ =
        (do
          receiveBytes (announced m hi lo) (.replicate 1 0)
          gets fun g => g.tcpResponse.toList.length : Bridge Nat).runOn (wire cut)
          { g with tcpResponse := header } ⟨s.drop m, reads + 1⟩ := by
  subst hs
  have hne : (⟨t1 :: t2 :: p1 :: p2 :: hi :: lo :: tail, reads⟩ : Wire).bytes ≠ [] :=
    List.cons_ne_nil t1 _
  obtain ⟨got, hgot, hread⟩ := wire_sockRead cut 6 hne
  rw [hm] at hgot hread
  have hsix : 1 ≤ m ∧ m ≤ 6 := by
    rw [← hm, size]
    omega
  have hlist := toList_headerBuf_of_read hgot hsix
  have hlen : (headerBuf got).toList.length = 6 := Vector.length_toList
  have hroom : (BoundedVec.empty : ResponsePayload).toList.length +
      (headerBuf got).toList.length ≤ 512 := by
    rw [hlen]
    decide
  obtain ⟨header, hextend, hheader⟩ := BoundedVec.exists_extend hroom
  rw [BoundedVec.toList_empty, List.nil_append] at hheader
  have hextend' : (BoundedVec.empty : ResponsePayload).extend
      (fill (.replicate 6 0) got).toList = some header := hextend
  have hannounced : (fromBeBytes (fill (.replicate 6 0) got)[4] (fill (.replicate 6 0) got)[5]).toNat =
      announced m hi lo := lengthField_of_read hgot hsix
  refine ⟨header, by rw [hheader, hlist], by rw [hheader, hlen], ?_⟩
  rw [receive, runOn_bind_of_ok (runOn_modify _ _ _)]
  rw [runOn_bind_of_ok (runOn_await_of_some hread _), runOn_bind_of_ok (runOn_orFail_ok _ _ _ _)]
  rw [runOn_bind_of_ok (runOn_gets _ _ _), hextend', runOn_bind_of_ok (runOn_ofOption_some _ _ _)]
  rw [runOn_bind_of_ok (runOn_modify _ _ _)]
  simp only [hannounced]

/-- A response that fits is returned. -/
theorem runOn_receive_fits (cut : Nat → Nat) (g : Gateway) {s tail : List UInt8} (reads : Nat)
    (hs : s = t1 :: t2 :: p1 :: p2 :: hi :: lo :: tail) {m : Nat} (hm : size cut reads 6 = m)
    (hlen : announced m hi lo ≤ (s.drop m).length) (hfits : announced m hi lo ≤ 506) :
    ∃ g', receive.runOn (wire cut) g ⟨s, reads⟩ =
        (.returned (.ok (6 + announced m hi lo)) g',
          ⟨(s.drop m).drop (announced m hi lo), reads + 1 + announced m hi lo⟩) ∧
      Agrees g g' ∧ g'.tcpResponse.toList = headerRead m s ++ (s.drop m).take (announced m hi lo) := by
  obtain ⟨header, hheader, hsix, hreceive⟩ := runOn_receive_header cut g reads hs hm
  have hroom : ({ g with tcpResponse := header } : Gateway).tcpResponse.toList.length +
      announced m hi lo ≤ 512 := by
    show header.toList.length + announced m hi lo ≤ 512
    omega
  obtain ⟨g', hloop, hagrees, hlist⟩ :=
    runOn_receiveBytes cut (.replicate 1 0) (reads + 1) hlen hroom
  have hlist' : g'.tcpResponse.toList = headerRead m s ++ (s.drop m).take (announced m hi lo) := by
    rw [hlist]
    show header.toList ++ _ = _
    rw [hheader]
  have hcount : g'.tcpResponse.toList.length = 6 + announced m hi lo := by
    rw [hlist, List.length_append, List.length_take, Nat.min_eq_left hlen]
    show header.toList.length + _ = _
    rw [hsix]
  refine ⟨g', ?_, ⟨hagrees.counter, hagrees.txEn⟩, hlist'⟩
  rw [hreceive, runOn_bind_of_ok hloop, runOn_gets, hcount]

/-- A response that does not fit is given up at the first byte too many. -/
theorem runOn_receive_push (cut : Nat → Nat) (g : Gateway) {s tail : List UInt8} (reads : Nat)
    (hs : s = t1 :: t2 :: p1 :: p2 :: hi :: lo :: tail) {m : Nat} (hm : size cut reads 6 = m)
    (hlen : 507 ≤ (s.drop m).length) (hlong : 507 ≤ announced m hi lo) :
    ∃ g', receive.runOn (wire cut) g ⟨s, reads⟩ =
      (.returned (.error .push) g', ⟨(s.drop m).drop 507, reads + 1 + 507⟩) := by
  obtain ⟨header, _, hsix, hreceive⟩ := runOn_receive_header cut g reads hs hm
  have hroom : ({ g with tcpResponse := header } : Gateway).tcpResponse.toList.length +
      506 = 512 := by
    show header.toList.length + 506 = 512
    omega
  obtain ⟨g', hloop⟩ :=
    runOn_receiveBytes_push cut (.replicate 1 0) (reads + 1) hroom hlong hlen
  exact ⟨g', by rw [hreceive, runOn_bind_of_error hloop]⟩

/-! ## One response -/

theorem ResponseAdu.bytes_append (a : ResponseAdu) (rest : List UInt8) :
    ∃ t1 t2 p1 p2 hi lo, a.header = [t1, t2, p1, p2, hi, lo] ∧
      a.bytes ++ rest = t1 :: t2 :: p1 :: p2 :: hi :: lo :: (a.body ++ rest) ∧
      (fromBeBytes hi lo).toNat = a.body.length ∧
      (fromBeBytes hi 0).toNat = a.body.length / 256 * 256 := by
  have hlt := a.length_lt
  have hcount : (UInt16.ofNat a.body.length).toNat = a.body.length := by
    rw [UInt16.toNat_ofNat']
    exact Nat.mod_eq_of_lt hlt
  have hlen := fromBeBytes_toBeBytes (UInt16.ofNat a.body.length)
  refine ⟨_, _, _, _, UInt8.ofNat ((UInt16.ofNat a.body.length).toNat / 256),
    UInt8.ofNat (UInt16.ofNat a.body.length).toNat, rfl, rfl, ?_, ?_⟩
  · rw [hlen, hcount]
  · rw [hcount, fromBeBytes, UInt16.toNat_ofNat', UInt8.toNat_ofNat']
    show (a.body.length / 256 % 256 * 256 + 0) % 65536 = _
    omega

theorem ResponseAdu.length_header (a : ResponseAdu) : a.header.length = 6 := rfl

theorem ResponseAdu.length_bytes (a : ResponseAdu) : a.bytes.length = 6 + a.body.length := by
  rw [bytes, List.length_append, a.length_header]

/-- The header buffer announces `n` bytes after a read of `m`. -/
structure Announces (a : ResponseAdu) (m n : Nat) : Prop where
  whole : m = 6 → n = a.body.length
  five : m = 5 → n = a.body.length / 256 * 256
  less : m < 5 → n = 0

theorem Announces.le {a : ResponseAdu} {m n : Nat} (h : Announces a m n) (hm : m ≤ 6) :
    n ≤ a.body.length := by
  have hwhole := h.whole
  have hfive := h.five
  have hless := h.less
  omega

/-- How a call ends that begins at an ADU, reads `m` bytes for a header and is
told to read `n` more. -/
inductive Ends (g : Gateway) (a : ResponseAdu) (rest : List UInt8) (reads m n : Nat) :
    Outcome Gateway (Except ModbusError Nat) × Wire → Prop
  | returned (hn : n ≤ 506) (g' : Gateway) (hagrees : Agrees g g')
      (hbytes : m = 6 → g'.tcpResponse.toList = a.bytes) :
    Ends g a rest reads m n
      (.returned (.ok (6 + n)) g', ⟨(a.bytes ++ rest).drop (m + n), reads + 1 + n⟩)
  | gaveUp (hn : 507 ≤ n) (g' : Gateway) :
    Ends g a rest reads m n
      (.returned (.error .push) g', ⟨(a.bytes ++ rest).drop (m + 507), reads + 1 + 507⟩)

theorem receive_adu (cut : Nat → Nat) (g : Gateway) (a : ResponseAdu) (rest : List UInt8)
    (reads : Nat) :
    ∃ n, Announces a (size cut reads 6) n ∧
      Ends g a rest reads (size cut reads 6) n
        (receive.runOn (wire cut) g ⟨a.bytes ++ rest, reads⟩) := by
  obtain ⟨t1, t2, p1, p2, hi, lo, hheader, hs, hlen, hhigh⟩ := a.bytes_append rest
  generalize hm : size cut reads 6 = m
  have hsix : m ≤ 6 := by
    rw [← hm, size]
    omega
  have hannounces : Announces a m (announced m hi lo) := by
    refine ⟨fun h => ?_, fun h => ?_, fun h => ?_⟩
    · rw [h, announced, if_pos (Nat.le_refl 6), hlen]
    · rw [h, announced, if_neg (by decide), if_pos rfl, hhigh]
    · rw [announced, if_neg (by omega), if_neg (by omega)]
  have hle := hannounces.le hsix
  have hrest : ((a.bytes ++ rest).drop m).length = 6 + a.body.length + rest.length - m := by
    rw [List.length_drop, List.length_append, a.length_bytes]
  refine ⟨announced m hi lo, hannounces, ?_⟩
  by_cases hfits : announced m hi lo ≤ 506
  · have henough : announced m hi lo ≤ ((a.bytes ++ rest).drop m).length := by omega
    obtain ⟨g', hrun, hagrees, hlist⟩ := runOn_receive_fits cut g reads hs hm henough hfits
    rw [hrun, List.drop_drop]
    refine Ends.returned hfits g' hagrees fun h => ?_
    have hassoc : a.bytes ++ rest = a.header ++ (a.body ++ rest) := by
      rw [ResponseAdu.bytes, List.append_assoc]
    rw [hlist, hannounces.whole h, h, headerRead, hassoc, List.take_left' a.length_header,
      List.drop_left' a.length_header, List.take_left, Nat.sub_self, List.replicate_zero,
      List.append_nil, ResponseAdu.bytes]
  · have hlong : 507 ≤ announced m hi lo := by omega
    have henough : 507 ≤ ((a.bytes ++ rest).drop m).length := by omega
    obtain ⟨g', hrun⟩ := runOn_receive_push cut g reads hs hm henough hlong
    rw [hrun, List.drop_drop]
    exact Ends.gaveUp hlong g'

/-- What is left of an ADU and the rest after `k` of its bytes. -/
theorem drop_bytes_append {a : ResponseAdu} {k : Nat} (hk : k ≤ a.bytes.length) (rest : List UInt8) :
    ∃ unread, unread <:+ a.bytes ∧ (a.bytes ++ rest).drop k = unread ++ rest :=
  ⟨a.bytes.drop k, List.drop_suffix k a.bytes, List.drop_append_of_le_length hk⟩

/-- A header that arrives whole, or a last one of five bytes whose length is
hopeless: the ADU is treated. -/
theorem Ends.treats {g : Gateway} {a : ResponseAdu} {rest : List UInt8} {reads m n : Nat}
    {r : Outcome Gateway (Except ModbusError Nat) × Wire} (h : Ends g a rest reads m n r)
    (hn : Announces a m n) (hm : m = 6 ∨ (m = 5 ∧ 512 ≤ a.body.length)) :
    Treats ⟨r.1, a.bytes ++ rest, r.2.bytes⟩ a rest := by
  have hlen := a.length_bytes
  have hwhole := hn.whole
  have hfive := hn.five
  have hle : n ≤ a.body.length := hn.le (by omega)
  cases h with
  | returned hfits g' hagrees hbytes =>
      have hm6 : m = 6 := by omega
      have hend : m + n = a.bytes.length := by omega
      have hlist := hbytes hm6
      have hafter : (a.bytes ++ rest).drop (m + n) = rest := by
        rw [hend, List.drop_left]
      refine ⟨rfl, drop_bytes_append (Nat.le_of_eq hend) rest, fun _ => ?_, fun hlong => ?_⟩
      · refine ⟨g', ?_, hlist, hafter⟩
        rw [hlen, hwhole hm6]
      · omega
  | gaveUp hlong g' =>
      have hend : m + 507 ≤ a.bytes.length := by omega
      refine ⟨rfl, drop_bytes_append hend rest, fun hshort => ?_, fun _ => ⟨g', rfl⟩⟩
      omega

/-- A treated ADU had such a header. -/
theorem Ends.header_of_treats {g : Gateway} {a : ResponseAdu} {rest : List UInt8} {reads m n : Nat}
    {r : Outcome Gateway (Except ModbusError Nat) × Wire} (h : Ends g a rest reads m n r)
    (hn : Announces a m n) (hm : m ≤ 6)
    (ht : Treats ⟨r.1, a.bytes ++ rest, r.2.bytes⟩ a rest) :
    m = 6 ∨ (m = 5 ∧ 512 ≤ a.body.length) := by
  have hlen := a.length_bytes
  have hwhole := hn.whole
  have hfive := hn.five
  have hless := hn.less
  cases h with
  | returned hfits g' hagrees hbytes =>
      by_cases hshort : a.bytes.length ≤ 512
      · obtain ⟨_, _, _, hafter⟩ := ht.fits hshort
        have hcount := congrArg List.length hafter
        rw [List.length_drop, List.length_append] at hcount
        omega
      · obtain ⟨_, houtcome⟩ := ht.tooLong (Nat.not_le.mp hshort)
        nomatch houtcome
  | gaveUp hlong g' => omega

/-- A call that stops where the ADU does had a whole header and read on to the end. -/
theorem Ends.whole_of_rest {g : Gateway} {a : ResponseAdu} {rest : List UInt8} {reads m n : Nat}
    {r : Outcome Gateway (Except ModbusError Nat) × Wire} (h : Ends g a rest reads m n r)
    (hn : Announces a m n) (hm : m ≤ 6) (hafter : r.2.bytes = rest) :
    m = 6 ∧ a.body.length ≤ 507 := by
  have hlen := a.length_bytes
  have hwhole := hn.whole
  have hfive := hn.five
  have hless := hn.less
  have hcount := congrArg List.length hafter
  cases h with
  | returned hfits g' hagrees hbytes =>
      rw [List.length_drop, List.length_append] at hcount
      omega
  | gaveUp hlong g' =>
      rw [List.length_drop, List.length_append] at hcount
      omega

/-- And the next call begins there, so many reads later. -/
theorem Ends.wire_eq {g : Gateway} {a : ResponseAdu} {rest : List UInt8} {reads n : Nat}
    {r : Outcome Gateway (Except ModbusError Nat) × Wire} (h : Ends g a rest reads 6 n r)
    (hn : Announces a 6 n) (hle : a.body.length ≤ 507) :
    r.2 = ⟨rest, reads + 1 + a.body.length⟩ := by
  have hlen := a.length_bytes
  have hwhole := hn.whole rfl
  cases h with
  | returned hfits g' hagrees hbytes =>
      have hend : 6 + n = a.bytes.length := by omega
      rw [hend, List.drop_left, hwhole]
  | gaveUp hlong g' =>
      have hbody : a.body.length = 507 := by omega
      have hend : 6 + 507 = a.bytes.length := by omega
      rw [hend, List.drop_left, hbody]

/-! ## All responses -/

theorem size_le (cut : Nat → Nat) (reads : Nat) : size cut reads 6 ≤ 6 := Nat.min_le_right _ _

theorem size_six_iff {cut : Nat → Nat} {reads : Nat} : size cut reads 6 = 6 ↔ 6 ≤ cut reads := by
  rw [size]
  omega

theorem size_five_iff {cut : Nat → Nat} {reads : Nat} : size cut reads 6 = 5 ↔ cut reads = 5 := by
  rw [size]
  omega

theorem treatsEach_cons {c : Reception} {cs : List Reception} {g : Gateway} {a : ResponseAdu}
    {calls : List (Gateway × ResponseAdu)} :
    TreatsEach (c :: cs) ((g, a) :: calls) ↔ Treats c a (serverStream calls) ∧ TreatsEach cs calls := by
  constructor
  · intro h
    obtain ⟨c', hc, htreats⟩ := h 0 g a rfl
    have hc' : c = c' := Option.some.inj hc
    refine ⟨by rw [hc']; exact htreats, fun k g' a' hk => ?_⟩
    exact h (k + 1) g' a' hk
  · rintro ⟨htreats, h⟩ k g' a' hk
    cases k with
    | zero =>
        have hcall : (g, a) = (g', a') := Option.some.inj hk
        have ha : a = a' := (Prod.mk.inj hcall).2
        exact ⟨c, rfl, by rw [← ha]; exact htreats⟩
    | succ k => exact h k g' a' hk

/-- Calls that treat their ADUs began at them. -/
theorem bytes_of_treatsEach {cut : Nat → Nat} {w : Wire} {call : Gateway × ResponseAdu}
    {calls : List (Gateway × ResponseAdu)}
    (h : TreatsEach (receptions cut ((call :: calls).map Prod.fst) w) (call :: calls)) :
    w.bytes = serverStream (call :: calls) := by
  obtain ⟨htreats, _⟩ := treatsEach_cons.mp h
  exact htreats.before

theorem treatsEach_iff (cut : Nat → Nat) (calls : List (Gateway × ResponseAdu)) (reads : Nat) :
    TreatsEach (receptions cut (calls.map Prod.fst) ⟨serverStream calls, reads⟩) calls ↔
      KeptWhole cut reads (calls.map Prod.snd) := by
  induction calls generalizing reads with
  | nil => exact iff_of_true (fun _ _ _ h => nomatch h) trivial
  | cons call calls ih =>
      obtain ⟨g, a⟩ := call
      obtain ⟨n, hn, hends⟩ := receive_adu cut g a (serverStream calls) reads
      have hm := size_le cut reads
      have htreats := hends.treats hn
      have hheader := hends.header_of_treats hn hm
      have hwhole := hends.whole_of_rest hn hm
      rw [size_six_iff, size_five_iff] at htreats hheader
      rw [size_six_iff] at hwhole
      rw [List.map_cons, receptions, treatsEach_cons]
      cases calls with
      | nil =>
          constructor
          · rintro ⟨ht, _⟩
            exact hheader ht
          · intro hkept
            exact ⟨htreats hkept, fun _ _ _ h => nomatch h⟩
      | cons next calls =>
          constructor
          · rintro ⟨ht, hrest⟩
            obtain ⟨hsix, hle⟩ := hwhole (bytes_of_treatsEach hrest)
            rw [size_six_iff.mpr hsix] at hends hn
            refine ⟨hsix, hle, (ih _).mp ?_⟩
            rw [← hends.wire_eq hn hle]
            exact hrest
          · rintro ⟨hsix, hle, hkept⟩
            refine ⟨htreats (Or.inl hsix), ?_⟩
            rw [size_six_iff.mpr hsix] at hends hn
            have hw := hends.wire_eq hn hle
            have hstream : serverStream ((g, a) :: next :: calls) =
                a.bytes ++ serverStream (next :: calls) := rfl
            rw [hstream, hw]
            exact (ih _).mpr hkept

/-- **Responses in order**: `receive` treats the `k`-th response of a stream as
the `k`-th exactly when every header arrives in one read and every response but
the last has at most 507 bytes after its header. -/
theorem treatedInOrder_iff (cut : Nat → Nat) (calls : List (Gateway × ResponseAdu)) :
    TreatedInOrder cut calls ↔ KeptWhole cut 0 (calls.map Prod.snd) :=
  treatsEach_iff cut calls 0

/-! ### A header in two pieces -/

/-- The answer to a read of one register. -/
def oneRegister : ResponseAdu where
  transactionId := 1
  protocolId := 0
  body := [1, 3, 2, 0, 42]
  length_lt := by decide

/-- Four bytes arrive first: they are taken for a response without a body. -/
theorem not_treatedInOrder :
    ¬ ∀ (cut : Nat → Nat) (calls : List (Gateway × ResponseAdu)), TreatedInOrder cut calls := by
  intro h
  have horder := h (fun _ => 4)
    [({ counter := 1, txEn := false, rtuResponse := .empty, tcpRequest := .empty }, oneRegister)]
  have hkept : 6 ≤ 4 ∨ (4 = 5 ∧ 512 ≤ 5) := (treatsEach_iff _ _ 0).mp horder
  omega

end Toucan.Modbus.Client
