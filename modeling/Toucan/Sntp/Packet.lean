import Toucan.Lib.BigEndian

/-!
# Toucan.Sntp.Packet

The packet of `sntpc` and its bytes (`types.rs`).

A received packet is read as if the bytes were little-endian and then put in order
(`convert_from_network`), a packet to be sent is written big-endian at once.  On the target,
which is little-endian, the two are inverse to each other (`inverse_convertFromNetwork`).
-/

namespace Toucan.Sntp

structure NtpPacket where
  liVnMode : UInt8
  stratum : UInt8
  poll : Int8
  precision : Int8
  rootDelay : UInt32
  rootDispersion : UInt32
  refId : UInt32
  refTimestamp : UInt64
  originTimestamp : UInt64
  recvTimestamp : UInt64
  txTimestamp : UInt64
deriving DecidableEq

/-- As many bytes as an `NtpPacket` takes. -/
structure RawNtpPacket where
  bytes : List UInt8
  length_eq : bytes.length = 48
deriving DecidableEq

@[ext] theorem RawNtpPacket.ext {raw raw' : RawNtpPacket} (h : raw.bytes = raw'.bytes) :
    raw = raw' := by
  cases raw
  cases raw'
  cases h
  rfl

/-! ## Numbers -/

/-- `from_le_bytes` -/
def fromLeBytes (bs : List UInt8) : Nat := BigEndian.decode bs.reverse

/-- Numbers of `k` bytes that come from the network. -/
class NtpNum (T : Type) where
  size : Nat
  ofNat : Nat → T
  toNat : T → Nat
  ofNat_toNat : ∀ n, ofNat (toNat n) = n
  toNat_ofNat : ∀ n, n < Nat.pow 256 size → toNat (ofNat n) = n
  toNat_lt : ∀ n, toNat n < Nat.pow 256 size

instance : NtpNum UInt32 where
  size := 4
  ofNat := UInt32.ofNat
  toNat := UInt32.toNat
  ofNat_toNat _ := UInt32.ofNat_toNat
  toNat_ofNat _ h := UInt32.toNat_ofNat_of_lt' h
  toNat_lt n := n.toNat_lt

instance : NtpNum UInt64 where
  size := 8
  ofNat := UInt64.ofNat
  toNat := UInt64.toNat
  ofNat_toNat _ := UInt64.ofNat_toNat
  toNat_ofNat _ h := UInt64.toNat_ofNat_of_lt' h
  toNat_lt n := n.toNat_lt

namespace NtpNum

variable {T : Type} [NtpNum T]

/-- `to_be_bytes` -/
def networkBytes (n : T) : List UInt8 := BigEndian.encode (size T) (toNat n)

def ofLeBytes (bs : List UInt8) : T := ofNat (fromLeBytes bs)

/-- `to_be` on a little-endian target. -/
def ntohl (n : T) : T := ofNat (BigEndian.decode (networkBytes n).reverse)

theorem length_networkBytes (n : T) : (networkBytes n).length = size T :=
  BigEndian.length_encode _ _

theorem decode_lt {bs : List UInt8} (h : bs.length = size T) :
    BigEndian.decode bs < Nat.pow 256 (size T) :=
  h ▸ BigEndian.decode_lt bs

/-- Read in the one order and turned round is read in the other. -/
theorem ntohl_ofLeBytes {bs : List UInt8} (h : bs.length = size T) :
    ntohl (ofLeBytes bs : T) = ofNat (BigEndian.decode bs) := by
  have hlen : bs.reverse.length = size T := by rw [List.length_reverse, h]
  rw [ntohl, networkBytes, ofLeBytes, fromLeBytes, toNat_ofNat _ (decode_lt hlen), ← hlen,
    BigEndian.encode_decode, List.reverse_reverse]

theorem ntohl_ofLeBytes_networkBytes (n : T) : ntohl (ofLeBytes (networkBytes n)) = n := by
  rw [ntohl_ofLeBytes (length_networkBytes n), networkBytes, BigEndian.decode_encode (toNat_lt n),
    ofNat_toNat]

theorem networkBytes_ntohl_ofLeBytes {bs : List UInt8} (h : bs.length = size T) :
    networkBytes (ntohl (ofLeBytes bs) : T) = bs := by
  rw [ntohl_ofLeBytes h, networkBytes, toNat_ofNat _ (decode_lt h), ← h, BigEndian.encode_decode]

end NtpNum

open NtpNum

/-! ## Packets -/

namespace RawNtpPacket

def byte (raw : RawNtpPacket) (i : Nat) (h : i < 48) : UInt8 :=
  raw.bytes.get ⟨i, raw.length_eq ▸ h⟩

/-- `&val.0[i..j]` -/
def slice (raw : RawNtpPacket) (i j : Nat) : List UInt8 := (raw.bytes.drop i).take (j - i)

theorem length_slice (raw : RawNtpPacket) {i j : Nat} (h : j ≤ 48) :
    (raw.slice i j).length = j - i := by
  have hlen := raw.length_eq
  rw [slice, List.length_take, List.length_drop]
  omega

def default : RawNtpPacket := ⟨List.replicate 48 0, List.length_replicate⟩

/-- `From<&NtpPacket> for RawNtpPacket` -/
def ofPacket (val : NtpPacket) : RawNtpPacket where
  bytes := [val.liVnMode, val.stratum, val.poll.toUInt8, val.precision.toUInt8] ++
    networkBytes val.rootDelay ++ networkBytes val.rootDispersion ++ networkBytes val.refId ++
    networkBytes val.refTimestamp ++ networkBytes val.originTimestamp ++
    networkBytes val.recvTimestamp ++ networkBytes val.txTimestamp
  length_eq := by
    simp only [List.length_append, length_networkBytes]
    rfl

end RawNtpPacket

/-- `From<RawNtpPacket> for NtpPacket` -/
def NtpPacket.ofRaw (val : RawNtpPacket) : NtpPacket where
  liVnMode := val.byte 0 (by decide)
  stratum := val.byte 1 (by decide)
  poll := (val.byte 2 (by decide)).toInt8
  precision := (val.byte 3 (by decide)).toInt8
  rootDelay := ofLeBytes (val.slice 4 8)
  rootDispersion := ofLeBytes (val.slice 8 12)
  refId := ofLeBytes (val.slice 12 16)
  refTimestamp := ofLeBytes (val.slice 16 24)
  originTimestamp := ofLeBytes (val.slice 24 32)
  recvTimestamp := ofLeBytes (val.slice 32 40)
  txTimestamp := ofLeBytes (val.slice 40 48)

def convertFromNetwork (packet : NtpPacket) : NtpPacket :=
  { packet with
    rootDelay := ntohl packet.rootDelay
    rootDispersion := ntohl packet.rootDispersion
    refId := ntohl packet.refId
    refTimestamp := ntohl packet.refTimestamp
    originTimestamp := ntohl packet.originTimestamp
    recvTimestamp := ntohl packet.recvTimestamp
    txTimestamp := ntohl packet.txTimestamp }

/-- What is sent is what is received. -/
theorem convertFromNetwork_ofRaw (p : NtpPacket) :
    convertFromNetwork (.ofRaw (.ofPacket p)) = p := by
  have h (n : UInt64) : ntohl (ofLeBytes (networkBytes n) : UInt64) = n :=
    ntohl_ofLeBytes_networkBytes n
  have h' (n : UInt32) : ntohl (ofLeBytes (networkBytes n) : UInt32) = n :=
    ntohl_ofLeBytes_networkBytes n
  show NtpPacket.mk p.liVnMode p.stratum p.poll.toUInt8.toInt8 p.precision.toUInt8.toInt8
    (ntohl (ofLeBytes (networkBytes p.rootDelay)))
    (ntohl (ofLeBytes (networkBytes p.rootDispersion)))
    (ntohl (ofLeBytes (networkBytes p.refId))) (ntohl (ofLeBytes (networkBytes p.refTimestamp)))
    (ntohl (ofLeBytes (networkBytes p.originTimestamp)))
    (ntohl (ofLeBytes (networkBytes p.recvTimestamp)))
    (ntohl (ofLeBytes (networkBytes p.txTimestamp))) = p
  simp only [h, h', Int8.toInt8_toUInt8]

namespace RawNtpPacket

/-- A packet is its first four bytes and the fields behind them. -/
theorem bytes_eq (raw : RawNtpPacket) :
    raw.bytes = [raw.byte 0 (by decide), raw.byte 1 (by decide), raw.byte 2 (by decide),
      raw.byte 3 (by decide)] ++ raw.slice 4 8 ++ raw.slice 8 12 ++ raw.slice 12 16 ++
      raw.slice 16 24 ++ raw.slice 24 32 ++ raw.slice 32 40 ++ raw.slice 40 48 := by
  have hfront (i j : Nat) (h : i ≤ j) : raw.bytes.take j = raw.bytes.take i ++ raw.slice i j := by
    rw [slice, ← List.take_add, Nat.add_sub_cancel' h]
  have hfour : raw.bytes.take 4 = [raw.byte 0 (by decide), raw.byte 1 (by decide),
      raw.byte 2 (by decide), raw.byte 3 (by decide)] := by
    obtain ⟨bytes, hlen⟩ := raw
    match bytes, hlen with
    | _ :: _ :: _ :: _ :: _, _ => rfl
  rw [← hfour, ← hfront 4 8 (by decide), ← hfront 8 12 (by decide), ← hfront 12 16 (by decide),
    ← hfront 16 24 (by decide), ← hfront 24 32 (by decide), ← hfront 32 40 (by decide),
    ← hfront 40 48 (by decide), List.take_of_length_le (Nat.le_of_eq raw.length_eq)]

/-- Every packet that is received is the bytes of what it is taken for. -/
theorem ofPacket_convertFromNetwork (raw : RawNtpPacket) :
    ofPacket (convertFromNetwork (.ofRaw raw)) = raw := by
  have h (i j : Nat) (hj : j ≤ 48) (hij : j - i = 4) :
      networkBytes (ntohl (ofLeBytes (raw.slice i j)) : UInt32) = raw.slice i j :=
    networkBytes_ntohl_ofLeBytes ((raw.length_slice hj).trans hij)
  have h' (i j : Nat) (hj : j ≤ 48) (hij : j - i = 8) :
      networkBytes (ntohl (ofLeBytes (raw.slice i j)) : UInt64) = raw.slice i j :=
    networkBytes_ntohl_ofLeBytes ((raw.length_slice hj).trans hij)
  ext1
  simp only [ofPacket, convertFromNetwork, NtpPacket.ofRaw, UInt8.toUInt8_toInt8]
  rw [h 4 8 (by decide) rfl, h 8 12 (by decide) rfl, h 12 16 (by decide) rfl,
    h' 16 24 (by decide) rfl, h' 24 32 (by decide) rfl, h' 32 40 (by decide) rfl,
    h' 40 48 (by decide) rfl, ← bytes_eq]

end RawNtpPacket

/-- **Packets and their bytes**: what is written is read back as it was, and whatever bytes come,
they are those of the packet that they are read as. -/
theorem inverse_convertFromNetwork :
    Function.LeftInverse (fun raw => convertFromNetwork (.ofRaw raw)) RawNtpPacket.ofPacket ∧
      Function.RightInverse (fun raw => convertFromNetwork (.ofRaw raw)) RawNtpPacket.ofPacket :=
  ⟨convertFromNetwork_ofRaw, RawNtpPacket.ofPacket_convertFromNetwork⟩

end Toucan.Sntp
