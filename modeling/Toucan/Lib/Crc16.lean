/-!
# Toucan.Lib.Crc16

CRC-16/MODBUS, bit by bit: polynomial `0x8005` reflected, initial value `0xFFFF`,
no final exclusive or.  And the two byte orders of a `u16`.
-/

namespace Toucan

/-- `u16::to_le_bytes` -/
def toLeBytes (n : UInt16) : List UInt8 := [UInt8.ofNat n.toNat, UInt8.ofNat (n.toNat / 256)]

/-- `u16::to_be_bytes` -/
def toBeBytes (n : UInt16) : List UInt8 := [UInt8.ofNat (n.toNat / 256), UInt8.ofNat n.toNat]

/-- `u16::from_be_bytes` -/
def fromBeBytes (hi lo : UInt8) : UInt16 := UInt16.ofNat (hi.toNat * 256 + lo.toNat)

@[simp] theorem length_toLeBytes (n : UInt16) : (toLeBytes n).length = 2 := rfl

@[simp] theorem length_toBeBytes (n : UInt16) : (toBeBytes n).length = 2 := rfl

/-- Big-endian bytes read back. -/
theorem fromBeBytes_toBeBytes (n : UInt16) :
    fromBeBytes (UInt8.ofNat (n.toNat / 256)) (UInt8.ofNat n.toNat) = n := by
  have hn := n.toNat_lt
  have hsum : n.toNat / 256 % 256 * 256 + n.toNat % 256 = n.toNat := by omega
  rw [fromBeBytes, UInt8.toNat_ofNat', UInt8.toNat_ofNat']
  rw [hsum, UInt16.ofNat_toNat]

theorem toBeBytes_fromBeBytes (hi lo : UInt8) : toBeBytes (fromBeBytes hi lo) = [hi, lo] := by
  have hhi := hi.toNat_lt
  have hlo := lo.toNat_lt
  have hn : (fromBeBytes hi lo).toNat = hi.toNat * 256 + lo.toNat := by
    rw [fromBeBytes, UInt16.toNat_ofNat']
    omega
  have hhigh : (UInt8.ofNat ((fromBeBytes hi lo).toNat / 256)) = hi := by
    rw [← UInt8.toNat_inj, UInt8.toNat_ofNat', hn]
    omega
  have hlow : UInt8.ofNat (fromBeBytes hi lo).toNat = lo := by
    rw [← UInt8.toNat_inj, UInt8.toNat_ofNat', hn]
    omega
  rw [toBeBytes, hhigh, hlow]

namespace Crc16

/-- One bit of the division. -/
def bit (crc : UInt16) : UInt16 := if crc &&& 1 = 1 then (crc >>> 1) ^^^ 0xA001 else crc >>> 1

/-- One byte: its bits, the least significant first. -/
def byte (crc : UInt16) (b : UInt8) : UInt16 := Nat.repeat bit 8 (crc ^^^ b.toUInt16)

/-- The check value of a byte string. -/
def modbus (s : List UInt8) : UInt16 := s.foldl byte 0xFFFF

/-- The check value of the digits one to nine. -/
example : modbus [0x31, 0x32, 0x33, 0x34, 0x35, 0x36, 0x37, 0x38, 0x39] = 0x4B37 := by decide +kernel

end Crc16

end Toucan
