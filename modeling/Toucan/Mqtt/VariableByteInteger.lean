import Toucan.Lib.VarInt

/-!
# Toucan.Mqtt.VariableByteInteger

Lengths in an MQTT packet (`rust-mqtt`, `encoding/variable_byte_integer.rs` and
the errors of `utils/types.rs`): at most four bytes, in an array of four.

The loops of `len` and `decode` stop at the first byte without the top bit.  The
check in `decode` that would refuse a fifth byte comes after the array has been
indexed, so an array of four bytes with the top bit is a panic (`decode_eq`).
-/

namespace Toucan.Mqtt

/-! ## Errors -/

inductive BufferError where
  | utf8Error
  | insufficientBufferSize
  | variableByteIntegerError
  | idNotFound
  | encodingError
  | decodingError
  | packetTypeMismatch
  | wrongPacketToDecode
  | wrongPacketToEncode
  | propertyNotFound
deriving DecidableEq

/-- How a call on a buffer ends early. -/
inductive Fault where
  | error (e : BufferError)
  | panic
deriving DecidableEq

/-! ## The integers -/

/-- `[u8; 4]` -/
abbrev VariableByteInteger := Vector UInt8 4

/-- An array of zeros with some bytes in front. -/
def VariableByteInteger.ofBytes (bs : List UInt8) : VariableByteInteger :=
  ⟨((bs ++ List.replicate 4 0).take 4).toArray, by simp⟩

namespace VariableByteIntegerEncoder

/-- The loop of `encode`, for the `left` bytes that the array has still room for. -/
def encodeLoop : Nat → UInt32 → List UInt8
  | 0, _ => []
  | left + 1, target =>
    let encodedByte := (target % 128).toUInt8
    let target := target / 128
    if target > 0 then (encodedByte ||| 128) :: encodeLoop left target else [encodedByte]

def encode (target : UInt32) : Except Fault VariableByteInteger :=
  if target > 268435455 then .error (.error .encodingError)
  else .ok (.ofBytes (encodeLoop 4 target))

/-- The loop of `len`; behind the array is no byte to look at. -/
def lenLoop (i : Nat) : List UInt8 → Except Fault Nat
  | [] => .error .panic
  | encodedByte :: bs => if encodedByte &&& 128 = 0 then .ok (i + 1) else lenLoop (i + 1) bs

def len (varInt : VariableByteInteger) : Except Fault Nat := lenLoop 0 varInt.toList

end VariableByteIntegerEncoder

namespace VariableByteIntegerDecoder

/-- The loop of `decode`; behind the array is no byte to look at. -/
def decodeLoop (multiplier ret : UInt32) : List UInt8 → Except Fault UInt32
  | [] => .error .panic
  | encodedByte :: bs =>
    let ret := ret + (encodedByte &&& 127).toUInt32 * multiplier
    if multiplier > 128 * 128 * 128 then .error (.error .decodingError)
    else if encodedByte &&& 128 = 0 then .ok ret
    else decodeLoop (multiplier * 128) ret bs

def decode (encoded : VariableByteInteger) : Except Fault UInt32 := decodeLoop 1 0 encoded.toList

end VariableByteIntegerDecoder

/-! ## The bits -/

theorem toNat_and_127 (b : UInt8) : (b &&& 127).toNat = b.toNat % 128 := by
  have hbits : ∀ n, n < 256 → n &&& 127 = n % 128 := by decide +kernel
  rw [UInt8.toNat_and]
  exact hbits b.toNat b.toNat_lt

/-- The top bit. -/
theorem and_128_eq_zero_iff (b : UInt8) : b &&& 128 = 0 ↔ b < 128 := by
  have hbits : ∀ n, n < 256 → (n &&& 128 = 0 ↔ n < 128) := by decide +kernel
  have hb := hbits b.toNat b.toNat_lt
  rw [← UInt8.toNat_inj, UInt8.toNat_and, VarInt.lt_128_iff]
  exact hb

theorem or_128_eq {n : Nat} (h : n < 128) : UInt8.ofNat n ||| 128 = UInt8.ofNat (n + 128) := by
  have hbits : ∀ n, n < 128 → n ||| 128 = n + 128 := by decide +kernel
  rw [← UInt8.toNat_inj, UInt8.toNat_or, VarInt.toNat_ofNat_of_lt (by omega),
    VarInt.toNat_ofNat_of_lt (by omega)]
  exact hbits n h

/-! ## The codes -/

theorem limit_four : VarInt.limit 4 = 268435456 := rfl

theorem encodeLoop_eq (left : Nat) (target : UInt32) :
    VariableByteIntegerEncoder.encodeLoop left target = VarInt.encode left target.toNat := by
  induction left generalizing target with
  | zero => rfl
  | succ left ih =>
      have hbyte : (target % 128).toUInt8 = UInt8.ofNat (target.toNat % 128) := by
        rw [← UInt8.toNat_inj]
        simp
      have hquot : (target / 128).toNat = target.toNat / 128 := by simp
      have hpos : target / 128 > 0 ↔ ¬ target.toNat < 128 := by
        rw [gt_iff_lt, UInt32.lt_iff_toNat_lt, hquot]
        show 0 < target.toNat / 128 ↔ _
        omega
      simp only [VariableByteIntegerEncoder.encodeLoop, VarInt.encode, hpos, hbyte, ih, hquot]
      by_cases hlt : target.toNat < 128
      · rw [if_neg (not_not_intro hlt), if_pos hlt, Nat.mod_eq_of_lt hlt]
      · rw [if_pos hlt, if_neg hlt, or_128_eq (Nat.mod_lt _ (by decide))]

/-- What fits is encoded, in the fewest bytes. -/
theorem encode_eq_ok {target : UInt32} (h : target.toNat ≤ 268435455) :
    VariableByteIntegerEncoder.encode target = .ok (.ofBytes (VarInt.encode 4 target.toNat)) := by
  have hle : ¬ target > 268435455 := by
    rw [gt_iff_lt, UInt32.lt_iff_toNat_lt]
    show ¬ 268435455 < target.toNat
    omega
  rw [VariableByteIntegerEncoder.encode, if_neg hle, encodeLoop_eq]

theorem encode_eq_error {target : UInt32} (h : 268435455 < target.toNat) :
    VariableByteIntegerEncoder.encode target = .error (.error .encodingError) := by
  have hgt : target > 268435455 := by
    rw [gt_iff_lt, UInt32.lt_iff_toNat_lt]
    exact h
  rw [VariableByteIntegerEncoder.encode, if_pos hgt]

theorem split_succ_cons (w : Nat) (b : UInt8) (bs : List UInt8) :
    VarInt.split (w + 1) (b :: bs) = if b < 128 then some ([b], bs)
      else (VarInt.split w bs).map fun r => (b :: r.1, r.2) := by
  rw [VarInt.split]
  cases VarInt.split w bs <;> rfl

theorem lenLoop_eq (i : Nat) (bs : List UInt8) :
    VariableByteIntegerEncoder.lenLoop i bs = match VarInt.split bs.length bs with
      | some (code, _) => .ok (i + code.length)
      | none => .error .panic := by
  induction bs generalizing i with
  | nil => rfl
  | cons b bs ih =>
      rw [VariableByteIntegerEncoder.lenLoop, List.length_cons, split_succ_cons]
      simp only [and_128_eq_zero_iff]
      by_cases hb : b < 128
      · simp [hb]
      · rw [if_neg hb, if_neg hb, ih]
        cases VarInt.split bs.length bs with
        | none => rfl
        | some r => simp [Nat.add_comm, Nat.add_left_comm]

theorem len_eq (v : VariableByteInteger) :
    VariableByteIntegerEncoder.len v = match VarInt.split 4 v.toList with
      | some (code, _) => .ok code.length
      | none => .error .panic := by
  rw [VariableByteIntegerEncoder.len, lenLoop_eq, Vector.length_toList]
  simp only [Nat.zero_add]

/-- The loop of `decode` with `bs.length` bytes to go. -/
theorem decodeLoop_eq {multiplier ret : UInt32} {bs : List UInt8}
    (hmul : multiplier.toNat * VarInt.limit bs.length = 268435456) (hpos : 0 < multiplier.toNat)
    (hret : ret.toNat < multiplier.toNat) :
    VariableByteIntegerDecoder.decodeLoop multiplier ret bs =
      match VarInt.split bs.length bs with
        | some (code, _) => .ok (UInt32.ofNat (ret.toNat + multiplier.toNat * VarInt.value code))
        | none => .error .panic := by
  induction bs generalizing multiplier ret with
  | nil => rfl
  | cons b bs ih =>
      rw [List.length_cons, VarInt.limit] at hmul
      have hlim := VarInt.limit_pos bs.length
      have hmod := Nat.mod_lt b.toNat (by decide : 0 < 128)
      -- so the check on the multiplier never holds
      have hsmall : multiplier.toNat ≤ 2097152 := by
        have hle := Nat.le_mul_of_pos_right multiplier.toNat hlim
        have hassoc : multiplier.toNat * (128 * VarInt.limit bs.length) =
            128 * (multiplier.toNat * VarInt.limit bs.length) := by
          rw [← Nat.mul_assoc, Nat.mul_comm multiplier.toNat 128, Nat.mul_assoc]
        omega
      have hcheck : ¬ multiplier > 128 * 128 * 128 := by
        rw [gt_iff_lt, UInt32.lt_iff_toNat_lt]
        show ¬ 2097152 < multiplier.toNat
        omega
      have hdigit : b.toNat % 128 * multiplier.toNat ≤ 127 * multiplier.toNat :=
        Nat.mul_le_mul_right _ (by omega)
      have hsum : (ret + (b &&& 127).toUInt32 * multiplier).toNat =
          ret.toNat + b.toNat % 128 * multiplier.toNat := by
        rw [UInt32.toNat_add, UInt32.toNat_mul, UInt8.toNat_toUInt32, toNat_and_127]
        rw [Nat.mod_eq_of_lt (show b.toNat % 128 * multiplier.toNat < 4294967296 by omega)]
        exact Nat.mod_eq_of_lt (by omega)
      have hnext : (multiplier * 128).toNat = multiplier.toNat * 128 := by
        rw [UInt32.toNat_mul]
        exact Nat.mod_eq_of_lt (show multiplier.toNat * 128 < 4294967296 by omega)
      rw [VariableByteIntegerDecoder.decodeLoop, List.length_cons, split_succ_cons, if_neg hcheck]
      simp only [and_128_eq_zero_iff]
      by_cases hb : b < 128
      · rw [if_pos hb, if_pos hb]
        simp only [VarInt.value, Nat.mul_zero, Nat.add_zero, Except.ok.injEq]
        rw [← UInt32.toNat_inj, hsum, UInt32.toNat_ofNat', Nat.mul_comm multiplier.toNat]
        exact (Nat.mod_eq_of_lt (by omega)).symm
      · have hmul' : (multiplier * 128).toNat * VarInt.limit bs.length = 268435456 := by
          rw [hnext, Nat.mul_assoc]
          exact hmul
        rw [if_neg hb, if_neg hb, ih hmul' (by omega) (by omega), hsum, hnext]
        cases VarInt.split bs.length bs with
        | none => rfl
        | some r =>
            simp only [Option.map_some, VarInt.value]
            congr 2
            rw [Nat.mul_add, Nat.mul_comm (b.toNat % 128), Nat.mul_assoc]
            omega

/-- The number of the code, or a panic when all four bytes have the top bit. -/
theorem decode_eq (v : VariableByteInteger) :
    VariableByteIntegerDecoder.decode v = match VarInt.split 4 v.toList with
      | some (code, _) => .ok (UInt32.ofNat (VarInt.value code))
      | none => .error .panic := by
  have hlen : v.toList.length = 4 := Vector.length_toList
  rw [VariableByteIntegerDecoder.decode, decodeLoop_eq (by rw [hlen]; rfl) (by decide) (by decide),
    hlen]
  cases VarInt.split 4 v.toList with
  | none => rfl
  | some r => simp

/-- The array holds a code that was put in front of zeros. -/
theorem split_ofBytes {bs code rest : List UInt8} (h : VarInt.split 4 bs = some (code, rest)) :
    ∃ zeros, VarInt.split 4 (VariableByteInteger.ofBytes code).toList = some (code, zeros) := by
  obtain ⟨-, -, hle⟩ := VarInt.split_eq_some h
  have hlist : (VariableByteInteger.ofBytes code).toList =
      code ++ (List.replicate 4 0).take (4 - code.length) := by
    simp [VariableByteInteger.ofBytes, List.take_append, List.take_of_length_le hle]
  rw [hlist]
  exact ⟨_, VarInt.split_append h _⟩

theorem split_encode {n : Nat} (h : n ≤ 268435455) (rest : List UInt8) :
    VarInt.split 4 (VarInt.encode 4 n ++ rest) = some (VarInt.encode 4 n, rest) :=
  VarInt.split_encode_append (by decide) (by rw [limit_four]; omega) rest

theorem decode_ofBytes {bs code rest : List UInt8} (h : VarInt.split 4 bs = some (code, rest)) :
    VariableByteIntegerDecoder.decode (.ofBytes code) = .ok (UInt32.ofNat (VarInt.value code)) := by
  obtain ⟨zeros, hsplit⟩ := split_ofBytes h
  rw [decode_eq, hsplit]

theorem decode_topBits {code : List UInt8} (hlen : code.length = 4) (htop : ∀ b ∈ code, ¬ b < 128) :
    VariableByteIntegerDecoder.decode (.ofBytes code) = .error .panic := by
  have hlist : (VariableByteInteger.ofBytes code).toList = code := by
    simp [VariableByteInteger.ofBytes, hlen]
  rw [decode_eq, hlist, VarInt.split_of_top 4 htop]

theorem len_ofBytes {bs code rest : List UInt8} (h : VarInt.split 4 bs = some (code, rest)) :
    VariableByteIntegerEncoder.len (.ofBytes code) = .ok code.length := by
  obtain ⟨zeros, hsplit⟩ := split_ofBytes h
  rw [len_eq, hsplit]

end Toucan.Mqtt
