import Toucan.Mqtt.RoundTrip

/-!
# Toucan.Mqtt.Answers

The packets that the broker sends to the client (`rust-mqtt`, `packet/v5`): those that the
crate can write as well, and those that it only reads -- PINGRESP, SUBACK, UNSUBACK and a
PUBACK that leaves out its properties, or its reason code as well.
-/

namespace Toucan.Mqtt

open HttpMessage BuffWriter BuffReader

/-! ## PINGRESP and short PUBACKs -/

theorem reads_decode_pingresp {header : UInt8} (htype : PacketType.ofU8 header = .pingresp) :
    tape.Reads PingrespPacket.decode (frame header []) ⟨header, 0⟩ := by
  apply reads_frame (by decide)
  simp only [htype, ne_eq, not_true_eq_false, if_false]
  exact Tape.Reads.pure _

/-- The reason code may be missing; then it stays what it was. -/
theorem reads_decode_shortPuback (cap : Nat) {header : UInt8} {identifier : UInt16}
    (reason : Option UInt8)
    (htype : PacketType.ofU8 header = .puback) :
    ∃ p : PubackPacket cap, p.packetIdentifier = identifier ∧ p.reasonCode = reason.getD 0 ∧
      tape.Reads (PubackPacket.decode .new)
        (frame header (toBeBytes identifier ++ reason.toList)) p := by
  cases reason with
  | none =>
      refine ⟨⟨header, 2, identifier, 0, 0, .empty⟩, rfl, rfl, ?_⟩
      apply reads_frame (by simp)
      simp only [htype, ne_eq, not_true_eq_false, if_false]
      exact (reads_readU16 identifier).bind (Tape.Reads.pure _)
  | some code =>
      refine ⟨⟨header, 3, identifier, code, 0, .empty⟩, rfl, rfl, ?_⟩
      apply reads_frame (by simp)
      simp only [htype, ne_eq, not_true_eq_false, if_false]
      exact (reads_readU16 identifier).bind ((reads_readU8 code).bind (Tape.Reads.pure _))

/-! ## SUBACK and UNSUBACK -/

namespace SubackPacket

/-- The packet behind its length. -/
def bodyOf (identifier : UInt16) (ps : List Property) (reasons : List UInt8) : List UInt8 :=
  toBeBytes identifier ++ (propertyBlock ps ++ reasons)

/-- The loop of `read_reason_codes` takes all that is left of the packet. -/
theorem readReasonCodesLoop_eq {max turns : Nat} {reasons : List UInt8}
    (reasonCodes : BoundedVec UInt8 n) {r : BuffReader} (hr : tape.valid r)
    (hs : tape.ahead r = reasons) (hmax : r.position + reasons.length = max) (hne : reasons ≠ [])
    (hturns : reasons.length ≤ turns) :
    ∃ r', readReasonCodesLoop max turns reasonCodes r =
      (.ok (reasons.foldl pushReason reasonCodes), r') := by
  induction reasons generalizing turns reasonCodes r with
  | nil => contradiction
  | cons code reasons ih =>
      rw [List.length_cons] at hturns hmax
      obtain ⟨turns, rfl⟩ : ∃ k, turns = k + 1 := ⟨turns - 1, by omega⟩
      obtain ⟨r₁, hread, hmoved⟩ := reads_readU8 code r reasons hr hs
      have hpos : r₁.position = r.position + 1 := by
        rw [← length_behind hmoved.valid, hmoved.behind, List.length_append, length_behind hr]
        rfl
      rw [readReasonCodesLoop, Method.bind_of_ok hread]
      by_cases hnil : reasons = []
      · subst hnil
        refine ⟨r₁, ?_⟩
        show (if r₁.position = max then pure (pushReason reasonCodes code)
          else readReasonCodesLoop max turns (pushReason reasonCodes code) :
            Method BuffReader Fault _) r₁ = _
        rw [if_pos (by rw [List.length_nil] at hmax; omega)]
        rfl
      · have hlen : 0 < reasons.length := List.length_pos_iff.mpr hnil
        obtain ⟨r', hrest⟩ := ih (pushReason reasonCodes code) hmoved.valid (hmoved.ahead_eq hs)
          (by omega) hnil (show reasons.length ≤ turns by omega)
        refine ⟨r', ?_⟩
        show (if r₁.position = max then pure (pushReason reasonCodes code)
          else readReasonCodesLoop max turns (pushReason reasonCodes code) :
            Method BuffReader Fault _) r₁ = _
        rw [if_neg (by omega), hrest]
        rfl

section Decode

variable {header : UInt8} {identifier : UInt16} {propertyLen : UInt32} {ps : List Property}
  {reasons buf : List UInt8} {k : Nat} (hprops : Announced propertyLen ps)
  (hb : ∀ p ∈ ps, ¬ p.IsBinary) (hmax : (bodyOf identifier ps reasons).length ≤ 268435455)

include hprops hb hmax

/-- What comes before the reason codes. -/
theorem exists_reader (cap : Nat) (hk : k ≤ buf.length)
    (hbuf : buf.take k = frame header (bodyOf identifier ps reasons)) :
    ∃ r₁ r₂ r₃, decodeFixedHeader (.new buf k) =
        (.ok (header, UInt32.ofNat (bodyOf identifier ps reasons).length), r₁) ∧
      readU16 r₁ = (.ok identifier, r₂) ∧
      decodeProperties (.empty : BoundedVec Property cap) r₂ =
        (.ok (propertyLen, ps.foldl pushToProperties .empty), r₃) ∧
      tape.valid r₃ ∧ tape.ahead r₃ = reasons ∧ r₃.position + reasons.length = k := by
  have hblock : (propertyBlock ps).length ≤ 268435455 := by
    rw [bodyOf, List.length_append, List.length_append] at hmax
    omega
  obtain ⟨hr, hs, -⟩ := PublishPacket.ahead_packet hk hbuf
  rw [frame, ← List.cons_append] at hs
  obtain ⟨r₁, hhead, hmoved₁⟩ := reads_decodeFixedHeader_frame header hmax _ _ hr hs
  have hs₁ := hmoved₁.ahead_eq hs
  obtain ⟨r₂, hid, hmoved₂⟩ := reads_readU16 identifier _ _ hmoved₁.valid hs₁
  have hs₂ := hmoved₂.ahead_eq hs₁
  obtain ⟨r₃, hread, hmoved₃⟩ := reads_propertyBlock (.empty : BoundedVec Property cap) hprops hb
    hblock _ _ hmoved₂.valid hs₂
  have hs₃ := hmoved₃.ahead_eq hs₂
  have hpos := PublishPacket.position_add_length hk (hmoved₁.trans (hmoved₂.trans hmoved₃))
  rw [hs₃] at hpos
  exact ⟨r₁, r₂, r₃, hhead, hid, hread, hmoved₃.valid, hs₃, hpos⟩

/-- A SUBACK is decoded with as many of its reason codes as there is room for. -/
theorem decodes_decode (n cap : Nat) (htype : PacketType.ofU8 header = .suback) :
    ∃ p : SubackPacket n cap, p.packetIdentifier = identifier ∧
      p.reasonCodes.toList = reasons.take n ∧
      Decodes (decode .new) (frame header (bodyOf identifier ps reasons)) p := by
  refine ⟨⟨header, UInt32.ofNat (bodyOf identifier ps reasons).length, identifier, propertyLen,
    ps.foldl pushToProperties .empty, reasons.foldl pushReason .empty⟩, rfl,
    BoundedVec.toList_foldl_push .empty reasons, ?_⟩
  intro buf k hk hbuf
  obtain ⟨r₁, r₂, r₃, hhead, hid, hread, hr, hs, hpos⟩ := exists_reader hprops hb hmax cap hk hbuf
  have hframe : k = (frame header (bodyOf identifier ps reasons)).length := by
    rw [← hbuf, List.length_take, Nat.min_eq_left hk]
  rw [length_frame] at hframe
  obtain ⟨r₄, hreasons⟩ : ∃ r', readReasonCodes (UInt32.ofNat (bodyOf identifier ps reasons).length)
      (.empty : BoundedVec UInt8 n) r₃ = (.ok (reasons.foldl pushReason .empty), r') := by
    have hnat := toNat_ofNat_of_le hmax
    have hle := VarInt.length_encode_le 4 (bodyOf identifier ps reasons).length
    have hcode := toNat_ofNat_of_le (show
      (VarInt.encode 4 (bodyOf identifier ps reasons).length).length ≤ 268435455 by omega)
    have hend : (bodyOf identifier ps reasons).length +
        (VarInt.encode 4 (bodyOf identifier ps reasons).length).length + 1 = k := by omega
    rw [readReasonCodes, propertyLenLen_eq (by omega), ofExcept_ok_bind]
    simp only [hnat, hcode, hend]
    by_cases hnil : reasons = []
    · subst hnil
      exact ⟨r₃, congrFun (if_pos (Nat.le_of_eq hpos.symm)) r₃⟩
    · have hlen : 0 < reasons.length := List.length_pos_iff.mpr hnil
      have hahead := length_ahead hr
      rw [hs] at hahead
      obtain ⟨r', hloop⟩ := readReasonCodesLoop_eq (.empty : BoundedVec UInt8 n) hr hs hpos hnil
        (show reasons.length ≤ r₃.len - r₃.position + 1 by omega)
      exact ⟨r', (congrFun (if_neg (show ¬ r₃.position ≥ k by omega)) r₃).trans hloop⟩
  refine ⟨r₄, ?_⟩
  rw [decode, Method.bind_of_ok hhead]
  simp only [htype, ne_eq, not_true_eq_false, if_false]
  rw [Method.bind_of_ok hid]
  show (decodeProperties .empty >>= _) r₂ = _
  rw [Method.bind_of_ok hread]
  exact Method.bind_of_ok hreasons

end Decode

end SubackPacket

/-- An UNSUBACK for one topic is decoded with its first reason code; further ones are left
where they are. -/
theorem UnsubackPacket.decodes_decode {header : UInt8} {identifier : UInt16} {propertyLen : UInt32}
    {ps : List Property} {reasons : List UInt8} (hprops : Announced propertyLen ps)
    (hb : ∀ p ∈ ps, ¬ p.IsBinary)
    (hmax : (SubackPacket.bodyOf identifier ps reasons).length ≤ 268435455) (cap : Nat)
    (hne : reasons ≠ []) (htype : PacketType.ofU8 header = .unsuback) :
    ∃ p : UnsubackPacket 1 cap, p.packetIdentifier = identifier ∧
      Decodes (UnsubackPacket.decode .new)
        (frame header (SubackPacket.bodyOf identifier ps reasons)) p := by
  obtain ⟨code, reasons, rfl⟩ := List.exists_cons_of_ne_nil hne
  refine ⟨⟨header, UInt32.ofNat (SubackPacket.bodyOf identifier ps (code :: reasons)).length,
    identifier, propertyLen, ps.foldl pushToProperties .empty, pushReason .empty code⟩, rfl, ?_⟩
  intro buf k hk hbuf
  obtain ⟨r₁, r₂, r₃, hhead, hid, hread, hr, hs, -⟩ :=
    SubackPacket.exists_reader hprops hb hmax cap hk hbuf
  obtain ⟨r₄, hcode, -⟩ := reads_readU8 code r₃ reasons hr hs
  refine ⟨r₄, ?_⟩
  rw [UnsubackPacket.decode, Method.bind_of_ok hhead]
  simp only [htype, ne_eq, not_true_eq_false, if_false]
  rw [Method.bind_of_ok hid]
  show (decodeProperties .empty >>= _) r₂ = _
  rw [Method.bind_of_ok hread]
  have hloop : UnsubackPacket.readReasonCodesLoop (r₃.len - r₃.position + 1) 0
      (.empty : BoundedVec UInt8 1) r₃ = (.ok (pushReason .empty code), r₄) := by
    rw [UnsubackPacket.readReasonCodesLoop, Method.bind_of_ok hcode]
    rfl
  exact Method.bind_of_ok hloop

end Toucan.Mqtt
