import Toucan.Modbus.Conversions

/-!
# Toucan.Modbus.Ob737

The filter between a Fox inverter and an OB737 meter (`FoxOb737` in `modbus/flow.rs`): the
inverter's request becomes one for the meter, and the meter's response one that the inverter
understands.

`isResponseTo_om737ToFox_iff` says for which requests and responses that works.  The reply begins
with bytes of the request's MBAP header, where it should begin with its unit and function.
-/

namespace Toucan.Modbus

/-! ## `FoxOb737` -/

/-- The `f32` operations of the filter. -/
class MeterFloat (F : Type) where
  zero : F
  fromBeBytes : UInt8 → UInt8 → UInt8 → UInt8 → F
  toBeBytes : F → Vector UInt8 4
  /-- `· * 10000.0` -/
  scale : F → F
  /-- `· as u16` -/
  toU16 : F → UInt16

instance : MeterFloat Float32 where
  zero := 0
  fromBeBytes v0 v1 v2 v3 :=
    .ofBits (v0.toUInt32 <<< 24 ||| v1.toUInt32 <<< 16 ||| v2.toUInt32 <<< 8 ||| v3.toUInt32)
  toBeBytes x :=
    let bits := x.toBits
    #v[(bits >>> 24).toUInt8, (bits >>> 16).toUInt8, (bits >>> 8).toUInt8, bits.toUInt8]
  scale x := x * 10000.0
  toU16 x := x.toUInt16

structure FoxOb737 (F : Type) where
  request : TcpRequestPayload
  meters : Vector F 3
  reactive : UInt16
  readFirst : Bool

/-- `chunks(4)` -/
def chunks : List UInt8 → List (List UInt8)
  | v0 :: v1 :: v2 :: v3 :: vs => [v0, v1, v2, v3] :: chunks vs
  | [] => []
  | vs => [vs]

/-- `let _ = v.extend_from_slice(s)` -/
def extendIfRoom (v : BoundedVec UInt8 cap) (s : List UInt8) : BoundedVec UInt8 cap :=
  (v.extendFromSlice s).getD v

/-- `split_at(6)`, and the first two bytes of what is behind. -/
def splitFox (input : TcpRequestPayload) : Option (List UInt8 × List UInt8) := do
  let (mbap, pdu) ← splitAt input.toList 6
  if pdu.length < 2 then none else return (mbap, pdu.take 2)

/-- The registers that are asked for next. -/
def plRequest (readFirst : Bool) : List UInt8 :=
  if readFirst then [0, 0, 0, 6, 1, 4, 0, 144, 0, 6] else [0, 0, 0, 6, 1, 4, 1, 16, 0, 8]

section Filter

variable {F : Type} [MeterFloat F]

/-- The four bytes of a chunk; `none` is the panic on a shorter one. -/
def readF32 : List UInt8 → Option F
  | v0 :: v1 :: v2 :: v3 :: _ => some (MeterFloat.fromBeBytes v0 v1 v2 v3)
  | _ => none

/-- The loop over the chunks of the meters. -/
def setMeters : Vector F 3 → Nat → List (List UInt8) → Option (Vector F 3)
  | meters, _, [] => some meters
  | meters, u, v :: vs => do
    let x ← readF32 v
    if h : u < 3 then setMeters (meters.set u (MeterFloat.scale x)) (u + 1) vs else none

/-- The loop over the chunk of the total. -/
def setReactive (F : Type) [MeterFloat F] : UInt16 → List (List UInt8) → Option UInt16
  | reactive, [] => some reactive
  | _, v :: vs => do
    let x : F ← readF32 v
    setReactive F (MeterFloat.toU16 x) vs

namespace FoxOb737

def default : FoxOb737 F := ⟨.empty, .replicate 3 MeterFloat.zero, 0, false⟩

/-- `fox_to_om737_tcp_request_filter`; a panic is `none`. -/
def foxToOm737TcpRequestFilter (ob737 : FoxOb737 F) (input : TcpRequestPayload) :
    Option (Except ModbusError TcpRequestPayload × FoxOb737 F) := do
  let ob737 := { ob737 with request := input }
  let (mbap, function) ← splitFox ob737.request
  if function ≠ [1, 3] then return (.error .invalidFilter, ob737)
  else
    let output ← BoundedVec.empty.extendFromSlice (mbap.take 2)
    let output ← output.extendFromSlice (plRequest ob737.readFirst)
    let ob737 := { ob737 with readFirst := !ob737.readFirst } -- toggle
    if output.toList.length = 12 then return (.ok output, ob737) else none

/-- `meters[u].to_be_bytes()` -/
def phase (ob737 : FoxOb737 F) (u : Fin 3) : List UInt8 :=
  (MeterFloat.toBeBytes ob737.meters[u]).toList

/-- The reply, with one `let _ = payload.extend_from_slice(..)` after the other. -/
def newPayload (ob737 : FoxOb737 F) : Option ResponsePayload := do
  if ob737.request.toList.length < 2 then none
  else
    let len ← ob737.request.toList[5]?
    let payload : ResponsePayload := [ob737.request.toList.take 2, [len], ob737.phase 0,
      ob737.phase 1, ob737.phase 2, toBeBytes ob737.reactive].foldl extendIfRoom .empty
    if payload.toList.length < 17 then none
    else return extendIfRoom payload (createCrc (payload.toList.take 17))

/-- What a response changes, by its byte count; `some none` for one that is unexpected. -/
def decode (ob737 : FoxOb737 F) (input : List UInt8) : Option (Option (FoxOb737 F)) := do
  let bytesLen ← input[2]?
  if bytesLen = 12 then
    let meters ← setMeters ob737.meters 0 ((chunks (input.drop 3)).take 3)
    return some { ob737 with meters }
  else if bytesLen = 16 then
    let reactive ← setReactive F ob737.reactive (((chunks (input.drop 3)).drop 3).take 1)
    return some { ob737 with reactive }
  else return none

/-- `om737_to_fox_rtu_request_filter`; a panic is `none`. -/
def om737ToFoxRtuRequestFilter (ob737 : FoxOb737 F) (input : ResponsePayload) :
    Option (Except ModbusError ResponsePayload × FoxOb737 F) := do
  match ← ob737.decode input.toList with
  | none => return (.ok input, ob737)
  | some ob737 =>
    let payload ← ob737.newPayload
    return (.ok payload, ob737)

/-! ### What the filters return -/

/-- The data of a reply: the meters and the total. -/
def data (ob737 : FoxOb737 F) : List UInt8 :=
  ob737.phase 0 ++ ob737.phase 1 ++ ob737.phase 2 ++ toBeBytes ob737.reactive

theorem length_phase (ob737 : FoxOb737 F) (u : Fin 3) : (ob737.phase u).length = 4 := by
  rw [phase, Vector.length_toList]

theorem length_data (ob737 : FoxOb737 F) : ob737.data.length = 14 := by
  simp [data, length_phase]

end FoxOb737

theorem toList_extendIfRoom {v : BoundedVec UInt8 cap} (h : v.toList.length + s.length ≤ cap) :
    (extendIfRoom v s).toList = v.toList ++ s := by
  obtain ⟨v', hv', hlist⟩ := BoundedVec.exists_extendFromSlice h
  rw [extendIfRoom, hv', Option.getD_some, hlist]

/-- Parts that fit, one after the other. -/
theorem toList_foldl_extendIfRoom {v : BoundedVec UInt8 cap} {parts : List (List UInt8)}
    (h : v.toList.length + parts.flatten.length ≤ cap) :
    (parts.foldl extendIfRoom v).toList = v.toList ++ parts.flatten := by
  induction parts generalizing v with
  | nil => simp
  | cons part parts ih =>
      rw [List.flatten_cons, List.length_append] at h
      have hpart : (extendIfRoom v part).toList = v.toList ++ part :=
        toList_extendIfRoom (by omega)
      have hrest := ih (v := extendIfRoom v part) (by rw [hpart, List.length_append]; omega)
      rw [List.foldl_cons, hrest, hpart, List.append_assoc, List.flatten_cons]

/-- The reply to a request that is long enough. -/
theorem FoxOb737.newPayload_eq (ob737 : FoxOb737 F)
    (h : ob737.request.toList = b0 :: b1 :: b2 :: b3 :: b4 :: b5 :: pdu) :
    ∃ payload, ob737.newPayload = some payload ∧
      payload.toList = b0 :: b1 :: b5 :: ob737.data ++ createCrc (b0 :: b1 :: b5 :: ob737.data) := by
  have hlen : (b0 :: b1 :: b5 :: ob737.data).length = 17 := by
    simp [length_data]
  have hflat : [[b0, b1], [b5], ob737.phase 0, ob737.phase 1, ob737.phase 2,
      toBeBytes ob737.reactive].flatten = b0 :: b1 :: b5 :: ob737.data := by
    simp [data]
  have hhead : ([[b0, b1], [b5], ob737.phase 0, ob737.phase 1, ob737.phase 2,
      toBeBytes ob737.reactive].foldl extendIfRoom (.empty : ResponsePayload)).toList =
        b0 :: b1 :: b5 :: ob737.data := by
    rw [toList_foldl_extendIfRoom, BoundedVec.toList_empty, List.nil_append, hflat]
    rw [hflat, hlen]
    decide
  have hlong : ¬ ob737.request.toList.length < 2 := by simp [h]
  have htwo : ob737.request.toList.take 2 = [b0, b1] := by simp [h]
  have hsix : ob737.request.toList[5]? = some b5 := by simp [h]
  rw [newPayload, if_neg hlong, hsix, htwo]
  simp only [Option.bind_eq_bind, Option.bind_some]
  generalize [[b0, b1], [b5], ob737.phase 0, ob737.phase 1, ob737.phase 2,
    toBeBytes ob737.reactive].foldl extendIfRoom (.empty : ResponsePayload) = payload at hhead ⊢
  refine ⟨extendIfRoom payload (createCrc (b0 :: b1 :: b5 :: ob737.data)), ?_, ?_⟩
  · have htake : payload.toList.take 17 = b0 :: b1 :: b5 :: ob737.data := by
      rw [hhead, List.take_of_length_le (Nat.le_of_eq hlen)]
    have hfull : ¬ payload.toList.length < 17 := by
      rw [hhead, hlen]
      decide
    rw [if_neg hfull, htake]
    rfl
  · rw [toList_extendIfRoom, hhead]
    rw [hhead, hlen, length_createCrc]
    decide

end Filter

/-! ## The request -/

section Request

variable {F : Type}

/-- Eight bytes at least. -/
theorem exists_cons_of_length {l : List UInt8} (h : 8 ≤ l.length) :
    ∃ b0 b1 b2 b3 b4 b5 u f rest, l = b0 :: b1 :: b2 :: b3 :: b4 :: b5 :: u :: f :: rest := by
  obtain _ | ⟨b0, _ | ⟨b1, _ | ⟨b2, _ | ⟨b3, _ | ⟨b4, _ | ⟨b5, _ | ⟨u, _ | ⟨f, rest⟩⟩⟩⟩⟩⟩⟩⟩ := l
  all_goals first | exact ⟨_, _, _, _, _, _, _, _, _, rfl⟩ | simp at h

theorem splitFox_eq {input : TcpRequestPayload}
    (h : input.toList = b0 :: b1 :: b2 :: b3 :: b4 :: b5 :: u :: f :: rest) :
    splitFox input = some ([b0, b1, b2, b3, b4, b5], [u, f]) := by
  rw [splitFox, h, splitAt_header]
  rfl

/-- The panics of `split_at(6)` and of `pdu[..2]`. -/
theorem splitFox_of_short {input : TcpRequestPayload} (h : input.toList.length < 8) :
    splitFox input = none := by
  by_cases hsix : 6 ≤ input.toList.length
  · have hpdu : (input.toList.drop 6).length < 2 := by
      rw [List.length_drop]
      omega
    rw [splitFox, splitAt_of_le hsix]
    exact if_pos hpdu
  · rw [splitFox, splitAt, if_neg hsix]
    rfl

/-- Requests of unit 1 for function 3 are accepted; the meter is asked under the same
    transaction id. -/
theorem FoxOb737.foxToOm737_eq {ob737 : FoxOb737 F} {input : TcpRequestPayload}
    (h : input.toList = b0 :: b1 :: b2 :: b3 :: b4 :: b5 :: u :: f :: rest) :
    ([u, f] = [1, 3] ∧ ∃ output : TcpRequestPayload,
        output.toList = b0 :: b1 :: plRequest ob737.readFirst ∧
        ob737.foxToOm737TcpRequestFilter input = some (.ok output,
          { ob737 with request := input, readFirst := !ob737.readFirst })) ∨
      [u, f] ≠ [1, 3] ∧ ob737.foxToOm737TcpRequestFilter input =
        some (.error .invalidFilter, { ob737 with request := input }) := by
  by_cases hfox : [u, f] = [1, 3]
  · refine Or.inl ⟨hfox, ?_⟩
    have hpl : (plRequest ob737.readFirst).length = 10 := by
      cases ob737.readFirst <;> rfl
    obtain ⟨first, hfirst, hlist⟩ := BoundedVec.exists_extendFromSlice
      (v := (.empty : TcpRequestPayload)) (s := [b0, b1]) (by simp)
    obtain ⟨output, houtput, hlist'⟩ := BoundedVec.exists_extendFromSlice
      (v := first) (s := plRequest ob737.readFirst) (by simp [hlist, hpl])
    rw [hlist] at hlist'
    have hlen : output.toList.length = 12 := by simp [hlist', hpl]
    refine ⟨output, by simpa using hlist', ?_⟩
    simp [foxToOm737TcpRequestFilter, splitFox_eq h, hfox, hfirst, houtput, hlen]
  · refine Or.inr ⟨hfox, ?_⟩
    simp [foxToOm737TcpRequestFilter, splitFox_eq h]
    intro hu hf
    simp [hu, hf] at hfox

/-- A request that was accepted. -/
theorem FoxOb737.of_foxToOm737_eq_ok {ob737 ob737' : FoxOb737 F} {input output : TcpRequestPayload}
    (h : ob737.foxToOm737TcpRequestFilter input = some (.ok output, ob737')) :
    ∃ b0 b1 b2 b3 b4 b5 rest,
      input.toList = b0 :: b1 :: b2 :: b3 :: b4 :: b5 :: 1 :: 3 :: rest ∧
        output.toList = b0 :: b1 :: plRequest ob737.readFirst ∧
        ob737' = { ob737 with request := input, readFirst := !ob737.readFirst } := by
  have hlen : 8 ≤ input.toList.length := by
    by_cases hshort : input.toList.length < 8
    · simp [foxToOm737TcpRequestFilter, splitFox_of_short hshort] at h
    · omega
  obtain ⟨b0, b1, b2, b3, b4, b5, u, f, rest, hinput⟩ := exists_cons_of_length hlen
  obtain ⟨hfox, output', houtput, heq⟩ | ⟨-, heq⟩ := ob737.foxToOm737_eq hinput
  · rw [h, Option.some.injEq, Prod.mk.injEq, Except.ok.injEq] at heq
    obtain ⟨rfl, rfl⟩ := heq
    simp only [List.cons.injEq, and_true] at hfox
    obtain ⟨rfl, rfl⟩ := hfox
    exact ⟨b0, b1, b2, b3, b4, b5, rest, hinput, houtput, rfl⟩
  · rw [h] at heq
    simp at heq

end Request

/-! ## The response -/

/-- Nothing, less than a chunk, or a chunk and the rest. -/
theorem chunks_cases (vs : List UInt8) :
    vs = [] ∨ (0 < vs.length ∧ vs.length < 4 ∧ chunks vs = [vs]) ∨
      ∃ v0 v1 v2 v3 rest, vs = v0 :: v1 :: v2 :: v3 :: rest := by
  obtain _ | ⟨v0, _ | ⟨v1, _ | ⟨v2, _ | ⟨v3, rest⟩⟩⟩⟩ := vs
  · exact Or.inl rfl
  · exact Or.inr (Or.inl ⟨by simp, by simp, rfl⟩)
  · exact Or.inr (Or.inl ⟨by simp, by simp, rfl⟩)
  · exact Or.inr (Or.inl ⟨by simp, by simp, rfl⟩)
  · exact Or.inr (Or.inr ⟨v0, v1, v2, v3, rest, rfl⟩)

theorem drop_chunks (n : Nat) (vs : List UInt8) : (chunks vs).drop n = chunks (vs.drop (4 * n)) := by
  induction n generalizing vs with
  | zero => rfl
  | succ n ih =>
      obtain rfl | ⟨-, hlt, hchunks⟩ | ⟨v0, v1, v2, v3, rest, rfl⟩ := chunks_cases vs
      · simp [chunks]
      · have hnil : vs.drop (4 * (n + 1)) = [] := List.drop_of_length_le (by omega)
        simp [hchunks, hnil, chunks]
      · rw [chunks, List.drop_succ_cons, ih, Nat.mul_succ]
        rfl

section Response

variable {F : Type} [MeterFloat F]

theorem readF32_of_short {vs : List UInt8} (h : vs.length < 4) : readF32 (F := F) vs = none := by
  obtain _ | ⟨v0, _ | ⟨v1, _ | ⟨v2, _ | ⟨v3, rest⟩⟩⟩⟩ := vs
  · rfl
  · rfl
  · rfl
  · rfl
  · simp only [List.length_cons] at h
    omega

/-- The meters are read when each of their chunks that is there is whole. -/
theorem setMeters_isSome_iff (meters : Vector F 3) {u n : Nat} (h : u + n ≤ 3) (vs : List UInt8) :
    (setMeters meters u ((chunks vs).take n)).isSome = true ↔
      4 * n ≤ vs.length ∨ vs.length % 4 = 0 := by
  induction n generalizing u meters vs with
  | zero => simp [setMeters]
  | succ n ih =>
      obtain rfl | ⟨hpos, hlt, hchunks⟩ | ⟨v0, v1, v2, v3, rest, rfl⟩ := chunks_cases vs
      · simp [chunks, setMeters]
      · rw [hchunks, List.take_succ_cons, setMeters, readF32_of_short hlt]
        simp only [Option.bind_eq_bind, Option.bind_none, Option.isSome_none, Bool.false_eq_true,
          false_iff]
        omega
      · have hu : u < 3 := by omega
        simp only [chunks, List.take_succ_cons, setMeters, readF32, Option.bind_eq_bind,
          Option.bind_some, dif_pos hu, List.length_cons]
        rw [ih _ (by omega)]
        omega

/-- The total is read when its chunk is whole, or not there. -/
theorem setReactive_isSome_iff (reactive : UInt16) (vs : List UInt8) :
    (setReactive F reactive ((chunks vs).take 1)).isSome = true ↔ 4 ≤ vs.length ∨ vs.length = 0 := by
  obtain rfl | ⟨hpos, hlt, hchunks⟩ | ⟨v0, v1, v2, v3, rest, rfl⟩ := chunks_cases vs
  · simp [chunks, setReactive]
  · rw [hchunks, List.take_succ_cons, setReactive, readF32_of_short hlt]
    simp only [Option.bind_eq_bind, Option.bind_none, Option.isSome_none, Bool.false_eq_true,
      false_iff]
    omega
  · simp [chunks, setReactive, readF32]

/-! ### When a reply is built -/

/-- The byte count is one that a reply is built for. -/
def Builds (response : List UInt8) : Prop := response[2]? = some 12 ∨ response[2]? = some 16

/-- There is a byte count, and as many bytes as are read for it. -/
structure Decodable (response : List UInt8) : Prop where
  byteCount : 3 ≤ response.length
  meters : response[2]? = some 12 → 12 ≤ response.length - 3 ∨ (response.length - 3) % 4 = 0
  reactive : response[2]? = some 16 → 16 ≤ response.length - 3 ∨ response.length - 3 ≤ 12

/-- A response of the unit and the function of a request: a byte count, as many bytes, and
    the CRC. -/
def IsResponseTo (request response : List UInt8) : Prop :=
  ∃ unit function data, request[6]? = some unit ∧ request[7]? = some function ∧
    data.length < 256 ∧
    response = unit :: function :: UInt8.ofNat data.length :: data ++
      createCrc (unit :: function :: UInt8.ofNat data.length :: data)

/-- A response with the meters. -/
theorem FoxOb737.decode_meters (ob737 : FoxOb737 F) {response : List UInt8}
    (h : response[2]? = some 12) :
    ((ob737.decode response).isSome = true ↔
        12 ≤ response.length - 3 ∨ (response.length - 3) % 4 = 0) ∧
      ∀ result, ob737.decode response = some result →
        ∃ meters, result = some { ob737 with meters } := by
  have hwhole := setMeters_isSome_iff ob737.meters (u := 0) (n := 3) (by decide) (response.drop 3)
  rw [List.length_drop] at hwhole
  cases hset : setMeters ob737.meters 0 ((chunks (response.drop 3)).take 3) with
  | none => simpa [decode, h, hset] using hwhole
  | some meters => simpa [decode, h, hset] using hwhole

/-- A response with the total. -/
theorem FoxOb737.decode_reactive (ob737 : FoxOb737 F) {response : List UInt8}
    (h : response[2]? = some 16) :
    ((ob737.decode response).isSome = true ↔
        16 ≤ response.length - 3 ∨ response.length - 3 ≤ 12) ∧
      ∀ result, ob737.decode response = some result →
        ∃ reactive, result = some { ob737 with reactive } := by
  have htotal : (chunks (response.drop 3)).drop 3 = chunks (response.drop 15) := by
    rw [drop_chunks, List.drop_drop]
  have hwhole := setReactive_isSome_iff (F := F) ob737.reactive (response.drop 15)
  rw [List.length_drop] at hwhole
  have hbytes : 4 ≤ response.length - 15 ∨ response.length - 15 = 0 ↔
      16 ≤ response.length - 3 ∨ response.length - 3 ≤ 12 := by omega
  rw [hbytes] at hwhole
  cases hset : setReactive F ob737.reactive ((chunks (response.drop 15)).take 1) with
  | none => simpa [decode, h, htotal, hset] using hwhole
  | some reactive => simpa [decode, h, htotal, hset] using hwhole

/-- A response is decoded when there are the bytes for it, and nothing of the request changes. -/
theorem FoxOb737.decode_cases (ob737 : FoxOb737 F) (response : List UInt8) :
    (¬ Decodable response ∧ ob737.decode response = none) ∨
      Decodable response ∧
        ((¬ Builds response ∧ ob737.decode response = some none) ∨
          Builds response ∧ ∃ ob737', ob737.decode response = some (some ob737') ∧
            ob737'.request = ob737.request) := by
  cases hcount : response[2]? with
  | none =>
      refine Or.inl ⟨fun hd => ?_, by simp [decode, hcount]⟩
      have hlen := hd.byteCount
      rw [List.getElem?_eq_none_iff] at hcount
      omega
  | some bytesLen =>
      have hlen : 3 ≤ response.length := (List.getElem?_eq_some_iff.mp hcount).1
      by_cases htwelve : bytesLen = 12
      · subst htwelve
        obtain ⟨hwhole, hresult⟩ := ob737.decode_meters hcount
        cases hdecode : ob737.decode response with
        | none =>
            rw [hdecode] at hwhole
            exact Or.inl ⟨fun hd => by simpa using hwhole.mpr (hd.meters hcount), rfl⟩
        | some result =>
            obtain ⟨meters, rfl⟩ := hresult result hdecode
            rw [hdecode] at hwhole
            exact Or.inr ⟨⟨hlen, fun _ => hwhole.mp rfl, by simp [hcount]⟩,
              Or.inr ⟨Or.inl hcount, _, rfl, rfl⟩⟩
      · by_cases hsixteen : bytesLen = 16
        · subst hsixteen
          obtain ⟨hwhole, hresult⟩ := ob737.decode_reactive hcount
          cases hdecode : ob737.decode response with
          | none =>
              rw [hdecode] at hwhole
              exact Or.inl ⟨fun hd => by simpa using hwhole.mpr (hd.reactive hcount), rfl⟩
          | some result =>
              obtain ⟨reactive, rfl⟩ := hresult result hdecode
              rw [hdecode] at hwhole
              exact Or.inr ⟨⟨hlen, by simp [hcount], fun _ => hwhole.mp rfl⟩,
                Or.inr ⟨Or.inr hcount, _, rfl, rfl⟩⟩
        · have hnone : ¬ Builds response := by simp [Builds, hcount, htwelve, hsixteen]
          exact Or.inr ⟨⟨hlen, by simp [hcount, htwelve], by simp [hcount, hsixteen]⟩,
            Or.inl ⟨hnone, by simp [decode, hcount, htwelve, hsixteen]⟩⟩

/-- The reply that is built from a request's header. -/
theorem FoxOb737.om737ToFox_cases {ob737 : FoxOb737 F} (response : ResponsePayload)
    (h : ob737.request.toList = b0 :: b1 :: b2 :: b3 :: b4 :: b5 :: pdu) :
    (¬ Decodable response.toList ∧ ob737.om737ToFoxRtuRequestFilter response = none) ∨
      Decodable response.toList ∧ ∃ out ob737',
        ob737.om737ToFoxRtuRequestFilter response = some (.ok out, ob737') ∧
        (Builds response.toList → out.toList =
          b0 :: b1 :: b5 :: ob737'.data ++ createCrc (b0 :: b1 :: b5 :: ob737'.data)) := by
  obtain ⟨hno, hdecode⟩ | ⟨hd, ⟨hpass, hdecode⟩ | ⟨hbuild, ob737', hdecode, hrequest⟩⟩ :=
    ob737.decode_cases response.toList
  · exact Or.inl ⟨hno, by simp [om737ToFoxRtuRequestFilter, hdecode]⟩
  · exact Or.inr ⟨hd, response, ob737, by simp [om737ToFoxRtuRequestFilter, hdecode],
      fun hbuild => absurd hbuild hpass⟩
  · obtain ⟨payload, hpayload, hlist⟩ := ob737'.newPayload_eq (hrequest ▸ h)
    exact Or.inr ⟨hd, payload, ob737', by simp [om737ToFoxRtuRequestFilter, hdecode, hpayload],
      fun _ => hlist⟩

/-- The bytes of the header that have to be unit, function and byte count. -/
theorem isResponseTo_iff (ob737 : FoxOb737 F) {request : List UInt8}
    (h : request = b0 :: b1 :: b2 :: b3 :: b4 :: b5 :: 1 :: 3 :: rest) :
    IsResponseTo request (b0 :: b1 :: b5 :: ob737.data ++ createCrc (b0 :: b1 :: b5 :: ob737.data)) ↔
      (b0 = 1 ∧ b1 = 3) ∧ b5 = 14 := by
  have hlen := ob737.length_data
  constructor
  · rintro ⟨unit, function, data, hunit, hfunction, hlt, hreply⟩
    simp only [h, List.getElem?_cons_succ, List.getElem?_cons_zero, Option.some.injEq]
      at hunit hfunction
    have hsize := congrArg List.length hreply
    simp only [List.length_append, List.length_cons, length_createCrc, hlen] at hsize
    have hdata : data.length = 14 := by omega
    simp only [List.cons_append, List.cons.injEq, hdata] at hreply
    obtain ⟨rfl, rfl, rfl, -⟩ := hreply
    exact ⟨⟨hunit.symm, hfunction.symm⟩, rfl⟩
  · rintro ⟨⟨rfl, rfl⟩, rfl⟩
    refine ⟨1, 3, ob737.data, by simp [h], by simp [h], by omega, ?_⟩
    rw [hlen]
    rfl

/-- **Replies to the inverter**: the filter returns, and what it builds is a response to the
    request, exactly when the response of the meter can be decoded and the request begins as
    the reply would have to: with the unit, the function and the byte count. -/
theorem isResponseTo_om737ToFox_iff {ob737 ob737' : FoxOb737 F}
    {request meterRequest : TcpRequestPayload}
    (h : ob737.foxToOm737TcpRequestFilter request = some (.ok meterRequest, ob737'))
    (response : ResponsePayload) :
    (∃ out ob737'', ob737'.om737ToFoxRtuRequestFilter response = some (.ok out, ob737'') ∧
        (Builds response.toList → IsResponseTo request.toList out.toList)) ↔
      Decodable response.toList ∧ (Builds response.toList →
        request.toList.take 2 = [1, 3] ∧ request.toList[5]? = some 14) := by
  obtain ⟨b0, b1, b2, b3, b4, b5, rest, hrequest, -, hob⟩ := FoxOb737.of_foxToOm737_eq_ok h
  have hrequest' : ob737'.request.toList = b0 :: b1 :: b2 :: b3 :: b4 :: b5 :: 1 :: 3 :: rest := by
    rw [hob]
    exact hrequest
  obtain ⟨hno, hpanic⟩ | ⟨hd, out, ob737'', hout, hbuilt⟩ :=
    FoxOb737.om737ToFox_cases response hrequest'
  · simp [hpanic, hno]
  · have hreply := isResponseTo_iff ob737'' hrequest
    constructor
    · rintro ⟨out', ob', heq, hresponse⟩
      rw [hout, Option.some.injEq, Prod.mk.injEq, Except.ok.injEq] at heq
      obtain ⟨rfl, rfl⟩ := heq
      refine ⟨hd, fun hbuild => ?_⟩
      have hto := hresponse hbuild
      rw [hbuilt hbuild, hreply] at hto
      simpa [hrequest] using hto
    · rintro ⟨-, hheader⟩
      refine ⟨out, ob737'', hout, fun hbuild => ?_⟩
      rw [hbuilt hbuild, hreply]
      simpa [hrequest] using hheader hbuild

/-- A request whose header is how its reply has to begin. -/
def wellPlacedRequest : TcpRequestPayload := ⟨[1, 3, 0, 0, 0, 14, 1, 3, 0, 0, 0, 10], Nat.le_refl 12⟩

/-- What the meter is asked for it, by a filter that was not used before. -/
def wellPlacedMeterRequest : TcpRequestPayload :=
  ⟨[1, 3, 0, 0, 0, 6, 1, 4, 1, 16, 0, 8], Nat.le_refl 12⟩

/-- The filter when it has seen that request. -/
def wellPlacedFilter : FoxOb737 Float32 :=
  { FoxOb737.default with request := wellPlacedRequest, readFirst := true }

theorem foxToOm737_wellPlaced : FoxOb737.default.foxToOm737TcpRequestFilter wellPlacedRequest =
    some (.ok wellPlacedMeterRequest, wellPlacedFilter) := rfl

/-- The registers of the total, all of them zero. -/
def totalBytes : List UInt8 := [1, 4, 16, 0, 0, 0, 0, 0, 0, 0, 0, 0, 0, 0, 0, 0, 0, 0, 0]

theorem length_totalBytes_le : (totalBytes ++ createCrc totalBytes).length ≤ 512 := by
  rw [List.length_append, length_createCrc]
  decide

def totalResponse : ResponsePayload := ⟨totalBytes ++ createCrc totalBytes, length_totalBytes_le⟩

theorem decodable_totalBytes (crc : List UInt8) : Decodable (totalBytes ++ crc) :=
  ⟨by simp [totalBytes], by simp [totalBytes], by simp [totalBytes]⟩

theorem isResponseTo_om737ToFox_wellPlaced :
    ∃ out ob737'',
      wellPlacedFilter.om737ToFoxRtuRequestFilter totalResponse = some (.ok out, ob737'') ∧
        (Builds totalResponse.toList → IsResponseTo wellPlacedRequest.toList out.toList) :=
  (isResponseTo_om737ToFox_iff foxToOm737_wellPlaced totalResponse).mpr
    ⟨decodable_totalBytes _, fun _ => ⟨rfl, rfl⟩⟩

/-- The inverter's request as it comes from the serial line, the fifth of the gateway. -/
def foxRequest : TcpRequestPayload := ⟨[0, 5, 0, 0, 0, 6, 1, 3, 0, 0, 0, 10], Nat.le_refl 12⟩

def foxMeterRequest : TcpRequestPayload :=
  ⟨[0, 5, 0, 0, 0, 6, 1, 4, 1, 16, 0, 8], Nat.le_refl 12⟩

def foxFilter : FoxOb737 Float32 :=
  { FoxOb737.default with request := foxRequest, readFirst := true }

def fifth : Gateway := { Gateway.initial with counter := 5 }

theorem length_totalAdu_le : ([0, 5, 0, 0, 0, 19] ++ totalBytes).length ≤ 512 := by decide

def totalAdu : ResponsePayload := ⟨[0, 5, 0, 0, 0, 19] ++ totalBytes, length_totalAdu_le⟩

theorem length_cutAdu_le : ([0, 5, 0, 0, 0, 4, 1, 4, 12, 0] : List UInt8).length ≤ 512 := by decide

/-- The meters are announced, and one byte is there. -/
def cutAdu : ResponsePayload := ⟨[0, 5, 0, 0, 0, 4, 1, 4, 12, 0], length_cutAdu_le⟩

/-- To the first request the filter builds a reply under the transaction id, and on half
    a response it panics. -/
theorem not_isResponseTo_om737ToFox :
    FoxOb737.default.foxToOm737TcpRequestFilter foxRequest =
        some (.ok foxMeterRequest, foxFilter) ∧
      (∃ response out ob737'',
        convertTcpReponsePayloadToRtuResponsePayload totalAdu fifth = .done (.ok response) fifth ∧
        foxFilter.om737ToFoxRtuRequestFilter response = some (.ok out, ob737'') ∧
        Builds response.toList ∧ ¬ IsResponseTo foxRequest.toList out.toList) ∧
      ∃ response,
        convertTcpReponsePayloadToRtuResponsePayload cutAdu fifth = .done (.ok response) fifth ∧
        foxFilter.om737ToFoxRtuRequestFilter response = none := by
  have hrequest : foxFilter.request.toList = [0, 5, 0, 0, 0, 6, 1, 3, 0, 0, 0, 10] := rfl
  have htotal : totalAdu.toList = 0 :: 5 :: 0 :: 0 :: 0 :: 19 :: totalBytes := rfl
  have hcut : cutAdu.toList = 0 :: 5 :: 0 :: 0 :: 0 :: 4 :: [1, 4, 12, 0] := rfl
  refine ⟨rfl, ?_, ?_⟩
  · obtain ⟨hid, -⟩ | ⟨-, response, hlist, hconvert⟩ :=
      convertTcpReponse_apply fifth htotal (by decide) (by decide)
    · exact absurd (by decide) hid
    · have htake : totalBytes.take (19 : UInt8).toNat = totalBytes := rfl
      rw [htake] at hlist
      have hd : Decodable response.toList := hlist ▸ decodable_totalBytes _
      have hbuilds : Builds response.toList := Or.inr (by rw [hlist]; rfl)
      obtain ⟨hno, -⟩ | ⟨-, out, ob737'', hout, hbuilt⟩ :=
        FoxOb737.om737ToFox_cases response hrequest
      · exact absurd hd hno
      · refine ⟨response, out, ob737'', hconvert, hout, hbuilds, fun hto => ?_⟩
        rw [hbuilt hbuilds] at hto
        exact absurd ((isResponseTo_iff ob737'' hrequest).mp hto).2 (by decide)
  · obtain ⟨hid, -⟩ | ⟨-, response, hlist, hconvert⟩ :=
      convertTcpReponse_apply fifth hcut (by decide) (by decide)
    · exact absurd (by decide) hid
    · have htake : [1, 4, 12, 0].take (4 : UInt8).toNat = ([1, 4, 12, 0] : List UInt8) := rfl
      rw [htake] at hlist
      refine ⟨response, hconvert, ?_⟩
      obtain ⟨-, hpanic⟩ | ⟨hd, -⟩ := FoxOb737.om737ToFox_cases response hrequest
      · exact hpanic
      · have hmeters := hd.meters (by rw [hlist]; rfl)
        simp [hlist] at hmeters

end Response

end Toucan.Modbus
