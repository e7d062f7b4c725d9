import Toucan.Lib.Decimal

/-!
# Toucan.Lib.HttpMessage

HTTP messages as bytes: texts in UTF-8, the head of a message (its lines up to an
empty one), and what the reader of a response makes of it.

A head that is complete stays what it is whatever follows, so a part of a response
is read as the response with less of a body, or not at all (`body_ne_of_append`).
-/

namespace Toucan.HttpMessage

open Decimal

/-! ## Texts -/

/-- The bytes of a text. -/
def asBytes (s : String) : List UInt8 := s.toByteArray.data.toList

/-- The text that some bytes are, `none` when they are no UTF-8. -/
def fromUtf8 (bs : List UInt8) : Option String := String.fromUTF8? bs.toByteArray

theorem asBytes_of_fromUtf8 (h : fromUtf8 bs = some s) : asBytes s = bs := by
  unfold fromUtf8 String.fromUTF8? at h
  split at h
  · simp only [Option.some.injEq] at h
    subst h
    simp [asBytes, String.fromUTF8]
  · contradiction

@[simp] theorem fromUtf8_asBytes (s : String) : fromUtf8 (asBytes s) = some s := by
  have hbytes : (asBytes s).toByteArray = s.toByteArray := by
    apply ByteArray.ext
    simp [asBytes]
  have hvalid : s.toByteArray.IsValidUTF8 := s.isValidUTF8
  simp [fromUtf8, hbytes, String.fromUTF8?, hvalid, String.fromUTF8]

theorem utf8EncodeChar_of_ascii {b : UInt8} (h : b < 128) :
    String.utf8EncodeChar (Char.ofUInt8 b) = [b] := by
  have hb : b.toNat < 128 := by simpa [UInt8.lt_iff_toNat_lt] using h
  have hval : (Char.ofUInt8 b).val.toNat = b.toNat := rfl
  have hle : b.toNat ≤ 127 := by omega
  simp [String.utf8EncodeChar, hval, hle]

/-- ASCII bytes are a text. -/
theorem exists_fromUtf8 (h : ∀ b ∈ bs, b < 128) : ∃ s, fromUtf8 bs = some s := by
  have hchars : (bs.map Char.ofUInt8).flatMap String.utf8EncodeChar = bs := by
    induction bs with
    | nil => rfl
    | cons b bs ih =>
        have hb := utf8EncodeChar_of_ascii (h b List.mem_cons_self)
        have hbs := ih fun c hc => h c (List.mem_cons_of_mem b hc)
        simp only [List.map_cons, List.flatMap_cons, hb, hbs, List.singleton_append]
  have htext : asBytes (String.ofList (bs.map Char.ofUInt8)) = bs := by
    simp [asBytes, String.toByteArray_ofList, List.utf8Encode, hchars]
  exact ⟨_, by rw [← htext, fromUtf8_asBytes]⟩

/-! ## The head of a message -/

/-- The lines up to an empty one and what follows it, behind the beginning of a line. -/
def readHead (line : List UInt8) : List UInt8 → Option (List (List UInt8) × List UInt8)
  | 13 :: 10 :: rest =>
      if line.isEmpty then some ([], rest) else (readHead [] rest).map (Prod.map (line :: ·) id)
  | b :: rest => readHead (line ++ [b]) rest
  | [] => none

/-- A complete head stays what it is; the rest goes to the body. -/
theorem readHead_append (h : readHead line bs = some (lines, rest)) (more : List UInt8) :
    readHead line (bs ++ more) = some (lines, rest ++ more) := by
  induction line, bs using readHead.induct generalizing lines with
  | case1 line bs hempty =>
      simp only [readHead, hempty, if_true, Option.some.injEq, Prod.mk.injEq] at h
      simp [readHead, hempty, h]
  | case2 line bs hline ih =>
      simp [readHead, hline] at h
      obtain ⟨later, hlater, rfl⟩ := h
      simp [readHead, hline, ih hlater]
  | case3 line b bs hne ih =>
      have hstep : readHead line (b :: bs) = readHead (line ++ [b]) bs := by
        rw [readHead]
        exact hne
      rw [hstep] at h
      cases bs with
      | nil => simp [readHead] at h
      | cons c bs =>
          have hnext : readHead line (b :: c :: bs ++ more) =
              readHead (line ++ [b]) (c :: bs ++ more) := by
            rw [List.cons_append, readHead]
            intro rest hb hc
            exact hne bs hb (by simp_all)
          rw [hnext, ih h]
  | case4 line => simp [readHead] at h

/-- Bytes before the end of a line. -/
theorem readHead_text (h : 13 ∉ text) (rest : List UInt8) :
    readHead line (text ++ rest) = readHead (line ++ text) rest := by
  induction text generalizing line with
  | nil => simp
  | cons b text ih =>
      have hb : b ≠ 13 := fun hb => h (by simp [hb])
      have htext : 13 ∉ text := fun hm => h (by simp [hm])
      simp [readHead, hb, ih htext]

/-- The end of a line. -/
def crlf : List UInt8 := [13, 10]

/-- Lines, as they stand before a body. -/
def headText (lines : List (List UInt8)) : List UInt8 := lines.flatMap (· ++ crlf) ++ crlf

/-- The lines of a head are read back. -/
theorem readHead_headText (h : ∀ line ∈ lines, line ≠ [] ∧ 13 ∉ line)
    (body : List UInt8) : readHead [] (headText lines ++ body) = some (lines, body) := by
  induction lines with
  | nil => simp [headText, crlf, readHead]
  | cons line lines ih =>
      have hline := h line List.mem_cons_self
      have hlines := ih fun l hl => h l (List.mem_cons_of_mem line hl)
      have htext : headText (line :: lines) ++ body =
          line ++ 13 :: 10 :: (headText lines ++ body) := by
        simp [headText, crlf]
      rw [htext, readHead_text hline.2, List.nil_append, readHead, hlines]
      simp [hline.1]

/-! ## A response -/

structure Response where
  status : List UInt8
  headers : List (List UInt8)
  body : List UInt8

/-- The response that a connection carried, when it carried the head of one. -/
def readResponse (bs : List UInt8) : Option Response :=
  match readHead [] bs with
  | some (status :: headers, body) =>
      if (asBytes "HTTP/").isPrefixOf status then some { status, headers, body } else none
  | _ => none

/-- The value of a header, by its name as it is spelled, with the colon. -/
def Response.header (r : Response) (name : List UInt8) : Option (List UInt8) :=
  (r.headers.find? name.isPrefixOf).map (List.drop name.length)

/-- The length that is announced. -/
def Response.contentLength (r : Response) : Option Nat :=
  (r.header (asBytes "Content-Length: ")).bind leadingNumber

theorem readResponse_append (h : readResponse bs = some r) (more : List UInt8) :
    readResponse (bs ++ more) = some { r with body := r.body ++ more } := by
  unfold readResponse at h
  split at h
  · next status headers body hhead =>
    split at h
    · next hstatus =>
      simp only [Option.some.injEq] at h
      subst h
      simp [readResponse, readHead_append hhead, hstatus]
    · contradiction
  · contradiction

/-- A part of a response does not hold its body. -/
theorem body_ne_of_append (h : readResponse (bs ++ more) = some r) (hmore : more ≠ [])
    (hpart : readResponse bs = some part) : part.body ≠ r.body := by
  intro hbody
  have hwhole := readResponse_append hpart more
  rw [h, Option.some.injEq] at hwhole
  have hlen := congrArg (fun r => r.body.length) hwhole
  simp [hbody, hmore] at hlen

end Toucan.HttpMessage
