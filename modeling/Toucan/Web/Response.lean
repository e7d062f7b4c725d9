import Toucan.Lib.HttpMessage
import Toucan.Web.Cells

/-!
# Toucan.Web.Response

What a worker of the web server answers (`spawned_http` and `construct_response`,
`web/http.rs`): the page or the text of a route goes behind a header into a buffer
of 12288 bytes, and the buffer to the socket, in one `write`.

The writer of the buffer drops what does not fit, and of what is written the socket
takes as much as it has room for; `oneResponse_respond_iff` says when the bytes on
the wire are a whole response all the same.
-/

namespace Toucan.Web

open Decimal HttpMessage

/-! ## The responses -/

inductive HttpType where
  | json
  | html
  | plain

def HttpType.asStr : HttpType → String
  | .json => "application/json"
  | .html => "text/html"
  | .plain => "text/plain"

/-- `construct_response`; `none` when a body that is no UTF-8 makes it panic. -/
def constructResponse (body : List UInt8) (h : HttpType) (response : ByteMutWriter) :
    Option (Except Unit ByteMutWriter) :=
  (fromUtf8 body).map fun text => response.write [
    asBytes "HTTP/1.1 200 OK\r\nContent-Type: ",
    asBytes h.asStr,
    asBytes "\r\nContent-Length: ",
    decimal body.length,
    asBytes "\r\n\r\n",
    asBytes text]

/-- What `socket.write` comes to: an error, or the number of bytes taken, which is
not zero.  A number beyond the bytes offered stands for all of them. -/
inductive WriteResult where
  | error
  | ok (n : Nat) (pos : 0 < n)

namespace WriteResult

def taken : WriteResult → Nat
  | error => 0
  | ok n _ => n

@[simp] theorem taken_eq_zero : taken write = 0 ↔ write = error := by
  cases write with
  | error => simp [taken]
  | ok n pos => simp [taken, Nat.ne_of_gt pos]

/-- The bytes that go on the wire. -/
def wire (write : WriteResult) (offered : List UInt8) : List UInt8 := offered.take write.taken

end WriteResult

/-- `[0u8; 1024 * 12]` -/
def responseBuffer : List UInt8 := List.replicate 12288 0

/-- `if let Ok(r) = construct_response(..)`, and the `write` in it; its result is
only looked at for an error, and the error only logged. -/
def sendResponse (write : WriteResult) (body : List UInt8) (h : HttpType) :
    Option (List UInt8) :=
  (constructResponse body h (.new responseBuffer)).map fun
    | .ok r => write.wire r.written
    | .error _ => []

/-! ## The routes -/

/-- The pages that are built in, and what the routes under `/api` are made of: the
texts that `json::to_string` gives, and the cells of the pack. -/
structure Site where
  indexHtml : String
  settingsHtml : String
  cellsHtml : String
  config : String
  bms : String
  cellMv : Vector UInt16 96
  balCells : Vector Bool 96

/-- The arms of the match on `this.path`, and the answer to a request without a path. -/
inductive Route where
  | favicon
  | apiConfig
  | apiCells
  | apiBms
  | settings
  | cells
  | index
  | foo
  deriving DecidableEq

/-- What a request is answered with: the bytes on the wire, `none` for a panic. -/
def respond (site : Site) (write : WriteResult) : Route → Option (List UInt8)
  | .favicon => some []
  | .apiConfig => sendResponse write (asBytes site.config) .json
  | .apiCells =>
      match cellStats cellsBuffer site.cellMv site.balCells with
      | .ok statsStr => sendResponse write statsStr .plain
      | .error _ => none
  | .apiBms => sendResponse write (asBytes site.bms) .json
  | .settings => sendResponse write (asBytes site.settingsHtml) .html
  | .cells => sendResponse write (asBytes site.cellsHtml) .html
  | .index => sendResponse write (asBytes site.indexHtml) .html
  | .foo => some (write.wire (asBytes "FOO")) -- respond with index.html

/-! ## What they should be -/

namespace Route

def httpType : Route → HttpType
  | apiConfig | apiBms => .json
  | apiCells => .plain
  | _ => .html

/-- The whole body of a route. -/
def body (site : Site) : Route → List UInt8
  | favicon => []
  | apiConfig => asBytes site.config
  | apiCells => (cellStats cellsBuffer site.cellMv site.balCells).toOption.getD []
  | apiBms => asBytes site.bms
  | settings => asBytes site.settingsHtml
  | cells => asBytes site.cellsHtml
  | index | foo => asBytes site.indexHtml

end Route

/-- Nothing, or one response that announces the length of its body, which is `body`. -/
def OneResponse (body wire : List UInt8) : Prop :=
  wire = [] ∨ ∃ r, readResponse wire = some r ∧ r.contentLength = some r.body.length ∧
    r.body = body

/-- The status line and the headers. -/
def headLines (h : HttpType) (body : List UInt8) : List (List UInt8) := [
  asBytes "HTTP/1.1 200 OK",
  asBytes "Content-Type: " ++ asBytes h.asStr,
  asBytes "Content-Length: " ++ decimal body.length]

/-- A whole response. -/
def responseText (h : HttpType) (body : List UInt8) : List UInt8 :=
  headText (headLines h body) ++ body

/-! ## A whole response -/

theorem length_responseText (h : HttpType) (body : List UInt8) :
    (responseText h body).length =
      53 + (asBytes h.asStr).length + (decimal body.length).length + body.length := by
  have hstatus : (asBytes "HTTP/1.1 200 OK").length = 15 := by decide +kernel
  have hname : (asBytes "Content-Type: ").length = 14 := by decide +kernel
  have hname' : (asBytes "Content-Length: ").length = 16 := by decide +kernel
  simp [responseText, headText, headLines, crlf, hstatus, hname, hname']
  omega

theorem headLines_spec (h : HttpType) (body : List UInt8) :
    ∀ line ∈ headLines h body, line ≠ [] ∧ 13 ∉ line := by
  have hlen : 13 ∉ decimal body.length := not_mem_decimal rfl
  have htype : 13 ∉ asBytes h.asStr := by cases h <;> decide +kernel
  have hstatus : asBytes "HTTP/1.1 200 OK" ≠ [] ∧ 13 ∉ asBytes "HTTP/1.1 200 OK" := by
    decide +kernel
  have hname : asBytes "Content-Type: " ≠ [] ∧ 13 ∉ asBytes "Content-Type: " := by
    decide +kernel
  have hname' : asBytes "Content-Length: " ≠ [] ∧ 13 ∉ asBytes "Content-Length: " := by
    decide +kernel
  simp [headLines, *]

theorem readResponse_responseText (h : HttpType) (body : List UInt8) :
    readResponse (responseText h body) =
      some ⟨asBytes "HTTP/1.1 200 OK", (headLines h body).tail, body⟩ := by
  have hhead := readHead_headText (headLines_spec h body) body
  have hstatus : (asBytes "HTTP/").isPrefixOf (asBytes "HTTP/1.1 200 OK") = true := by
    decide +kernel
  rw [readResponse, responseText, hhead]
  simp [headLines, hstatus]

theorem contentLength_responseText (h : HttpType) (status body : List UInt8) :
    Response.contentLength ⟨status, (headLines h body).tail, body⟩ = some body.length := by
  have hskip : (asBytes "Content-Length: ").isPrefixOf
      (asBytes "Content-Type: " ++ asBytes h.asStr) = false := by rfl
  have hfound : (asBytes "Content-Length: ").isPrefixOf
      (asBytes "Content-Length: " ++ decimal body.length) = true := by
    simp [List.isPrefixOf_iff_prefix]
  simp [Response.contentLength, Response.header, headLines, hskip, hfound]

/-- Some bytes of a response are one only when they are all of it. -/
theorem oneResponse_take_iff (h : HttpType) (body : List UInt8) (n : Nat) :
    OneResponse body ((responseText h body).take n) ↔
      n = 0 ∨ (responseText h body).length ≤ n := by
  have hwhole := readResponse_responseText h body
  have hne : responseText h body ≠ [] := by
    intro hnil
    simp [hnil, readResponse, readHead] at hwhole
  by_cases hlen : (responseText h body).length ≤ n
  · rw [List.take_of_length_le hlen]
    have hone : OneResponse body (responseText h body) :=
      .inr ⟨_, hwhole, contentLength_responseText .., rfl⟩
    simp [hone, hlen]
  · have hrest : (responseText h body).drop n ≠ [] := by
      rw [ne_eq, List.drop_eq_nil_iff]
      exact hlen
    have hpart : ¬ ∃ r, readResponse ((responseText h body).take n) = some r ∧
        r.contentLength = some r.body.length ∧ r.body = body := by
      rintro ⟨r, hr, -, hbody⟩
      rw [← List.take_append_drop n (responseText h body)] at hwhole
      exact body_ne_of_append hwhole hrest hr hbody
    simp [OneResponse, hpart, hlen, List.take_eq_nil_iff, hne]

/-- "FOO" is no part of a response. -/
theorem oneResponse_foo_iff (body : List UInt8) (n : Nat) :
    OneResponse body ((asBytes "FOO").take n) ↔ n = 0 := by
  have hnone : ∀ r, readResponse ((asBytes "FOO").take n) ≠ some r := by
    intro r hr
    have hfoo := readResponse_append hr ((asBytes "FOO").drop n)
    rw [List.take_append_drop] at hfoo
    simp [readResponse, show readHead [] (asBytes "FOO") = none by decide +kernel] at hfoo
  have hne : asBytes "FOO" ≠ [] := by decide +kernel
  simp [OneResponse, hnone, List.take_eq_nil_iff, hne]

/-! ## What goes on the wire -/

/-- A response is cut at the end of the buffer, and where the socket stops. -/
theorem sendResponse_eq (h : ∃ text, fromUtf8 body = some text) (write : WriteResult)
    (type : HttpType) :
    sendResponse write body type =
      some ((responseText type body).take (min write.taken 12288)) := by
  obtain ⟨text, htext⟩ := h
  have hbytes := asBytes_of_fromUtf8 htext
  have hstatus : asBytes "HTTP/1.1 200 OK\r\nContent-Type: " =
      asBytes "HTTP/1.1 200 OK" ++ crlf ++ asBytes "Content-Type: " := by decide +kernel
  have hlength : asBytes "\r\nContent-Length: " = crlf ++ asBytes "Content-Length: " := by
    decide +kernel
  have hempty : asBytes "\r\n\r\n" = crlf ++ crlf := by decide +kernel
  obtain ⟨w, hw, -, hwritten⟩ := (ByteMutWriter.new responseBuffer).written_write [
    asBytes "HTTP/1.1 200 OK\r\nContent-Type: ", asBytes type.asStr,
    asBytes "\r\nContent-Length: ", decimal body.length, asBytes "\r\n\r\n", asBytes text]
  have hcapacity : (ByteMutWriter.new responseBuffer).capacity = 12288 := List.length_replicate
  have hall : w.written = (responseText type body).take 12288 := by
    rw [hwritten, hcapacity, ByteMutWriter.written_new]
    simp [responseText, headText, headLines, hstatus, hlength, hempty, hbytes]
  simp [sendResponse, constructResponse, htext, hw, hall, WriteResult.wire, List.take_take]

theorem cellStats_ascii (h : cellStats cellsBuffer cellMv balCells = .ok text) :
    ∀ b ∈ text, b < 128 := by
  rw [cellStats_cellsBuffer, Except.ok.injEq] at h
  subst h
  intro b hb
  obtain ⟨cell, -, hcell⟩ := List.mem_flatMap.mp (List.mem_of_mem_take hb)
  have hdigit : ∀ b, isDigit b = true → b < 128 := by
    intro b hb
    simp [isDigit, UInt8.le_iff_toNat_le, UInt8.lt_iff_toNat_lt] at hb ⊢
    omega
  simp only [cellText, flag, List.mem_append, List.mem_cons, List.not_mem_nil, or_false] at hcell
  rcases hcell with hmv | rfl | hbal | rfl
  · exact hdigit b (isDigit_of_mem_decimal hmv)
  · decide
  · exact hdigit b (isDigit_of_mem_decimal hbal)
  · decide

theorem respond_eq (site : Site) (write : WriteResult) (h : route ≠ .favicon)
    (h' : route ≠ .foo) :
    respond site write route =
      some ((responseText route.httpType (route.body site)).take (min write.taken 12288)) := by
  cases route with
  | favicon | foo => contradiction
  | apiCells =>
      have htext := cellStats_cellsBuffer site.cellMv site.balCells
      have hascii := exists_fromUtf8 (cellStats_ascii htext)
      simp only [respond, Route.body, Route.httpType, htext]
      exact sendResponse_eq hascii write .plain
  | _ => exact sendResponse_eq ⟨_, fromUtf8_asBytes _⟩ write _

/-- **The responses**: whatever a route serves and however many bytes the socket takes,
there is nothing on the wire or one whole response exactly when the route is
"/favicon.ico", the write fails, or the response fits into the buffer and is taken at
once; never for a request without a path. -/
theorem oneResponse_respond_iff (site : Site) (write : WriteResult) (route : Route) :
    ∃ wire, respond site write route = some wire ∧
      (OneResponse (route.body site) wire ↔
        route = .favicon ∨ write = .error ∨ route ≠ .foo ∧
          (responseText route.httpType (route.body site)).length ≤ min write.taken 12288) := by
  by_cases hfavicon : route = .favicon
  · exact ⟨[], by rw [hfavicon, respond], by simp [OneResponse, hfavicon]⟩
  · by_cases hfoo : route = .foo
    · refine ⟨write.wire (asBytes "FOO"), by rw [hfoo, respond], ?_⟩
      simp [WriteResult.wire, oneResponse_foo_iff, hfoo]
    · refine ⟨_, respond_eq site write hfavicon hfoo, ?_⟩
      rw [oneResponse_take_iff]
      simp [hfavicon, hfoo, Nat.min_eq_zero_iff]

/-- The settings page has 12523 bytes, and the socket a buffer of 4096. -/
theorem not_oneResponse_respond :
    ¬ ∀ (site : Site) (write : WriteResult) (route : Route),
      ∃ wire, respond site write route = some wire ∧ OneResponse (route.body site) wire := by
  intro h
  obtain ⟨page, hpage⟩ : ∃ page, (asBytes page).length = 12523 := by
    have hascii : ∀ b ∈ List.replicate 12523 (32 : UInt8), b < 128 := by
      intro b hb
      rw [List.eq_of_mem_replicate hb]
      decide
    obtain ⟨page, hpage⟩ := exists_fromUtf8 hascii
    exact ⟨page, by rw [asBytes_of_fromUtf8 hpage, List.length_replicate]⟩
  obtain ⟨wire, hwire, hone⟩ :=
    h ⟨"", page, "", "", "", .replicate 96 0, .replicate 96 false⟩ (.ok 4096 (by simp)) .settings
  rw [respond_eq _ _ (by simp) (by simp), Option.some.injEq] at hwire
  rw [← hwire, oneResponse_take_iff, length_responseText] at hone
  simp only [Route.body, WriteResult.taken, hpage] at hone
  omega

end Toucan.Web
