import Toucan.Web.Response

/-!
# Toucan.Web.Http

How a worker of the web server comes to the route of a request (`spawned_http`,
`web/http.rs`).  Every read fills the buffer from its start, but the slice for the
parser begins where the earlier reads ended: behind a first read that holds no whole
request the parser gets the end of the second read, and bytes that nothing was read
into (`slice_second`).

The crates `httparse` and `url_lite` are parameters.
-/

namespace Toucan.Web

open HttpMessage

/-! ## Parsing -/

/-- What `httparse::Request::parse` comes to, with the path of a complete request. -/
inductive Parsed where
  | complete (path : Option (List UInt8))
  | incomplete
  | error
  deriving DecidableEq

/-- The parser of `httparse`. -/
structure Httparse where
  parse : List UInt8 → Parsed
  /-- What follows a request is not looked at. -/
  complete_append (tail : List UInt8) :
    parse bytes = .complete path → parse (bytes ++ tail) = .complete path
  /-- No request has a NUL byte. -/
  error_of_nul (tail : List UInt8) :
    (∀ path, parse bytes ≠ .complete path) → parse (bytes ++ 0 :: tail) = .error

/-! ## A parser of plain requests -/

/-- A request line of three words, and what makes it no request. -/
def parseLine (line : List UInt8) : Parsed :=
  match line.splitOn 32 with
  | [_, path, _] => .complete (some path)
  | _ => .error

/-- The bytes before the first NUL byte. -/
def beforeNul : List UInt8 → List UInt8
  | [] => []
  | b :: bytes => if b = 0 then [] else b :: beforeNul bytes

/-- Reads to the empty line, and stops at a NUL byte. -/
def parsePlain (bytes : List UInt8) : Parsed :=
  match readHead [] (beforeNul bytes) with
  | some (line :: _, _) => parseLine line
  | some ([], _) => .error
  | none => if beforeNul bytes = bytes then .incomplete else .error

theorem beforeNul_append_nul (bytes tail : List UInt8) :
    beforeNul (bytes ++ 0 :: tail) = beforeNul bytes := by
  induction bytes with
  | nil => simp [beforeNul]
  | cons b bytes ih => grind [beforeNul]

theorem exists_beforeNul_append (bytes tail : List UInt8) :
    ∃ later, beforeNul (bytes ++ tail) = beforeNul bytes ++ later := by
  induction bytes with
  | nil => simp [beforeNul]
  | cons b bytes ih =>
      obtain ⟨later, hlater⟩ := ih
      by_cases hb : b = 0
      · exact ⟨[], by simp [beforeNul, hb]⟩
      · exact ⟨later, by simp [beforeNul, hb, hlater]⟩

theorem nul_not_mem_beforeNul (bytes : List UInt8) : 0 ∉ beforeNul bytes := by
  induction bytes with
  | nil => simp [beforeNul]
  | cons b bytes ih =>
      by_cases hb : b = 0
      · simp [beforeNul, hb]
      · simp [beforeNul, hb, ih, Ne.symm hb]

def plainHttparse : Httparse where
  parse := parsePlain
  complete_append {bytes path} tail h := by
    obtain ⟨later, hlater⟩ := exists_beforeNul_append bytes tail
    unfold parsePlain at h ⊢
    cases hhead : readHead [] (beforeNul bytes) with
    | none =>
        simp only [hhead] at h
        split at h <;> contradiction
    | some head =>
        cases head with
        | mk lines rest =>
            have hsame := readHead_append hhead later
            cases lines with
            | nil => simp [hhead] at h
            | cons line lines => simpa [hhead, hlater, hsame] using h
  error_of_nul {bytes} tail h := by
    have hnul : beforeNul bytes ≠ bytes ++ 0 :: tail := by
      intro heq
      exact nul_not_mem_beforeNul bytes (by simp [heq])
    simp only [parsePlain, beforeNul_append_nul] at h ⊢
    cases hhead : readHead [] (beforeNul bytes) with
    | none => simp [hnul]
    | some head =>
        cases head with
        | mk lines rest =>
            cases lines with
            | nil => rfl
            | cons line lines =>
                simp only [hhead] at h
                cases hline : parseLine line with
                | complete path => exact absurd hline (h path)
                | incomplete =>
                    unfold parseLine at hline
                    split at hline <;> contradiction
                | error => exact hline

/-! ## The worker -/

/-- The match on `this.path`. -/
def matchPath : Option (List UInt8) → Route
  | none => .settings
  | some path =>
      if path = asBytes "/favicon.ico" then .favicon
      else if path = asBytes "/api/config" then .apiConfig
      else if path = asBytes "/api/cells" then .apiCells
      else if path = asBytes "/api/bms" then .apiBms
      else if path = asBytes "/settings" then .settings
      else if path = asBytes "/cells" then .cells
      else .index

/-- What the reading of a request comes to: a route, or the end of the connection
(no more bytes, or an error of a read or a parser). -/
inductive Outcome where
  | panicked
  | closed
  | selected (route : Route)
  deriving DecidableEq

section

-- `Url::parse` of `url_lite`: the `path` of the URL, `none` for an error
variable (http : Httparse) (urlParse : List UInt8 → Option (Option (List UInt8)))

/-- Behind a complete request with this path. -/
def selectRoute : Option (List UInt8) → Outcome
  | none => .selected .foo
  | some path =>
      match urlParse path with
      | some path => .selected (matchPath path)
      | none => .closed

/-- `socket.read(&mut buffer)`, which brings these bytes, no more than the buffer has. -/
def readInto (buffer bytes : List UInt8) : List UInt8 := bytes ++ buffer.drop bytes.length

/-- `&buffer[pos..(pos + len)]` -/
def slice (buffer : List UInt8) (pos len : Nat) : List UInt8 := (buffer.drop pos).take len

/-- The loop over what the reads bring; then there are no more bytes. -/
def readLoop (buffer : List UInt8) (pos : Nat) : List (List UInt8) → Outcome
  | [] => .closed
  | bytes :: reads =>
      if bytes = [] then .closed -- EOF
      else if (readInto buffer bytes).length < pos + bytes.length then .panicked
      else
        match http.parse (slice (readInto buffer bytes) pos bytes.length) with
        | .error => .closed
        | .incomplete => readLoop (readInto buffer bytes) (pos + bytes.length) reads
        | .complete path => selectRoute urlParse path

/-- `[0u8; 1024]` -/
def requestBuffer : List UInt8 := List.replicate 1024 0

def selected (reads : List (List UInt8)) : Outcome :=
  readLoop http urlParse requestBuffer 0 reads

/-- A connection: the bytes on the wire, `none` for a panic. -/
def spawnedHttp (site : Site) (write : WriteResult) (reads : List (List UInt8)) :
    Option (List UInt8) :=
  match selected http urlParse reads with
  | .panicked => none
  | .closed => some []
  | .selected route => respond site write route

/-! ## Reads -/

/-- What some bytes select by themselves. -/
def selectAlone (bytes : List UInt8) : Outcome :=
  match http.parse bytes with
  | .complete path => selectRoute urlParse path
  | _ => .closed

/-- A read that the parser decides on. -/
theorem readLoop_of_decided (hbytes : bytes ≠ [])
    (hroom : pos + bytes.length ≤ (readInto buffer bytes).length)
    (h : http.parse (slice (readInto buffer bytes) pos bytes.length) ≠ .incomplete) :
    readLoop http urlParse buffer pos (bytes :: reads) =
      selectAlone http urlParse (slice (readInto buffer bytes) pos bytes.length) := by
  have hin : ¬ (readInto buffer bytes).length < pos + bytes.length := Nat.not_lt.mpr hroom
  rw [readLoop, if_neg hbytes, if_neg hin, selectAlone]
  cases hparse : http.parse (slice (readInto buffer bytes) pos bytes.length) with
  | complete path => rfl
  | incomplete => contradiction
  | error => rfl

/-- A read that the parser wants more after. -/
theorem readLoop_of_incomplete (hbytes : bytes ≠ [])
    (hroom : pos + bytes.length ≤ (readInto buffer bytes).length)
    (h : http.parse (slice (readInto buffer bytes) pos bytes.length) = .incomplete) :
    readLoop http urlParse buffer pos (bytes :: reads) =
      readLoop http urlParse (readInto buffer bytes) (pos + bytes.length) reads := by
  have hin : ¬ (readInto buffer bytes).length < pos + bytes.length := Nat.not_lt.mpr hroom
  rw [readLoop, if_neg hbytes, if_neg hin, h]

@[simp] theorem length_readInto (buffer bytes : List UInt8) :
    (readInto buffer bytes).length = max bytes.length buffer.length := by
  simp [readInto]
  omega

@[simp] theorem slice_readInto (buffer bytes : List UInt8) :
    slice (readInto buffer bytes) 0 bytes.length = bytes := by
  simp [slice, readInto]

/-- The slice behind a second read, in a buffer of `n` zeros. -/
theorem slice_second (hsum : first.length + second.length ≤ n) :
    slice (readInto (readInto (List.replicate n 0) first) second) first.length second.length =
      second.drop first.length ++
        List.replicate (min first.length second.length) (0 : UInt8) := by
  have hold : (first.drop second.length).drop (first.length - second.length) = [] := by
    rw [List.drop_drop, List.drop_eq_nil_iff]
    omega
  have hnew : (second.drop first.length).take second.length = second.drop first.length := by
    rw [List.take_of_length_le]
    simp
  have hzeros : min (second.length - (second.length - first.length))
      (n - first.length - (second.length - first.length) -
        (first.length - second.length - (first.length - second.length))) =
      min first.length second.length := by omega
  simp only [slice, readInto, List.drop_append, List.take_append, List.drop_replicate,
    List.take_replicate, List.length_drop, hold, hnew, List.nil_append, hzeros]

theorem length_requestBuffer : requestBuffer.length = 1024 := List.length_replicate

/-- A first read that the parser decides on. -/
theorem selected_of_decided (hfirst : first ≠ []) (hparse : http.parse first ≠ .incomplete) :
    selected http urlParse (first :: reads) = selectAlone http urlParse first := by
  have hroom : 0 + first.length ≤ (readInto requestBuffer first).length := by
    rw [length_readInto]
    omega
  rw [selected, readLoop_of_decided http urlParse hfirst hroom (by simpa using hparse)]
  simp

/-- A first read that the parser wants more after. -/
theorem selected_of_incomplete (hfirst : first ≠ []) (hparse : http.parse first = .incomplete) :
    selected http urlParse (first :: reads) =
      readLoop http urlParse (readInto requestBuffer first) (0 + first.length) reads := by
  have hroom : 0 + first.length ≤ (readInto requestBuffer first).length := by
    rw [length_readInto]
    omega
  rw [selected, readLoop_of_incomplete http urlParse hfirst hroom (by simpa using hparse)]

theorem selected_singleton (hbytes : bytes ≠ []) :
    selected http urlParse [bytes] = selectAlone http urlParse bytes := by
  by_cases hparse : http.parse bytes = .incomplete
  · rw [selected_of_incomplete http urlParse hbytes hparse]
    simp [readLoop, selectAlone, hparse]
  · exact selected_of_decided http urlParse hbytes hparse

/-- What NUL bytes follow makes no request. -/
theorem selectAlone_nul (bytes tail : List UInt8) :
    http.parse (bytes ++ 0 :: tail) ≠ .incomplete ∧
      selectAlone http urlParse (bytes ++ 0 :: tail) = selectAlone http urlParse bytes := by
  by_cases hcomplete : ∃ path, http.parse bytes = .complete path
  · obtain ⟨path, hpath⟩ := hcomplete
    have hsame := http.complete_append (0 :: tail) hpath
    simp [selectAlone, hpath, hsame]
  · have hnone : ∀ path, http.parse bytes ≠ .complete path := fun path hpath =>
      hcomplete ⟨path, hpath⟩
    have herror := http.error_of_nul tail hnone
    cases hparse : http.parse bytes with
    | complete path => exact absurd hparse (hnone path)
    | incomplete => simp [selectAlone, hparse, herror]
    | error => simp [selectAlone, hparse, herror]

/-- Behind a first read without a whole request, the second read decides. -/
theorem selected_cons_cons (hfirst : first ≠ []) (hsecond : second ≠ [])
    (hsum : first.length + second.length ≤ 1024) (hparse : http.parse first = .incomplete) :
    selected http urlParse (first :: second :: reads) =
      selectAlone http urlParse (second.drop first.length) := by
  obtain ⟨k, hk⟩ : ∃ k, min first.length second.length = k + 1 := by
    have hpos := List.length_pos_iff.mpr hfirst
    have hpos' := List.length_pos_iff.mpr hsecond
    exact ⟨min first.length second.length - 1, by omega⟩
  have hslice : slice (readInto (readInto requestBuffer first) second) (0 + first.length)
      second.length = second.drop first.length ++ 0 :: List.replicate k 0 := by
    rw [Nat.zero_add, ← List.replicate_succ, ← hk]
    exact slice_second hsum
  obtain ⟨hdecided, hselect⟩ := selectAlone_nul http urlParse (second.drop first.length)
    (List.replicate k 0)
  have hroom : 0 + first.length + second.length ≤
      (readInto (readInto requestBuffer first) second).length := by
    simp [length_requestBuffer]
    omega
  rw [selected_of_incomplete http urlParse hfirst hparse,
    readLoop_of_decided http urlParse hsecond hroom (by simpa only [hslice] using hdecided),
    hslice, hselect]

/-- **The route of a request**: a request in several reads selects the route that it
selects in one exactly when it comes in one, or when the second read, without as many
bytes as the first one had, is by itself a request for the same. -/
theorem selected_eq_iff
    (hpart : ∀ n < request.length, http.parse (request.take n) = .incomplete)
    (hlen : request.length ≤ 512) (hreads : ∀ bytes ∈ reads, bytes ≠ [])
    (hrequest : reads.flatten = request) :
    selected http urlParse reads = selected http urlParse [request] ↔
      reads.length ≤ 1 ∨ ∃ first second later, reads = first :: second :: later ∧
        selectAlone http urlParse (second.drop first.length) =
          selectAlone http urlParse request := by
  subst hrequest
  cases reads with
  | nil => simp [selected, readLoop]
  | cons first reads =>
      cases reads with
      | nil => simp
      | cons second later =>
          have hfirst := hreads first (by simp)
          have hsecond := hreads second (by simp)
          have hlens : (first :: second :: later).flatten.length =
              first.length + (second.length + later.flatten.length) := by simp
          have hpos := List.length_pos_iff.mpr hsecond
          have hparse : http.parse first = .incomplete := by
            simpa using hpart first.length (by omega)
          rw [selected_cons_cons http urlParse hfirst hsecond (by omega) hparse,
            selected_singleton http urlParse (by simp [hfirst])]
          constructor
          · intro hsame
            exact .inr ⟨first, second, later, rfl, hsame⟩
          · rintro (hone | ⟨_, _, _, hreads, hsame⟩)
            · simp at hone
            · cases hreads
              exact hsame

/-- "GET / HTTP/1.1", read but for its first letter in one piece: still the index. -/
theorem selected_eq_iff_late :
    selected plainHttparse (some ∘ some) [asBytes "G", asBytes "ET / HTTP/1.1\r\n\r\n"] =
      selected plainHttparse (some ∘ some) [asBytes "GET / HTTP/1.1\r\n\r\n"] :=
  (selected_eq_iff plainHttparse (some ∘ some) (by decide +kernel) (by decide +kernel)
    (by decide +kernel) (by decide +kernel)).mpr
    (.inr ⟨_, _, _, rfl, by decide +kernel⟩)

/-- "GET " and then the rest: the parser gets "TP/1.1", and the connection is closed. -/
theorem not_selected_eq :
    ¬ ∀ (http : Httparse) (urlParse : List UInt8 → Option (Option (List UInt8)))
      (request : List UInt8) (reads : List (List UInt8)),
      (∃ path, http.parse request = .complete path) →
      (∀ n < request.length, http.parse (request.take n) = .incomplete) →
      request.length ≤ 512 → (∀ bytes ∈ reads, bytes ≠ []) → reads.flatten = request →
      selected http urlParse reads = selected http urlParse [request] := by
  intro h
  have hsame := h plainHttparse (some ∘ some) (asBytes "GET / HTTP/1.1\r\n\r\n")
    [asBytes "GET ", asBytes "/ HTTP/1.1\r\n\r\n"] ⟨some (asBytes "/"), by decide +kernel⟩
    (by decide +kernel) (by decide +kernel) (by decide +kernel) (by decide +kernel)
  revert hsame
  decide +kernel

theorem selectAlone_ne_panicked (bytes : List UInt8) :
    selectAlone http urlParse bytes ≠ .panicked := by
  simp only [selectAlone, selectRoute]
  repeat' split
  all_goals simp

/-- The slice never runs over the buffer, since there is never a third read. -/
theorem selected_ne_panicked (h : ∀ bytes ∈ reads, bytes.length ≤ 512) :
    selected http urlParse reads ≠ .panicked := by
  cases reads with
  | nil => simp [selected, readLoop]
  | cons first reads =>
      by_cases hfirst : first = []
      · simp [selected, readLoop, hfirst]
      by_cases hparse : http.parse first = .incomplete
      · cases reads with
        | nil => simp [selected_of_incomplete http urlParse hfirst hparse, readLoop]
        | cons second later =>
            have hlen := h first (by simp)
            have hlen' := h second (by simp)
            by_cases hsecond : second = []
            · simp [selected_of_incomplete http urlParse hfirst hparse, readLoop, hsecond]
            · rw [selected_cons_cons http urlParse hfirst hsecond (by omega) hparse]
              exact selectAlone_ne_panicked http urlParse _
      · rw [selected_of_decided http urlParse hfirst hparse]
        exact selectAlone_ne_panicked http urlParse first

/-- No connection makes a worker panic: its reads bring no more than the socket buffers. -/
theorem spawnedHttp_isSome (site : Site) (write : WriteResult)
    (h : ∀ bytes ∈ reads, bytes.length ≤ 512) :
    (spawnedHttp http urlParse site write reads).isSome := by
  have hselected := selected_ne_panicked http urlParse h
  cases houtcome : selected http urlParse reads with
  | panicked => contradiction
  | closed => simp [spawnedHttp, houtcome]
  | selected route =>
      by_cases hfavicon : route = .favicon
      · simp [spawnedHttp, houtcome, hfavicon, respond]
      by_cases hfoo : route = .foo
      · simp [spawnedHttp, houtcome, hfoo, respond]
      · simp [spawnedHttp, houtcome, respond_eq site write hfavicon hfoo]

end

end Toucan.Web
