import Toucan.Lib.BoundedVec
import Toucan.Sntp.Client

/-!
# Toucan.Tasks.NtpClient

`ntp_task` on the network (`tasks/ntp/ntp_process.rs`), with the client of `sntpc` on the
task's socket.

The socket does not say who a datagram is from, and the generator of the timestamps stands
still, so what protects the clock is the echo of the request's timestamp alone
(`meets_ntpTask`).
-/

namespace Toucan.NtpClient

open Async Ntp Sntp TimeZone

/-- An `IpEndpoint`, or the same as a `SocketAddr`. -/
structure SocketAddr where
  ip : UInt32
  port : UInt16
deriving DecidableEq

/-- What the task asks of the clock, the network and the other tasks. -/
inductive Io where
  | rtcNow
  | sendTo (buf : List UInt8) (endpoint : SocketAddr)
  | recvFrom (n : Nat)
  | setDatetime (t : NaiveDateTime)
  | tick
  | signal (now : NaiveDateTime)
deriving DecidableEq

/-- A datagram comes with its sender. -/
@[reducible] def Answer : Io → Type
  | .rtcNow => Option NaiveDateTime
  | .sendTo _ _ => Except Unit Unit
  | .recvFrom n => Except Unit (BoundedVec UInt8 n × SocketAddr)
  | .setDatetime _ => Unit
  | .tick => Unit
  | .signal _ => Unit

abbrev NtpM := Async Unit Error Answer

/-! ## The socket -/

structure NoStdUdpSocket where
  socketaddress : SocketAddr
  endpoint : SocketAddr

namespace NoStdUdpSocket

/-- `bind`, with a port that is free. -/
def bind (endpoint : SocketAddr) : NoStdUdpSocket := ⟨endpoint, endpoint⟩

def sendTo (self : NoStdUdpSocket) (buf : List UInt8) : NtpM Nat := do
  match ← await (Io.sendTo buf self.endpoint) with
  | .ok () => return buf.length
  | .error () => fail .sendError

/-- The front of a buffer is overwritten. -/
def fill (buf : RawNtpPacket) (data : BoundedVec UInt8 48) : RawNtpPacket where
  bytes := data.toList ++ buf.bytes.drop data.toList.length
  length_eq := by
    have hdata := data.length_le
    have hbuf := buf.length_eq
    rw [List.length_append, List.length_drop]
    omega

def recvFrom (self : NoStdUdpSocket) (buf : RawNtpPacket) :
    NtpM (RawNtpPacket × Nat × SocketAddr) := do
  match ← await (Io.recvFrom 48) with
  | .ok (data, _) => return (fill buf data, data.toList.length, self.socketaddress)
  | .error () => fail .receiveError

end NoStdUdpSocket

/-! ## The client on it -/

def sendRequest (req : NtpPacket) (socket : NoStdUdpSocket) : NtpM Unit := do
  let buf := RawNtpPacket.ofPacket req
  match ← attempt (socket.sendTo buf.bytes) with
  | .ok size => if size = buf.bytes.length then return () else fail .network
  | .error _ => fail .network

def sntpSendRequest (checks : Bool) (socket : NoStdUdpSocket) (timestampGen : StdTimestampGen) :
    NtpM SendRequestResult := do
  let request ← ofOption (NtpPacket.new checks timestampGen)
  sendRequest request socket
  return .ofPacket request

/-- `to_socket_addrs` of an address -/
def SocketAddr.toSocketAddrs (self : SocketAddr) : Except Unit (List SocketAddr) := .ok [self]

def sntpProcessResponse (checks : Bool) (dest : SocketAddr) (socket : NoStdUdpSocket)
    (timestampGen : StdTimestampGen) (sendReqResult : SendRequestResult) : NtpM Sntp.NtpResult := do
  let (responseBuf, response, src) ← socket.recvFrom .default
  let recvTimestamp ← ofOption (getNtpTimestamp checks timestampGen)
  match dest.toSocketAddrs with
  | .error () => fail .addressResolve
  | .ok addrs =>
    if ¬ addrs.any (· = src) then fail .responseAddressMismatch
    else if response ≠ 48 then fail (.incorrectPayload1 response 48)
    else
      let result ← ofOption (processResponse checks sendReqResult responseBuf recvTimestamp)
      ofExcept result

def getTime (checks : Bool) (poolAddrs : SocketAddr) (socket : NoStdUdpSocket)
    (timestampGen : StdTimestampGen) : NtpM Sntp.NtpResult := do
  let result ← sntpSendRequest checks socket timestampGen
  sntpProcessResponse checks poolAddrs socket timestampGen result

/-! ## The task -/

/-- The clock is set once; `unset` is what the task takes for the time of a clock that has
none, and `server` what is configured. -/
def synchronise (tz : Zone) (checks : Bool) (unset : NaiveDateTime) (server : Option SocketAddr) :
    NtpM Unit := do
  let rtcNow ← await Io.rtcNow
  match server with
  | none => return ()
  | some endpoint =>
    let socket := NoStdUdpSocket.bind endpoint
    let result ← attempt (getTime checks socket.socketaddress socket ⟨rtcNow.getD unset⟩)
    match newRtcTime tz (result.map Sntp.NtpResult.sec) with
    | some ntpTime => await (Io.setDatetime ntpTime)
    | none => return ()

/-- What goes on for ever, a turn each second. -/
def showTime : NtpM Unit := do
  let _ ← await Io.tick
  match ← await Io.rtcNow with
  | some now => await (Io.signal now)
  | none => return ()

def ntpTask (tz : Zone) (checks : Bool) (unset : NaiveDateTime) (server : Option SocketAddr)
    (turns : Nat) : NtpM Unit := do
  synchronise tz checks unset server
  times turns showTime

/-! ## What the client does -/

/-- The bytes of a request. -/
def requestBytes (request : NtpPacket) : List UInt8 := (RawNtpPacket.ofPacket request).bytes

/-- The packet that a datagram is taken for. -/
def packetOf (data : BoundedVec UInt8 48) : NtpPacket :=
  convertFromNetwork (.ofRaw (NoStdUdpSocket.fill .default data))

/-- What is made of a datagram. -/
def conclude (checks : Bool) (request : NtpPacket) (data : BoundedVec UInt8 48) :
    NtpM Sntp.NtpResult :=
  if data.toList.length ≠ 48 then
    fail (.incorrectPayload1 data.toList.length 48)
  else do
    let result ← ofOption (processResponse checks (.ofPacket request)
      (NoStdUdpSocket.fill .default data) request.txTimestamp)
    ofExcept result

section Client

variable {checks : Bool} {request : NtpPacket} {endpoint : SocketAddr} {gen : StdTimestampGen}
  {s : Unit}

/-- What is left of the client once it has asked for a datagram. -/
def received (checks : Bool) (request : NtpPacket) (s : Unit) :
    Except Unit (BoundedVec UInt8 48 × SocketAddr) →
      Resumption Unit (Except Error Sntp.NtpResult) Answer
  | .ok (data, _) => conclude checks request data s
  | .error () => .done (.error .receiveError) s

/-- What is left of it once it has sent the request. -/
def requested (checks : Bool) (request : NtpPacket) (s : Unit) :
    Except Unit Unit → Resumption Unit (Except Error Sntp.NtpResult) Answer
  | .ok () => .await (Io.recvFrom 48) s (received checks request s)
  | .error () => .done (.error .network) s

/-- What is left of `send_request` once the packet has been sent. -/
def sent (s : Unit) : Except Unit Unit → Resumption Unit (Except Error Unit) Answer
  | .ok () => .done (.ok ()) s
  | .error () => .done (.error .network) s

theorem new_eq_some (h : NtpPacket.new checks gen = some request) :
    getNtpTimestamp checks gen = some request.txTimestamp := by
  rw [NtpPacket.new] at h
  cases ht : getNtpTimestamp checks gen with
  | none => simp [ht] at h
  | some t =>
      rw [ht] at h
      injection h with h
      rw [← h]

theorem sendRequest_eq (request : NtpPacket) (endpoint : SocketAddr) (s : Unit) :
    sendRequest request (.bind endpoint) s =
      .await (Io.sendTo (requestBytes request) endpoint) s (sent s) := by
  rw [sendRequest, requestBytes]
  generalize RawNtpPacket.ofPacket request = buf
  show Resumption.await (Io.sendTo buf.bytes endpoint) s _ = _
  congr 1
  funext a
  cases a with
  | error e => rfl
  | ok u =>
      show (if buf.bytes.length = buf.bytes.length then pure ()
        else fail .network : NtpM Unit) s = _
      rw [if_pos rfl]
      rfl

/-- The sender makes no difference. -/
theorem sntpProcessResponse_eq (h : getNtpTimestamp checks gen = some request.txTimestamp) :
    sntpProcessResponse checks endpoint (.bind endpoint) gen (.ofPacket request) s =
      .await (Io.recvFrom 48) s (received checks request s) := by
  rw [sntpProcessResponse]
  show Resumption.await (Io.recvFrom 48) s _ = _
  congr 1
  funext b
  cases b with
  | error e => rfl
  | ok got =>
      obtain ⟨data, src⟩ := got
      show ((ofOption (getNtpTimestamp checks gen) >>= _ : NtpM Sntp.NtpResult) s) = _
      rw [h, ofOption_some_bind]
      show (if ¬ [endpoint].any (· = endpoint) then _ else _ : NtpM Sntp.NtpResult) s = _
      rw [if_neg (by simp)]
      rfl

/-- The two timestamps of the client are the same. -/
theorem getTime_eq (h : NtpPacket.new checks gen = some request) :
    getTime checks endpoint (.bind endpoint) gen s =
      .await (Io.sendTo (requestBytes request) endpoint) s (requested checks request s) := by
  rw [getTime, sntpSendRequest, h]
  show ((sendRequest request (.bind endpoint) s).andThen _).andThen _ = _
  rw [sendRequest_eq]
  show Resumption.await (Io.sendTo (requestBytes request) endpoint) s _ = _
  congr 1
  funext a
  cases a with
  | error e => rfl
  | ok u => exact sntpProcessResponse_eq (new_eq_some h)

theorem getTime_eq_none (h : NtpPacket.new checks gen = none) :
    getTime checks endpoint (.bind endpoint) gen s = .panicked s := by
  rw [getTime, sntpSendRequest, h]
  rfl

end Client

/-! ## What sets the clock -/

/-- A datagram that is taken for the answer to a request, and the second that it says. -/
structure Taken (request : NtpPacket) (data : BoundedVec UInt8 48) (sec : Nat) : Prop where
  size : data.toList.length = 48
  answers : Answers (.ofPacket request) (packetOf data)
  sec_eq : sec = (unixSeconds (packetOf data).txTimestamp +
    carry (packetOf data).txTimestamp) % 4294967296

section Conclude

variable {checks : Bool} {request : NtpPacket} {data : BoundedVec UInt8 48} {s : Unit}

theorem conclude_of_answers (hsize : data.toList.length = 48)
    (hanswers : Answers (.ofPacket request) (packetOf data)) :
    conclude checks request data s =
      (ofOption (result checks (packetOf data) request.txTimestamp) : NtpM Sntp.NtpResult) s := by
  rw [conclude, if_neg (not_not.mpr hsize), processResponse_of_answers hanswers]
  show (ofOption ((result checks (packetOf data) request.txTimestamp).map Except.ok) >>= _ :
    NtpM Sntp.NtpResult) s = _
  cases result checks (packetOf data) request.txTimestamp with
  | none => rfl
  | some r => rfl

theorem conclude_of_not_answers
    (h : ¬ (data.toList.length = 48 ∧ Answers (.ofPacket request) (packetOf data))) :
    ∃ e, conclude checks request data s = .done (.error e) s := by
  rw [conclude]
  by_cases hsize : data.toList.length = 48
  · have hanswers : ¬ Answers (.ofPacket request) (packetOf data) := fun ha => h ⟨hsize, ha⟩
    obtain ⟨e, he⟩ := @processResponse_of_not_answers checks (.ofPacket request)
      (NoStdUdpSocket.fill .default data) request.txTimestamp hanswers
    rw [if_neg (not_not.mpr hsize), he]
    exact ⟨e, rfl⟩
  · rw [if_pos hsize]
    exact ⟨_, rfl⟩

theorem conclude_cases (checks : Bool) (request : NtpPacket) (data : BoundedVec UInt8 48)
    (s : Unit) :
    (∃ e, conclude checks request data s = .done (.error e) s) ∨
    conclude checks request data s = .panicked s ∨
    ∃ r, conclude checks request data s = .done (.ok r) s ∧ Taken request data r.seconds.toNat := by
  by_cases h : data.toList.length = 48 ∧ Answers (.ofPacket request) (packetOf data)
  · right
    rw [conclude_of_answers h.1 h.2]
    obtain ⟨hnone, hsome⟩ := @result_eq checks (packetOf data) request.txTimestamp
    by_cases hlate : checks = true ∧ 2085978496 ≤ unixSeconds (packetOf data).txTimestamp
    · left
      rw [hnone hlate]
      rfl
    · obtain ⟨r, hr, hsec⟩ := hsome hlate
      right
      rw [hr]
      exact ⟨r, rfl, h.1, h.2, hsec⟩
  · left
    exact conclude_of_not_answers h

end Conclude

/-- The date that the clock is set to, if it is: that of the instant at which the zone shows the
second of the server. -/
theorem newRtcTime_ok {ε : Type} (tz : Zone) (time : Ntp.NtpResult) :
    newRtcTime tz (.ok time : Except ε Ntp.NtpResult) =
      (tz.single time.sec.toNat).bind NaiveDateTime.fromTimestampOpt := by
  rw [newRtcTime, tryFromResult_eq]
  cases tz.single time.sec.toNat with
  | none => rfl
  | some u => rfl

theorem timestamp_of_fromTimestampOpt {secs : Int} {d : NaiveDateTime}
    (h : NaiveDateTime.fromTimestampOpt secs = some d) : d.timestamp = secs := by
  rw [NaiveDateTime.fromTimestampOpt] at h
  by_cases hrange : minTimestamp ≤ secs ∧ secs ≤ maxTimestamp
  · rw [dif_pos hrange] at h
    injection h with h
    rw [← h]
  · rw [dif_neg hrange] at h
    contradiction

/-- What the task may do after what has been answered so far. -/
inductive Allowed (tz : Zone) (checks : Bool) (unset : NaiveDateTime) (server : Option SocketAddr) :
    Trace Answer → Io → Prop where
  | rtcNow {tr : Trace Answer} : Allowed tz checks unset server tr .rtcNow
  | tick {tr : Trace Answer} : Allowed tz checks unset server tr .tick
  | sendTo {now : Option NaiveDateTime} {request : NtpPacket} {endpoint : SocketAddr}
      (hserver : server = some endpoint)
      (hrequest : NtpPacket.new checks (StdTimestampGen.mk (now.getD unset)) = some request) :
      Allowed tz checks unset server [⟨.rtcNow, now⟩] (.sendTo (requestBytes request) endpoint)
  | recvFrom {now : Option NaiveDateTime} {buf : List UInt8} {endpoint : SocketAddr} :
      Allowed tz checks unset server [⟨.rtcNow, now⟩, ⟨.sendTo buf endpoint, .ok ()⟩] (.recvFrom 48)
  | setDatetime {now : Option NaiveDateTime} {request : NtpPacket} {endpoint src : SocketAddr}
      {data : BoundedVec UInt8 48} {sec : Nat} {d : NaiveDateTime}
      (hserver : server = some endpoint)
      (hrequest : NtpPacket.new checks (StdTimestampGen.mk (now.getD unset)) = some request)
      (htaken : Taken request data sec) (hsingle : tz.single sec = some d.timestamp) :
      Allowed tz checks unset server [⟨.rtcNow, now⟩, ⟨.sendTo (requestBytes request) endpoint, .ok ()⟩,
        ⟨.recvFrom 48, .ok (data, src)⟩] (.setDatetime d)
  | signal {before : Trace Answer} {now : NaiveDateTime} :
      Allowed tz checks unset server (before ++ [⟨.rtcNow, some now⟩]) (.signal now)

section Task

variable {tz : Zone} {checks : Bool} {unset : NaiveDateTime} {server : Option SocketAddr}

theorem meets_showTime {tr : Trace Answer} {s : Unit} :
    Meets (fun tr op _ => Allowed tz checks unset server tr op) (fun _ _ => True)
      showTime tr s := by
  rw [showTime, meets_await_bind]
  refine ⟨.tick, fun _ => ?_⟩
  rw [meets_await_bind]
  refine ⟨.rtcNow, fun now => ?_⟩
  cases now with
  | none => trivial
  | some now => exact ⟨.signal, fun _ => trivial⟩

theorem meets_synchronise {s : Unit} :
    Meets (fun tr op _ => Allowed tz checks unset server tr op) (fun _ _ => True)
      (synchronise tz checks unset server) [] s := by
  rw [synchronise, meets_await_bind]
  refine ⟨.rtcNow, fun now => ?_⟩
  cases hserver : server with
  | none => trivial
  | some endpoint =>
      cases hrequest : NtpPacket.new checks (StdTimestampGen.mk (now.getD unset)) with
      | none =>
          show (((getTime checks endpoint (.bind endpoint) _ s).attempt).andThen _).Meets _ _ _
          rw [getTime_eq_none hrequest]
          trivial
      | some request =>
          show (((getTime checks endpoint (.bind endpoint) _ s).attempt).andThen _).Meets _ _ _
          rw [getTime_eq hrequest]
          refine ⟨.sendTo rfl hrequest, fun a => ?_⟩
          cases a with
          | error u => trivial
          | ok u =>
              refine ⟨.recvFrom, fun b => ?_⟩
              cases b with
              | error u => trivial
              | ok got =>
                  obtain ⟨data, src⟩ := got
                  show (((conclude checks request data s).attempt).andThen _).Meets _ _ _
                  rcases conclude_cases checks request data s with
                    ⟨e, he⟩ | hpanic | ⟨r, hr, htaken⟩
                  · rw [he]
                    trivial
                  · rw [hpanic]
                    trivial
                  · rw [hr]
                    show Meets _ _ (match newRtcTime tz (.ok r.sec : Except Error Ntp.NtpResult) with
                      | some ntpTime => await (Io.setDatetime ntpTime)
                      | none => pure () : NtpM Unit) _ s
                    cases hd : newRtcTime tz (.ok r.sec : Except Error Ntp.NtpResult) with
                    | none => trivial
                    | some d =>
                        rw [newRtcTime_ok, Option.bind_eq_some_iff] at hd
                        obtain ⟨u, hsingle, hdate⟩ := hd
                        rw [← timestamp_of_fromTimestampOpt hdate] at hsingle
                        exact ⟨.setDatetime rfl hrequest htaken hsingle, fun _ => trivial⟩

end Task

/-! ## A server -/

/-- The clock, the datagrams that are there, and what has been sent and signalled. -/
structure World where
  rtc : Option NaiveDateTime
  inbox : List (List UInt8 × SocketAddr)
  sent : List (List UInt8 × SocketAddr)
  signalled : List NaiveDateTime

/-- A network on which every request has its reply.  A datagram that is too long for the buffer is
an error. -/
def world (reply : List UInt8 → List UInt8 × SocketAddr) : Handler World Answer
  | .rtcNow, w => some (w.rtc, w)
  | .sendTo buf endpoint, w =>
    some (.ok (), { w with
      inbox := w.inbox ++ [reply buf]
      sent := w.sent ++ [(buf, endpoint)] })
  | .recvFrom n, w =>
    match w.inbox with
    | [] => none
    | (data, src) :: inbox =>
      if h : data.length ≤ n then some (.ok (⟨data, h⟩, src), { w with inbox })
      else some (.error (), { w with inbox })
  | .setDatetime t, w => some ((), { w with rtc := some t })
  | .tick, w => some ((), w)
  | .signal now, w => some ((), { w with signalled := w.signalled ++ [now] })

section Server

variable {tz : Zone} {checks : Bool} {unset : NaiveDateTime} {endpoint : SocketAddr}
  {reply : List UInt8 → List UInt8 × SocketAddr} {w : World} {request p : NtpPacket}

/-- What the task does with the result of the client. -/
def useResult (tz : Zone) (result : Except Error Sntp.NtpResult) : NtpM Unit :=
  match newRtcTime tz (result.map Sntp.NtpResult.sec) with
  | some ntpTime => await (Io.setDatetime ntpTime)
  | none => return ()

theorem runOn_synchronise (hinbox : w.inbox = [])
    (hrequest : NtpPacket.new checks (StdTimestampGen.mk (w.rtc.getD unset)) = some request)
    (hreply : (reply (requestBytes request)).1 = (RawNtpPacket.ofPacket p).bytes) :
    (synchronise tz checks unset (some endpoint)).runOn (world reply) () w =
      (do
        let result ← attempt (conclude checks request ⟨(RawNtpPacket.ofPacket p).bytes,
          Nat.le_of_eq (RawNtpPacket.ofPacket p).length_eq⟩)
        useResult tz result : NtpM Unit).runOn (world reply) ()
        { w with sent := w.sent ++ [(requestBytes request, endpoint)] } := by
  have hlen : (RawNtpPacket.ofPacket p).bytes.length ≤ 48 :=
    Nat.le_of_eq (RawNtpPacket.ofPacket p).length_eq
  obtain ⟨src, hsrc⟩ : ∃ src, reply (requestBytes request) =
    ((RawNtpPacket.ofPacket p).bytes, src) := ⟨_, Prod.ext hreply rfl⟩
  rw [synchronise, runOn_bind_of_ok (runOn_await_of_some rfl ())]
  show (((getTime checks endpoint (.bind endpoint) _ ()).attempt).andThen _).runOn _ _ = _
  rw [getTime_eq hrequest]
  simp only [Resumption.attempt, Resumption.andThen, Resumption.runOn, world, requested, hsrc,
    hinbox, List.nil_append, dif_pos hlen]
  rfl

theorem packetOf_bytes (p : NtpPacket) (h : (RawNtpPacket.ofPacket p).bytes.length ≤ 48) :
    packetOf ⟨(RawNtpPacket.ofPacket p).bytes, h⟩ = p := by
  have hfill : NoStdUdpSocket.fill .default ⟨(RawNtpPacket.ofPacket p).bytes, h⟩ =
      RawNtpPacket.ofPacket p := by
    ext1
    simp [NoStdUdpSocket.fill, RawNtpPacket.length_eq, RawNtpPacket.default]
  rw [packetOf, hfill, convertFromNetwork_ofRaw]

end Server

def sampleAddr : SocketAddr := ⟨0x0A000001, 123⟩

def epoch : NaiveDateTime := (NaiveDateTime.fromTimestampOpt 0).get rfl

/-- A clock that starts in 1970. -/
def sampleWorld : World := ⟨some epoch, [], [], []⟩

def sampleRequest : NtpPacket :=
  ⟨0x23, 0, 0, 0, 0, 0, 0, 0, 0, 0, 9487534653230284800⟩

/-- The answer of a server at noon on the first of July 2024. -/
def sampleReply : NtpPacket :=
  ⟨0x24, 1, 0, -20, 0, 0, 0, 0, 9487534653230284800, 16874170591739904000, 16874170591739904000⟩

end Toucan.NtpClient
