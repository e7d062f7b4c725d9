import Toucan.Modbus.Conversions

/-!
# Toucan.Modbus.Client

The gateway in client mode (`modbus/models.rs`, `modbus/flow.rs`): requests of an
RTU master are forwarded to a TCP server, and its responses go back on the RS485
line.
-/

namespace Toucan.Modbus.Client

open Async

/-! ## `ModbusRtu` -/

/-- Listen for RTU request -/
def listen : Bridge Unit := do
  modify fun g => { g with rtuRequest := .empty }
  let buf ← orFail .rtu (← await (.uartRead 8))
  let request ← gets (·.rtuRequest)
  let request ← ofOption (request.extend buf.toList)
  modify fun g => { g with rtuRequest := request }
  runCrcCheck request.toList

def send (payload : ResponsePayload) : Bridge Unit := transmit payload.toList

/-! ## `ModbusTcp` -/

/-- A buffer after a read: the bytes read, and behind them what was there. -/
def fill (buf : Vector UInt8 n) (got : BoundedVec UInt8 n) : Vector UInt8 n :=
  ⟨(got.toList ++ buf.toList.drop got.toList.length).toArray, by
    have hle := got.length_le
    rw [List.size_toArray, List.length_append, List.length_drop, Vector.length_toList]
    omega⟩

/-- The loop in `receive`, with its one-byte buffer: the end of the stream leaves
the buffer as it was, and is not noticed. -/
def receiveBytes : Nat → Vector UInt8 1 → Bridge Unit
  | 0, _ => pure ()
  | n + 1, buf => do
    let got ← orFail .tcp (← await (.sockRead 1))
    let buf := fill buf got
    let response ← gets (·.tcpResponse)
    match response.push (byte buf) with
    | some response =>
      modify fun g => { g with tcpResponse := response }
      receiveBytes n buf
    | none => fail .push

/-- Receive a response; how many bytes of the header arrived is not looked at. -/
def receive : Bridge Nat := do
  modify fun g => { g with tcpResponse := .empty }
  let got ← orFail .tcp (← await (.sockRead 6))
  let buf := fill (.replicate 6 0) got
  -- another transaction id is only warned about
  let response ← gets (·.tcpResponse)
  let response ← ofOption (response.extend buf.toList)
  modify fun g => { g with tcpResponse := response }
  let bytesLen := fromBeBytes buf[4] buf[5]
  receiveBytes bytesLen.toNat (.replicate 1 0)
  gets fun g => g.tcpResponse.toList.length

/-- The header buffer after its one read. -/
def headerBuf (got : BoundedVec UInt8 6) : Vector UInt8 6 := fill (.replicate 6 0) got

/-- The two bytes of its length field. -/
def lengthHigh (got : BoundedVec UInt8 6) : UInt8 := (headerBuf got)[4]

def lengthLow (got : BoundedVec UInt8 6) : UInt8 := (headerBuf got)[5]

/-- Forward request and return response -/
def sendAndReceive (payload : TcpRequestPayload) : Bridge Unit := do
  modify fun g => { g with tcpResponse := .empty }
  let _ ← orFail .tcp (← await (.sockWrite payload.toList))
  let _ ← receive

/-! ## The flow -/

/-- `process_flow` without the OB737 filter. -/
def processFlow : Bridge Unit := do
  listen
  let request ← gets (·.rtuRequest)
  let tcpPayload ← convertRtuRequestPayloadToTcpRequestPayload request
  sendAndReceive tcpPayload
  let response ← gets (·.tcpResponse)
  let rtuSend ← convertTcpReponsePayloadToRtuResponsePayload response
  send rtuSend

end Toucan.Modbus.Client
