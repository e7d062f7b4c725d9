import Toucan.Lib.Machine
import Toucan.Lib.Method
import Toucan.Types
import Toucan.BmsStandard
import Toucan.Statics
import Toucan.Tasks.Ze40
import Toucan.Tasks.Ze50
import Toucan.Tasks.Inverter
import Toucan.Tasks.Solax
import Toucan.Tasks.ForceH2
import Toucan.Tasks.Pylontech
import Toucan.Tasks.Policy
import Toucan.Tasks.Staleness
import Toucan.Tasks.Contactor
import Toucan.Lib.Fifo
import Toucan.Tasks.CanInterfaces
import Toucan.System.Ze40Solax
import Toucan.Lib.Async
import Toucan.Lib.BoundedVec
import Toucan.Lib.Crc16
import Toucan.Modbus.Models
import Toucan.Modbus.Conversions
import Toucan.Modbus.Receive
import Toucan.Modbus.Listen
import Toucan.Config
import Toucan.Tasks.Ze40Discharge
import Toucan.Modbus.Client
import Toucan.Lib.AsyncSpec
import Toucan.Modbus.BridgeFlow
import Toucan.Modbus.ServerStream
import Toucan.Modbus.RoundTrip
import Toucan.Modbus.ClientFlow
import Toucan.Modbus.Task
import Toucan.Modbus.BridgeRuns
import Toucan.Modbus.ClientRuns
import Toucan.Modbus.DriverEnable
import Toucan.Modbus.SocketFailure
import Toucan.Tasks.Ze50Filter
import Toucan.Tasks.Ze40Signal
import Toucan.Tasks.ContactorMain
import Toucan.Tasks.SolaxFault
import Toucan.Tasks.SolaxInputs
import Toucan.Tasks.TcpDebug
import Toucan.Modbus.Resync
import Toucan.Lib.Decimal
import Toucan.Utils.BytesWriter
import Toucan.Web.Cells
import Toucan.Lib.HttpMessage
import Toucan.Web.Response
import Toucan.Web.Http
import Toucan.Lib.Utf8
import Toucan.Utils.Writers
import Toucan.Lib.Netmask
import Toucan.NetConfig
import Toucan.Lib.TimeZone
import Toucan.Tasks.Ntp
import Toucan.Lib.Rfc5424
import Toucan.Syslog
import Toucan.Modbus.Ob737
import Toucan.Modbus.Ob737Runs
import Toucan.Lib.Wire
import Toucan.Lib.VarInt
import Toucan.Lib.BigEndian
import Toucan.Mqtt.VariableByteInteger
import Toucan.Mqtt.RoundTrip
import Toucan.Mqtt.Client
import Toucan.Mqtt.Receive
import Toucan.Mqtt.Answers
import Toucan.Mqtt.Poll
import Toucan.Mqtt.Requests
import Toucan.Mqtt.Accepted
import Toucan.Mqtt.Network
import Toucan.Mqtt.Calls
import Toucan.Tasks.MqttNet
import Toucan.Tasks.MqttSession
import Toucan.Lib.ClockSync
import Toucan.Sntp.Packet
import Toucan.Sntp.Client
import Toucan.Sntp.Offset
import Toucan.Tasks.NtpClient
import Toucan.Tasks.TeslaM3
