import Chassis.Proof.Manager.DeviceMap
import Chassis.Proof.Manager.Links
import Chassis.Proof.Manager.Channels
import Chassis.Proof.Manager.Bounds
import Chassis.Proof.Manager.FanTimer
import Chassis.Proof.Manager.FruControl
import Chassis.Proof.Manager.SdrCache
import Chassis.Proof.Manager.SdrReread
import Chassis.Proof.Manager.SensorAlarm
import Chassis.Proof.Bridge.Attribution
import Chassis.Proof.Bridge.Leak
import Chassis.Proof.Bridge.Sequence
import Chassis.Proof.Bridge.Delivery
import Chassis.Proof.Bridge.Routing
import Chassis.Proof.Bridge.Codec
import Chassis.Proof.Bridge.Echo
import Chassis.Proof.Bridge.Answer
import Chassis.Proof.Joint.Reply
import Chassis.Proof.Joint.Capabilities
import Chassis.Proof.Joint.Filter
import Chassis.Proof.Joint.Activation
import Chassis.Proof.Boot.Shutdown
import Chassis.Proof.Boot.Logs
import Chassis.Proof.Boot.Publish
import Chassis.Proof.Gpio.Outputs
import Chassis.Proof.Store.Restore
import Chassis.Proof.Monitor.Gate
import Chassis.Proof.Monitor.LastLimits
import Chassis.Data.Numbering
import Chassis.Effect.Exact
import Chassis.Proof.Bridge.Receive
import Chassis.Proof.Manager.AddressKeys
import Chassis.Proof.Manager.Identifier
import Chassis.Proof.Manager.Policy
import Chassis.Proof.Manager.Reply
import Chassis.Proof.Manager.SensorNumbers
import Chassis.Proof.Cooling.FullSpeed
import Chassis.Proof.Thermal.OtherLimits
import Chassis.Proof.Memory.Session
import Chassis.Proof.Bridge.Acceptance
import Chassis.Proof.Manager.SubsidiaryFru
import Chassis.Proof.Manager.SdrRequests
import Chassis.Proof.Manager.Failures
import Chassis.Proof.Manager.Discovery
import Chassis.Proof.Cooling.Linear
import Chassis.Proof.Gpio.Atomic
import Chassis.Proof.Boot.ServiceLog
import Chassis.Proof.Alarm.Health
import Chassis.Proof.Boot.Trim
import Chassis.Proof.Manager.DeviceList
import Chassis.Proof.Manager.Conversion
import Chassis.Proof.Manager.ObjectPaths
import Chassis.Proof.Monitor.Refresh
import Chassis.Proof.Cooling.PidMode
import Chassis.Proof.Network.Security
import Chassis.Proof.Network.Change
import Chassis.Proof.Network.Completion
import Chassis.Proof.Network.Answer
import Chassis.Proof.Network.Takeover
