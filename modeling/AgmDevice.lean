import AgmDevice.Format
import AgmDevice.Object
import AgmDevice.Lifecycle
import AgmDevice.Clients
import AgmDevice.Trace
import AgmDevice.Locking
import AgmDevice.Parse
import AgmDevice.Registry
import AgmDevice.Discovery
import AgmDevice.AifInfo
import AgmDevice.ChannelMap
import AgmDevice.ObjectLifetime
import AgmDevice.Progress
import AgmDevice.Handles
import AgmDevice.Sysfs
import AgmDevice.StateMachine
