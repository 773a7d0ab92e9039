import GvSwitch.SwitchCore.Probes
import GvSwitch.SwitchCore.Learned
import GvSwitch.SwitchCore.StaticEntries
import GvSwitch.SwitchCore.Noninterference
import GvSwitch.SwitchCore.Refinement
import GvSwitch.SwitchCore.ExactlyOnce
import GvSwitch.SwitchCore.SpanningTree
import GvSwitch.SwitchCore.Enrolment
import GvSwitch.SwitchCore.Climb
import GvSwitch.SwitchCore.InfoAge
import GvSwitch.SwitchCore.Announcements
import GvSwitch.SwitchCore.Removal
import GvSwitch.SwitchCore.Election
import GvSwitch.SwitchCore.Resync
import GvSwitch.SwitchCore.PortNumbers
import GvSwitch.SwitchCore.Bpdu
import GvSwitch.SwitchCore.Storm
import GvSwitch.SwitchCore.Aging
import GvSwitch.VhostUser.Translation
import GvSwitch.VhostUser.Receive
import GvSwitch.VhostUser.Handover
import GvSwitch.VhostUser.Safety
import GvSwitch.VhostUser.Descriptors
import GvSwitch.VhostUser.Transmit
import GvSwitch.VhostUser.MemoryTable
import GvSwitch.VhostUser.Resumption
import GvSwitch.Gateway.Offered
import GvSwitch.Gateway.OneLease
import GvSwitch.Gateway.Served
import GvSwitch.Gateway.Matching
import GvSwitch.Gateway.Refusals
import GvSwitch.Gateway.RouterAdvert
import GvSwitch.Gateway.Forwards
import GvSwitch.Ports.Stream
import GvSwitch.Ports.VhostUserPort
import GvSwitch.Manager.AutoRemove
import GvSwitch.Manager.Shutdown
import GvSwitch.Manager.DeadPorts
import GvSwitch.Manager.ServerClose
import GvSwitch.Manager.SubAttrs
import GvSwitch.Manager.Admission
import GvSwitch.Manager.Registries
