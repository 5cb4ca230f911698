import Beskar7.Lib.Store
import Beskar7.Lib.Trace
import Beskar7.Api.Types
import Beskar7.Lib.GoNet
import Beskar7.Lib.GoString
import Beskar7.Redfish.Client
import Beskar7.Redfish.Addresses
import Beskar7.Redfish.BMC
import Beskar7.Api.Server
import Beskar7.Controllers.ProviderID
import Beskar7.Controllers.PhysicalHost
import Beskar7.Controllers.Beskar7Machine
import Beskar7.Controllers.Inspection
import Beskar7.System.Step
import Beskar7.Manager.Main
import Beskar7.Controllers.PhysicalHostLaws
import Beskar7.Redfish.Gofish
import Beskar7.Controllers.Beskar7MachineLaws
import Beskar7.System.HostLaws
import Beskar7.System.MachineLaws
import Beskar7.System.Readiness
import Beskar7.System.Rejection
import Beskar7.System.HardwareValidation
import Beskar7.System.InspectionBoot
import Beskar7.System.Inspected
import Beskar7.Coordination.ProvisioningQueue
import Beskar7.Coordination.Workers
import Beskar7.Coordination.QueueLaws
import Beskar7.Coordination.Bookkeeping
import Beskar7.Coordination.Cooldown
import Beskar7.Coordination.Capacity
import Beskar7.Controllers.Beskar7Cluster
import Beskar7.System.ClusterEndpoint
import Beskar7.Webhooks.Beskar7Cluster
import Beskar7.Webhooks.Beskar7ClusterLaws
import Beskar7.Security.RBACValidator
import Beskar7.Security.RBACLaws
import Beskar7.Security.TLSValidator
import Beskar7.Security.TLSLaws
import Beskar7.Security.Monitor
import Beskar7.Security.MonitorLaws
import Beskar7.Security.EventLaws
