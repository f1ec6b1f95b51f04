import Kraftsman.DynamicResources.Trails
import Kraftsman.DynamicResources.Releases
import Kraftsman.State.NodePoolTotals
import Kraftsman.State.PodRecords
import Kraftsman.State.NodeReservations
import Kraftsman.State.ClusterCost
import Kraftsman.Provisioning.Launch
import Kraftsman.Provisioning.Batcher
import Kraftsman.Provisioning.MarginalCost
import Kraftsman.Provisioning.Limits
import Kraftsman.Provisioning.TopologySpread
import Kraftsman.Provisioning.NodeRoom
import Kraftsman.Provisioning.PodAccounting
import Kraftsman.Provisioning.Devices
import Kraftsman.Provisioning.AllocatedDevices
import Kraftsman.Disruption.SpotMarkets
import Kraftsman.Disruption.QueueSafety
import Kraftsman.Disruption.DriftReservations
import Kraftsman.Termination.EvictionQueue
import Kraftsman.Lifecycle.Liveness
import Kraftsman.Provisioning.InverseGroups
