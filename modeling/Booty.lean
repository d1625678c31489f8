import Booty.Auth.Renewal
import Booty.Bfd.Dispatch
import Booty.Bfd.Handshake
import Booty.Bfd.Loop
import Booty.Caprf.BearerToken
import Booty.Caprf.LogAccounts
import Booty.Caprf.Secrets
import Booty.Dhcp4.Expiry
import Booty.Dhcp6.Pacing
import Booty.Disk.MirrorPair
import Booty.Disk.MirrorTail
import Booty.Disk.UnmountAll
import Booty.Disk.WipeGuard
import Booty.Espsync.Mirror
import Booty.Frrconf.Nodes
import Booty.Frrconf.Version
import Booty.Gobgp.FibOrder
import Booty.Gobgp.FibWriter
import Booty.Gobgp.FrrPolicy
import Booty.Gobgp.SegmentSync
import Booty.Gobgp.Flooding
import Booty.Image.ABRanges
import Booty.Image.DirtyTargets
import Booty.Image.DownloadComplete
import Booty.Image.GptTable
import Booty.Image.Qcow2.GuestView
import Booty.Network.DhcpOwnership
import Booty.Network.LeaseTimes
import Booty.Provision.MdadmConf
import Booty.Sriov.UplinkGuard
import Booty.Sriov.FixedPoint
