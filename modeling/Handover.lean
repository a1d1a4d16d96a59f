import Handover.Run
import Handover.Bytes
import Handover.Codec
import Handover.Tables
import Handover.Allocation
import Handover.Messages
import Handover.Packets
import Handover.Controller
import Handover.ControllerSpec
import Handover.AccessPoint
import Handover.AccessPointSpec
import Handover.Gateway
import Handover.Ports
import Handover.NatTable
import Handover.Network
import Handover.Links
import Handover.Association
import Handover.Exchange
import Handover.Translation
import Handover.DoubleNat
import Handover.Transfer
import Handover.Wire
import Handover.Streams
import Handover.Replicas
import Handover.Agreement
import Handover.Admission
import Handover.Reachable
import Handover.Overlap
import Handover.Listing
import Handover.Overlay
import Handover.Target
import Handover.Outstanding
import Handover.Context
import Handover.Interleaving
import Handover.ReceiveBuffer
import Handover.Hostapd
import Handover.StationTable
import Handover.OnesComplement
import Handover.Rewriting
import Handover.Checksum
import Handover.Lane
import Handover.PacketOrder
import Handover.Framing
import Handover.FailedWrites
import Handover.Rates
import Handover.Classes
import Handover.IdPool
import Handover.HandedOver
import Handover.Removal
import Handover.StationList
import Handover.Subnet
import Handover.Accumulation
import Handover.Strongest
import Handover.TableMap
import Handover.NatMap
import Handover.StationMap
import Handover.LinkedList
import Handover.Surgery
import Handover.Actions
import Handover.Accounting
import Handover.PortAssignment
import Handover.PortRace
import Handover.OpenFlow
import Handover.Switches
import Handover.Registry
import Handover.Handshake
import Handover.Register
import Handover.ActiveSwitches
import Handover.Announcement
import Handover.Scan
import Handover.Mailbox
import Handover.Signal
import Handover.Roles
import Handover.Mastership
import Handover.Decoder
import Handover.Agent
import Handover.ControllerConnection
