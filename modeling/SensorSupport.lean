import SensorSupport.Gnss.ChecksumForm
import SensorSupport.Gnss.Coordinates
import SensorSupport.Gnss.Corruption
import SensorSupport.Gnss.GgaUpload
import SensorSupport.Gnss.LocalCoordinates
import SensorSupport.Gnss.LocalPose
import SensorSupport.Gnss.Nmea
import SensorSupport.Gnss.NmeaMemory
import SensorSupport.Gnss.Node
import SensorSupport.Gnss.NodeAttitude
import SensorSupport.Gnss.NodeLocalPose
import SensorSupport.Gnss.NodeStatus
import SensorSupport.Gnss.Ntrip
import SensorSupport.Gnss.NtripRequest
import SensorSupport.Gnss.Number
import SensorSupport.Gnss.Parsers
import SensorSupport.Gnss.PyText
import SensorSupport.Gnss.RtcmSession
import SensorSupport.Gnss.Sentences
import SensorSupport.Lib.Base64
import SensorSupport.Lib.Batches
import SensorSupport.Lib.BigEndian
import SensorSupport.Lib.BoundedQueue
import SensorSupport.Lib.Cadence
import SensorSupport.Lib.Circle
import SensorSupport.Lib.Crc
import SensorSupport.Lib.Detector
import SensorSupport.Lib.Doorbell
import SensorSupport.Lib.Eviction
import SensorSupport.Lib.FileNames
import SensorSupport.Lib.FloatRounding
import SensorSupport.Lib.Framing
import SensorSupport.Lib.HttpRequest
import SensorSupport.Lib.Incremental
import SensorSupport.Lib.InputStream
import SensorSupport.Lib.Memory
import SensorSupport.Lib.Ownership
import SensorSupport.Lib.PercentEncoding
import SensorSupport.Lib.Ranking
import SensorSupport.Lib.Recording
import SensorSupport.Lib.Recycling
import SensorSupport.Lib.Reports
import SensorSupport.Lib.RigidMotion
import SensorSupport.Lib.Ring
import SensorSupport.Lib.Run
import SensorSupport.Lib.Slots
import SensorSupport.Lib.Throttle
import SensorSupport.Livox.BuildRequest
import SensorSupport.Livox.CacheIndex
import SensorSupport.Livox.ChannelTables
import SensorSupport.Livox.Command
import SensorSupport.Livox.CommandAck
import SensorSupport.Livox.CommandOnce
import SensorSupport.Livox.CommandTable
import SensorSupport.Livox.ConfigCallbacks
import SensorSupport.Livox.ConfiguredLidars
import SensorSupport.Livox.CustomMessages
import SensorSupport.Livox.DataQueue
import SensorSupport.Livox.DetectionPayload
import SensorSupport.Livox.DeviceChannels
import SensorSupport.Livox.Extrinsics
import SensorSupport.Livox.FastCRC
import SensorSupport.Livox.Firmware
import SensorSupport.Livox.FirmwareFile
import SensorSupport.Livox.FrameSlots
import SensorSupport.Livox.FwTypeRetries
import SensorSupport.Livox.Gprmc
import SensorSupport.Livox.IoLoop
import SensorSupport.Livox.IpText
import SensorSupport.Livox.KnownDevices
import SensorSupport.Livox.LidarBringUp
import SensorSupport.Livox.LidarPolling
import SensorSupport.Livox.LidarSetup
import SensorSupport.Livox.LogRotation
import SensorSupport.Livox.LoggerHandler
import SensorSupport.Livox.PointPackets
import SensorSupport.Livox.PollingDrain
import SensorSupport.Livox.Protocol
import SensorSupport.Livox.PubHandler
import SensorSupport.Livox.PublishCadence
import SensorSupport.Livox.QueueLifecycle
import SensorSupport.Livox.StateInfo
import SensorSupport.Livox.UpgradeLifetime
import SensorSupport.Livox.UpgradeLive
import SensorSupport.Livox.UpgradeManager
import SensorSupport.Livox.UpgradeProgress
import SensorSupport.Livox.UpgradeTransfer
import SensorSupport.Livox.Upgrader
import SensorSupport.Livox.ViewLidar
import SensorSupport.Rs.AzimuthCircle
import SensorSupport.Rs.BlockIterators
import SensorSupport.Rs.CalibrationReady
import SensorSupport.Rs.ChanAngles
import SensorSupport.Rs.CloudRecycling
import SensorSupport.Rs.Crc32
import SensorSupport.Rs.DatagramIsolation
import SensorSupport.Rs.FiringTimes
import SensorSupport.Rs.FrameClouds
import SensorSupport.Rs.FramePartition
import SensorSupport.Rs.FrameSplit
import SensorSupport.Rs.Jumbo
import SensorSupport.Rs.JumboDatagrams
import SensorSupport.Rs.MechDecoder
import SensorSupport.Rs.MechSetting
import SensorSupport.Rs.PacketBuffers
import SensorSupport.Rs.PacketReplay
import SensorSupport.Rs.PointCloudShape
import SensorSupport.Rs.SeqDecoder
import SensorSupport.Rs.SeqFrames
import SensorSupport.Rs.SplitStrategy
import SensorSupport.Rs.SyncQueue
import SensorSupport.Rs.SyncQueueDelivery
import SensorSupport.Rs.Timestamp
import SensorSupport.Rs.TrigonLookups
