import EmbeddedSdk.Runs
import EmbeddedSdk.ResettableCalls
import EmbeddedSdk.ErrorLoops
import EmbeddedSdk.PolledLoops
import EmbeddedSdk.MachineInt
import EmbeddedSdk.AsciiText
import EmbeddedSdk.SeparatedText
import EmbeddedSdk.PaddedBytes
import EmbeddedSdk.QuotedText
import EmbeddedSdk.UnstableSort
import EmbeddedSdk.SlotTable
import EmbeddedSdk.MqttConfig
import EmbeddedSdk.TopicGrammar
import EmbeddedSdk.HostnameGrammar
import EmbeddedSdk.MqttLifecycle
import EmbeddedSdk.MqttBackoff
import EmbeddedSdk.MinimqAdapter
import EmbeddedSdk.AdapterHistory
import EmbeddedSdk.Networking
import EmbeddedSdk.NetworkReadiness
import EmbeddedSdk.MqttTask
import EmbeddedSdk.CommandSubscription
import EmbeddedSdk.BackoffHealth
import EmbeddedSdk.TaskLifecycle
import EmbeddedSdk.TelemetryAccounting
import EmbeddedSdk.MqttFixture
import EmbeddedSdk.WifiConfig
import EmbeddedSdk.WifiReconnect
import EmbeddedSdk.WifiAdapter
import EmbeddedSdk.StationSupervisor
import EmbeddedSdk.BeaconUuid
import EmbeddedSdk.BluetoothIdentity
import EmbeddedSdk.BoundedCopies
import EmbeddedSdk.FirmwareStartup
import EmbeddedSdk.NetworkMonitor
import EmbeddedSdk.ScannerAdvertisement
import EmbeddedSdk.ScannerRegistry
import EmbeddedSdk.ScannerSnapshot
import EmbeddedSdk.ReportLog
import EmbeddedSdk.ScannerRecency
import EmbeddedSdk.LossNotices
import EmbeddedSdk.SnapshotTables
import EmbeddedSdk.PacketAccounting
import EmbeddedSdk.RssiRange
import EmbeddedSdk.RssiDelta
import EmbeddedSdk.AdvertisementMerge
import EmbeddedSdk.DisplayName
import EmbeddedSdk.BeaconFirmware
import EmbeddedSdk.StorageCodec
import EmbeddedSdk.SequentialStore
import EmbeddedSdk.RecordCodec
import EmbeddedSdk.StorageRefinement
import EmbeddedSdk.XtaskRegistry
import EmbeddedSdk.RegistryDiscovery
import EmbeddedSdk.RegistryContents
import EmbeddedSdk.FirmwareSelectors
import EmbeddedSdk.RunnerCommand
import EmbeddedSdk.TextColumns
import EmbeddedSdk.OutputFields
import EmbeddedSdk.SnapshotText
import EmbeddedSdk.ScannerTask
import EmbeddedSdk.StoppingLoops
import EmbeddedSdk.XtaskCommands
import EmbeddedSdk.XtaskBuilds
import EmbeddedSdk.XtaskDoctor
import EmbeddedSdk.CheckedInputs
import EmbeddedSdk.BeaconSettings
import EmbeddedSdk.BeaconTask
import EmbeddedSdk.BluetoothPeripheral
import EmbeddedSdk.DevicesHeard
import EmbeddedSdk.LegacyCommands
import EmbeddedSdk.XtaskMain
