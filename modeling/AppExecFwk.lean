import AppExecFwk.Library.Program
import AppExecFwk.Library.Text
import AppExecFwk.Library.Json
import AppExecFwk.Library.TwoRuns
import AppExecFwk.Library.JsonText
import AppExecFwk.Library.OrderedMap
import AppExecFwk.Info.Base
import AppExecFwk.Info.ErrCode
import AppExecFwk.Codec.JsonUtil
import AppExecFwk.Info.InnerBundleInfo
import AppExecFwk.Codec.ResultVariables
import AppExecFwk.Codec.RoundTrip
import AppExecFwk.Codec.AbilityCodec
import AppExecFwk.Codec.BundleCodec
import AppExecFwk.Codec.FormCodec
import AppExecFwk.Codec.PackInfoCodec
import AppExecFwk.Codec.InnerBundleInfoCodec
import AppExecFwk.Codec.StoredEntries
import AppExecFwk.Codec.TwoDocuments
import AppExecFwk.Codec.DecodeEnds
import AppExecFwk.Codec.RecordEnds
import AppExecFwk.Profile.BundleProfile
import AppExecFwk.Profile.ModuleProfile
import AppExecFwk.Profile.ProfileTables
import AppExecFwk.Profile.Rpcid
import AppExecFwk.Profile.BundleConversion
import AppExecFwk.Profile.ModuleConversion
import AppExecFwk.Profile.PrivilegedKeys
import AppExecFwk.Profile.PrivilegedSettings
import AppExecFwk.Profile.DecodeSequence
import AppExecFwk.Store.BundleDataMgr
import AppExecFwk.Store.BundleSandboxDataMgr
import AppExecFwk.Store.Commands
import AppExecFwk.Store.Atomicity
import AppExecFwk.Store.Agreement
import AppExecFwk.Sandbox.BundleSandboxInstaller
import AppExecFwk.Sandbox.Consistency
import AppExecFwk.Library.StableList
import AppExecFwk.EventHandler.EventQueue
import AppExecFwk.EventHandler.EventOrder
import AppExecFwk.EventHandler.WaitProtocol
import AppExecFwk.EventHandler.RunnerStop
import AppExecFwk.EventHandler.SyncEvents
import AppExecFwk.EventHandler.SyncProgress
import AppExecFwk.EventHandler.InnerEventPool
import AppExecFwk.Library.JsonRoundTrip
import AppExecFwk.Library.JsonOrder
import AppExecFwk.Codec.ReadBack
import AppExecFwk.Codec.BundleParcel
import AppExecFwk.Store.BundleStateStorage
import AppExecFwk.Store.StateStorageMap
import AppExecFwk.Installer.BundleCloneMgr
import AppExecFwk.Installer.BundleUninstall
import AppExecFwk.Installer.UninstallAtomicity
import AppExecFwk.Installer.HapFiles
import AppExecFwk.Installer.BundleInstall
import AppExecFwk.Installer.BundleInstaller
import AppExecFwk.Installer.QuietCalls
import AppExecFwk.Library.Runs
import AppExecFwk.User.InitialUser
import AppExecFwk.Library.ByteFile
import AppExecFwk.Library.Memory
import AppExecFwk.Archive.ZipFile
import AppExecFwk.Archive.ZipOpen
import AppExecFwk.Library.Inflater
import AppExecFwk.Archive.ZipExtract
import AppExecFwk.Archive.FilePath
import AppExecFwk.Archive.Unzip
import AppExecFwk.Archive.UnzipInside
import AppExecFwk.User.UserMgr
import AppExecFwk.User.InstallerPool
import AppExecFwk.User.UserCalls
import AppExecFwk.FreeInstall.BundleConnectAbilityMgr
import AppExecFwk.FreeInstall.Entries
import AppExecFwk.FreeInstall.Transactions
import AppExecFwk.Library.SortUnique
import AppExecFwk.Library.DirectoryTree
import AppExecFwk.Permission.BundlePermissionMgr
import AppExecFwk.Permission.TokenLists
import AppExecFwk.Permission.TokenTable
import AppExecFwk.Permission.TokenUpdate
import AppExecFwk.Permission.InstalledBundle
import AppExecFwk.Permission.Privileges
import AppExecFwk.Library.EntryList
import AppExecFwk.Profile.Declarations
import AppExecFwk.Profile.StoredDeclarations
import AppExecFwk.Info.ModuleEntries
import AppExecFwk.Profile.ModuleRemoval
import AppExecFwk.Query.SkillMatch
import AppExecFwk.Query.BundleInfoQueries
import AppExecFwk.Query.AbilityQueries
import AppExecFwk.Query.AbilityAnswers
import AppExecFwk.Query.BundleQueries
import AppExecFwk.Query.Visibility
import AppExecFwk.Query.UnseenBundles
import AppExecFwk.Query.SwitchedOff
import AppExecFwk.Query.Leaks
import AppExecFwk.EventHandler.Delays
import AppExecFwk.EventHandler.Fairness
import AppExecFwk.EventHandler.IdleEvents
import AppExecFwk.Library.WorkList
import AppExecFwk.Query.Dependencies
import AppExecFwk.Store.BundleIds
import AppExecFwk.Sandbox.Applications
import AppExecFwk.Sandbox.UninstallAll
import AppExecFwk.Sandbox.InstallFailure
import AppExecFwk.Query.AbilitySwitches
import AppExecFwk.Library.Attribution
import AppExecFwk.Query.HapModules
import AppExecFwk.Library.Regex
import AppExecFwk.Library.RegexGrammar
import AppExecFwk.Query.UriPatterns
import AppExecFwk.Installer.CloneFailure
import AppExecFwk.Installd.FileSystem
import AppExecFwk.Installd.InstalldHost
import AppExecFwk.Installd.DeleteFiles
import AppExecFwk.Installd.DataDirs
import AppExecFwk.Installd.ExtractFiles
import AppExecFwk.Archive.PathComponents
import AppExecFwk.Archive.ZipWriter
import AppExecFwk.Archive.ZipTask
import AppExecFwk.Archive.ZipContents
import AppExecFwk.Library.SortOutcome
import AppExecFwk.Aging.AgingRequest
import AppExecFwk.Aging.AgingHandler
import AppExecFwk.Aging.AgingChain
import AppExecFwk.Aging.AgingCorrectness
import AppExecFwk.Library.Sampling
import AppExecFwk.Distributed.ImageCompress
import AppExecFwk.Distributed.IconResize
import AppExecFwk.Installd.InstalldMessages
import AppExecFwk.Installd.InstalldClient
import AppExecFwk.Installd.CallsPerformed
import AppExecFwk.Installd.StaleProxy
import AppExecFwk.Library.PlaceSums
import AppExecFwk.Installd.QuietTree
import AppExecFwk.Installd.DiskUsage
import AppExecFwk.Installd.BundleStats
import AppExecFwk.Library.Handover
import AppExecFwk.Library.Utf16
import AppExecFwk.Codec.CompatibleInfo
import AppExecFwk.Codec.CompatibleParcel
import AppExecFwk.Codec.CompatibleRoundTrip
import AppExecFwk.Library.Interruption
import AppExecFwk.Library.Returning
import AppExecFwk.Restart.StorageDatabase
import AppExecFwk.Restart.Boots
import AppExecFwk.Restart.Recovery
import AppExecFwk.Restart.LoadData
import AppExecFwk.Restart.Restoration
import AppExecFwk.EventHandler.ThreadCollector
