import SpectrogramServers.Lib.Machine
import SpectrogramServers.Lib.Lists
import SpectrogramServers.Lib.CArray
import SpectrogramServers.Lib.Windows
import SpectrogramServers.Lib.Unwrapping
import SpectrogramServers.Lib.Interpolation
import SpectrogramServers.Lib.Arctan
import SpectrogramServers.Lib.LittleEndian
import SpectrogramServers.Lib.ByteFile
import SpectrogramServers.Lib.Riff
import SpectrogramServers.Lib.Crc
import SpectrogramServers.Lib.FileStore
import SpectrogramServers.Lib.Calendar
import SpectrogramServers.Lib.Scanner
import SpectrogramServers.Lib.Fourier
import SpectrogramServers.Lib.Rotation
import SpectrogramServers.Lib.Discriminator
import SpectrogramServers.Json
import SpectrogramServers.Hann2048
import SpectrogramServers.MyServer.Admission
import SpectrogramServers.MyServer.AdmissionInvariant
import SpectrogramServers.MyServer.AdmissionCount
import SpectrogramServers.MyServer.Lockout
import SpectrogramServers.MyServer.WaitingQueue
import SpectrogramServers.MyServer.QueueSafety
import SpectrogramServers.MyServer.QueuePosition
import SpectrogramServers.MyServer.PoolCapacity
import SpectrogramServers.MyServer.Shutdown
import SpectrogramServers.MyServer.ShutdownReturns
import SpectrogramServers.MyServer.HackRFStreamer
import SpectrogramServers.MyServer.HackRFFifo
import SpectrogramServers.MyServer.HackRFOverflow
import SpectrogramServers.MyServer.HackRFTimeout
import SpectrogramServers.MyServer.HackRFCapacity
import SpectrogramServers.MyServer.ImageThread
import SpectrogramServers.MyServer.ImageSchedule
import SpectrogramServers.MyServer.ImageNames
import SpectrogramServers.MyServer.PublishedFiles
import SpectrogramServers.MyServer.RowHandover
import SpectrogramServers.MyServer.Tables
import SpectrogramServers.MyServer.Receiver
import SpectrogramServers.MyServer.ReceiverBlock
import SpectrogramServers.MyServer.Quantisation
import SpectrogramServers.MyServer.ReceiverStream
import SpectrogramServers.MyServer.FastAtan2
import SpectrogramServers.MyServer.Invariance
import SpectrogramServers.MyServer.PhaseUnwrapping
import SpectrogramServers.MyServer.SteadyCarrier
import SpectrogramServers.MyServer.AtanAccuracy
import SpectrogramServers.MyServer.Spectrogram
import SpectrogramServers.MyServer.GreyLevel
import SpectrogramServers.MyServer.SpectrogramWindows
import SpectrogramServers.MyServer.SpectrogramIndex
import SpectrogramServers.MyServer.SpectrogramInput
import SpectrogramServers.MyServer.Pictures
import SpectrogramServers.MyServer.PngCrc
import SpectrogramServers.MyServer.WAVWriter
import SpectrogramServers.MyServer.ShortWrites
import SpectrogramServers.MyServer.AudioLoop
import SpectrogramServers.MyServer.Recording
import SpectrogramServers.MyServer.AudioAccuracy
import SpectrogramServers.MyServer.Oscillator
import SpectrogramServers.MyServer.Station
import SpectrogramServers.MyServer.RadioToFile
import SpectrogramServers.MyServer.StationToFile
import SpectrogramServers.MyServer.AlsaStreamer
import SpectrogramServers.MyServer.AlsaRecovery
import SpectrogramServers.MyServer.Playback
import SpectrogramServers.CloudServer.Announcements
import SpectrogramServers.CloudServer.Delivery
import SpectrogramServers.CloudServer.Scanlines
import SpectrogramServers.CloudServer.SpectrumColors
import SpectrogramServers.CloudServer.ColorCode
import SpectrogramServers.CloudServer.Capture
import SpectrogramServers.CloudServer.Freshness
import SpectrogramServers.CloudServer.FailedCycles
import SpectrogramServers.CloudServer.WavReading
import SpectrogramServers.CloudServer.Pictures
import SpectrogramServers.CloudServer.Registry
import SpectrogramServers.CloudServer.RegistryIntact
import SpectrogramServers.CloudServer.RegistryLeak
import SpectrogramServers.CloudServer.Schedule
import SpectrogramServers.CloudServer.EarliestSlot
import SpectrogramServers.CloudServer.Pool
import SpectrogramServers.CloudServer.PoolDeadlock
import SpectrogramServers.FlutterSite.SpectrogramWindow
import SpectrogramServers.FlutterSite.ImageFetching
import SpectrogramServers.FlutterSite.Page
import SpectrogramServers.FlutterSite.Clients
import SpectrogramServers.FlutterSite.Reconnecting
import SpectrogramServers.FlutterSite.ImageTime
import SpectrogramServers.FlutterSite.LiveImages
import SpectrogramServers.FlutterSite.Legend
import SpectrogramServers.FlutterSite.TimeLabel
