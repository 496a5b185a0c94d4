import HouseBus.FirmwareUpdate.Session
import HouseBus.FirmwareUpdate.Honest
import HouseBus.FirmwareUpdate.Responses
import HouseBus.FirmwareUpdate.Confinement
import HouseBus.Handover
import HouseBus.Lifecycle
import HouseBus.Config
import HouseBus.GetSet
import HouseBus.GetSet.Safety
import HouseBus.GetSet.ParamMap
import HouseBus.ConfigInit
import HouseBus.ConfigInit.PowerLoss
import HouseBus.Eeprom.Failures
import HouseBus.ConfigInit.Failures
import HouseBus.Services
import HouseBus.Services.Refinement
import HouseBus.Sml
import HouseBus.Sml.Decode
import HouseBus.Sml.Safety
import HouseBus.Boiler
import HouseBus.Boiler.Heater
import HouseBus.Boiler.Sharing
import HouseBus.ViessmannTrimatik
import HouseBus.ViessmannTrimatik.OffTime
import HouseBus.ViessmannTrimatik.TooHot
import HouseBus.NodeTasks
import HouseBus.NodeTasks.Restart
import HouseBus.NodeTasks.Uptime
import HouseBus.NodeTasks.Transmit
import HouseBus.Lib.Search
import HouseBus.Sml.Search
import HouseBus.Sml.Discard
import HouseBus.Boiler.Undecodable
import HouseBus.Eeprom.Exact
import HouseBus.Bathroom
import HouseBus.Bathroom.Motion
import HouseBus.Bathroom.PrivateMode
import HouseBus.Hallway
import HouseBus.Hallway.Fade
import HouseBus.Bme280
import HouseBus.Bme280.Readings
import HouseBus.Broadcast
import HouseBus.Broadcast.TransferIds
import HouseBus.ViessmannTrimatik.Period
import HouseBus.Analog
import HouseBus.ViessmannTrimatik.RunTime
import HouseBus.ViessmannTrimatik.Filter
import HouseBus.Flash.ErasePage
import HouseBus.FirmwareUpdate.Repeat
import HouseBus.GetSet.SignedValues
import HouseBus.GetSet.Unknown
import HouseBus.GetSet.WrongType
import HouseBus.Config.Failures
import HouseBus.Hallway.Motion
import HouseBus.Hallway.Announcements
import HouseBus.Hallway.Reversal
import HouseBus.Boiler.Dimmer
import HouseBus.Bme280.Message
import HouseBus.ViessmannTrimatik.HeaterStatus
import HouseBus.ViessmannTrimatik.Keys
import HouseBus.Bathroom.Buttons
import HouseBus.Melodies
import HouseBus.Bathroom.Brightness
import HouseBus.Lib.Trace
import HouseBus.Melodies.Durations
import HouseBus.Boiler.Reconfigure
import HouseBus.PumpReceiver
import HouseBus.PumpReceiver.FailSafe
import HouseBus.Hallway.LightOrder
import HouseBus.Dsdl.Arrays
import HouseBus.Boiler.Network
import HouseBus.Boiler.Threads
import HouseBus.Boiler.Timeout
import HouseBus.Boiler.Meter
import HouseBus.Bme280.Compensation
import HouseBus.Bathroom.Fan
import HouseBus.Bathroom.Outputs
import HouseBus.BootLoop
import HouseBus.TimeData
import HouseBus.ViessmannTrimatik.Node
