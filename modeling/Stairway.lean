import Stairway.Firmware.Run
import Stairway.Firmware.Word
import Stairway.Firmware.LastWriter
import Stairway.Firmware.Memory
import Stairway.Firmware.CString
import Stairway.Global
import Stairway.Settings.Layout
import Stairway.Leds.Ws2812
import Stairway.Leds.StairwayLeds
import Stairway.Main.State
import Stairway.Main.Loop
import Stairway.Settings.Validate
import Stairway.Main.Run
import Stairway.Main.Frame
import Stairway.Main.Detector
import Stairway.Main.Count
import Stairway.Main.Crossing
import Stairway.Main.Emergency
import Stairway.Main.Waves
import Stairway.Main.Invariant
import Stairway.Main.Pending
import Stairway.Main.Lights
import Stairway.Main.Triggers
import Stairway.Main.Merge
import Stairway.Main.Clock
import Stairway.Firmware.Crc
import Stairway.Settings.Store
import Stairway.Network.SettingsJson
import Stairway.Commands.Commands
import Stairway.Settings.Operations
import Stairway.Firmware.QuotedSearch
import Stairway.Network.JsonObject
import Stairway.Network.SettingsUpdate
import Stairway.Commands.NumericSettings
import Stairway.Network.SettingsRoundTrip
import Stairway.Firmware.FirstOccurrence
import Stairway.Network.HttpRequest
import Stairway.Network.Content
import Stairway.Network.Segmentation
import Stairway.Network.HttpServer
import Stairway.Network.Transmission
import Stairway.Network.PasswordSecrecy
import Stairway.Firmware.Outcome
import Stairway.Modbus.ModbusMaster
import Stairway.Modbus.Completion
import Stairway.Sensors.Freshness
import Stairway.Firmware.Smoothing
import Stairway.Sensors.LightSensor
import Stairway.Leds.Strip
import Stairway.Main.Coverage
import Stairway.Firmware.Ramp
import Stairway.Leds.Brightness
import Stairway.Leds.Allocation
import Stairway.Firmware.While
import Stairway.Modbus.Interrupt
import Stairway.Firmware.StoreLog
import Stairway.Modbus.Encoding
import Stairway.Firmware.CrcDetection
import Stairway.Modbus.Answer
import Stairway.Network.RequestBounds
import Stairway.Firmware.Json
import Stairway.Network.NumberTokens
import Stairway.Network.ServedJson
import Stairway.Firmware.Pulses
import Stairway.Main.Button
import Stairway.Settings.Corruption
import Stairway.Network.JsonBounds
