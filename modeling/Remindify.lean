import Remindify.Theory.Machine
import Remindify.Theory.Keyed
import Remindify.Theory.Chains
import Remindify.Theory.Pointwise
import Remindify.Theory.WholeRecord
import Remindify.Theory.Numeral
import Remindify.Theory.Pattern
import Remindify.Theory.Blocks
import Remindify.Theory.Gregorian
import Remindify.Theory.Ordered
import Remindify.Theory.LastWrite
import Remindify.Theory.Callback
import Remindify.Theory.Clamp
import Remindify.Theory.Hands
import Remindify.Theory.Tickets
import Remindify.Theory.Jobs
import Remindify.Network.Firestore
import Remindify.Network.FirebaseService
import Remindify.Network.Authentication
import Remindify.Network.ReminderLedger
import Remindify.Network.Malformed
import Remindify.Network.QueryOrder
import Remindify.Network.Completions
import Remindify.Network.InFlight
import Remindify.Home.Table
import Remindify.Home.TableInvariant
import Remindify.Home.RowBounds
import Remindify.Home.Search
import Remindify.Home.Owners
import Remindify.Home.Listeners
import Remindify.Home.Expansion
import Remindify.Add.Screen
import Remindify.Edit.Screen
import Remindify.Edit.TwoEditors
import Remindify.Edit.Dateless
import Remindify.Date.Formatter
import Remindify.Date.DateTimePicker
import Remindify.Date.RoundTrip
import Remindify.Date.Sessions
import Remindify.Date.Wheels
import Remindify.Date.Days
import Remindify.Date.PickerView
import Remindify.Date.Clock
import Remindify.Date.Lookup
import Remindify.Saving.Report
import Remindify.Saving.Display
import Remindify.Saving.Listed
import Remindify.Alarm.Notification
import Remindify.Alarm.Device
import Remindify.Alarm.DeviceInvariant
import Remindify.Alarm.LostAlarm
import Remindify.Alarm.GhostAlarm
import Remindify.Alarm.Foreground
import Remindify.Login.PasswordVisibility
import Remindify.Signup.Atomic
import Remindify.Password.Screen
import Remindify.Password.Authorisation
import Remindify.Password.SessionEnd
import Remindify.Profile.Upload
import Remindify.Profile.DisplayName
import Remindify.Profile.NameReport
import Remindify.Profile.NameVisit
import Remindify.Navigation.App
import Remindify.Navigation.Covering
import Remindify.Navigation.SessionSafety
