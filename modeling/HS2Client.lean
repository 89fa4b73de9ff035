import HS2Client.Client.HandleRouting
import HS2Client.Client.Backlog
import HS2Client.Client.Accounts
import HS2Client.Client.ProtocolInForce
import HS2Client.ColumnTypes
import HS2Client.ColumnMembers
import HS2Client.PrintedNumerals
import HS2Client.PrintedResults
import HS2Client.Python.ClosingOrder
import HS2Client.Python.WholeResults
import HS2Client.Python.FrameColumns
import HS2Client.Python.ArrayReferences
import HS2Client.Python.Backoff
import HS2Client.Python.DescribedValues
import HS2Client.Python.Reclamation
import HS2Client.FailedCalls
import HS2Client.DbApi.Escape
import HS2Client.DbApi.Qmark
import HS2Client.DbApi.Named
import HS2Client.DbApi.Positional
import HS2Client.DbApi.Injection
import HS2Client.DbApi.Styles
