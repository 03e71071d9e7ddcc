import EmployeeGateway.Binary64.Basic
import EmployeeGateway.Binary64.Power
import EmployeeGateway.Decimal.Shortest
import EmployeeGateway.Decimal.Notation
import EmployeeGateway.Text.LowerTable
import EmployeeGateway.Text.CasingTable
import EmployeeGateway.Text.HiddenTable
import EmployeeGateway.Text.Lower
import EmployeeGateway.Text.Blank
import EmployeeGateway.Text.Quoted
import EmployeeGateway.Json.Value
import EmployeeGateway.Json.Reader
import EmployeeGateway.Json.Writer
import EmployeeGateway.Validation.Report
import EmployeeGateway.Fault
import EmployeeGateway.Retry.Policy
import EmployeeGateway.Retry.Run
import EmployeeGateway.Validation.Lax
import EmployeeGateway.Validation.Record
import EmployeeGateway.Record.Employee
import EmployeeGateway.Record.Envelope
import EmployeeGateway.Settings
import EmployeeGateway.Service
import EmployeeGateway.Upstream.Memory
import EmployeeGateway.Sandbox
import EmployeeGateway.Client.Connection
import EmployeeGateway.Client.Script
import EmployeeGateway.Text.Utf8
import EmployeeGateway.Http.Route
import EmployeeGateway.Text.Unpaired
import EmployeeGateway.Text.Codec
import EmployeeGateway.Text.Upper
import EmployeeGateway.Text.Digits
import EmployeeGateway.Json.Bytes
import EmployeeGateway.Http.Address
import EmployeeGateway.Text.NormalTable
import EmployeeGateway.Text.Normal
import EmployeeGateway.Http.HostNameTable
import EmployeeGateway.Http.HostName
import EmployeeGateway.Http.Url
import EmployeeGateway.Http.Message
import EmployeeGateway.Http.Description
import EmployeeGateway.Http.Pages
import EmployeeGateway.Http.App
import EmployeeGateway.Http.Outgoing
import EmployeeGateway.Proofs.RetryRun
import EmployeeGateway.Proofs.ServiceFaults
import EmployeeGateway.Proofs.EndpointAnswers
import EmployeeGateway.Proofs.CreateResend
import EmployeeGateway.Proofs.TopEarners
import EmployeeGateway.Proofs.UpstreamCalls
import EmployeeGateway.Proofs.RecordRoundTrip
import EmployeeGateway.Proofs.ConnectionLifecycle
import EmployeeGateway.Proofs.HighestSalary
import EmployeeGateway.Proofs.NameSearch
import EmployeeGateway.Proofs.ClientExchange
import EmployeeGateway.Proofs.DelayCap
import EmployeeGateway.Proofs.EmployeeRoutes
import EmployeeGateway.Proofs.SettingsPolicy
