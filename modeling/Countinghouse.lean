import Countinghouse.Proofs.Bank.Adjustment
import Countinghouse.Proofs.Bank.Position
import Countinghouse.Proofs.Bank.Requests
import Countinghouse.Proofs.Bank.Suggestions
import Countinghouse.Proofs.Causes
import Countinghouse.Proofs.Journal.Columns
import Countinghouse.Proofs.Journal.Duties
import Countinghouse.Proofs.Journal.Permitting
import Countinghouse.Proofs.Journal.Reversing
import Countinghouse.Proofs.Journal.Suppliers
import Countinghouse.Proofs.Journal.Validation
import Countinghouse.Proofs.Period.Calendar
import Countinghouse.Proofs.Policy.Affected
import Countinghouse.Proofs.Policy.Reporting
import Countinghouse.Proofs.Recurring.Drafting
import Countinghouse.Proofs.Service.Trail
import Countinghouse.Proofs.Store.Closing
import Countinghouse.Proofs.Store.Generating
import Countinghouse.Proofs.Store.Kept
import Countinghouse.Proofs.Store.Ledger
import Countinghouse.Proofs.Store.Listing
import Countinghouse.Proofs.Store.Once
import Countinghouse.Proofs.Store.Shut
import Countinghouse.Service.Handler
import Countinghouse.Settings.Sources
