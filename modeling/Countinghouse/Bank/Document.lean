import Countinghouse.Bank.Matching
import Countinghouse.Bank.Summary
import Countinghouse.Journal.Document

/-! # Documents of the reconciliation -/

set_option autoImplicit false

namespace Countinghouse

open Json

def PaymentStatus.decode : Decoder PaymentStatus := asName PaymentStatus.ofCode?

def StatementLine.record : Record StatementLine :=
  StatementLine.mk <$> .need "id" asId <*> .need "bankAccountId" asId
    <*> .need "transactionDate" asDate <*> .need "description" asString
    <*> .need "amount" asDecimal <*> .maybe "matchedPaymentId" asId

namespace Payment

def record : Record Payment :=
  Payment.mk <$> .need "id" asId <*> .need "bankAccountId" asId <*> .need "paymentDate" asDate
    <*> .need "amount" asDecimal <*> .need "status" PaymentStatus.decode
    <*> .need "isReconciled" asBool

def toJson (p : Payment) : Json :=
  .obj [("id", p.id.toJson), ("bankAccountId", p.bank.toJson), ("paymentDate", p.date.toJson),
    ("amount", p.amount.toJson), ("status", .str p.status.code),
    ("isReconciled", .bool p.isReconciled)]

end Payment

def Match.toJson (m : Match) : Json :=
  .obj [("statementLineId", m.line.toJson), ("paymentId", m.payment.toJson),
    ("matchedBy", m.actor.toJson)]

def Summary.toJson (s : Summary) : Json :=
  .obj [("asOf", s.asOf.toJson), ("bankClosingBalance", s.closing.toJson),
    ("systemBankBalance", s.system.toJson), ("unmatchedStatementLinesCount", .ofNat s.unmatched),
    ("matchedCount", .ofNat s.matched), ("outstandingPayments", s.outstanding.toJson),
    ("depositsInTransit", s.inTransit.toJson), ("differencePreview", s.difference.toJson)]

end Countinghouse
