import Countinghouse.Journal.Line

/-! # Balances

What a posted journal adds to the balances of its period: for each account one
debit and one credit, the sums over its lines, in increasing order of accounts. -/

set_option autoImplicit false

namespace Countinghouse

structure Delta where
  account : AccountId
  debit : Decimal
  credit : Decimal
  deriving DecidableEq

structure Balance where
  account : AccountId
  debit : Decimal
  credit : Decimal
  deriving DecidableEq

namespace Delta

def addLine (line : Line) : List Delta → Except Overflow (List Delta)
  | [] => do
      let debit ← Decimal.zero.plus line.debit
      let credit ← Decimal.zero.plus line.credit
      return [⟨line.account, debit, credit⟩]
  | delta :: rest =>
      if line.account < delta.account then do
        let debit ← Decimal.zero.plus line.debit
        let credit ← Decimal.zero.plus line.credit
        return ⟨line.account, debit, credit⟩ :: delta :: rest
      else if line.account = delta.account then do
        let debit ← delta.debit.plus line.debit
        let credit ← delta.credit.plus line.credit
        return ⟨delta.account, debit, credit⟩ :: rest
      else do
        let rest' ← addLine line rest
        return delta :: rest'

def addLines (deltas : List Delta) : List Line → Except Overflow (List Delta)
  | [] => .ok deltas
  | line :: rest => do
      let deltas' ← addLine line deltas
      addLines deltas' rest

def ofLines (lines : List Line) : Except Overflow (List Delta) := addLines [] lines

end Delta

namespace Balance

def net (b : Balance) : Except Overflow Decimal := b.debit.minus b.credit

def apply (b : Balance) (delta : Delta) : Except Overflow Balance := do
  let debit ← b.debit.plus delta.debit
  let credit ← b.credit.plus delta.credit
  return { b with debit, credit }

end Balance

end Countinghouse
