import Countinghouse.Ident

/-! # Accounts

What a journal needs to know of an account, and the chart in which accounts are
looked up. -/

set_option autoImplicit false

namespace Countinghouse

inductive AccountType where
  | asset
  | liability
  | equity
  | revenue
  | expense
  deriving DecidableEq, Repr

namespace AccountType

def all : List AccountType := [asset, liability, equity, revenue, expense]

def code : AccountType → String
  | asset => "asset"
  | liability => "liability"
  | equity => "equity"
  | revenue => "revenue"
  | expense => "expense"

def ofCode? (s : String) : Option AccountType := all.find? (·.code == s)

end AccountType

structure Account where
  id : AccountId
  type : AccountType
  active : Bool
  /-- Journals may use the account. -/
  directPosting : Bool
  /-- Journals that use the account need a permission of their own to be posted. -/
  finalPost : Bool
  deriving DecidableEq

abbrev Chart := AccountId → Option Account

/-- The chart of a list, in which the first account with an identifier counts. -/
def Chart.ofList (accounts : List Account) : Chart := fun id => accounts.find? (·.id = id)

end Countinghouse
