import Paywatch.Decimal.Text

/-!
# Records of the database

The two tables that the monitor reads, and how their records are shown: the
investors with the addresses that they pay to, and the rates with the block at
which each was recorded.
-/

namespace Paywatch

def shownField {α : Type} (render : α → String) : Option α → String
  | some value => render value
  | none => "None"

structure Investor where
  id : Option Int
  bitcoin : Option String
  ether : Option String
  deriving DecidableEq, Repr

def Investor.text (investor : Investor) : String :=
  let id := shownField toString investor.id
  let bitcoin := shownField (fun s => s) investor.bitcoin
  let ether := shownField (fun s => s) investor.ether
  s!"<Investor(id={id}, btc={bitcoin}, eth={ether})>"

structure RateRecord where
  block : Option Int
  usdPerBitcoin : Option Decimal
  deriving DecidableEq, Repr

def RateRecord.text (record : RateRecord) : String :=
  let block := shownField toString record.block
  let rate := shownField Decimal.text record.usdPerBitcoin
  s!"<ExchangeRate(block={block}, usd_per_btc={rate})>"

end Paywatch
