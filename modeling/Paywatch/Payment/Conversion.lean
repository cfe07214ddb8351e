import Paywatch.Decimal.Arithmetic

/-!
# From satoshi to dollars

A payment is worth its bitcoin at the rate of its block, rounded down to the
cent.
-/

namespace Paywatch

/-- A bitcoin has `10 ^ satoshiPlaces` satoshi. -/
def satoshiPlaces : Nat := 8

def centExponent : Int := -2

/-- The dollars that an amount of satoshi is worth, rounded down to the cent. -/
def convertToUsd (satoshi : Int) (usdPerBitcoin : Decimal) : Except Decimal.Signal Decimal := do
  let product ← (Decimal.ofInt satoshi).mul usdPerBitcoin
  let usd ← product.shiftRight satoshiPlaces
  usd.quantize .down centExponent

end Paywatch
