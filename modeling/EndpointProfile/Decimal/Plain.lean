import EndpointProfile.Decimal.Shortest

/-! Floating-point numbers in plain digits, however far they are from the point. -/
namespace EndpointProfile.Decimal

/-- The shortest digits, never with an exponent and with a point only where there is a fraction. -/
def plain (x : Float) : Text :=
  if x.isNaN then "NaN"
  else
    let size : Text := if x.isInf then "inf" else positional (shortest x)
    if isNegative x then '-' :: size else size

end EndpointProfile.Decimal
