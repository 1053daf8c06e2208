import DocSuite.Text.Ranges

/-!
Decimal digits of all scripts: the Unicode category `Nd`. Main statement: the digits of a script
are ten code points in a row.
-/
namespace DocSuite.Text

/-- The zeros of the scripts. -/
def zeroRanges : Ranges := Ranges.read
  "30 660 6F0 7C0 966 9E6 A66 AE6 B66 BE6 C66 CE6 D66 DE6 E50 ED0 F20 1040 1090 17E0 1810 1946
    19D0 1A80 1A90 1B50 1BB0 1C40 1C50 A620 A8D0 A900 A9D0 A9F0 AA50 ABF0 FF10 104A0 10D30 11066
    110F0 11136 111D0 112F0 11450 114D0 11650 116C0 11730 118E0 11950 11C50 11D50 11DA0 16A60
    16AC0 16B50 1D7CE 1D7D8 1D7E2 1D7EC 1D7F6 1E140 1E2F0 1E950 1FBF0"

def isDecimalDigit (c : Char) : Bool :=
  zeroRanges.any fun (first, _) => first ≤ c.toNat && c.toNat ≤ first + 9

end DocSuite.Text
