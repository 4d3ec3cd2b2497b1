import HttpTelemetry.Unicode.RangeSet
/-!
# White space

The White_Space property: the blanks, line and paragraph separators and the control characters for tab, line feed, vertical tab, form feed, carriage return and next line.
The table lists closed ranges of code points in hexadecimal.
-/

namespace HttpTelemetry.Unicode

/-- The ranges of the property, as text. -/
def whiteSpaceText : String :=
  "9-d 20-20 85-85 a0-a0 1680-1680 2000-200a 2028-2029 202f-202f 205f-205f 3000-3000"

/-- The White_Space property: the blanks, line and paragraph separators and the control characters for tab, line feed, vertical tab, form feed, carriage return and next line. -/
def whiteSpace : RangeTable := RangeTable.ofText whiteSpaceText

end HttpTelemetry.Unicode
