import HttpTelemetry.Pattern.Error
import HttpTelemetry.Unicode.Aliases
import HttpTelemetry.Unicode.Age
import HttpTelemetry.Unicode.Category
import HttpTelemetry.Unicode.ScriptExtensions
import HttpTelemetry.Unicode.Segmentation
import HttpTelemetry.Unicode.WhiteSpace
import HttpTelemetry.Unicode.Property.Casing
import HttpTelemetry.Unicode.Property.Identifier
import HttpTelemetry.Unicode.Property.Symbol
/-!
# Unicode property classes

What `\p{…}` names. Names are compared loosely: case, blanks, `_` and `-` are ignored, as is
a leading `is`. A query is first brought to canonical form, and only then are its code points
looked up, so the two steps fail differently.

* A bare name (`\p{Greek}`) is looked up first among the property names, as a binary
  property, then among the general categories (with `Any`, `Assigned` and `ASCII`), then among
  the scripts. The names `sc`, `cf` and `lc` skip the first step: they also abbreviate
  categories. A one-letter name (`\pL`) is a general category only.
* A name with a value (`\p{sc=Greek}`) names its property first; the general category and the
  script take their values from their own lists, and the age, the script extensions and the
  three text segmentation classes from theirs. Any other property has no values to name.

Canonical names that are no property at all are reported as unknown properties (`\p{Age}`,
`\p{ccc}`), and values outside every table as unknown values (`\p{Cs}`, `\p{Zzzz}`), since
surrogates are no characters and unknown code points have no script.
-/

namespace HttpTelemetry.Pattern

open HttpTelemetry.Unicode

/-- A name in loose form: ASCII only, lowercase, without blanks, `_` and `-`, and without a
leading `is` (except that `isc` stays). -/
def looseName (name : String) : String :=
  let cs := name.toList
  let startsWithIs := match cs with
    | a :: b :: _ => (a == 'i' || a == 'I') && (b == 's' || b == 'S')
    | _ => false
  let body := if startsWithIs then cs.drop 2 else cs
  let kept := body.filterMap fun c =>
    if c == ' ' || c == '_' || c == '-' then none
    else if 'A' ≤ c && c ≤ 'Z' then some c.toLower
    else if c.toNat < 128 then some c
    else none
  if startsWithIs && kept == ['c'] then "isc" else String.ofList kept

/-- The long name of the entry that has `loose` among its names in loose form. -/
def canonicalIn (entries : List (List String)) (loose : String) : Option String :=
  (entries.find? fun names => names.any (looseName · == loose)).bind (·[1]?)

/-- A property by loose name. -/
def canonicalProperty (loose : String) : Option String :=
  canonicalIn (readNames propertyNamesText) loose

/-- A general category by loose name, with `Any`, `Assigned` and `ASCII`. -/
def canonicalCategory (loose : String) : Option String :=
  match loose with
  | "any" => some "Any"
  | "assigned" => some "Assigned"
  | "ascii" => some "ASCII"
  | _ => canonicalIn (readNames categoryNamesText) loose

/-- A script by loose name. -/
def canonicalScript (loose : String) : Option String :=
  canonicalIn scriptAliases loose

/-- The names of the values of the properties that take values from their own lists. -/
def valueNames : String → Option (List (List String))
  | "Age" => some (readNames ageNamesText)
  | "Grapheme_Cluster_Break" => some (readNames graphemeClusterBreakNamesText)
  | "Script_Extensions" => some scriptAliases
  | "Sentence_Break" => some (readNames sentenceBreakNamesText)
  | "Word_Break" => some (readNames wordBreakNamesText)
  | _ => none

/-- A class query with its names in canonical form. -/
inductive CanonicalQuery where
  | binary (property : String)
  | generalCategory (value : String)
  | script (value : String)
  | byValue (property value : String)
  deriving Repr, DecidableEq

/-- A bare name: a property, else a general category, else a script. -/
def canonicalBare (loose : String) : Except ErrorKind CanonicalQuery :=
  let asProperty :=
    if loose == "cf" || loose == "sc" || loose == "lc" then none else canonicalProperty loose
  match asProperty with
  | some p => .ok (.binary p)
  | none =>
    match canonicalCategory loose with
    | some c => .ok (.generalCategory c)
    | none =>
      match canonicalScript loose with
      | some s => .ok (.script s)
      | none => .error .unicodePropertyNotFound

/-- A property with a value. -/
def canonicalValue (property value : String) : Except ErrorKind CanonicalQuery :=
  let value := looseName value
  match canonicalProperty (looseName property) with
  | none => .error .unicodePropertyNotFound
  | some "General_Category" =>
    match canonicalCategory value with
    | some c => .ok (.generalCategory c)
    | none => .error .unicodePropertyValueNotFound
  | some "Script" =>
    match canonicalScript value with
    | some s => .ok (.script s)
    | none => .error .unicodePropertyValueNotFound
  | some p =>
    match (valueNames p).bind (canonicalIn · value) with
    | some v => .ok (.byValue p v)
    | none => .error .unicodePropertyValueNotFound

/-- The canonical form of a query. -/
def UnicodeQuery.canonical : UnicodeQuery → Except ErrorKind CanonicalQuery
  | .oneLetter c =>
    match canonicalCategory (looseName (String.singleton c)) with
    | some v => .ok (.generalCategory v)
    | none => .error .unicodePropertyNotFound
  | .named name => canonicalBare (looseName name)
  | .namedValue _ property value => canonicalValue property value

/-- The code points of a general category code or group. -/
def categoryClass (code : String) : RangeSet :=
  match code with
  | "LC" => categorySet fun c => c == "Lu" || c == "Ll" || c == "Lt"
  | _ =>
    if code.length == 1 then categorySet (·.startsWith code)
    else categorySet (· == code)

/-- The code points of a general category by long name; surrogates are no characters. -/
def generalCategoryClass (value : String) : Except ErrorKind RangeSet :=
  match value with
  | "ASCII" => .ok ⟨[(0, 0x7F)]⟩
  | "Any" => .ok RangeSet.full
  | "Assigned" => .ok (categorySet (· == "Cn")).complement
  | "Surrogate" => .error .unicodePropertyValueNotFound
  | _ =>
    match (readNames categoryNamesText).find? (·[1]? == some value) with
    | some (code :: _) => .ok (categoryClass code)
    | _ => .error .unicodePropertyValueNotFound

/-- The code of a script by long name, for the scripts that have code points of their own. -/
def scriptCode (value : String) : Except ErrorKind String :=
  match scriptAliases.find? (·[1]? == some value) with
  | some (code :: _) =>
    if code == "Zzzz" || code == "Hrkt" then .error .unicodePropertyValueNotFound else .ok code
  | _ => .error .unicodePropertyValueNotFound

/-- The binary property tables by long name. -/
def binaryTexts : List (String × String) :=
  casingPropertyTexts ++ identifierPropertyTexts ++ symbolPropertyTexts ++
    [("White_Space", whiteSpaceText)]

/-- The code points of a binary property by long name. -/
def binaryClass (property : String) : Except ErrorKind RangeSet :=
  match binaryTexts.lookup property with
  | some text => .ok (RangeSet.ofText text)
  | none => .error .unicodePropertyNotFound

/-- The code points assigned in a version or before it. -/
def ageClass (value : String) : Except ErrorKind RangeSet :=
  match ageTexts.findIdx? (·.1 == value) with
  | some i =>
    .ok ((ageTexts.take (i + 1)).foldl (fun acc entry => acc.union (RangeSet.ofText entry.2))
      RangeSet.empty)
  | none => .error .unicodePropertyValueNotFound

/-- The code points of one class of a text segmentation table. -/
def segmentClass (table : List (String × String)) (value : String) : Except ErrorKind RangeSet :=
  match table.lookup value with
  | some text => .ok (RangeSet.ofText text)
  | none => .error .unicodePropertyValueNotFound

/-- The code points a canonical query names. -/
def CanonicalQuery.resolve : CanonicalQuery → Except ErrorKind RangeSet
  | .binary p => binaryClass p
  | .generalCategory v => generalCategoryClass v
  | .script v => return scriptSet (← scriptCode v)
  | .byValue "Age" v => ageClass v
  | .byValue "Script_Extensions" v => return scriptExtensionSet (← scriptCode v)
  | .byValue "Grapheme_Cluster_Break" v => segmentClass graphemeClusterBreakTexts v
  | .byValue "Sentence_Break" v => segmentClass sentenceBreakTexts v
  | .byValue "Word_Break" v => segmentClass wordBreakTexts v
  | .byValue _ _ => .error .unicodePropertyNotFound

/-- The code points a Unicode class query names, before negation. -/
def UnicodeQuery.resolve (q : UnicodeQuery) : Except ErrorKind RangeSet :=
  q.canonical >>= CanonicalQuery.resolve

/-- Whether the query itself negates (`!=`). -/
def UnicodeQuery.negates : UnicodeQuery → Bool
  | .namedValue notEqual _ _ => notEqual
  | _ => false

end HttpTelemetry.Pattern
