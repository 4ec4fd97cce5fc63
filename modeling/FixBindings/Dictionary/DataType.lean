import FixBindings.Text.Blank
import FixBindings.Text.Case

/-!
# Data types of fields

The categories of values that fields have, with their spellings and the category that each refines.
-/

namespace FixBindings.Dictionary

/-- A category of field values. -/
inductive DataType where
  | int
  | length
  | tagNum
  | dayOfMonth
  | seqNum
  | numInGroup
  | float
  | qty
  | price
  | priceOffset
  | amt
  | percentage
  | char
  | boolean
  | string
  | multipleCharValue
  | multipleStringValue
  | country
  | currency
  | exchange
  | monthYear
  | utcTimestamp
  | utcTimeOnly
  | utcDateOnly
  | localMktDate
  | tzTimeOnly
  | tzTimestamp
  | data
  | xmlData
  | language
  deriving DecidableEq, Repr

namespace DataType

/-- All data types. -/
def all : List DataType :=
  [int, length, tagNum, dayOfMonth, seqNum, numInGroup, float, qty, price, priceOffset, amt,
    percentage, char, boolean, string, multipleCharValue, multipleStringValue, country, currency,
    exchange, monthYear, utcTimestamp, utcTimeOnly, utcDateOnly, localMktDate, tzTimeOnly,
    tzTimestamp, data, xmlData, language]

/-- The spelling of a data type in generated code. -/
def spelling : DataType → String
  | int => "Int"
  | length => "Length"
  | tagNum => "TagNum"
  | dayOfMonth => "DayOfMonth"
  | seqNum => "SeqNum"
  | numInGroup => "NumInGroup"
  | float => "Float"
  | qty => "Qty"
  | price => "Price"
  | priceOffset => "PriceOffset"
  | amt => "Amt"
  | percentage => "Percentage"
  | char => "Char"
  | boolean => "Boolean"
  | string => "String"
  | multipleCharValue => "MultipleCharValue"
  | multipleStringValue => "MultipleStringValue"
  | country => "Country"
  | currency => "Currency"
  | exchange => "Exchange"
  | monthYear => "MonthYear"
  | utcTimestamp => "UtcTimestamp"
  | utcTimeOnly => "UtcTimeOnly"
  | utcDateOnly => "UtcDateOnly"
  | localMktDate => "LocalMktDate"
  | tzTimeOnly => "TzTimeOnly"
  | tzTimestamp => "TzTimestamp"
  | data => "Data"
  | xmlData => "XmlData"
  | language => "Language"

/-- The data type that a data type refines, itself when it refines none. -/
def base : DataType → DataType
  | qty | price | priceOffset | amt | percentage => float
  | length | tagNum | dayOfMonth | seqNum | numInGroup => int
  | boolean => char
  | multipleCharValue | multipleStringValue | country | currency | exchange | monthYear
  | utcTimestamp | utcTimeOnly | utcDateOnly | localMktDate | tzTimeOnly | tzTimestamp
  | language => string
  | xmlData => data
  | d => d

/-- A type name without underscores and white space, in upper case: the form in which names are
compared. -/
def normalize (name : String) : String :=
  String.ofList (Text.upper (name.toList.filter fun c ↦ !(c == '_' || Text.isBlank c)))

/-- The normal forms of names that older dictionaries use for a data type. -/
def aliases : List (String × DataType) :=
  [("MULTIPLEVALUESTRING", multipleStringValue), ("UTCDATE", utcDateOnly), ("DATE", utcDateOnly),
    ("TIME", utcTimestamp)]

/-- The data type that a dictionary calls `name`. -/
def ofName? (name : String) : Option DataType :=
  let key := normalize name
  match all.find? fun d ↦ normalize d.spelling == key with
  | some d => some d
  | none => aliases.lookup key

end DataType

end FixBindings.Dictionary
