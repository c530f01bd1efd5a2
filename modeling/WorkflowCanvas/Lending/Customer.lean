import WorkflowCanvas.Json.Record
import WorkflowCanvas.Text.Blank
/-!
# Customers

What is known of a customer who applies for a loan. Where no record exists
one is made up: its balance and income follow from a hash of the customer
id, so that the same id always yields the same numbers.
-/


namespace WorkflowCanvas

namespace Lending

/-- What is known of a customer. -/
structure Customer where
  id : String := ""
  name? : Option String := none
  contactNumber? : Option String := none
  address? : Option String := none
  pan? : Option String := none
  aadhar? : Option String := none
  monthlyIncome? : Option Nat := none
  accountBalance? : Option Nat := none
deriving BEq, DecidableEq

/-- The 16-bit units of a character. -/
def units (c : Char) : List Nat :=
  let n := c.toNat
  if n < 0x10000 then [n]
  else [0xD800 + (n - 0x10000) / 0x400, 0xDC00 + (n - 0x10000) % 0x400]

/-- A rolling hash of an id: each unit is added to 31 times the hash so
far, in 32 signed bits. -/
def idHash (id : String) : Int32 :=
  (id.toList.flatMap units).foldl (fun h n => h * 31 + Int32.ofNat n) 0

namespace Customer

/-- The made-up record of a customer id. -/
def madeUp (id : String) : Customer :=
  let hash := (idHash id).toInt.natAbs
  { id
    name? := some "John Doe"
    contactNumber? := some "9876543210"
    address? := some "123 Main Street, City, Zip"
    pan? := some "AAAAA1234A"
    aadhar? := some "123456789012"
    monthlyIncome? := some (hash % 200000 + 30000)
    accountBalance? := some (hash % 500000 + 10000) }

/-- A text is there and not blank. -/
def isPresent (text? : Option String) : Bool := (text?.bind Text.nonBlank?).isSome

/-- Both identity documents are on file. -/
def isIdentified (c : Customer) : Bool := isPresent c.pan? && isPresent c.aadhar?

open Document (asString? asUnsigned?)

/-- A customer from a document. Every field may be absent. -/
def ofDocument? (d : Document) : Option Customer := do
  let r ← Record.of? (Record.plain ["customerId", "customerName", "contactNumber",
    "customerAddress", "panNumber", "aadharNumber", "monthlyIncome", "accountBalance"]) d
  let id ← r.default "customerId" "" asString?
  let name? ← r.optionalDefault "customerName" asString?
  let contactNumber? ← r.optionalDefault "contactNumber" asString?
  let address? ← r.optionalDefault "customerAddress" asString?
  let pan? ← r.optionalDefault "panNumber" asString?
  let aadhar? ← r.optionalDefault "aadharNumber" asString?
  let monthlyIncome? ← r.optionalDefault "monthlyIncome" asUnsigned?
  let accountBalance? ← r.optionalDefault "accountBalance" asUnsigned?
  return { id, name?, contactNumber?, address?, pan?, aadhar?, monthlyIncome?, accountBalance? }

/-- A customer from a value. -/
def ofJson? (j : Json) : Option Customer := ofDocument? (.ofJson j)

/-- A text as a value, null if it is absent. -/
def textJson : Option String → Json
  | some s => .str s
  | none => .null

/-- An amount as a value, null if it is absent. -/
def amountJson : Option Nat → Json
  | some n => .int n
  | none => .null

/-- The value of a customer. -/
def toJson (c : Customer) : Json :=
  .obj [("aadharNumber", textJson c.aadhar?), ("accountBalance", amountJson c.accountBalance?),
        ("contactNumber", textJson c.contactNumber?), ("customerAddress", textJson c.address?),
        ("customerId", .str c.id), ("customerName", textJson c.name?),
        ("monthlyIncome", amountJson c.monthlyIncome?), ("panNumber", textJson c.pan?)]

end Customer

end Lending

end WorkflowCanvas
