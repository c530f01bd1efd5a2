import WorkflowCanvas.Decimal.Layout
import WorkflowCanvas.Lending.Customer
import WorkflowCanvas.Operation.Handler
/-!
# Eligibility

A customer is eligible for an amount up to the limit of the tier that the
account balance puts them in. Missing documents, a low balance and an
amount that is not positive are rejections; an amount above the limit is a
business failure.
-/


namespace WorkflowCanvas

namespace Lending

/-- A class of accounts. -/
inductive Tier where
  | silver
  | gold
  | platinum
deriving BEq, DecidableEq

namespace Tier

/-- The tier of a balance. -/
def ofBalance (balance : Nat) : Tier :=
  if balance ≥ 50000 then .platinum else if balance ≥ 30000 then .gold else .silver

/-- The highest amount a tier is eligible for. -/
def limit : Tier → Float
  | .silver => 10000
  | .gold => 30000
  | .platinum => 50000

/-- The name of a tier. -/
def label : Tier → String
  | .silver => "SILVER"
  | .gold => "GOLD"
  | .platinum => "PLATINUM"

/-- The tier with a name. -/
def ofLabel? : String → Option Tier
  | "SILVER" => some .silver
  | "GOLD" => some .gold
  | "PLATINUM" => some .platinum
  | _ => none

end Tier

/-- The outcome of a check. -/
structure Assessment where
  approved : Bool
  amount : Float
  reason : String
  tier? : Option Tier := none
deriving BEq, DecidableEq

namespace Assessment

/-- A rejection. -/
def rejected (reason : String) : Assessment := { approved := false, amount := 0, reason }

open Document (asString? asBool? asFloat?)

/-- An assessment from a document. -/
def ofDocument? (d : Document) : Option Assessment := do
  let r ← Record.of? (Record.plain ["approved", "amount", "reasonCode", "tier"]) d
  let approved ← r.required "approved" asBool?
  let amount ← r.required "amount" asFloat?
  let reason ← r.required "reasonCode" asString?
  let tier? ← r.optional "tier" (Document.asName? Tier.ofLabel?)
  return { approved, amount, reason, tier? }

/-- An assessment from a value. -/
def ofJson? (j : Json) : Option Assessment := ofDocument? (.ofJson j)

/-- The value of an assessment. -/
def toJson (a : Assessment) : Json :=
  .obj <|
    [("amount", if a.amount.isFinite then .float a.amount else .null),
     ("approved", .bool a.approved), ("reasonCode", .str a.reason)]
    ++ match a.tier? with
      | some tier => [("tier", .str tier.label)]
      | none => []

end Assessment

/-- The lowest balance that is eligible for anything. -/
def leastBalance : Nat := 10000

/-- **Checks a customer against a requested amount.** -/
def assess (c : Customer) (requested : Float) : Except Operation.Refusal Assessment :=
  let balance := c.accountBalance?.getD 0
  if !c.isIdentified then .ok (.rejected "Missing PAN or Aadhar")
  else if balance < leastBalance then .ok (.rejected "Account balance too low")
  else if requested.isNaN || requested ≤ 0 then .ok (.rejected "Invalid requested amount limit")
  else
    let tier := Tier.ofBalance balance
    if requested > tier.limit then
      .error (.business "ELIGIBILITY_LIMIT_EXCEEDED"
        ("Requested amount " ++ Decimal.plain requested ++ " exceeds the " ++ tier.label
          ++ " limit of " ++ Decimal.plain tier.limit))
    else
      .ok { approved := true, amount := requested, reason := "Approved: " ++ tier.label,
            tier? := some tier }

end Lending

end WorkflowCanvas
