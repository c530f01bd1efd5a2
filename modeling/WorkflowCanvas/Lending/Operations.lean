import WorkflowCanvas.Decimal.Reading
import WorkflowCanvas.Lending.Eligibility
import WorkflowCanvas.Operation.Locator
/-!
# The operations of a loan application

Seven operations that a loan workflow is drawn from: opening and closing an
application, looking a customer up, collecting missing details, checking
eligibility, recording the customer's decision, and sending a message. Each
reads its variables first and writes only when it succeeds.
-/


namespace WorkflowCanvas

namespace Lending

open Operation (Handler Context Refusal Descriptor Declaration)

/-! ## The application -/

/-- Eight hexadecimal digits of a number. -/
def eightDigits (n : Nat) : String :=
  let digits := Nat.toDigits 16 (n % 0x100000000)
  String.ofList (List.replicate (8 - digits.length) '0' ++ digits)

/-- The variable that holds the start of an application. -/
def startTimeKey : String := "loanApplyProcessStartTime"

/-- A variable that is a text. -/
def text? (c : Context) (key : String) : Option String := (c.get? key).bind Json.str?

/-- Opens an application. -/
def openApplication : Handler := fun c =>
  match (text? c "customerId").bind Text.nonBlank? with
  | none => (.error (.technical "customerId is required to start a loan application"), c)
  | some _ =>
    (.ok (), ((c.set "applicationId" (.str ("APP-" ++ eightDigits c.occasion.draw))).set
      "applicationStatus" (.str "STARTED")).set startTimeKey (.int c.occasion.now))

/-- Closes an application. -/
def closeApplication : Handler := fun c =>
  let c := match (c.get? startTimeKey).bind Json.unsigned? with
    | some started => c.set "processDurationMs" (.int (c.occasion.now - started : Nat))
    | none => c
  (.ok (), c.set "applicationStatus" (.str "COMPLETED"))

/-! ## The customer -/

/-- The variable that holds the customer. -/
def customerKey : String := "customerProfile"

/-- Looks a customer up. -/
def lookUpCustomer : Handler := fun c =>
  match text? c "customerId" with
  | none => (.error (c.missing "customerId"), c)
  | some id =>
    if (Text.nonBlank? id).isNone then
      (.error (.technical "customerId is required to fetch customer profile"), c)
    else (.ok (), c.set customerKey (Customer.madeUp id).toJson)

/-- A detail that a customer can be asked for. -/
inductive Detail where
  | name
  | contactNumber
  | address
  | pan
  | aadhar
  | monthlyIncome
deriving BEq, DecidableEq

namespace Detail

/-- All details in order. -/
def all : List Detail := [.name, .contactNumber, .address, .pan, .aadhar, .monthlyIncome]

/-- The name of a detail. -/
def label : Detail → String
  | .name => "CUSTOMER_NAME"
  | .contactNumber => "CONTACT_NUMBER"
  | .address => "ADDRESS"
  | .pan => "PAN"
  | .aadhar => "AADHAR"
  | .monthlyIncome => "MONTHLY_INCOME"

/-- The detail with a name. -/
def ofLabel? (s : String) : Option Detail := all.find? fun d => d.label == s

/-- What is known of a detail. -/
def known? (c : Customer) : Detail → Option Json
  | .name => c.name?.map .str
  | .contactNumber => c.contactNumber?.map .str
  | .address => c.address?.map .str
  | .pan => c.pan?.map .str
  | .aadhar => c.aadhar?.map .str
  | .monthlyIncome => c.monthlyIncome?.map fun n => .int n

/-- An unsigned 64-bit integer from its text: digits, perhaps behind a
plus. -/
def unsigned? (s : String) : Option Nat :=
  let digits := match s.toList with
    | '+' :: cs => cs
    | cs => cs
  if digits.isEmpty || !digits.all Char.isDigit then none
  else some (Decimal.digitsValue 0 digits) |>.filter fun n => decide (n < 0x10000000000000000)

/-- Takes a detail into the record of a customer. -/
def record (c : Customer) (v : Json) : Detail → Customer
  | .name => { c with name? := some v.valueText }
  | .contactNumber => { c with contactNumber? := some v.valueText }
  | .address => { c with address? := some v.valueText }
  | .pan => { c with pan? := some v.valueText }
  | .aadhar => { c with aadhar? := some v.valueText }
  | .monthlyIncome =>
    { c with monthlyIncome? := v.unsigned?.or (unsigned? (Text.trim v.valueText)) }

end Detail

/-- What has been collected so far. -/
structure Collection where
  customer : Customer
  details : Table Json := []
  /-- The required details that are not known. -/
  missing : List String := []

/-- Collects one detail: what was submitted, else what is known. A name
that is no detail is passed over. -/
def collect (c : Context) (found : Collection) (field : String) : Collection :=
  match Detail.ofLabel? field with
  | none => found
  | some detail =>
    match ((c.get? field).bind Json.nonNull?).or (detail.known? found.customer) with
    | some v =>
      { found with
        customer := detail.record found.customer v
        details := found.details.insert field v }
    | none => { found with missing := found.missing ++ [field] }

/-- The customer as known before details are collected. -/
def currentCustomer (c : Context) : Customer :=
  match (c.get? customerKey).bind Customer.ofJson? with
  | some customer => customer
  | none => { id := ((c.get? "customerId").map Json.valueText).getD "" }

/-- Collects the details that a step requires. -/
def collectDetails : Handler := fun c =>
  let found := (c.extensionList "requiredFields").foldl (collect c)
    { customer := currentCustomer c }
  if found.missing.isEmpty then
    (.ok (), (c.set "customerDetails" (.obj found.details)).set customerKey found.customer.toJson)
  else
    (.error (.business "CUSTOMER_DETAILS_INCOMPLETE"
      ("Missing customer details: " ++ ", ".intercalate found.missing)), c)

/-- Records the decision of the customer; anything unclear is a no. -/
def recordApproval : Handler := fun c =>
  let approved := match c.get? "customerApproved" with
    | some (.bool b) => b
    | some (.str s) => s.toList.map Text.lowerAscii == ['t', 'r', 'u', 'e']
    | _ => false
  (.ok (), c.set "customerApproved" (.bool approved))

/-! ## The decision -/

/-- The extension or variable that holds the requested amount. -/
def requestedAmountKey : String := "requestedAmountLimit"

/-- The requested amount: the extension of the step, else the variable. -/
def requestedAmount (c : Context) : Except Refusal Float :=
  match c.extension? requestedAmountKey with
  | some text =>
    match Decimal.parse? (Text.trim text) with
    | some amount => .ok amount
    | none => .error (.technical ("step '" ++ c.step.id ++ "' has a non-numeric "
        ++ requestedAmountKey ++ ": '" ++ text ++ "'"))
  | none =>
    let amount? := match c.get? requestedAmountKey with
      | some (.str text) => Decimal.parse? (Text.trim text)
      | some v => v.number?
      | none => none
    match amount? with
    | some amount => .ok amount
    | none => .error (.technical
        (requestedAmountKey ++ " not configured for step '" ++ c.step.id ++ "'"))

/-- Checks the customer against the requested amount. -/
def checkEligibility : Handler := fun c =>
  match (c.get? customerKey).bind Customer.ofJson? with
  | none => (.error (c.missing customerKey), c)
  | some customer =>
    match requestedAmount c with
    | .error refusal => (.error refusal, c)
    | .ok requested =>
      match assess customer requested with
      | .error refusal => (.error refusal, c)
      | .ok assessment =>
        (.ok (), (c.set "eligibilityStatus" (.bool assessment.approved)).set "eligibilityResult"
          assessment.toJson)

/-- The message to a customer: the decision counts before the
assessment. -/
def notice (approved? : Option Bool) (assessment? : Option Assessment) : String :=
  match approved?, assessment? with
  | some true, _ => "Congratulations! Your loan offer has been approved."
  | some false, _ => "We regret to inform that your loan offer has been rejected."
  | none, some a =>
    if a.approved then "You are eligible for a loan of up to " ++ Decimal.plain a.amount ++ "."
    else "Your loan application could not be approved: " ++ a.reason ++ "."
  | none, none => "Your loan application is being processed."

/-- A variable that is a truth value. -/
def flag? (c : Context) (key : String) : Option Bool :=
  match c.get? key with
  | some (.bool b) => some b
  | _ => none

/-- Sends a message to the customer. -/
def notifyCustomer : Handler := fun c =>
  match (c.get? customerKey).bind Customer.ofJson? with
  | none => (.error (c.missing customerKey), c)
  | some _ =>
    let message := notice (flag? c "customerApproved")
      ((c.get? "eligibilityResult").bind Assessment.ofJson?)
    (.ok (), (c.set "notificationSent" (.bool true)).set "notificationMessage" (.str message))

/-! ## Declarations -/

/-- The declaration of opening an application. -/
def openApplicationDeclaration : Declaration where
  descriptor :=
    { id := "StartLoanApplication"
      description := "Initializes loan application"
      category := "Loan"
      kind := .service
      inputs := ["customerId"]
      outputs := ["applicationId", "applicationStatus", startTimeKey]
      handlerRef? := some "flow_operations::loan::StartLoanApplication" }
  handler := openApplication

/-- The declaration of collecting details. -/
def collectDetailsDeclaration : Declaration where
  descriptor :=
    { id := "EnterCustomerDetails"
      description := "Collect customer details dynamically"
      category := "Customer"
      kind := .userTask
      inputs := [customerKey]
      outputs := [customerKey, "customerDetails"]
      handlerRef? := some "flow_operations::customer::EnterCustomerDetails"
      selectableFields := Detail.all.map Detail.label }
  handler := collectDetails

/-- The declaration of looking a customer up. -/
def lookUpCustomerDeclaration : Declaration where
  descriptor :=
    { id := "GetCustomerProfile"
      description := "Get customer profile"
      category := "Customer"
      kind := .service
      inputs := ["customerId"]
      outputs := [customerKey]
      handlerRef? := some "flow_operations::customer::GetCustomerProfile" }
  handler := lookUpCustomer

/-- The declaration of checking eligibility. -/
def checkEligibilityDeclaration : Declaration where
  descriptor :=
    { id := "CheckEligibility"
      description := "Checks customer eligibility against the requested amount"
      category := "Eligibility"
      kind := .service
      inputs := [customerKey]
      outputs := ["eligibilityResult", "eligibilityStatus"]
      handlerRef? := some "flow_operations::eligibility::CheckEligibility"
      customizableFields := ["AMOUNT"] }
  handler := checkEligibility

/-- The declaration of recording the decision of the customer. -/
def recordApprovalDeclaration : Declaration where
  descriptor :=
    { id := "CustomerApproval"
      description := "Customer approval of the loan offer"
      category := "Customer"
      kind := .userTask
      inputs := ["customerApproved"]
      outputs := ["customerApproved"]
      handlerRef? := some "flow_operations::customer::CustomerApproval" }
  handler := recordApproval

/-- The declaration of sending a message. -/
def notifyCustomerDeclaration : Declaration where
  descriptor :=
    { id := "NotifyCustomer"
      description := "Send notification to customer"
      category := "Notification"
      kind := .service
      inputs := [customerKey, "eligibilityResult", "customerApproved"]
      outputs := ["notificationSent", "notificationMessage"]
      handlerRef? := some "flow_operations::notification::NotifyCustomer" }
  handler := notifyCustomer

/-- The declaration of closing an application. -/
def closeApplicationDeclaration : Declaration where
  descriptor :=
    { id := "EndLoanApplication"
      description := "Finalizes loan application"
      category := "Loan"
      kind := .service
      inputs := ["applicationId", startTimeKey]
      outputs := ["applicationStatus", "processDurationMs"]
      handlerRef? := some "flow_operations::loan::EndLoanApplication" }
  handler := closeApplication

/-- **The operations of a loan application**, in the order of a
workflow. -/
def declarations : List Declaration :=
  [openApplicationDeclaration, collectDetailsDeclaration, lookUpCustomerDeclaration,
   checkEligibilityDeclaration, recordApprovalDeclaration, notifyCustomerDeclaration,
   closeApplicationDeclaration]

end Lending

end WorkflowCanvas
