import SetProtocol.Core.AddressArrayUtils

set_option relaxedAutoImplicit false
set_option autoImplicit false

/-!
# The controller

`contracts/protocol/Controller.sol`, which keeps the Sets, factories, modules and resources of the
protocol, the protocol fees, and who receives them. Each kind of contract is kept as a list and by a
flag for each address, and resources also by an id.

## Main definitions

* `SetProtocol.Controller` — the storage.
* `SetProtocol.Controller.initializeController` — the batch initializer.
* `SetProtocol.Controller.addEntry`, `removeEntry` — what the functions that add and remove one
  contract share.
* `SetProtocol.Message` — what a contract function sees of its environment.
-/

namespace SetProtocol

open Checked

/-- The storage of the controller. -/
structure Controller where
  /-- The account that governs the protocol. -/
  owner : Address := zeroAddress
  /-- Whether `initialize` was called. -/
  isInitialized : Bool := true
  /-- The enabled Sets, in order. -/
  sets : List Address := []
  /-- The enabled Sets. -/
  isSet : Address → Bool := fun _ => false
  /-- The enabled factories of Sets, in order. -/
  factories : List Address := []
  /-- The enabled factories of Sets. -/
  isFactory : Address → Bool := fun _ => false
  /-- The enabled modules, in order. -/
  modules : List Address := []
  /-- The enabled modules. -/
  isModule : Address → Bool := fun _ => false
  /-- The enabled resources, in order. -/
  resources : List Address := []
  /-- The enabled resources. -/
  isResource : Address → Bool := fun _ => false
  /-- The resource of each id. -/
  resourceId : ℕ → Address := fun _ => zeroAddress
  /-- Fee percentage by module and fee type, in precise units. -/
  fees : Address → ℕ → ℕ := fun _ _ => 0
  /-- The recipient of protocol fees. -/
  feeRecipient : Address := zeroAddress

/-- What a function reads besides the storage of its own contract: the controller, and who calls
it. -/
structure Message where
  /-- The controller. -/
  controller : Controller
  /-- `msg.sender`. -/
  sender : Address

namespace Controller

/-- `getModuleFee`. -/
def getModuleFee (c : Controller) (module : Address) (feeType : ℕ) : ℕ := c.fees module feeType

/-- `isSystemContract`, of the controller at `self`. -/
def isSystemContract (self : Address) (c : Controller) (contractAddress : Address) : Bool :=
  c.isSet contractAddress || c.isModule contractAddress || c.isResource contractAddress ||
    c.isFactory contractAddress || contractAddress = self

/-- `addSet`. -/
def addSet (c : Controller) (msgSender setToken : Address) : Except Revert Controller := do
  require (c.isInitialized = true) "Contract must be initialized."
  require (c.isFactory msgSender = true) "Only valid factories can call"
  require (c.isSet setToken = false) "Set already exists"
  return { c with
    isSet := Function.update c.isSet setToken true
    sets := c.sets ++ [setToken] }

/-- The controller that its constructor makes. -/
def deployed (owner feeRecipient : Address) : Controller :=
  { owner := owner
    isInitialized := false
    feeRecipient := feeRecipient }

/-- One round of the loops of `initialize` over factories and over modules. -/
def flagRound (flags : Address → Bool) (entry : Address) : Except Revert (Address → Bool) := do
  require (entry ≠ zeroAddress) "Zero address submitted."
  return Function.update flags entry true

/-- One round of the loop of `initialize` over resources, on the flags and the ids. -/
def resourceRound (kept : (Address → Bool) × (ℕ → Address)) (entry : Address × ℕ) :
    Except Revert ((Address → Bool) × (ℕ → Address)) := do
  require (entry.1 ≠ zeroAddress) "Zero address submitted."
  require (kept.2 entry.2 = zeroAddress) "Resource ID already exists"
  return (Function.update kept.1 entry.1 true, Function.update kept.2 entry.2 entry.1)

/-- `initialize`. -/
def initializeController (c : Controller) (msgSender : Address)
    (factories modules resources : List Address) (resourceIds : List ℕ) :
    Except Revert Controller := do
  require (msgSender = c.owner) "Ownable: caller is not the owner"
  require (c.isInitialized = false) "Controller is already initialized"
  require (resources.length = resourceIds.length) "Array lengths do not match."
  let isFactory ← factories.foldlM flagRound c.isFactory
  let isModule ← modules.foldlM flagRound c.isModule
  let (isResource, resourceId) ←
    (resources.zip resourceIds).foldlM resourceRound (c.isResource, c.resourceId)
  return { c with
    factories := factories
    modules := modules
    resources := resources
    isFactory := isFactory
    isModule := isModule
    isResource := isResource
    resourceId := resourceId
    isInitialized := true }

/-- The body that `addFactory` and `addModule` share, on their list and flags. -/
def addEntry (c : Controller) (msgSender : Address) (list : List Address) (flags : Address → Bool)
    (reason : Revert) (entry : Address) : Except Revert (List Address × (Address → Bool)) := do
  require (c.isInitialized = true) "Contract must be initialized."
  require (msgSender = c.owner) "Ownable: caller is not the owner"
  require (flags entry = false) reason
  return (list ++ [entry], Function.update flags entry true)

/-- The body that `removeSet`, `removeFactory` and `removeModule` share, on their list and flags. -/
def removeEntry (c : Controller) (msgSender : Address) (list : List Address)
    (flags : Address → Bool) (reason : Revert) (entry : Address) :
    Except Revert (List Address × (Address → Bool)) := do
  require (c.isInitialized = true) "Contract must be initialized."
  require (msgSender = c.owner) "Ownable: caller is not the owner"
  require (flags entry = true) reason
  let list ← AddressArrayUtils.remove list entry
  return (list, Function.update flags entry false)

/-- `removeSet`. -/
def removeSet (c : Controller) (msgSender setToken : Address) : Except Revert Controller := do
  let (sets, isSet) ← c.removeEntry msgSender c.sets c.isSet "Set does not exist" setToken
  return { c with sets := sets, isSet := isSet }

/-- `addFactory`. -/
def addFactory (c : Controller) (msgSender factory : Address) : Except Revert Controller := do
  let (factories, isFactory) ←
    c.addEntry msgSender c.factories c.isFactory "Factory already exists" factory
  return { c with factories := factories, isFactory := isFactory }

/-- `removeFactory`. -/
def removeFactory (c : Controller) (msgSender factory : Address) : Except Revert Controller := do
  let (factories, isFactory) ←
    c.removeEntry msgSender c.factories c.isFactory "Factory does not exist" factory
  return { c with factories := factories, isFactory := isFactory }

/-- `addModule`. -/
def addModule (c : Controller) (msgSender module : Address) : Except Revert Controller := do
  let (modules, isModule) ←
    c.addEntry msgSender c.modules c.isModule "Module already exists" module
  return { c with modules := modules, isModule := isModule }

/-- `removeModule`. -/
def removeModule (c : Controller) (msgSender module : Address) : Except Revert Controller := do
  let (modules, isModule) ←
    c.removeEntry msgSender c.modules c.isModule "Module does not exist" module
  return { c with modules := modules, isModule := isModule }

/-- `addResource`. -/
def addResource (c : Controller) (msgSender resource : Address) (id : ℕ) :
    Except Revert Controller := do
  require (c.isInitialized = true) "Contract must be initialized."
  require (msgSender = c.owner) "Ownable: caller is not the owner"
  require (c.isResource resource = false) "Resource already exists"
  require (c.resourceId id = zeroAddress) "Resource ID already exists"
  return { c with
    isResource := Function.update c.isResource resource true
    resourceId := Function.update c.resourceId id resource
    resources := c.resources ++ [resource] }

/-- `removeResource`. -/
def removeResource (c : Controller) (msgSender : Address) (id : ℕ) : Except Revert Controller := do
  require (c.isInitialized = true) "Contract must be initialized."
  require (msgSender = c.owner) "Ownable: caller is not the owner"
  let resourceToRemove := c.resourceId id
  require (resourceToRemove ≠ zeroAddress) "Resource does not exist"
  let resources ← AddressArrayUtils.remove c.resources resourceToRemove
  return { c with
    resources := resources
    resourceId := Function.update c.resourceId id zeroAddress
    isResource := Function.update c.isResource resourceToRemove false }

/-- The body that `addFee` and `editFee` share: they differ in which fees may be overwritten. -/
def writeFee (c : Controller) (msgSender : Address) (mayOverwrite : ℕ → Bool) (reason : Revert)
    (module : Address) (feeType newFeePercentage : ℕ) : Except Revert Controller := do
  require (c.isInitialized = true) "Contract must be initialized."
  require (msgSender = c.owner) "Ownable: caller is not the owner"
  require (c.isModule module = true) "Module does not exist"
  require (mayOverwrite (c.fees module feeType) = true) reason
  return { c with
    fees := Function.update c.fees module
      (Function.update (c.fees module) feeType newFeePercentage) }

/-- `addFee`. -/
def addFee (c : Controller) (msgSender module : Address) (feeType newFeePercentage : ℕ) :
    Except Revert Controller :=
  c.writeFee msgSender (fun fee => fee = 0) "Fee type already exists on module" module feeType
    newFeePercentage

/-- `editFee`. -/
def editFee (c : Controller) (msgSender module : Address) (feeType newFeePercentage : ℕ) :
    Except Revert Controller :=
  c.writeFee msgSender (fun fee => fee ≠ 0) "Fee type does not exist on module" module feeType
    newFeePercentage

/-- `editFeeRecipient`. -/
def editFeeRecipient (c : Controller) (msgSender newFeeRecipient : Address) :
    Except Revert Controller := do
  require (c.isInitialized = true) "Contract must be initialized."
  require (msgSender = c.owner) "Ownable: caller is not the owner"
  require (newFeeRecipient ≠ zeroAddress) "Address must not be 0"
  return { c with feeRecipient := newFeeRecipient }

/-- `transferOwnership`, inherited from `Ownable`. -/
def transferOwnership (c : Controller) (msgSender newOwner : Address) :
    Except Revert Controller := do
  require (msgSender = c.owner) "Ownable: caller is not the owner"
  require (newOwner ≠ zeroAddress) "Ownable: new owner is the zero address"
  return { c with owner := newOwner }

/-- `renounceOwnership`, inherited from `Ownable`. -/
def renounceOwnership (c : Controller) (msgSender : Address) : Except Revert Controller := do
  require (msgSender = c.owner) "Ownable: caller is not the owner"
  return { c with owner := zeroAddress }

end Controller

end SetProtocol
