import AuditDesk.Text.Blank

/-!
The findings that are known by name, with an explanation, a way to mend them and a place to read more.
A finding under any other name has no guidance.
-/
namespace AuditDesk

/-- What is shown about a known finding. -/
structure Guidance where
  title : String
  description : String
  mitigation : String
  reference : String
deriving DecidableEq

inductive KnownFinding where
  | reentrancy
  | uncheckedExternalCall
  | txOrigin
  | unprotectedSelfdestruct
  | timestampDependence
  | frontRunning
  | dosWithUnexpectedRevert
  | weakRandomness
  | incorrectErc20
  | incorrectErc721
  | crossContractReentrancy
  | stateChangeAfterExternalCall
  | unusedReturnValue
  | accessControl
  | etherLeak
  | delegatecallUsage
  | uncheckedSend
  | assemblyUsage
  | uninitializedStateVariable
  | deprecatedFunction
  | compilationError
deriving DecidableEq

namespace KnownFinding

/-- Every kind, in the order of declaration. -/
def all : List KnownFinding :=
  [.reentrancy, .uncheckedExternalCall, .txOrigin, .unprotectedSelfdestruct,
    .timestampDependence, .frontRunning, .dosWithUnexpectedRevert, .weakRandomness,
    .incorrectErc20, .incorrectErc721, .crossContractReentrancy, .stateChangeAfterExternalCall,
    .unusedReturnValue, .accessControl, .etherLeak, .delegatecallUsage, .uncheckedSend,
    .assemblyUsage, .uninitializedStateVariable, .deprecatedFunction, .compilationError]

/-- The name under which a finding of this kind is reported. -/
def name : KnownFinding → String
  | .reentrancy => "Potential Reentrancy"
  | .uncheckedExternalCall => "Unchecked External Call"
  | .txOrigin => "Use of tx.origin"
  | .unprotectedSelfdestruct => "Unprotected Selfdestruct"
  | .timestampDependence => "Timestamp Dependence"
  | .frontRunning => "Potential Front-Running Vulnerability"
  | .dosWithUnexpectedRevert => "Potential DoS with Unexpected Revert"
  | .weakRandomness => "Weak Source of Randomness"
  | .incorrectErc20 => "Incorrect ERC20 Implementation"
  | .incorrectErc721 => "Incorrect ERC721 Implementation"
  | .crossContractReentrancy => "Potential Cross-Contract Reentrancy"
  | .stateChangeAfterExternalCall => "State Change After External Call"
  | .unusedReturnValue => "Unused Return Value"
  | .accessControl => "Potential Access Control Issue"
  | .etherLeak => "Potential Ether Leak"
  | .delegatecallUsage => "Delegatecall Usage"
  | .uncheckedSend => "Unchecked Send"
  | .assemblyUsage => "Assembly Usage"
  | .uninitializedStateVariable => "Uninitialized State Variable"
  | .deprecatedFunction => "Deprecated Function"
  | .compilationError => "Compilation Error"

def guidance : KnownFinding → Guidance
  | .reentrancy =>
      { title := "Reentrancy"
        description :=
          "An external call hands control to another contract before this contract has " ++
          "finished updating its state. The callee can re-enter and observe or exploit " ++
          "the stale state, for example to withdraw the same balance repeatedly."
        mitigation :=
          "Apply checks-effects-interactions: update state before external calls. Guard " ++
          "sensitive functions with a reentrancy lock such as OpenZeppelin's " ++
          "ReentrancyGuard or Vyper's @nonreentrant."
        reference := "https://swcregistry.io/docs/SWC-107" }
  | .uncheckedExternalCall =>
      { title := "Unchecked External Call"
        description :=
          "A low-level call (call, send, delegatecall) returns false on failure instead " ++
          "of reverting. Ignoring the return value lets execution continue as if the " ++
          "call had succeeded."
        mitigation :=
          "Check the boolean returned by every low-level call and revert on failure, or " ++
          "use higher-level calls that revert automatically."
        reference := "https://swcregistry.io/docs/SWC-104" }
  | .txOrigin =>
      { title := "Authorization through tx.origin"
        description :=
          "tx.origin is the externally owned account that started the transaction. A " ++
          "malicious contract called by the owner can pass a tx.origin check and act " ++
          "with the owner's authority."
        mitigation :=
          "Use msg.sender for authorization checks."
        reference := "https://swcregistry.io/docs/SWC-115" }
  | .unprotectedSelfdestruct =>
      { title := "Unprotected Selfdestruct"
        description :=
          "A function that can destroy the contract is reachable without access control, " ++
          "so anyone can remove the contract and send its ether to an address of their " ++
          "choice."
        mitigation :=
          "Restrict selfdestruct to authorized roles, preferably behind a multisig, or " ++
          "remove it entirely."
        reference := "https://swcregistry.io/docs/SWC-106" }
  | .timestampDependence =>
      { title := "Block Timestamp Dependence"
        description :=
          "block.timestamp is set by the block producer and can be shifted within " ++
          "protocol tolerances. Logic that depends on exact timestamps can be nudged in " ++
          "the producer's favor."
        mitigation :=
          "Do not use timestamps for randomness or tight deadlines. Tolerate drift of " ++
          "several seconds in time-based logic."
        reference := "https://swcregistry.io/docs/SWC-116" }
  | .frontRunning =>
      { title := "Transaction Order Dependence"
        description :=
          "Pending transactions are visible in the mempool. An observer can submit a " ++
          "competing transaction with a higher fee so it executes first, for example to " ++
          "take a reward or move a price."
        mitigation :=
          "Use commit-reveal schemes, slippage bounds or batch auctions so that " ++
          "transaction ordering cannot be profitably exploited."
        reference := "https://swcregistry.io/docs/SWC-114" }
  | .dosWithUnexpectedRevert =>
      { title := "Denial of Service with Failed Call"
        description :=
          "A require or assert that depends on an external call lets the callee block " ++
          "the function forever by reverting, for example by refusing to accept a refund."
        mitigation :=
          "Favor pull over push payments and isolate each external call so that one " ++
          "failing recipient cannot block the others."
        reference := "https://swcregistry.io/docs/SWC-113" }
  | .weakRandomness =>
      { title := "Weak Source of Randomness"
        description :=
          "Values such as block.timestamp, block.difficulty or blockhash are known to or " ++
          "influenced by block producers, so randomness derived from them is predictable."
        mitigation :=
          "Use a verifiable randomness source such as an oracle VRF or a commit-reveal " ++
          "scheme."
        reference := "https://swcregistry.io/docs/SWC-120" }
  | .incorrectErc20 =>
      { title := "Incorrect ERC20 Interface"
        description :=
          "The contract presents itself as an ERC20 token but its functions or return " ++
          "values deviate from the standard, which breaks wallets and protocols that " ++
          "integrate with it."
        mitigation :=
          "Match the EIP-20 signatures and return values exactly, or build on an audited " ++
          "implementation."
        reference := "https://eips.ethereum.org/EIPS/eip-20" }
  | .incorrectErc721 =>
      { title := "Incorrect ERC721 Interface"
        description :=
          "The contract presents itself as an ERC721 token but does not comply with the " ++
          "standard interface, so marketplaces and wallets may mishandle its tokens."
        mitigation :=
          "Match the EIP-721 interface, including ERC165 support, or build on an audited " ++
          "implementation."
        reference := "https://eips.ethereum.org/EIPS/eip-721" }
  | .crossContractReentrancy =>
      { title := "Cross-Contract Reentrancy"
        description :=
          "A payable call into another contract that itself exposes payable entry points " ++
          "can be used to re-enter this system through a different contract sharing the " ++
          "same state."
        mitigation :=
          "Finish all state updates before calling out and use a reentrancy lock shared " ++
          "by every contract that touches the same state."
        reference := "https://swcregistry.io/docs/SWC-107" }
  | .stateChangeAfterExternalCall =>
      { title := "State Change After External Call"
        description :=
          "State is written after an external call returns. During the call the callee " ++
          "sees outdated state, which is the classic precondition for reentrancy."
        mitigation :=
          "Move state writes before the external call (checks-effects-interactions)."
        reference := "https://swcregistry.io/docs/SWC-107" }
  | .unusedReturnValue =>
      { title := "Unused Return Value"
        description :=
          "The return value of an external call is ignored. Failures reported through " ++
          "return values, such as ERC20 transfer returning false, go unnoticed."
        mitigation :=
          "Check every return value, or use wrappers such as SafeERC20 that revert on " ++
          "failure."
        reference := "https://swcregistry.io/docs/SWC-104" }
  | .accessControl =>
      { title := "Missing Access Control"
        description :=
          "An unprotected function calls a function that is protected elsewhere, " ++
          "exposing privileged behavior to any caller."
        mitigation :=
          "Apply the same access modifiers on every path that reaches privileged " ++
          "functionality."
        reference := "https://swcregistry.io/docs/SWC-105" }
  | .etherLeak =>
      { title := "Ether Transfer to Another Contract"
        description :=
          "The function forwards ether to another contract. If the target or the amount " ++
          "can be influenced by an attacker, funds can be drained."
        mitigation :=
          "Make sure the recipient and amount cannot be controlled by untrusted callers " ++
          "and restrict the function to authorized roles."
        reference := "https://swcregistry.io/docs/SWC-105" }
  | .delegatecallUsage =>
      { title := "Delegatecall to Untrusted Callee"
        description :=
          "delegatecall runs foreign code in the context of this contract's storage and " ++
          "balance. A malicious or mismatched target can overwrite storage or take " ++
          "ownership."
        mitigation :=
          "Only delegatecall into trusted, immutable implementations with a compatible " ++
          "storage layout."
        reference := "https://swcregistry.io/docs/SWC-112" }
  | .uncheckedSend =>
      { title := "Unchecked Send"
        description :=
          "send() returns false when the transfer fails. Without checking it the " ++
          "contract continues as though the payment went through."
        mitigation :=
          "Assert on the result of send() or use a transfer mechanism that reverts on " ++
          "failure."
        reference := "https://swcregistry.io/docs/SWC-104" }
  | .assemblyUsage =>
      { title := "Inline Assembly"
        description :=
          "Inline assembly bypasses compiler safety checks such as bounds checking and " ++
          "type safety, which makes mistakes easier to introduce and harder to spot."
        mitigation :=
          "Avoid assembly where high-level code suffices and review any remaining blocks " ++
          "carefully."
        reference := "https://docs.soliditylang.org/en/latest/assembly.html" }
  | .uninitializedStateVariable =>
      { title := "Uninitialized State Variable"
        description :=
          "A state variable is never assigned in the constructor and keeps its zero " ++
          "value, which can leave ownership or configuration unset."
        mitigation :=
          "Initialize every state variable explicitly in the constructor or at " ++
          "declaration."
        reference := "https://swcregistry.io/docs/SWC-109" }
  | .deprecatedFunction =>
      { title := "Deprecated Function"
        description :=
          "The contract calls a function that has been deprecated (for example sha3 or " ++
          "suicide). Deprecated builtins may be removed or behave differently in newer " ++
          "compilers."
        mitigation :=
          "Replace the call with its recommended alternative (keccak256, selfdestruct, " ++
          "...)."
        reference := "https://swcregistry.io/docs/SWC-111" }
  | .compilationError =>
      { title := "Compilation Error"
        description :=
          "The analysis service could not compile the source, so no further checks were " ++
          "run."
        mitigation :=
          "Fix the reported compiler error and submit the contract again."
        reference := "https://docs.vyperlang.org/en/stable/compiling-a-contract.html" }

/-- The beginning shared by the names of all findings about deprecated functions. -/
def deprecatedStart : String := "deprecated function"

/-- The kind a reported name stands for. Case (of ASCII letters) and surrounding white space do not
matter; findings about a deprecated function go on with the function's name. -/
def ofName? (reported : String) : Option KnownFinding :=
  let normalized := Text.asciiLower (Text.trim reported)
  if deprecatedStart.toList.isPrefixOf normalized.toList then some .deprecatedFunction
  else all.find? fun kind => Text.asciiLower kind.name == normalized

theorem mem_all (kind : KnownFinding) : kind ∈ all := by
  cases kind <;> decide

end KnownFinding

/-- The guidance for a finding reported under this name. -/
def Guidance.lookup (reported : String) : Option Guidance :=
  (KnownFinding.ofName? reported).map KnownFinding.guidance

end AuditDesk
