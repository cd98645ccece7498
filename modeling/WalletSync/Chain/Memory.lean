import WalletSync.Chain.Api

/-!
A chain that is held in memory. It knows the balances and transactions that it was told, accepts
every operation that is handed in, and can be made to fail.
-/

namespace WalletSync

structure MemoryChain where
  /-- Balance and next sequence number by address; the first entry of an address counts. -/
  accounts : List (String × Amount × Count) := []
  blockHeight : Count := 0
  networkConfig : Option NetworkConfig := none
  /-- All transactions in the order in which they were added. -/
  history : List ChainEntry := []
  /-- What has been handed in, the first one first. -/
  submitted : List SignedOperation := []
  /-- Blocks by hash of the transaction; the first entry of a hash counts. -/
  confirmed : List (String × Confirmation) := []
  /-- Calls that fail; the first entry of a call counts. -/
  failures : List (ChainCall × NetworkError) := []
  /-- What is handed in is put into the next block at once. -/
  confirmsInline : Bool := false

def Confirmation.ofHeight (height : Count) : Confirmation :=
  ⟨height, s!"block{Text.decimal height.val}"⟩

namespace MemoryChain

def setAccount (chain : MemoryChain) (address : String) (balance : Amount) (nonce : Count) :
    MemoryChain :=
  { chain with accounts := (address, balance, nonce) :: chain.accounts }

def setBlockHeight (chain : MemoryChain) (height : Count) : MemoryChain :=
  { chain with blockHeight := height }

def addEntry (chain : MemoryChain) (entry : ChainEntry) : MemoryChain :=
  { chain with history := chain.history ++ [entry] }

def confirmEntry (confirmation : Confirmation) (entry : ChainEntry) : ChainEntry :=
  { entry with
    blockHeight := some confirmation.blockHeight
    blockHash := some confirmation.blockHash
    status := .success }

def confirm (chain : MemoryChain) (hash : String) (height : Count) : MemoryChain :=
  let confirmation := Confirmation.ofHeight height
  { chain with
    history := chain.history.map fun entry =>
      if entry.hash = hash then confirmEntry confirmation entry else entry
    confirmed := (hash, confirmation) :: chain.confirmed }

def setConfirmsInline (chain : MemoryChain) (enabled : Bool) : MemoryChain :=
  { chain with confirmsInline := enabled }

def fail (chain : MemoryChain) (call : ChainCall) (error : NetworkError) : MemoryChain :=
  { chain with failures := (call, error) :: chain.failures }

def clearFailures (chain : MemoryChain) : MemoryChain := { chain with failures := [] }

/-- Balance and next sequence number of an address, both zero when it is not known. -/
def account (chain : MemoryChain) (address : String) : Amount × Count :=
  (chain.accounts.lookup address).getD (0, 0)

/-- The transactions of an address from a moment on, the latest first. -/
def entriesOf (chain : MemoryChain) (address : String) (since : Option Moment) :
    List ChainEntry :=
  (chain.history.filter fun entry =>
      entry.involves address && since.all fun since => decide (since ≤ entry.timestamp)).mergeSort
    fun a b => b.timestamp ≤ a.timestamp

def noNetworkConfig : NetworkError := .invalidResponse "memory://network/config" .noNetworkConfig

/-- There is a height for the next block, or no use for one. -/
def hasRoom (chain : MemoryChain) : Bool := !chain.confirmsInline || chain.blockHeight < Word.top

/-- Accepts an operation and gives it a hash. There has to be room for it. -/
def accept (chain : MemoryChain) (signed : SignedOperation) : String × MemoryChain :=
  let submitted := chain.submitted ++ [signed]
  let hash := s!"hash{Text.decimal submitted.length}"
  let confirmed :=
    if chain.confirmsInline then
      (hash, Confirmation.ofHeight chain.blockHeight.succSat) :: chain.confirmed
    else chain.confirmed
  (hash, { chain with submitted := submitted, confirmed := confirmed })

def answer {α : Type} (call : ChainCall) (f : MemoryChain → Except NetworkError α) :
    ExceptT NetworkError (StateM MemoryChain) α :=
  ExceptT.mk fun chain =>
    match chain.failures.lookup call with
    | some error => (.error error, chain)
    | none => (f chain, chain)

def submit (signed : SignedOperation) : ExceptT NetworkError (StateM MemoryChain) String :=
  ExceptT.mk fun chain =>
    match chain.failures.lookup .submit with
    | some error => (.error error, chain)
    | none =>
      if chain.hasRoom then
        let (hash, chain) := chain.accept signed
        (.ok hash, chain)
      else (.error .overflow, chain)

def api : ChainApi (StateM MemoryChain) where
  balance address := answer .balance fun chain => .ok (chain.account address).1
  sequence address := answer .sequence fun chain => .ok (chain.account address).2
  blockHeight := answer .blockHeight fun chain => .ok chain.blockHeight
  networkConfig := answer .networkConfig fun chain =>
    match chain.networkConfig with
    | some config => .ok config
    | none => .error noNetworkConfig
  history address since := answer .history fun chain => .ok (chain.entriesOf address since)
  submit := submit
  confirmation hash := answer .confirmation fun chain => .ok (chain.confirmed.lookup hash)

end MemoryChain

end WalletSync
