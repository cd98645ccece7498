import WalletSync.Account.Basic
import WalletSync.Chain.Entry
import WalletSync.Transaction.Basic

/-!
What a transaction costs in each family, and what is said about an account beside its balance.
-/

namespace WalletSync.Family

def gasPerByte : Family → Count
  | .elrond => 1500
  | .ethereum => 16

def leastGas : Family → Count
  | .elrond => 0
  | .ethereum => 21000

def gasLimit (family : Family) (config : NetworkConfig) (tx : Transaction) : Count :=
  (max config.gasLimit family.leastGas).addSat (family.gasPerByte.mulSat (dataLength tx.data))

/-- Gas times its price, or the largest amount when that is out of range. -/
def estimateFees (family : Family) (config : NetworkConfig) (tx : Transaction) : Amount :=
  Word.clamp ((family.gasLimit config tx).val * config.gasPrice.val)

/-- What is shown for an account: what may be spent, and its sequence number, which one family
leaves out at zero and for accounts of other families. -/
def specifics (family : Family) (account : Account) : String :=
  let spendable := s!" {account.spendable.text} spendable."
  let nonce := s!"{spendable}\nnonce : {Text.decimal account.remoteSequence.val}"
  match family with
  | .elrond =>
    if account.resources.family = .elrond && 0 < account.remoteSequence then nonce else spendable
  | .ethereum => nonce

end WalletSync.Family
