import Mathlib.Algebra.Group.Nat.Defs
import Mathlib.Logic.Relation
import WalletSync.Proofs.Payment.Preparation

/-!
Fees in force are never stale. A transaction keeps its quote while it is changed, and the quote says
what it was made for; so changes may lead away from that and back again, and fees are in force
exactly when a new estimate under the same terms would give them once more.

What the network asks for since then does not count, as nobody has asked it. Fees that are set by
hand have no terms, and are left out here.
-/

namespace WalletSync

namespace Transaction

variable {family : Family} {config : NetworkConfig} {tx base : Transaction}

/-- Gas depends on nothing of a transaction but what a quote is made for. -/
theorem gasLimit_of_basis (family : Family) (config : NetworkConfig)
    (same : base.basis = tx.basis) :
    family.gasLimit config base = family.gasLimit config tx := by
  have length : dataLength base.data = dataLength tx.data := congrArg FeeBasis.dataLength same
  rw [Family.gasLimit, Family.gasLimit, length]

/-- What a change does to the fees themselves does not matter. -/
theorem isPrepared_update_iff (inForce : tx.isPrepared = true) (patch : Patch) :
    (tx.update patch).isPrepared = true ↔ (tx.update patch).recipient = tx.recipient ∧
      (tx.update patch).mode = tx.mode ∧
      dataLength (tx.update patch).data = dataLength tx.data := by
  obtain ⟨fees, quote, known, quoted, same⟩ := isPrepared_iff.mp inForce
  have set : ∃ fees, (tx.update patch).fees = some fees := by
    rw [update, known]
    cases patch.fees <;> exact ⟨_, rfl⟩
  have kept : (tx.update patch).isPrepared = true ↔ (tx.update patch).basis = tx.basis := by
    rw [isPrepared_iff, ← same]
    constructor
    · rintro ⟨-, other, -, held, made⟩
      obtain rfl := Option.some.inj (held.symm.trans quoted)
      exact made.symm
    · intro made
      obtain ⟨given, set⟩ := set
      exact ⟨given, quote, set, quoted, made.symm⟩
  rw [kept, basis, basis, FeeBasis.mk.injEq]

/-- The transaction has the fees of an estimate that was made for `base`. -/
structure IsPricedAs (tx base : Transaction) (family : Family) (config : NetworkConfig) : Prop where
  fees : tx.fees = some (family.estimateFees config base)
  quote : tx.feeQuote = some (base.quoteUnder family config)

/-- If the fees are in force, an estimate for the transaction itself gives them as well. -/
theorem IsPricedAs.estimated_eq (priced : tx.IsPricedAs base family config)
    (inForce : tx.isPrepared = true) : tx.estimated family config = tx := by
  have same : base.basis = tx.basis := by
    obtain ⟨-, quote, -, quoted, made⟩ := isPrepared_iff.mp inForce
    obtain rfl := Option.some.inj (quoted.symm.trans priced.quote)
    exact made
  have gas := gasLimit_of_basis family config same
  have fees : some (family.estimateFees config tx) = tx.fees := by
    rw [priced.fees, Family.estimateFees, Family.estimateFees, gas]
  have quote : some (tx.quoteUnder family config) = tx.feeQuote := by
    rw [priced.quote, quoteUnder, quoteUnder, gas, same]
  rw [estimated, fees, quote]

/-- The fees of a transaction are what the terms make of it as it is: gas by its price, and the
same that preparing it without fees and quote brings, on any chain with these terms. -/
structure IsUpToDate (tx : Transaction) (family : Family) (config : NetworkConfig) : Prop where
  priced : ∃ fees quote, tx.fees = some fees ∧ tx.feeQuote = some quote ∧
    fees.val = min (2 ^ 256 - 1) (quote.gasLimit.val * quote.gasPrice.val) ∧
    quote.gasLimit = family.gasLimit config tx
  renewed : ∀ {σ : Type} (fresh : Bridge (StateM σ)) (account : Account) (s t : σ),
    fresh.family = family → outcome fresh.api.networkConfig s = (.ok config, t) →
    ∃ result, outcome (fresh.prepare account (tx.repriced none none)) s = (.ok result, t) ∧
      ∀ {m : Type → Type} [Monad m] (bridge : Bridge m), bridge.family = family →
        bridge.prepare account tx = pure result

theorem IsUpToDate.of_estimated_eq (same : tx.family = family)
    (estimated : tx.estimated family config = tx) : tx.IsUpToDate family config where
  priced := by
    refine ⟨family.estimateFees config tx, tx.quoteUnder family config, ?_, ?_, ?_, rfl⟩
    · exact (congrArg Transaction.fees estimated).symm
    · exact (congrArg Transaction.feeQuote estimated).symm
    · rw [Family.estimateFees, Word.val_clamp, Nat.one_shiftLeft, Nat.min_comm]
      rfl
  renewed fresh account s t shared answered := by
    have bare : (tx.repriced none none).isPrepared = false := rfl
    have inForce : tx.isPrepared = true := by
      rw [← estimated]
      exact isPrepared_estimated ..
    refine ⟨tx.withAllOf account, ?_, fun bridge joined => ?_⟩
    · -- The estimate does not look at the fees that are there, so it makes no difference that they
      -- have been taken away.
      refine Bridge.prepare_ok_iff.mpr ⟨same.trans shared.symm, .inr ⟨bare, config, answered, ?_⟩⟩
      rw [shared]
      exact congrArg (withAllOf · account) estimated.symm
    · exact Bridge.prepare_of_isPrepared account (same.trans joined.symm) inForce

end Transaction

/-- A transaction that is being filled in, and the terms under which its fees were estimated
last. -/
structure Drafting where
  tx : Transaction
  terms : Option NetworkConfig := none

namespace Drafting

variable {family : Family} {w next : Drafting}

/-- The terms that count after a preparation: those that the chain states, if it is asked. -/
def termsAfter {σ : Type} (w : Drafting) (bridge : Bridge (StateM σ)) (s : σ) :
    Option NetworkConfig :=
  if w.tx.isPrepared then w.terms else (outcome bridge.api.networkConfig s).1.toOption

/-- A change that leaves fees alone, or a preparation that succeeds, on any chain. -/
inductive Step (family : Family) : Drafting → Drafting → Prop
  | update (w : Drafting) (patch : Patch) :
      patch.fees = none → Step family w { w with tx := w.tx.update patch }
  | prepare (w : Drafting) {σ : Type} {bridge : Bridge (StateM σ)} {account : Account} {s t : σ}
      {result : Transaction} :
      bridge.family = family → outcome (bridge.prepare account w.tx) s = (.ok result, t) →
      Step family w ⟨result, w.termsAfter bridge s⟩

/-- Fees and quote come from one estimate, under the terms that are noted. -/
structure Sound (family : Family) (w : Drafting) : Prop where
  own : w.tx.family = family
  priced : w.tx.feeQuote = none ∨
    ∃ config base, w.terms = some config ∧ w.tx.IsPricedAs base family config

namespace Sound

theorem start (family : Family) : Sound family { tx := .draft family } := ⟨rfl, .inl rfl⟩

theorem update (h : Sound family w) {patch : Patch} (free : patch.fees = none) :
    Sound family { w with tx := w.tx.update patch } where
  own := h.own
  priced := by
    refine h.priced.imp id ?_
    rintro ⟨config, base, terms, priced⟩
    refine ⟨config, base, terms, ?_, priced.quote⟩
    rw [Transaction.update, free, Option.none_or]
    exact priced.fees

/-- The amount has no part in it. -/
theorem withAllOf (h : Sound family w) (account : Account) :
    Sound family { w with tx := w.tx.withAllOf account } := by
  obtain ⟨amount, sent, -⟩ := w.tx.exists_withAllOf_eq account
  rw [sent]
  refine ⟨h.own, h.priced.imp id ?_⟩
  rintro ⟨config, base, terms, priced⟩
  exact ⟨config, base, terms, priced.fees, priced.quote⟩

theorem prepare (h : Sound family w) {σ : Type} {bridge : Bridge (StateM σ)} {account : Account}
    {s t : σ} {result : Transaction} (same : bridge.family = family)
    (done : outcome (bridge.prepare account w.tx) s = (.ok result, t)) :
    Sound family ⟨result, w.termsAfter bridge s⟩ := by
  subst same
  obtain ⟨-, ⟨inForce, rfl, -⟩ | ⟨stale, config, answered, rfl⟩⟩ := Bridge.prepare_ok_iff.mp done
  · rw [termsAfter, inForce]
    exact h.withAllOf account
  · have terms : w.termsAfter bridge s = some config := by
      rw [termsAfter, stale, answered]
      rfl
    have priced : Sound bridge.family ⟨w.tx.estimated bridge.family config, some config⟩ :=
      ⟨h.own, .inr ⟨config, w.tx, rfl, rfl, rfl⟩⟩
    rw [terms]
    exact priced.withAllOf account

theorem step (h : Sound family w) (step : Step family w next) : Sound family next := by
  cases step with
  | update patch free => exact h.update free
  | prepare same done => exact h.prepare same done

theorem of_run (run : Relation.ReflTransGen (Step family) { tx := .draft family } w) :
    Sound family w := by
  induction run with
  | refl => exact start family
  | tail _ last ih => exact ih.step last

end Sound

/-- However a transaction is changed and prepared, fees that are in force are up to date under the
terms that were stated last. Fees stay in force under a change exactly when it leaves the recipient,
the mode and the length of data as they are. -/
theorem fees_are_never_stale (family : Family) :
    (∀ w, Relation.ReflTransGen (Step family) { tx := .draft family } w →
      w.tx.isPrepared = true →
      ∃ config, w.terms = some config ∧ w.tx.IsUpToDate family config) ∧
    ∀ (tx : Transaction) (patch : Patch), tx.isPrepared = true →
      ((tx.update patch).isPrepared = true ↔ (tx.update patch).recipient = tx.recipient ∧
        (tx.update patch).mode = tx.mode ∧
        dataLength (tx.update patch).data = dataLength tx.data) := by
  constructor
  · intro w run inForce
    have sound := Sound.of_run run
    rcases sound.priced with bare | ⟨config, base, terms, priced⟩
    · obtain ⟨-, quote, -, quoted, -⟩ := Transaction.isPrepared_iff.mp inForce
      cases bare.symm.trans quoted
    · exact ⟨config, terms, .of_estimated_eq sound.own (priced.estimated_eq inForce)⟩
  · intro tx patch inForce
    exact Transaction.isPrepared_update_iff inForce patch

section Sample

/-- Terms under which everything costs more than can be written. -/
def dearTerms : NetworkConfig := ⟨"1", Word.top, 50, 18⟩

def memoTransaction : Transaction :=
  { Transaction.draft .elrond with recipient := "you", data := some "memo" }

/-- The transaction with other data, prepared when the data was as long as the memo. -/
def dearTransaction (data : Option String) : Transaction :=
  { memoTransaction with
    data := data, fees := some Word.top
    feeQuote := some ⟨"1", Word.top, 6050, ⟨"you", .send, 4⟩⟩ }

/-- Data is taken away and other data of the same length put in its place; by then the network asks
for less, and is not asked. -/
theorem run_dearTransaction :
    Relation.ReflTransGen (Step .elrond) { tx := .draft .elrond }
      ⟨dearTransaction (some "note"), some dearTerms⟩ := by
  have first : outcome ((MemoryChain.bridge .elrond ⟨1, 1⟩).prepare Bridge.poorAccount
      memoTransaction) (Bridge.termsChain dearTerms) = (.ok (dearTransaction (some "memo")), _) :=
    Bridge.prepare_ok_iff.mpr ⟨rfl, .inr ⟨rfl, dearTerms, rfl, by decide +kernel⟩⟩
  have second : outcome ((MemoryChain.bridge .elrond ⟨1, 1⟩).prepare Bridge.poorAccount
      (dearTransaction (some "note"))) (Bridge.termsChain ⟨"1", 2, 50, 18⟩) = (.ok _, _) :=
    Bridge.prepare_ok_iff.mpr ⟨rfl, .inl ⟨by decide +kernel, rfl, rfl⟩⟩
  have priced := Step.prepare ⟨memoTransaction, none⟩ rfl first
  have kept := Step.prepare ⟨dearTransaction (some "note"), some dearTerms⟩ rfl second
  exact .head (.update _ { recipient := some "you", data := some (some "memo") } rfl) <|
    .head priced <| .head (.update _ { data := some none } rfl) <|
    .head (.update _ { data := some (some "note") } rfl) <| .single kept

theorem fees_are_never_stale_of_note :
    (dearTransaction (some "note")).IsUpToDate .elrond dearTerms ∧
      (dearTransaction (some "note")).fees = some Word.top ∧
      ((dearTransaction (some "memo")).update { data := some none }).isPrepared = false := by
  obtain ⟨upToDate, changed⟩ := fees_are_never_stale .elrond
  obtain ⟨config, stated, now⟩ := upToDate _ run_dearTransaction (by decide +kernel)
  obtain rfl := Option.some.inj stated
  refine ⟨now, rfl, Bool.eq_false_iff.mpr fun inForce => ?_⟩
  have same := ((changed (dearTransaction (some "memo")) { data := some none }
    (by decide +kernel)).mp inForce).2.2
  revert same
  decide +kernel

end Sample

end Drafting

end WalletSync
