import WalletSync.Ethereum.Api
import WalletSync.Proofs.Sync.Outcome
import WalletSync.Proofs.Transaction.Digest

/-!
Which nodes a call reaches. They are called in the order of the settings until one settles the
matter, and what this one says is the result. A lost response settles nothing, so a transaction
that is handed in goes to one node after another as long as nothing is heard of it, also when a
node that was called before has it already.

Calls are recorded as they are made. What becomes of one may depend on everything that was called
before, but nothing is called in between by anyone else.
-/

namespace WalletSync.Ethereum

/-- No further node is called after this. -/
def settles {α : Type} (passesOn : Bool) : Except NetworkError α → Bool
  | .ok _ => true
  | .error e => isRejection e && !passesOn

section Turns

variable {σ α : Type} (call : String → ExceptT NetworkError (StateM σ) α)

/-- What is left behind when nodes have been called one after the other. -/
def afterCalls (nodes : List String) (s : σ) : σ :=
  nodes.foldl (fun s url => (outcome (call url) s).2) s

/-- The calls end with this node: none before it settles the matter, and if it does not either,
there are no further ones. -/
structure EndsWith (passesOn : Bool) (s : σ) (earlier : List String) (node : String)
    (later : List String) : Prop where
  undecided : ∀ before url rest, earlier = before ++ url :: rest →
    settles passesOn (outcome (call url) (afterCalls call before s)).1 = false
  decided : settles passesOn (outcome (call node) (afterCalls call earlier s)).1 = true ∨ later = []

variable {call}

theorem outcome_failover_cons (passesOn : Bool) (first second : String) (rest : List String)
    (s : σ) :
    outcome (failover passesOn call first (second :: rest)) s =
      if settles passesOn (outcome (call first) s).1 then outcome (call first) s
      else outcome (failover passesOn call second rest) (outcome (call first) s).2 := by
  rw [failover, outcome, ExceptT.run_mk, StateT.run_bind]
  rcases asked : outcome (call first) s with ⟨result, next⟩
  rw [show (call first).run.run s = (result, next) from asked]
  cases result with
  | ok a => rfl
  | error e =>
      change StateT.run (if isRejection e && !passesOn then pure (.error e)
        else (failover passesOn call second rest).run) next =
        if isRejection e && !passesOn then (.error e, next)
        else outcome (failover passesOn call second rest) next
      split <;> rfl

theorem EndsWith.cons {passesOn : Bool} {first node : String} {earlier later : List String} {s : σ}
    (passed : settles passesOn (outcome (call first) s).1 = false)
    (ends : EndsWith call passesOn (outcome (call first) s).2 earlier node later) :
    EndsWith call passesOn s (first :: earlier) node later where
  undecided before url rest same := by
    cases before with
    | nil =>
        obtain ⟨rfl, -⟩ := List.cons.inj same
        exact passed
    | cons other before =>
        obtain ⟨rfl, others⟩ := List.cons.inj same
        exact ends.undecided before url rest others
  decided := ends.decided

variable (call) in
/-- The result is that of the last node that is called. -/
theorem failover_endsWith (passesOn : Bool) (first : String) (others : List String) (s : σ) :
    ∃ earlier node later, first :: others = earlier ++ node :: later ∧
      EndsWith call passesOn s earlier node later ∧
      outcome (failover passesOn call first others) s =
        outcome (call node) (afterCalls call earlier s) := by
  induction others generalizing first s with
  | nil => exact ⟨[], first, [], rfl, ⟨by simp, .inr rfl⟩, rfl⟩
  | cons second rest ih =>
      rw [outcome_failover_cons]
      cases result : settles passesOn (outcome (call first) s).1 with
      | true => exact ⟨[], first, second :: rest, rfl, ⟨by simp, .inl result⟩, rfl⟩
      | false =>
          obtain ⟨earlier, node, later, split, ends, same⟩ := ih second (outcome (call first) s).2
          exact ⟨first :: earlier, node, later, by rw [split, List.cons_append],
            ends.cons result, same⟩

end Turns

section Wire

/-- Which node was called, and what for. -/
abbrev CallLog := List (String × RpcRequest)

/-- The other side of a wire: what becomes of a call to a node after those that were made before. -/
abbrev Responder :=
  CallLog → String → (request : RpcRequest) → Option (Except RpcFailure request.Result)

/-- A library that records what it calls. -/
def wire (responder : Responder) : NodeLibrary (StateM CallLog) where
  ask url request _ := fun made => (responder made url request, made ++ [(url, request)])
  addressFault := id
  hashFault := id

/-- The calls to nodes one after the other. -/
def callsTo (request : RpcRequest) (nodes : List String) : CallLog := nodes.map (·, request)

/-- What becomes of a call for whoever has made it. -/
def readAnswer {α : Type} (url : String) : Option (Except RpcFailure α) → Except NetworkError α
  | some (.ok a) => .ok a
  | some (.error failure) => .error (classify url failure)
  | none => .error (.down url)

variable {responder : Responder} {timeout : Count} {request : RpcRequest}

theorem outcome_callNode (url : String) (made : CallLog) :
    outcome (callNode (wire responder) timeout request url) made =
      (readAnswer url (responder made url request), made ++ callsTo request [url]) := by
  have asked : StateT.run ((wire responder).ask url request timeout) made =
      (responder made url request, made ++ [(url, request)]) := rfl
  unfold callNode outcome
  rw [ExceptT.run_mk, StateT.run_bind, asked]
  rcases responder made url request with _ | _ | _ <;> rfl

theorem callsTo_append (nodes others : List String) :
    callsTo request (nodes ++ others) = callsTo request nodes ++ callsTo request others :=
  List.map_append

theorem afterCalls_wire (nodes : List String) (made : CallLog) :
    afterCalls (callNode (wire responder) timeout request) nodes made =
      made ++ callsTo request nodes := by
  induction nodes generalizing made with
  | nil => simp [afterCalls, callsTo]
  | cons url nodes ih =>
      rw [afterCalls, List.foldl_cons, outcome_callNode]
      refine (ih _).trans ?_
      rw [List.append_assoc, ← callsTo_append, List.singleton_append]

end Wire

section Submission

variable (client : HttpClient (StateM CallLog)) (responder : Responder) (servers : Servers)

/-- A submission as it is made to one node. -/
def submitTo (raw : List UInt8) : String → ExceptT NetworkError (StateM CallLog) String :=
  callNode (wire responder) servers.timeout (.sendRaw raw)

/-- A transaction is handed in to one node after another until one gives a hash for it or refuses
it, and to all of them if none does. No place in the list is asked twice. -/
theorem submit_goes_on (signed : SignedOperation) (made : CallLog) :
    (∀ e, signatureBytes signed.signature = .error e →
      outcome ((api client (wire responder) servers).submit signed) made = (.error e, made)) ∧
    (∀ raw, signatureBytes signed.signature = .ok raw →
      ∃ earlier node later, servers.node :: servers.failovers = earlier ++ node :: later ∧
        EndsWith (submitTo responder servers raw) false made earlier node later ∧
        outcome ((api client (wire responder) servers).submit signed) made =
          ((outcome (submitTo responder servers raw node)
            (made ++ callsTo (.sendRaw raw) earlier)).1,
          made ++ callsTo (.sendRaw raw) (earlier ++ [node]))) := by
  have submit : (api client (wire responder) servers).submit signed =
      ExceptT.mk (pure (signatureBytes signed.signature)) >>= fun raw =>
        failover false (submitTo responder servers raw) servers.node servers.failovers := rfl
  constructor
  · intro e bad
    rw [submit, bad]
    rfl
  · intro raw hex
    obtain ⟨earlier, node, later, split, ends, result⟩ :=
      failover_endsWith (submitTo responder servers raw) false servers.node servers.failovers made
    refine ⟨earlier, node, later, split, ends, ?_⟩
    rw [submit, hex]
    refine result.trans ?_
    rw [submitTo, afterCalls_wire]
    refine Prod.ext rfl ?_
    rw [outcome_callNode, callsTo_append, List.append_assoc]

end Submission

section Sample

/-- The first response is lost; after that the transaction is refused, as it is known already. -/
def sampleResponder : Responder
  | [], _, _ => none
  | _, _, _ => some (.error (.refused (-32000) "already known"))

def sampleServers : Servers :=
  { node := "http://[::1]", failovers := ["http://[::2]", "http://[::3]"], explorer := ""
    chainId := 1, timeout := 1, gasPriceMultiplier := 1 }

def sampleTransfer : SignedOperation :=
  .bind SignedOperation.sampleBound SignedOperation.samplePayload "c0"

/-- A client to whom nothing ever comes back. -/
def unheard : HttpClient (StateM CallLog) where
  exchange _ _ := pure .lost
  draw most := pure (Fin.last most)
  sleep _ := pure ()
  network := {}
  retries := {}

/-- The second node refuses, so that the third one is not asked, and the wallet is told that the
transaction was refused. -/
theorem submit_goes_on_of_lost :
    outcome ((api unheard (wire sampleResponder) sampleServers).submit sampleTransfer) [] =
      (.error (.clientError 400 "already known (code -32000)" "http://[::2]"),
        callsTo (.sendRaw [0xc0]) ["http://[::1]", "http://[::2]"]) := by
  have hex : signatureBytes "c0" = .ok [0xc0] := by
    have read : (signatureBytes "c0").toOption = some [0xc0] := by decide +kernel
    cases result : signatureBytes "c0" with
    | error e =>
        rw [result] at read
        cases read
    | ok raw =>
        rw [result] at read
        exact congrArg Except.ok (Option.some.inj read)
  obtain ⟨earlier, node, later, split, ends, result⟩ :=
    (submit_goes_on unheard sampleResponder sampleServers sampleTransfer []).2 _ hex
  have lost : settles false (outcome (submitTo sampleResponder sampleServers [0xc0]
      "http://[::1]") []).1 = false := by decide +kernel
  have refused : settles false (outcome (submitTo sampleResponder sampleServers [0xc0]
      "http://[::2]") (callsTo (.sendRaw [0xc0]) ["http://[::1]"])).1 = true := by
    decide +kernel
  cases earlier with
  | nil =>
      obtain ⟨rfl, rfl⟩ := List.cons.inj split
      rcases ends.decided with settled | last
      · exact absurd settled (Bool.eq_false_iff.mp lost)
      · cases last
  | cons first earlier =>
      obtain ⟨rfl, others⟩ := List.cons.inj split
      cases earlier with
      | nil =>
          obtain ⟨rfl, rfl⟩ := List.cons.inj others
          exact result
      | cons second earlier =>
          obtain ⟨rfl, -⟩ := List.cons.inj others
          have passed := ends.undecided ["http://[::1]"] "http://[::2]" earlier rfl
          exact absurd refused (Bool.eq_false_iff.mp passed)

/-- After a lost response the transaction goes to a second node. -/
theorem lost_answer_is_sent_again :
    ¬ ∀ (client : HttpClient (StateM CallLog)) (responder : Responder) (servers : Servers)
        (signed : SignedOperation),
      ∀ call ∈ (outcome ((api client (wire responder) servers).submit signed) []).2,
      ∀ other ∈ (outcome ((api client (wire responder) servers).submit signed) []).2,
        call.1 = other.1 := by
  intro claim
  exact absurd (claim unheard sampleResponder sampleServers sampleTransfer) (by decide +kernel)

end Sample

end WalletSync.Ethereum
