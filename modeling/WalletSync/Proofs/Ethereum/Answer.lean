import WalletSync.Proofs.Ethereum.Failover

/-!
Which answer a call returns. A node gives a result, or it refuses, or it does neither, and to keep
silent is as little as to fail in any other way. The first result is returned, unless a refusal
comes before it that is not passed on; then that is. When there is none of them the last node has
the word. What a node would say may depend on everything that was called before.
-/

namespace WalletSync.Ethereum

section Answers

variable {α : Type} {url body : String} {answer : Option (Except RpcFailure α)} {passesOn : Bool}

/-- The node turns the call down, by what it says or by the status of its response. -/
def IsRefusal : Option (Except RpcFailure α) → Prop
  | some (.error (.refused _ _)) => True
  | some (.error (.status status _)) => 400 ≤ status ∧ status < 500
  | _ => False

theorem isRejection_ofStatus_iff {status : Nat} :
    isRejection (.ofStatus status body url) = true ↔ 400 ≤ status ∧ status < 500 := by
  unfold NetworkError.ofStatus
  dsimp only
  split
  · next client =>
      rw [Bool.and_eq_true, decide_eq_true_eq, decide_eq_true_eq] at client
      exact iff_of_true rfl client
  · next other =>
      rw [Bool.and_eq_true, decide_eq_true_eq, decide_eq_true_eq] at other
      refine iff_of_false ?_ other
      split <;> exact Bool.false_ne_true

theorem isRejection_classify_iff {failure : RpcFailure} :
    isRejection (classify url failure) = true ↔
      IsRefusal (some (.error failure) : Option (Except RpcFailure α)) := by
  cases failure with
  | refused code message => exact iff_of_true rfl trivial
  | status status body => exact isRejection_ofStatus_iff
  | transport | other => exact iff_of_false Bool.false_ne_true id

/-- A node settles the matter with a result, or with a refusal that is not passed on. -/
theorem settles_readAnswer_iff :
    settles passesOn (readAnswer url answer) = true ↔
      (∃ a, answer = some (.ok a)) ∨ passesOn = false ∧ IsRefusal answer := by
  rcases answer with _ | failure | a
  · simp [readAnswer, settles, isRejection, IsRefusal]
  · simp [readAnswer, settles, isRejection_classify_iff (α := α), and_comm]
  · simp [readAnswer, settles]

end Answers

section Calls

variable (responder : Responder) (servers : Servers) (request : RpcRequest) (made : CallLog)

/-- What a node says to the call when those before it have been called. -/
def answerOf (earlier : List String) (node : String) : Option (Except RpcFailure request.Result) :=
  responder (made ++ callsTo request earlier) node request

/-- The nodes that are called are the first of those that are set up, each one once. All of them but
the last fail, and if refusals are not passed on none of these refuses. The last one gives a result,
or a refusal that is not passed on, or there is no other; what it says is returned. -/
theorem call_returns_deciding_answer (passesOn : Bool) :
    ∃ earlier node later, servers.node :: servers.failovers = earlier ++ node :: later ∧
      (∀ before url rest, earlier = before ++ url :: rest →
        (∀ a, answerOf responder request made before url ≠ some (.ok a)) ∧
        (passesOn = false → ¬IsRefusal (answerOf responder request made before url))) ∧
      ((∃ a, answerOf responder request made earlier node = some (.ok a)) ∨
        (passesOn = false ∧ IsRefusal (answerOf responder request made earlier node)) ∨
        later = []) ∧
      outcome (call (wire responder) servers passesOn request) made =
        (readAnswer node (answerOf responder request made earlier node),
          made ++ callsTo request (earlier ++ [node])) := by
  -- Failing over is about any call, in the state that the calls before it leave; here this state is
  -- what has been called.
  have asked (earlier : List String) (node : String) :
      outcome (callNode (wire responder) servers.timeout request node)
          (afterCalls (callNode (wire responder) servers.timeout request) earlier made) =
        (readAnswer node (answerOf responder request made earlier node),
          made ++ callsTo request (earlier ++ [node])) := by
    rw [afterCalls_wire, outcome_callNode, callsTo_append, List.append_assoc, answerOf]
  obtain ⟨earlier, node, later, split, ends, result⟩ :=
    failover_endsWith (callNode (wire responder) servers.timeout request) passesOn servers.node
      servers.failovers made
  refine ⟨earlier, node, later, split, ?_, ?_, result.trans (asked earlier node)⟩
  · intro before url rest same
    have undecided := ends.undecided before url rest same
    rw [asked, ← Bool.not_eq_true, settles_readAnswer_iff, not_or] at undecided
    exact ⟨fun a answer => undecided.1 ⟨a, answer⟩,
      fun stays refused => undecided.2 ⟨stays, refused⟩⟩
  · have decided := ends.decided
    rw [asked, settles_readAnswer_iff, or_assoc] at decided
    exact decided

end Calls

/-- The first node keeps silent, the second one has too much to do, and the third one gives a
number. -/
def sampleReplies : Responder := fun _ url request =>
  if url = "http://[::1]" then none
  else if url = "http://[::2]" then some (.error (.status 429 "later"))
  else
    match request with
    | .blockNumber => some (.ok (16 : Count))
    | _ => some (.error .transport)

example (passesOn : Bool) :
    (outcome (call (wire sampleReplies) sampleServers passesOn .blockNumber) []).1 =
      if passesOn then .ok (16 : Count)
      else .error (.clientError 429 "API HTTP 429" "http://[::2]") := by
  cases passesOn <;> rfl

end WalletSync.Ethereum
