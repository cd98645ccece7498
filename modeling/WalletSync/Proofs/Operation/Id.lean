import WalletSync.Operation

/-!
Ids of operations. Under one account, an id names a transaction and a direction. The ids of
different accounts do not meet either, as long as no address holds a colon: an id is read from its
front up to the colon behind the address, and from its end up to the hyphen before the direction.
Nothing is asked of the hash, which stands between the two.
-/

namespace WalletSync

/-- The ids of operations. -/
def ids (ops : List Operation) : List String := ops.map (·.id)

@[simp]
theorem ids_nil : ids [] = [] := rfl

@[simp]
theorem ids_cons (op : Operation) (ops : List Operation) : ids (op :: ops) = op.id :: ids ops :=
  rfl

@[simp]
theorem ids_append (ops others : List Operation) : ids (ops ++ others) = ids ops ++ ids others :=
  List.map_append

theorem mem_ids_of_mem {op : Operation} {ops : List Operation} (h : op ∈ ops) : op.id ∈ ids ops :=
  List.mem_map_of_mem h

theorem toList_operationId (accountId hash : String) (direction : Direction) :
    (operationId accountId hash direction).toList =
      accountId.toList ++ '-' :: (hash.toList ++ '-' :: direction.name.toList) := by
  simp only [operationId, toString, String.toList_append, List.append_assoc]
  rfl

/-- The direction can be read off the end of an id, and what stands before it off the hash; a hash
that holds a hyphen does no harm. -/
theorem operationId_inj {accountId hash other : String} {direction back : Direction}
    (h : operationId accountId hash direction = operationId accountId other back) :
    hash = other ∧ direction = back := by
  have chars := congrArg String.toList h
  rw [toList_operationId, toList_operationId] at chars
  have behind := (List.cons.inj (List.append_cancel_left chars)).2
  cases direction <;> cases back
  case incoming.incoming | outgoing.outgoing =>
      exact ⟨String.toList_inj.mp (List.append_cancel_right behind), rfl⟩
  case incoming.outgoing | outgoing.incoming =>
      have ends := congrArg List.getLast? behind
      simp [Direction.name] at ends

section Account

/-- What stands before the first mark, and what stands behind it, can be told from the whole. -/
theorem append_mark_inj {mark : Char} {front other rest more : List Char} (clean : mark ∉ front)
    (alsoClean : mark ∉ other) (same : front ++ mark :: rest = other ++ mark :: more) :
    front = other ∧ rest = more := by
  induction front generalizing other with
  | nil =>
      cases other with
      | nil => exact ⟨rfl, (List.cons.inj same).2⟩
      | cons c other =>
          rw [(List.cons.inj same).1] at alsoClean
          exact absurd List.mem_cons_self alsoClean
  | cons c front ih =>
      cases other with
      | nil =>
          rw [(List.cons.inj same).1] at clean
          exact absurd List.mem_cons_self clean
      | cons d other =>
          obtain ⟨first, same⟩ := List.cons.inj same
          obtain ⟨front_eq, rest_eq⟩ := ih (fun listed => clean (List.mem_cons_of_mem _ listed))
            (fun listed => alsoClean (List.mem_cons_of_mem _ listed)) same
          exact ⟨by rw [first, front_eq], rest_eq⟩

theorem toList_accountId (family : Family) (address : String) :
    (accountId family address).toList =
      "js:2:".toList ++ (family.name.toList ++ ':' :: (address.toList ++ [':'])) := by
  simp only [accountId, toString, String.toList_append, List.append_assoc]
  rfl

theorem Family.name_inj {family other : Family} (same : family.name = other.name) :
    family = other := by
  have read := family.ofName?_name
  rw [same, other.ofName?_name] at read
  exact (Option.some.inj read).symm

/-- An account id ends where the text behind it begins. -/
theorem accountId_append_inj {family other : Family} {address another : String}
    {rest more : List Char} (plain : ':' ∉ address.toList) (alsoPlain : ':' ∉ another.toList)
    (same : (accountId family address).toList ++ rest =
      (accountId other another).toList ++ more) :
    family = other ∧ address = another ∧ rest = more := by
  simp only [toList_accountId, List.append_assoc, List.cons_append, List.nil_append,
    List.append_cancel_left_eq] at same
  have simple (family : Family) : ':' ∉ family.name.toList := by
    cases family <;> decide
  obtain ⟨names, same⟩ := append_mark_inj (simple family) (simple other) same
  obtain ⟨addresses, behind⟩ := append_mark_inj plain alsoPlain same
  exact ⟨Family.name_inj (String.toList_inj.mp names), String.toList_inj.mp addresses, behind⟩

end Account

/-- Operations of accounts whose addresses hold no colon have the same id only if they are of the
same account, the same transaction and the same direction. Of one account they have it only if
they are of the same transaction and direction, whatever the id of the account is. -/
theorem ids_tell_operations_apart :
    (∀ (family other : Family) (address another hash anotherHash : String)
        (direction back : Direction), ':' ∉ address.toList → ':' ∉ another.toList →
      (operationId (accountId family address) hash direction =
          operationId (accountId other another) anotherHash back ↔
        family = other ∧ address = another ∧ hash = anotherHash ∧ direction = back)) ∧
      ∀ (accountId hash anotherHash : String) (direction back : Direction),
        operationId accountId hash direction = operationId accountId anotherHash back ↔
          hash = anotherHash ∧ direction = back := by
  refine ⟨?_, ?_⟩
  · intro family other address another hash anotherHash direction back plain alsoPlain
    constructor
    · intro same
      have chars := congrArg String.toList same
      rw [toList_operationId, toList_operationId] at chars
      obtain ⟨rfl, rfl, -⟩ := accountId_append_inj plain alsoPlain chars
      exact ⟨rfl, rfl, operationId_inj same⟩
    · rintro ⟨rfl, rfl, rfl, rfl⟩
      rfl
  · intro accountId hash anotherHash direction back
    constructor
    · exact operationId_inj
    · rintro ⟨rfl, rfl⟩
      rfl

/-- A hash may look like the end of another account's id. -/
theorem ids_tell_operations_apart_of_odd_hash :
    operationId (accountId .elrond "a") "-b:-h" .incoming ≠
        operationId (accountId .elrond "a-b") "h" .incoming ∧
      operationId "a" "h-IN" .outgoing ≠ operationId "a" "h" .incoming := by
  obtain ⟨across, within⟩ := ids_tell_operations_apart
  refine ⟨fun same => ?_, fun same => ?_⟩
  · have parts := (across .elrond .elrond "a" "a-b" "-b:-h" "h" .incoming .incoming
      (by decide) (by decide)).mp same
    exact absurd parts.2.1 (by decide)
  · exact absurd ((within _ _ _ _ _).mp same).2 (by decide)

/-- With a colon, an address can end where a hash might begin. -/
example : operationId (accountId .elrond "a:-b") "h" .outgoing =
    operationId (accountId .elrond "a") "b:-h" .outgoing := by decide

end WalletSync
