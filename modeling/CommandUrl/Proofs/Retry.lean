import CommandUrl.Proofs.Acceptance
import CommandUrl.Proofs.Address.Escaped

/-!
# The second attempt

Text that is no address is escaped and read again. What that can change is how a
refusal is worded, and nothing else, as long as there is no number sign in the
text: where the second attempt finds a verb the first one has found it already.
To say so, reading an address is made a parameter of the interpreter, and the
interpreter that reads only once is compared with the one that there is.
-/

namespace CommandUrl

variable {σ : Type}

theorem Verb.plainWord_of_parse? {word : String} {verb : Verb} (named : parse? word = some verb) :
    Address.PlainWord word.toList := by
  unfold parse? at named
  split at named
  · next settings =>
      subst settings
      exact ⟨by decide, List.all_eq_true.mp rfl⟩
  · rw [← name_of_ofName? named]
    cases verb <;> exact ⟨by decide, List.all_eq_true.mp rfl⟩

namespace Command

/-- Reads an address as it stands. -/
def addressOnce (raw : String) : Except Failure Address :=
  match Address.parse raw.toList with
  | .ok address => .ok address
  | .error .noScheme => .error (.missingScheme raw)
  | .error .malformed => .error (.malformedUrl raw)

/-- The command that an address is, if it has the scheme `expected` and a host. -/
def ofAddress (raw expected : String) (address : Address) : Except Failure Command := do
  let scheme := String.ofList address.scheme
  if scheme != expected then
    throw (.wrongScheme scheme)
  match address.host with
  | none => throw (.missingCommand raw)
  | some host =>
    pure { scheme, word := String.ofList host, parameters := Query.parameters address.query }

variable {raw expected : String} {located : Address} {problem : Address.Problem}

theorem parse_eq_bind (raw expected : String) :
    parse raw expected = address raw >>= ofAddress raw expected := rfl

theorem ofAddress_eq_ok {command : Command}
    (made : ofAddress raw expected located = .ok command) :
    String.ofList located.scheme = expected ∧ located.host = some command.word.toList := by
  unfold ofAddress at made
  simp only [bind, Except.bind] at made
  split at made
  · cases made
  · next passed =>
      have same : String.ofList located.scheme = expected := by
        by_contra different
        simp [different] at passed
      refine ⟨same, ?_⟩
      split at made
      · cases made
      · next host hosted =>
          cases made
          rw [hosted, String.toList_ofList]

theorem address_of_ok (read : Address.parse raw.toList = .ok located) :
    address raw = .ok located := by
  unfold address
  rw [read]

theorem parse_of_ok (read : Address.parse raw.toList = .ok located) :
    parse raw expected = ofAddress raw expected located := by
  rw [parse_eq_bind, address_of_ok read]
  rfl

theorem addressOnce_of_ok (read : Address.parse raw.toList = .ok located) :
    addressOnce raw = .ok located := by
  unfold addressOnce
  rw [read]

theorem addressOnce_of_error (unread : Address.parse raw.toList = .error problem) :
    ∃ failure, addressOnce raw = .error failure := by
  unfold addressOnce
  rw [unread]
  cases problem with
  | noScheme => exact ⟨_, rfl⟩
  | malformed => exact ⟨_, rfl⟩

theorem escaped_of_address (unread : Address.parse raw.toList = .error problem)
    (read : address raw = .ok located) :
    Address.parse (Percent.encode escapedOnRetry raw.toList) = .ok located := by
  unfold address at read
  rw [unread] at read
  dsimp only at read
  split at read
  · next again =>
      cases read
      exact again
  · cases read
  · cases read

end Command

namespace Interpreter

variable {settings : Settings} {raw : String}

/-- The verb and the parameters that a raw text asks for, where addresses are read in a given
way. -/
def requestBy (read : String → Except Failure Address) (settings : Settings) (raw : String) :
    Except Failure (Verb × List Parameter) := do
  let address ← read raw
  let command ← Command.ofAddress raw settings.urlScheme address
  match Verb.parse? command.word with
  | some verb => pure (verb, command.parameters)
  | none => throw (.unknownCommand command.word)

theorem request_eq_requestBy (settings : Settings) (raw : String) :
    request settings raw = requestBy Command.address settings raw := by
  unfold request requestBy
  rw [Command.parse_eq_bind]
  exact bind_assoc _ _ _

theorem requestBy_of_error {read : String → Except Failure Address} {failure : Failure}
    (unread : read raw = .error failure) : requestBy read settings raw = .error failure := by
  unfold requestBy
  rw [unread]
  rfl

/-- A text that cannot be read as it stands asks for nothing. -/
theorem request_of_unreadable {problem : Address.Problem}
    (ordinary : Address.SchemeKind.of settings.urlScheme.toList = .ordinary)
    (noHash : '#' ∉ raw.toList) (unread : Address.parse raw.toList = .error problem) :
    ∃ failure, request settings raw = .error failure := by
  rcases request_cases settings raw with
    ⟨failure, refused, _⟩ | ⟨command, verb, _, read, named⟩
  · exact ⟨failure, refused⟩
  · rw [Command.parse_eq_bind] at read
    cases located : Command.address raw with
    | error failure =>
        rw [located] at read
        cases read
    | ok address =>
        rw [located] at read
        rcases Command.ofAddress_eq_ok read with ⟨scheme, hosted⟩
        have escaped := Command.escaped_of_address unread located
        have schemed : Address.SchemeKind.of address.scheme = .ordinary := by
          rw [← scheme, String.toList_ofList] at ordinary
          exact ordinary
        rcases Address.parse_of_escaped noHash (Verb.plainWord_of_parse? named) escaped schemed
          hosted with ⟨query, direct⟩
        rw [unread] at direct
        cases direct

theorem request_eq_ok_iff (ordinary : Address.SchemeKind.of settings.urlScheme.toList = .ordinary)
    (noHash : '#' ∉ raw.toList) (asked : Verb × List Parameter) :
    request settings raw = .ok asked ↔
      requestBy Command.addressOnce settings raw = .ok asked := by
  cases read : Address.parse raw.toList with
  | ok address =>
      rw [request_eq_requestBy]
      unfold requestBy
      rw [Command.address_of_ok read, Command.addressOnce_of_ok read]
  | error problem =>
      rcases request_of_unreadable ordinary noHash read with ⟨failure, refused⟩
      rcases Command.addressOnce_of_error read with ⟨other, unread⟩
      rw [refused, requestBy_of_error unread]
      simp

/-- Without a number sign in it, a text that cannot be read as it stands is refused, and the host
hears of it only as an alert. So reading a text again never leads to a verb, and what is accepted is
what would be accepted, with the same verb and parameters, if every text were read once. -/
theorem act_runs_nothing_by_escaping (host : Host σ) (settings : Settings) (raw : String)
    (conversation : Conversation σ)
    (ordinary : Address.SchemeKind.of settings.urlScheme.toList = .ordinary)
    (noHash : '#' ∉ raw.toList) :
    let outcome := (act host settings raw conversation).1
    let after := (act host settings raw conversation).2
    (∀ problem, Address.parse raw.toList = .error problem →
      outcome.accepted = false ∧ outcome.verb = none ∧
        ∃ failure, outcome.entries = [.failure failure] ∧
          after.exchanges = conversation.exchanges ++
            if settings.alertOnError then [⟨.alert failure, ()⟩] else []) ∧
    (outcome.accepted = true ↔
      ∃ asked, requestBy Command.addressOnce settings raw = .ok asked) ∧
    ∀ asked, request settings raw = .ok asked ↔
      requestBy Command.addressOnce settings raw = .ok asked := by
  intro outcome after
  have same := request_eq_ok_iff ordinary noHash
  refine ⟨?_, ?_, same⟩
  · intro problem unread
    rcases request_of_unreadable ordinary noHash unread with ⟨failure, refused⟩
    have acted : act host settings raw conversation = _ := act_of_refused refused conversation
    have refusal : outcome = { accepted := false, verb := none, entries := [.failure failure] } :=
      congrArg Prod.fst acted
    have told : after = _ := congrArg Prod.snd acted
    rw [refusal, told]
    exact ⟨rfl, rfl, failure, rfl, Report.fail_exchanges host failure _ conversation⟩
  · simp only [← same]
    cases asked : request settings raw with
    | error failure =>
        have refusal : outcome = _ := congrArg Prod.fst (act_of_refused asked conversation)
        simp [refusal]
    | ok asked' =>
        have acceptance : outcome = _ := act_of_accepted asked conversation
        simp [acceptance]

/-- A blank in the place of the verb is in the way at first, and is not when it is escaped. -/
theorem act_refuses_blank_in_word :
    let raw := "notenik://op en?id=1"
    let conversation : Conversation CatalogueState :=
      { state :=
          { catalogue := {}, preferences := {}, lastSelected := none, tree := .ofWorking [] } }
    Address.parse raw.toList = .error .malformed ∧
      Command.address raw = .ok
        { scheme := "notenik".toList, host := some "op%20en".toList, query := "id=1".toList } ∧
      (act catalogueHost {} raw conversation).1.accepted = false := by
  intro raw conversation
  have unread : Address.parse "notenik://op en?id=1".toList = .error .malformed := rfl
  have read : Command.address "notenik://op en?id=1" = .ok
      { scheme := "notenik".toList, host := some "op%20en".toList, query := "id=1".toList } := rfl
  have refused := act_runs_nothing_by_escaping catalogueHost {} raw conversation rfl (by decide)
  exact ⟨unread, read, (refused.1 .malformed unread).1⟩

end Interpreter

end CommandUrl
