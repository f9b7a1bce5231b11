import CommandUrl.Host.Conversation

/-!
# Protocols

A dialogue asks, goes on with the answer, and never looks back at what was said
before it began. What it does is therefore told by a protocol: what it may ask
after which history, and with what it may end. `Dialogue.Follows` holds of a
dialogue that keeps to a protocol whatever it is answered. It has one rule for
each thing that a dialogue can do, and no rule mentions an answer of the host,
so a dialogue that follows a protocol does so with every host.

A protocol speaks of histories, and `Dialogue.Follows.said` turns it into a fact
about conversations. Everything that is proved about the exchanges of a verb
comes from a protocol in this way.
-/

namespace CommandUrl

variable {σ α β : Type}

/-- The host gives these answers to these requests, and gets from one state to another by them. -/
inductive Host.Answers (host : Host σ) : σ → List Exchange → σ → Prop where
  | nil {state : σ} : Answers host state [] state
  | cons {state final : σ} {request : Request} {said : List Exchange}
      (rest : Answers host (host.answer state request).2 said final) :
      Answers host state (⟨request, (host.answer state request).1⟩ :: said) final

theorem Host.Answers.eq_of_silent {host : Host σ} {state final : σ}
    (silent : host.Answers state [] final) : final = state := by
  cases silent
  rfl

namespace Host.Answers

variable {host : Host σ} {state middle final : σ} {said more : List Exchange}

theorem append (first : host.Answers state said middle) (rest : host.Answers middle more final) :
    host.Answers state (said ++ more) final := by
  induction first with
  | nil => exact rest
  | cons _ ih => exact .cons (ih rest)

theorem split (answers : host.Answers state (said ++ more) final) :
    ∃ middle, host.Answers state said middle ∧ host.Answers middle more final := by
  induction said generalizing state with
  | nil => exact ⟨state, .nil, answers⟩
  | cons exchange said ih =>
      cases answers with
      | cons rest =>
          rcases ih rest with ⟨middle, first, last⟩
          exact ⟨middle, .cons first, last⟩

theorem answer_eq {exchange : Exchange} (answers : host.Answers state (exchange :: said) final) :
    exchange.answer = (host.answer state exchange.request).1 := by
  cases answers
  rfl

end Host.Answers

namespace Dialogue

/-- The dialogue asks only what `asks` allows after what was said so far, logs nothing that matters
to a user, and ends only where `ends` holds of what was said and of its value. -/
inductive Follows (host : Host σ) (asks : List Exchange → Request → Prop)
    (ends : List Exchange → α → Prop) : List Exchange → Dialogue σ α → Prop where
  | pure {history : List Exchange} {value : α} (ended : ends history value) :
      Follows host asks ends history (pure value)
  | ask {history : List Exchange} {request : Request} {next : request.Answer → Dialogue σ α}
      (asked : asks history request)
      (continued : ∀ answer,
        Follows host asks ends (history ++ [⟨request, answer⟩]) (next answer)) :
      Follows host asks ends history (Dialogue.ask host request >>= next)
  | log {history : List Exchange} {event : Event} {next : Dialogue σ α}
      (quiet : event.level = .debug) (continued : Follows host asks ends history next) :
      Follows host asks ends history (Dialogue.log event >>= fun _ => next)
  | files {history : List Exchange} {next : FileTree → Dialogue σ α}
      (continued : ∀ tree, Follows host asks ends history (next tree)) :
      Follows host asks ends history (Dialogue.files host >>= next)

/-- Everything in `said` was allowed when it was asked, after `history` and what precedes it. -/
def Keeps (asks : List Exchange → Request → Prop) (history said : List Exchange) : Prop :=
  ∀ before exchange after, said = before ++ exchange :: after →
    asks (history ++ before) exchange.request

section Keeps

variable {asks : List Exchange → Request → Prop} {history said : List Exchange}

theorem keeps_nil : Keeps asks history [] := by
  intro before exchange after impossible
  simp at impossible

theorem keeps_cons {exchange : Exchange} (asked : asks history exchange.request)
    (kept : Keeps asks (history ++ [exchange]) said) : Keeps asks history (exchange :: said) := by
  intro before middle after split
  cases before with
  | nil =>
      simp only [List.nil_append, List.cons.injEq] at split
      rcases split with ⟨rfl, _⟩
      simpa using asked
  | cons first before =>
      simp only [List.cons_append, List.cons.injEq] at split
      rcases split with ⟨rfl, rfl⟩
      simpa using kept before middle after rfl

theorem keeps_append {more : List Exchange} (first : Keeps asks history said)
    (rest : Keeps asks (history ++ said) more) : Keeps asks history (said ++ more) := by
  induction said generalizing history with
  | nil => simpa using rest
  | cons exchange said ih =>
      have asked : asks history exchange.request := by
        simpa using first [] exchange said rfl
      refine keeps_cons asked (ih ?_ (by simpa using rest))
      intro before middle after split
      simpa using first (exchange :: before) middle after (by simp [split])

end Keeps

/-- What a dialogue has made of a conversation: it has said what its protocol allows and was
answered by the host, and it has logged nothing that matters to a user. -/
structure Said (host : Host σ) (asks : List Exchange → Request → Prop) (history : List Exchange)
    (before after : Conversation σ) (said : List Exchange) : Prop where
  exchanges : after.exchanges = before.exchanges ++ said
  answered : host.Answers before.state said after.state
  kept : Keeps asks history said
  quiet : ∃ events, after.events = before.events ++ events ∧ ∀ event ∈ events, event.level = .debug

theorem Said.refl {host : Host σ} {asks : List Exchange → Request → Prop}
    {history : List Exchange} (conversation : Conversation σ) :
    Said host asks history conversation conversation [] where
  exchanges := (List.append_nil _).symm
  answered := .nil
  kept := keeps_nil
  quiet := ⟨[], (List.append_nil _).symm, by simp⟩

namespace Follows

variable {host : Host σ} {asks : List Exchange → Request → Prop}
  {ends : List Exchange → α → Prop} {history : List Exchange} {dialogue : Dialogue σ α}

/-- What comes first may end wherever the rest may begin. -/
theorem bind {final : List Exchange → β → Prop} {next : α → Dialogue σ β}
    (first : Follows host asks ends history dialogue)
    (rest : ∀ history value, ends history value → Follows host asks final history (next value)) :
    Follows host asks final history (dialogue >>= next) := by
  induction first with
  | pure ended =>
      rw [pure_bind]
      exact rest _ _ ended
  | ask asked _ ih =>
      rw [bind_assoc]
      exact .ask asked ih
  | log quiet _ ih =>
      rw [bind_assoc]
      exact .log quiet ih
  | files _ ih =>
      rw [bind_assoc]
      exact .files ih

theorem asking (request : Request) {ends : List Exchange → request.Answer → Prop}
    (asked : asks history request)
    (ended : ∀ answer, ends (history ++ [⟨request, answer⟩]) answer) :
    Follows host asks ends history (Dialogue.ask host request) := by
  rw [← bind_pure (Dialogue.ask host request)]
  exact .ask asked fun answer => .pure (ended answer)

theorem mono {allows : List Exchange → Request → Prop} {final : List Exchange → α → Prop}
    (follows : Follows host asks ends history dialogue)
    (weaker : ∀ history request, asks history request → allows history request)
    (enough : ∀ history value, ends history value → final history value) :
    Follows host allows final history dialogue := by
  induction follows with
  | pure ended => exact .pure (enough _ _ ended)
  | ask asked _ ih => exact .ask (weaker _ _ asked) ih
  | log quiet _ ih => exact .log quiet ih
  | files _ ih => exact .files ih

/-- A dialogue that follows a protocol says what the protocol allows and ends as it allows. -/
theorem said (follows : Follows host asks ends history dialogue) (conversation : Conversation σ) :
    ∃ said, Said host asks history conversation (dialogue conversation).2 said ∧
      ends (history ++ said) (dialogue conversation).1 := by
  induction follows generalizing conversation with
  | @pure history value ended =>
      refine ⟨[], .refl conversation, ?_⟩
      rw [List.append_nil]
      exact ended
  | @ask history request next asked _ ih =>
      let answered := Dialogue.ask host request conversation
      rcases ih answered.1 answered.2 with ⟨said, more, ended⟩
      refine ⟨⟨request, answered.1⟩ :: said, ?_, ?_⟩
      · exact {
          exchanges := by
            refine more.exchanges.trans ?_
            simp [answered, Dialogue.ask]
          answered := .cons more.answered
          kept := keeps_cons asked more.kept
          quiet := more.quiet }
      · rw [List.append_assoc] at ended
        exact ended
  | @log history event next quiet _ ih =>
      let logged := Dialogue.log event conversation
      rcases ih logged.2 with ⟨said, more, ended⟩
      rcases more.quiet with ⟨events, grown, rest⟩
      have debugged : ∀ other ∈ event :: events, other.level = .debug := by
        simpa [quiet] using rest
      refine ⟨said, { more with quiet := ⟨event :: events, ?_, debugged⟩ }, ended⟩
      refine grown.trans ?_
      simp [logged, Dialogue.log]
  | files _ ih => exact ih (host.files conversation.state) conversation

end Follows

end Dialogue

end CommandUrl
