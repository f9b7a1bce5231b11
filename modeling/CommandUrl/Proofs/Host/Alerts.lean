import CommandUrl.Host.Catalogue
import CommandUrl.Proofs.Dialogue.Protocol

/-!
# Alerts

An alert tells the user something and is answered with nothing. With most hosts
it has no effect on what the host answers later, and then two conversations that
differ in their alerts only are the same business: whatever is said in one is
said in the other, and answered in the same way.

Two states of a host are alike if no request but an alert ever tells them apart,
now or later. The states themselves may differ, since a host may well remember
what it has shown.
-/

namespace CommandUrl

variable {σ α : Type}

/-- Requests to tell the user of a failure. -/
def Request.isAlert : Request → Bool
  | alert _ => true
  | _ => false

/-- Any request but an alert. -/
def Discreet (_ : List Exchange) (request : Request) : Prop :=
  request.isAlert = false

namespace Host

/-- The state that a host gets to by answering requests. -/
def after (host : Host σ) (state : σ) (requests : List Request) : σ :=
  requests.foldl (fun state request => (host.answer state request).2) state

/-- No sequence of requests without alerts leads to an answer, or to files, by which the two states
can be told apart. -/
structure Alike (host : Host σ) (left right : σ) : Prop where
  answers : ∀ requests request, (∀ earlier ∈ requests, earlier.isAlert = false) →
    request.isAlert = false →
      (host.answer (host.after left requests) request).1 =
        (host.answer (host.after right requests) request).1
  files : ∀ requests, (∀ earlier ∈ requests, earlier.isAlert = false) →
    host.files (host.after left requests) = host.files (host.after right requests)

/-- What the host answers does not depend on alerts. -/
def AlertsInert (host : Host σ) : Prop :=
  ∀ state failure, host.Alike (host.answer state (.alert failure)).2 state

variable {host : Host σ} {left middle right : σ}

theorem Answers.eq_after {said : List Exchange} (answers : host.Answers left said right) :
    right = host.after left (said.map Exchange.request) := by
  induction answers with
  | nil => rfl
  | cons _ ih => exact ih

theorem Alike.refl (state : σ) : host.Alike state state where
  answers _ _ _ _ := rfl
  files _ _ := rfl

theorem Alike.symm (alike : host.Alike left right) : host.Alike right left where
  answers requests request discreet last := (alike.answers requests request discreet last).symm
  files requests discreet := (alike.files requests discreet).symm

theorem Alike.trans (first : host.Alike left middle) (rest : host.Alike middle right) :
    host.Alike left right where
  answers requests request discreet last :=
    (first.answers requests request discreet last).trans
      (rest.answers requests request discreet last)
  files requests discreet := (first.files requests discreet).trans (rest.files requests discreet)

theorem Alike.answer (alike : host.Alike left right) {request : Request}
    (discreet : request.isAlert = false) :
    (host.answer left request).1 = (host.answer right request).1 ∧
      host.Alike (host.answer left request).2 (host.answer right request).2 := by
  refine ⟨alike.answers [] request (by simp) discreet, ?_, ?_⟩
  · intro requests last earlier
    apply alike.answers (request :: requests) last
    simpa [discreet] using earlier
  · intro requests earlier
    apply alike.files (request :: requests)
    simpa [discreet] using earlier

end Host

/-- A host that goes by a catalogue does not remember alerts. -/
theorem catalogueHost_alertsInert : catalogueHost.AlertsInert :=
  fun state _ => .refl state

namespace Conversation

/-- What a conversation was about: its exchanges without the alerts. -/
def business (conversation : Conversation σ) : List Exchange :=
  conversation.exchanges.filter fun exchange => !exchange.request.isAlert

/-- The two conversations are about the same, and will be as long as the same is asked in both. -/
structure Agree (host : Host σ) (left right : Conversation σ) : Prop where
  alike : host.Alike left.state right.state
  business : left.business = right.business

variable {host : Host σ} {left middle right : Conversation σ}

theorem Agree.symm (agree : Agree host left right) : Agree host right left :=
  ⟨agree.alike.symm, agree.business.symm⟩

theorem Agree.trans (first : Agree host left middle) (rest : Agree host middle right) :
    Agree host left right :=
  ⟨first.alike.trans rest.alike, first.business.trans rest.business⟩

theorem Agree.ask (agree : Agree host left right) {request : Request}
    (discreet : request.isAlert = false) :
    (Dialogue.ask host request left).1 = (Dialogue.ask host request right).1 ∧
      Agree host (Dialogue.ask host request left).2 (Dialogue.ask host request right).2 := by
  rcases agree.alike.answer discreet with ⟨same, alike⟩
  refine ⟨same, alike, ?_⟩
  have shared : left.exchanges.filter (fun exchange => !exchange.request.isAlert) =
      right.exchanges.filter (fun exchange => !exchange.request.isAlert) := agree.business
  simp only [Dialogue.ask, Conversation.business, List.filter_append, shared, same]

end Conversation

/-- A dialogue that asks for no alert comes to the same end in conversations that agree, and they
agree after it. -/
theorem Dialogue.Follows.agree {host : Host σ} {ends : List Exchange → α → Prop}
    {history : List Exchange} {dialogue : Dialogue σ α} {left right : Conversation σ}
    (follows : Dialogue.Follows host Discreet ends history dialogue)
    (agree : Conversation.Agree host left right) :
    (dialogue left).1 = (dialogue right).1 ∧
      Conversation.Agree host (dialogue left).2 (dialogue right).2 := by
  induction follows generalizing left right with
  | pure => exact ⟨rfl, agree⟩
  | @ask history request next discreet _ ih =>
      have spoken (conversation : Conversation σ) :
          (Dialogue.ask host request >>= next) conversation =
            next (Dialogue.ask host request conversation).1
              (Dialogue.ask host request conversation).2 := rfl
      -- the dialogue goes on by the answer, which therefore has to be the same first
      rcases agree.ask discreet with ⟨same, agree⟩
      rw [spoken left, spoken right, ← same]
      exact ih _ agree
  | @log history event next _ _ ih =>
      have agree : Conversation.Agree host (Dialogue.log event left).2
          (Dialogue.log event right).2 := ⟨agree.alike, agree.business⟩
      exact ih agree
  | @files history next _ ih =>
      have looked (conversation : Conversation σ) :
          (Dialogue.files host >>= next) conversation =
            next (host.files conversation.state) conversation := rfl
      have same : host.files left.state = host.files right.state := agree.alike.files [] (by simp)
      rw [looked left, looked right, ← same]
      exact ih _ agree

end CommandUrl
