import CommandUrl.Event
import CommandUrl.File.Tree
import CommandUrl.Host.Request

/-!
# Conversations with the host

A host is a deterministic machine: from a state and a request it gets to an
answer and a next state. Nothing is assumed of it, so whatever is proved about
the interpreter holds for any application. The files that the interpreter looks
at itself are a function of the state of the host, since what the host does may
change them.

A conversation keeps the state together with everything that was asked and
answered, and with what was logged, both in order.
-/

namespace CommandUrl

/-- An application that answers requests. -/
structure Host (σ : Type) where
  answer : σ → (request : Request) → request.Answer × σ
  files : σ → FileTree

/-- A host in use: its state, and what has happened. -/
structure Conversation (σ : Type) where
  state : σ
  exchanges : List Exchange := []
  events : List Event := []

/-- What talks to a host. -/
abbrev Dialogue (σ : Type) := StateM (Conversation σ)

namespace Dialogue

variable {σ : Type}

/-- Puts a request to the host. -/
def ask (host : Host σ) (request : Request) : Dialogue σ request.Answer :=
  fun conversation =>
    let (answer, state) := host.answer conversation.state request
    (answer, { conversation with
      state, exchanges := conversation.exchanges ++ [⟨request, answer⟩] })

/-- Writes an event to the log. -/
def log (event : Event) : Dialogue σ Unit :=
  fun conversation => ((), { conversation with events := conversation.events ++ [event] })

/-- The files as they are now. -/
def files (host : Host σ) : Dialogue σ FileTree :=
  fun conversation => (host.files conversation.state, conversation)

end Dialogue

end CommandUrl
