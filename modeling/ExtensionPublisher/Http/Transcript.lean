import ExtensionPublisher.Http.Exchange

/-!
# Transcripts

What happened to requests so far, in order, is a network of its own: it lets a program be run
again up to the first request to which nothing has happened yet. That request is called off at
once, so the run ends there, and the transcript tells what was wanted. Once something has
happened to it, the run can be taken one request further.
-/
namespace ExtensionPublisher.Http

/-- What happened to requests, and the first request behind them. A network can be
rehearsed with one. -/
structure Transcript where
  encounters : List Encounter
  wanted? : Option Sent := none
  deriving DecidableEq, Repr

namespace Transcript

/-- The network in which happens what a transcript tells. Behind the last encounter
requests are only written down. -/
def network : Network Transcript := fun sent transcript =>
  match transcript.encounters with
  | encounter :: rest => (encounter, { transcript with encounters := rest })
  | [] =>
    ({ reaction := .closed, calledOff := true },
      { transcript with wanted? := transcript.wanted? <|> some sent })

end Transcript

end ExtensionPublisher.Http
