import ControlPlane.Http.Message
import ControlPlane.Program

/-!
# Scripted servers

A server that gives responses one after another, whatever is asked, and remembers the requests. It
finds nothing once its script is over.
-/

namespace ControlPlane.Http

structure Script where
  /-- The responses that are left. -/
  responses : List Response
  /-- The requests, the last first. -/
  sent : List Request := []

namespace Script

/-- The response once the script is over. -/
def finished : Response where
  status := 404
  body := "\x7b\"kind\":\"Status\",\"status\":\"Failure\",\"message\":\"no scripted response\"," ++
    "\"reason\":\"NotFound\",\"code\":404\x7d"

def answer (r : Request) (s : Script) : Response × Script :=
  match s.responses with
  | [] => (finished, { s with sent := r :: s.sent })
  | response :: responses => (response, { responses, sent := r :: s.sent })

/-- The result of requests that a scripted server answers, and the server afterwards. -/
def run {α : Type} (p : Program Request (fun _ => Response) α) (s : Script) : α × Script :=
  p.run answer s

end Script

end ControlPlane.Http
