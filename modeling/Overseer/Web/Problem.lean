import Overseer.Catalog.Basic
import Overseer.Json.Printer

/-!
# Problems

What a client is told when a request cannot be served: a status code and a message.

A client that asks for something while a run is active is told that there is a conflict, one that
asks for what is not there that it was not found, and one whose request makes no sense that it is a
bad one.
-/

namespace Overseer.Web

/-- A request that cannot be served. -/
structure Problem where
  status : Nat
  message : String
deriving DecidableEq

namespace Problem

/-- The problem with starting a run.  That another one is active is a conflict and no failure of the
server. -/
def ofStart (e : StartError) : Problem :=
  ⟨match e with
    | .busy _ | .starting => 409
    | .notStarted .. => 500, e.message⟩

/-- The problem with a script or with backups. -/
def ofCatalog (e : Catalog.CatalogError) : Problem :=
  match e with
  | .unknownScript _ | .missing _ => ⟨404, e.message⟩
  | .notRunnable _ | .invalidBackupKind _ => ⟨400, e.message⟩
  | .preflight .. => ⟨422, e.message⟩
  | .supervisor e => ofStart e
  | .io _ => ⟨500, e.message⟩

/-- The problem with an answer. -/
def ofAnswer (e : AnswerError) : Problem :=
  ⟨match e with
    | .invalid _ => 400
    | .noPrompt | .alreadyAnswered => 409
    | .unwritten _ => 500, e.message⟩

/-- The body of the response. -/
def body (p : Problem) : String :=
  (Json.object [("message", .string p.message), ("status", .string "error")]).render

end Problem

end Overseer.Web
