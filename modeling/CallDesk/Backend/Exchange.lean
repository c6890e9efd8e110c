import CallDesk.Json.Writer
import CallDesk.Url.Basic

/-! # Exchanges with the backend

What the library does with the backend is a `Dialog`: requests, and what follows from each reply.
A dialog does nothing by itself; it is run against a `Backend`, which may answer what it wants,
may lose a request, and decides which of two requests in flight is answered first.
-/

namespace CallDesk

open Text

/-- The methods of requests to the backend. -/
inductive Verb where
  | get
  | post
deriving DecidableEq

def Verb.name : Verb → String
  | get => "GET"
  | post => "POST"

/-- What a request carries. -/
inductive Payload where
  | none
  | message (v : Json)
  /-- A file of comma-separated values, in a form. -/
  | file (name : String) (contents : Bytes)

namespace Payload

/-- A file name inside quotes: quotes, backslashes and ends of lines follow a backslash. -/
def quotedName (name : String) : String :=
  .ofList (name.toList.flatMap fun c =>
    if c == '"' || c == '\\' || c == '\r' || c == '\n' then ['\\', c] else [c])

/-- The bytes of a payload, with the given boundary between the parts of a form. -/
def bytes (boundary : String) : Payload → Bytes
  | none => []
  | message v => utf8 v.render
  | file name contents =>
    utf8 ("--" ++ boundary ++ "\r\nContent-Disposition: form-data; name=\"file\"; filename=\"" ++
      quotedName name ++ "\"\r\nContent-Type: text/csv\r\n\r\n") ++ contents ++
      utf8 ("\r\n--" ++ boundary ++ "--\r\n")

/-- The type of a payload, with the given boundary between the parts of a form. -/
def contentType? (boundary : String) : Payload → Option String
  | none => Option.none
  | message _ => some "application/json"
  | file _ _ => some ("multipart/form-data; boundary=" ++ boundary)

end Payload

/-- A request to the backend: one call of the client for HTTP, which follows redirects by itself. -/
structure Request where
  verb : Verb
  url : Url
  /-- The values of the headers that tell who asks. -/
  authorization : List String
  payload : Payload

/-- What becomes of a request: what the client for HTTP returns, after the redirects that it has
followed. -/
inductive Reply where
  /-- There was no answer; the text says why. -/
  | lost (detail : String)
  /-- A status and a body; no body when it broke off. -/
  | answer (status : Nat) (body : Option Bytes)

/-- What becomes of two requests in flight, and whether the second one was answered first. -/
structure Race where
  first : Reply
  second : Reply
  secondIsEarlier : Bool

/-- Requests, and what follows from each reply. -/
inductive Dialog (α : Type) where
  /-- No more requests. -/
  | done (a : α)
  /-- A request. -/
  | ask (request : Request) (next : Reply → Dialog α)
  /-- Two requests at the same time. -/
  | both (first second : Request) (next : Race → Dialog α)

namespace Dialog

variable {α β : Type}

def bind (d : Dialog α) (f : α → Dialog β) : Dialog β :=
  match d with
  | done a => f a
  | ask r next => ask r fun reply => (next reply).bind f
  | both r s next => both r s fun race => (next race).bind f

instance : Monad Dialog where
  pure := done
  bind := bind

/-- A dialog whose result is changed at its end. -/
def map (f : α → β) (d : Dialog α) : Dialog β := d.bind fun a => done (f a)

end Dialog

/-- A backend whose state is in `σ`. -/
structure Backend (σ : Type) where
  answer : σ → Request → Reply × σ
  /-- Whether the second of two requests in flight is answered first. -/
  secondIsEarlier : σ → Bool

/-- What a dialog came to. -/
structure Trace (σ α : Type) where
  result : α
  /-- The requests that were made, in order. -/
  requests : List Request
  state : σ

def Dialog.run {σ α : Type} (b : Backend σ) (s : σ) : Dialog α → Trace σ α
  | done a => ⟨a, [], s⟩
  | ask r next =>
    let (reply, s) := b.answer s r
    let t := (next reply).run b s
    { t with requests := r :: t.requests }
  | both r₁ r₂ next =>
    let earlier := b.secondIsEarlier s
    let (reply₁, s) := b.answer s r₁
    let (reply₂, s) := b.answer s r₂
    let t := (next ⟨reply₁, reply₂, earlier⟩).run b s
    { t with requests := r₁ :: r₂ :: t.requests }

end CallDesk
