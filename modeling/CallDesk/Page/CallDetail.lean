import CallDesk.Page.Parts
import CallDesk.Site

/-! # A single call

The transcript of a call has a state of its own, so that the page is there when the transcript
could not be had.
-/

namespace CallDesk

/-- A call with its transcript. The turns that came with the call are in `transcript`. -/
structure CallDetail where
  call : Call
  transcript : View (List Turn)

namespace Page

open Html

def turnItem (t : Turn) : Html :=
  styled "li" ("turn turn-" ++ t.role.wireName)
    (styled "span" "turn-role" (text t.role.label) ++
      optional t.time (fun time => plain "time" time.clock) ++
      plain "p" t.content)

/-- The turns of a transcript with their number and the number of words. -/
def transcript (turns : List Turn) : Html :=
  if turns.isEmpty then styled "p" "muted" (text "No transcript available for this call.")
  else
    let stats := TranscriptStats.ofTurns turns
    styled "div" "transcript" (newline ++ lines [
      styled "p" "transcript-stats" (text (Text.decimal stats.turnCount ++ " turns, " ++
        Text.decimal stats.wordCount ++ " words")),
      styled "ol" "transcript-turns" (turns.flatMap turnItem)] ++ newline)

/-- A player for a recording, with a link to load it. -/
def player (url : String) : Html :=
  styled "div" "audio-player" (newline ++ lines [
    element "audio" [.flag "controls", .value "preload" "none", .value "src" url]
      (text "Your browser does not support audio playback."),
    element "a" [.value "class" "btn btn-sm", .value "href" url, .flag "download"]
      (text "Download")] ++ newline)

def transcriptState : View (List Turn) → Html
  | .loading => spinner "Loading transcript..."
  | .failed message => banner message none
  | .ready turns => transcript turns

def described (term : String) (description : Html) : Html :=
  plain "dt" term ++ element "dd" [] description

def callFacts (c : Call) : Html :=
  styled "section" "card" (newline ++ lines [
    plain "h2" c.phoneNumber,
    styled "dl" "call-meta" (newline ++ lines [
      described "Status" (callBadge c.status),
      described "Outcome" (text (c.outcome.getD missing)),
      described "Duration" (text (durationText c.duration)),
      described "Date" (text (c.createdAt.secondText ++ " UTC"))] ++ newline)] ++ newline)

def callDetail : View CallDetail → Html
  | .loading => spinner "Loading call..."
  | .failed message => banner message (some ⟨Site.calls, "Back to calls"⟩)
  | .ready detail => lines [
      element "a" [.value "class" "back-link", .value "href" Site.calls]
        (.named "larr" :: text " All calls"),
      callFacts detail.call,
      optional detail.call.summary (fun s => card "Summary" (plain "p" s)) ++
        optional detail.call.recordingUrl (fun url => card "Recording" (player url)),
      card "Transcript" (transcriptState detail.transcript)]

end Page

end CallDesk
