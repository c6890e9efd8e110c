import CallDesk.Json.Record

/-! # Usage counters

The counters of the overview page.
-/

namespace CallDesk

/-- Counters of a customer's calls. -/
structure Summary where
  totalCalls : UInt64 := 0
  answeredCalls : UInt64 := 0
  failedCalls : UInt64 := 0
  activeCampaigns : UInt64 := 0
  minutesUsed : Double := ⟨0⟩
  minutesRemaining : Double := ⟨0⟩
deriving DecidableEq

namespace Summary

def fieldNames : List String :=
  ["total_calls", "answered_calls", "failed_calls", "active_campaigns", "minutes_used",
    "minutes_remaining"]

def ofJson? (v : Json) : Option Summary := do
  let fs ← v.fields? fieldNames
  let totalCalls ← fs.orElse "total_calls" 0 Json.uint64?
  let answeredCalls ← fs.orElse "answered_calls" 0 Json.uint64?
  let failedCalls ← fs.orElse "failed_calls" 0 Json.uint64?
  let activeCampaigns ← fs.orElse "active_campaigns" 0 Json.uint64?
  let minutesUsed ← fs.orElse "minutes_used" ⟨0⟩ Json.double?
  let minutesRemaining ← fs.orElse "minutes_remaining" ⟨0⟩ Json.double?
  return { totalCalls, answeredCalls, failedCalls, activeCampaigns, minutesUsed,
           minutesRemaining }

/-- The percentage of calls that were answered, zero when there were none. -/
def answerRate (s : Summary) : Double :=
  if s.totalCalls = 0 then ⟨0⟩
  else
    ((Double.ofNat s.answeredCalls.toNat).div (.ofNat s.totalCalls.toNat)).mul (.ofNat 100)

end Summary

end CallDesk
